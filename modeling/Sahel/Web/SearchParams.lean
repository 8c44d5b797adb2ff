import Sahel.Library.FormUrlencoded
import Sahel.Web.Numbers

/-!
# The public search filters, as they live in the URL

`lib/public/search-params.ts`: the filters that a raw query is read as, and the query string that
filters are written as.

* `parseSearchParams` keeps known values and drops the rest;
* `filtersToQuery` leaves out empties and the first page;
* `queryOf` is the raw query of a query string.

A JavaScript text is a list of characters here, since the values are well-formed.
-/

set_option autoImplicit false

namespace Sahel

namespace Web

def unitTypes : List String := ["chalet", "villa", "twin", "town", "penthouse", "studio", "apartment"]

def unitViews : List String := ["sea", "lagoon", "pool", "garden", "street"]

def sorts : List String := ["created_desc", "sea_distance_asc", "bedrooms_desc"]

structure Filters where
  area : String
  compound : String
  type : String
  view : String
  guests : ℕ
  bedrooms : ℕ
  maxSeaDistance : ℕ
  sort : String
  page : ℕ
  deriving DecidableEq

/-- `string | string[]`. -/
inductive RawValue
  | one (v : String)
  | many (vs : List String)

/-- A raw query: the value of a key, if it is there. -/
abbrev Raw : Type := String → Option RawValue

def first : Option RawValue → String
  | some (.one v) => trim v
  | some (.many vs) => (vs.head?.map trim).getD ""
  | none => ""

def oneOf (v : String) (allowed : List String) : String := if allowed.contains v then v else ""

/-- `positive(v) || 1`. -/
def pageOf (v : String) : ℕ := if positive v = 0 then 1 else positive v

def parseSearchParams (raw : Raw) : Filters where
  area := first (raw "area")
  compound := first (raw "compound")
  type := oneOf (first (raw "type")) unitTypes
  view := oneOf (first (raw "view")) unitViews
  guests := positive (first (raw "guests"))
  bedrooms := positive (first (raw "bedrooms"))
  maxSeaDistance := positive (first (raw "maxSeaDistance"))
  sort := oneOf (first (raw "sort")) sorts
  page := pageOf (first (raw "page"))

/-! ### The query string -/

/-- The names and values of a `URLSearchParams`. -/
abbrev SearchParams : Type := List (String × String)

/-- The value of the first entry of a key, without the others of it. -/
def setFirst (key value : String) : SearchParams → SearchParams
  | [] => []
  | p :: q => if p.1 = key then (key, value) :: q.filter (fun r => r.1 != key) else p :: setFirst key value q

/-- `q.set(key, value)`. -/
def set (q : SearchParams) (key value : String) : SearchParams :=
  if q.any (fun p => p.1 == key) then setFirst key value q else q ++ [(key, value)]

/-- `String(v)`, of a text that is not empty. -/
def textShown (v : String) : Option String := if v = "" then none else some v

/-- `String(v)`, of a number that is not zero. -/
def numberShown (v : ℕ) : Option String := if v = 0 then none else some (numberText v)

/-- The keys that are written, with their values. -/
def shown (f : Filters) : List (String × Option String) :=
  [("area", textShown f.area), ("compound", textShown f.compound), ("type", textShown f.type),
    ("view", textShown f.view), ("guests", numberShown f.guests), ("bedrooms", numberShown f.bedrooms),
    ("maxSeaDistance", numberShown f.maxSeaDistance), ("sort", textShown f.sort)]

/-- One turn of the loop. -/
def setShown (q : SearchParams) (e : String × Option String) : SearchParams := e.2.elim q (set q e.1)

/-- The query string for these filters; page 1 is implied. -/
def filtersToQuery (f : Filters) (page : ℕ) : String :=
  let q := (shown f).foldl setShown []
  FormUrlencoded.serialize (if 1 < page then set q "page" (numberText page) else q)

/-- `new URLSearchParams(text)`. -/
def urlSearchParams (text : String) : SearchParams :=
  FormUrlencoded.parse (if text.toList.head? = some '?' then String.ofList text.toList.tail else text)

/-- `Object.fromEntries(q)`: the last value of a key. -/
def fromEntries (q : SearchParams) : Raw := fun key =>
  (q.reverse.find? (fun p => p.1 == key)).map (fun p => .one p.2)

def queryOf (text : String) : Raw := fromEntries (urlSearchParams text)

/-- `{ area: "gouna", guests: "6", sort: "sea_distance_asc", page: "1" }`. -/
def gouna : Raw :=
  fromEntries [("area", "gouna"), ("guests", "6"), ("sort", "sea_distance_asc"), ("page", "1")]

example : filtersToQuery (parseSearchParams gouna) 1 = "area=gouna&guests=6&sort=sea_distance_asc" ∧
    parseSearchParams (queryOf (filtersToQuery (parseSearchParams gouna) 4))
      = { parseSearchParams gouna with page := 4 } := by decide +kernel

end Web

end Sahel
