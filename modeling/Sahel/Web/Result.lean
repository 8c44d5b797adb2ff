import Sahel.Web.SearchParams

/-!
# The result of an action, handed over in the URL

`lib/admin/result.ts`: a Server Action that created, saved or deleted a record redirects with
`?done=&name=`; the dialog of `components/admin/action-result-modal.tsx` reads the two, shows them and
takes them out of the address.  A delete from a list comes back to it by the query that
`listQuery` of `lib/admin/filter.ts` made of its search and filters.

* `pathOf` and `paramsOf` are the parts of an address that the page sees;
* `showResult` is one run of the dialog's effect.
-/

set_option autoImplicit false

namespace Sahel

namespace Web

/-! ### Addresses -/

/-- The path of an address: up to its query or its fragment. -/
def pathOf (url : String) : String :=
  String.ofList (url.toList.takeWhile (fun c => c != '?' && c != '#'))

/-- The query of an address, with its question mark. -/
def queryTextOf (url : String) : String :=
  String.ofList ((url.toList.takeWhile (fun c => c != '#')).dropWhile (fun c => c != '?'))

/-- `useSearchParams()`. -/
def paramsOf (url : String) : SearchParams := urlSearchParams (queryTextOf url)

/-- The `searchParams` of a page: several values of a key make a list. -/
def rawOf (q : SearchParams) : Raw := fun key =>
  match (q.filter (fun p => p.1 == key)).map Prod.snd with
  | [] => none
  | [v] => some (.one v)
  | vs => some (.many vs)

/-- `q.get(key)`: the first value. -/
def get (q : SearchParams) (key : String) : Option String :=
  (q.find? (fun p => p.1 == key)).map Prod.snd

/-- `q.delete(key)`. -/
def delete (q : SearchParams) (key : String) : SearchParams := q.filter (fun p => p.1 != key)

/-! ### The handshake -/

inductive ResultKind
  | created
  | saved
  | deleted
  deriving DecidableEq

def ResultKind.text : ResultKind → String
  | .created => "created"
  | .saved => "saved"
  | .deleted => "deleted"

def resultKinds : List ResultKind := [.created, .saved, .deleted]

structure ActionResult where
  kind : ResultKind
  name : String
  deriving DecidableEq

def withResult (path : String) (kind : ResultKind) (name : String) : String :=
  path ++ (if path.toList.contains '?' then "&" else "?") ++
    FormUrlencoded.serialize [("done", kind.text), ("name", name)]

def readResult (q : SearchParams) : Option ActionResult := do
  let done ← get q "done"
  let kind ← resultKinds.find? (fun k => k.text == done)
  return ⟨kind, (get q "name").getD ""⟩

/-- The query string with the handshake removed. -/
def withoutResult (q : SearchParams) : String :=
  let query := FormUrlencoded.serialize (delete (delete q "done") "name")
  if query = "" then "" else "?" ++ query

/-- A return query handed over by the client: only a query string survives. -/
def safeReturnQuery (query : String) : String :=
  if query.toList.head? = some '?' then withoutResult (urlSearchParams query) else ""

/-- What the dialog does with what it has found: what it shows, and the address from then on. -/
def showFound (url : String) : Option ActionResult → Option ActionResult × String
  | none => (none, url)
  | some r => (some r, pathOf url ++ withoutResult (paramsOf url))

/-- The dialog's effect at an address. -/
def showResult (url : String) : Option ActionResult × String := showFound url (readResult (paramsOf url))

/-! ### The list's query -/

/-- One turn of the loop in `listQuery`. -/
def setListed (raw : Raw) (q : SearchParams) (key : String) : SearchParams :=
  let value := first (raw key)
  if value ≠ "" ∧ key ≠ "done" ∧ key ≠ "name" then set q key value else q

/-- The list's current query, of the keys it has. -/
def listQuery (raw : Raw) (keys : List String) : String :=
  let s := FormUrlencoded.serialize (keys.foldl (setListed raw) [])
  if s = "" then "" else "?" ++ s

example : withResult "/ar/dashboard/units" .deleted "Villa 4BR"
      = "/ar/dashboard/units?done=deleted&name=Villa+4BR" ∧
    withResult "/x?q=a" .saved "ب" = "/x?q=a&done=saved&name=%D8%A8" ∧
    safeReturnQuery "?q=a&done=saved&name=x" = "?q=a" ∧ safeReturnQuery "//evil.example/x" = "" := by
  decide +kernel

end Web

end Sahel
