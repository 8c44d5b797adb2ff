import Sahel.Safety.SearchLinks
import Sahel.Web.Result

/-!
# The result of an action is shown once

The redirect of an action appends what it did to an address that may have a query of its own, and the
page reads both back.  All of it rests on one form of address: a path, and the text of a list of pairs.

* `queryText` is that text; `pathOf_address`, `paramsOf_address` take an address apart;
* `safeReturnQuery_eq`, `withResult_eq`: what the functions make is of that form;
* **`result_shown_once`**: the dialog shows what was done, takes only that out of the address, and shows
  nothing the next time; a delete from a list comes back to the list's own search and filters.
-/

set_option autoImplicit false

namespace Sahel

namespace Web

/-! ### Addresses -/

/-- The text of a query: nothing for no pairs. -/
def queryText (q : SearchParams) : String := if q = [] then "" else "?" ++ FormUrlencoded.serialize q

/-- A path that neither query nor fragment follows. -/
def PlainPath (base : String) : Prop := ∀ c ∈ base.toList, c ≠ '?' ∧ c ≠ '#'

theorem queryText_nil : queryText [] = "" := rfl

theorem queryText_cons {q : SearchParams} (h : q ≠ []) :
    queryText q = "?" ++ FormUrlencoded.serialize q := if_neg h

theorem toList_queryText_cons {q : SearchParams} (h : q ≠ []) :
    (queryText q).toList = '?' :: (FormUrlencoded.serialize q).toList := by
  rw [queryText_cons h, String.toList_append]
  rfl

theorem not_hash_queryText (q : SearchParams) : ∀ c ∈ (queryText q).toList, (c != '#') = true := by
  intro c hc
  rw [bne_iff_ne]
  rintro rfl
  by_cases hq : q = []
  · rw [hq, queryText_nil] at hc
    cases hc
  · rw [toList_queryText_cons hq] at hc
    rcases List.mem_cons.mp hc with hc | hc
    · exact absurd hc (by decide)
    · exact FormUrlencoded.not_mem_serialize q (Or.inr rfl) hc

variable {base : String}

/-- **The path of an address.** -/
theorem pathOf_address (hbase : PlainPath base) (q : SearchParams) :
    pathOf (base ++ queryText q) = base := by
  have hplain : ∀ c ∈ base.toList, (c != '?' && c != '#') = true := by
    intro c hc
    obtain ⟨hquery, hhash⟩ := hbase c hc
    simp [hquery, hhash]
  rw [pathOf, String.toList_append, List.takeWhile_append_of_pos hplain]
  have hrest : (queryText q).toList.takeWhile (fun c => c != '?' && c != '#') = [] := by
    by_cases hq : q = []
    · rw [hq, queryText_nil]
      rfl
    · rw [toList_queryText_cons hq]
      rfl
  rw [hrest, List.append_nil, String.ofList_toList]

/-- **The pairs of an address.** -/
theorem paramsOf_address (hbase : PlainPath base) (q : SearchParams) :
    paramsOf (base ++ queryText q) = q := by
  have hhash : ∀ c ∈ (base ++ queryText q).toList, (c != '#') = true := by
    intro c hc
    rw [String.toList_append] at hc
    rcases List.mem_append.mp hc with hc | hc
    · exact bne_iff_ne.mpr (hbase c hc).2
    · exact not_hash_queryText q c hc
  have hpath : ∀ c ∈ base.toList, (c != '?') = true := fun c hc => bne_iff_ne.mpr (hbase c hc).1
  rw [paramsOf, queryTextOf, List.takeWhile_eq_self_iff.mpr hhash, String.toList_append,
    List.dropWhile_append_of_pos hpath]
  by_cases hq : q = []
  · rw [hq, queryText_nil]
    decide
  · rw [toList_queryText_cons hq, List.dropWhile_cons_of_neg (by decide), urlSearchParams,
      String.toList_ofList, List.head?_cons, if_pos rfl, List.tail_cons, String.ofList_toList,
      FormUrlencoded.parse_serialize]

/-! ### What the functions make -/

/-- The pairs that are not the handshake. -/
def others (q : SearchParams) : SearchParams := delete (delete q "done") "name"

theorem mem_others {q : SearchParams} {p : String × String} :
    p ∈ others q ↔ p ∈ q ∧ p.1 ≠ "done" ∧ p.1 ≠ "name" := by
  simp only [others, delete, List.mem_filter, bne_iff_ne]
  exact and_assoc

theorem others_append (q r : SearchParams) : others (q ++ r) = others q ++ others r := by
  simp [others, delete]

theorem others_others (q : SearchParams) : others (others q) = others q := by
  have hself : ∀ r : SearchParams, (∀ p ∈ r, p.1 ≠ "done" ∧ p.1 ≠ "name") → others r = r := by
    intro r hr
    rw [others, delete, delete, List.filter_filter, List.filter_eq_self]
    intro p hp
    simp [hr p hp]
  exact hself _ (fun p hp => (mem_others.mp hp).2)

theorem serialize_eq_empty_iff {q : SearchParams} : FormUrlencoded.serialize q = "" ↔ q = [] := by
  constructor
  · intro h
    by_contra hq
    exact FormUrlencoded.serialize_ne_empty hq h
  · rintro rfl
    rfl

theorem withoutResult_eq (q : SearchParams) : withoutResult q = queryText (others q) := by
  simp only [withoutResult, queryText, serialize_eq_empty_iff]
  rfl

/-- The pairs of a return query: none if it is no query string. -/
def returned (query : String) : SearchParams :=
  if query.toList.head? = some '?' then others (urlSearchParams query) else []

theorem safeReturnQuery_eq (query : String) : safeReturnQuery query = queryText (returned query) := by
  rw [safeReturnQuery, returned]
  split_ifs
  · exact withoutResult_eq _
  · rfl

theorem returned_others (query : String) : others (returned query) = returned query := by
  rw [returned]
  split_ifs
  · exact others_others _
  · rfl

theorem urlSearchParams_queryText (q : SearchParams) : urlSearchParams (queryText q) = q := by
  have hbase : PlainPath "" := fun c hc => by cases hc
  have hparams := paramsOf_address hbase q
  rw [String.empty_append, paramsOf, queryTextOf, List.takeWhile_eq_self_iff.mpr (not_hash_queryText q)] at hparams
  by_cases hq : q = []
  · rw [hq]
    decide
  · rw [toList_queryText_cons hq, List.dropWhile_cons_of_neg (by decide), ← toList_queryText_cons hq,
      String.ofList_toList] at hparams
    exact hparams

/-- The text of a query is a return query. -/
theorem returned_queryText (q : SearchParams) : returned (queryText q) = others q := by
  by_cases hq : q = []
  · rw [hq]
    rfl
  · have hhead : (queryText q).toList.head? = some '?' := by
      rw [toList_queryText_cons hq, List.head?_cons]
    rw [returned, if_pos hhead, urlSearchParams_queryText]

/-- The pairs of a handshake. -/
def handshake (kind : ResultKind) (name : String) : SearchParams := [("done", kind.text), ("name", name)]

/-- **The redirect** puts the handshake behind the query that is there. -/
theorem withResult_eq (hbase : PlainPath base) (q : SearchParams) (kind : ResultKind) (name : String) :
    withResult (base ++ queryText q) kind name = base ++ queryText (q ++ handshake kind name) := by
  have hhandshake : handshake kind name ≠ [] := List.cons_ne_nil _ _
  rw [withResult, queryText_cons (show q ++ handshake kind name ≠ [] by simp [hhandshake])]
  by_cases hq : q = []
  · have hnone : (base ++ queryText q).toList.contains '?' = false := by
      rw [hq, queryText_nil, String.append_empty]
      by_contra hmem
      rw [Bool.not_eq_false, List.contains_iff_mem] at hmem
      exact (hbase '?' hmem).1 rfl
    rw [hnone, hq, queryText_nil, String.append_empty, List.nil_append, String.append_assoc]
    rfl
  · have hsome : (base ++ queryText q).toList.contains '?' = true := by
      rw [List.contains_iff_mem, String.toList_append, toList_queryText_cons hq]
      simp
    rw [hsome, if_pos rfl, FormUrlencoded.serialize_append hq hhandshake, queryText_cons hq]
    simp only [String.append_assoc]
    rfl

/-- The dialog reads the handshake of an address whose other pairs are no handshake. -/
theorem readResult_handshake {q : SearchParams} (hq : others q = q) (kind : ResultKind) (name : String) :
    readResult (q ++ handshake kind name) = some ⟨kind, name⟩ := by
  have hskip : ∀ key, key = "done" ∨ key = "name" →
      get (q ++ handshake kind name) key = get (handshake kind name) key := by
    intro key hkey
    have hnone : q.find? (fun p => p.1 == key) = none := by
      rw [List.find?_eq_none]
      intro p hp hsame
      rw [← hq, mem_others] at hp
      rw [beq_iff_eq] at hsame
      rcases hkey with rfl | rfl
      · exact hp.2.1 hsame
      · exact hp.2.2 hsame
    rw [get, List.find?_append, hnone, Option.none_or]
    rfl
  rw [readResult, hskip "done" (Or.inl rfl), hskip "name" (Or.inr rfl)]
  cases kind <;> rfl

theorem readResult_others {q : SearchParams} (hq : others q = q) : readResult q = none := by
  have hnone : q.find? (fun p => p.1 == "done") = none := by
    rw [List.find?_eq_none]
    intro p hp hsame
    rw [← hq, mem_others] at hp
    exact hp.2.1 (beq_iff_eq.mp hsame)
  rw [readResult, get, hnone]
  rfl

theorem showResult_some {url : String} {r : ActionResult} (h : readResult (paramsOf url) = some r) :
    showResult url = (some r, pathOf url ++ withoutResult (paramsOf url)) := by
  rw [showResult, h, showFound]

theorem showResult_none {url : String} (h : readResult (paramsOf url) = none) :
    showResult url = (none, url) := by
  rw [showResult, h, showFound]

/-! ### The list's query -/

/-- What is written for a key. -/
def listed (raw : Raw) (key : String) : Option String :=
  if key = "done" ∨ key = "name" then none else textShown (first (raw key))

theorem setListed_eq (raw : Raw) (q : SearchParams) (key : String) :
    setListed raw q key = setShown q (key, listed raw key) := by
  simp only [setListed, setShown, listed, textShown]
  by_cases hkey : key = "done" ∨ key = "name"
  · rw [if_pos hkey, if_neg]
    · rfl
    · rintro ⟨-, hdone, hname⟩
      exact hkey.elim hdone hname
  · rw [if_neg hkey]
    rw [not_or] at hkey
    by_cases hvalue : first (raw key) = ""
    · rw [if_neg (fun h => h.1 hvalue), if_pos hvalue]
      rfl
    · rw [if_pos ⟨hvalue, hkey⟩, if_neg hvalue]
      rfl

/-- The keys with what is written for them. -/
def listing (raw : Raw) (keys : List String) : List (String × Option String) :=
  keys.map (fun key => (key, listed raw key))

theorem listing_keys (raw : Raw) (keys : List String) : (listing raw keys).map Prod.fst = keys := by
  rw [listing, List.map_map]
  exact List.map_id _

theorem listQuery_eq (raw : Raw) {keys : List String} (hnodup : keys.Nodup) :
    listQuery raw keys = queryText (entries (listing raw keys)) := by
  have hloop : keys.foldl (setListed raw) [] = entries (listing raw keys) := by
    have hshown := foldl_setShown (listing raw keys) [] (by rwa [listing_keys])
      (fun _ _ p hp => by cases hp)
    rw [List.nil_append, listing, List.foldl_map] at hshown
    rw [listing, ← hshown]
    exact congrArg (fun f => keys.foldl f []) (funext fun q => funext fun key => setListed_eq raw q key)
  simp only [listQuery, hloop, queryText, serialize_eq_empty_iff]

theorem others_listing (raw : Raw) (keys : List String) :
    others (entries (listing raw keys)) = entries (listing raw keys) := by
  rw [others, delete, delete, List.filter_filter, List.filter_eq_self]
  intro p hp
  obtain ⟨key, -, hkey⟩ := List.mem_map.mp (mem_entries.mp hp)
  obtain ⟨rfl, hvalue⟩ := Prod.mk.inj hkey
  rw [listed] at hvalue
  split_ifs at hvalue with hsame
  rw [not_or] at hsame
  simp [hsame]

/-- Among entries of different keys, each is alone. -/
theorem rawOf_entries {l : List (String × Option String)} (hnodup : (l.map Prod.fst).Nodup)
    {key : String} {value : Option String} (h : (key, value) ∈ l) :
    rawOf (entries l) key = value.map .one := by
  have hfilter : (entries l).filter (fun p => p.1 == key) = (value.map (fun v => (key, v))).toList := by
    induction l with
    | nil => cases h
    | cons e l ih =>
      obtain ⟨hkey, hrest⟩ := List.nodup_cons.mp hnodup
      have hcons : entries (e :: l) = (e.2.map (fun v => (e.1, v))).toList ++ entries l := by
        obtain ⟨k, v⟩ := e
        cases v <;> rfl
      rw [hcons, List.filter_append]
      rcases List.mem_cons.mp h with rfl | hmem
      · have hnone : (entries l).filter (fun p => p.1 == key) = [] := by
          rw [List.filter_eq_nil_iff]
          intro p hp hsame
          rw [beq_iff_eq] at hsame
          have hfst := List.mem_map_of_mem (f := Prod.fst) (mem_entries.mp hp)
          exact hkey (hsame ▸ hfst)
        rw [hnone, List.append_nil]
        cases value <;> simp
      · have hne : e.1 ≠ key := fun heq => hkey (heq ▸ List.mem_map_of_mem hmem)
        have hnone : ((e.2.map (fun v => (e.1, v))).toList).filter (fun p => p.1 == key) = [] := by
          cases e.2 <;> simp [hne]
        rw [hnone, List.nil_append, ih hrest hmem]
  rw [rawOf, hfilter]
  cases value <;> rfl

/-- What is no key has no value. -/
theorem rawOf_none {q : SearchParams} {key : String} (h : ∀ p ∈ q, p.1 ≠ key) : rawOf q key = none := by
  have hnone : q.filter (fun p => p.1 == key) = [] := by
    rw [List.filter_eq_nil_iff]
    intro p hp hsame
    exact h p hp (beq_iff_eq.mp hsame)
  rw [rawOf, hnone]
  rfl

/-- **The list's query says what the list was shown with.** -/
theorem first_listing (raw : Raw) {keys : List String} (hnodup : keys.Nodup)
    (hkeys : ∀ key, raw key ≠ none → key ∈ keys) {key : String} (hdone : key ≠ "done")
    (hname : key ≠ "name") : first (rawOf (entries (listing raw keys)) key) = first (raw key) := by
  by_cases hmem : key ∈ keys
  · have hentry : (key, listed raw key) ∈ listing raw keys := List.mem_map_of_mem hmem
    rw [rawOf_entries (by rwa [listing_keys]) hentry, listed, if_neg (by simp [hdone, hname])]
    exact first_textShown (trim_first _)
  · have hraw : raw key = none := by
      by_contra hsome
      exact hmem (hkeys key hsome)
    rw [hraw, rawOf_none]
    intro p hp hsame
    have hkey := List.mem_map_of_mem (f := Prod.fst) (mem_entries.mp hp)
    rw [listing_keys] at hkey
    exact hmem (hsame ▸ hkey)

/-! ### The whole way -/

/-- **A result is shown once, and nothing else is lost.**  Whatever was done to a record of any name,
from a list with any return query: the address redirected to has the path it was made of; the dialog
there shows exactly what was done and to which name, and leaves the address the action came from, where
it shows nothing.  If the return query is the list's own, that address has the list's search and
filters. -/
theorem result_shown_once {base : String} (hbase : PlainPath base) (back : String) (kind : ResultKind)
    (name : String) :
    pathOf (withResult (base ++ safeReturnQuery back) kind name) = base ∧
    showResult (withResult (base ++ safeReturnQuery back) kind name)
      = (some ⟨kind, name⟩, base ++ safeReturnQuery back) ∧
    showResult (base ++ safeReturnQuery back) = (none, base ++ safeReturnQuery back) ∧
    safeReturnQuery (safeReturnQuery back) = safeReturnQuery back ∧
    ∀ (raw : Raw) (keys : List String), keys.Nodup → (∀ key, raw key ≠ none → key ∈ keys) →
      back = listQuery raw keys → ∀ key, key ≠ "done" → key ≠ "name" →
        first (rawOf (paramsOf (base ++ safeReturnQuery back)) key) = first (raw key) := by
  have hreturned := returned_others back
  have hrest : others (returned back ++ handshake kind name) = returned back := by
    rw [others_append, hreturned]
    exact List.append_nil _
  rw [safeReturnQuery_eq, withResult_eq hbase]
  refine ⟨pathOf_address hbase _, ?_, ?_, ?_, ?_⟩
  · have hparams := paramsOf_address hbase (returned back ++ handshake kind name)
    have hfound : readResult (paramsOf (base ++ queryText (returned back ++ handshake kind name)))
        = some ⟨kind, name⟩ := by
      rw [hparams, readResult_handshake hreturned]
    rw [showResult_some hfound, hparams, pathOf_address hbase, withoutResult_eq, hrest]
  · refine showResult_none ?_
    rw [paramsOf_address hbase, readResult_others hreturned]
  · rw [safeReturnQuery_eq, returned_queryText, hreturned]
  · intro raw keys hnodup hkeys hback key hdone hname
    have hsame : returned back = entries (listing raw keys) := by
      rw [hback, listQuery_eq raw hnodup, returned_queryText, others_listing]
    rw [paramsOf_address hbase, hsame]
    exact first_listing raw hnodup hkeys hdone hname

/-- The units that match a search. -/
def seaDrafts : Raw := rawOf [("q", "sea"), ("status", "draft")]

/-- A villa is deleted from them. -/
theorem result_shown_once_villa :
    showResult (withResult ("/ar/dashboard/units" ++ safeReturnQuery (listQuery seaDrafts ["q", "status"]))
        .deleted "Villa 4BR")
      = (some ⟨.deleted, "Villa 4BR"⟩,
        "/ar/dashboard/units" ++ safeReturnQuery (listQuery seaDrafts ["q", "status"])) ∧
    first (rawOf (paramsOf ("/ar/dashboard/units" ++ safeReturnQuery (listQuery seaDrafts ["q", "status"])))
      "q") = "sea" := by
  have hplain : PlainPath "/ar/dashboard/units" := by
    intro c hc
    have hall : "/ar/dashboard/units".toList.all (fun c => c != '?' && c != '#') = true := by
      decide +kernel
    simpa using List.all_eq_true.mp hall c hc
  have hkeys : ∀ key, seaDrafts key ≠ none → key ∈ ["q", "status"] := by
    intro key hsome
    by_contra hmem
    refine hsome (rawOf_none ?_)
    simp only [List.mem_cons, List.not_mem_nil, or_false, not_or] at hmem
    simp [Ne.symm hmem.1, Ne.symm hmem.2]
  obtain ⟨-, hshown, -, -, hlist⟩ :=
    result_shown_once hplain (listQuery seaDrafts ["q", "status"]) .deleted "Villa 4BR"
  have hq : first (seaDrafts "q") = "sea" := by decide +kernel
  exact ⟨hshown, (hlist seaDrafts ["q", "status"] (by decide) hkeys rfl "q" (by decide) (by decide)).trans hq⟩

end Web

end Sahel
