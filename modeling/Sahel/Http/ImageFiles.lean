import Sahel.Http.AdminImages
import Sahel.Library.Schedule
import Sahel.Store.Objects

/-!
# The photos and their files

A photo's row names a file in the object store, and the two are not changed together:
`adminUploadUnitImage` stores the file before its transaction and deletes it when the transaction
fails, `adminDeleteUnitImage` deletes it after the row is gone.

* `Files` is the system with the object store, and the calls of `deleteObject` under way;
* a handler may lose its connection at the commit: then it deletes the file although the rows are
  committed (`unheard`); the server may stop before a handler is done (`crash`); a `Put` that fails
  may have stored its file (`landed`), and a `Delete` may fail, or be cut short (`DeleteEnd`);
* `logged` is what `deleteObject` logs, and `abandoned` what no handler deletes or logs any more;
* `newUUID` repeats no id, so no name is given to two files.

The requests are those for photos, with the bookings and the edits of the catalogue.  Its deletions
are not among them: a unit that is deleted takes the rows of its photos along and leaves their files.
-/

set_option autoImplicit false

namespace Sahel

open ReadCommitted

abbrev ImageLogged : Type :=
  Logged ImageRows ImageSystemWrite ImageSystemLock PgError Oracle ImageSystemStmt ImageSystemVal
    ImageSystemReq ApiError (AllResponse ⊕ ImageResponse)

abbrev ImageEvent : Type := Event ImageRows Oracle ImageSystemStmt

abbrev ImageTxn : Type :=
  Txn ImageSystemWrite ImageSystemLock PgError ImageSystemStmt ImageSystemVal ImageSystemReq ApiError
    (AllResponse ⊕ ImageResponse)

/-- The name under which a statement stores a photo's file. -/
def putName : ImageSystemStmt → Option String
  | .inr (.put key _) => some key
  | _ => none

/-- The files a request has stored so far: the `url` of its handler. -/
def storedNames (es : List ImageEvent) : List String :=
  es.filterMap (fun e => if e.oracle.stored then putName e.stmt else none)

/-- The URL that is deleted after this answer. -/
def deletedURL : AllResponse ⊕ ImageResponse → Option String
  | .inr (.deleted url) => some url
  | _ => none

/-- The system with its object store. -/
structure Files where
  sys : ImageLogged
  /-- what the public bucket has -/
  objects : List String
  /-- the URLs whose `deleteObject` is under way -/
  owed : List String
  /-- every name given to a photo's file so far -/
  named : List String
  /-- the names whose photo was committed unheard -/
  unheard : List String
  /-- the URLs logged as orphaned objects -/
  logged : List String
  /-- the URLs of files that were left: a `Put` failed and had stored its file, the server stopped
  before a file was deleted, or the commit of a delete was not heard -/
  abandoned : List String

namespace Files

variable (base : String) (srv : Server) (texts : Texts) (f : Files)

/-- Nobody is connected. -/
def opened (d : ImageRows) (objects : List String) : Files :=
  ⟨Logged.quiet d, objects, [], objects, [], [], []⟩

def start (i : ℕ) (r : ImageSystemReq) (now : ℤ) : Files :=
  { f with sys := ⟨⟨f.sys.state.db, Function.update f.sys.state.txs i
      (some (Txn.start (imageSystem srv texts) r now))⟩, Function.update f.sys.log i []⟩ }

/-- A statement; `landed` when a file that could not be stored is there all the same. -/
def exec (i : ℕ) (t : ImageTxn) (st : ImageSystemStmt)
    (k : Except PgError (ImageSystemVal st) → ImageHandler (AllResponse ⊕ ImageResponse)) (o : Oracle)
    (landed : Bool) : Files :=
  { f with
    sys := ⟨⟨f.sys.state.db, Function.update f.sys.state.txs i
        (some (t.run (imagePostgres (publicURL base)) f.sys.state.db st k o))⟩,
      Function.update f.sys.log i (f.sys.log i ++ [⟨st, o, f.sys.state.db⟩])⟩
    objects := if o.stored || landed then (putName st).toList ++ f.objects else f.objects
    named := (putName st).toList ++ f.named
    abandoned := if !o.stored && landed then (putName st).toList.map (publicURL base) ++ f.abandoned
      else f.abandoned }

def refused (i : ℕ) (t : ImageTxn) (st : ImageSystemStmt)
    (k : Except PgError (ImageSystemVal st) → ImageHandler (AllResponse ⊕ ImageResponse)) : Files :=
  { f with sys := ⟨⟨f.sys.state.db, Function.update f.sys.state.txs i
      (some { t with prog := k (.error (imagePostgres (publicURL base)).aborted) })⟩, f.sys.log⟩ }

/-- The rows after a commit. -/
def committed (i : ℕ) (t : ImageTxn) : ImageLogged :=
  ⟨⟨(imagePostgres (publicURL base)).view f.sys.state.db t.writes,
    Function.update f.sys.state.txs i none⟩, f.sys.log⟩

/-- A commit; after a delete, the file is deleted as well. -/
def commit (i : ℕ) (t : ImageTxn) (a : AllResponse ⊕ ImageResponse) : Files :=
  { f with
    sys := f.committed base i t
    owed := (deletedURL a).toList ++ f.owed }

/-- A commit that the handler takes for a failure: it deletes the file it has stored, and no other. -/
def commitUnheard (i : ℕ) (t : ImageTxn) (a : AllResponse ⊕ ImageResponse) : Files :=
  { f with
    sys := f.committed base i t
    owed := (storedNames (f.sys.log i)).map (publicURL base) ++ f.owed
    unheard := storedNames (f.sys.log i) ++ f.unheard
    abandoned := (deletedURL a).toList ++ f.abandoned }

/-- The connections after a rollback. -/
def rolledBack (i : ℕ) : ImageLogged :=
  ⟨⟨f.sys.state.db, Function.update f.sys.state.txs i none⟩, f.sys.log⟩

/-- A request fails: its handler deletes the file it has stored. -/
def abort (i : ℕ) : Files :=
  { f with
    sys := f.rolledBack i
    owed := (storedNames (f.sys.log i)).map (publicURL base) ++ f.owed }

/-- The server stops before the handler is done. -/
def crash (i : ℕ) : Files :=
  { f with
    sys := f.rolledBack i
    abandoned := (storedNames (f.sys.log i)).map (publicURL base) ++ f.abandoned }

/-- How a call of `deleteObject` ends: `Delete` succeeds; it fails; or the server stops before it
answers.  In the last two cases the file may be gone or not. -/
inductive DeleteEnd where
  | done
  | failed (gone : Bool)
  | cut (gone : Bool)

/-- The bucket without the object of a URL. -/
def without (url : String) : List String :=
  match objectKey base url with
  | some key => f.objects.filter (fun name => decide (name ≠ key))
  | none => f.objects

/-- `deleteObject`: best effort, logged when it fails, as it does for a URL of no object. -/
def deleteObject (url : String) : DeleteEnd → Files
  | .done => { f with
      owed := f.owed.erase url
      objects := f.without base url
      logged := if (objectKey base url).isSome then f.logged else url :: f.logged }
  | .failed gone => { f with
      owed := f.owed.erase url
      objects := if gone then f.without base url else f.objects
      logged := url :: f.logged }
  | .cut gone => { f with
      owed := f.owed.erase url
      objects := if gone then f.without base url else f.objects
      abandoned := url :: f.abandoned }

/-- One step of the system. -/
inductive Step : Files → Files → Prop where
  | start {f : Files} (i : ℕ) (r : ImageSystemReq) (now : ℤ) (free : f.sys.state.txs i = none) :
      Step f (f.start srv texts i r now)
  | exec {f : Files} (i : ℕ) {t st k} (o : Oracle) (landed : Bool) (live : f.sys.state.txs i = some t)
      (next : t.prog = .exec st k) (fine : t.failed = false)
      (free : f.sys.state.Free (imagePostgres (publicURL base)) i ((imagePostgres (publicURL base)).locks
        st o t.now ((imagePostgres (publicURL base)).view f.sys.state.db t.writes)))
      (fresh : ∀ key, putName st = some key → key ∉ f.named) :
      Step f (f.exec base i t st k o landed)
  | refused {f : Files} (i : ℕ) {t st k} (live : f.sys.state.txs i = some t)
      (next : t.prog = .exec st k) (bad : t.failed = true) : Step f (f.refused base i t st k)
  | commit {f : Files} (i : ℕ) {t a} (live : f.sys.state.txs i = some t) (done : t.prog = .pure a)
      (fine : t.failed = false) : Step f (f.commit base i t a)
  | unheard {f : Files} (i : ℕ) {t a} (live : f.sys.state.txs i = some t) (done : t.prog = .pure a)
      (fine : t.failed = false) : Step f (f.commitUnheard base i t a)
  | abort {f : Files} (i : ℕ) {t} (live : f.sys.state.txs i = some t) : Step f (f.abort base i)
  | crash {f : Files} (i : ℕ) {t} (live : f.sys.state.txs i = some t) : Step f (f.crash base i)
  | delete {f : Files} (url : String) (how : DeleteEnd) (h : url ∈ f.owed) :
      Step f (f.deleteObject base url how)

/-- The states that any interleaving of these steps reaches. -/
abbrev Reaches (f₀ f : Files) : Prop := Relation.ReflTransGen (Step base srv texts) f₀ f

variable {base srv texts} {f} {f' : Files}

@[simp] theorem deleteObject_sys (url : String) (how : DeleteEnd) :
    (f.deleteObject base url how).sys = f.sys := by
  cases how <;> rfl

/-- What a deletion leaves alone. -/
theorem deleteObject_frame (url : String) (how : DeleteEnd) :
    (f.deleteObject base url how).owed = f.owed.erase url ∧
      (f.deleteObject base url how).named = f.named ∧
      (f.deleteObject base url how).unheard = f.unheard := by
  cases how <;> exact ⟨rfl, rfl, rfl⟩

/-- Without the object store this is the system of the rows, which a deleted file leaves alone. -/
theorem Step.sys (h : Step base srv texts f f') : f'.sys = f.sys ∨ ∃ lab,
    LStep (imagePostgres (publicURL base)) (imageSystem srv texts) f.sys lab f'.sys := by
  cases h with
  | start i r now free => exact Or.inr ⟨_, .start i r now free⟩
  | exec i o landed live next fine free fresh => exact Or.inr ⟨_, .exec i o live next fine free⟩
  | refused i live next bad => exact Or.inr ⟨_, .refused i live next bad⟩
  | commit i live done fine => exact Or.inr ⟨_, .commit i live done fine⟩
  | unheard i live done fine => exact Or.inr ⟨_, .commit i live done fine⟩
  | abort i live => exact Or.inr ⟨_, .abort i live⟩
  | crash i live => exact Or.inr ⟨_, .abort i live⟩
  | delete url how h => exact Or.inl (deleteObject_sys url how)

/-- **A run with the object store is a run**, with its histories. -/
theorem Reaches.run {d : ImageRows} {objects : List String}
    (h : Reaches base srv texts (opened d objects) f) : ∃ rs,
      LRun (imagePostgres (publicURL base)) (imageSystem srv texts) always (Logged.quiet d) rs f.sys := by
  induction h with
  | refl => exact ⟨[], .refl⟩
  | tail _ hstep ih =>
    obtain ⟨rs, hrun⟩ := ih
    rcases hstep.sys with hsame | ⟨lab, hl⟩
    · rw [hsame]
      exact ⟨rs, hrun⟩
    · cases lab with
      | none => exact ⟨rs, hrun.quiet hl⟩
      | some ir =>
        obtain ⟨i, r⟩ := ir
        exact ⟨_, hrun.commit hl trivial⟩

/-! ### Schedules with files -/

/-- A move of a schedule; every `Put` of it succeeds. -/
inductive Move where
  | start (i : ℕ) (r : ImageSystemReq) (now : ℤ)
  | exec (i : ℕ) (o : Oracle)
  | commit (i : ℕ) (heard : Bool)
  | delete (url : String)

variable (base srv texts) in
/-- One move of connections below `n`. -/
def play (n : ℕ) (f : Files) : Move → Option Files
  | .start i r now =>
    if i < n ∧ (f.sys.state.txs i).isNone then some (f.start srv texts i r now) else none
  | .exec i o =>
    match f.sys.state.txs i with
    | none => none
    | some t =>
      match t.prog with
      | .exec st k =>
        if i < n ∧ t.failed = false ∧ (putName st).all (fun key => decide (key ∉ f.named)) = true ∧
            freeBelow (imagePostgres (publicURL base)) n f.sys i ((imagePostgres (publicURL base)).locks
              st o t.now ((imagePostgres (publicURL base)).view f.sys.state.db t.writes)) = true then
          some (f.exec base i t st k o false)
        else none
      | _ => none
  | .commit i heard =>
    match f.sys.state.txs i with
    | none => none
    | some t =>
      match t.prog with
      | .pure a =>
        if t.failed = false then
          some (if heard then f.commit base i t a else f.commitUnheard base i t a)
        else none
      | _ => none
  | .delete url => if url ∈ f.owed then some (f.deleteObject base url .done) else none

variable (base srv texts) in
def plays (n : ℕ) : List Move → Files → Option Files
  | [], f => some f
  | m :: ms, f => (f.play base srv texts n m).bind (plays n ms)

/-- **A move is a step.** -/
theorem play_step {n : ℕ} (hn : f.sys.Below n) {m : Move}
    (h : f.play base srv texts n m = some f') : Step base srv texts f f' ∧ f'.sys.Below n := by
  have hlive : ∀ i t, f.sys.state.txs i = some t → i < n := by
    intro i t ht
    by_contra hge
    rw [hn i (Nat.le_of_not_lt hge)] at ht
    cases ht
  cases m with
  | start i r now =>
    simp only [play] at h
    split_ifs at h with hc
    cases h
    exact ⟨.start i r now (Option.isNone_iff_eq_none.mp hc.2), hn.update hc.1 _ _ _⟩
  | exec i o =>
    simp only [play] at h
    split at h
    · cases h
    · rename_i t ht
      split at h
      · rename_i st k hp
        split_ifs at h with hc
        cases h
        obtain ⟨hi, hf, hfresh, hfree⟩ := hc
        refine ⟨.exec i o false ht hp hf (free_of_freeBelow hn hfree) (fun key hkey => ?_),
          hn.update hi _ _ _⟩
        rw [hkey] at hfresh
        exact of_decide_eq_true hfresh
      · cases h
  | commit i heard =>
    simp only [play] at h
    split at h
    · cases h
    · rename_i t ht
      split at h
      · rename_i a hp
        split_ifs at h with hc hheard
        · cases h
          exact ⟨.commit i ht hp hc, hn.update (hlive i t ht) _ _ _⟩
        · cases h
          exact ⟨.unheard i ht hp hc, hn.update (hlive i t ht) _ _ _⟩
      · cases h
  | delete url =>
    simp only [play] at h
    split_ifs at h with hc
    cases h
    exact ⟨.delete url .done hc, by rw [deleteObject_sys]; exact hn⟩

theorem Reaches.plays {n : ℕ} {f₀ : Files} {ms : List Move} (hn : f.sys.Below n)
    (h : Files.plays base srv texts n ms f = some f') (hs : Reaches base srv texts f₀ f) :
    Reaches base srv texts f₀ f' := by
  induction ms generalizing f with
  | nil =>
    cases h
    exact hs
  | cons m ms ih =>
    rw [Files.plays, Option.bind_eq_some_iff] at h
    obtain ⟨f₁, hplay, hrest⟩ := h
    obtain ⟨hstep, hn₁⟩ := play_step hn hplay
    exact ih hn₁ hrest (hs.tail hstep)

/-- A schedule that plays to a state which passes a test. -/
theorem Reaches.of_plays (n : ℕ) {d : ImageRows} {objects : List String} {ms : List Move}
    {test : Files → Bool}
    (h : (Files.plays base srv texts n ms (opened d objects)).any test = true) :
    ∃ f, Reaches base srv texts (opened d objects) f ∧ test f = true := by
  rw [Option.any_eq_true] at h
  obtain ⟨f, hplays, htest⟩ := h
  exact ⟨f, Reaches.plays (Logged.below_quiet d n) hplays .refl, htest⟩

end Files

end Sahel
