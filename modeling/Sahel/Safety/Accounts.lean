import Sahel.Http.Accounts
import Sahel.Model.References

/-!
# Accounts cannot be taken over

Three writers race for the row of a phone: a sign-up, which opens the account or claims it while it has
no password, a booking of the admin's, which opens it or gives it a name, and the admin's new password.
All of them lock the phone, and each decides on the row as the lock finds it.

* `Effect` is what a commit may do to the accounts, by the work it commits and the answer it gives;
  `accountRules` are these effects as atomic operations, and **`work_ends`** says that every connection
  ends in one;
* **`Effect.closes`**: a sign-up gets an account only while it has no password, and gives it one;
* **`accounts_kept`**: a phone has one account and one sign-up that was answered 201, whatever happens
  to it; a password and a name that stand beside one are changed by the admin only, and an account
  keeps its id.
-/

set_option autoImplicit false

namespace Sahel

open KeyedTable ReadCommitted

abbrev Customers : Type := Table ℕ CustomerRow CustomerRow.id

abbrev AccountLock : Type := Lock ⊕ Empty

/-- What a connection works on. -/
abbrev AccountWork : Type := Req ⊕ AllAccountStmt

/-- What it ends with. -/
abbrev AccountAnswer : Type :=
  Response ⊕ ((s : AllAccountStmt) × Sum.elim Stmt.Val AccountStmt.Val s)

/-- `createCustomer` returned the row `c`. -/
def created (arg : CreateCustomerParams) (c : CustomerRow) : AccountAnswer :=
  .inr ⟨.inr (.createCustomer arg), (some c : Option CustomerRow)⟩

/-! ### Locked accounts -/

/-- The locked phones keep their accounts, the locked ids stay free. -/
structure Undisturbed (L : List AccountLock) (T T' : Customers) : Prop where
  phones : ∀ p, .inl (.phone p) ∈ L → ∀ c : CustomerRow, c.phone = p → (c ∈ T' ↔ c ∈ T)
  ids : ∀ id, .inl (.customer id) ∈ L → T.find? id = none → T'.find? id = none

theorem Undisturbed.refl (L : List AccountLock) (T : Customers) : Undisturbed L T T :=
  ⟨fun _ _ _ _ => Iff.rfl, fun _ _ h => h⟩

theorem Undisturbed.trans {L : List AccountLock} {T₁ T₂ T₃ : Customers} (h : Undisturbed L T₁ T₂)
    (h' : Undisturbed L T₂ T₃) : Undisturbed L T₁ T₃ :=
  ⟨fun p hp c hc => (h'.phones p hp c hc).trans (h.phones p hp c hc),
    fun id hid hf => h'.ids id hid (h.ids id hid hf)⟩

theorem Undisturbed.mono {L L' : List AccountLock} {T T' : Customers} (h : Undisturbed L' T T')
    (hL : ∀ l ∈ L, l ∈ L') : Undisturbed L T T' :=
  ⟨fun p hp => h.phones p (hL _ hp), fun id hid => h.ids id (hL _ hid)⟩

/-- The account `c` may be opened: its phone and its id are free, and locked. -/
structure Opens (L : List AccountLock) (T : Customers) (c : CustomerRow) : Prop where
  phone : .inl (.phone c.phone) ∈ L
  id : .inl (.customer c.id) ∈ L
  free : ∀ x ∈ T, x.phone ≠ c.phone
  fresh : T.find? c.id = none

/-- The account `c` may become `c'`: it is there, and its phone is locked. -/
structure Alters (L : List AccountLock) (T : Customers) (c c' : CustomerRow) : Prop where
  locked : .inl (.phone c.phone) ∈ L
  mem : c ∈ T
  id : c'.id = c.id
  phone : c'.phone = c.phone

theorem Opens.moves {L : List AccountLock} {T T' : Customers} {c : CustomerRow} (h : Opens L T c)
    (hT : Undisturbed L T T') : Opens L T' c where
  phone := h.phone
  id := h.id
  free x hx he := h.free x ((hT.phones _ h.phone x he).mp hx) he
  fresh := hT.ids _ h.id h.fresh

theorem Alters.moves {L : List AccountLock} {T T' : Customers} {c c' : CustomerRow}
    (h : Alters L T c c') (hT : Undisturbed L T T') : Alters L T' c c' :=
  { h with mem := (hT.phones _ h.locked c rfl).mpr h.mem }

theorem Opens.mono {L L' : List AccountLock} {T : Customers} {c : CustomerRow} (h : Opens L T c)
    (hL : ∀ l ∈ L, l ∈ L') : Opens L' T c :=
  { h with phone := hL _ h.phone, id := hL _ h.id }

theorem Alters.mono {L L' : List AccountLock} {T : Customers} {c c' : CustomerRow}
    (h : Alters L T c c') (hL : ∀ l ∈ L, l ∈ L') : Alters L' T c c' :=
  { h with locked := hL _ h.locked }

/-- Opening an account disturbs nobody who holds other locks. -/
theorem Opens.undisturbed {L L' : List AccountLock} {T : Customers} {c : CustomerRow}
    (h : Opens L T c) (hL : ∀ {l : Lock}, l.conflict l = true → .inl l ∈ L → .inl l ∉ L') :
    Undisturbed L' T (T.insert c) := by
  constructor
  · intro p hp x hx
    rw [Table.mem_insert h.fresh]
    refine or_iff_left ?_
    rintro rfl
    exact hL (by simp [Lock.conflict]) h.phone (hx ▸ hp)
  · intro id hid hf
    rw [Table.find?_insert h.fresh]
    split
    · rename_i he
      exact absurd (he ▸ hid) (hL (by simp [Lock.conflict]) h.id)
    · exact hf

theorem Alters.undisturbed {L L' : List AccountLock} {T : Customers} {c c' : CustomerRow}
    (h : Alters L T c c') (hL : ∀ {l : Lock}, l.conflict l = true → .inl l ∈ L → .inl l ∉ L') :
    Undisturbed L' T (T.set c') := by
  have hfree : ∀ {p x}, .inl (.phone p) ∈ L' → (x : CustomerRow).phone = p → x.phone ≠ c.phone := by
    intro p x hp hx he
    exact hL (by simp [Lock.conflict]) h.locked (by rw [← he, hx]; exact hp)
  constructor
  · intro p hp x hx
    rw [Table.mem_set_of_mem h.mem h.id.symm]
    constructor
    · rintro (⟨hm, -⟩ | rfl)
      · exact hm
      · exact absurd h.phone (hfree hp hx)
    · intro hm
      refine Or.inl ⟨hm, fun he => hfree hp hx ?_⟩
      rw [Table.eq_of_key_eq hm h.mem (he.trans h.id)]
  · intro id _ hf
    rw [Table.find?_set_ne]
    · exact hf
    · intro he
      rw [← he, h.id, Table.find?_of_mem h.mem] at hf
      cases hf

/-! ### What a commit may do -/

/-- What a commit does to the accounts: `w` is the work, `a` its answer and `L` its locks. -/
inductive Effect : AccountWork → AccountAnswer → List AccountLock → Customers → Customers → Prop where
  | keeps {w a L T} (quiet : ∀ arg c, a ≠ created arg c) : Effect w a L T T
  /-- a booking opens the account -/
  | opens {w a L T c} (h : Opens L T c) (hash : c.passwordHash = none)
      (quiet : ∀ arg c, a ≠ created arg c) : Effect w a L T (T.insert c)
  /-- a booking finds it -/
  | ensures {w a L T c c'} (h : Alters L T c c') (hash : c'.passwordHash = c.passwordHash)
      (name : c.name ≠ "" → c'.name = c.name) (quiet : ∀ arg c, a ≠ created arg c) :
      Effect w a L T (T.set c')
  /-- a sign-up opens the account -/
  | registers {arg L T c} (h : Opens L T c) (phone : c.phone = arg.phone)
      (hash : c.passwordHash = arg.passwordHash) :
      Effect (.inr (.inr (.createCustomer arg))) (created arg c) L T (T.insert c)
  /-- a sign-up claims it -/
  | claims {arg L T c c'} (h : Alters L T c c') (phone : c.phone = arg.phone)
      (open' : c.passwordHash = none) (hash : c'.passwordHash = arg.passwordHash) :
      Effect (.inr (.inr (.createCustomer arg))) (created arg c') L T (T.set c')
  /-- the admin sets a password -/
  | resets {id passwordHash a L T c c'} (h : Alters L T c c') (name : c'.name = c.name)
      (hash : c'.passwordHash = passwordHash) (quiet : ∀ arg c, a ≠ created arg c) :
      Effect (.inr (.inr (.setCustomerPassword id passwordHash))) a L T (T.set c')

theorem Effect.mono {w : AccountWork} {a : AccountAnswer} {L L' : List AccountLock} {T T' : Customers}
    (h : Effect w a L T T') (hL : ∀ l ∈ L, l ∈ L') : Effect w a L' T T' := by
  cases h with
  | keeps quiet => exact .keeps quiet
  | opens h hash quiet => exact .opens (h.mono hL) hash quiet
  | ensures h hash name quiet => exact .ensures (h.mono hL) hash name quiet
  | registers h phone hash => exact .registers (h.mono hL) phone hash
  | claims h phone open' hash => exact .claims (h.mono hL) phone open' hash
  | resets h name hash quiet => exact .resets (h.mono hL) name hash quiet

/-- **No commit disturbs the holder of other locks.** -/
theorem Effect.undisturbed {w : AccountWork} {a : AccountAnswer} {L L' : List AccountLock}
    {T T' : Customers} (h : Effect w a L T T')
    (hL : ∀ {l : Lock}, l.conflict l = true → .inl l ∈ L → .inl l ∉ L') : Undisturbed L' T T' := by
  cases h with
  | keeps quiet => exact .refl L' T
  | opens h hash quiet => exact h.undisturbed hL
  | ensures h hash name quiet => exact h.undisturbed hL
  | registers h phone hash => exact h.undisturbed hL
  | claims h phone open' hash => exact h.undisturbed hL
  | resets h name hash quiet => exact h.undisturbed hL

section Rules

variable (hashPassword : ℕ → String → Option String)

/-- A lock held by one transaction is held by no other. -/
theorem lock_apart {L L' : List AccountLock}
    (h : (accounts hashPassword).database.Compatible L L') {l : Lock} (hl : l.conflict l = true)
    (hm : .inl l ∈ L) : .inl l ∉ L' := by
  intro hm'
  have hc : l.conflict l = false := h _ hm _ hm'
  rw [hl] at hc
  cases hc

/-- The effects as atomic operations. -/
def accountRules : RelyGuarantee (accounts hashPassword).database AccountWork where
  Op w L d d' := ∃ a, Effect w a L d.1.customers d'.1.customers
  Rely L d d' := Undisturbed L d.1.customers d'.1.customers
  refl L d := .refl L d.1.customers
  trans h h' := h.trans h'
  guarantee h hL := by
    obtain ⟨a, ha⟩ := h
    exact ha.undisturbed (fun hl hm => lock_apart hashPassword hL hl hm)

/-! ### Statements -/

/-- `ensureCustomer` opens the account of the phone, or finds it. -/
theorem ensureCustomer_effect {phone name : String} {id : ℕ} {db : Db} {row : EnsureCustomerRow}
    {ws : List Write} (he : Queries.ensureCustomer phone name id db = .ok (row, ws))
    {L : List AccountLock} (hphone : .inl (.phone phone) ∈ L) (hid : .inl (.customer id) ∈ L)
    {w : AccountWork} {a : AccountAnswer} (quiet : ∀ arg c, a ≠ created arg c) {db' : Db}
    (h : Undisturbed L db.customers db'.customers) :
    Effect w a L db'.customers (postgres.view db' ws).customers := by
  rcases Queries.ensureCustomer_ok he with ⟨c, hm, hp, rfl⟩ | ⟨c, hfree, hfresh, hcid, hp, hnew, rfl⟩
  · have halters : Alters L db.customers c { c with name := if c.name = "" then name else c.name } :=
      ⟨by rw [hp]; exact hphone, hm, rfl, rfl⟩
    exact .ensures (halters.moves h) rfl (fun hname => if_neg hname) quiet
  · have hopens : Opens L db.customers c := by
      refine ⟨by rw [hp]; exact hphone, by rw [hcid]; exact hid, ?_, by rw [hcid]; exact hfresh⟩
      rw [hp]
      exact hfree
    exact .opens (hopens.moves h) hnew quiet

theorem createCustomer_effect {arg : CreateCustomerParams} {id : ℕ} {db : Db} {v : Option CustomerRow}
    {ws : List AccountWrite} (he : Queries.createCustomer arg id db = .ok (v, ws))
    {L : List AccountLock} (hphone : .inl (.phone arg.phone) ∈ L) (hid : .inl (.customer id) ∈ L)
    {d' : AccountDb} (h : Undisturbed L db.customers d'.1.customers) :
    Effect (.inr (.inr (.createCustomer arg))) (.inr ⟨.inr (.createCustomer arg), v⟩) L
      d'.1.customers ((accounts hashPassword).database.view d' (ws.map Sum.inr)).1.customers := by
  unfold Queries.createCustomer at he
  split at he
  · split at he
    · rename_i c hc
      have hm := List.mem_of_find?_eq_some hc
      have hp : c.phone = arg.phone := of_decide_eq_true (List.find?_some hc :)
      split at he
      · rename_i hopen
        cases he
        have halters : Alters L db.customers c
            { c with name := arg.name, passwordHash := arg.passwordHash } :=
          ⟨by rw [hp]; exact hphone, hm, rfl, rfl⟩
        exact .claims (halters.moves h) hp hopen rfl
      · cases he
        exact .keeps (fun arg' c' heq => by cases heq)
    · rename_i hnone
      split at he
      · cases he
      · rename_i hfresh
        cases he
        refine .registers (Opens.moves ⟨hphone, hid, fun x hx hp => ?_, ?_⟩ h) rfl rfl
        · exact absurd hp (of_decide_eq_false (eq_false_of_ne_true (List.find?_eq_none.mp hnone x hx)))
        · exact Option.not_isSome_iff_eq_none.mp hfresh
  · cases he

theorem setCustomerPassword_effect (id : ℕ) (passwordHash : Option String) {db : Db}
    {L : List AccountLock} (hL : ∀ c, db.customers.find? id = some c → .inl (.phone c.phone) ∈ L)
    {d' : AccountDb} (h : Undisturbed L db.customers d'.1.customers) :
    Effect (.inr (.inr (.setCustomerPassword id passwordHash)))
      (.inr ⟨.inr (.setCustomerPassword id passwordHash),
        (Queries.setCustomerPassword id passwordHash db).1⟩) L d'.1.customers
      ((accounts hashPassword).database.view d'
        ((Queries.setCustomerPassword id passwordHash db).2.map Sum.inr)).1.customers := by
  have quiet : ∀ (n : ℕ) arg c, (.inr ⟨.inr (.setCustomerPassword id passwordHash), n⟩ : AccountAnswer)
      ≠ created arg c := by
    intro n arg c heq
    cases heq
  unfold Queries.setCustomerPassword
  split
  · rename_i c hc
    have halters : Alters L db.customers c { c with passwordHash := passwordHash } :=
      ⟨hL c hc, (Table.mem_of_find? hc).1, rfl, rfl⟩
    exact .resets (halters.moves h) rfl rfl (quiet _)
  · exact .keeps (quiet _)

/-- Writes of a statement that leaves the accounts alone. -/
theorem customers_of_spares {s : Stmt} {o : Oracle} {now : ℤ} {db : Db} {v : s.Val} {ws : List Write}
    (hs : ¬ Ensures s) (he : s.eval o now db = .ok (v, ws)) (db' : Db) :
    (postgres.view db' ws).customers = db'.customers := by
  have hw := eval_customers hs he
  clear he
  induction ws generalizing db' with
  | nil => rfl
  | cons w ws ih =>
    obtain ⟨hw, hws⟩ := List.forall_mem_cons.mp hw
    exact (ih (db'.apply w) hws).trans (hw db')

/-- **What a statement of its own commits.** -/
theorem statement_effect {st : AllAccountStmt} {o : Oracle} {now : ℤ} {d d' : AccountDb}
    {v : Sum.elim Stmt.Val AccountStmt.Val st} {ws : List (Write ⊕ AccountWrite)}
    (he : (accounts hashPassword).database.eval st o now d = .ok (v, ws))
    (h : Undisturbed ((accounts hashPassword).database.locks st o now d) d.1.customers
      d'.1.customers) :
    Effect (.inr st) (.inr ⟨st, v⟩) ((accounts hashPassword).database.locks st o now d)
      d'.1.customers ((accounts hashPassword).database.view d' ws).1.customers := by
  cases st with
  | inl s =>
    have quiet : ∀ arg c, (.inr ⟨.inl s, v⟩ : AccountAnswer) ≠ created arg c := by
      intro arg c heq
      cases heq
    obtain ⟨ws₀, he₀, rfl⟩ := Extra.eval_inl he
    rw [Extra.view_inl]
    by_cases hs : Ensures s
    · cases s with
      | ensureCustomer phone name =>
        exact ensureCustomer_effect he₀ List.mem_cons_self
          (List.mem_cons_of_mem _ List.mem_cons_self) quiet h
      | _ => exact absurd hs id
    · rw [customers_of_spares hs he₀]
      exact .keeps quiet
  | inr s =>
    obtain ⟨ws₀, he₀, rfl⟩ := Extra.eval_inr he
    cases s with
    | createCustomer arg =>
      exact createCustomer_effect hashPassword he₀ List.mem_cons_self
        (List.mem_cons_of_mem _ List.mem_cons_self) h
    | setCustomerPassword id passwordHash =>
      obtain ⟨rfl, rfl⟩ : (Queries.setCustomerPassword id passwordHash d.1).1 = v ∧
          (Queries.setCustomerPassword id passwordHash d.1).2 = ws₀ :=
        ⟨congrArg Prod.fst (Except.ok.inj he₀), congrArg Prod.snd (Except.ok.inj he₀)⟩
      refine setCustomerPassword_effect hashPassword id passwordHash (fun c hc => ?_) h
      have hlocks : (accounts hashPassword).database.locks (.inr (.setCustomerPassword id passwordHash))
          o now d = [Sum.inl (.phone c.phone)] :=
        AccountStmt.locks_setCustomerPassword passwordHash o now hc
      rw [hlocks]
      exact List.mem_singleton_self _
    | hashPassword password =>
      cases he₀
      exact .keeps (fun arg c heq => by cases heq)
    | countRecentRegistrations ip =>
      cases he₀
      exact .keeps (fun arg c heq => by cases heq)
    | recordAuthAttempt kind phone ip ok =>
      cases he₀
      exact .keeps (fun arg c heq => by cases heq)

/-! ### Connections -/

/-- A connection ends in an effect on the accounts, whatever others commit in the meantime. -/
def endsInEffect (w : AccountWork) :
    RelyGuarantee.Post AccountLock (Write ⊕ AccountWrite) AccountDb AccountAnswer :=
  fun a L W d => ∀ d', (accountRules hashPassword).Rely L d d' →
    Effect w a L d'.1.customers ((accounts hashPassword).database.view d' W).1.customers

theorem endsInEffect_stable (w : AccountWork) :
    (accountRules hashPassword).Stable (endsInEffect hashPassword w) := by
  intro a L W d d' h hR d'' hR'
  exact h d'' ((accountRules hashPassword).trans hR hR')

/-- The statements of a request that open no account. -/
def OpensNone : AllAccountStmt → Prop := Sum.elim (fun s => ¬ Ensures s) (fun _ => False)

/-- And those that do. -/
def OpensOne : AllAccountStmt → Prop := Sum.elim Ensures (fun _ => False)

/-- The writes so far leave the accounts alone. -/
def NotOpened : List AccountLock → List (Write ⊕ AccountWrite) → AccountDb → Prop := fun _ W _ =>
  ∀ d' : AccountDb, ((accounts hashPassword).database.view d' W).1.customers = d'.1.customers

/-- Whatever the request answers, its writes are an effect. -/
def HasOpened (r : Req) : List AccountLock → List (Write ⊕ AccountWrite) → AccountDb → Prop :=
  fun L W d => ∀ x : Response, endsInEffect hashPassword (.inl r) (.inl x) L W d

theorem ne_created (x : Response) (arg : CreateCustomerParams) (c : CustomerRow) :
    (.inl x : AccountAnswer) ≠ created arg c := by
  intro h
  cases h

theorem view_opensNone {s : AllAccountStmt} {o : Oracle} {now : ℤ} {d : AccountDb}
    {v : Sum.elim Stmt.Val AccountStmt.Val s} {ws : List (Write ⊕ AccountWrite)} (hs : OpensNone s)
    (he : (accounts hashPassword).database.eval s o now d = .ok (v, ws)) (d' : AccountDb) :
    ((accounts hashPassword).database.view d' ws).1.customers = d'.1.customers := by
  cases s with
  | inl s =>
    obtain ⟨ws₀, he₀, rfl⟩ := Extra.eval_inl he
    rw [Extra.view_inl]
    exact customers_of_spares hs he₀ _
  | inr s => exact absurd hs id

/-- Before the account is opened, the writes leave the accounts alone. -/
theorem takes_notOpened (now : ℤ) :
    (accountRules hashPassword).Takes now OpensNone (NotOpened hashPassword) (NotOpened hashPassword) := by
  intro s L W d d' o v ws hs h _ he d''
  rw [Database.view_append, view_opensNone hashPassword hs he, h]

/-- Once it is, they are an effect and stay one. -/
theorem takes_hasOpened (r : Req) (now : ℤ) : (accountRules hashPassword).Takes now OpensNone
    (HasOpened hashPassword r) (HasOpened hashPassword r) := by
  intro s L W d d' o v ws hs h hR he x d'' hR'
  rw [Database.view_append, view_opensNone hashPassword hs he]
  have hsub : ∀ l ∈ L, l ∈ L ++ (accounts hashPassword).database.locks s o now
      ((accounts hashPassword).database.view d' W) := fun l hl => List.mem_append_left _ hl
  exact (h x d'' ((accountRules hashPassword).trans hR (Undisturbed.mono hR' hsub))).mono hsub

/-- Opening it is the effect. -/
theorem takes_opening (r : Req) (now : ℤ) : (accountRules hashPassword).Takes now OpensOne
    (NotOpened hashPassword) (HasOpened hashPassword r) := by
  intro s L W d d' o v ws hs h hR he x d'' hR'
  cases s with
  | inr s => exact absurd hs id
  | inl s =>
    cases s with
    | ensureCustomer phone name =>
      obtain ⟨ws₀, he₀, rfl⟩ := Extra.eval_inl he
      rw [Database.view_append, Extra.view_inl]
      have hseen := h d'
      have hnow := h d''
      refine hnow ▸ ensureCustomer_effect he₀ ?_ ?_ (ne_created x) ?_
      · exact List.mem_append_right _ List.mem_cons_self
      · exact List.mem_append_right _ (List.mem_cons_of_mem _ List.mem_cons_self)
      · rw [hseen, hnow]
        exact hR'
    | _ => exact absurd hs id

variable (srv : Server)

/-- **Every connection ends in an effect.** -/
theorem work_ends (w : AccountWork) (now : ℤ) (d : AccountDb) :
    (accountRules hashPassword).wp now (Pool.work (wholeProgram srv) w) (endsInEffect hashPassword w)
      [] [] d := by
  cases w with
  | inr st =>
    intro d' _ o v ws he d'' hR
    exact statement_effect hashPassword he hR
  | inl r =>
    show (accountRules hashPassword).wp now (Sum.inl <$> (wholeProgram srv r).mapErr Sum.inl) _ _ _ _
    rw [RelyGuarantee.wp_map, RelyGuarantee.wp_mapErr]
    have hstart : NotOpened hashPassword [] [] d := fun d' => rfl
    refine RelyGuarantee.wp_mono ?_ _ (RelyGuarantee.wp_once (takes_notOpened hashPassword now)
      (takes_opening hashPassword r now) (takes_hasOpened hashPassword r now)
      (program_ensures srv r).lift hstart)
    intro x L W d h
    rcases h with h | h
    · intro d' _
      rw [h]
      exact .keeps (ne_created x)
    · exact h x

theorem accounts_verified :
    (accountRules hashPassword).Verified (Pool.work (wholeProgram srv)) := by
  intro w now d
  exact RelyGuarantee.wp_mono (fun a L W d h d' hR => ⟨a, h d' hR⟩) _ (work_ends hashPassword srv w now d)

end Rules

/-! ### One commit -/

/-- A phone has one account. -/
def OnePerPhone (T : Customers) : Prop := ∀ x ∈ T, ∀ y ∈ T, x.phone = y.phone → x = y

theorem Opens.onePerPhone {L : List AccountLock} {T : Customers} {c : CustomerRow} (h : Opens L T c)
    (hT : OnePerPhone T) : OnePerPhone (T.insert c) := by
  refine Table.forall_pairs_insert h.fresh hT ?_ ?_ (fun _ => rfl)
  · intro x hx he
    exact absurd he (h.free x hx)
  · intro y hy he
    exact absurd he.symm (h.free y hy)

/-- A row of the altered table was there under the same id and phone. -/
theorem Alters.was {L : List AccountLock} {T : Customers} {c c' x : CustomerRow} (h : Alters L T c c')
    (hx : x ∈ T.set c') : ∃ y ∈ T, y.id = x.id ∧ y.phone = x.phone := by
  rcases (Table.mem_set_of_mem h.mem h.id.symm).mp hx with ⟨hx, -⟩ | rfl
  · exact ⟨x, hx, rfl, rfl⟩
  · exact ⟨c, h.mem, h.id.symm, h.phone.symm⟩

theorem Alters.onePerPhone {L : List AccountLock} {T : Customers} {c c' : CustomerRow}
    (h : Alters L T c c') (hT : OnePerPhone T) : OnePerPhone (T.set c') := by
  intro x hx y hy he
  obtain ⟨x₀, hx₀, hxid, hxp⟩ := h.was hx
  obtain ⟨y₀, hy₀, hyid, hyp⟩ := h.was hy
  have hsame : x₀ = y₀ := hT x₀ hx₀ y₀ hy₀ (by rw [hxp, hyp, he])
  exact Table.eq_of_key_eq hx hy (hxid.symm.trans ((congrArg CustomerRow.id hsame).trans hyid))

theorem Effect.onePerPhone {w : AccountWork} {a : AccountAnswer} {L : List AccountLock}
    {T T' : Customers} (h : Effect w a L T T') (hT : OnePerPhone T) : OnePerPhone T' := by
  cases h with
  | keeps quiet => exact hT
  | opens h hash quiet => exact h.onePerPhone hT
  | ensures h hash name quiet => exact h.onePerPhone hT
  | registers h phone hash => exact h.onePerPhone hT
  | claims h phone open' hash => exact h.onePerPhone hT
  | resets h name hash quiet => exact h.onePerPhone hT

/-- What a commit may make of an account: it may get its first password from a sign-up and any password
from the admin, and otherwise keeps it, and its name if it has one. -/
inductive Follows (w : AccountWork) (c c' : CustomerRow) : Prop where
  | kept (hash : c'.passwordHash = c.passwordHash) (name : c.name ≠ "" → c'.name = c.name)
  | claimed {arg} (hw : w = .inr (.inr (.createCustomer arg))) (open' : c.passwordHash = none)
      (hash : c'.passwordHash = arg.passwordHash)
  | reset {id passwordHash} (hw : w = .inr (.inr (.setCustomerPassword id passwordHash)))
      (hash : c'.passwordHash = passwordHash)

/-- An account that is altered becomes the new row, and the others stay. -/
theorem Alters.follows {w : AccountWork} {L : List AccountLock} {T : Customers} {c c' : CustomerRow}
    (h : Alters L T c c') (hc : Follows w c c') {x : CustomerRow} (hx : x ∈ T) :
    ∃ x' ∈ T.set c', x'.id = x.id ∧ x'.phone = x.phone ∧ Follows w x x' := by
  by_cases he : x.id = c'.id
  · obtain rfl : x = c := Table.eq_of_key_eq hx h.mem (he.trans h.id)
    exact ⟨c', (Table.mem_set_of_mem hx he).mpr (Or.inr rfl), h.id, h.phone, hc⟩
  · exact ⟨x, Table.mem_set.mpr (Or.inl ⟨hx, he⟩), rfl, rfl, .kept rfl (fun _ => rfl)⟩

theorem Opens.follows {w : AccountWork} {L : List AccountLock} {T : Customers} {c x : CustomerRow}
    (h : Opens L T c) (hx : x ∈ T) :
    ∃ x' ∈ T.insert c, x'.id = x.id ∧ x'.phone = x.phone ∧ Follows w x x' :=
  ⟨x, (Table.mem_insert h.fresh).mpr (Or.inl hx), rfl, rfl, .kept rfl (fun _ => rfl)⟩

/-- **What a commit makes of every account.** -/
theorem Effect.follows {w : AccountWork} {a : AccountAnswer} {L : List AccountLock} {T T' : Customers}
    (h : Effect w a L T T') {x : CustomerRow} (hx : x ∈ T) :
    ∃ x' ∈ T', x'.id = x.id ∧ x'.phone = x.phone ∧ Follows w x x' := by
  cases h with
  | keeps quiet => exact ⟨x, hx, rfl, rfl, .kept rfl (fun _ => rfl)⟩
  | opens h hash quiet => exact h.follows hx
  | ensures h hash name quiet => exact h.follows (.kept hash name) hx
  | registers h phone hash => exact h.follows hx
  | claims h phone open' hash => exact h.follows (.claimed rfl open' hash) hx
  | resets h name hash quiet => exact h.follows (.reset rfl hash) hx

/-- The phone has an account with a password. -/
def Closed (phone : String) (T : Customers) : Prop :=
  ∃ c ∈ T, c.phone = phone ∧ c.passwordHash.isSome = true

/-- **A sign-up gets the account only while it is open, and closes it.** -/
theorem Effect.closes {arg : CreateCustomerParams} {w : AccountWork} {c : CustomerRow}
    {L : List AccountLock} {T T' : Customers} (h : Effect w (created arg c) L T T')
    (hT : OnePerPhone T) (hash : arg.passwordHash.isSome = true) :
    ¬ Closed arg.phone T ∧ Closed arg.phone T' := by
  generalize ha : created arg c = a at h
  cases h with
  | keeps quiet => exact absurd ha.symm (quiet arg c)
  | opens h hash quiet => exact absurd ha.symm (quiet arg c)
  | ensures h hash name quiet => exact absurd ha.symm (quiet arg c)
  | resets h name hash quiet => exact absurd ha.symm (quiet arg c)
  | registers h phone hash' =>
    cases ha
    refine ⟨?_, c, (Table.mem_insert h.fresh).mpr (Or.inr rfl), phone, by rw [hash']; exact hash⟩
    rintro ⟨x, hx, hp, -⟩
    exact h.free x hx (hp.trans phone.symm)
  | @claims _ _ _ c₀ _ h phone open' hash' =>
    cases ha
    refine ⟨?_, c, (Table.mem_set_of_mem h.mem h.id.symm).mpr (Or.inr rfl), h.phone.trans phone,
      by rw [hash']; exact hash⟩
    rintro ⟨x, hx, hp, hsome⟩
    obtain rfl : x = c₀ := hT x hx c₀ h.mem (hp.trans phone.symm)
    rw [open'] at hsome
    cases hsome

/-! ### Runs -/

/-- The statements that set a password, and who runs them. -/
def AccountRequest.Runs (q : AccountRequest) : AllAccountStmt → Prop
  | .inr (.createCustomer arg) => arg.passwordHash.isSome = true
  | .inr (.setCustomerPassword _ passwordHash) =>
    passwordHash.isSome = true ∧ ∃ id password, q = .adminSetCustomerPassword id password
  | _ => True

theorem accountProgram_only (q : AccountRequest) : (accountProgram q).Only q.Runs := by
  open Prog in
  cases q with
  | register req =>
    refine only_map _ (only_bind (only_require _ _) (fun phone => ?_))
    refine only_bind (only_refuse _ _) (fun _ => only_bind (only_refuse _ _) (fun _ => ?_))
    refine only_bind (only_query _ trivial) (fun n => only_bind (only_refuse _ _) (fun _ => ?_))
    refine only_bind (only_query _ trivial) (fun hashed => only_bind (only_require _ _) (fun hash => ?_))
    refine only_bind (only_attempt rfl) (fun r => only_bind (only_attempt trivial) (fun _ => ?_))
    unfold registered
    split
    · exact only_pure _
    · exact .throw _
    · exact .throw _
  | adminSetCustomerPassword id password =>
    refine only_map _ (only_bind (only_require _ _) (fun id => only_bind (only_refuse _ _) (fun _ => ?_)))
    refine only_bind (only_query _ trivial) (fun hashed => only_bind (only_require _ _) (fun hash => ?_))
    exact only_bind (only_query _ ⟨rfl, _, _, rfl⟩) (fun n => only_refuse _ _)

/-- The step commits the admin's new password. -/
def ByAdmin (lab : Option (Req ⊕ AccountRequest)) : Prop :=
  ∃ id password, lab = some (.inr (.adminSetCustomerPassword id password))

section Runs

variable (hashPassword : ℕ → String → Option String) (srv : Server)

/-- The pool of the server takes a step. -/
abbrev AccountStep (s : AccountPool) (lab : Option (Req ⊕ AccountRequest)) (s' : AccountPool) : Prop :=
  Pool.Step (accounts hashPassword).database (wholeProgram srv) accountProgram s lab s'

/-- The pool gets from `s` to `s'`. -/
abbrev AccountRun (s s' : AccountPool) : Prop :=
  Pool.Run (accounts hashPassword).database (wholeProgram srv) accountProgram s s'

variable {hashPassword srv} {d₀ : AccountDb} {s s' : AccountPool}

/-- A transaction that is done commits an effect. -/
theorem done_effect (h : AccountRun hashPassword srv (Pool.State.quiet d₀) s) {i : ℕ} {t}
    {a : AccountAnswer} (live : s.base.txs i = some t) (done : t.prog = .pure a)
    (fine : t.failed = false) :
    Effect t.req a t.locks s.db.1.customers
      ((accounts hashPassword).database.view s.db t.writes).1.customers := by
  have hends := RelyGuarantee.Sound.steady
    (RelyGuarantee.Steady.ends (endsInEffect hashPassword) (endsInEffect_stable hashPassword)
      (work_ends hashPassword srv)) (accounts_verified hashPassword srv) h.base i t live fine
  change (accountRules hashPassword).wp t.now t.prog _ _ _ _ at hends
  rw [done] at hends
  exact hends _ ((accountRules hashPassword).refl _ _)

/-- **What a step does to the accounts.** -/
theorem step_effect (h : AccountRun hashPassword srv (Pool.State.quiet d₀) s)
    {lab : Option (Req ⊕ AccountRequest)} (hstep : AccountStep hashPassword srv s lab s') :
    s'.db = s.db ∨ ∃ who w a L, lab = some who ∧ Pool.Serves s w who ∧
      Effect w a L s.db.1.customers s'.db.1.customers := by
  rcases hstep.committed with ⟨-, he⟩ | ⟨who, i, t, a, hlab, live, done, fine, hserves, he⟩
  · exact Or.inl he
  · refine Or.inr ⟨who, t.req, a, t.locks, hlab, hserves, ?_⟩
    rw [he]
    exact done_effect h live done fine

theorem reaches_onePerPhone (h₀ : OnePerPhone d₀.1.customers)
    (h : AccountRun hashPassword srv (Pool.State.quiet d₀) s) : OnePerPhone s.db.1.customers := by
  induction h with
  | refl => exact h₀
  | step hs hstep ih =>
    rcases step_effect hs hstep with he | ⟨who, w, a, L, -, -, heff⟩
    · rw [he]
      exact ih
    · exact heff.onePerPhone ih

/-- **What a step makes of an account.** -/
theorem step_follows (h : AccountRun hashPassword srv (Pool.State.quiet d₀) s)
    {lab : Option (Req ⊕ AccountRequest)} (hstep : AccountStep hashPassword srv s lab s')
    {c : CustomerRow} (hc : c ∈ s.db.1.customers) :
    ∃ c' ∈ s'.db.1.customers, c'.id = c.id ∧ c'.phone = c.phone ∧
      (c.passwordHash.isSome = true → c'.passwordHash.isSome = true ∧
        (¬ ByAdmin lab → c'.passwordHash = c.passwordHash ∧ (c.name ≠ "" → c'.name = c.name))) := by
  rcases step_effect h hstep with he | ⟨who, w, a, L, hlab, hserves, heff⟩
  · exact ⟨c, by rw [he]; exact hc, rfl, rfl, fun hsome => ⟨hsome, fun _ => ⟨rfl, fun _ => rfl⟩⟩⟩
  · obtain ⟨c', hc', hid, hphone, hfollows⟩ := heff.follows hc
    refine ⟨c', hc', hid, hphone, fun hsome => ?_⟩
    cases hfollows with
    | kept hash name => exact ⟨by rw [hash]; exact hsome, fun _ => ⟨hash, name⟩⟩
    | claimed hw open' hash =>
      rw [open'] at hsome
      cases hsome
    | reset hw hash =>
      subst hw
      cases hserves with
      | @call x st k hx next =>
        have honly := h.only accountProgram_only x hx
        rw [next] at honly
        obtain ⟨hhash, id, password, hreq⟩ := honly.stmt
        refine ⟨by rw [hash]; exact hhash, fun hnot => absurd ⟨id, password, ?_⟩ hnot⟩
        rw [hlab, hreq]

/-- An account stays under its id and its phone. -/
theorem run_follows (h : AccountRun hashPassword srv (Pool.State.quiet d₀) s)
    (hrun : AccountRun hashPassword srv s s') {c : CustomerRow} (hc : c ∈ s.db.1.customers) :
    ∃ c' ∈ s'.db.1.customers, c'.id = c.id ∧ c'.phone = c.phone := by
  induction hrun with
  | refl => exact ⟨c, hc, rfl, rfl⟩
  | step hs hstep ih =>
    obtain ⟨c₁, hc₁, hid₁, hp₁⟩ := ih
    obtain ⟨c₂, hc₂, hid₂, hp₂, -⟩ := step_follows (h.trans hs) hstep hc₁
    exact ⟨c₂, hc₂, hid₂.trans hid₁, hp₂.trans hp₁⟩

/-! ### Sign-ups -/

/-- A statement that got the account of the phone for a sign-up. -/
def gotAccount (phone : String) :
    Autocommit.Entry PgError AllAccountStmt (Sum.elim Stmt.Val AccountStmt.Val) → Bool
  | ⟨.inr (.createCustomer arg), _, .ok (some _)⟩ =>
    decide (arg.phone = phone) && arg.passwordHash.isSome
  | _ => false

/-- A sign-up of the phone that was answered 201. -/
def signedUp (phone : String) (c : AccountCall) : Bool :=
  match c.req, c.prog with
  | .register req, .pure _ => decide (normalizePhone req.phone.toList = some phone)
  | _, _ => false

/-- The requests that sign a phone up. -/
def SignsUp (phone : String) (q : AccountRequest) : Prop :=
  ∃ req, q = .register req ∧ normalizePhone req.phone.toList = some phone

/-- A sign-up is answered 201 only after it got the account. -/
theorem register_earned {phone : String} {q : AccountRequest} (hq : SignsUp phone q) :
    Pool.Earned (gotAccount phone) (accountProgram q) := by
  obtain ⟨req, rfl, hphone⟩ := hq
  refine Pool.earned_map _ ?_
  refine Pool.earned_require (fun phone' hphone' => ?_)
  obtain rfl : phone' = phone := Option.some.inj (hphone'.symm.trans hphone)
  refine Pool.earned_bind (fun _ => Pool.earned_bind (fun _ => Pool.earned_bind (fun n => ?_)))
  refine Pool.earned_bind (fun _ => Pool.earned_bind (fun hashed => Pool.earned_bind (fun hash => ?_)))
  refine Pool.earned_attempt (fun now r hmiss => Pool.earned_bind (fun _ => ?_))
  cases r with
  | error e => trivial
  | ok c =>
    cases c with
    | none => trivial
    | some c =>
      exfalso
      revert hmiss
      simp [gotAccount]

/-- A phone is signed up once. -/
theorem signedUp_once (h₀ : OnePerPhone d₀.1.customers)
    (h : AccountRun hashPassword srv (Pool.State.quiet d₀) s) (phone : String) :
    s.calls.countP (signedUp phone) ≤ 1 := by
  have honce : s.calls.countP (fun c => c.log.any (gotAccount phone)) ≤ 1 := by
    refine (Pool.Run.won_once (fun d : AccountDb => Closed phone d.1.customers) ?_ ?_ ?_ h).1
    · intro st now e
      cases st with
      | inl s => rfl
      | inr s => cases s <;> rfl
    · rintro s lab s' hs hstep ⟨c, hc, hphone, hsome⟩
      obtain ⟨c', hc', -, hphone', hkeeps⟩ := step_follows hs hstep hc
      exact ⟨c', hc', hphone'.trans hphone, (hkeeps hsome).1⟩
    · intro s i t st v hs live hreq done fine hhit
      unfold gotAccount at hhit
      split at hhit
      · rename_i arg now c heq
        cases heq
        obtain ⟨rfl, hash⟩ : arg.phone = phone ∧ arg.passwordHash.isSome = true := by
          rw [Bool.and_eq_true] at hhit
          exact ⟨of_decide_eq_true hhit.1, hhit.2⟩
        exact (done_effect hs live done fine).closes (reaches_onePerPhone h₀ hs) hash
      · cases hhit
  refine le_trans (List.countP_mono_left (fun c hc hup => ?_)) honce
  unfold signedUp at hup
  split at hup
  · rename_i req answer hreq hprog
    exact h.earned (fun q (hq : SignsUp phone q) => register_earned hq) hc
      ⟨req, hreq, of_decide_eq_true hup⟩ hprog
  · cases hup

/-- **Accounts cannot be taken over.**  In every interleaving of sign-ups, bookings and the admin's
passwords a phone has one account and one sign-up that was answered 201; only the admin changes a
password that is there, or the name of an account that has one; and the account of a phone stays the
row it is, claimed or not. -/
theorem accounts_kept (hashPassword : ℕ → String → Option String) (srv : Server) (d₀ : AccountDb)
    (h₀ : OnePerPhone d₀.1.customers) (s : AccountPool)
    (h : AccountRun hashPassword srv (Pool.State.quiet d₀) s) :
    OnePerPhone s.db.1.customers ∧
    (∀ phone, s.calls.countP (signedUp phone) ≤ 1) ∧
    (∀ lab s', AccountStep hashPassword srv s lab s' → ¬ ByAdmin lab → ∀ c ∈ s.db.1.customers,
      c.passwordHash.isSome = true → ∃ c' ∈ s'.db.1.customers, c'.id = c.id ∧
        c'.passwordHash = c.passwordHash ∧ (c.name ≠ "" → c'.name = c.name)) ∧
    (∀ s', AccountRun hashPassword srv s s' → ∀ c ∈ s.db.1.customers,
      ∃ c' ∈ s'.db.1.customers, c'.id = c.id ∧ c'.phone = c.phone ∧
        ∀ x ∈ s'.db.1.customers, x.phone = c.phone → x = c') := by
  refine ⟨reaches_onePerPhone h₀ h, signedUp_once h₀ h, ?_, ?_⟩
  · intro lab s' hstep hnot c hc hsome
    obtain ⟨c', hc', hid, -, hkeeps⟩ := step_follows h hstep hc
    exact ⟨c', hc', hid, (hkeeps hsome).2 hnot⟩
  · intro s' hrun c hc
    obtain ⟨c', hc', hid, hphone⟩ := run_follows h hrun hc
    exact ⟨c', hc', hid, hphone, fun x hx hx' =>
      reaches_onePerPhone h₀ (h.trans hrun) x hx c' hc' (hx'.trans hphone.symm)⟩

/-- Two sign-ups for the phone of an account that a booking opened. -/
def monaSignsUp : List (AccountRequest × Oracle × ℤ) :=
  [(.register ⟨"01012345678", "Mona Ali", "a long password", "10.0.0.1"⟩, oracleAt 7 0, 0),
    (.register ⟨"+20 10 1234 5678", "Somebody", "another password", "10.0.0.2"⟩, oracleAt 8 1, 1)]

/-- A hash of a password, with its salt. -/
def plainHash (salt : ℕ) (password : String) : Option String :=
  some (password ++ String.ofList (List.replicate salt '$'))

/-- The pool after the two. -/
def monaSignedUp : AccountPool :=
  let x := monaSignsUp.foldl (Pool.serve (accounts plainHash).database accountProgram)
    ((plainWorld, []), [])
  ⟨ReadCommitted.State.quiet x.1, x.2⟩

/-- The first of them claims the account, the second is answered 409. -/
theorem accounts_kept_mona :
    AccountRun plainHash winterServer (Pool.State.quiet (plainWorld, [])) monaSignedUp ∧
    monaSignedUp.calls.map (signedUp "+201012345678") = [true, false] ∧
    monaSignedUp.db.1.customers.rows.map (fun c => (c.id, c.name, c.passwordHash.isSome)) =
      [(1, "Mona Ali", true)] ∧
    OnePerPhone monaSignedUp.db.1.customers ∧
    ∀ phone, monaSignedUp.calls.countP (signedUp phone) ≤ 1 := by
  have h₀ : OnePerPhone plainWorld.customers := by
    intro x hx y hy _
    have hone : ∀ z ∈ plainWorld.customers, z = mona := by
      intro z hz
      rcases Table.mem_of_mem_insert hz with hz | hz
      · exact absurd hz (Table.not_mem_empty z)
      · exact hz
    rw [hone x hx, hone y hy]
  have hrun : AccountRun plainHash winterServer (Pool.State.quiet (plainWorld, [])) monaSignedUp :=
    Pool.Run.serve_all monaSignsUp ((plainWorld, []), []) Pool.Run.refl
  have hkept := accounts_kept plainHash winterServer (plainWorld, []) h₀ _ hrun
  refine ⟨hrun, ?_, ?_, hkept.1, hkept.2.1⟩
  · decide +kernel
  · decide +kernel

end Runs

end Sahel
