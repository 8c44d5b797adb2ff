import Mathlib.Data.List.Basic

/-!
# Comma separated values

The grammar of RFC 4180 over any alphabet with its four marks, as a relation between a text and what
it reads as.

* a line break at the end of a file ends the last record and does not begin an empty one;
* **`File.unique`**: no text has two readings;
* `record_joined`, `file_joined`: a record built from its fields and a file from its records.
-/

set_option autoImplicit false

namespace Rfc4180

/-- The four characters that do not stand for themselves. -/
structure Marks (α : Type) where
  comma : α
  quote : α
  cr : α
  lf : α
  quote_ne_comma : quote ≠ comma
  quote_ne_cr : quote ≠ cr
  cr_ne_comma : cr ≠ comma

variable {α : Type} (m : Marks α)

/-- `TEXTDATA`. -/
def TextData (c : α) : Prop := c ≠ m.comma ∧ c ≠ m.quote ∧ c ≠ m.cr ∧ c ≠ m.lf

/-- What stands between the quotes of a field, and its value: a quote is written twice. -/
inductive Quoted : List α → List α → Prop
  | nil : Quoted [] []
  | char {c : α} {text value : List α} : c ≠ m.quote → Quoted text value →
      Quoted (c :: text) (c :: value)
  | quote {text value : List α} : Quoted text value →
      Quoted (m.quote :: m.quote :: text) (m.quote :: value)

inductive Field : List α → List α → Prop
  | plain {text : List α} : (∀ c ∈ text, TextData m c) → Field text text
  | escaped {text value : List α} : Quoted m text value →
      Field (m.quote :: (text ++ [m.quote])) value

inductive Record : List α → List (List α) → Prop
  | last {text value : List α} : Field m text value → Record text [value]
  | cons {text value rest : List α} {values : List (List α)} : Field m text value →
      Record rest values → Record (text ++ m.comma :: rest) (value :: values)

inductive File : List α → List (List (List α)) → Prop
  | last {text : List α} {record : List (List α)} : Record m text record → File text [record]
  | ended {text : List α} {record : List (List α)} : Record m text record →
      File (text ++ [m.cr, m.lf]) [record]
  | cons {text rest : List α} {record : List (List α)} {table : List (List (List α))} :
      Record m text record → rest ≠ [] → File rest table →
      File (text ++ m.cr :: m.lf :: rest) (record :: table)

variable {m}

/-! ### One reading -/

/-- What comes after a field: nothing, a comma or a line break. -/
def Ends (m : Marks α) (rest : List α) : Prop := ∀ c ∈ rest.head?, c = m.comma ∨ c = m.cr

theorem Ends.nil : Ends m [] := by
  intro c h
  cases h

theorem Ends.comma (rest : List α) : Ends m (m.comma :: rest) := by
  intro c h
  cases h
  exact Or.inl rfl

theorem Ends.cr (rest : List α) : Ends m (m.cr :: rest) := by
  intro c h
  cases h
  exact Or.inr rfl

theorem Ends.head {c : α} {rest : List α} (h : Ends m (c :: rest)) : c = m.comma ∨ c = m.cr := by
  apply h
  rfl

theorem Ends.not_textData {c : α} {rest : List α} (h : Ends m (c :: rest)) : ¬ TextData m c := by
  intro htext
  obtain hc | hc := h.head
  · exact htext.1 hc
  · exact htext.2.2.1 hc

theorem Ends.ne_quote {c : α} {rest : List α} (h : Ends m (c :: rest)) : c ≠ m.quote := by
  intro hquote
  obtain hc | hc := h.head
  · exact m.quote_ne_comma (hquote.symm.trans hc)
  · exact m.quote_ne_cr (hquote.symm.trans hc)

/-- Two plain texts, each as long as it can be. -/
theorem plain_unique {text text' rest rest' : List α} (h : ∀ c ∈ text, TextData m c)
    (h' : ∀ c ∈ text', TextData m c) (hends : Ends m rest) (hends' : Ends m rest')
    (heq : text ++ rest = text' ++ rest') : text = text' ∧ rest = rest' := by
  induction text generalizing text' with
  | nil =>
    cases text' with
    | nil => exact ⟨rfl, heq⟩
    | cons c text' =>
      rw [List.nil_append, List.cons_append] at heq
      rw [heq] at hends
      exact absurd (h' c List.mem_cons_self) hends.not_textData
  | cons c text ih =>
    cases text' with
    | nil =>
      rw [List.nil_append, List.cons_append] at heq
      rw [← heq] at hends'
      exact absurd (h c List.mem_cons_self) hends'.not_textData
    | cons c' text' =>
      obtain ⟨rfl, htail⟩ := List.cons.inj heq
      obtain ⟨rfl, hrest⟩ := ih (fun d hd => h d (List.mem_cons_of_mem c hd))
        (fun d hd => h' d (List.mem_cons_of_mem c hd)) htail
      exact ⟨rfl, hrest⟩

/-- The closing quote is the first one that is not written twice. -/
theorem quoted_unique {text text' value value' rest rest' : List α} (h : Quoted m text value)
    (h' : Quoted m text' value') (hends : Ends m rest) (hends' : Ends m rest')
    (heq : text ++ m.quote :: rest = text' ++ m.quote :: rest') :
    text = text' ∧ value = value' ∧ rest = rest' := by
  induction h generalizing text' value' with
  | nil =>
    cases h' with
    | nil => exact ⟨rfl, rfl, (List.cons.inj heq).2⟩
    | char hne _ => exact absurd (List.cons.inj heq).1.symm hne
    | quote _ =>
      have hrest := (List.cons.inj heq).2
      rw [hrest] at hends
      exact absurd rfl hends.ne_quote
  | char hne _ ih =>
    cases h' with
    | nil => exact absurd (List.cons.inj heq).1 hne
    | char _ h' =>
      obtain ⟨rfl, htail⟩ := List.cons.inj heq
      obtain ⟨rfl, rfl, hrest⟩ := ih h' htail
      exact ⟨rfl, rfl, hrest⟩
    | quote _ => exact absurd (List.cons.inj heq).1 hne
  | quote _ ih =>
    cases h' with
    | nil =>
      have hrest := (List.cons.inj heq).2
      rw [← hrest] at hends'
      exact absurd rfl hends'.ne_quote
    | char hne _ => exact absurd (List.cons.inj heq).1.symm hne
    | quote h' =>
      have htail := (List.cons.inj (List.cons.inj heq).2).2
      obtain ⟨rfl, rfl, hrest⟩ := ih h' htail
      exact ⟨rfl, rfl, hrest⟩

/-- A plain text and what comes after it do not begin with a quote. -/
theorem plain_head {text rest : List α} (h : ∀ c ∈ text, TextData m c) (hends : Ends m rest)
    {c : α} {more : List α} (heq : text ++ rest = c :: more) : c ≠ m.quote := by
  cases text with
  | nil =>
    rw [List.nil_append] at heq
    rw [heq] at hends
    exact hends.ne_quote
  | cons d text =>
    obtain ⟨rfl, -⟩ := List.cons.inj heq
    exact (h d List.mem_cons_self).2.1

theorem field_unique {text text' value value' rest rest' : List α} (h : Field m text value)
    (h' : Field m text' value') (hends : Ends m rest) (hends' : Ends m rest')
    (heq : text ++ rest = text' ++ rest') : text = text' ∧ value = value' ∧ rest = rest' := by
  cases h with
  | plain hp =>
    cases h' with
    | plain hp' =>
      obtain ⟨rfl, hrest⟩ := plain_unique hp hp' hends hends' heq
      exact ⟨rfl, rfl, hrest⟩
    | escaped _ => exact absurd rfl (plain_head hp hends heq)
  | escaped hq =>
    cases h' with
    | plain hp' => exact absurd rfl (plain_head hp' hends' heq.symm)
    | escaped hq' =>
      rw [List.cons_append, List.cons_append, List.append_assoc, List.append_assoc] at heq
      have htail := (List.cons.inj heq).2
      obtain ⟨rfl, rfl, hrest⟩ := quoted_unique hq hq' hends hends' htail
      exact ⟨rfl, rfl, hrest⟩

/-- What comes after a record: nothing or a line break. -/
def Breaks (m : Marks α) (rest : List α) : Prop := ∀ c ∈ rest.head?, c = m.cr

theorem Breaks.nil : Breaks m [] := by
  intro c h
  cases h

theorem Breaks.cr (rest : List α) : Breaks m (m.cr :: rest) := by
  intro c h
  cases h
  rfl

theorem Breaks.ends {rest : List α} (h : Breaks m rest) : Ends m rest :=
  fun c hc => Or.inr (h c hc)

theorem Breaks.ne_comma {c : α} {rest : List α} (h : Breaks m (c :: rest)) : c ≠ m.comma := by
  rw [h c rfl]
  exact m.cr_ne_comma

theorem record_unique {text text' rest rest' : List α} {values values' : List (List α)}
    (h : Record m text values) (h' : Record m text' values') (hends : Breaks m rest)
    (hends' : Breaks m rest') (heq : text ++ rest = text' ++ rest') :
    text = text' ∧ values = values' ∧ rest = rest' := by
  induction h generalizing text' values' with
  | last hf =>
    cases h' with
    | last hf' =>
      obtain ⟨rfl, rfl, hrest⟩ := field_unique hf hf' hends.ends hends'.ends heq
      exact ⟨rfl, rfl, hrest⟩
    | cons hf' _ =>
      rw [List.append_assoc, List.cons_append] at heq
      obtain ⟨-, -, hrest⟩ := field_unique hf hf' hends.ends (Ends.comma _) heq
      rw [hrest] at hends
      exact absurd rfl hends.ne_comma
  | cons hf _ ih =>
    cases h' with
    | last hf' =>
      rw [List.append_assoc, List.cons_append] at heq
      obtain ⟨-, -, hrest⟩ := field_unique hf hf' (Ends.comma _) hends'.ends heq
      rw [← hrest] at hends'
      exact absurd rfl hends'.ne_comma
    | cons hf' h' =>
      rw [List.append_assoc, List.cons_append, List.append_assoc, List.cons_append] at heq
      obtain ⟨rfl, rfl, htail⟩ := field_unique hf hf' (Ends.comma _) (Ends.comma _) heq
      obtain ⟨rfl, rfl, hrest⟩ := ih h' (List.cons.inj htail).2
      exact ⟨rfl, rfl, hrest⟩

/-- What comes after the first record, and what it reads as. -/
theorem File.first {text : List α} {table : List (List (List α))} (h : File m text table) :
    ∃ first record tail more, text = first ++ tail ∧ table = record :: more ∧ Record m first record ∧
      Breaks m tail ∧ ((tail = [] ∧ more = []) ∨ (tail = [m.cr, m.lf] ∧ more = []) ∨
        ∃ rest, rest ≠ [] ∧ tail = m.cr :: m.lf :: rest ∧ File m rest more) := by
  cases h with
  | last hr => exact ⟨_, _, [], [], (List.append_nil _).symm, rfl, hr, Breaks.nil, Or.inl ⟨rfl, rfl⟩⟩
  | ended hr => exact ⟨_, _, _, [], rfl, rfl, hr, Breaks.cr _, Or.inr (Or.inl ⟨rfl, rfl⟩)⟩
  | cons hr hne hrest => exact ⟨_, _, _, _, rfl, rfl, hr, Breaks.cr _, Or.inr (Or.inr ⟨_, hne, rfl, hrest⟩)⟩

/-- **A file has one reading.** -/
theorem File.unique {text : List α} {table table' : List (List (List α))} (h : File m text table)
    (h' : File m text table') : table = table' := by
  induction h generalizing table' with
  | last hr =>
    obtain ⟨first, record, tail, more, htext, rfl, hr', hends, hmore⟩ := h'.first
    obtain ⟨-, rfl, rfl⟩ := record_unique hr hr' Breaks.nil hends ((List.append_nil _).trans htext)
    obtain ⟨-, rfl⟩ | ⟨htail, -⟩ | ⟨rest, -, htail, -⟩ := hmore
    · rfl
    · cases htail
    · cases htail
  | ended hr =>
    obtain ⟨first, record, tail, more, htext, rfl, hr', hends, hmore⟩ := h'.first
    obtain ⟨-, rfl, rfl⟩ := record_unique hr hr' (Breaks.cr _) hends htext
    obtain ⟨htail, -⟩ | ⟨-, rfl⟩ | ⟨rest, hne, htail, -⟩ := hmore
    · cases htail
    · rfl
    · cases htail
      exact absurd rfl hne
  | cons hr hne _ ih =>
    obtain ⟨first, record, tail, more, htext, rfl, hr', hends, hmore⟩ := h'.first
    obtain ⟨-, rfl, rfl⟩ := record_unique hr hr' (Breaks.cr _) hends htext
    obtain ⟨htail, -⟩ | ⟨htail, -⟩ | ⟨rest, -, htail, hrest⟩ := hmore
    · cases htail
    · cases htail
      exact absurd rfl hne
    · cases htail
      rw [ih hrest]

/-! ### Writing -/

/-- A text with each quote twice. -/
def doubled [DecidableEq α] (m : Marks α) (value : List α) : List α :=
  value.flatMap (fun c => if c = m.quote then [m.quote, m.quote] else [c])

theorem quoted_doubled [DecidableEq α] (value : List α) : Quoted m (doubled m value) value := by
  induction value with
  | nil => exact Quoted.nil
  | cons c value ih =>
    rw [doubled, List.flatMap_cons]
    by_cases hc : c = m.quote
    · rw [if_pos hc, hc]
      exact Quoted.quote ih
    · rw [if_neg hc]
      exact Quoted.char hc ih

section Join

variable {ι : Type} {write read : ι → List α}

/-- Fields with commas between them are a record. -/
theorem record_joined {cells : List ι} (hne : cells ≠ [])
    (h : ∀ c ∈ cells, Field m (write c) (read c)) :
    Record m ([m.comma].intercalate (cells.map write)) (cells.map read) := by
  induction cells with
  | nil => exact absurd rfl hne
  | cons c cells ih =>
    obtain ⟨hc, hcells⟩ := List.forall_mem_cons.mp h
    by_cases hlast : cells = []
    · rw [hlast, List.map_cons, List.map_nil, List.intercalate_singleton]
      exact Record.last hc
    · have hmap : cells.map write ≠ [] := fun hnil => hlast (List.map_eq_nil_iff.mp hnil)
      rw [List.map_cons, List.intercalate_cons_of_ne_nil hmap, List.append_assoc]
      exact Record.cons hc (ih hlast hcells)

/-- Records with a line break after each are a file. -/
theorem file_joined {table : List ι} {readRow : ι → List (List α)} (hne : table ≠ [])
    (h : ∀ row ∈ table, Record m (write row) (readRow row)) :
    File m ([m.cr, m.lf].intercalate (table.map write) ++ [m.cr, m.lf]) (table.map readRow) := by
  induction table with
  | nil => exact absurd rfl hne
  | cons row table ih =>
    obtain ⟨hrow, htable⟩ := List.forall_mem_cons.mp h
    by_cases hlast : table = []
    · rw [hlast, List.map_cons, List.map_nil, List.intercalate_singleton]
      exact File.ended hrow
    · have hmap : table.map write ≠ [] := fun hnil => hlast (List.map_eq_nil_iff.mp hnil)
      have hrest : [m.cr, m.lf].intercalate (table.map write) ++ [m.cr, m.lf] ≠ [] :=
        List.append_ne_nil_of_right_ne_nil _ (List.cons_ne_nil _ _)
      rw [List.map_cons, List.intercalate_cons_of_ne_nil hmap, List.append_assoc, List.append_assoc]
      exact File.cons hrow hrest (ih hlast htable)

end Join

end Rfc4180
