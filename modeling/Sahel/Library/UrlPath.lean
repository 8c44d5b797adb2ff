import Mathlib.Data.List.DropRight
import Mathlib.Data.List.Infix
import Mathlib.Data.Nat.Notation

/-!
# Paths of URLs

The URL standard on a reference that begins with one slash, as a page of the web follows it: `parse`
resolves it against an origin.

* `pathState` reads the segments: slashes and backslashes end one, `..` goes one up and `.` nowhere,
  both also with `%2e` for a dot;
* `common` counts how far a path follows another one, the root, and `walk` keeps this count and the
  depth, segment by segment;
* **`parse_inDirectory_iff`**: what is resolved is in the directory of the root just when the walk ends
  with all of the root.

A text is a list of Unicode scalar values.
-/

set_option autoImplicit false

namespace UrlPath

/-! ### Characters -/

/-- C0 controls and the space, which are dropped at both ends. -/
def c0OrSpace (c : Char) : Bool := c.toNat ≤ 0x20

/-- Tabs and line ends, which are dropped anywhere. -/
def tabOrNewline (c : Char) : Bool := c == '\t' || c == '\n' || c == '\r'

/-- What ends a segment. -/
def isSlash (c : Char) : Bool := c == '/' || c == '\\'

/-- What ends the path. -/
def endsPath (c : Char) : Bool := c == '?' || c == '#'

/-- The path percent-encode set. -/
def pathSet (c : Char) : Bool :=
  c.toNat ≤ 0x20 || 0x7E < c.toNat || c ∈ ['\x22', '#', '<', '>', '?', '^', '\x60', '\x7B', '\x7D']

def hexDigit (n : ℕ) : Char := Char.ofNat (if n < 10 then 0x30 + n else 0x37 + n)

/-- UTF-8 percent-encode, with the path percent-encode set. -/
def percentEncode (c : Char) : List Char :=
  if pathSet c then
    (String.utf8EncodeChar c).flatMap (fun b => ['%', hexDigit (b.toNat / 16), hexDigit (b.toNat % 16)])
  else [c]

def clean (s : List Char) : List Char :=
  ((s.dropWhile c0OrSpace).rdropWhile c0OrSpace).filter (fun c => !tabOrNewline c)

/-- What does not begin with a blank is only cut at its end, and not into the first characters. -/
theorem clean_cons_cons {c d : Char} (hc : c0OrSpace c = false) (hd : c0OrSpace d = false) (s : List Char) :
    ∃ rest, clean (c :: d :: s) = c :: d :: rest := by
  have htab : ∀ {x : Char}, c0OrSpace x = false → (!tabOrNewline x) = true := by
    intro x hx
    rw [Bool.not_eq_true', Bool.eq_false_iff]
    intro htab
    rw [tabOrNewline, Bool.or_eq_true, Bool.or_eq_true, beq_iff_eq, beq_iff_eq, beq_iff_eq] at htab
    rcases htab with (rfl | rfl) | rfl <;> cases hx
  have hcut : ∀ t : List Char, (c :: d :: t).rdropWhile c0OrSpace = c :: d :: t.rdropWhile c0OrSpace := by
    intro t
    induction t using List.reverseRecOn with
    | nil =>
      refine List.rdropWhile_eq_self_iff.mpr (fun _ => ?_)
      show ¬ c0OrSpace d = true
      rw [hd]
      exact Bool.false_ne_true
    | append_singleton t x ih =>
      rw [← List.cons_append, ← List.cons_append, List.rdropWhile_concat, List.rdropWhile_concat, ih]
      split_ifs <;> rfl
  have hstart : (c :: d :: s).dropWhile c0OrSpace = c :: d :: s := by
    rw [List.dropWhile_cons, if_neg (by rw [hc]; exact Bool.false_ne_true)]
  refine ⟨(s.rdropWhile c0OrSpace).filter (fun x => !tabOrNewline x), ?_⟩
  rw [clean, hstart, hcut, List.filter_cons, if_pos (htab hc), List.filter_cons, if_pos (htab hd)]

/-! ### Segments -/

abbrev Segment : Type := List Char

def isSingleDot (s : Segment) : Bool := s.map Char.toLower ∈ [".".toList, "%2e".toList]

def isDoubleDot (s : Segment) : Bool :=
  s.map Char.toLower ∈ ["..".toList, ".%2e".toList, "%2e.".toList, "%2e%2e".toList]

/-- The path after a segment; the last one has no slash behind it. -/
def endSegment (last : Bool) (path : List Segment) (s : Segment) : List Segment :=
  if isDoubleDot s then if last then path.dropLast ++ [[]] else path.dropLast
  else if isSingleDot s then if last then path ++ [[]] else path
  else path ++ [s]

/-- The path state: what is left of the input, the buffer, and the path so far. -/
def pathState : List Char → Segment → List Segment → List Segment
  | [], buffer, path => endSegment true path buffer
  | c :: rest, buffer, path =>
    if isSlash c then pathState rest [] (endSegment false path buffer)
    else if endsPath c then endSegment true path buffer
    else pathState rest (buffer ++ percentEncode c) path

structure Url (Origin : Type) where
  origin : Origin
  path : List Segment
  deriving DecidableEq

/-- A reference that begins with one slash, resolved against a page of the origin.  The others name a
host or a scheme of their own, or are relative to the page's path. -/
def parse {Origin : Type} (origin : Origin) (input : List Char) : Option (Url Origin) :=
  match clean input with
  | c :: rest =>
    if isSlash c && !(rest.head?.any isSlash) then some ⟨origin, pathState rest [] []⟩ else none
  | [] => none

/-- The path of a URL as text. -/
def pathname (path : List Segment) : List Char := path.flatMap (fun s => '/' :: s)

example : (parse () "/a/b/%2E./c\\.\tx\n?../d ".toList).map (fun u => String.ofList (pathname u.path))
    = some "/a/c/.x" := by
  decide

/-! ### Segment by segment -/

/-- The segments of what is left of the input, after a buffer. -/
def segments : Segment → List Char → List Segment
  | buffer, [] => [buffer]
  | buffer, c :: rest =>
    if isSlash c then buffer :: segments [] rest
    else if endsPath c then [buffer]
    else segments (buffer ++ percentEncode c) rest

/-- The path after some segments, the last of which ends it. -/
def collapse : List Segment → List Segment → List Segment
  | path, [] => path
  | path, [s] => endSegment true path s
  | path, s :: t :: rest => collapse (endSegment false path s) (t :: rest)

theorem segments_ne_nil : ∀ (input : List Char) (buffer : Segment), segments buffer input ≠ [] := by
  intro input
  induction input with
  | nil => exact fun buffer => List.cons_ne_nil _ _
  | cons c rest ih =>
    intro buffer
    rw [segments]
    split_ifs
    · exact List.cons_ne_nil _ _
    · exact List.cons_ne_nil _ _
    · exact ih _

theorem collapse_cons {path : List Segment} {s : Segment} {rest : List Segment} (h : rest ≠ []) :
    collapse path (s :: rest) = collapse (endSegment false path s) rest := by
  cases rest with
  | nil => exact absurd rfl h
  | cons t rest => rfl

/-- **The path state**, segment by segment. -/
theorem pathState_eq : ∀ (input : List Char) (buffer : Segment) (path : List Segment),
    pathState input buffer path = collapse path (segments buffer input) := by
  intro input
  induction input with
  | nil => exact fun buffer path => rfl
  | cons c rest ih =>
    intro buffer path
    rw [pathState, segments]
    split_ifs
    · rw [ih, collapse_cons (segments_ne_nil rest [])]
    · rfl
    · exact ih _ _

/-! ### Following a root -/

/-- How far a path follows a root. -/
def common : List Segment → List Segment → ℕ
  | r :: root, s :: path => if r = s then common root path + 1 else 0
  | _, _ => 0

/-- The depth, and how many levels of the root it is under. -/
structure Place where
  depth : ℕ
  shared : ℕ

/-- One segment. -/
def step (root : List Segment) (p : Place) (s : Segment) : Place :=
  if isDoubleDot s then ⟨p.depth - 1, min p.shared (p.depth - 1)⟩
  else if isSingleDot s then p
  else ⟨p.depth + 1, if p.shared = p.depth ∧ root[p.depth]? = some s then p.shared + 1 else p.shared⟩

/-- All segments, from the top. -/
def walk (root : List Segment) (segs : List Segment) : Place := segs.foldl (step root) ⟨0, 0⟩

/-- A path follows all of a root when it is under it. -/
theorem common_eq_length_iff : ∀ (root path : List Segment),
    common root path = root.length ↔ root <+: path := by
  intro root
  induction root with
  | nil => exact fun path => iff_of_true rfl List.nil_prefix
  | cons r root ih =>
    intro path
    cases path with
    | nil => exact iff_of_false (Nat.succ_ne_zero _).symm (fun h => by cases List.prefix_nil.mp h)
    | cons s path =>
      rw [common, List.cons_prefix_cons, List.length_cons]
      by_cases hrs : r = s
      · rw [if_pos hrs, Nat.succ_inj, ih path]
        exact (and_iff_right hrs).symm
      · rw [if_neg hrs]
        exact iff_of_false (Nat.succ_ne_zero _).symm (fun h => hrs h.1)

theorem common_nil (root : List Segment) : common root [] = 0 := by
  cases root <;> rfl

theorem common_concat : ∀ (root path : List Segment) (s : Segment),
    common root (path ++ [s]) =
      if common root path = path.length ∧ root[path.length]? = some s then common root path + 1
      else common root path := by
  intro root
  induction root with
  | nil =>
    intro path s
    cases path <;> rfl
  | cons r root ih =>
    intro path s
    cases path with
    | nil =>
      show (if r = s then common root [] + 1 else 0) = if 0 = 0 ∧ some r = some s then 1 else 0
      simp only [common_nil, Option.some.injEq, true_and]
    | cons t path =>
      show (if r = t then common root (path ++ [s]) + 1 else 0) = _
      rw [common, List.length_cons, List.getElem?_cons_succ]
      by_cases hrt : r = t
      · rw [if_pos hrt, if_pos hrt, ih]
        simp only [Nat.add_right_cancel_iff]
        split_ifs <;> rfl
      · rw [if_neg hrt, if_neg hrt, if_neg (fun h => absurd h.1.symm (Nat.succ_ne_zero _))]

theorem common_dropLast : ∀ (root path : List Segment),
    common root path.dropLast = min (common root path) (path.length - 1) := by
  intro root
  induction root with
  | nil =>
    intro path
    have hzero : ∀ l : List Segment, common [] l = 0 := fun l => rfl
    rw [hzero, hzero, Nat.zero_min]
  | cons r root ih =>
    intro path
    cases path with
    | nil => rfl
    | cons t path =>
      cases path with
      | nil => exact (Nat.min_zero _).symm
      | cons u path =>
        show (if r = t then common root (u :: path).dropLast + 1 else 0) =
          min (if r = t then common root (u :: path) + 1 else 0) (path.length + 1)
        by_cases hrt : r = t
        · rw [if_pos hrt, if_pos hrt, ih, Nat.succ_min_succ]
          rfl
        · rw [if_neg hrt, if_neg hrt, Nat.zero_min]

/-! ### The walk -/

/-- Where a path has come to. -/
def place (root path : List Segment) : Place := ⟨path.length, common root path⟩

/-- **One segment that is not the last.** -/
theorem place_endSegment (root path : List Segment) (s : Segment) :
    place root (endSegment false path s) = step root (place root path) s := by
  rw [endSegment, step]
  by_cases hdouble : isDoubleDot s = true
  · rw [if_pos hdouble, if_pos hdouble]
    show Place.mk path.dropLast.length (common root path.dropLast) = _
    rw [List.length_dropLast, common_dropLast]
    rfl
  · rw [if_neg hdouble, if_neg hdouble]
    by_cases hsingle : isSingleDot s = true
    · rw [if_pos hsingle, if_pos hsingle]
      rfl
    · rw [if_neg hsingle, if_neg hsingle]
      show Place.mk (path ++ [s]).length (common root (path ++ [s])) = _
      rw [List.length_append, common_concat]
      rfl

/-- The last one may add an empty segment, which is none of the root's. -/
theorem shared_endSegment {root : List Segment} (hroot : [] ∉ root) (path : List Segment) (s : Segment) :
    common root (endSegment true path s) = (step root (place root path) s).shared := by
  have hempty : ∀ l : List Segment, common root (l ++ [[]]) = common root l := by
    intro l
    rw [common_concat, if_neg (fun h => hroot (List.mem_of_getElem? h.2))]
  have hlast : common root (endSegment true path s) = common root (endSegment false path s) := by
    rw [endSegment, endSegment]
    by_cases hdouble : isDoubleDot s = true
    · rw [if_pos hdouble, if_pos hdouble]
      exact hempty path.dropLast
    · rw [if_neg hdouble, if_neg hdouble]
      by_cases hsingle : isSingleDot s = true
      · rw [if_pos hsingle, if_pos hsingle]
        exact hempty path
      · rw [if_neg hsingle, if_neg hsingle]
  rw [hlast]
  exact congrArg Place.shared (place_endSegment root path s)

theorem common_collapse {root : List Segment} (hroot : [] ∉ root) :
    ∀ (segs path : List Segment), segs ≠ [] →
      common root (collapse path segs) = (segs.foldl (step root) (place root path)).shared := by
  intro segs
  induction segs with
  | nil => exact fun path h => absurd rfl h
  | cons s rest ih =>
    intro path _
    cases rest with
    | nil => exact shared_endSegment hroot path s
    | cons t rest =>
      rw [collapse_cons (List.cons_ne_nil t rest), ih _ (List.cons_ne_nil t rest), place_endSegment]
      rfl

/-- **Where a reference leads**: under the root, just when the walk ends with all of it. -/
theorem pathState_under_iff {root : List Segment} (hroot : [] ∉ root) (input : List Char) :
    root <+: pathState input [] [] ↔ (walk root (segments [] input)).shared = root.length := by
  rw [← common_eq_length_iff, pathState_eq, common_collapse hroot _ _ (segments_ne_nil input [])]
  have hplace : place root [] = ⟨0, 0⟩ := congrArg (Place.mk 0) (common_nil root)
  rw [hplace, walk]

/-! ### Paths as text -/

/-- The path of `root`, or one that goes on behind it with a slash. -/
def InDirectory (root path : List Segment) : Prop :=
  pathname path = pathname root ∨ pathname root ++ ['/'] <+: pathname path

/-- No segment holds a slash. -/
def Plain (path : List Segment) : Prop := ∀ s ∈ path, '/' ∉ s

theorem takeWhile_segment {s : Segment} (hs : '/' ∉ s) {rest : List Char}
    (h : rest = [] ∨ rest.head? = some '/') : (s ++ rest).takeWhile (fun c => c != '/') = s := by
  have hall : ∀ c ∈ s, (c != '/') = true := by
    intro c hc
    rw [bne_iff_ne]
    rintro rfl
    exact hs hc
  rw [List.takeWhile_append_of_pos hall]
  have hnone : rest.takeWhile (fun c => c != '/') = [] := by
    rcases h with rfl | h
    · rfl
    · obtain ⟨tail, rfl⟩ := List.head?_eq_some_iff.mp h
      rfl
  rw [hnone, List.append_nil]

theorem pathname_head (path : List Segment) : pathname path = [] ∨ (pathname path).head? = some '/' := by
  cases path with
  | nil => exact Or.inl rfl
  | cons s path => exact Or.inr rfl

theorem prefix_of_pathname : ∀ {root path : List Segment}, Plain root → Plain path →
    ∀ {rest : List Char}, (rest = [] ∨ rest.head? = some '/') → pathname path = pathname root ++ rest →
      root <+: path := by
  intro root
  induction root with
  | nil => exact fun _ _ _ _ _ => List.nil_prefix
  | cons r root ih =>
    intro path hroot hpath rest hrest h
    cases path with
    | nil => cases h
    | cons s path =>
      have hr := hroot r List.mem_cons_self
      have hs := hpath s List.mem_cons_self
      have htail : s ++ pathname path = r ++ (pathname root ++ rest) := by
        rw [← List.append_assoc]
        exact List.tail_eq_of_cons_eq h
      have hgoes : pathname root ++ rest = [] ∨ (pathname root ++ rest).head? = some '/' := by
        rcases pathname_head root with hnil | hslash
        · rw [hnil]
          exact hrest
        · right
          rw [List.head?_append, hslash]
          rfl
      have hsr : s = r := by
        rw [← takeWhile_segment hs (pathname_head path), htail, takeWhile_segment hr hgoes]
      rw [hsr, List.append_cancel_left_eq] at htail
      rw [hsr, List.prefix_cons_inj]
      exact ih (fun x hx => hroot x (List.mem_cons_of_mem r hx))
        (fun x hx => hpath x (List.mem_cons_of_mem s hx)) hrest htail

/-- **In the directory** is under the root. -/
theorem inDirectory_iff {root path : List Segment} (hroot : Plain root) (hpath : Plain path) :
    InDirectory root path ↔ root <+: path := by
  constructor
  · rintro (h | ⟨rest, h⟩)
    · exact prefix_of_pathname hroot hpath (Or.inl rfl) (h.trans (List.append_nil _).symm)
    · have hgoes : pathname path = pathname root ++ '/' :: rest := by
        rw [← h, List.append_assoc]
        rfl
      exact prefix_of_pathname hroot hpath (Or.inr rfl) hgoes
  · rintro ⟨tail, rfl⟩
    cases tail with
    | nil => exact Or.inl (congrArg pathname (List.append_nil root))
    | cons s tail =>
      refine Or.inr ⟨s ++ pathname tail, ?_⟩
      show _ = pathname (root ++ s :: tail)
      rw [pathname, pathname, pathname, List.flatMap_append, List.flatMap_cons, List.append_assoc]
      rfl

theorem slash_notMem_percentEncode {c : Char} (h : isSlash c = false) : '/' ∉ percentEncode c := by
  have hdigit : ∀ n < 16, '/' ≠ hexDigit n := by decide
  rw [percentEncode]
  split_ifs
  · intro hmem
    obtain ⟨b, -, hb⟩ := List.mem_flatMap.mp hmem
    have hlow : b.toNat % 16 < 16 := Nat.mod_lt _ (by decide)
    have hhigh : b.toNat / 16 < 16 := Nat.div_lt_of_lt_mul b.toNat_lt
    rcases List.mem_cons.mp hb with hb | hb
    · cases hb
    · rcases List.mem_cons.mp hb with hb | hb
      · exact hdigit _ hhigh hb
      · exact hdigit _ hlow (List.mem_singleton.mp hb)
  · intro hmem
    rw [← List.mem_singleton.mp hmem] at h
    cases h

theorem plain_endSegment {last : Bool} {path : List Segment} {s : Segment} (hpath : Plain path)
    (hs : '/' ∉ s) : Plain (endSegment last path s) := by
  have hconcat : ∀ {l : List Segment} {t : Segment}, Plain l → '/' ∉ t → Plain (l ++ [t]) := by
    intro l t hl ht x hx
    rcases List.mem_append.mp hx with hx | hx
    · exact hl x hx
    · rw [List.mem_singleton.mp hx]
      exact ht
  have hdrop : Plain path.dropLast := fun x hx => hpath x (List.mem_of_mem_dropLast hx)
  rw [endSegment]
  split_ifs
  · exact hconcat hdrop List.not_mem_nil
  · exact hdrop
  · exact hconcat hpath List.not_mem_nil
  · exact hpath
  · exact hconcat hpath hs

/-- **A path that was read** has no slash in a segment. -/
theorem plain_pathState : ∀ (input : List Char) (buffer : Segment) (path : List Segment),
    '/' ∉ buffer → Plain path → Plain (pathState input buffer path) := by
  intro input
  induction input with
  | nil => exact fun buffer path hbuffer hpath => plain_endSegment hpath hbuffer
  | cons c rest ih =>
    intro buffer path hbuffer hpath
    rw [pathState]
    split_ifs with hslash hends
    · exact ih _ _ List.not_mem_nil (plain_endSegment hpath hbuffer)
    · exact plain_endSegment hpath hbuffer
    · refine ih _ _ (fun hmem => ?_) hpath
      rcases List.mem_append.mp hmem with hmem | hmem
      · exact hbuffer hmem
      · exact slash_notMem_percentEncode (Bool.eq_false_iff.mpr hslash) hmem

/-- **Where a reference leads.**  It is resolved into the directory of the root just when the walk over
its segments ends with all of the root. -/
theorem parse_inDirectory_iff {Origin : Type} (origin : Origin) {root : List Segment}
    (hroot : Plain root) (hempty : [] ∉ root) {input : List Char} {c d : Char} {rest : List Char}
    (hclean : clean input = c :: d :: rest) (hc : isSlash c = true) (hd : isSlash d = false) :
    (∃ url, parse origin input = some url ∧ url.origin = origin ∧ InDirectory root url.path) ↔
      (walk root (segments [] (d :: rest))).shared = root.length := by
  have hparse : parse origin input = some ⟨origin, pathState (d :: rest) [] []⟩ := by
    rw [parse, hclean]
    show (if isSlash c && !isSlash d then _ else _) = _
    rw [hc, hd]
    rfl
  have hplain := plain_pathState (d :: rest) [] [] List.not_mem_nil (fun s hs => absurd hs List.not_mem_nil)
  rw [← pathState_under_iff hempty, ← inDirectory_iff hroot hplain, hparse]
  constructor
  · rintro ⟨url, hurl, -, hin⟩
    cases hurl
    exact hin
  · exact fun hin => ⟨_, rfl, rfl, hin⟩

end UrlPath
