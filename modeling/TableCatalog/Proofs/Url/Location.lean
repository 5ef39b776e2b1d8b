import TableCatalog.Location
import TableCatalog.Proofs.Url.Below

/-!
# Locations below a root

A root of locations loses the slashes at its end before names are put below it, each behind one
slash. If the root is a path, what lies below it is a path too. If it is a URL, the slashes may have
been all that marked it as one, as in `file:///`; otherwise what lies below it is a URL as well.
-/

namespace TableCatalog

/-- A text is trimmed if no blank stands at either end of it. -/
theorem Text.trim_eq_self_iff {s : String} :
    trim s = s ↔ (∀ c ∈ s.toList.head?, isBlank c = false) ∧
      ∀ c ∈ s.toList.getLast?, isBlank c = false := by
  have asLists : trim s = s ↔ (s.toList.dropWhile isBlank).rdropWhile isBlank = s.toList := by
    rw [← String.toList_inj, trim, String.toList_ofList]
    rfl
  rw [asLists]
  generalize s.toList = cs
  have front : cs.dropWhile isBlank = cs ↔ ∀ c ∈ cs.head?, isBlank c = false := by
    cases cs with
    | nil => simp
    | cons c cs => simp
  have back : cs.rdropWhile isBlank = cs ↔ ∀ c ∈ cs.getLast?, isBlank c = false := by
    rcases List.eq_nil_or_concat cs with rfl | ⟨start, c, rfl⟩
    · simp
    · simp [List.concat_eq_append]
  rw [← front, ← back]
  constructor
  · intro same
    have short := (List.rdropWhile_prefix isBlank (cs.dropWhile isBlank)).length_le
    have kept : cs.dropWhile isBlank = cs :=
      (List.dropWhile_suffix isBlank).eq_of_length_le (by rwa [same] at short)
    exact ⟨kept, by rwa [kept] at same⟩
  · rintro ⟨kept, same⟩
    rw [kept, same]

namespace Location

open Url (IsMarked isMarked_iff)

variable {root s s' : String} {cs name : List Char}

theorem holdsAuthorityMark_iff : holdsAuthorityMark cs = true ↔ IsMarked cs := by
  induction cs with
  | nil => simp [holdsAuthorityMark, IsMarked]
  | cons c cs ih =>
    rw [holdsAuthorityMark, Bool.or_eq_true, List.isPrefixOf_iff_prefix, ih]
    exact List.infix_cons_iff.symm

section

variable (full : s ≠ "") (trimmed : Text.trim s = s)
include full trimmed

theorem defect?_of_marked (marked : holdsAuthorityMark s.toList = true) :
    defect? s = none ↔ ∃ u, Url.parse s = .ok u := by
  rw [defect?, if_neg (by simpa using full), if_neg (not_not_intro trimmed), if_pos marked]
  cases Url.parse s with
  | ok u => exact ⟨fun _ => ⟨u, rfl⟩, fun _ => rfl⟩
  | error d => simp

theorem defect?_of_unmarked (unmarked : ¬ holdsAuthorityMark s.toList = true) :
    defect? s = if s.toList.head? = some '/' then none else some .notAbsolute := by
  rw [defect?, if_neg (by simpa using full), if_neg (not_not_intro trimmed), if_neg unmarked]

end

/-- A text is a location exactly if it is trimmed and a URL, where it is marked as one, or else
begins with a slash. -/
theorem defect?_eq_none_iff :
    defect? s = none ↔ s ≠ "" ∧ Text.trim s = s ∧
      (IsMarked s.toList → ∃ u, Url.parse s = .ok u) ∧
      (¬ IsMarked s.toList → s.toList.head? = some '/') := by
  by_cases full : s = ""
  · subst full
    exact iff_of_false (by decide) fun sound => sound.1 rfl
  by_cases trimmed : Text.trim s = s
  · rw [← holdsAuthorityMark_iff]
    by_cases marked : holdsAuthorityMark s.toList = true
    · rw [defect?_of_marked full trimmed marked]
      simp [full, trimmed, marked]
    · rw [defect?_of_unmarked full trimmed marked]
      simp [full, trimmed, marked]
  · refine iff_of_false ?_ fun sound => trimmed sound.2.1
    rw [defect?, if_neg (by simpa using full), if_pos trimmed]
    intro impossible
    cases impossible

/-- A name behind a slash brings no mark along, nor does it complete one. -/
theorem isMarked_join_iff (last : cs.getLast? ≠ some '/') (colon : ':' ∉ name)
    (first : name.head? ≠ some '/') : IsMarked (cs ++ '/' :: name) ↔ IsMarked cs := by
  constructor
  · intro marked
    obtain ⟨front, back, split⟩ := isMarked_iff.mp marked
    rcases List.append_eq_append_iff.mp split with ⟨between, -, same⟩ | ⟨between, rfl, same⟩
    · have inside : ':' ∈ '/' :: name := by simp [same]
      exact absurd inside (by simp [colon])
    · match between with
      | [] => cases same
      | [c] =>
        simp only [List.cons_append, List.nil_append, List.cons.injEq, true_and] at same
        obtain ⟨-, rfl⟩ := same
        exact absurd rfl first
      | [c, d] =>
        simp only [List.cons_append, List.nil_append, List.cons.injEq] at same
        obtain ⟨-, rfl, -⟩ := same
        exact absurd (by simp) last
      | c :: d :: e :: between =>
        simp only [List.cons_append, List.cons.injEq] at same
        obtain ⟨rfl, rfl, rfl, -⟩ := same
        exact isMarked_iff.mpr ⟨front, between, rfl⟩
  · intro marked
    exact marked.trans (List.prefix_append cs _).isInfix

theorem exists_parse_eq_ok_iff : (∃ l, parse s = .ok l) ↔ defect? s = none := by
  constructor
  · rintro ⟨l, read⟩
    exact text_of_parse_eq_ok read ▸ l.sound
  · intro sound
    exact ⟨⟨s, sound⟩, parse_text ⟨s, sound⟩⟩

theorem parse_of_defect {d : Defect} (defect : defect? s = some d) : parse s = .error d := by
  unfold parse
  split
  · next sound =>
    rw [defect] at sound
    cases sound
  · next d' same =>
    rw [defect] at same
    rw [Option.some.inj same]

/-! ## Below a root -/

/-- A root of locations without the slashes at its end. -/
def base (root : String) : List Char := root.toList.rdropWhile (· = '/')

theorem exists_slashes (root : String) :
    ∃ slashes, root.toList = base root ++ slashes ∧ ∀ c ∈ slashes, c = '/' := by
  refine ⟨root.toList.rtakeWhile (· = '/'), List.rdropWhile_append_rtakeWhile.symm, ?_⟩
  intro c mem
  simpa using List.mem_rtakeWhile_imp mem

theorem getLast?_base (root : String) : (base root).getLast? ≠ some '/' := by
  intro last
  have there : base root ≠ [] := by
    intro none
    rw [none] at last
    cases last
  have other := List.rdropWhile_last_not (· = '/') root.toList there
  rw [List.getLast?_eq_some_getLast there, Option.some.injEq] at last
  exact other (decide_eq_true last)

/-- What can stand below a root behind a slash: it does not begin with another slash or end in a
blank, and holds no colon and no control character. -/
structure IsName (name : List Char) : Prop where
  first : name.head? ≠ some '/'
  last : ∀ c ∈ name.getLast?, Text.isBlank c = false
  colon : ':' ∉ name
  solid : ∀ c ∈ name, 0x20 < c.toNat

theorem isName_nil : IsName [] := by
  constructor <;> simp

theorem isMarked_of_base (marked : IsMarked (base root)) : IsMarked root.toList :=
  marked.trans (List.rdropWhile_prefix _ _).isInfix

theorem head?_ne_of_isMarked (accepted : defect? root = none) (marked : IsMarked root.toList) :
    root.toList.head? ≠ some '/' := by
  intro slash
  exact Url.not_parse_of_slash slash ((defect?_eq_none_iff.mp accepted).2.2.1 marked)

section

variable (accepted : defect? root = none) (proper : IsName name)
variable (text : s.toList = base root ++ '/' :: name)

include text in
theorem ne_empty_below : s ≠ "" := by
  rintro rfl
  simp at text

include accepted text in
theorem head?_below : s.toList.head? = root.toList.head? := by
  have full := (defect?_eq_none_iff.mp accepted).1
  obtain ⟨slashes, split, only⟩ := exists_slashes root
  rw [text, split]
  cases start : base root with
  | cons c cs => rfl
  | nil =>
    rw [start, List.nil_append] at split
    cases slashes with
    | nil => exact absurd (String.toList_inj.mp split) full
    | cons c slashes =>
      rw [only c List.mem_cons_self]
      rfl

include accepted proper text

theorem trim_below : Text.trim s = s := by
  have trimmed := (defect?_eq_none_iff.mp accepted).2.1
  rw [Text.trim_eq_self_iff] at trimmed ⊢
  refine ⟨head?_below accepted text ▸ trimmed.1, ?_⟩
  intro c last
  rw [text, List.getLast?_append_of_ne_nil _ (List.cons_ne_nil _ _), List.getLast?_cons] at last
  obtain rfl := Option.some.inj last
  cases ends : name.getLast? with
  | none => rfl
  | some d => exact proper.last d ends

/-- Below a root of locations, a text is a location exactly if it is a URL, where the root without
its slashes is marked as one, or else the root begins with a slash. -/
theorem defect?_below_eq_none_iff :
    defect? s = none ↔ (IsMarked (base root) → ∃ u, Url.parse s = .ok u) ∧
      (¬ IsMarked (base root) → root.toList.head? = some '/') := by
  rw [defect?_eq_none_iff, and_iff_right (ne_empty_below text),
    and_iff_right (trim_below accepted proper text), head?_below accepted text, text,
    isMarked_join_iff (getLast?_base root) proper.colon proper.first]

/-- Where the slashes at the end of a root belong to its mark, nothing below it is a location. -/
theorem defect?_below_of_unmarked (marked : IsMarked root.toList)
    (unmarked : ¬ IsMarked (base root)) : defect? s = some .notAbsolute := by
  have plain : ¬ holdsAuthorityMark s.toList = true := by
    rwa [holdsAuthorityMark_iff, text,
      isMarked_join_iff (getLast?_base root) proper.colon proper.first]
  have relative : s.toList.head? ≠ some '/' := by
    rw [head?_below accepted text]
    exact head?_ne_of_isMarked accepted marked
  rw [defect?_of_unmarked (ne_empty_below text) (trim_below accepted proper text) plain,
    if_neg relative]

/-- All names are alike below a root of locations: it does not depend on the name whether there is a
location. -/
theorem defect?_below_congr {name' : List Char} (proper' : IsName name')
    (text' : s'.toList = base root ++ '/' :: name') : defect? s = none ↔ defect? s' = none := by
  rw [defect?_below_eq_none_iff accepted proper text,
    defect?_below_eq_none_iff accepted proper' text']
  refine and_congr_left' (imp_congr_right fun marked => ?_)
  obtain ⟨slashes, split, only⟩ := exists_slashes root
  have ok := (defect?_eq_none_iff.mp accepted).2.2.1 (isMarked_of_base marked)
  have addressed := Url.hasAddress_of_parse marked split only ok
  rw [Url.exists_parse_slash_iff marked addressed text proper.solid,
    Url.exists_parse_slash_iff marked addressed text' proper'.solid]

/-- Below a root that ends in neither a control character nor an at sign, there are locations unless
the slashes at its end belong to its mark. -/
theorem defect?_below_eq_none_iff_of_plain
    (plain : ∀ c ∈ root.toList.getLast?, 0x20 < c.toNat ∧ c ≠ '@') :
    defect? s = none ↔ root.toList.head? = some '/' ∨ IsMarked (base root) := by
  rw [defect?_below_eq_none_iff accepted proper text]
  by_cases marked : IsMarked (base root)
  · obtain ⟨slashes, split, only⟩ := exists_slashes root
    have ok := (defect?_eq_none_iff.mp accepted).2.2.1 (isMarked_of_base marked)
    have below := Url.exists_parse_below marked split only ok plain text proper.solid
    simp only [marked, below, not_true_eq_false, false_implies, implies_true, or_true, true_and]
  · simp only [marked, not_false_eq_true, false_implies, true_implies, true_and, or_false]

end

end Location

end TableCatalog
