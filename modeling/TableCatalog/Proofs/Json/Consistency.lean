import Mathlib.Tactic.SplitIfs
import TableCatalog.Json.Parser

/-!
# Two readers of one text

A reader who takes a text in quotes asks more of it than one who skips it, but where both of them
get to its end, they get there at the same place: a surrogate pair is one character for the first
one and two escapes for the second. So in everything that a text shows, each text in quotes that can
be taken can also be skipped (`consistent_reading`), whatever else is wrong with it.
-/

namespace TableCatalog.Json

/-- A text in quotes can be skipped if it can be taken. -/
def Quoted.Consistent (q : Quoted) : Prop := ∀ s, q.taken = .ok s → q.skipped = none

/-- Every text in quotes within a reading can be skipped if it can be taken. -/
inductive Reading.Consistent : Reading → Prop
  | null : Consistent .null
  | bool (b : Bool) : Consistent (.bool b)
  | integer (n : Int) : Consistent (.integer n)
  | real (inRange : Bool) : Consistent (.real inRange)
  | unfinished : Consistent .unfinished
  | quoted {q : Quoted} : q.Consistent → Consistent (.quoted q)
  | array {rs : List Reading} {tail : Tail} : (∀ r ∈ rs, Consistent r) → Consistent (.array rs tail)
  | object {ms : List (Quoted × Reading)} {tail : Tail} : (∀ m ∈ ms, m.1.Consistent) →
      (∀ m ∈ ms, Consistent m.2) → Consistent (.object ms tail)
  | broken (fault : Fault) : Consistent (.broken fault)

/-! ## Texts in quotes -/

theorem length_of_fourHex {cs rest : List Char} {n : Nat} (read : fourHex cs = .ok (n, rest)) :
    rest.length < cs.length := by
  unfold fourHex at read
  split at read
  · cases read
  · split at read
    · split at read
      · cases read
        simp only [List.length_cons]
        omega
      · cases read
    · cases read

theorem eq_of_trailingUnit {cs rest : List Char} {n : Nat}
    (read : trailingUnit cs = .ok (n, rest)) :
    ∃ digits, cs = '\\' :: 'u' :: digits ∧ fourHex digits = .ok (n, rest) := by
  unfold trailingUnit at read
  split at read
  · cases read
  · cases read
  · next digits =>
    cases hex : fourHex digits with
    | error fault => simp [hex] at read
    | ok unit =>
      obtain ⟨m, behind⟩ := unit
      simp only [hex] at read
      split at read
      · cases read
        exact ⟨digits, rfl, hex⟩
      · cases read
  · cases read

theorem skipQuoted_unit {cs rest : List Char} {n : Nat} (read : fourHex cs = .ok (n, rest))
    (steps : Nat) : skipQuoted (steps + 1) ('\\' :: 'u' :: cs) = skipQuoted steps rest := by
  simp [skipQuoted, read]

theorem skipQuoted_of_takeQuoted {fuel : Nat} {acc cs rest : List Char} {s : String}
    (taken : takeQuoted fuel acc cs = .ok (s, rest)) {steps : Nat} (enough : cs.length < steps) :
    skipQuoted steps cs = .ok rest := by
  fun_induction takeQuoted fuel acc cs generalizing steps <;> try cases taken
  all_goals
    obtain ⟨steps, rfl⟩ := Nat.exists_eq_add_one_of_ne_zero (Nat.ne_zero_of_lt enough)
    simp only [List.length_cons] at enough
  case case3 => rfl
  case case8 lead _ _ _ _ trail _ ih =>
    -- a surrogate pair is one step for the reader who takes it and two for the one who skips it
    obtain ⟨digits, rfl, hex⟩ := eq_of_trailingUnit trail
    obtain ⟨steps, rfl⟩ := Nat.exists_eq_add_one_of_ne_zero (n := steps) (by omega)
    have near := length_of_fourHex lead
    have far := length_of_fourHex hex
    simp only [List.length_cons] at near
    rw [skipQuoted_unit lead, skipQuoted_unit hex]
    exact ih taken (by omega)
  case case9 read _ _ _ ih =>
    have shorter := length_of_fourHex read
    rw [skipQuoted_unit read]
    exact ih taken (by omega)
  case case10 plain _ short _ ih =>
    simpa [skipQuoted, plain, short] using ih taken (by omega)
  case case13 quote backslash control ih =>
    simpa [skipQuoted, quote, backslash, control] using ih taken (by omega)

theorem consistent_quoted (cs : List Char) : (quoted cs).1.Consistent := by
  intro s taken
  cases both : takeQuoted (cs.length + 1) [] cs with
  | error fault =>
    have refused : (quoted cs).1.taken = .error fault := by
      simp only [quoted, both, Except.map]
      split <;> rfl
    rw [refused] at taken
    cases taken
  | ok found =>
    obtain ⟨s', rest⟩ := found
    have skipped := skipQuoted_of_takeQuoted both (Nat.lt_succ_self cs.length)
    simp only [quoted, skipped]

/-! ## Values -/

theorem consistent_word (expected cs : List Char) {r : Reading} (plain : r.Consistent) :
    (word expected r cs).1.Consistent := by
  show (word.go r expected cs).1.Consistent
  induction expected generalizing cs with
  | nil => exact plain
  | cons e es ih =>
    cases cs with
    | nil => exact .broken _
    | cons c cs =>
      rw [word.go]
      split
      · exact ih cs
      · exact .broken _

theorem consistent_exponentPart {cs : List Char} {r : Reading} (cut : exponentPart cs = .error r) :
    r.Consistent := by
  unfold exponentPart at cut
  split at cut
  dsimp only at cut
  split at cut
  · cases cut
    split
    · exact .unfinished
    · exact .broken _
  · cases cut

theorem consistent_realTail (coefficient : Nat) (exponent : Int) (cs : List Char) :
    (realTail coefficient exponent cs).1.Consistent := by
  unfold realTail
  split
  · split
    · split
      · exact .real _
      · next cut => exact consistent_exponentPart cut
    · exact .real _
  · exact .real _

theorem consistent_wholeNumber (negative : Bool) (digits : List Char) :
    (wholeNumber negative digits).Consistent := by
  simp only [wholeNumber]
  split
  · exact .integer _
  · split
    · exact .integer _
    · exact .real _

theorem consistent_afterInteger (negative : Bool) (digits cs : List Char) :
    (afterInteger negative digits cs).1.Consistent := by
  simp only [afterInteger]
  split
  · split
    · dsimp only
      split
      · exact .unfinished
      · exact .broken _
    · exact consistent_realTail _ _ _
  · split
    · exact consistent_realTail _ _ _
    · exact consistent_wholeNumber _ _
  · exact consistent_wholeNumber _ _

theorem consistent_number (negative : Bool) (cs : List Char) :
    (number negative cs).1.Consistent := by
  unfold number
  split
  · exact .unfinished
  · split
    · split
      · exact .broken _
      · exact consistent_afterInteger _ _ _
    · split
      · exact consistent_afterInteger _ _ _
      · exact .broken _

section

variable {fuel : Nat}

theorem consistent_value_step (ofItems : ∀ cs, ∀ r ∈ (items fuel cs).1.1, r.Consistent)
    (ofMembers : ∀ cs, ∀ m ∈ (members fuel cs).1.1, m.1.Consistent ∧ m.2.Consistent)
    (cs : List Char) : (value (fuel + 1) cs).1.Consistent := by
  rw [value]
  split
  · exact .broken _
  · split_ifs
    · exact consistent_word _ _ .null
    · exact consistent_word _ _ (.bool true)
    · exact consistent_word _ _ (.bool false)
    · exact .quoted (consistent_quoted _)
    · split
      · exact .array (by simp)
      · split_ifs
        · exact .array (by simp)
        · exact .array (ofItems _)
    · split
      · exact .object (by simp) (by simp)
      · split_ifs
        · exact .object (by simp) (by simp)
        · exact .object (fun m mem => (ofMembers _ m mem).1) fun m mem => (ofMembers _ m mem).2
    · exact consistent_number _ _
    · exact consistent_number _ _
    · exact .broken _

theorem consistent_items_step (ofValue : ∀ cs, (value fuel cs).1.Consistent)
    (ofItems : ∀ cs, ∀ r ∈ (items fuel cs).1.1, r.Consistent) (cs : List Char) :
    ∀ r ∈ (items (fuel + 1) cs).1.1, r.Consistent := by
  have first := ofValue cs
  rw [items]
  split
  · next r read =>
    rw [read] at first
    simpa using first
  · next r behind read =>
    rw [read] at first
    split
    · simpa using first
    · split_ifs
      · simpa using first
      · simpa using ⟨first, .broken _⟩
      · exact List.forall_mem_cons.mpr ⟨first, ofItems _⟩
      · simpa using first

theorem consistent_members_step (ofValue : ∀ cs, (value fuel cs).1.Consistent)
    (ofMembers : ∀ cs, ∀ m ∈ (members fuel cs).1.1, m.1.Consistent ∧ m.2.Consistent)
    (cs : List Char) :
    ∀ m ∈ (members (fuel + 1) cs).1.1, m.1.Consistent ∧ m.2.Consistent := by
  rw [members]
  split
  · simp
  · next c cs _ =>
    have key := consistent_quoted cs
    split_ifs
    · split
      · next q read =>
        rw [read] at key
        simpa using ⟨key, .broken _⟩
      · next q behind read =>
        rw [read] at key
        split
        · simpa using ⟨key, .broken _⟩
        · next c cs _ =>
          have first := ofValue cs
          split_ifs
          · split
            · next r read =>
              rw [read] at first
              simpa using ⟨key, first⟩
            · next r behind read =>
              rw [read] at first
              split
              · simpa using ⟨key, first⟩
              · split_ifs
                · simpa using ⟨key, first⟩
                · exact List.forall_mem_cons.mpr ⟨⟨key, first⟩, ofMembers _⟩
                · simpa using ⟨key, first⟩
          · simpa using ⟨key, .broken _⟩
    · simp

end

/-- What a text shows is consistent, whatever is wrong with it. -/
theorem consistent_reading (cs : List Char) : (reading cs).1.Consistent := by
  have all (fuel : Nat) : (∀ cs, (value fuel cs).1.Consistent) ∧
      (∀ cs, ∀ r ∈ (items fuel cs).1.1, r.Consistent) ∧
      (∀ cs, ∀ m ∈ (members fuel cs).1.1, m.1.Consistent ∧ m.2.Consistent) := by
    induction fuel with
    | zero => exact ⟨fun _ => .broken _, by simp [items], by simp [members]⟩
    | succ fuel ih =>
      obtain ⟨ofValue, ofItems, ofMembers⟩ := ih
      exact ⟨consistent_value_step ofItems ofMembers, consistent_items_step ofValue ofItems,
        consistent_members_step ofValue ofMembers⟩
  exact (all (cs.length + 1)).1 cs

end TableCatalog.Json
