import TableCatalog.Text.Basic

/-!
# Blanks at both ends of a text

Letters, digits and low lines are no blanks, and letter case makes no blank. A text is trimmed by
cutting off the blanks at both ends of it and nothing else, so that a text without blanks is what is
left of it between blanks.
-/

namespace TableCatalog

/-! ## Words and letter case -/

section

variable {c : Char} (word : c.isAlphanum = true ∨ c = '_')
include word

theorem range_of_wordChar : 0x30 ≤ c.toNat ∧ c.toNat ≤ 0x7A := by
  rcases word with letterOrDigit | rfl
  · delta Char.isAlphanum Char.isAlpha Char.isUpper Char.isLower Char.isDigit at letterOrDigit
    simp only [Bool.or_eq_true, Bool.and_eq_true, decide_eq_true_eq, UInt32.le_iff_toNat_le,
      ge_iff_le] at letterOrDigit
    change ((65 ≤ c.toNat ∧ c.toNat ≤ 90) ∨ (97 ≤ c.toNat ∧ c.toNat ≤ 122)) ∨
      (48 ≤ c.toNat ∧ c.toNat ≤ 57) at letterOrDigit
    omega
  · decide

theorem not_isBlank_of_wordChar : Text.isBlank c = false := by
  have range := range_of_wordChar word
  simp [Text.isBlank, Text.isBlankCode]
  omega

end

namespace Text

/-- Only a capital letter changes, into a letter. -/
theorem toLower_cases (c : Char) :
    c.toLower = c ∨ 65 ≤ c.toNat ∧ c.toNat ≤ 90 ∧ c.toLower.toNat = c.toNat + 32 := by
  unfold Char.toLower
  split
  · next capital =>
    obtain ⟨low, high⟩ := capital
    have low : 65 ≤ c.toNat := UInt32.le_iff_toNat_le.mp low
    have high : c.toNat ≤ 90 := UInt32.le_iff_toNat_le.mp high
    refine .inr ⟨low, high, ?_⟩
    show (c.val + ('a'.val - 'A'.val)).toNat = c.toNat + 32
    rw [UInt32.toNat_add]
    show (c.toNat + 32) % _ = _
    omega
  · exact .inl rfl

theorem isBlank_toLower (c : Char) : isBlank c.toLower = isBlank c := by
  rcases toLower_cases c with same | ⟨low, high, lower⟩
  · rw [same]
  · have noBlank {n : Nat} (low : 65 ≤ n) (high : n ≤ 122) : isBlankCode n = false := by
      simp [isBlankCode]
      omega
    rw [isBlank, isBlank, lower, noBlank (by omega) (by omega), noBlank low (by omega)]

theorem toLower_eq_underscore_iff {c : Char} : c.toLower = '_' ↔ c = '_' := by
  rcases toLower_cases c with same | ⟨low, high, lower⟩
  · rw [same]
  · have isNot {d : Char} (other : d.toNat ≠ 95) : d ≠ '_' := by
      rintro rfl
      exact other rfl
    exact iff_of_false (isNot (by omega)) (isNot (by omega))

/-! ## Trimming -/

variable {p : Char → Bool} {cs front body back : List Char}

/-- What is cut off at both ends. -/
theorem exists_trimWhere_eq (p : Char → Bool) (cs : List Char) :
    ∃ front back, cs = front ++ trimWhere p cs ++ back ∧ (∀ c ∈ front, p c) ∧ ∀ c ∈ back, p c := by
  refine ⟨cs.takeWhile p, ((cs.dropWhile p).reverse.takeWhile p).reverse, ?_, ?_, ?_⟩
  · rw [trimWhere, List.append_assoc, ← List.reverse_append, List.takeWhile_append_dropWhile,
      List.reverse_reverse, List.takeWhile_append_dropWhile]
  · exact List.all_eq_true.mp List.all_takeWhile
  · exact fun c mem => List.all_eq_true.mp List.all_takeWhile c (List.mem_reverse.mp mem)

/-- Nothing that is cut off stays at the end. -/
theorem not_of_trimWhere_eq_append {c : Char} (ends : trimWhere p cs = front ++ [c]) :
    p c = false := by
  have first := List.head?_dropWhile_not p (cs.dropWhile p).reverse
  rw [trimWhere, List.reverse_eq_iff, List.reverse_append] at ends
  rw [ends] at first
  exact first

theorem trimWhere_append (blank : ∀ c ∈ front, p c) (cs : List Char) :
    trimWhere p (front ++ cs) = trimWhere p cs := by
  rw [trimWhere, List.dropWhile_append_of_pos blank, trimWhere]

theorem dropWhile_eq_self (stays : ∀ c ∈ body, p c = false) : body.dropWhile p = body := by
  cases body with
  | nil => rfl
  | cons c body => rw [List.dropWhile_cons_of_neg (by simp [stays c List.mem_cons_self])]

/-- What is cut off behind a text that stays makes no difference. -/
theorem trimWhere_append_of_behind (stays : ∀ c ∈ body, p c = false) (behind : ∀ c ∈ back, p c) :
    trimWhere p (body ++ back) = body := by
  have kept : ∀ c ∈ body.reverse, p c = false := fun c mem => stays c (List.mem_reverse.mp mem)
  have cut : ∀ c ∈ back.reverse, p c := fun c mem => behind c (List.mem_reverse.mp mem)
  cases body with
  | nil =>
    have none : (back ++ []).dropWhile p = [] := List.dropWhile_append_of_pos behind
    rw [List.append_nil] at none
    rw [List.nil_append, trimWhere, none]
    rfl
  | cons c body =>
    rw [trimWhere, List.cons_append,
      List.dropWhile_cons_of_neg (by simp [stays c List.mem_cons_self]), ← List.cons_append,
      List.reverse_append, List.dropWhile_append_of_pos cut, dropWhile_eq_self kept,
      List.reverse_reverse]

theorem trimWhere_eq_self (stays : ∀ c ∈ body, p c = false) : trimWhere p body = body := by
  have alone : trimWhere p (body ++ []) = body := trimWhere_append_of_behind stays (by simp)
  rwa [List.append_nil] at alone

end Text

end TableCatalog
