import TableCatalog.Store

/-!
# Which names match a pattern

The percent signs of a pattern cut it into pieces. A name matches if it is made of these pieces, one
behind the other, with any characters in the gaps between them. Matching looks for each piece at the
first place where it stands. That loses nothing, since what stands behind the first occurrence of a
piece ends in what stands behind any other one, and the characters in between fall into the next
gap.
-/

namespace TableCatalog.Store

variable {part cs rest : List Char} {parts : List (List Char)}

/-- A text holds some parts one behind the other, each behind a gap of any characters, and ends in
the last of them. -/
def IsSpread (parts : List (List Char)) (cs : List Char) : Prop :=
  ∃ gaps : List (List Char), gaps.length = parts.length ∧
    cs = (List.zipWith (· ++ ·) gaps parts).flatten

theorem isSpread_nil_iff : IsSpread [] cs ↔ cs = [] := by
  unfold IsSpread
  constructor
  · rintro ⟨gaps, -, rfl⟩
    rw [List.zipWith_nil_right, List.flatten_nil]
  · rintro rfl
    exact ⟨[], rfl, rfl⟩

theorem isSpread_cons_iff :
    IsSpread (part :: parts) cs ↔
      ∃ gap rest, cs = gap ++ part ++ rest ∧ IsSpread parts rest := by
  constructor
  · rintro ⟨gaps, long, rfl⟩
    cases gaps with
    | nil => cases long
    | cons gap gaps =>
      refine ⟨gap, (List.zipWith (· ++ ·) gaps parts).flatten, ?_, gaps, Nat.succ.inj long, rfl⟩
      rw [List.zipWith_cons_cons, List.flatten_cons]
  · rintro ⟨gap, rest, rfl, gaps, long, rfl⟩
    refine ⟨gap :: gaps, congrArg (· + 1) long, ?_⟩
    rw [List.zipWith_cons_cons, List.flatten_cons]

/-- More characters in front fall into the first gap. -/
theorem IsSpread.append_left (spread : IsSpread (part :: parts) cs) (more : List Char) :
    IsSpread (part :: parts) (more ++ cs) := by
  obtain ⟨gap, rest, rfl, behind⟩ := isSpread_cons_iff.mp spread
  refine isSpread_cons_iff.mpr ⟨more ++ gap, rest, ?_, behind⟩
  simp only [List.append_assoc]

/-! ## The first occurrence of a part -/

/-- What stands behind the first occurrence of a part ends in what stands behind any other one. -/
theorem afterFirst?_eq_some (found : afterFirst? part cs = some rest) :
    (∃ front, cs = front ++ part ++ rest) ∧
      ∀ front back, cs = front ++ part ++ back → back <:+ rest := by
  induction cs with
  | nil =>
    unfold afterFirst? at found
    split at found
    · next empty =>
      obtain rfl := List.isEmpty_iff.mp empty
      obtain rfl := Option.some.inj found
      refine ⟨⟨[], rfl⟩, ?_⟩
      intro front back split
      obtain rfl := (List.append_eq_nil_iff.mp split.symm).2
      exact List.suffix_refl []
    · cases found
  | cons c cs ih =>
    unfold afterFirst? at found
    split at found
    · next here =>
      obtain ⟨behind, whole⟩ := List.isPrefixOf_iff_prefix.mp here
      rw [← whole, List.drop_left] at found
      obtain rfl := Option.some.inj found
      refine ⟨⟨[], whole.symm⟩, ?_⟩
      intro front back split
      rw [split, List.append_assoc] at whole
      -- both texts end the same one, and what stands behind the first occurrence is the longer one
      have long := congrArg List.length whole
      simp only [List.length_append] at long
      have backEnds : back <:+ part ++ behind := by
        rw [whole, ← List.append_assoc]
        exact List.suffix_append _ _
      exact List.suffix_of_suffix_length_le backEnds (List.suffix_append _ _) (by omega)
    · next elsewhere =>
      obtain ⟨⟨front, split⟩, longest⟩ := ih found
      refine ⟨⟨c :: front, ?_⟩, ?_⟩
      · rw [split, List.cons_append, List.cons_append]
      · intro front' back split'
        cases front' with
        | nil =>
          rw [List.nil_append] at split'
          exact absurd (List.isPrefixOf_iff_prefix.mpr ⟨back, split'.symm⟩) elsewhere
        | cons d front' => exact longest front' back (List.cons.inj split').2

theorem afterFirst?_eq_none (missing : afterFirst? part cs = none) (front back : List Char) :
    cs ≠ front ++ part ++ back := by
  induction cs generalizing front with
  | nil =>
    intro split
    unfold afterFirst? at missing
    rw [if_pos (by simp_all)] at missing
    cases missing
  | cons c cs ih =>
    unfold afterFirst? at missing
    split at missing
    · cases missing
    · next elsewhere =>
      intro split
      cases front with
      | nil => exact elsewhere (List.isPrefixOf_iff_prefix.mpr ⟨back, split.symm⟩)
      | cons d front => exact ih missing front (List.cons.inj split).2

/-- To look for the first occurrence of each part finds the parts wherever they stand. -/
theorem matchesBehind_iff : matchesBehind parts cs = true ↔ IsSpread parts cs := by
  induction parts generalizing cs with
  | nil => rw [matchesBehind, isSpread_nil_iff, List.isEmpty_iff]
  | cons part parts ih =>
    cases parts with
    | nil =>
      rw [matchesBehind, isSpread_cons_iff, List.isSuffixOf_iff_suffix]
      simp only [isSpread_nil_iff, exists_eq_right, List.append_nil]
      exact exists_congr fun gap => eq_comm
    | cons next parts =>
      rw [isSpread_cons_iff]
      simp only [matchesBehind]
      cases found : afterFirst? part cs with
      | none =>
        refine iff_of_false Bool.false_ne_true ?_
        rintro ⟨gap, back, split, -⟩
        exact afterFirst?_eq_none found gap back split
      | some rest =>
        obtain ⟨⟨front, split⟩, longest⟩ := afterFirst?_eq_some found
        dsimp only
        rw [ih]
        constructor
        · intro spread
          exact ⟨front, rest, split, spread⟩
        · rintro ⟨gap, back, split', spread⟩
          obtain ⟨between, rfl⟩ := longest gap back split'
          exact spread.append_left between

/-! ## Names and patterns -/

theorem length_splitOn (sep : Char) (cs : List Char) :
    (cs.splitOn sep).length = cs.count sep + 1 := by
  induction cs with
  | nil => rfl
  | cons c cs ih =>
    rw [List.splitOn_cons_eq_if_modifyHead, List.count_cons]
    split
    · rw [List.length_cons, ih]
    · rw [List.length_modifyHead, ih]

theorem not_mem_of_mem_splitOn {sep : Char} {cs piece : List Char}
    (mem : piece ∈ cs.splitOn sep) : sep ∉ piece := by
  induction cs generalizing piece with
  | nil =>
    rw [List.splitOn_nil, List.mem_singleton] at mem
    exact mem ▸ List.not_mem_nil
  | cons c cs ih =>
    rw [List.splitOn_cons_eq_if_modifyHead] at mem
    split at mem
    · rcases List.mem_cons.mp mem with rfl | mem
      · exact List.not_mem_nil
      · exact ih mem
    · next other =>
      obtain ⟨first, rest, cut⟩ := List.exists_cons_of_ne_nil (List.splitOn_ne_nil sep cs)
      rw [cut] at mem ih
      rcases List.mem_cons.mp mem with rfl | mem
      · have differs : sep ≠ c := fun same => other (beq_iff_eq.mpr same.symm)
        exact List.not_mem_cons_of_ne_of_not_mem differs (ih List.mem_cons_self)
      · exact ih (List.mem_cons_of_mem first mem)

/-- A name matches if its beginning is the first piece and the other pieces are spread behind it. -/
theorem matchesPattern_iff_isSpread {name pattern : String} {first : List Char}
    (pieces : pattern.toList.splitOn '%' = first :: parts) :
    matchesPattern name pattern = true ↔
      ∃ rest, name.toList = first ++ rest ∧ IsSpread parts rest := by
  unfold matchesPattern
  rw [pieces]
  cases parts with
  | nil =>
    have whole : ['%'].intercalate (pattern.toList.splitOn '%') = pattern.toList :=
      List.intercalate_splitOn '%'
    rw [pieces, List.intercalate_singleton] at whole
    simp only [isSpread_nil_iff, exists_eq_right, List.append_nil, whole, beq_iff_eq,
      String.toList_inj]
  | cons part parts =>
    dsimp only
    rw [Bool.and_eq_true, matchesBehind_iff, List.isPrefixOf_iff_prefix]
    constructor
    · rintro ⟨⟨rest, whole⟩, spread⟩
      rw [← whole, List.drop_left] at spread
      exact ⟨rest, whole.symm, spread⟩
    · rintro ⟨rest, whole, spread⟩
      rw [whole, List.drop_left]
      exact ⟨List.prefix_append first rest, spread⟩

/-- **Matching is exact.** The percent signs of a pattern cut it into one piece more than they are.
A name matches exactly if it is made of these pieces in their order, without overlaps, and of any
characters in the gaps between them. Without a percent sign that is to be the pattern itself. -/
theorem matchesPattern_iff_made_of_pieces (name pattern : String) :
    ∃ first parts, pattern.toList = ['%'].intercalate (first :: parts) ∧
      (∀ piece ∈ first :: parts, '%' ∉ piece) ∧ parts.length = pattern.toList.count '%' ∧
      (matchesPattern name pattern = true ↔
        ∃ gaps : List (List Char), gaps.length = parts.length ∧
          name.toList = first ++ (List.zipWith (· ++ ·) gaps parts).flatten) ∧
      ('%' ∉ pattern.toList → (matchesPattern name pattern = true ↔ name = pattern)) := by
  cases pieces : pattern.toList.splitOn '%' with
  | nil => exact absurd pieces (List.splitOn_ne_nil '%' pattern.toList)
  | cons first parts =>
    have whole : ['%'].intercalate (pattern.toList.splitOn '%') = pattern.toList :=
      List.intercalate_splitOn '%'
    have long := length_splitOn '%' pattern.toList
    rw [pieces] at whole long
    refine ⟨first, parts, whole.symm, ?_, Nat.succ.inj long, ?_, ?_⟩
    · rw [← pieces]
      exact fun piece mem => not_mem_of_mem_splitOn mem
    · rw [matchesPattern_iff_isSpread pieces]
      constructor
      · rintro ⟨rest, split, gaps, many, rfl⟩
        exact ⟨gaps, many, split⟩
      · rintro ⟨gaps, many, split⟩
        exact ⟨_, split, gaps, many, rfl⟩
    · intro plain
      unfold matchesPattern
      rw [List.splitOn_eq_singleton plain]
      exact beq_iff_eq

/-- Beginning and end do not share characters, and a piece that stands twice is no hindrance. -/
example : matchesPattern "aba" "ab%ba" = false ∧ matchesPattern "abcabd" "%ab%%d" = true := by
  decide

end TableCatalog.Store
