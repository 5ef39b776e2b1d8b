import Mathlib.Tactic.SplitIfs
import TableCatalog.Json.Decoder
import TableCatalog.Json.Parser
import TableCatalog.Json.Value

/-!
# What a written value shows

A value that is written and then read shows what it was made of: nothing in its text is broken, cut
off or left over. So a decoder finds in the text of a value what it finds in `Json.shown`.
-/

namespace TableCatalog.Json

open Text

/-! ## Integers

The decimal digits of an integer are read as this integer if it fits into 64 bits, with or without
a sign. What follows must not go on with the number.
-/

theorem isDigit_eq (c : Char) : Text.isDigit c = c.isDigit := by
  simp only [Text.isDigit, digitValue?, Char.isDigit, Char.le_def]
  split <;> simp_all

theorem digitValue?_of_isDigit {c : Char} (digit : c.isDigit = true) :
    digitValue? c = some (c.toNat - '0'.toNat) := by
  rw [← isDigit_eq, Text.isDigit, Option.isSome_iff_exists] at digit
  obtain ⟨n, value⟩ := digit
  rw [value, ← value]
  unfold digitValue? at value ⊢
  split at value
  · next range => rw [if_pos range]
  · cases value

theorem decimalValue_of_digits {cs : List Char} (digits : ∀ c ∈ cs, c.isDigit = true) :
    decimalValue cs = Nat.ofDigitChars 10 cs 0 := by
  have fold (n : Nat) : (cs.filterMap digitValue?).foldl (fun n d => n * 10 + d) n =
      Nat.ofDigitChars 10 cs n := by
    induction cs generalizing n with
    | nil => rfl
    | cons c cs ih =>
      obtain ⟨digit, digits⟩ := List.forall_mem_cons.mp digits
      rw [List.filterMap_cons_some (digitValue?_of_isDigit digit), List.foldl_cons, ih digits,
        Nat.ofDigitChars_eq_foldl, Nat.ofDigitChars_eq_foldl, List.foldl_cons, Nat.mul_comm]
  exact fold 0

theorem isDigit_of_mem_toDigits {n : Nat} {c : Char} (mem : c ∈ Nat.toDigits 10 n) :
    c.isDigit = true :=
  Nat.isDigit_of_mem_toDigits (by decide) (by decide) mem

theorem decimalValue_toDigits (n : Nat) : decimalValue (Nat.toDigits 10 n) = n := by
  rw [decimalValue_of_digits fun _ => isDigit_of_mem_toDigits, Nat.ofDigitChars_ten_toDigits]

/-- The digits of a number begin with no zero, unless it is zero. -/
theorem head_toDigits {n : Nat} (pos : 0 < n) : (Nat.toDigits 10 n).head? ≠ some '0' := by
  induction n using Nat.strongRecOn with
  | _ n ih =>
    rw [Nat.toDigits_eq_if (by decide)]
    split
    · simp only [List.head?_cons, ne_eq, Option.some.injEq, Nat.digitChar_eq_zero]
      omega
    · next many =>
      have fewer := ih (n / 10) (by omega) (by omega)
      rwa [List.head?_append, Option.or_of_isSome]
      exact List.isSome_head?.mpr Nat.toDigits_ne_nil

/-- A text that does not go on with a number. -/
def EndsNumber (rest : List Char) : Prop :=
  ∀ c ∈ rest.head?, Text.isDigit c = false ∧ c ≠ '.' ∧ c ≠ 'e' ∧ c ≠ 'E'

theorem endsNumber_nil : EndsNumber [] := by simp [EndsNumber]

theorem takeWhile_digits {cs rest : List Char} (digits : ∀ c ∈ cs, Text.isDigit c = true)
    (ends : EndsNumber rest) :
    (cs ++ rest).takeWhile Text.isDigit = cs ∧ (cs ++ rest).dropWhile Text.isDigit = rest := by
  rw [List.takeWhile_append_of_pos digits, List.dropWhile_append_of_pos digits]
  cases rest with
  | nil => simp
  | cons c rest => simp [(ends c rfl).1]

theorem afterInteger_of_ends {rest : List Char} (ends : EndsNumber rest) (negative : Bool)
    (digits : List Char) :
    afterInteger negative digits rest = (wholeNumber negative digits, some rest) := by
  cases rest with
  | nil => rfl
  | cons c rest =>
    obtain ⟨-, point, lower, upper⟩ := ends c rfl
    have whole : ¬ (decide (c = 'e') || decide (c = 'E')) = true := by simp [lower, upper]
    simp only [afterInteger]
    exact if_neg whole

/-- **The digits of a number are read as a number**, and nothing behind them is. -/
theorem number_toDigits {rest : List Char} (ends : EndsNumber rest) (negative : Bool) (n : Nat) :
    number negative (Nat.toDigits 10 n ++ rest) =
      (wholeNumber negative (Nat.toDigits 10 n), some rest) := by
  rcases Nat.eq_zero_or_pos n with rfl | pos
  · have stops : (rest.head?.map Text.isDigit).getD false = false := by
      cases rest with
      | nil => rfl
      | cons c rest => exact (ends c rfl).1
    simp [Nat.toDigits_zero, number, stops, afterInteger_of_ends ends]
  · have digits : ∀ c ∈ Nat.toDigits 10 n, Text.isDigit c = true := fun c mem =>
      (isDigit_eq c).trans (isDigit_of_mem_toDigits mem)
    have both := takeWhile_digits digits ends
    have first := head_toDigits pos
    have some : Nat.toDigits 10 n ≠ [] := Nat.toDigits_ne_nil
    generalize Nat.toDigits 10 n = cs at digits both first some
    cases cs with
    | nil => exact absurd rfl some
    | cons c cs =>
      have digit : Text.isDigit c = true := digits c List.mem_cons_self
      have other : c ≠ '0' := by simpa using first
      rw [List.cons_append] at both ⊢
      simp only [number, other, digit, both, if_false, if_true]
      exact afterInteger_of_ends ends negative (c :: cs)

/-- An integer that fits into 64 bits is read as itself. -/
theorem wholeNumber_toDigits {n : Int} (low : -Int.ofNat (Nat.pow 2 63) ≤ n)
    (high : n < Int.ofNat UInt64.size) :
    wholeNumber (decide (n < 0)) (Nat.toDigits 10 n.natAbs) = .integer n := by
  rw [wholeNumber, decimalValue_toDigits]
  by_cases negative : n < 0
  · have bounds : 0 < n.natAbs ∧ n.natAbs ≤ Nat.pow 2 63 := by
      simp only [Int.ofNat_eq_natCast] at low
      omega
    have same : -(n.natAbs : Int) = n := by omega
    rw [if_pos ⟨decide_eq_true negative, bounds⟩, same]
  · have bound : n.natAbs < UInt64.size := by
      simp only [Int.ofNat_eq_natCast] at high
      omega
    have same : (n.natAbs : Int) = n := by omega
    have sign : ¬ decide (n < 0) = true := by simpa using negative
    rw [if_neg fun both => sign both.1, if_pos ⟨sign, bound⟩, same]

/-! ## Texts in quotes

What is written in quotes is read back, by a reader who takes the text and by one who skips it. Each
character is written in one of three ways, and both readers know what follows it: the length of the
text bounds the number of their steps.
-/

/-- A text that holds nothing wrong. -/
def Quoted.ofString (s : String) : Quoted := ⟨.ok s, none⟩

theorem hexValue?_hexDigit : ∀ n < 16, hexValue? (hexDigit n) = some n := by decide

theorem fourHex_of_values {a b c d : Char} {h i j k : Nat} (ha : hexValue? a = some h)
    (hb : hexValue? b = some i) (hc : hexValue? c = some j) (hd : hexValue? d = some k)
    (rest : List Char) :
    fourHex (a :: b :: c :: d :: rest) = .ok (ofDigits 16 [h, i, j, k], rest) := by
  have enough : ¬ fewBytes (a :: b :: c :: d :: rest) < 4 := by
    have := a.utf8Size_pos
    have := b.utf8Size_pos
    have := c.utf8Size_pos
    have := d.utf8Size_pos
    simp only [fewBytes]
    omega
  simp only [fourHex, if_neg enough, ha, hb, hc, hd]

/-- The ways in which a character is written between quotes. -/
inductive Written (c : Char) : List Char → Prop
  | short {e : Char} : e ≠ 'u' → shortEscape? e = some c → Written c ['\\', e]
  | code {x y : Char} : c.toNat < 32 →
      (∀ rest, fourHex ('0' :: '0' :: x :: y :: rest) = .ok (c.toNat, rest)) →
      Written c ['\\', 'u', '0', '0', x, y]
  | plain : c ≠ '"' → c ≠ '\\' → ¬ c.toNat < 32 → Written c [c]

theorem written_escapeChar (c : Char) : Written c (escapeChar c) := by
  have named {e : Char} {n : Nat} (other : e ≠ 'u') (short : shortEscape? e = some (Char.ofNat n))
      (same : c.toNat = n) : Written c ['\\', e] :=
    .short other (by rw [short, ← same, Char.ofNat_toNat])
  unfold escapeChar
  split_ifs with quote backslash b t n f r control
  · subst quote
    exact .short (by decide) rfl
  · subst backslash
    exact .short (by decide) rfl
  · exact named (by decide) rfl b
  · exact named (by decide) rfl t
  · exact named (by decide) rfl n
  · exact named (by decide) rfl f
  · exact named (by decide) rfl r
  · refine .code control fun rest => ?_
    have high : c.toNat / 16 < 16 := by omega
    have low : c.toNat % 16 < 16 := by omega
    have zero : hexValue? '0' = some 0 := by decide
    rw [fourHex_of_values zero zero (hexValue?_hexDigit _ high) (hexValue?_hexDigit _ low)]
    simp only [ofDigits, List.foldl_cons, List.foldl_nil]
    congr 2
    omega
  · exact .plain quote backslash control

theorem takeQuoted_escapeChar (fuel : Nat) (acc : List Char) (c : Char) (rest : List Char) :
    takeQuoted (fuel + 1) acc (escapeChar c ++ rest) = takeQuoted fuel (c :: acc) rest := by
  have written := written_escapeChar c
  generalize escapeChar c = cs at written ⊢
  cases written with
  | short other short => simp [takeQuoted, other, short]
  | code control code =>
    have below : isTrailing c.toNat = false ∧ isLeading c.toNat = false := by
      simp [isTrailing, isLeading]
      omega
    simp [takeQuoted, code, below]
  | plain quote backslash control => simp [takeQuoted, quote, backslash, control]

theorem skipQuoted_escapeChar (fuel : Nat) (c : Char) (rest : List Char) :
    skipQuoted (fuel + 1) (escapeChar c ++ rest) = skipQuoted fuel rest := by
  have written := written_escapeChar c
  generalize escapeChar c = cs at written ⊢
  cases written with
  | short other short => simp [skipQuoted, other, short]
  | code control code => simp [skipQuoted, code]
  | plain quote backslash control => simp [skipQuoted, quote, backslash, control]

theorem takeQuoted_escaped {fuel : Nat} {cs : List Char} (enough : cs.length < fuel)
    (acc rest : List Char) :
    takeQuoted fuel acc (cs.flatMap escapeChar ++ '"' :: rest) =
      .ok (String.ofList (acc.reverse ++ cs), rest) := by
  induction cs generalizing fuel acc with
  | nil =>
    obtain ⟨fuel, rfl⟩ := Nat.exists_eq_add_one_of_ne_zero (Nat.ne_zero_of_lt enough)
    simp [takeQuoted]
  | cons c cs ih =>
    obtain ⟨fuel, rfl⟩ := Nat.exists_eq_add_one_of_ne_zero (Nat.ne_zero_of_lt enough)
    rw [List.flatMap_cons, List.append_assoc, takeQuoted_escapeChar,
      ih (Nat.lt_of_succ_lt_succ enough)]
    simp

theorem skipQuoted_escaped {fuel : Nat} {cs : List Char} (enough : cs.length < fuel)
    (rest : List Char) :
    skipQuoted fuel (cs.flatMap escapeChar ++ '"' :: rest) = .ok rest := by
  induction cs generalizing fuel with
  | nil =>
    obtain ⟨fuel, rfl⟩ := Nat.exists_eq_add_one_of_ne_zero (Nat.ne_zero_of_lt enough)
    simp [skipQuoted]
  | cons c cs ih =>
    obtain ⟨fuel, rfl⟩ := Nat.exists_eq_add_one_of_ne_zero (Nat.ne_zero_of_lt enough)
    rw [List.flatMap_cons, List.append_assoc, skipQuoted_escapeChar,
      ih (Nat.lt_of_succ_lt_succ enough)]

theorem length_le_length_escaped (cs : List Char) :
    cs.length ≤ (cs.flatMap escapeChar).length := by
  induction cs with
  | nil => exact Nat.le_refl 0
  | cons c cs ih =>
    have one : 1 ≤ (escapeChar c).length := by
      have written := written_escapeChar c
      generalize escapeChar c = cs at written ⊢
      cases written <;> simp
    simp only [List.flatMap_cons, List.length_append, List.length_cons]
    omega

/-- **A text in quotes reads back**, whatever its characters are and whatever follows it. -/
theorem quoted_escaped (s : String) (rest : List Char) :
    quoted (s.toList.flatMap escapeChar ++ '"' :: rest) = (.ofString s, some rest) := by
  have enough : s.toList.length < (s.toList.flatMap escapeChar ++ '"' :: rest).length + 1 := by
    have := length_le_length_escaped s.toList
    simp only [List.length_append]
    omega
  simp only [quoted, takeQuoted_escaped enough, skipQuoted_escaped enough, Except.map,
    List.reverse_nil, List.nil_append, String.ofList_toList, Quoted.ofString]

/-! ## Values -/

mutual

/-- What the written form of a value shows. -/
def shown : Json → Reading
  | .null => .null
  | .bool b => .bool b
  | .int n => wholeNumber (decide (n < 0)) (Nat.toDigits 10 n.natAbs)
  | .str s => .quoted (.ofString s)
  | .arr items => .array (shownItems items) .closed
  | .obj members => .object (shownMembers members) .closed

def shownItems : List Json → List Reading
  | [] => []
  | v :: vs => v.shown :: shownItems vs

def shownMembers : List (String × Json) → List (Quoted × Reading)
  | [] => []
  | (k, v) :: ms => (.ofString k, v.shown) :: shownMembers ms

end

/-! ### First characters -/

theorem isBlank_of_isDigit {c : Char} (digit : Text.isDigit c = true) : isBlank c = false := by
  cases blank : isBlank c with
  | false => rfl
  | true =>
    simp only [isBlank, Bool.or_eq_true, decide_eq_true_eq] at blank
    rcases blank with ((rfl | rfl) | rfl) | rfl <;> exact absurd digit (by decide)

theorem skipBlanks_of_not {c : Char} (black : isBlank c = false) (cs : List Char) :
    skipBlanks (c :: cs) = c :: cs := by
  rw [skipBlanks, List.dropWhile_cons_of_neg (by simp [black])]

theorem toDigits_eq_cons (n : Nat) :
    ∃ c cs, Nat.toDigits 10 n = c :: cs ∧ Text.isDigit c = true := by
  cases digits : Nat.toDigits 10 n with
  | nil => exact absurd digits Nat.toDigits_ne_nil
  | cons c cs =>
    refine ⟨c, cs, rfl, (isDigit_eq c).trans (isDigit_of_mem_toDigits (n := n) ?_)⟩
    rw [digits]
    exact List.mem_cons_self

/-- A written value begins with neither a blank nor a closing bracket. -/
theorem chars_eq_cons (v : Json) :
    ∃ c cs, v.chars = c :: cs ∧ isBlank c = false ∧ c ≠ ']' := by
  cases v with
  | null => exact ⟨'n', _, rfl, by decide, by decide⟩
  | bool b => cases b <;> exact ⟨_, _, rfl, by decide, by decide⟩
  | int n =>
    cases n with
    | ofNat n =>
      obtain ⟨c, cs, same, digit⟩ := toDigits_eq_cons n
      refine ⟨c, cs, same, isBlank_of_isDigit digit, ?_⟩
      rintro rfl
      exact absurd digit (by decide)
    | negSucc n => exact ⟨'-', _, rfl, by decide, by decide⟩
  | str s => exact ⟨'"', _, rfl, by decide, by decide⟩
  | arr vs => exact ⟨'[', _, rfl, by decide, by decide⟩
  | obj ms => exact ⟨'\x7b', _, rfl, by decide, by decide⟩

theorem endsNumber_of_mark {c : Char} (mark : c = ',' ∨ c = ']' ∨ c = '\x7d') (rest : List Char) :
    EndsNumber (c :: rest) := by
  intro d mem
  cases mem
  rcases mark with rfl | rfl | rfl <;> decide

/-! ### Rows of items and members -/

theorem moreItemsChars_cons (v : Json) (vs : List Json) :
    moreItemsChars (v :: vs) = ',' :: itemsChars (v :: vs) := rfl

theorem moreMembersChars_cons (m : String × Json) (ms : List (String × Json)) :
    moreMembersChars (m :: ms) = ',' :: membersChars (m :: ms) := by
  simp [moreMembersChars, membersChars]

theorem membersChars_append (k : String) (v : Json) (ms : List (String × Json))
    (rest : List Char) :
    membersChars ((k, v) :: ms) ++ rest =
      '"' :: (k.toList.flatMap escapeChar ++
        '"' :: ':' :: (v.chars ++ (moreMembersChars ms ++ rest))) := by
  simp [membersChars, quote]

/-! ### Values -/

section

variable {fuel : Nat} {rest : List Char}

theorem value_of_digit {c : Char} (digit : Text.isDigit c = true) (cs : List Char) :
    value (fuel + 1) (c :: cs) = number false (c :: cs) := by
  have other {d : Char} (mark : Text.isDigit d = false) : c ≠ d := by
    rintro rfl
    exact absurd digit (by simp [mark])
  simp only [value, skipBlanks_of_not (isBlank_of_isDigit digit), digit, if_true,
    other (d := 'n') (by decide), other (d := 't') (by decide), other (d := 'f') (by decide),
    other (d := '"') (by decide), other (d := '[') (by decide), other (d := '\x7b') (by decide),
    other (d := '-') (by decide), if_false]

theorem value_int (ends : EndsNumber rest) (n : Int) :
    value (fuel + 1) ((Json.int n).chars ++ rest) = ((Json.int n).shown, some rest) := by
  cases n with
  | ofNat n =>
    obtain ⟨c, cs, same, digit⟩ := toDigits_eq_cons n
    have natural : ¬ Int.ofNat n < 0 := by simp
    rw [shown, decide_eq_false natural]
    show value (fuel + 1) (Nat.toDigits 10 n ++ rest) = _
    rw [same, List.cons_append, value_of_digit digit, ← List.cons_append, ← same,
      number_toDigits ends]
    rfl
  | negSucc n =>
    have negative : Int.negSucc n < 0 := Int.negSucc_lt_zero n
    rw [shown, decide_eq_true negative]
    show value (fuel + 1) ('-' :: (Nat.toDigits 10 (n + 1) ++ rest)) = _
    simp only [value, skipBlanks_of_not (c := '-') (by decide)]
    exact number_toDigits ends true (n + 1)

end

mutual

/-- A written value is read, and nothing behind it. -/
theorem value_chars : ∀ (v : Json) (fuel : Nat) (rest : List Char), v.chars.length ≤ fuel →
    EndsNumber rest → value fuel (v.chars ++ rest) = (v.shown, some rest)
  | v, 0, rest, enough, _ => by
    obtain ⟨c, cs, same, -⟩ := chars_eq_cons v
    simp [same] at enough
  | .null, fuel + 1, rest, _, _ => by
    simp [chars, value, skipBlanks_of_not, isBlank, word, word.go, shown]
  | .bool true, fuel + 1, rest, _, _ => by
    simp [chars, value, skipBlanks_of_not, isBlank, word, word.go, shown]
  | .bool false, fuel + 1, rest, _, _ => by
    simp [chars, value, skipBlanks_of_not, isBlank, word, word.go, shown]
  | .int n, fuel + 1, rest, _, ends => value_int ends n
  | .str s, fuel + 1, rest, _, _ => by
    simp [chars, quote, value, skipBlanks_of_not, isBlank, quoted_escaped, shown]
  | .arr [], fuel + 1, rest, _, _ => by
    simp [chars, itemsChars, value, skipBlanks_of_not, isBlank, shown, shownItems]
  | .arr (v :: vs), fuel + 1, rest, enough, _ => by
    have read := items_chars v vs fuel rest (by simpa [chars] using enough)
    obtain ⟨c, cs, same, black, other⟩ := chars_eq_cons v
    have first : itemsChars (v :: vs) ++ rest = c :: (cs ++ (moreItemsChars vs ++ rest)) := by
      simp [itemsChars, same]
    rw [chars, List.cons_append, shown]
    simp only [value, skipBlanks_of_not (c := '[') (by decide)]
    rw [first] at read ⊢
    simp [skipBlanks_of_not black, other, read]
  | .obj [], fuel + 1, rest, _, _ => by
    simp [chars, membersChars, value, skipBlanks_of_not, isBlank, shown, shownMembers]
  | .obj ((k, v) :: ms), fuel + 1, rest, enough, _ => by
    have read := members_chars k v ms fuel rest (by simpa [chars] using enough)
    rw [chars, List.cons_append, shown]
    simp only [value, skipBlanks_of_not (c := '\x7b') (by decide)]
    rw [membersChars_append] at read ⊢
    simp [skipBlanks_of_not (c := '"') (by decide), read]

theorem items_chars : ∀ (v : Json) (vs : List Json) (fuel : Nat) (rest : List Char),
    (itemsChars (v :: vs)).length ≤ fuel →
      items fuel (itemsChars (v :: vs) ++ rest) = ((shownItems (v :: vs), .closed), some rest)
  | v, vs, 0, rest, enough => by
    obtain ⟨c, cs, same, -⟩ := chars_eq_cons v
    simp [itemsChars, same] at enough
  | v, [], fuel + 1, rest, enough => by
    have read := value_chars v fuel (']' :: rest)
      (by simpa [itemsChars, moreItemsChars] using enough) (endsNumber_of_mark (by decide) _)
    simp [itemsChars, moreItemsChars, items, read, skipBlanks_of_not, isBlank, shownItems]
  | v, w :: ws, fuel + 1, rest, enough => by
    rw [itemsChars, moreItemsChars_cons, List.length_append, List.length_cons] at enough
    have read := value_chars v fuel (',' :: (itemsChars (w :: ws) ++ rest))
      (by omega) (endsNumber_of_mark (by decide) _)
    have more := items_chars w ws fuel rest (by omega)
    obtain ⟨c, cs, same, black, other⟩ := chars_eq_cons w
    have first : itemsChars (w :: ws) ++ rest = c :: (cs ++ (moreItemsChars ws ++ rest)) := by
      simp [itemsChars, same]
    rw [itemsChars, moreItemsChars_cons, List.append_assoc, List.cons_append, items, read]
    rw [first] at more ⊢
    simp [skipBlanks_of_not black, skipBlanks_of_not (c := ',') (by decide), other, more,
      shownItems]

theorem members_chars : ∀ (k : String) (v : Json) (ms : List (String × Json)) (fuel : Nat)
    (rest : List Char), (membersChars ((k, v) :: ms)).length ≤ fuel →
      members fuel (membersChars ((k, v) :: ms) ++ rest) =
        ((shownMembers ((k, v) :: ms), .closed), some rest)
  | k, v, ms, 0, rest, enough => by simp [membersChars, quote] at enough
  | k, v, [], fuel + 1, rest, enough => by
    have short : v.chars.length ≤ fuel := by
      simp only [membersChars, List.length_append, List.length_cons] at enough
      omega
    have read := value_chars v fuel ('\x7d' :: rest) short (endsNumber_of_mark (by decide) _)
    rw [membersChars_append, members]
    simp [moreMembersChars, read, skipBlanks_of_not, isBlank, quoted_escaped, shownMembers]
  | k, v, (l, w) :: ms, fuel + 1, rest, enough => by
    have short : v.chars.length + (membersChars ((l, w) :: ms)).length ≤ fuel := by
      rw [membersChars, moreMembersChars_cons] at enough
      simp only [List.length_append, List.length_cons] at enough
      omega
    have read := value_chars v fuel (',' :: (membersChars ((l, w) :: ms) ++ rest))
      (by omega) (endsNumber_of_mark (by decide) _)
    have more := members_chars l w ms fuel rest (by omega)
    rw [membersChars_append, members, moreMembersChars_cons]
    simp [skipBlanks_of_not, isBlank, quoted_escaped, read, more, shownMembers]

end

/-- **What is written is read.** A decoder that reads the text of a value is given what the value
shows, and nothing is left over. -/
theorem read_text {α : Type} (d : Decoder α) (v : Json) : read d v.text = d v.shown := by
  have whole : reading v.text.toList = (v.shown, some []) := by
    have read := value_chars v (v.chars.length + 1) [] (by omega) endsNumber_nil
    rw [List.append_nil] at read
    rw [Json.text, String.toList_ofList]
    exact read
  simp only [read, whole]
  cases found : d v.shown with
  | error e => rfl
  | ok a => rfl

end TableCatalog.Json
