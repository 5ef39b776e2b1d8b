import TableCatalog.Proofs.Url.Authority

/-!
# URLs below other ones

A name is put below a URL behind a slash. Scheme and authority stand before the slash then, so the
new text is a URL exactly if the old one is, whatever the name is. Only what cleaning and the scheme
itself leave open has to be looked at: a URL may end in characters that are cut off at its end and
not before a name, and behind the scheme there may be nothing but slashes.
-/

namespace TableCatalog.Url

variable {scheme : String} {cs tail : List Char}

/-! ## Behind a scheme -/

theorem exists_parseBehind_of_not_slashes (other : SchemeKind.of scheme = .other) {c d : Char}
    (plain : ¬ (c = '/' ∧ d = '/')) (rest : List Char) :
    ∃ u, parseBehind scheme (c :: d :: rest) = .ok u := by
  unfold parseBehind
  simp only [other]
  split
  · next same =>
    obtain ⟨rfl, behind⟩ := List.cons.inj same
    exact absurd ⟨rfl, (List.cons.inj behind).1⟩ plain
  · exact ⟨_, rfl⟩

/-- Behind a scheme, what follows a slash decides nothing about what stands before it, but that an
at sign alone is no authority before a path. -/
theorem exists_parseBehind_append_iff (two : 2 ≤ cs.length) (slash : ∀ c ∈ tail.head?, c = '/')
    (full : SchemeKind.of scheme = .special → ∃ c ∈ cs, isSlash .special c = false) :
    (∃ u, parseBehind scheme (cs ++ tail) = .ok u) ↔
      (tail ≠ [] → SchemeKind.of scheme = .other → cs ≠ ['/', '/', '@']) ∧
        ∃ u, parseBehind scheme cs = .ok u := by
  have closes (kind : SchemeKind) : Closes kind tail := by
    intro c first
    rw [slash c first]
    rfl
  cases kind : SchemeKind.of scheme with
  | special =>
    obtain ⟨c, mem, text⟩ := full kind
    have there : cs.dropWhile (isSlash .special) ≠ [] := by
      rw [ne_eq, List.dropWhile_eq_nil_iff]
      intro all
      exact Bool.false_ne_true (text.symm.trans (all c mem))
    simp only [parseBehind, kind, List.dropWhile_append, List.isEmpty_iff, there, if_false,
      exists_parseAuthority_append_iff (closes _), reduceCtorEq, false_implies, implies_true,
      true_and, and_iff_right_iff_imp]
    rintro ⟨u, read⟩ - same
    -- the host of an at sign alone is empty
    rw [same] at read
    cases read
  | file =>
    match cs, two with
    | c :: d :: rest, _ =>
      simp only [parseBehind, kind, List.cons_append, reduceCtorEq, false_implies, implies_true,
        true_and]
      split
      · exact exists_parseFileAuthority_append_iff (closes .file)
      · exact ⟨fun _ => ⟨_, rfl⟩, fun _ => ⟨_, rfl⟩⟩
  | other =>
    match cs, two with
    | c :: d :: rest, _ =>
      by_cases slashes : c = '/' ∧ d = '/'
      · obtain ⟨rfl, rfl⟩ := slashes
        simpa [parseBehind, kind] using exists_parseAuthority_append_iff (closes .other)
      · have plain : c :: d :: rest ≠ ['/', '/', '@'] := by
          intro same
          obtain ⟨rfl, behind⟩ := List.cons.inj same
          exact slashes ⟨rfl, (List.cons.inj behind).1⟩
        have read := exists_parseBehind_of_not_slashes kind slashes
        exact iff_of_true (read _) ⟨fun _ _ => plain, read _⟩

/-! ## Cleaned texts -/

/-- A character that is not left out inside a text. -/
def isKept (c : Char) : Bool := !(c = '\t' || c = '\n' || c = '\r')

/-- What is left of a text that does not end in a blank or a control character. -/
def unindented (cs : List Char) : List Char := (cs.dropWhile (·.toNat ≤ 0x20)).filter isKept

theorem isKept_of_lt {c : Char} (solid : 0x20 < c.toNat) : isKept c = true := by
  have ne (d : Char) (skipped : d.toNat ≤ 0x20) : c ≠ d := by
    rintro rfl
    exact Nat.not_lt.mpr skipped solid
  simp [isKept, ne '\t' (by decide), ne '\n' (by decide), ne '\r' (by decide)]

theorem cleaned_prefix (cs : List Char) : cleaned cs <+: unindented cs := by
  have kept := List.rdropWhile_prefix (fun c : Char => decide (c.toNat ≤ 0x20))
    (cs.dropWhile (·.toNat ≤ 0x20))
  exact kept.filter isKept

theorem cleaned_eq_unindented (last : ∀ c ∈ cs.getLast?, 0x20 < c.toNat) :
    cleaned cs = unindented cs := by
  have kept : (cs.dropWhile (·.toNat ≤ 0x20)).rdropWhile (·.toNat ≤ 0x20) =
      cs.dropWhile (·.toNat ≤ 0x20) := by
    rw [List.rdropWhile_eq_self_iff]
    intro some
    have same := (List.dropWhile_suffix (fun c : Char => decide (c.toNat ≤ 0x20))).getLast some
    rw [same, decide_eq_true_eq, Nat.not_le]
    exact last _ (List.getLast?_eq_getLast_of_ne_nil _)
  exact congrArg (List.filter isKept) kept

theorem unindented_append (front : List Char) {c : Char} (back : List Char)
    (solid : 0x20 < c.toNat) :
    unindented (front ++ c :: back) = unindented front ++ c :: back.filter isKept := by
  have stops : ∀ d ∈ (c :: back).head?, decide (d.toNat ≤ 0x20) = false := by
    intro d first
    obtain rfl := Option.some.inj first
    exact decide_eq_false (Nat.not_le.mpr solid)
  rw [unindented, dropWhile_append_of_stops stops, List.filter_append,
    List.filter_cons_of_pos (isKept_of_lt solid)]
  rfl

/-- A text holds `://`. -/
def IsMarked (cs : List Char) : Prop := [':', '/', '/'] <:+: cs

theorem isMarked_iff : IsMarked cs ↔ ∃ front back, cs = front ++ ':' :: '/' :: '/' :: back := by
  constructor
  · rintro ⟨front, back, rfl⟩
    exact ⟨front, back, by simp⟩
  · rintro ⟨front, back, rfl⟩
    exact ⟨front, back, by simp⟩

theorem IsMarked.unindented_append (marked : IsMarked cs) (solid : ∀ c ∈ tail, 0x20 < c.toNat) :
    unindented (cs ++ tail) = unindented cs ++ tail := by
  obtain ⟨front, back, rfl⟩ := isMarked_iff.mp marked
  have kept : tail.filter isKept = tail :=
    List.filter_eq_self.mpr fun c mem => isKept_of_lt (solid c mem)
  rw [List.append_assoc, List.cons_append, Url.unindented_append _ _ (by decide),
    Url.unindented_append _ _ (by decide), List.filter_append, kept, List.append_assoc]
  rfl

theorem IsMarked.unindented (marked : IsMarked cs) : IsMarked (unindented cs) := by
  obtain ⟨front, back, rfl⟩ := isMarked_iff.mp marked
  rw [Url.unindented_append _ _ (by decide)]
  exact isMarked_iff.mpr ⟨Url.unindented front, back.filter isKept, rfl⟩

/-! ## Schemes -/

/-- A scheme is what stands before the first colon, if it begins with a letter and goes on with
characters of a scheme. -/
theorem splitScheme?_eq_some_iff {rest : List Char} :
    splitScheme? cs = some (scheme, rest) ↔
      ∃ front, cs = front ++ ':' :: rest ∧ (∃ c ∈ front.head?, c.isAlpha = true) ∧
        (∀ c ∈ front, isSchemeChar c = true) ∧ scheme = String.ofList (front.map Char.toLower) := by
  constructor
  · intro found
    unfold splitScheme? at found
    split at found
    · next c cs =>
      split at found
      · next letter =>
        split at found
        · next behind dropped =>
          obtain ⟨rfl, rfl⟩ := Prod.mk.inj (Option.some.inj found)
          have whole := List.takeWhile_append_dropWhile (p := isSchemeChar) (l := c :: cs)
          rw [dropped] at whole
          refine ⟨_, whole.symm, ⟨c, ?_, letter⟩, fun d mem => List.mem_takeWhile_imp mem, rfl⟩
          have schemeChar : isSchemeChar c = true := by
            simp [isSchemeChar, Char.isAlphanum, letter]
          rw [List.takeWhile_cons_of_pos schemeChar]
          rfl
        · cases found
      · cases found
    · cases found
  · rintro ⟨front, rfl, ⟨c, first, letter⟩, plain, rfl⟩
    have stops : ∀ c ∈ (':' :: rest).head?, isSchemeChar c = false := by
      rintro c ⟨⟩
      rfl
    cases front with
    | nil => cases first
    | cons d front =>
      obtain rfl := Option.some.inj first
      have taken := takeWhile_append_of_stops stops (d :: front)
      have dropped := dropWhile_append_of_stops stops (d :: front)
      rw [List.takeWhile_eq_self_iff.mpr plain] at taken
      rw [List.dropWhile_eq_nil_iff.mpr plain] at dropped
      simp only [List.cons_append] at taken dropped ⊢
      simp only [splitScheme?, letter, if_true, taken, dropped, List.nil_append]

theorem splitScheme?_append {rest : List Char} (found : splitScheme? cs = some (scheme, rest))
    (tail : List Char) : splitScheme? (cs ++ tail) = some (scheme, rest ++ tail) := by
  obtain ⟨front, rfl, starts, plain, named⟩ := splitScheme?_eq_some_iff.mp found
  exact splitScheme?_eq_some_iff.mpr ⟨front, by simp, starts, plain, named⟩

theorem splitScheme?_append_eq_some_iff {rest : List Char}
    (stops : ∃ c ∈ cs, isSchemeChar c = false) :
    splitScheme? (cs ++ tail) = some (scheme, rest) ↔
      ∃ behind, splitScheme? cs = some (scheme, behind) ∧ rest = behind ++ tail := by
  constructor
  · intro found
    obtain ⟨front, split, starts, plain, named⟩ := splitScheme?_eq_some_iff.mp found
    obtain ⟨stop, mem, stops⟩ := stops
    have outside : stop ∉ front := by
      intro inside
      exact Bool.false_ne_true (stops.symm.trans (plain stop inside))
    rcases List.append_eq_append_iff.mp split with ⟨between, rfl, -⟩ | ⟨between, rfl, same⟩
    · exact absurd (List.mem_append_left between mem) outside
    · cases between with
      | nil =>
        rw [List.append_nil] at mem
        exact absurd mem outside
      | cons c behind =>
        obtain ⟨rfl, rfl⟩ := List.cons.inj same
        exact ⟨behind, splitScheme?_eq_some_iff.mpr ⟨front, rfl, starts, plain, named⟩, rfl⟩
  · rintro ⟨behind, found, rfl⟩
    exact splitScheme?_append found tail

/-- Behind the scheme of a marked text there are at least the two slashes of the mark. -/
theorem IsMarked.two_le {behind : List Char} (marked : IsMarked cs)
    (found : splitScheme? cs = some (scheme, behind)) : 2 ≤ behind.length := by
  obtain ⟨before, after, whole⟩ := isMarked_iff.mp marked
  obtain ⟨front, split, -, plain, -⟩ := splitScheme?_eq_some_iff.mp found
  rcases List.append_eq_append_iff.mp (split.symm.trans whole) with
    ⟨between, -, same⟩ | ⟨between, long, same⟩
  · have lengths := congrArg List.length same
    simp only [List.length_append, List.length_cons] at lengths
    omega
  · cases between with
    | nil =>
      obtain ⟨-, rfl⟩ := List.cons.inj same
      simp
    | cons c between =>
      obtain ⟨rfl, -⟩ := List.cons.inj same
      exact absurd (plain ':' (by simp [long])) (by decide)

theorem IsMarked.stops (marked : IsMarked cs) : ∃ c ∈ cs, isSchemeChar c = false := by
  obtain ⟨front, back, rfl⟩ := isMarked_iff.mp marked
  exact ⟨':', by simp, rfl⟩

/-! ## URLs -/

theorem exists_parse_eq_ok_iff {s : String} :
    (∃ u, parse s = .ok u) ↔
      ∃ scheme rest, splitScheme? (cleaned s.toList) = some (scheme, rest) ∧
        ∃ u, parseBehind scheme rest = .ok u := by
  unfold parse
  cases splitScheme? (cleaned s.toList) with
  | none => simp
  | some parts => simp [Prod.ext_iff]

/-- A scheme that addresses the network is followed by more than slashes. -/
def HasAddress (cs : List Char) : Prop :=
  ∀ scheme behind, splitScheme? (unindented cs) = some (scheme, behind) →
    SchemeKind.of scheme = .special → ∃ c ∈ behind, isSlash .special c = false

/-- What follows a marked text that goes on with a slash decides nothing about the URL, but that an
at sign alone is no authority before a path. -/
theorem exists_parse_append_iff {s : String} (marked : IsMarked cs) (text : s.toList = cs ++ tail)
    (addressed : HasAddress cs) (slash : ∀ c ∈ tail.head?, c = '/')
    (solid : ∀ c ∈ tail, 0x20 < c.toNat) (last : ∀ c ∈ s.toList.getLast?, 0x20 < c.toNat) :
    (∃ u, parse s = .ok u) ↔
      ∃ scheme behind, splitScheme? (unindented cs) = some (scheme, behind) ∧
        (tail ≠ [] → SchemeKind.of scheme = .other → behind ≠ ['/', '/', '@']) ∧
        ∃ u, parseBehind scheme behind = .ok u := by
  have read : cleaned s.toList = unindented cs ++ tail := by
    rw [cleaned_eq_unindented last, text, marked.unindented_append solid]
  rw [exists_parse_eq_ok_iff, read]
  constructor
  · rintro ⟨scheme, rest, found, ok⟩
    obtain ⟨behind, scheme?, rfl⟩ :=
      (splitScheme?_append_eq_some_iff marked.unindented.stops).mp found
    have two := marked.unindented.two_le scheme?
    have full := addressed scheme behind scheme?
    exact ⟨scheme, behind, scheme?, (exists_parseBehind_append_iff two slash full).mp ok⟩
  · rintro ⟨scheme, behind, found, ok⟩
    have two := marked.unindented.two_le found
    have full := addressed scheme behind found
    exact ⟨scheme, behind ++ tail, splitScheme?_append found tail,
      (exists_parseBehind_append_iff two slash full).mpr ok⟩

theorem exists_of_parseBehind_special {behind : List Char}
    (special : SchemeKind.of scheme = .special) (ok : ∃ u, parseBehind scheme behind = .ok u) :
    ∃ c ∈ behind, isSlash .special c = false := by
  by_contra none
  have all : behind.dropWhile (isSlash .special) = [] := by
    rw [List.dropWhile_eq_nil_iff]
    intro c mem
    by_contra text
    exact none ⟨c, mem, Bool.not_eq_true _ |>.mp text⟩
  obtain ⟨u, read⟩ := ok
  simp only [parseBehind, special, all] at read
  cases read

/-- Below a marked text, whether there is a URL does not depend on the name. -/
theorem exists_parse_slash_iff {s : String} {name : List Char} (marked : IsMarked cs)
    (addressed : HasAddress cs) (text : s.toList = cs ++ '/' :: name)
    (solid : ∀ c ∈ name, 0x20 < c.toNat) :
    (∃ u, parse s = .ok u) ↔
      ∃ scheme behind, splitScheme? (unindented cs) = some (scheme, behind) ∧
        (SchemeKind.of scheme = .other → behind ≠ ['/', '/', '@']) ∧
        ∃ u, parseBehind scheme behind = .ok u := by
  have solid' : ∀ c ∈ '/' :: name, 0x20 < c.toNat := List.forall_mem_cons.mpr ⟨by decide, solid⟩
  have last : ∀ c ∈ s.toList.getLast?, 0x20 < c.toNat := by
    intro c mem
    rw [text, List.getLast?_append_of_ne_nil _ (List.cons_ne_nil _ _)] at mem
    exact solid' c (List.mem_of_getLast? mem)
  rw [exists_parse_append_iff marked text addressed (by simp) solid' last]
  simp only [ne_eq, reduceCtorEq, not_false_eq_true, true_implies]

/-- A URL is addressed without the slashes at its end. -/
theorem hasAddress_of_parse {s : String} {slashes : List Char} (marked : IsMarked cs)
    (text : s.toList = cs ++ slashes) (only : ∀ c ∈ slashes, c = '/')
    (ok : ∃ u, parse s = .ok u) : HasAddress cs := by
  intro scheme behind found special
  obtain ⟨scheme', rest, found', read⟩ := exists_parse_eq_ok_iff.mp ok
  obtain ⟨more, whole⟩ := cleaned_prefix s.toList
  have solid : ∀ c ∈ slashes, 0x20 < c.toNat := by
    intro c mem
    rw [only c mem]
    decide
  have same := splitScheme?_append found' more
  rw [whole, text, marked.unindented_append solid, splitScheme?_append found slashes] at same
  obtain ⟨rfl, sameRest⟩ := Prod.mk.inj (Option.some.inj same)
  obtain ⟨c, mem, plain⟩ := exists_of_parseBehind_special special read
  have there : c ∈ behind ++ slashes := sameRest ▸ List.mem_append_left more mem
  rcases List.mem_append.mp there with mem | mem
  · exact ⟨c, mem, plain⟩
  · rw [only c mem] at plain
    cases plain

/-- What begins with a slash is no URL. -/
theorem not_parse_of_slash {s : String} (slash : s.toList.head? = some '/') :
    ¬ ∃ u, parse s = .ok u := by
  intro ok
  obtain ⟨scheme, rest, found, -⟩ := exists_parse_eq_ok_iff.mp ok
  obtain ⟨front, split, ⟨c, first, letter⟩, -, -⟩ := splitScheme?_eq_some_iff.mp found
  obtain ⟨more, whole⟩ := cleaned_prefix s.toList
  obtain ⟨behind, text⟩ := List.head?_eq_some_iff.mp slash
  have starts : unindented s.toList = '/' :: behind.filter isKept := by
    rw [text]
    rfl
  obtain ⟨front', rfl⟩ := List.head?_eq_some_iff.mp first
  rw [split, starts] at whole
  obtain ⟨rfl, -⟩ := List.cons.inj whole
  exact absurd letter (by decide)

section

variable {s root : String} {name slashes : List Char}

/-- Below a URL there are URLs, unless it ends in a control character or an at sign. -/
theorem exists_parse_below (marked : IsMarked cs) (rootText : root.toList = cs ++ slashes)
    (only : ∀ c ∈ slashes, c = '/') (ok : ∃ u, parse root = .ok u)
    (plain : ∀ c ∈ root.toList.getLast?, 0x20 < c.toNat ∧ c ≠ '@')
    (text : s.toList = cs ++ '/' :: name) (solid : ∀ c ∈ name, 0x20 < c.toNat) :
    ∃ u, parse s = .ok u := by
  have addressed := hasAddress_of_parse marked rootText only ok
  have slashesSolid : ∀ c ∈ slashes, 0x20 < c.toNat := by
    intro c mem
    rw [only c mem]
    decide
  have firstSlash : ∀ c ∈ slashes.head?, c = '/' := fun c first => only c (List.mem_of_head? first)
  obtain ⟨scheme, behind, found, before, read⟩ := (exists_parse_append_iff marked rootText addressed
    firstSlash slashesSolid fun c last => (plain c last).1).mp ok
  refine (exists_parse_slash_iff marked addressed text solid).mpr
    ⟨scheme, behind, found, ?_, read⟩
  by_cases none : slashes = []
  · rintro - rfl
    -- the at sign would be the last character of the URL
    obtain ⟨front, split, -⟩ := splitScheme?_eq_some_iff.mp found
    rw [none, List.append_nil] at rootText
    rcases List.eq_nil_or_concat cs with empty | ⟨start, c, ends⟩
    · rw [empty] at split
      exact absurd split (by simp [unindented])
    · rw [List.concat_eq_append] at ends
      obtain ⟨solidEnd, plainEnd⟩ := plain c (by rw [rootText, ends, List.getLast?_concat]; rfl)
      rw [ends, unindented_append start [] solidEnd] at split
      exact plainEnd (by simpa using congrArg List.getLast? split)
  · exact before none

end

end TableCatalog.Url
