import Mathlib.Data.List.DropRight
import TableCatalog.Url.Parser

/-!
# Where an authority ends

An authority goes up to the first slash, question mark or number sign. What follows it is path,
query and fragment, which are never refused, so the authority alone decides whether a URL is read.
There is one exception: an at sign alone is an authority without a host at the end of a text, and
refused before a path.
-/

namespace TableCatalog.Url

variable {kind : SchemeKind} {scheme : String} {cs tail : List Char} {inside : Bool}

/-! ## Where parts end -/

section

variable {p : Char → Bool}

theorem takeWhile_append_of_stops (stops : ∀ c ∈ tail.head?, p c = false) (cs : List Char) :
    (cs ++ tail).takeWhile p = cs.takeWhile p := by
  induction cs with
  | nil =>
    cases tail with
    | nil => rfl
    | cons c tail => exact List.takeWhile_cons_of_neg (by simp [stops c rfl])
  | cons c cs ih => simp only [List.cons_append, List.takeWhile_cons, ih]

theorem dropWhile_append_of_stops (stops : ∀ c ∈ tail.head?, p c = false) (cs : List Char) :
    (cs ++ tail).dropWhile p = cs.dropWhile p ++ tail := by
  induction cs with
  | nil =>
    cases tail with
    | nil => rfl
    | cons c tail => exact List.dropWhile_cons_of_neg (by simp [stops c rfl])
  | cons c cs ih =>
    simp only [List.cons_append, List.dropWhile_cons, ih]
    split <;> rfl

end

/-- An authority does not go on in a text. -/
def Closes (kind : SchemeKind) (tail : List Char) : Prop :=
  ∀ c ∈ tail.head?, endsAuthority kind c = true

theorem Closes.stops (closes : Closes kind tail) :
    ∀ c ∈ tail.head?, (!endsAuthority kind c) = false := by
  intro c first
  rw [closes c first, Bool.not_true]

theorem closes_dropWhile (kind : SchemeKind) (cs : List Char) :
    Closes kind (cs.dropWhile (!endsAuthority kind ·)) := by
  intro c first
  have stops := List.head?_dropWhile_not (!endsAuthority kind ·) cs
  rw [Option.mem_def.mp first] at stops
  simpa using stops

theorem Closes.append {behind : List Char} (closes : Closes kind behind)
    (closes' : Closes kind tail) : Closes kind (behind ++ tail) := by
  cases behind with
  | nil => exact closes'
  | cons c behind => exact closes

theorem splitHost_append (closes : Closes kind tail)
    (within : ∀ c ∈ cs, endsAuthority kind c = false) :
    splitHost kind inside (cs ++ tail) =
      ((splitHost kind inside cs).1, (splitHost kind inside cs).2 ++ tail) := by
  induction cs generalizing inside with
  | nil =>
    cases tail with
    | nil => rfl
    | cons c tail => simp [splitHost, closes c rfl]
  | cons c cs ih =>
    rw [List.forall_mem_cons] at within
    rw [List.cons_append, splitHost, splitHost]
    split
    · rfl
    · simp only [ih within.2]

/-- Within an authority, a host ends at a colon or at the end. -/
theorem head?_splitHost (within : ∀ c ∈ cs, endsAuthority kind c = false) :
    ∀ c ∈ (splitHost kind inside cs).2.head?, c = ':' := by
  induction cs generalizing inside with
  | nil => simp [splitHost]
  | cons c cs ih =>
    rw [List.forall_mem_cons] at within
    rw [splitHost]
    split
    · next stops =>
      rw [within.1] at stops
      simpa using (stops.resolve_right Bool.false_ne_true).1
    · exact ih within.2

/-! ## Ports -/

theorem exists_portOf_eq_ok_iff {digits rest : List Char} :
    (∃ port, portOf scheme digits rest = .ok port) ↔
      Text.decimalValue digits < 65536 ∧ endsPort rest = true := by
  unfold portOf
  split
  · next refused =>
    refine iff_of_false (by simp) ?_
    rintro ⟨small, ends⟩
    rcases refused with large | goesOn
    · exact absurd small (Nat.not_lt.mpr large)
    · exact Bool.false_ne_true (goesOn.symm.trans ends)
  · next read =>
    rw [not_or, Nat.not_le, Bool.not_eq_false] at read
    refine iff_of_true ?_ read
    split
    · exact ⟨_, rfl⟩
    · exact ⟨_, rfl⟩

theorem Closes.endsPort (closes : Closes kind tail) : endsPort tail = true := by
  cases tail with
  | nil => rfl
  | cons c tail =>
    have ends := closes c rfl
    simp only [endsAuthority, isSlash, Bool.or_eq_true, Bool.and_eq_true, decide_eq_true_eq,
      Url.endsPort] at ends ⊢
    rcases ends with ((slash | ⟨backslash, -⟩) | question) | number
    · exact .inl (.inl (.inl slash))
    · exact .inl (.inl (.inr backslash))
    · exact .inl (.inr question)
    · exact .inr number

theorem Closes.not_isDigit (closes : Closes kind tail) :
    ∀ c ∈ tail.head?, Text.isDigit c = false := by
  intro c first
  have ends := closes c first
  simp only [endsAuthority, isSlash, Bool.or_eq_true, Bool.and_eq_true, decide_eq_true_eq] at ends
  rcases ends with ((rfl | ⟨rfl, -⟩) | rfl) | rfl <;> rfl

theorem exists_parsePort_append_iff (closes : Closes kind tail) :
    (∃ port, parsePort scheme (cs ++ tail) = .ok port) ↔
      ∃ port, parsePort scheme cs = .ok port := by
  have ends : endsPort (cs.dropWhile Text.isDigit ++ tail) =
      endsPort (cs.dropWhile Text.isDigit) := by
    cases cs.dropWhile Text.isDigit with
    | nil => exact closes.endsPort
    | cons c rest => rfl
  rw [parsePort, parsePort, exists_portOf_eq_ok_iff, exists_portOf_eq_ok_iff,
    takeWhile_append_of_stops closes.not_isDigit, dropWhile_append_of_stops closes.not_isDigit,
    ends]

theorem portBehind_of_closes (closes : Closes kind tail) :
    portBehind scheme tail = .ok (none, tail) := by
  unfold portBehind
  split
  · have ends := closes ':' rfl
    cases kind <;> cases ends
  · rfl

/-- Whether a port is read behind a host does not depend on what follows the authority. -/
theorem exists_portBehind_append_iff (closes : Closes kind tail)
    (colon : ∀ c ∈ cs.head?, c = ':') :
    (∃ port, portBehind scheme (cs ++ tail) = .ok port) ↔
      ∃ port, portBehind scheme cs = .ok port := by
  cases cs with
  | nil =>
    rw [List.nil_append, portBehind_of_closes closes]
    exact ⟨fun _ => ⟨_, rfl⟩, fun _ => ⟨_, rfl⟩⟩
  | cons c cs =>
    obtain rfl := colon c rfl
    exact exists_parsePort_append_iff closes

/-! ## Authorities -/

section

variable {credentials : String × Option String}

/-- Host and port are read exactly if each of them is, and if an empty host has neither credentials
nor a port. -/
theorem exists_parseHost_eq_ok_iff :
    (∃ u, parseHost scheme kind credentials cs = .ok u) ↔
      ∃ host, hostOf kind (splitHost kind false cs).1 = .ok host ∧
        (host = .empty →
          (splitHost kind false cs).2.head? ≠ some ':' ∧ credentials = ("", none)) ∧
        ∃ port, portBehind scheme (splitHost kind false cs).2 = .ok port := by
  simp only [parseHost, bind, Except.bind, pure, Except.pure]
  cases hostOf kind (splitHost kind false cs).1 with
  | error e => simp
  | ok host =>
    cases portBehind scheme (splitHost kind false cs).2 with
    | error e =>
      simp only [reduceCtorEq, exists_false, and_false, iff_false, not_exists]
      intro u
      split <;> simp
    | ok port =>
      by_cases empty : host = .empty
      · by_cases colon : (splitHost kind false cs).2.head? = some ':'
        · simp [empty, colon]
        · by_cases bare : credentials = ("", none) <;> simp [empty, colon, bare]
      · simp [empty]

theorem exists_parseHost_append_iff (closes : Closes kind tail)
    (within : ∀ c ∈ cs, endsAuthority kind c = false) :
    (∃ u, parseHost scheme kind credentials (cs ++ tail) = .ok u) ↔
      ∃ u, parseHost scheme kind credentials cs = .ok u := by
  have colon : ∀ c ∈ (splitHost kind false cs).2.head?, c = ':' := head?_splitHost within
  have same : ((splitHost kind false cs).2 ++ tail).head? = some ':' ↔
      (splitHost kind false cs).2.head? = some ':' := by
    cases (splitHost kind false cs).2 with
    | nil =>
      refine iff_of_false ?_ (by simp)
      intro first
      have ends := closes ':' first
      cases kind <;> cases ends
    | cons c rest => rfl
  rw [exists_parseHost_eq_ok_iff, exists_parseHost_eq_ok_iff, splitHost_append closes within]
  simp only [ne_eq, same, exists_portBehind_append_iff closes colon]

end

/-- The text before and after the last at sign is all of the text. -/
theorem eq_of_splitUserinfo? {userinfo host : List Char}
    (found : splitUserinfo? cs = some (userinfo, host)) : cs = userinfo ++ '@' :: host := by
  unfold splitUserinfo? at found
  split at found
  · next mem =>
    obtain ⟨behind, before, last, none⟩ := List.eq_append_cons_of_mem (List.mem_reverse.mpr mem)
    have taken : cs.reverse.takeWhile (· ≠ '@') = behind := by
      rw [last, takeWhile_append_of_stops (by simp), List.takeWhile_eq_self_iff]
      intro c inside
      exact decide_eq_true (ne_of_mem_of_not_mem inside none)
    have split : cs = before.reverse ++ '@' :: behind.reverse := by
      rw [← List.reverse_inj, last]
      simp
    have short : cs.length - behind.reverse.length - 1 = before.reverse.length := by
      rw [split, List.length_append, List.length_cons]
      omega
    simp only [taken, short, Option.some.injEq, Prod.mk.injEq] at found
    obtain ⟨rfl, rfl⟩ := found
    rw [split, List.take_left]
  · cases found

theorem exists_parseAuthority_append_iff_of_within (closes : Closes kind tail)
    (within : ∀ c ∈ cs, endsAuthority kind c = false) :
    (∃ u, parseAuthority scheme kind (cs ++ tail) = .ok u) ↔
      (tail ≠ [] → cs ≠ ['@']) ∧ ∃ u, parseAuthority scheme kind cs = .ok u := by
  have all : ∀ c ∈ cs, (!endsAuthority kind c) = true := by simpa using within
  simp only [parseAuthority, takeWhile_append_of_stops closes.stops,
    dropWhile_append_of_stops closes.stops, List.takeWhile_eq_self_iff.mpr all,
    List.dropWhile_eq_nil_iff.mpr all, List.nil_append, List.append_nil]
  cases found : splitUserinfo? cs with
  | none =>
    have other : cs ≠ ['@'] := by
      rintro rfl
      cases found
    simp only [exists_parseHost_append_iff closes within, ne_eq, other, not_false_eq_true,
      implies_true, true_and]
  | some parts =>
    obtain ⟨userinfo, host⟩ := parts
    have whole := eq_of_splitUserinfo? found
    have withinHost : ∀ c ∈ host, endsAuthority kind c = false := by
      intro c mem
      exact within c (by simp [whole, mem])
    have alone : userinfo = [] ∧ host = [] ↔ cs = ['@'] := by
      rw [whole, List.append_eq_singleton_iff]
      simp
    simp only [List.isEmpty_iff, List.isEmpty_nil, not_true_eq_false, and_false, if_false]
    by_cases bare : userinfo = [] ∧ host = [] ∧ ¬ tail = []
    · rw [if_pos bare]
      obtain ⟨noUserinfo, noHost, more⟩ := bare
      have same := alone.mp ⟨noUserinfo, noHost⟩
      simp [same, more]
    · have plain : tail ≠ [] → cs ≠ ['@'] := by
        intro more same
        obtain ⟨noUserinfo, noHost⟩ := alone.mpr same
        exact bare ⟨noUserinfo, noHost, more⟩
      rw [if_neg bare, exists_parseHost_append_iff closes withinHost]
      exact (and_iff_right plain).symm

/-- What follows an authority decides nothing about it, but that an at sign alone is no authority
before a path. -/
theorem exists_parseAuthority_append_iff (closes : Closes kind tail) :
    (∃ u, parseAuthority scheme kind (cs ++ tail) = .ok u) ↔
      (tail ≠ [] → cs ≠ ['@']) ∧ ∃ u, parseAuthority scheme kind cs = .ok u := by
  -- the text has an authority of its own, and what stands behind that is none of it either
  have whole := List.takeWhile_append_dropWhile (p := (!endsAuthority kind ·)) (l := cs)
  have closes' := closes_dropWhile kind cs
  have within : ∀ c ∈ cs.takeWhile (!endsAuthority kind ·), endsAuthority kind c = false := by
    intro c mem
    simpa using List.mem_takeWhile_imp mem
  generalize cs.takeWhile (!endsAuthority kind ·) = authority at whole within
  generalize cs.dropWhile (!endsAuthority kind ·) = behind at whole closes'
  subst whole
  rw [List.append_assoc, exists_parseAuthority_append_iff_of_within (closes'.append closes) within,
    exists_parseAuthority_append_iff_of_within closes' within, ← and_assoc]
  refine and_congr_left' ?_
  cases behind with
  | nil => simp
  | cons c behind =>
    have other : authority ++ c :: behind ≠ ['@'] := by
      intro same
      obtain ⟨-, same⟩ | ⟨-, same⟩ := List.append_eq_singleton_iff.mp same
      · obtain ⟨rfl, -⟩ := List.cons.inj same
        have ends := closes' '@' rfl
        cases kind <;> cases ends
      · cases same
    simp [other]

/-- The host of a file is read unless it is empty or a drive, and nothing else can fail. -/
theorem exists_parseFileAuthority_eq_ok_iff :
    (∃ u, parseFileAuthority cs = .ok u) ↔
      let host := cs.takeWhile (!endsAuthority .file ·)
      host = [] ∨ isDriveLetter host = true ∨ ∃ h, Host.parse host = .ok h := by
  simp only [parseFileAuthority, bind, Except.bind, pure, Except.pure, List.isEmpty_iff, ← or_assoc]
  by_cases skipped : cs.takeWhile (!endsAuthority .file ·) = [] ∨
      isDriveLetter (cs.takeWhile (!endsAuthority .file ·)) = true
  · rw [if_pos skipped]
    exact ⟨fun _ => .inl skipped, fun _ => ⟨_, rfl⟩⟩
  · rw [if_neg skipped]
    cases Host.parse (cs.takeWhile (!endsAuthority .file ·)) with
    | error e =>
      refine iff_of_false (by simp) ?_
      rintro (skips | ⟨host, impossible⟩)
      · exact skipped skips
      · cases impossible
    | ok host => exact ⟨fun _ => .inr ⟨host, rfl⟩, fun _ => ⟨_, rfl⟩⟩

theorem exists_parseFileAuthority_append_iff (closes : Closes .file tail) :
    (∃ u, parseFileAuthority (cs ++ tail) = .ok u) ↔ ∃ u, parseFileAuthority cs = .ok u := by
  simp only [exists_parseFileAuthority_eq_ok_iff, takeWhile_append_of_stops closes.stops]

end TableCatalog.Url
