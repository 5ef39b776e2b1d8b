import TableCatalog.Proofs.Json.Shown
import TableCatalog.Wire

/-!
# The grammar of identifiers

The reader cuts a text at its full stops and counts the pieces, the constructor checks each segment
by itself, and the writer joins the segments. The three agree: a text is read exactly if it is the
text of an identifier, and segments are accepted exactly if their joined text is read as that many.
-/

namespace TableCatalog

namespace Identifier

/-- A text that is cut into one piece is this piece. -/
theorem splitOn_eq_singleton_of_length {sep : Char} {p : List Char}
    (once : (p.splitOn sep).length = 1) : p.splitOn sep = [p] := by
  obtain ⟨piece, only⟩ := List.length_eq_one_iff.mp once
  have whole : [sep].intercalate (p.splitOn sep) = p := List.intercalate_splitOn sep
  rw [only, List.intercalate_singleton] at whole
  rw [only, whole]

section

variable {database table : String} {branch : Option String} {i j : Identifier}

/-! ## Segments by themselves -/

theorem not_isSegment_of_segmentDefect? {s : String} {d : Defect}
    (defect : segmentDefect? s = some d) : ¬ IsSegment s := by
  rintro ⟨full, whole⟩
  rw [segmentDefect?, if_neg full, if_neg whole] at defect
  cases defect

theorem eq_of_parts (databases : i.database = j.database) (tables : i.table = j.table)
    (branches : i.branch = j.branch) : i = j := by
  cases i
  cases j
  cases databases
  cases tables
  cases branches
  rfl

/-- The segments that were given are those of an identifier, or one of them is no segment and the
refusal names them joined by full stops. -/
theorem build_outcome (database table : String) (branch : Option String) :
    (∃ i, build database table branch = .ok i ∧
      i.database = database ∧ i.table = table ∧ i.branch = branch) ∨
    (∃ d, build database table branch = .error ⟨joined database table branch, d⟩ ∧
      ¬ (IsSegment database ∧ IsSegment table ∧ ∀ b ∈ branch, IsSegment b)) := by
  unfold build
  split
  · next d defect =>
    exact .inr ⟨d, rfl, fun sound => not_isSegment_of_segmentDefect? defect sound.1⟩
  split
  · next d defect =>
    exact .inr ⟨d, rfl, fun sound => not_isSegment_of_segmentDefect? defect sound.2.1⟩
  split
  · exact .inl ⟨_, rfl, rfl, rfl, rfl⟩
  split
  · next b d defect =>
    exact .inr ⟨d, rfl, fun sound => not_isSegment_of_segmentDefect? defect (sound.2.2 b rfl)⟩
  · exact .inl ⟨_, rfl, rfl, rfl, rfl⟩

theorem build_eq_ok_iff :
    build database table branch = .ok i ↔
      i.database = database ∧ i.table = table ∧ i.branch = branch := by
  rcases build_outcome database table branch with ⟨j, built, rfl, rfl, rfl⟩ | ⟨d, refused, unsound⟩
  · rw [built, Except.ok.injEq]
    constructor
    · rintro rfl
      exact ⟨rfl, rfl, rfl⟩
    · rintro ⟨databases, tables, branches⟩
      exact (eq_of_parts databases tables branches).symm
  · rw [refused]
    constructor
    · intro impossible
      cases impossible
    · rintro ⟨rfl, rfl, rfl⟩
      exact absurd ⟨i.database_ok, i.table_ok, i.branch_ok⟩ unsound

/-! ## Segments and pieces -/

theorem splitOn_joined (database table : String) (branch : Option String) :
    (joined database table branch).toList.splitOn '.' =
      database.toList.splitOn '.' ++ table.toList.splitOn '.' ++
        branch.toList.flatMap fun b => b.toList.splitOn '.' := by
  have stop : ".".toList = ['.'] := rfl
  cases branch with
  | none => simp [joined, stop, List.splitOn_append_cons_self]
  | some b => simp [joined, stop, List.splitOn_append_cons_self]

/-- The pieces of the text of an identifier are its segments. -/
theorem splitOn_text (i : Identifier) :
    i.text.toList.splitOn '.' =
      i.database.toList :: i.table.toList :: i.branch.toList.map String.toList := by
  rw [text, splitOn_joined, List.splitOn_eq_singleton i.database_ok.2,
    List.splitOn_eq_singleton i.table_ok.2]
  cases is : i.branch with
  | none => rfl
  | some b => simp [List.splitOn_eq_singleton (i.branch_ok b is).2]

/-- The text of an identifier is read as the identifier. -/
theorem parse_text (i : Identifier) : parse i.text = .ok i := by
  have same : build i.database i.table i.branch = .ok i := build_eq_ok_iff.mpr ⟨rfl, rfl, rfl⟩
  rw [parse, splitOn_text]
  cases is : i.branch with
  | none => simpa [is] using same
  | some b => simpa [is] using same

/-- What the reader does is to build the segments between the full stops, if there are two or
three. -/
theorem parse_cases (s : String) :
    (∃ database table branch, parse s = build database table branch ∧
      joined database table branch = s) ∨
    parse s = .error ⟨s, .segmentCount⟩ := by
  have whole : ['.'].intercalate (s.toList.splitOn '.') = s.toList :=
    List.intercalate_splitOn '.'
  unfold parse
  split
  · next d t cut =>
    refine .inl ⟨_, _, _, rfl, ?_⟩
    rw [cut] at whole
    rw [← String.toList_inj, ← whole]
    simp [joined, List.intercalate_cons_cons]
  · next d t b cut =>
    refine .inl ⟨_, _, _, rfl, ?_⟩
    rw [cut] at whole
    rw [← String.toList_inj, ← whole]
    simp [joined, List.intercalate_cons_cons]
  · exact .inr rfl

theorem parse_eq_ok_iff {s : String} : parse s = .ok i ↔ i.text = s := by
  constructor
  · intro read
    rcases parse_cases s with ⟨database, table, branch, builds, rfl⟩ | refused
    · obtain ⟨rfl, rfl, rfl⟩ := build_eq_ok_iff.mp (builds.symm.trans read)
      rfl
    · cases refused.symm.trans read
  · rintro rfl
    exact parse_text i

theorem input_of_parse {s : String} {e : MalformedIdentifier} (refused : parse s = .error e) :
    e.input = s := by
  rcases parse_cases s with ⟨database, table, branch, builds, rfl⟩ | count
  · rw [builds] at refused
    rcases build_outcome database table branch with ⟨i, built, -⟩ | ⟨d, built, -⟩
    · cases built.symm.trans refused
    · cases built.symm.trans refused
      rfl
  · cases count.symm.trans refused
    rfl

theorem exists_text_iff {s : String} :
    (∃ i : Identifier, i.text = s) ↔
      ∃ segments : List String, (segments.length = 2 ∨ segments.length = 3) ∧
        (∀ g ∈ segments, IsSegment g) ∧ ".".intercalate segments = s := by
  constructor
  · rintro ⟨⟨database, table, branch, databaseOk, tableOk, branchOk⟩, rfl⟩
    cases branch with
    | none => exact ⟨[database, table], .inl rfl, by simp [databaseOk, tableOk], rfl⟩
    | some b =>
      exact ⟨[database, table, b], .inr rfl, by simp [databaseOk, tableOk, branchOk b rfl], rfl⟩
  · rintro ⟨segments, count, sound, rfl⟩
    match segments with
    | [database, table] =>
      simp only [List.forall_mem_cons] at sound
      exact ⟨⟨database, table, none, sound.1, sound.2.1, by simp⟩, rfl⟩
    | [database, table, b] =>
      simp only [List.forall_mem_cons] at sound
      exact ⟨⟨database, table, some b, sound.1, sound.2.1, by simpa using sound.2.2.1⟩, rfl⟩
    | [] | [_] | _ :: _ :: _ :: _ :: _ => simp at count

/-- An identifier with the text of given segments, and with as many, has these segments. -/
theorem parts_of_text (same : i.text = joined database table branch)
    (count : i.branch.isSome = branch.isSome) :
    i.database = database ∧ i.table = table ∧ i.branch = branch := by
  have cut := splitOn_text i
  rw [same, splitOn_joined] at cut
  have firstCut := List.length_pos_iff.mpr (List.splitOn_ne_nil '.' database.toList)
  have secondCut := List.length_pos_iff.mpr (List.splitOn_ne_nil '.' table.toList)
  have total := congrArg List.length cut
  cases branch with
  | none =>
    have main : i.branch = none := by simpa using count
    simp only [main, List.length_append, List.length_cons, Option.toList_none, List.flatMap_nil,
      List.map_nil, List.length_nil] at total
    rw [splitOn_eq_singleton_of_length (p := database.toList) (by omega),
      splitOn_eq_singleton_of_length (p := table.toList) (by omega)] at cut
    simp only [List.cons_append, List.nil_append, Option.toList_none, List.flatMap_nil,
      List.append_nil, main, List.map_nil, List.cons.injEq, String.toList_inj, and_true] at cut
    exact ⟨cut.1.symm, cut.2.symm, main⟩
  | some b =>
    obtain ⟨b', branch⟩ := Option.isSome_iff_exists.mp count
    have thirdCut := List.length_pos_iff.mpr (List.splitOn_ne_nil '.' b.toList)
    simp only [branch, List.length_append, List.length_cons, Option.toList_some,
      List.flatMap_singleton, List.map_cons, List.map_nil, List.length_nil] at total
    rw [splitOn_eq_singleton_of_length (p := database.toList) (by omega),
      splitOn_eq_singleton_of_length (p := table.toList) (by omega), Option.toList_some,
      List.flatMap_singleton, splitOn_eq_singleton_of_length (p := b.toList) (by omega)] at cut
    simp only [List.cons_append, List.nil_append, branch, Option.toList_some, List.map_cons,
      List.map_nil, List.cons.injEq, String.toList_inj, and_true] at cut
    obtain ⟨databases, tables, branches⟩ := cut
    exact ⟨databases.symm, tables.symm, branches ▸ branch⟩

end

/-! ## Messages -/

theorem decoder_shown (i : Identifier) : decoder i.toJson.shown = .ok i := by
  show Json.Decoder.filterMap (fun s => (parse s).toOption) Json.Decoder.string
    (Json.str i.text).shown = .ok i
  have text : Json.Decoder.string (Json.str i.text).shown = .ok i.text := rfl
  rw [Json.Decoder.filterMap, text]
  simp only [parse_text, Except.toOption]

/-! ## The grammar -/

/-- **Identifiers are exactly the texts of two or three segments.** What is read has the text that
was given, and a refusal names it. An identifier comes back from its text and from its message, so
two identifiers of one text are the same. Segments are accepted exactly if their joined text is
read as an identifier with as many of them. -/
theorem grammar (s : String) (i j : Identifier) (database table : String)
    (branch : Option String) :
    ((∃ i, parse s = .ok i) ↔ ∃ segments : List String,
      (segments.length = 2 ∨ segments.length = 3) ∧ (∀ g ∈ segments, IsSegment g) ∧
        ".".intercalate segments = s) ∧
    (match parse s with
      | .ok i => i.text = s
      | .error e => e.input = s) ∧
    parse i.text = .ok i ∧
    Json.read decoder i.toJson.text = .ok i ∧
    (i.text = j.text ↔ i = j) ∧
    (build database table branch = .ok i ↔
      parse (joined database table branch) = .ok i ∧ i.branch.isSome = branch.isSome) := by
  refine ⟨?segments, ?outcome, parse_text i, ?message, ?distinct, ?parts⟩
  case segments =>
    simp only [parse_eq_ok_iff]
    exact exists_text_iff
  case outcome =>
    cases read : parse s with
    | ok i => exact parse_eq_ok_iff.mp read
    | error e => exact input_of_parse read
  case message => exact (Json.read_text decoder i.toJson).trans (decoder_shown i)
  case distinct =>
    constructor
    · intro same
      have read := parse_text i
      rw [same, parse_text j] at read
      cases read
      rfl
    · rintro rfl
      rfl
  case parts =>
    rw [build_eq_ok_iff, parse_eq_ok_iff]
    constructor
    · rintro ⟨rfl, rfl, rfl⟩
      exact ⟨rfl, rfl⟩
    · rintro ⟨same, count⟩
      exact parts_of_text same count

end Identifier

end TableCatalog
