import TableCatalog.Proofs.Json.Shown
import TableCatalog.Proofs.Json.Skipping
import TableCatalog.Wire

/-!
# Audit fields among the members of a description

The audit fields of a description stand among its own members. They are decoded from those members
that the description has no field for, after all of them were taken. A decoder of audit fields alone
goes through the same text in another way: it looks for its fields at once and skips what it has no
field for. Both come to the same audit fields, for the two records share no field and what a
description accepts can be skipped; and either record is the same without the members of the other.
-/

namespace TableCatalog

open Json (Decoder Field Quoted Reading ReadError)
open Json.Record

theorem Json.read_eq_ok_iff {α : Type} {d : Decoder α} {s : String} {a : α} :
    Json.read d s = .ok a ↔ d (Json.reading s.toList).1 = .ok a ∧
      ∀ rest ∈ (Json.reading s.toList).2, (Json.skipBlanks rest).isEmpty = true := by
  simp only [Json.read]
  cases accepted : d (Json.reading s.toList).1 with
  | error e => simp
  | ok b =>
    cases behind : (Json.reading s.toList).2 with
    | none => simp
    | some rest => by_cases ends : skipBlanks rest = [] <;> simp [ends]

/-! ## Audit fields by themselves -/

namespace Audit

/-- Whether a name is that of an audit field. -/
def isField (k : String) : Bool := knows fields k

/-- Audit fields from members under their names. -/
def ofNamed (es : List (String × Reading)) : Except ReadError Audit := do
  let found ← checkAll fields .skipped ⟨[], []⟩ es
  ofFound found.fields

theorem ofStrangers_eq (strangers : List (String × Reading)) :
    ofStrangers strangers = ofNamed (strangers.filter fun e => isField e.1) :=
  rfl

theorem decoder_object {ms : List (Quoted × Reading)} (taken : ∀ m ∈ ms, ∃ k, m.1.taken = .ok k) :
    decoder (.object ms .closed) = ofNamed (named ms) := by
  rw [decoder, find, members_eq_checkAll taken, ofNamed]
  cases checkAll fields .skipped ⟨[], []⟩ (named ms) with
  | error e => rfl
  | ok found => rfl

/-- Members of other names are nothing to audit fields, if they can be skipped. -/
theorem ofNamed_filter {es : List (String × Reading)} (skips : ∀ e ∈ es, e.2.skip = none) :
    ofNamed es = ofNamed (es.filter fun e => isField e.1) := by
  rw [ofNamed, checkAll_skipped skips]
  rfl

/-- Without members of the names of audit fields there are no audit fields. -/
theorem ofStrangers_where_not (strangers : List (String × Reading)) :
    ofStrangers (strangers.filter fun e => !isField e.1) = .ok {} := by
  have none : ((strangers.filter fun e => !isField e.1).filter fun e => isField e.1) = [] := by
    simp [List.filter_filter]
  rw [ofStrangers_eq, none]
  rfl

/-- A text holds audit fields next to a record that is `bare` of them. -/
structure HeldApart {δ : Type} (decoder : Decoder δ) (s : String) (audit : Audit) (bare : δ) :
    Prop where
  /-- The text is read as these audit fields alone. -/
  alone : Json.read Audit.decoder s = .ok audit
  /-- They come to the same pairs. -/
  pairs : (Json.read Audit.decoder s).map Audit.pairs = .ok audit.pairs
  /-- The audit fields are made of the members of their names, and the record of the other ones. -/
  apart : ∃ ms rest, Json.reading s.toList = (.object ms .closed, rest) ∧
    Audit.decoder (.object (membersWhere isField ms) .closed) = .ok audit ∧
    decoder (.object (membersWhere (!isField ·) ms) .closed) = .ok bare

end Audit

/-! ## Records with audit fields among their members -/

/-- A record that holds audit fields among its members. -/
structure Flattened (δ : Type) where
  /-- The fields of its own. -/
  fields : List Field
  /-- What its own fields make of audit fields. -/
  own : List (String × Reading) → Except ReadError (Audit → δ)
  audit : δ → Audit
  /-- The record without its audit fields. -/
  bare : δ → δ
  /-- Its own fields leave the audit fields as they are. -/
  eq_of_own : ∀ found make, own found = .ok make → ∀ a, audit (make a) = a ∧ bare (make a) = make {}
  /-- It has no field of the name of an audit field. -/
  apart : ∀ field ∈ fields, Audit.isField field.name = false
  /-- What its own fields accept can be skipped. -/
  skippable : Field.AllSkippable fields

namespace Flattened

variable {δ : Type} (F : Flattened δ)

/-- Reads the record with its audit fields. -/
def decoder : Decoder δ := fun r => do
  let found ← findWithStrangers F.fields r
  let make ← F.own found.fields
  let audit ← Audit.ofStrangers found.strangers
  return make audit

variable {F} {ms : List (Quoted × Reading)} {found : Found}

theorem isField_of_knows {k : String} (known : knows F.fields k = true) :
    Audit.isField k = false := by
  obtain ⟨field, mem, name⟩ := List.any_eq_true.mp known
  rw [← of_decide_eq_true name]
  exact F.apart field mem

/-- The audit fields among the members that are kept are all that there are. -/
theorem filter_strangers (kept : checkAll F.fields .kept ⟨[], []⟩ (named ms) = .ok found) :
    (found.strangers.filter fun e => Audit.isField e.1) =
      (named ms).filter fun e => Audit.isField e.1 := by
  rw [strangers_of_checkAll_kept kept, List.nil_append, List.filter_filter]
  refine List.filter_congr fun e _ => ?_
  cases mine : Audit.isField e.1 with
  | false => rfl
  | true =>
    have foreign : knows F.fields e.1 = false := by
      rw [← Bool.not_eq_true]
      intro own
      rw [isField_of_knows own] at mine
      cases mine
    rw [foreign]
    rfl

theorem skip_of_mem_named (consistent : (Reading.object ms .closed).Consistent)
    (found : members F.fields .kept ⟨[], []⟩ ms .closed = .ok found) :
    ∀ e ∈ named ms, e.2.skip = none := by
  intro e mem
  obtain ⟨m, here, name⟩ := List.mem_filterMap.mp mem
  obtain ⟨k, -, rfl⟩ := Option.map_eq_some_iff.mp name
  exact ((skip_of_members F.skippable consistent found).2 m here).2

theorem taken_of_membersWhere {p : String → Bool} (taken : ∀ m ∈ ms, ∃ k, m.1.taken = .ok k) :
    ∀ m ∈ membersWhere p ms, ∃ k, m.1.taken = .ok k :=
  fun m mem => taken m (List.mem_filter.mp mem).1

/-- A record that is accepted is an object. Its audit fields are those that stand in it alone, and
each of the two is made of its own members. -/
theorem decoder_eq_ok {r : Reading} {d : δ} (consistent : r.Consistent)
    (read : F.decoder r = .ok d) :
    ∃ ms, r = .object ms .closed ∧ Audit.decoder r = .ok (F.audit d) ∧
      Audit.decoder (.object (membersWhere Audit.isField ms) .closed) = .ok (F.audit d) ∧
      F.decoder (.object (membersWhere (!Audit.isField ·) ms) .closed) = .ok (F.bare d) := by
  simp only [decoder, bind_eq_ok_iff] at read
  obtain ⟨found, kept, make, owned, audit, audited, made⟩ := read
  cases made
  obtain ⟨same, bare⟩ := F.eq_of_own found.fields make owned audit
  obtain ⟨ms, rfl, taken, all⟩ := findWithStrangers_eq_ok kept
  have checked := all
  rw [members_eq_checkAll taken] at checked
  rw [Audit.ofStrangers_eq, filter_strangers checked] at audited
  rw [same, bare]
  refine ⟨ms, rfl, ?alone, ?mine, ?others⟩
  case alone =>
    rw [Audit.decoder_object taken, Audit.ofNamed_filter (skip_of_mem_named consistent all)]
    exact audited
  case mine =>
    rw [Audit.decoder_object (taken_of_membersWhere taken), named_membersWhere]
    exact audited
  case others =>
    -- all fields of the record itself are among the members that are left
    have own (k : String) (known : knows F.fields k = true) : (!Audit.isField k) = true := by
      rw [isField_of_knows known]
      rfl
    have without := checkAll_kept_where own checked
    rw [← named_membersWhere (!Audit.isField ·) ms,
      ← members_eq_checkAll (taken_of_membersWhere taken)] at without
    simp only [decoder, bind_eq_ok_iff]
    exact ⟨_, without, make, owned, {}, Audit.ofStrangers_where_not _, rfl⟩

/-- A text that is read as a record holds its audit fields apart. -/
theorem heldApart {s : String} {d : δ} (read : Json.read F.decoder s = .ok d) :
    Audit.HeldApart F.decoder s (F.audit d) (F.bare d) := by
  obtain ⟨accepted, ends⟩ := Json.read_eq_ok_iff.mp read
  obtain ⟨ms, shown, alone, mine, others⟩ :=
    decoder_eq_ok (Json.consistent_reading s.toList) accepted
  have standing : Json.read Audit.decoder s = .ok (F.audit d) :=
    Json.read_eq_ok_iff.mpr ⟨alone, ends⟩
  exact ⟨standing, by rw [standing]; rfl, ms, _, Prod.ext shown rfl, mine, others⟩

end Flattened

/-! ## Descriptions -/

namespace DataField

theorem skippable_fields : Field.AllSkippable fields :=
  .cons "id" ((Decoder.skippable_integer _ _).map _) _ <|
  .cons "name" Decoder.skippable_string _ <|
  .cons "type" Decoder.skippable_string _ <|
  .cons "description" Decoder.skippable_string.nullable _ .nil

theorem skippable_decoder : decoder.Skippable := (skippable_find skippable_fields).bind _

end DataField

namespace Schema

theorem skippable_fields : Field.AllSkippable wireFields :=
  .cons "fields" DataField.skippable_decoder.list _ <|
  .cons "partitionKeys" Decoder.skippable_string.list _ <|
  .cons "primaryKeys" Decoder.skippable_string.list _ <|
  .cons "options" Decoder.skippable_string.nameMap _ <|
  .cons "comment" Decoder.skippable_string.nullable _ .nil

theorem skippable_decoder : decoder.Skippable := (skippable_find skippable_fields).bind _

end Schema

namespace TableDescription

theorem skippable_fields : Field.AllSkippable fields :=
  .cons "id" Decoder.skippable_string _ <|
  .cons "name" Decoder.skippable_string _ <|
  .cons "path" Decoder.skippable_string _ <|
  .cons "isExternal" Decoder.skippable_bool _ <|
  .cons "schemaId" ((Decoder.skippable_integer _ _).map _) _ <|
  .cons "schema" Schema.skippable_decoder _ .nil

/-- A table description from its own fields, whatever its audit fields are. -/
def own (found : List (String × Reading)) : Except ReadError (Audit → TableDescription) := do
  let id ← required found "id" Decoder.string
  let name ← required found "name" Decoder.string
  let path ← required found "path" Decoder.string
  let isExternal ← withDefault found "isExternal" Decoder.bool false
  let schemaId ← withDefault found "schemaId" Wire.int64 0
  let schema ← required found "schema" Schema.decoder
  return fun audit => { id, name, path, isExternal, schemaId, schema, audit }

theorem eq_of_own {found : List (String × Reading)} {make : Audit → TableDescription}
    (owned : own found = .ok make) (a : Audit) :
    (make a).audit = a ∧ { make a with audit := {} } = make {} := by
  simp only [own, bind_eq_ok_iff] at owned
  obtain ⟨id, -, name, -, path, -, isExternal, -, schemaId, -, schema, -, made⟩ := owned
  cases made
  exact ⟨rfl, rfl⟩

/-- A table description holds audit fields among its members. -/
def flattened : Flattened TableDescription where
  fields := fields
  own := own
  audit d := d.audit
  bare d := { d with audit := {} }
  eq_of_own _ _ owned a := eq_of_own owned a
  apart := by decide
  skippable := skippable_fields

theorem decoder_eq : decoder = flattened.decoder := by
  funext r
  simp only [decoder, Flattened.decoder, flattened, own, bind_assoc, pure_bind]

end TableDescription

namespace DatabaseDescription

theorem skippable_fields : Field.AllSkippable fields :=
  .cons "id" Decoder.skippable_string _ <|
  .cons "name" Decoder.skippable_string _ <|
  .cons "location" Decoder.skippable_string _ <|
  .cons "options" Decoder.skippable_string.nameMap _ .nil

/-- A database description from its own fields, whatever its audit fields are. -/
def own (found : List (String × Reading)) : Except ReadError (Audit → DatabaseDescription) := do
  let id ← required found "id" Decoder.string
  let name ← required found "name" Decoder.string
  let location ← required found "location" Decoder.string
  let options ← withDefault found "options" Wire.options NameMap.empty
  return fun audit => { id, name, location, options, audit }

theorem eq_of_own {found : List (String × Reading)} {make : Audit → DatabaseDescription}
    (owned : own found = .ok make) (a : Audit) :
    (make a).audit = a ∧ { make a with audit := {} } = make {} := by
  simp only [own, bind_eq_ok_iff] at owned
  obtain ⟨id, -, name, -, location, -, options, -, made⟩ := owned
  cases made
  exact ⟨rfl, rfl⟩

/-- A database description holds audit fields among its members. -/
def flattened : Flattened DatabaseDescription where
  fields := fields
  own := own
  audit d := d.audit
  bare d := { d with audit := {} }
  eq_of_own _ _ owned a := eq_of_own owned a
  apart := by decide
  skippable := skippable_fields

theorem decoder_eq : decoder = flattened.decoder := by
  funext r
  simp only [decoder, Flattened.decoder, flattened, own, bind_assoc, pure_bind]

end DatabaseDescription

/-- **Audit fields are read alike** within a description and alone. Whatever else a text holds and
in whatever order, if it is read as the description of a table or of a database, it is also read as
audit fields, and these are the audit fields of the description; no member of the one is taken for a
field of the other. -/
theorem audit_is_read_alike (s : String) :
    (∀ d, Json.read TableDescription.decoder s = .ok d →
      Audit.HeldApart TableDescription.decoder s d.audit { d with audit := {} }) ∧
    (∀ d, Json.read DatabaseDescription.decoder s = .ok d →
      Audit.HeldApart DatabaseDescription.decoder s d.audit { d with audit := {} }) := by
  constructor
  · intro d read
    rw [TableDescription.decoder_eq] at read ⊢
    exact Flattened.heldApart read
  · intro d read
    rw [DatabaseDescription.decoder_eq] at read ⊢
    exact Flattened.heldApart read

namespace Sample

/-- A description of a table and of a database at once, with an audit field of `null`, a name given
twice among the free-form pairs and a member that no one knows. -/
def twofold : Json :=
  .obj [("owner", .str "ada"), ("x", .arr [.int 1, .obj []]), ("id", .str "7"),
    ("updatedAt", .null), ("auditOptions", .obj [("team", .str "red"), ("team", .str "blue")]),
    ("name", .str "n"), ("path", .str "/t"), ("createdAt", .int 42), ("location", .str "/d"),
    ("schema", .obj [])]

def twofoldAudit : Audit :=
  { owner := some "ada", createdAt := some 42, extra := NameMap.ofList [("team", "blue")] }

def twofoldTable : TableDescription :=
  { id := "7", name := "n", path := "/t", schema := {}, audit := twofoldAudit }

def twofoldDatabase : DatabaseDescription :=
  { id := "7", name := "n", location := "/d", audit := twofoldAudit }

end Sample

open Sample in
/-- A text that describes both a table and a database holds the same audit fields apart from either
of them. -/
theorem audit_is_read_alike_of_twofold :
    Json.read TableDescription.decoder twofold.text = .ok twofoldTable ∧
    Json.read DatabaseDescription.decoder twofold.text = .ok twofoldDatabase ∧
    Audit.HeldApart TableDescription.decoder twofold.text twofoldAudit
      { twofoldTable with audit := {} } ∧
    Audit.HeldApart DatabaseDescription.decoder twofold.text twofoldAudit
      { twofoldDatabase with audit := {} } := by
  have table : Json.read TableDescription.decoder twofold.text = .ok twofoldTable := by
    rw [Json.read_text]
    exact eq_ok_of_toOption (by decide +kernel)
  have database : Json.read DatabaseDescription.decoder twofold.text = .ok twofoldDatabase := by
    rw [Json.read_text]
    exact eq_ok_of_toOption (by decide +kernel)
  obtain ⟨ofTable, ofDatabase⟩ := audit_is_read_alike twofold.text
  exact ⟨table, database, ofTable twofoldTable table, ofDatabase twofoldDatabase database⟩

end TableCatalog
