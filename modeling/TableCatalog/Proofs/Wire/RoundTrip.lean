import TableCatalog.Proofs.Identifier.Grammar
import TableCatalog.Proofs.Wire.Parts
import TableCatalog.Wire

/-!
# Messages are read as they were written

For every message the fields that are written, in their order, with what is written in them. Each
of them is right for the field of the decoder at the same place, so the decoder finds them all.
-/

namespace TableCatalog

open Json (Decoder Field Slots entries present required_entries find_present
  findWithStrangers_present find?_of_holds checkAll_present mem_present_iff)
open Json.Record (required withDefault)
open Wire

/-! ## Schemas -/

namespace DataField

/-- What is written of a column. -/
def slots (f : DataField) : Slots :=
  [("id", some (.int f.id.toInt)), ("name", some (.str f.name)), ("type", some (.str f.dataType)),
    ("description", f.description.map .str)]

theorem toJson_eq (f : DataField) : f.toJson = .obj (present f.slots) := by
  cases f with
  | mk id name dataType description => cases description <;> rfl

theorem holds_slots (f : DataField) : List.Forall₂ Field.Holds fields f.slots :=
  .cons (holds_some (int32_shown f.id) _) <|
  .cons (holds_some (string_shown f.name) _) <|
  .cons (holds_some (string_shown f.dataType) _) <|
  .cons (holds_map optionalString_shown _ f.description) .nil

theorem decoder_shown (f : DataField) : decoder f.toJson.shown = .ok f := by
  have distinct : (f.slots.map Prod.fst).Nodup :=
    show ["id", "name", "type", "description"].Nodup by decide
  have id := required_entries distinct "id" (by simp [slots]) (int32_shown f.id)
  have name := required_entries distinct "name" (by simp [slots]) (string_shown f.name)
  have dataType := required_entries distinct "type" (by simp [slots]) (string_shown f.dataType)
  have description := withDefault_map distinct "description" (o := f.description)
    (by simp [slots]) optionalString_shown
  rw [toJson_eq, decoder, find_present f.holds_slots distinct]
  simp only [bind, Except.bind, pure, Except.pure, id, name, dataType, description]

end DataField

namespace Schema

/-- What is written of a schema. -/
def slots (s : Schema) : Slots :=
  [("fields", some (.arr (s.fields.map DataField.toJson))),
    ("partitionKeys", some (stringsJson s.partitionKeys)),
    ("primaryKeys", some (stringsJson s.primaryKeys)), ("options", some (optionsJson s.options)),
    ("comment", s.comment.map .str)]

theorem toJson_eq (s : Schema) : s.toJson = .obj (present s.slots) := by
  cases s with
  | mk fields partitionKeys primaryKeys options comment => cases comment <;> rfl

theorem fields_shown (l : List DataField) :
    Decoder.list DataField.decoder (Json.arr (l.map DataField.toJson)).shown = .ok l :=
  list_shown DataField.decoder_shown l

theorem holds_slots (s : Schema) : List.Forall₂ Field.Holds wireFields s.slots :=
  .cons (holds_some (fields_shown s.fields) _) <|
  .cons (holds_some (strings_shown s.partitionKeys) _) <|
  .cons (holds_some (strings_shown s.primaryKeys) _) <|
  .cons (holds_some (options_shown s.options) _) <|
  .cons (holds_map optionalString_shown _ s.comment) .nil

theorem decoder_shown (s : Schema) : decoder s.toJson.shown = .ok s := by
  have distinct : (s.slots.map Prod.fst).Nodup :=
    show ["fields", "partitionKeys", "primaryKeys", "options", "comment"].Nodup by decide
  have fields := withDefault_some distinct "fields" (by simp [slots]) (fields_shown s.fields) []
  have partitionKeys := withDefault_some distinct "partitionKeys" (by simp [slots])
    (strings_shown s.partitionKeys) []
  have primaryKeys := withDefault_some distinct "primaryKeys" (by simp [slots])
    (strings_shown s.primaryKeys) []
  have options := withDefault_some distinct "options" (by simp [slots])
    (options_shown s.options) NameMap.empty
  have comment := withDefault_map distinct "comment" (o := s.comment) (by simp [slots])
    optionalString_shown
  rw [toJson_eq, decoder, find_present s.holds_slots distinct]
  simp only [bind, Except.bind, pure, Except.pure, fields, partitionKeys, primaryKeys, options,
    comment]

end Schema

/-! ## Audit fields -/

namespace Audit

/-- What is written of audit fields. -/
def slots (a : Audit) : Slots :=
  [("owner", a.owner.map .str), ("createdAt", a.createdAt.map fun n => .int n.toInt),
    ("createdBy", a.createdBy.map .str), ("updatedAt", a.updatedAt.map fun n => .int n.toInt),
    ("updatedBy", a.updatedBy.map .str),
    ("auditOptions", if a.extra.isEmpty then none else some (optionsJson a.extra))]

theorem members_eq (a : Audit) : a.members = present a.slots := by
  have extra : (if a.extra.isEmpty then [] else [("auditOptions", optionsJson a.extra)]) =
      present [("auditOptions", if a.extra.isEmpty then none else some (optionsJson a.extra))] := by
    cases a.extra.isEmpty <;> rfl
  simp only [members, memberIfSome_eq, extra]
  simp only [present, ← List.filterMap_append]
  rfl

theorem optionalTime_shown (n : Int64) : optionalTime (Json.int n.toInt).shown = .ok (some n) :=
  nullable_shown rfl (int64_shown n)

theorem holds_slots (a : Audit) : List.Forall₂ Field.Holds fields a.slots :=
  .cons (holds_map optionalString_shown _ a.owner) <|
  .cons (holds_map optionalTime_shown _ a.createdAt) <|
  .cons (holds_map optionalString_shown _ a.createdBy) <|
  .cons (holds_map optionalTime_shown _ a.updatedAt) <|
  .cons (holds_map optionalString_shown _ a.updatedBy) <|
  .cons (holds_unless (options_shown a.extra) _ _) .nil

theorem distinct_fields : (fields.map Field.name).Nodup :=
  show ["owner", "createdAt", "createdBy", "updatedAt", "updatedBy", "auditOptions"].Nodup by decide

theorem ofFound_entries (a : Audit) : ofFound (entries (present a.slots)) = .ok a := by
  have distinct : (a.slots.map Prod.fst).Nodup := distinct_fields
  have owner := withDefault_map distinct "owner" (o := a.owner) (by simp [slots])
    optionalString_shown
  have createdAt := withDefault_map distinct "createdAt" (o := a.createdAt) (by simp [slots])
    optionalTime_shown
  have createdBy := withDefault_map distinct "createdBy" (o := a.createdBy) (by simp [slots])
    optionalString_shown
  have updatedAt := withDefault_map distinct "updatedAt" (o := a.updatedAt) (by simp [slots])
    optionalTime_shown
  have updatedBy := withDefault_map distinct "updatedBy" (o := a.updatedBy) (by simp [slots])
    optionalString_shown
  have extra := withDefault_unless distinct "auditOptions" (by simp [slots])
    (options_shown a.extra) fun left => (NameMap.eq_empty_of_isEmpty left).symm
  simp only [ofFound, bind, Except.bind, pure, Except.pure, owner, createdAt, createdBy,
    updatedAt, updatedBy, extra]

theorem decoder_shown (a : Audit) : decoder a.toJson.shown = .ok a := by
  rw [toJson, members_eq, decoder, find_present a.holds_slots distinct_fields]
  exact ofFound_entries a

theorem ofStrangers_members (a : Audit) : ofStrangers (entries a.members) = .ok a := by
  have all : ∀ e ∈ entries (present a.slots), fields.any (·.name = e.1) = true := by
    intro e mem
    obtain ⟨m, written, rfl⟩ := List.mem_map.mp mem
    obtain ⟨field, found, -⟩ :=
      find?_of_holds a.holds_slots distinct_fields (mem_present_iff.mp written)
    have named := List.find?_some found
    exact List.any_eq_true.mpr ⟨field, List.mem_of_find?_eq_some found, named⟩
  have found := checkAll_present a.holds_slots distinct_fields .skipped
  rw [Json.Record.checkAll] at found
  rw [members_eq, ofStrangers]
  simp only [List.filter_eq_self.mpr all, found, bind, Except.bind]
  exact ofFound_entries a

/-- Audit fields that no other field is named like can stand behind other fields. -/
theorem members_strange (a : Audit) {others : List Field}
    (apart : ∀ field ∈ fields, others.find? (·.name = field.name) = none) :
    ∀ m ∈ a.members, others.find? (·.name = m.1) = none ∧
      m.2.shown.take Json.Record.roomForStrangers = none := by
  rintro ⟨name, v⟩ mem
  rw [members_eq] at mem
  have slot := mem_present_iff.mp mem
  obtain ⟨field, found, is, -⟩ := find?_of_holds a.holds_slots distinct_fields slot
  refine ⟨is ▸ apart field (List.mem_of_find?_eq_some found), ?_⟩
  have text {o : Option String} (written : some v = o.map .str) :
      v.shown.take Json.Record.roomForStrangers = none := by
    obtain ⟨s, -, rfl⟩ := Option.map_eq_some_iff.mp written.symm
    exact take_str _ s
  have time {o : Option Int64} (written : some v = o.map fun n => .int n.toInt) :
      v.shown.take Json.Record.roomForStrangers = none := by
    obtain ⟨n, -, rfl⟩ := Option.map_eq_some_iff.mp written.symm
    exact take_int64 _ n
  simp only [slots, List.mem_cons, Prod.mk.injEq, List.not_mem_nil, or_false] at slot
  rcases slot with ⟨-, owner⟩ | ⟨-, createdAt⟩ | ⟨-, createdBy⟩ | ⟨-, updatedAt⟩ |
    ⟨-, updatedBy⟩ | ⟨-, extra⟩
  · exact text owner
  · exact time createdAt
  · exact text createdBy
  · exact time updatedAt
  · exact text updatedBy
  · split at extra
    · cases extra
    · cases extra
      exact take_optionsJson (by decide) a.extra

end Audit

/-! ## Descriptions -/

namespace TableDescription

/-- What is written of a table apart from its audit fields. -/
def slots (d : TableDescription) : Slots :=
  [("id", some (.str d.id)), ("name", some (.str d.name)), ("path", some (.str d.path)),
    ("isExternal", some (.bool d.isExternal)), ("schemaId", some (.int d.schemaId.toInt)),
    ("schema", some d.schema.toJson)]

theorem toJson_eq (d : TableDescription) :
    d.toJson = .obj (present d.slots ++ d.audit.members) := rfl

theorem holds_slots (d : TableDescription) : List.Forall₂ Field.Holds fields d.slots :=
  .cons (holds_some (string_shown d.id) _) <|
  .cons (holds_some (string_shown d.name) _) <|
  .cons (holds_some (string_shown d.path) _) <|
  .cons (holds_some (bool_shown d.isExternal) _) <|
  .cons (holds_some (int64_shown d.schemaId) _) <|
  .cons (holds_some d.schema.decoder_shown _) .nil

theorem decoder_shown (d : TableDescription) : decoder d.toJson.shown = .ok d := by
  have distinct : (d.slots.map Prod.fst).Nodup :=
    show ["id", "name", "path", "isExternal", "schemaId", "schema"].Nodup by decide
  have apart : ∀ field ∈ Audit.fields, fields.find? (·.name = field.name) = none := by
    simp [Audit.fields, fields]
  have id := required_entries distinct "id" (by simp [slots]) (string_shown d.id)
  have name := required_entries distinct "name" (by simp [slots]) (string_shown d.name)
  have path := required_entries distinct "path" (by simp [slots]) (string_shown d.path)
  have isExternal := withDefault_some distinct "isExternal" (by simp [slots])
    (bool_shown d.isExternal) false
  have schemaId := withDefault_some distinct "schemaId" (by simp [slots])
    (int64_shown d.schemaId) 0
  have schema := required_entries distinct "schema" (by simp [slots]) d.schema.decoder_shown
  rw [toJson_eq, decoder,
    findWithStrangers_present d.holds_slots distinct (d.audit.members_strange apart)]
  simp only [bind, Except.bind, pure, Except.pure, id, name, path, isExternal, schemaId, schema,
    d.audit.ofStrangers_members]

end TableDescription

namespace DatabaseDescription

/-- What is written of a database apart from its audit fields. -/
def slots (d : DatabaseDescription) : Slots :=
  [("id", some (.str d.id)), ("name", some (.str d.name)), ("location", some (.str d.location)),
    ("options", some (optionsJson d.options))]

theorem toJson_eq (d : DatabaseDescription) :
    d.toJson = .obj (present d.slots ++ d.audit.members) := rfl

theorem holds_slots (d : DatabaseDescription) : List.Forall₂ Field.Holds fields d.slots :=
  .cons (holds_some (string_shown d.id) _) <|
  .cons (holds_some (string_shown d.name) _) <|
  .cons (holds_some (string_shown d.location) _) <|
  .cons (holds_some (options_shown d.options) _) .nil

theorem decoder_shown (d : DatabaseDescription) : decoder d.toJson.shown = .ok d := by
  have distinct : (d.slots.map Prod.fst).Nodup :=
    show ["id", "name", "location", "options"].Nodup by decide
  have apart : ∀ field ∈ Audit.fields, fields.find? (·.name = field.name) = none := by
    simp [Audit.fields, fields]
  have id := required_entries distinct "id" (by simp [slots]) (string_shown d.id)
  have name := required_entries distinct "name" (by simp [slots]) (string_shown d.name)
  have location := required_entries distinct "location" (by simp [slots])
    (string_shown d.location)
  have options := withDefault_some distinct "options" (by simp [slots])
    (options_shown d.options) NameMap.empty
  rw [toJson_eq, decoder,
    findWithStrangers_present d.holds_slots distinct (d.audit.members_strange apart)]
  simp only [bind, Except.bind, pure, Except.pure, id, name, location, options,
    d.audit.ofStrangers_members]

end DatabaseDescription

namespace TokenGrant

/-- What is written of a data token. -/
def slots (g : TokenGrant) : Slots :=
  [("token", some (optionsJson g.token)),
    ("expiresAtMillis", some (.int g.expiresAtMillis.toInt))]

theorem holds_slots (g : TokenGrant) : List.Forall₂ Field.Holds fields g.slots :=
  .cons (holds_some (options_shown g.token) _) <|
  .cons (holds_some (int64_shown g.expiresAtMillis) _) .nil

theorem decoder_shown (g : TokenGrant) : decoder g.toJson.shown = .ok g := by
  have distinct : (g.slots.map Prod.fst).Nodup :=
    show ["token", "expiresAtMillis"].Nodup by decide
  have written : g.toJson = .obj (present g.slots) := rfl
  have token := required_entries distinct "token" (by simp [slots]) (options_shown g.token)
  have expiresAtMillis := required_entries distinct "expiresAtMillis" (by simp [slots])
    (int64_shown g.expiresAtMillis)
  rw [written, decoder, find_present g.holds_slots distinct]
  simp only [bind, Except.bind, pure, Except.pure, token, expiresAtMillis]

end TokenGrant

/-! ## Configurations -/

namespace ServerConfig

/-- What is written of the configuration of the service. -/
def slots (c : ServerConfig) : Slots :=
  [("defaults", some (optionsJson c.defaults)), ("overrides", some (optionsJson c.overrides))]

theorem holds_slots (c : ServerConfig) : List.Forall₂ Field.Holds fields c.slots :=
  .cons (holds_some (options_shown c.defaults) _) <|
  .cons (holds_some (options_shown c.overrides) _) .nil

theorem decoder_shown (c : ServerConfig) : decoder c.toJson.shown = .ok c := by
  have distinct : (c.slots.map Prod.fst).Nodup := show ["defaults", "overrides"].Nodup by decide
  have written : c.toJson = .obj (present c.slots) := rfl
  have defaults := withDefault_some distinct "defaults" (by simp [slots])
    (options_shown c.defaults) NameMap.empty
  have overrides := withDefault_some distinct "overrides" (by simp [slots])
    (options_shown c.overrides) NameMap.empty
  rw [written, decoder, find_present c.holds_slots distinct]
  simp only [bind, Except.bind, pure, Except.pure, defaults, overrides]

end ServerConfig

namespace CatalogConfig

/-- What is written of the configuration of a catalog: nothing is left out. -/
def slots (c : CatalogConfig) : Slots :=
  [("data_token_enabled", some (.bool c.dataTokenEnabled)),
    ("uri", some (orNull (fun u => .str u.text) c.uri)),
    ("warehouse", some (orNull .str c.warehouse)),
    ("token_refresh_margin_ms", some (.int c.tokenRefreshMarginMs.toNat)),
    ("page_size_default", some (orNull (fun n => .int n.toNat) c.pageSizeDefault))]

theorem orNull_shown {α : Type} {d : Decoder α} {f : α → Json} {e : Json.ReadError}
    (strict : d .null = .error e) {o : Option α} (reads : ∀ a ∈ o, d (f a).shown = .ok a) :
    Decoder.nullable d (orNull f o).shown = .ok o := by
  cases o with
  | none => rfl
  | some a => exact nullable_shown strict (reads a rfl)

theorem warehouse_shown (w : Option String) :
    optionalString (orNull .str w).shown = .ok w :=
  orNull_shown rfl fun s _ => string_shown s

theorem pageSize_shown (n : Option UInt32) :
    optionalSize (orNull (fun n => .int n.toNat) n).shown = .ok n :=
  orNull_shown rfl fun n _ => uint32_shown n

/-- A URL is read from its text if the parser reads this text back. -/
theorem uri_shown {uri : Option Url} (stable : ∀ u ∈ uri, Url.parse u.text = .ok u) :
    optionalUrl (orNull (fun u => .str u.text) uri).shown = .ok uri := by
  refine orNull_shown rfl fun u is => ?_
  rw [Decoder.filterMap, string_shown]
  simp only [stable u is, Except.toOption]

variable {c : CatalogConfig}

theorem holds_slots (stable : ∀ u ∈ c.uri, Url.parse u.text = .ok u) :
    List.Forall₂ Field.Holds fields c.slots :=
  .cons (holds_some (bool_shown c.dataTokenEnabled) _) <|
  .cons (holds_some (uri_shown stable) _) <|
  .cons (holds_some (warehouse_shown c.warehouse) _) <|
  .cons (holds_some (uint64_shown c.tokenRefreshMarginMs) _) <|
  .cons (holds_some (pageSize_shown c.pageSizeDefault) _) .nil

theorem decoder_shown (stable : ∀ u ∈ c.uri, Url.parse u.text = .ok u) :
    decoder c.toJson.shown = .ok c := by
  have distinct : (c.slots.map Prod.fst).Nodup :=
    show ["data_token_enabled", "uri", "warehouse", "token_refresh_margin_ms",
      "page_size_default"].Nodup by decide
  have written : c.toJson = .obj (present c.slots) := rfl
  have dataTokenEnabled := required_entries distinct "data_token_enabled" (by simp [slots])
    (bool_shown c.dataTokenEnabled)
  have uri := withDefault_some distinct "uri" (by simp [slots]) (uri_shown stable) none
  have warehouse := withDefault_some distinct "warehouse" (by simp [slots])
    (warehouse_shown c.warehouse) none
  have margin := required_entries distinct "token_refresh_margin_ms" (by simp [slots])
    (uint64_shown c.tokenRefreshMarginMs)
  have pageSize := withDefault_some distinct "page_size_default" (by simp [slots])
    (pageSize_shown c.pageSizeDefault) none
  rw [written, decoder, find_present (holds_slots stable) distinct]
  simp only [bind, Except.bind, pure, Except.pure, dataTokenEnabled, uri, warehouse, margin,
    pageSize]

end CatalogConfig

/-! ## Pages and failures -/

namespace Page

variable {α : Type} {d : Decoder α} {f : α → Json}

/-- What is written of a page. -/
def slots (f : α → Json) (p : Page α) : Slots :=
  [("elements", some (.arr (p.elements.map f))), ("nextPageToken", p.next.map .str)]

theorem toJson_eq (p : Page α) : p.toJson f = .obj (present (p.slots f)) := by
  cases p with
  | mk elements next => cases next <;> rfl

theorem holds_slots (reads : ∀ a, d (f a).shown = .ok a) (p : Page α) :
    List.Forall₂ Field.Holds (fields d) (p.slots f) :=
  .cons (holds_some (list_shown reads p.elements) _) <|
  .cons (holds_map optionalString_shown _ p.next) .nil

theorem decoder_shown (reads : ∀ a, d (f a).shown = .ok a) (p : Page α) :
    decoder d (p.toJson f).shown = .ok p := by
  have distinct : ((p.slots f).map Prod.fst).Nodup :=
    show ["elements", "nextPageToken"].Nodup by decide
  have elements := required_entries distinct "elements" (by simp [slots])
    (list_shown reads p.elements)
  have next := withDefault_map distinct "nextPageToken" (o := p.next) (by simp [slots])
    optionalString_shown
  rw [toJson_eq, decoder, find_present (p.holds_slots reads) distinct]
  simp only [bind, Except.bind, pure, Except.pure, elements, next]

end Page

namespace Failure

/-- What is written of a failure. -/
def slots (f : Failure) : Slots :=
  [("message", some (.str f.message)), ("type", some (.str f.kind)),
    ("code", some (.int f.code.toNat)),
    ("stack", if f.details.isEmpty then none else some (stringsJson f.details))]

theorem toJson_eq (f : Failure) : f.toJson = .obj (present f.slots) := by
  rw [toJson, slots]
  cases f.details.isEmpty <;> rfl

theorem holds_slots (f : Failure) : List.Forall₂ Field.Holds fields f.slots :=
  .cons (holds_some (string_shown f.message) _) <|
  .cons (holds_some (string_shown f.kind) _) <|
  .cons (holds_some (uint16_shown f.code) _) <|
  .cons (holds_unless (strings_shown f.details) _ _) .nil

/-- Neither the causes of a failure nor its identity are transmitted. -/
theorem decoder_shown (f : Failure) :
    decoder f.toJson.shown = .ok { f with id := none, origin := .unknown } := by
  have distinct : (f.slots.map Prod.fst).Nodup :=
    show ["message", "type", "code", "stack"].Nodup by decide
  have message := required_entries distinct "message" (by simp [slots]) (string_shown f.message)
  have kind := required_entries distinct "type" (by simp [slots]) (string_shown f.kind)
  have code := required_entries distinct "code" (by simp [slots]) (uint16_shown f.code)
  have details := withDefault_unless distinct "stack" (by simp [slots])
    (strings_shown f.details) fun left => (List.isEmpty_iff.mp left).symm
  rw [toJson_eq, decoder, find_present f.holds_slots distinct]
  simp only [bind, Except.bind, pure, Except.pure, message, kind, code, details]

end Failure

namespace Wire

/-- **Every message is read as it was written.** Of a failure everything arrives but its causes and
its identity. That the text of a URL is read as the URL is asked of the one in the configuration. -/
theorem round_trip (column : DataField) (schema : Schema) (audit : Audit)
    (table : TableDescription) (database : DatabaseDescription) (grant : TokenGrant)
    (names : Page String) (numbers : Page Int64) (server : ServerConfig) (config : CatalogConfig)
    (stable : ∀ u ∈ config.uri, Url.parse u.text = .ok u) (failure : Failure)
    (identifier : Identifier) :
    Json.read DataField.decoder column.toJson.text = .ok column ∧
    Json.read Schema.decoder schema.toJson.text = .ok schema ∧
    Json.read Audit.decoder audit.toJson.text = .ok audit ∧
    Json.read TableDescription.decoder table.toJson.text = .ok table ∧
    Json.read DatabaseDescription.decoder database.toJson.text = .ok database ∧
    Json.read TokenGrant.decoder grant.toJson.text = .ok grant ∧
    Json.read (Page.decoder Decoder.string) (names.toJson .str).text = .ok names ∧
    Json.read (Page.decoder int64) (numbers.toJson fun n => .int n.toInt).text = .ok numbers ∧
    Json.read ServerConfig.decoder server.toJson.text = .ok server ∧
    Json.read CatalogConfig.decoder config.toJson.text = .ok config ∧
    Json.read Failure.decoder failure.toJson.text =
      .ok { failure with id := none, origin := .unknown } ∧
    Json.read Identifier.decoder identifier.toJson.text = .ok identifier := by
  simp only [Json.read_text]
  exact ⟨column.decoder_shown, schema.decoder_shown, audit.decoder_shown, table.decoder_shown,
    database.decoder_shown, grant.decoder_shown, names.decoder_shown string_shown,
    numbers.decoder_shown int64_shown, server.decoder_shown, CatalogConfig.decoder_shown stable,
    failure.decoder_shown, identifier.decoder_shown⟩

namespace Sample

def uri : Url :=
  { scheme := "https", host := some (.name "meta.example.org"), port := some 8443,
    path := .segments ["v1"] }

theorem uri_stable : ∀ u ∈ some uri, Url.parse u.text = .ok u := by
  have same : Url.parse uri.text = .ok uri := by decide +kernel
  intro u is
  cases is
  exact same

def config : CatalogConfig :=
  { dataTokenEnabled := true, uri, warehouse := some "a \"quoted\" name",
    tokenRefreshMarginMs := 18446744073709551615, pageSizeDefault := none }

def column : DataField :=
  { id := -2147483648, name := "line\nbreak 𝄞", dataType := "STRING", description := none }

end Sample

/-- The least integer, the greatest one, a quotation mark, a line break and a URL. -/
theorem round_trip_sample :
    (∀ u ∈ Sample.config.uri, Url.parse u.text = .ok u) ∧
    Json.read DataField.decoder Sample.column.toJson.text = .ok Sample.column ∧
    Json.read CatalogConfig.decoder Sample.config.toJson.text = .ok Sample.config := by
  have all := round_trip Sample.column {} {} ⟨"1", "t", "/t", false, 0, {}, {}⟩
    ⟨"1", "d", "/d", NameMap.empty, {}⟩ ⟨NameMap.empty, 0⟩ {} {} {} Sample.config Sample.uri_stable
    .blank ⟨"d", "t", none, by decide, by decide, by simp⟩
  obtain ⟨column, -, -, -, -, -, -, -, -, config, -⟩ := all
  exact ⟨Sample.uri_stable, column, config⟩

end Wire

end TableCatalog
