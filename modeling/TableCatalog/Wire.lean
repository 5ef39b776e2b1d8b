import TableCatalog.Config.Basic
import TableCatalog.Description
import TableCatalog.Failure
import TableCatalog.Identifier
import TableCatalog.Json.Decoder
import TableCatalog.Options
import TableCatalog.Url.Parser

/-!
# Messages of the metadata service

For every message its JSON value and the decoder that reads it back. The fields of a message stand
in a fixed order; a field that holds nothing is left out where its decoder supplies it again.

The audit fields of a database and of a table stand among the members of the description itself.
They are decoded from the members that are no fields of the description, so that such a description
is always an object.
-/

namespace TableCatalog

open Json (Decoder Field Reading ReadError)
open Json.Record (required withDefault)

/-! ## Parts of a message

Integers of a fixed width, lists, maps and fields that are left out when they hold nothing.
-/

namespace Wire

def int32 : Decoder Int32 :=
  (Decoder.integer Int32.minValue.toInt Int32.maxValue.toInt).map Int32.ofInt

def int64 : Decoder Int64 :=
  (Decoder.integer Int64.minValue.toInt Int64.maxValue.toInt).map Int64.ofInt

def uint16 : Decoder UInt16 := (Decoder.natural UInt16.size).map UInt16.ofNat

def uint32 : Decoder UInt32 := (Decoder.natural UInt32.size).map UInt32.ofNat

def uint64 : Decoder UInt64 := (Decoder.natural UInt64.size).map UInt64.ofNat

def options : Decoder Options := Decoder.nameMap Decoder.string

def strings : Decoder (List String) := Decoder.list Decoder.string

def optionalString : Decoder (Option String) := Decoder.nullable Decoder.string

def memberIfSome {α : Type} (name : String) (f : α → Json) : Option α → List (String × Json)
  | none => []
  | some a => [(name, f a)]

def optionsJson (o : Options) : Json := .obj (o.toList.map fun (k, v) => (k, .str v))

def stringsJson (l : List String) : Json := .arr (l.map .str)

end Wire

/-! ## Messages -/

/-! ### Identifiers -/

namespace Identifier

def toJson (i : Identifier) : Json := .str i.text

def decoder : Decoder Identifier :=
  Decoder.string.filterMap fun s => (parse s).toOption

end Identifier

/-! ### Schemas -/

namespace DataField

def fields : List Field :=
  [⟨"id", Wire.int32.check, false⟩, ⟨"name", Decoder.string.check, false⟩,
    ⟨"type", Decoder.string.check, false⟩, ⟨"description", Wire.optionalString.check, true⟩]

def toJson (f : DataField) : Json :=
  .obj ([("id", .int f.id.toInt), ("name", .str f.name), ("type", .str f.dataType)] ++
    Wire.memberIfSome "description" .str f.description)

def decoder : Decoder DataField := fun r => do
  let found ← Json.Record.find fields r
  let id ← required found "id" Wire.int32
  let name ← required found "name" Decoder.string
  let dataType ← required found "type" Decoder.string
  let description ← withDefault found "description" Wire.optionalString none
  return { id, name, dataType, description }

end DataField

namespace Schema

def wireFields : List Field :=
  [⟨"fields", (Decoder.list DataField.decoder).check, true⟩,
    ⟨"partitionKeys", Wire.strings.check, true⟩, ⟨"primaryKeys", Wire.strings.check, true⟩,
    ⟨"options", Wire.options.check, true⟩, ⟨"comment", Wire.optionalString.check, true⟩]

def toJson (s : Schema) : Json :=
  .obj ([("fields", .arr (s.fields.map DataField.toJson)),
    ("partitionKeys", Wire.stringsJson s.partitionKeys),
    ("primaryKeys", Wire.stringsJson s.primaryKeys),
    ("options", Wire.optionsJson s.options)] ++
    Wire.memberIfSome "comment" .str s.comment)

def decoder : Decoder Schema := fun r => do
  let found ← Json.Record.find wireFields r
  let fields ← withDefault found "fields" (Decoder.list DataField.decoder) []
  let partitionKeys ← withDefault found "partitionKeys" Wire.strings []
  let primaryKeys ← withDefault found "primaryKeys" Wire.strings []
  let options ← withDefault found "options" Wire.options NameMap.empty
  let comment ← withDefault found "comment" Wire.optionalString none
  return { fields, partitionKeys, primaryKeys, options, comment }

end Schema

/-! ### Audit fields -/

namespace Audit

def optionalTime : Decoder (Option Int64) := Decoder.nullable Wire.int64

def fields : List Field :=
  [⟨"owner", Wire.optionalString.check, true⟩, ⟨"createdAt", optionalTime.check, true⟩,
    ⟨"createdBy", Wire.optionalString.check, true⟩, ⟨"updatedAt", optionalTime.check, true⟩,
    ⟨"updatedBy", Wire.optionalString.check, true⟩, ⟨"auditOptions", Wire.options.check, true⟩]

def members (a : Audit) : List (String × Json) :=
  Wire.memberIfSome "owner" .str a.owner ++
    Wire.memberIfSome "createdAt" (fun n => .int n.toInt) a.createdAt ++
    Wire.memberIfSome "createdBy" .str a.createdBy ++
    Wire.memberIfSome "updatedAt" (fun n => .int n.toInt) a.updatedAt ++
    Wire.memberIfSome "updatedBy" .str a.updatedBy ++
    if a.extra.isEmpty then [] else [("auditOptions", Wire.optionsJson a.extra)]

def toJson (a : Audit) : Json := .obj a.members

def ofFound (found : List (String × Reading)) : Except ReadError Audit := do
  let owner ← withDefault found "owner" Wire.optionalString none
  let createdAt ← withDefault found "createdAt" optionalTime none
  let createdBy ← withDefault found "createdBy" Wire.optionalString none
  let updatedAt ← withDefault found "updatedAt" optionalTime none
  let updatedBy ← withDefault found "updatedBy" Wire.optionalString none
  let extra ← withDefault found "auditOptions" Wire.options NameMap.empty
  return { owner, createdAt, createdBy, updatedAt, updatedBy, extra }

def decoder : Decoder Audit := fun r => do
  ofFound (← Json.Record.find fields r)

/-- Reads audit fields from the members that another record left over. -/
def ofStrangers (strangers : List (String × Reading)) : Except ReadError Audit := do
  let mine := strangers.filter fun m => fields.any (·.name = m.1)
  let found ← mine.foldlM (fun found (k, r) =>
    Json.Record.member fields .skipped found k r) ⟨[], []⟩
  ofFound found.fields

end Audit

/-! ### Descriptions -/

namespace TableDescription

def fields : List Field :=
  [⟨"id", Decoder.string.check, false⟩, ⟨"name", Decoder.string.check, false⟩,
    ⟨"path", Decoder.string.check, false⟩, ⟨"isExternal", Decoder.bool.check, true⟩,
    ⟨"schemaId", Wire.int64.check, true⟩, ⟨"schema", Schema.decoder.check, false⟩]

def toJson (d : TableDescription) : Json :=
  .obj ([("id", .str d.id), ("name", .str d.name), ("path", .str d.path),
    ("isExternal", .bool d.isExternal), ("schemaId", .int d.schemaId.toInt),
    ("schema", d.schema.toJson)] ++ d.audit.members)

def decoder : Decoder TableDescription := fun r => do
  let found ← Json.Record.findWithStrangers fields r
  let id ← required found.fields "id" Decoder.string
  let name ← required found.fields "name" Decoder.string
  let path ← required found.fields "path" Decoder.string
  let isExternal ← withDefault found.fields "isExternal" Decoder.bool false
  let schemaId ← withDefault found.fields "schemaId" Wire.int64 0
  let schema ← required found.fields "schema" Schema.decoder
  let audit ← Audit.ofStrangers found.strangers
  return { id, name, path, isExternal, schemaId, schema, audit }

end TableDescription

namespace DatabaseDescription

def fields : List Field :=
  [⟨"id", Decoder.string.check, false⟩, ⟨"name", Decoder.string.check, false⟩,
    ⟨"location", Decoder.string.check, false⟩, ⟨"options", Wire.options.check, true⟩]

def toJson (d : DatabaseDescription) : Json :=
  .obj ([("id", .str d.id), ("name", .str d.name), ("location", .str d.location),
    ("options", Wire.optionsJson d.options)] ++ d.audit.members)

def decoder : Decoder DatabaseDescription := fun r => do
  let found ← Json.Record.findWithStrangers fields r
  let id ← required found.fields "id" Decoder.string
  let name ← required found.fields "name" Decoder.string
  let location ← required found.fields "location" Decoder.string
  let options ← withDefault found.fields "options" Wire.options NameMap.empty
  let audit ← Audit.ofStrangers found.strangers
  return { id, name, location, options, audit }

end DatabaseDescription

namespace TokenGrant

def fields : List Field :=
  [⟨"token", Wire.options.check, false⟩, ⟨"expiresAtMillis", Wire.int64.check, false⟩]

def toJson (g : TokenGrant) : Json :=
  .obj [("token", Wire.optionsJson g.token), ("expiresAtMillis", .int g.expiresAtMillis.toInt)]

def decoder : Decoder TokenGrant := fun r => do
  let found ← Json.Record.find fields r
  let token ← required found "token" Wire.options
  let expiresAtMillis ← required found "expiresAtMillis" Wire.int64
  return { token, expiresAtMillis }

end TokenGrant

namespace ServerConfig

def fields : List Field :=
  [⟨"defaults", Wire.options.check, true⟩, ⟨"overrides", Wire.options.check, true⟩]

def toJson (c : ServerConfig) : Json :=
  .obj [("defaults", Wire.optionsJson c.defaults), ("overrides", Wire.optionsJson c.overrides)]

def decoder : Decoder ServerConfig := fun r => do
  let found ← Json.Record.find fields r
  let defaults ← withDefault found "defaults" Wire.options NameMap.empty
  let overrides ← withDefault found "overrides" Wire.options NameMap.empty
  return { defaults, overrides }

end ServerConfig

/-! ### Pages and failures -/

namespace Page

variable {α : Type}

def fields (d : Decoder α) : List Field :=
  [⟨"elements", (Decoder.list d).check, false⟩, ⟨"nextPageToken", Wire.optionalString.check, true⟩]

def toJson (f : α → Json) (p : Page α) : Json :=
  .obj (("elements", .arr (p.elements.map f)) :: Wire.memberIfSome "nextPageToken" .str p.next)

def decoder (d : Decoder α) : Decoder (Page α) := fun r => do
  let found ← Json.Record.find (fields d) r
  let elements ← required found "elements" (Decoder.list d)
  let next ← withDefault found "nextPageToken" Wire.optionalString none
  return { elements, next }

end Page

namespace Failure

/-- The fields of a failure. Its causes are not transmitted. -/
def fields : List Field :=
  [⟨"message", Decoder.string.check, false⟩, ⟨"type", Decoder.string.check, false⟩,
    ⟨"code", Wire.uint16.check, false⟩, ⟨"stack", Wire.strings.check, true⟩]

def toJson (f : Failure) : Json :=
  .obj ([("message", .str f.message), ("type", .str f.kind), ("code", .int f.code.toNat)] ++
    if f.details.isEmpty then [] else [("stack", Wire.stringsJson f.details)])

def decoder : Decoder Failure := fun r => do
  let found ← Json.Record.find fields r
  let message ← required found "message" Decoder.string
  let kind ← required found "type" Decoder.string
  let code ← required found "code" Wire.uint16
  let details ← withDefault found "stack" Wire.strings []
  return { message, kind, code, details }

end Failure

/-! ## The configuration of a catalog

A URL is written as its text. A field that holds nothing is written as `null`, and may be missing
from an object.
-/

namespace CatalogConfig

def optionalUrl : Decoder (Option Url) :=
  Decoder.nullable (Decoder.string.filterMap fun s => (Url.parse s).toOption)

def optionalSize : Decoder (Option UInt32) := Decoder.nullable Wire.uint32

def fields : List Json.Field :=
  [⟨"data_token_enabled", Decoder.bool.check, false⟩, ⟨"uri", optionalUrl.check, false⟩,
    ⟨"warehouse", Wire.optionalString.check, false⟩,
    ⟨"token_refresh_margin_ms", Wire.uint64.check, false⟩,
    ⟨"page_size_default", optionalSize.check, false⟩]

def orNull {α : Type} (f : α → Json) : Option α → Json
  | some a => f a
  | none => .null

def toJson (c : CatalogConfig) : Json :=
  .obj [("data_token_enabled", .bool c.dataTokenEnabled),
    ("uri", orNull (fun u => .str u.text) c.uri), ("warehouse", orNull .str c.warehouse),
    ("token_refresh_margin_ms", .int c.tokenRefreshMarginMs.toNat),
    ("page_size_default", orNull (fun n => .int n.toNat) c.pageSizeDefault)]

def decoder : Decoder CatalogConfig := fun r => do
  let found ← Json.Record.find fields r
  let dataTokenEnabled ← required found "data_token_enabled" Decoder.bool
  let uri ← withDefault found "uri" optionalUrl none
  let warehouse ← withDefault found "warehouse" Wire.optionalString none
  let tokenRefreshMarginMs ← required found "token_refresh_margin_ms" Wire.uint64
  let pageSizeDefault ← withDefault found "page_size_default" optionalSize none
  return { dataTokenEnabled, uri, warehouse, tokenRefreshMarginMs, pageSizeDefault }

end CatalogConfig

end TableCatalog
