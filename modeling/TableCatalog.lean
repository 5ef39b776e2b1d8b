import TableCatalog.Catalog
import TableCatalog.CatalogError
import TableCatalog.Config.Basic
import TableCatalog.Config.Environment
import TableCatalog.Config.Extraction
import TableCatalog.Credential.Accessor
import TableCatalog.Credential.Polling
import TableCatalog.Decimal
import TableCatalog.Description
import TableCatalog.Diagnostic
import TableCatalog.Failure
import TableCatalog.Identifier
import TableCatalog.Json.Decoder
import TableCatalog.Json.Parser
import TableCatalog.Json.Value
import TableCatalog.Location
import TableCatalog.NameMap
import TableCatalog.Options
import TableCatalog.Proofs.Catalog.Alike
import TableCatalog.Proofs.Catalog.Describing
import TableCatalog.Proofs.Catalog.Failing
import TableCatalog.Proofs.Catalog.History
import TableCatalog.Proofs.Catalog.Journal
import TableCatalog.Proofs.Catalog.Operation
import TableCatalog.Proofs.Catalog.Paging
import TableCatalog.Proofs.Catalog.Relocation
import TableCatalog.Proofs.Catalog.Secrecy
import TableCatalog.Proofs.Catalog.Session
import TableCatalog.Proofs.Catalog.Untouched
import TableCatalog.Proofs.Catalog.Warehouse
import TableCatalog.Proofs.Config.Layers
import TableCatalog.Proofs.Config.Precedence
import TableCatalog.Proofs.Config.Reading
import TableCatalog.Proofs.Config.RoundTrip
import TableCatalog.Proofs.Config.Switch
import TableCatalog.Proofs.Credential.Arrival
import TableCatalog.Proofs.Credential.Chronicle
import TableCatalog.Proofs.Credential.Condition
import TableCatalog.Proofs.Credential.Expiry
import TableCatalog.Proofs.Credential.Provenance
import TableCatalog.Proofs.Credential.Retrying
import TableCatalog.Proofs.Credential.Sharing
import TableCatalog.Proofs.Credential.SingleFlight
import TableCatalog.Proofs.Credential.Turn
import TableCatalog.Proofs.Credential.Withheld
import TableCatalog.Proofs.Failure.Details
import TableCatalog.Proofs.Failure.Repetition
import TableCatalog.Proofs.Identifier.Grammar
import TableCatalog.Proofs.Json.Consistency
import TableCatalog.Proofs.Json.Members
import TableCatalog.Proofs.Json.Record
import TableCatalog.Proofs.Json.Shown
import TableCatalog.Proofs.Json.Skipping
import TableCatalog.Proofs.Options.Audit
import TableCatalog.Proofs.Options.Changes
import TableCatalog.Proofs.Store.Action
import TableCatalog.Proofs.Store.History
import TableCatalog.Proofs.Store.Lookup
import TableCatalog.Proofs.Store.Paging
import TableCatalog.Proofs.Store.Pattern
import TableCatalog.Proofs.Store.Separation
import TableCatalog.Proofs.Table
import TableCatalog.Proofs.Text.Blank
import TableCatalog.Proofs.Url.Authority
import TableCatalog.Proofs.Url.Below
import TableCatalog.Proofs.Url.Location
import TableCatalog.Proofs.Wire.Flattened
import TableCatalog.Proofs.Wire.Parts
import TableCatalog.Proofs.Wire.RoundTrip
import TableCatalog.Service
import TableCatalog.Store
import TableCatalog.Table
import TableCatalog.Text.Alphanumeric
import TableCatalog.Text.Basic
import TableCatalog.Text.Composition
import TableCatalog.Text.Direction
import TableCatalog.Text.Quoted
import TableCatalog.Time
import TableCatalog.Url.Domain.Folding
import TableCatalog.Url.Domain.Unlisted
import TableCatalog.Url.Host
import TableCatalog.Url.Parser
import TableCatalog.Wire
