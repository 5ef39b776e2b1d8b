import TableCatalog.Failure
import TableCatalog.Identifier

/-!
# Failures of catalog operations

A catalog operation fails for a cause of its own, or because the metadata service reported a
failure that the catalog does not interpret. A cause collects details on its way; when it becomes
the failure of an operation, one detail says so. What the metadata service reported is passed on as
it is.

Either way the outcome can be given as a `Failure`: a cause determines message, kind, status code
and origin, and the details come only from those who added them.
-/

namespace TableCatalog

/-- What a catalog operation can fail for by itself. -/
inductive Cause where
  | databaseNotFound (database : String)
  | tableNotFound (identifier : Identifier)
  | databaseAlreadyExists (database : String)
  | malformedIdentifier (refused : MalformedIdentifier)
  | unsupportedOperation (operation : String)
  /-- No data token could be had for a table. -/
  | credential (identifier : Identifier) (source : Failure)
  | invalidLocation (value reason : String)
  | invalidConfig (message : String)
  deriving DecidableEq

namespace Cause

def message : Cause → String
  | .databaseNotFound database => "Database `" ++ database ++ "` does not exist"
  | .tableNotFound identifier => "Table `" ++ identifier.text ++ "` does not exist"
  | .databaseAlreadyExists database => "Database `" ++ database ++ "` already exists"
  | .malformedIdentifier refused => refused.message
  | .unsupportedOperation operation =>
    "Operation `" ++ operation ++ "` is not supported by this catalog client"
  | .credential identifier _ =>
    "Failed to obtain data token for table `" ++ identifier.text ++ "`"
  | .invalidLocation value reason => "Invalid storage location `" ++ value ++ "`: " ++ reason
  | .invalidConfig message => "Invalid catalog configuration: " ++ message

def kind : Cause → String
  | .databaseNotFound _ => "DatabaseNotFound"
  | .tableNotFound _ => "TableNotFound"
  | .databaseAlreadyExists _ => "DatabaseAlreadyExists"
  | .malformedIdentifier _ => "MalformedIdentifier"
  | .unsupportedOperation _ => "UnsupportedOperation"
  | .credential _ _ => "CredentialError"
  | .invalidLocation _ _ => "InvalidLocation"
  | .invalidConfig _ => "InvalidConfig"

def code : Cause → UInt16
  | .databaseNotFound _ | .tableNotFound _ => 404
  | .databaseAlreadyExists _ => 409
  | .malformedIdentifier _ | .invalidConfig _ => 400
  | .unsupportedOperation _ => 501
  | .credential _ _ => 412
  | .invalidLocation _ _ => 502

def origin : Cause → Origin
  | .credential _ source => source.toOrigin
  | _ => .unknown

def isNotFound : Cause → Bool
  | .databaseNotFound _ | .tableNotFound _ => true
  | _ => false

end Cause

/-- A cause with the details that were added to it. -/
structure Fault where
  cause : Cause
  details : List String := []
  deriving DecidableEq

namespace Fault

def withDetails (f : Fault) (details : List String) : Fault :=
  { f with details := f.details ++ details }

def toFailure (f : Fault) : Failure :=
  { message := f.cause.message, kind := f.cause.kind, code := f.cause.code,
    details := f.details, origin := f.cause.origin }

end Fault

inductive CatalogError where
  /-- The operation failed for a cause of its own. -/
  | own (fault : Fault)
  /-- The metadata service reported a failure, which is passed on as it is. -/
  | remote (failure : Failure)
  deriving DecidableEq

namespace CatalogError

def operationDetail : String := "Error in catalog operation"

def ofFault (f : Fault) : CatalogError := .own (f.withDetails [operationDetail])

def ofCause (c : Cause) : CatalogError := ofFault { cause := c }

def withDetails : CatalogError → List String → CatalogError
  | .own fault, details => .own (fault.withDetails details)
  | .remote failure, details => .remote (failure.withDetails details)

def message : CatalogError → String
  | .own fault => fault.cause.message
  | .remote failure => failure.text

/-- A database or a table that was addressed is not there. What the metadata service reported is
not interpreted. -/
def isNotFound : CatalogError → Bool
  | .own fault => fault.cause.isNotFound
  | .remote _ => false

def hasOrigin : CatalogError → Bool
  | .own fault => fault.cause.origin.isKnown
  | .remote failure => failure.origin.isKnown

def toFailure : CatalogError → Failure
  | .own fault => fault.toFailure
  | .remote failure => failure

end CatalogError

namespace Failure

def tokenExpiredOnArrival : Failure :=
  ofStatus "Data token returned by the metadata service is already expired"
    "TokenExpiredOnArrival" 502 .unknown

end Failure

end TableCatalog
