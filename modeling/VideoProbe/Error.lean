import VideoProbe.Json.Cause
import VideoProbe.Uuid

/-!
# What can go wrong

The errors of the service.  An error of the database keeps the statement's own failure, because
one of them is looked at again: a unique constraint that is violated during admission means that
the UUID was admitted before.
-/

namespace VideoProbe

/-- An error that the database server reports. -/
structure ServerFault where
  code : String
  message : String
  constraint : Option String := none
  deriving DecidableEq, Repr

/-- The code of a unique constraint that is violated. -/
def uniqueViolationCode : String := "23505"

/-- How an operation on the database fails. -/
inductive DatabaseError where
  /-- The server answers with an error. -/
  | server (fault : ServerFault)
  /-- The connection breaks, or cannot be made. -/
  | io (reason : String)
  | tls (reason : String)
  | configuration (reason : String)
  /-- An option of the connection has a value that it cannot have. -/
  | badOption (cause : DatabaseError)
  | protocol (reason : String)
  | decode (reason : String)
  | encode (reason : String)
  | driver (reason : String)
  | columnNotFound (name : String)
  | typeNotFound (name : String)
  | rowNotFound
  | poolTimedOut
  | poolClosed
  | workerCrashed
  | beginFailed
  /-- A migration's script fails. -/
  | migrationScript (version : Nat) (cause : DatabaseError)
  /-- Migrating fails outside the scripts. -/
  | migration (cause : DatabaseError)
  deriving DecidableEq, Repr

namespace DatabaseError

/-- A database error in words. -/
def message : DatabaseError → String
  | server fault => "error returned from database: " ++ fault.message
  | io reason => "error communicating with database: " ++ reason
  | tls reason => "error occurred while attempting to establish a TLS connection: " ++ reason
  | configuration reason => "error with configuration: " ++ reason
  | badOption cause => "error with configuration: " ++ cause.message
  | protocol reason => "encountered unexpected or invalid data: " ++ reason
  | decode reason => "error occurred while decoding: " ++ reason
  | encode reason => "error occurred while encoding a value: " ++ reason
  | driver reason => "error in Any driver mapping: " ++ reason
  | columnNotFound name => "no column found for name: " ++ name
  | typeNotFound name => "type named " ++ name ++ " not found"
  | rowNotFound => "no rows returned by a query that expected to return at least one row"
  | poolTimedOut => "pool timed out while waiting for an open connection"
  | poolClosed => "attempted to acquire a connection on a closed pool"
  | workerCrashed => "attempted to communicate with a crashed background worker"
  | beginFailed => "got unexpected connection status after attempting to begin transaction"
  | migrationScript version cause =>
    "while executing migration " ++ Decimal.ofNat version ++ ": " ++ cause.message
  | migration cause => "while executing migrations: " ++ cause.message

/-- A unique constraint is violated. -/
def isUniqueViolation : DatabaseError → Bool
  | server fault => fault.code == uniqueViolationCode
  | _ => false

/-- What caused an error, the nearest cause first. -/
def causes : DatabaseError → List String
  | server fault => [fault.message]
  | io reason | tls reason | configuration reason | decode reason | encode reason | driver reason =>
    [reason]
  | badOption cause => cause.message :: cause.causes
  | e@(migrationScript _ cause) | e@(migration cause) =>
    e.message :: cause.message :: cause.causes
  | _ => []

end DatabaseError

/-- An error of the service. -/
inductive ServiceError where
  | database (cause : DatabaseError)
  | infoNotFound (uuid : Uuid)
  | duplicateUuid (uuid : Uuid)
  | job (reason : String)
  | serialization (reason : String)
  | config (reason : String)
  | request (reason : String)
  | internal (reason : String)
  deriving DecidableEq

namespace ServiceError

/-- An error in words. -/
def message : ServiceError → String
  | database cause => "Database error: " ++ cause.message
  | infoNotFound uuid => "Info job with UUID " ++ uuid.text ++ " not found"
  | duplicateUuid uuid => "An info job with UUID " ++ uuid.text ++ " already exists"
  | job reason => "Job error: " ++ reason
  | serialization reason => "Serialization error: " ++ reason
  | config reason => "Configuration error: " ++ reason
  | request reason => "Request error: " ++ reason
  | internal reason => "Internal error: " ++ reason

/-- What caused an error, the nearest cause first. -/
def causes : ServiceError → List String
  | database cause => cause.message :: cause.causes
  | _ => []

/-- The error of a document that cannot be read. -/
def ofRefusal (r : Json.Refusal) : ServiceError :=
  serialization r.message

/-- A unique constraint is violated. -/
def isUniqueViolation : ServiceError → Bool
  | database cause => cause.isUniqueViolation
  | _ => false

/-- A unique constraint that is violated counts as a UUID that was admitted before. -/
def orDuplicate (e : ServiceError) (uuid : Uuid) : ServiceError :=
  if e.isUniqueViolation then duplicateUuid uuid else e

end ServiceError

end VideoProbe
