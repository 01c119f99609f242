import ShipManifest.Json.Fault
import ShipManifest.Store

/-!
# Service errors

Everything that can go wrong outside the queries, by cause. Each cause belongs to one of four codes and has its words.
-/

namespace ShipManifest

/-- Why an output refuses bytes. -/
inductive SinkFailure where
  | full
  | flush
  | other (words : String)
  deriving DecidableEq

/-- The words for a refusal. -/
def SinkFailure.message : SinkFailure → String
  | full => "sink full"
  | flush => "flush failed"
  | other words => words

/-- What went wrong. -/
inductive ServiceError where
  | configUnreadable (reason : ReadFailure)
  | configNotText
  | configInvalid (fault : Json.Fault)
  | configPathBlank
  | loadFailed (reason : LoadError)
  | invalidJson (fault : Json.Fault)
  | invalidRequest (mismatch : Json.Mismatch)
  | inputNotText
  | inputEmpty
  | textUnwritten (reason : SinkFailure)
  | lineUnwritten (reason : SinkFailure)
  deriving DecidableEq

namespace ServiceError

/-- The code of the error. -/
def code : ServiceError → String
  | configUnreadable _ | configNotText | configInvalid _ | configPathBlank => "MDB_CLI_CONFIG_ERROR"
  | loadFailed _ => "MDB_CLI_LOAD_FAILED"
  | invalidJson _ | invalidRequest _ | textUnwritten _ => "MDB_CLI_BAD_REQUEST"
  | inputNotText | inputEmpty | lineUnwritten _ => "MDB_CLI_IO_ERROR"

/-- What is said of bytes that are not UTF-8. -/
def notTextMessage : String := "stream did not contain valid UTF-8"

/-- The words for the error. -/
def message : ServiceError → String
  | configUnreadable reason => "Failed to read config: " ++ reason.message
  | configNotText => "Failed to read config: " ++ notTextMessage
  | configInvalid fault => "Invalid config JSON: " ++ fault.message
  | configPathBlank => "manifest_path must not be empty"
  | loadFailed reason => reason.code ++ ": " ++ reason.message
  | invalidJson fault => "JSON error: " ++ fault.message
  | invalidRequest mismatch => "Invalid request: " ++ mismatch.message
  | inputNotText => notTextMessage
  | inputEmpty => "Empty input"
  | textUnwritten reason => "JSON error: " ++ reason.message
  | lineUnwritten reason => reason.message

/-- Code and words on one line. -/
def display (e : ServiceError) : String :=
  e.code ++ ": " ++ e.message

end ServiceError

end ShipManifest
