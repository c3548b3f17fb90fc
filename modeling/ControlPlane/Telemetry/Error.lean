import ControlPlane.ErrorCode
import ControlPlane.Stream.Error

/-!
# Ingestion errors

Why a batch of task output was not taken in, or a telemetry stream ended.
-/

set_option autoImplicit false

namespace ControlPlane

inductive IngestError where
  | decode (e : CodecError)
  | emptyTaskId
  | invalidCode (code : Int32)
  | stats (reason : String)
  | transport (e : StreamError)
deriving DecidableEq

namespace IngestError

def message : IngestError → String
  | .decode e => "Malformed task data: " ++ e.message
  | .emptyTaskId => "Task data carries no task id"
  | .invalidCode code => "Invalid stream message code: " ++ toString code.toInt
  | .stats reason => "Stats store error: " ++ reason
  | .transport e => "Stream receive failed: " ++ e.message

def code : IngestError → ErrorCode
  | .invalidCode _ => .invalidCode
  | .decode _ | .emptyTaskId | .stats _ | .transport _ => .internalError

instance : Coded IngestError := ⟨code, message⟩

/-- The name under which a rejected message is counted. -/
def reason : IngestError → String
  | .decode _ => "decode"
  | .emptyTaskId => "empty_task_id"
  | .invalidCode _ => "invalid_code"
  | .stats _ => "stats"
  | .transport _ => "transport"

end IngestError
end ControlPlane
