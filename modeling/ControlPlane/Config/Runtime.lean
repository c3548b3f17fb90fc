import ControlPlane.Config.Address
import ControlPlane.Config.Environment
import ControlPlane.Json.Format

/-!
# Runtime configuration

What the master has to know when it starts: where it listens, its own key, and the limits and
intervals of its services. Each setting has a default and may be set by a variable of the
environment; numbers and addresses are read without the blanks around them.
-/

set_option autoImplicit false

namespace ControlPlane

/-! ## Settings of the services -/

structure MonitorConfig where
  heartbeatTimeoutSecs : Nat := 60
  monitorIntervalSecs : Nat := 15
deriving DecidableEq, Repr

structure RoutingConfig where
  streamBuffer : Nat := 256
deriving DecidableEq, Repr

structure IngestConfig where
  recordIdField : String := "_tid"
deriving DecidableEq, Repr

/-- How much task output is kept: lines and rows for each task, and tasks. -/
structure Retention where
  perTask : Nat := 1000
  tasks : Nat := 256
deriving DecidableEq, Repr

section Layouts

open Json.Format

def MonitorConfig.layout : Layout MonitorConfig where
  blank := {}
  isStrict := true
  fields := [
    field "heartbeat_timeout_secs" (natural 64) (·.heartbeatTimeoutSecs)
      fun a c => { c with heartbeatTimeoutSecs := a },
    field "monitor_interval_secs" (natural 64) (·.monitorIntervalSecs)
      fun a c => { c with monitorIntervalSecs := a }]

def RoutingConfig.layout : Layout RoutingConfig where
  blank := {}
  isStrict := true
  fields := [
    field "stream_buffer" (natural 64) (·.streamBuffer) fun a c => { c with streamBuffer := a }]

def IngestConfig.layout : Layout IngestConfig where
  blank := {}
  isStrict := true
  fields := [
    field "record_id_field" string (·.recordIdField) fun a c => { c with recordIdField := a }]

end Layouts

/-! ## The configuration -/

structure RuntimeConfig where
  bindAddress : SocketAddress := .v4 [0, 0, 0, 0] 9666
  masterKey : String := "master"
  monitor : MonitorConfig := {}
  routing : RoutingConfig := {}
  ingest : IngestConfig := {}
  maxFrameBytes : Nat := 4 * 1024 * 1024
  retention : Retention := {}
deriving DecidableEq, Repr

inductive ConfigError where
  | invalidValue (name value : String)
  | zeroBuffer
  | zeroMonitorInterval
  | timeoutBelowInterval (timeout interval : Nat)
  | emptyMasterKey
deriving DecidableEq, Repr

/-- A duration of whole seconds in words. -/
def writeDuration (secs : Nat) : String := if secs = 0 then "0ns" else toString secs ++ "s"

def ConfigError.message : ConfigError → String
  | .invalidValue name value => "Invalid value for " ++ name ++ ": " ++ value
  | .zeroBuffer => "Stream buffer must be non-zero"
  | .zeroMonitorInterval => "Monitor interval must be non-zero"
  | .timeoutBelowInterval timeout interval =>
      "Heartbeat timeout (" ++ writeDuration timeout ++ ") shorter than monitor interval ("
        ++ writeDuration interval ++ ")"
  | .emptyMasterKey => "Master key must not be empty"

namespace RuntimeConfig

/-- The setting that a variable makes, or its default when the variable is not set. A value that
cannot be read is reported as it stands. -/
def setting {α : Type} (env : Environment) (name : String) (read? : List Char → Option α)
    (default : α) : Except ConfigError α :=
  match env.get? name with
  | none => .ok default
  | some value =>
      match read? (Blank.trim value.toList) with
      | some a => .ok a
      | none => .error (.invalidValue name value)

/-- The configuration that an environment asks for. -/
def ofEnvironment (env : Environment) : Except ConfigError RuntimeConfig := do
  let c : RuntimeConfig := {}
  let number := fun name => setting env name Environment.natural?
  let bindAddress ← setting env "TC_BIND_ADDR" SocketAddress.read? c.bindAddress
  let masterKey := (env.get? "TC_MASTER_KEY").getD c.masterKey
  let heartbeatTimeoutSecs ← number "TC_HEARTBEAT_TIMEOUT_SECS" c.monitor.heartbeatTimeoutSecs
  let monitorIntervalSecs ← number "TC_MONITOR_INTERVAL_SECS" c.monitor.monitorIntervalSecs
  let streamBuffer ← number "TC_STREAM_BUFFER" c.routing.streamBuffer
  let maxFrameBytes ← number "TC_MAX_FRAME_BYTES" c.maxFrameBytes
  let perTask ← number "TC_STATS_RETAINED_PER_TASK" c.retention.perTask
  let tasks ← number "TC_STATS_RETAINED_TASKS" c.retention.tasks
  let recordIdField :=
    ((env.get? "TC_RECORD_ID_FIELD").filter (· ≠ "")).getD c.ingest.recordIdField
  return {
    bindAddress, masterKey, maxFrameBytes
    monitor := { heartbeatTimeoutSecs, monitorIntervalSecs }
    routing := { streamBuffer }
    ingest := { recordIdField }
    retention := { perTask, tasks } }

/-- Checks what a running master relies on; the first failure counts. -/
def validate (c : RuntimeConfig) : Except ConfigError Unit :=
  if c.masterKey = "" then .error .emptyMasterKey
  else if c.routing.streamBuffer = 0 then .error .zeroBuffer
  else if c.monitor.monitorIntervalSecs = 0 then .error .zeroMonitorInterval
  else if c.monitor.heartbeatTimeoutSecs < c.monitor.monitorIntervalSecs then
    .error (.timeoutBelowInterval c.monitor.heartbeatTimeoutSecs c.monitor.monitorIntervalSecs)
  else .ok ()

end RuntimeConfig
end ControlPlane
