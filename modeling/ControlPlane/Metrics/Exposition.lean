import ControlPlane.Metrics.Ledger

/-!
# The text of the metrics

Each family is introduced by a line of help and its type, and followed by a line for each of its
counters. A family without labels is always shown; one with labels appears once it has a counter.
-/

set_option autoImplicit false

namespace ControlPlane

namespace Family

def name : Family → String
  | delegateCalls => "tc_delegate_calls_total"
  | messagesRouted => "tc_messages_routed_total"
  | nodeHeartbeats => "tc_node_heartbeats_total"
  | nodesMarkedOffline => "tc_nodes_marked_offline_total"
  | nodesRegistered => "tc_nodes_registered_total"
  | subsystemErrors => "tc_subsystem_errors_total"
  | logsIngested => "tc_telemetry_logs_ingested_total"
  | messagesRejected => "tc_telemetry_messages_rejected_total"
  | recordsIngested => "tc_telemetry_records_ingested_total"

def help : Family → String
  | delegateCalls => "Delegate calls executed"
  | messagesRouted => "Send envelopes routed"
  | nodeHeartbeats => "Node heartbeats received"
  | nodesMarkedOffline => "Nodes marked offline after missing heartbeats"
  | nodesRegistered => "Node registration attempts"
  | subsystemErrors => "Errors by subsystem and type"
  | logsIngested => "Log lines ingested"
  | messagesRejected => "Telemetry messages rejected"
  | recordsIngested => "Result records ingested"

/-- The counter of a family without labels. -/
def sole? : Family → Option Counter
  | nodesMarkedOffline => some .nodeMarkedOffline
  | logsIngested => some .logsIngested
  | recordsIngested => some .recordsIngested
  | _ => none

end Family

namespace Ledger

/-- The lines that introduce a family. -/
def header (name help kind : String) : List String :=
  ["# HELP " ++ name ++ " " ++ help, "# TYPE " ++ name ++ " " ++ kind]

/-- The line of a counter. -/
def sampleLine (s : Sample) (n : Nat) : String :=
  let labels := s.labels.map fun l => l.1 ++ "=\"" ++ l.2 ++ "\""
  let braced := if labels.isEmpty then "" else "\x7b" ++ String.intercalate "," labels ++ "\x7d"
  s.family.name ++ braced ++ " " ++ toString n

/-- The lines of a family. -/
def familyLines (l : Ledger) (f : Family) : List String :=
  let samples :=
    match f.sole? with
    | some c => [sampleLine c.sample (l.value c)]
    | none => (l.counts.entries.filter fun e => e.1.family = f).map fun e => sampleLine e.1 e.2
  if samples.isEmpty then [] else header f.name f.help "counter" ++ samples

/-- The lines of the gauge of registered subscriptions. -/
def gaugeLines (l : Ledger) : List String :=
  let name := "tc_registry_subscriptions"
  header name "Entries in the subscription registry" "gauge" ++ [name ++ " " ++ toString l.subscriptions]

/-- All lines, by the names of the families; the durations of calls are not among them. -/
def lines (l : Ledger) : List String :=
  let before : List Family :=
    [.delegateCalls, .messagesRouted, .nodeHeartbeats, .nodesMarkedOffline, .nodesRegistered]
  let after : List Family :=
    [.subsystemErrors, .logsIngested, .messagesRejected, .recordsIngested]
  before.flatMap l.familyLines ++ l.gaugeLines ++ after.flatMap l.familyLines

end Ledger
end ControlPlane
