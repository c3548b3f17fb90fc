import ControlPlane.Backend.Routine
import ControlPlane.Telemetry.Ingest

/-!
# Loops over streams

What the owner of a stream does with each thing that arrives on it. A message stream registers
its sink under the keys it connects, takes keys back, and has messages routed; the first
disconnect ends it. A telemetry stream has its messages taken in. Both end well when the stream
ends or is cancelled, and badly when receiving fails.
-/

set_option autoImplicit false

namespace ControlPlane

/-- What arrives on a stream. -/
abbrev Arrival := Except StreamError StreamMessage

/-- How the owner of a stream ended. -/
inductive Ending where
  | ok
  | routing (e : RoutingError)
  | ingest (e : IngestError)
deriving DecidableEq

/-! ## Message streams -/

namespace Router

/-- What a message stream does next. -/
inductive Next where
  | receive
  | route (m : StreamMessage)
  | stop (e : Ending)

/-- Registers the sink of a stream under the key that a message speaks for, if there is one.
Nobody waits to be told that such a subscription is finished. -/
def connect (m : StreamMessage) (sink : SinkId) : Routine Unit :=
  if m.sourceKey = "" then pure ()
  else do
    let _ ← Routine.install m.sourceKey sink false
    Routine.gauge

/-- Takes back the key that a message speaks for. -/
def disconnect (m : StreamMessage) : Routine Unit := do
  Routine.remove m.sourceKey
  Routine.gauge

/-- Handles a message. -/
def handle (sink : SinkId) (m : StreamMessage) : Routine Next :=
  match m.code? with
  | some .connect => do
      connect m sink
      return .receive
  | some .disconnect => do
      disconnect m
      return .stop .ok
  | some .send => return .route m
  | _ => return .receive

/-- Handles what arrives; nothing more arrives when the stream has ended. -/
def onArrival (sink : SinkId) : Option Arrival → Routine Next
  | none => return .stop .ok
  | some (.ok m) => handle sink m
  | some (.error e) =>
      if e.isCancellation then return .stop .ok
      else do
        Routine.count (.subsystemError .routing "transport")
        return .stop (.routing (.transport e))

/-- The sink under which the destination of a message is registered. -/
def lookUp (m : StreamMessage) : Attempt RoutingError SinkId :=
  .mk do
    match ← Routine.lookUp m.receiver with
    | some s => return .ok s.sink
    | none =>
        Routine.count (.messageRouted .notFound)
        return .error (.subscribeNotFound m.receiver)

/-- Counts a message that was written, or could not be. -/
def conclude (m : StreamMessage) (isWritten : Bool) : Attempt RoutingError Unit :=
  .mk do
    if isWritten then
      Routine.count (.messageRouted .delivered)
      return .ok ()
    else
      Routine.count (.messageRouted .writeFailed)
      return .error (.writeFailed m.receiver .closed)

end Router

/-! ## Telemetry streams -/

namespace Collector

/-- Handles what arrives; the answer says how the stream ended, if it did. -/
def onArrival (c : IngestConfig) : Option Arrival → Routine (Option Ending)
  | none => return some .ok
  | some (.ok m) => do
      Ingest.receive c m
      return none
  | some (.error e) =>
      if e.isCancellation then return some .ok
      else do
        Routine.count (.subsystemError .telemetry "transport")
        return some (.ingest (.transport e))

end Collector
end ControlPlane
