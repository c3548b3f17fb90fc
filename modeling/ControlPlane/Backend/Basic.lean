import ControlPlane.Metrics.Ledger
import ControlPlane.Store.Basic
import ControlPlane.Store.Script
import ControlPlane.Stream.Registry
import ControlPlane.Telemetry.Output

/-!
# The backend of the services

What all services share: the store with its script, the supply of new ids, the clocks, the
ledger, the retained task output and the registry of subscriptions. A service reaches it through
calls (`Call`), each of which is one atomic step (`Backend.perform`).
-/

set_option autoImplicit false

namespace ControlPlane

/-! ## State -/

/-- Where the ids of new records come from. -/
structure IdSupply where
  seconds : Nat := 1700000000
  process : Nat := 0
  /-- How many ids were used. -/
  used : Nat := 0

namespace IdSupply

/-- The id with a given number, the first being number 1. -/
def id (s : IdSupply) (n : Nat) : ObjectId := .generated s.seconds s.process n

/-- The next id. -/
def next (s : IdSupply) : ObjectId := s.id (s.used + 1)

/-- The supply after the next id was used. -/
def advance (s : IdSupply) : IdSupply := { s with used := s.used + 1 }

end IdSupply

structure Backend where
  store : Store := {}
  script : Script := {}
  ids : IdSupply := {}
  /-- The time that audit artifacts are stamped with. -/
  wall : Instant
  /-- The reading of the clock that nodes are watched by. -/
  clock : Instant
  ledger : Ledger := {}
  retention : Retention := {}
  retained : RetainedOutput := {}
  registry : Registry := {}

/-! ## Calls -/

inductive Call where
  | getById (kind : Kind) (id : ObjectId)
  | get (kind : Kind) (q : Query)
  | getList (kind : Kind) (q : Query) (page : Page)
  | getArtifact (kind : Kind) (id : ObjectId)
  | add (m : Model)
  | save (m : Model)
  | delete (kind : Kind) (id : ObjectId)
  /-- Reads the clock that nodes are watched by. -/
  | now
  | count (c : Counter) (n : Nat)
  /-- Notes that a delegate call was timed. -/
  | time
  /-- Sets the gauge of subscriptions to the size of the registry. -/
  | gauge
  /-- Keeps a batch of the output of a task. -/
  | retain (task : ObjectId) (batch : OutputBatch)
  | lookUp (key : String)
  /-- Registers a sink under a key; the answer is its new signal. -/
  | install (key : String) (sink : SinkId) (isHeard : Bool)
  | remove (key : String)
  /-- Raises a signal; the answer says whether that succeeded. -/
  | finish (signal : SignalId)

namespace Call

/-- What a call is answered with. -/
abbrev Answer : Call → Type
  | getById .. | get .. | add _ | save _ => Except StoreError Model
  | getList .. => Except StoreError (List Model)
  | getArtifact .. => Except StoreError Artifact
  | delete .. => Except StoreError Unit
  | now => Instant
  | count .. | time | gauge | retain .. | remove _ => Unit
  | lookUp _ => Option Subscription
  | install .. => SignalId
  | finish _ => Bool

end Call

/-! ## Answers -/

namespace Backend

/-- Makes a call of the store, unless the script answers it. -/
def scripted {α : Type} (b : Backend) (c : StoreCall) (ofModel : Model → α)
    (make : Backend → Except StoreError α × Backend) : Except StoreError α × Backend :=
  match b.script.next c with
  | (none, s) => make { b with script := s }
  | (some (.error e), s) => (.error e, { b with script := s })
  | (some (.model m), s) => (.ok (ofModel m), { b with script := s })

/-- Adds a record. An id of the supply is used up when the record that was added got it. -/
def add (b : Backend) (m : Model) : Except StoreError Model × Backend :=
  match b.store.add b.ids.next b.wall m with
  | .error e => (.error e, b)
  | .ok (added, s) =>
      (.ok added,
        { b with store := s, ids := if m.storedId?.isSome then b.ids else b.ids.advance })

def save (b : Backend) (m : Model) : Except StoreError Model × Backend :=
  match b.store.save b.wall m with
  | .error e => (.error e, b)
  | .ok (m, s) => (.ok m, { b with store := s })

def delete (b : Backend) (kind : Kind) (id : ObjectId) : Except StoreError Unit × Backend :=
  match b.store.delete b.wall kind id with
  | .error e => (.error e, b)
  | .ok s => (.ok (), { b with store := s })

/-- Registers a sink under a key with a new signal. -/
def install (b : Backend) (key : String) (sink : SinkId) (isHeard : Bool) : SignalId × Backend :=
  let (signal, r) := b.registry.newSignal isHeard
  (signal, { b with registry := r.set key ⟨sink, signal⟩ })

/-- Answers a call. -/
def perform (b : Backend) : (c : Call) → c.Answer × Backend
  | .getById kind id => b.scripted .getById (·) fun b => (b.store.getById kind id, b)
  | .get kind q => b.scripted .get (·) fun b => (b.store.get kind q, b)
  | .getList kind q page => b.scripted .getList ([·]) fun b => (.ok (b.store.getList kind q page), b)
  | .getArtifact kind id =>
      b.scripted .getArtifact (fun _ => {}) fun b => (b.store.getArtifact kind id, b)
  | .add m => b.scripted .add (·) fun b => b.add m
  | .save m => b.scripted .save (·) fun b => b.save m
  | .delete kind id => b.scripted .delete (fun _ => ()) fun b => b.delete kind id
  | .now => (b.clock, b)
  | .count c n => ((), { b with ledger := b.ledger.add c n })
  | .time => ((), { b with ledger := { b.ledger with timedCalls := b.ledger.timedCalls + 1 } })
  | .gauge => ((), { b with ledger := { b.ledger with subscriptions := b.registry.size } })
  | .retain task batch =>
      ((), { b with retained := b.retained.insert b.retention task batch })
  | .lookUp key => (b.registry.find? key, b)
  | .install key sink isHeard => b.install key sink isHeard
  | .remove key => ((), { b with registry := b.registry.erase key })
  | .finish signal =>
      let (isRaised, r) := b.registry.raise signal
      (isRaised, { b with registry := r })

end Backend
end ControlPlane
