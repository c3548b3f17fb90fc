import ControlPlane.Network.Step

/-!
# Running the actors

Actors run one at a time, first come first served: an actor that can move runs until it waits, and
actors that become able to move meanwhile run after those that already could. Of several that
become able at once, those that waited in a line go in the order of the line. A writer that could
take either of its two steps looks at its sink first.
-/

set_option autoImplicit false

namespace ControlPlane.Network

/-- All actors, those that wait to write first, in the order of their lines. -/
def order (n : Network) : List ActorId :=
  let toInboxes := n.inboxes.values.flatMap fun i => i.channel.granted ++ i.channel.line
  let toSinks := n.sinks.values.flatMap fun c => c.granted ++ c.line
  (toInboxes ++ toSinks ++ n.actors.keys).eraseDups

/-- The actors that can move. -/
def ready (n : Network) : List ActorId := n.order.filter fun t => (n.step? t).isSome

/-- Runs actors until none can move, for at most `fuel` steps and changes of actor. -/
def runReady : Nat → List ActorId → Network → Network
  | 0, _, n => n
  | _, [], n => n
  | fuel + 1, t :: ts, n =>
      match n.step? t with
      | none => runReady fuel ts n
      | some next => runReady fuel (t :: ts ++ next.ready.filter fun u => u ∉ t :: ts) next

/-- How many items are under way. -/
def load (n : Network) : Nat :=
  let items := (n.inboxes.values.map fun i => i.channel.queue.length)
    ++ (n.sinks.values.map fun c => c.queue.length)
    ++ (n.sockets.values.map fun s => s.inbound.length)
  items.foldr (· + ·) 0

/-- Runs all actors until none can move. An item takes no more than eight steps on its way, an actor
no more than eight besides. -/
def settle (n : Network) : Network :=
  n.runReady (20 * (n.load + n.actors.size + 1)) n.ready

/-- Runs one actor until it waits, for at most `fuel` steps. -/
def runActor (n : Network) (t : ActorId) : Nat → Network
  | 0 => n
  | fuel + 1 =>
      match n.step? t with
      | none => n
      | some n => n.runActor t fuel

end ControlPlane.Network
