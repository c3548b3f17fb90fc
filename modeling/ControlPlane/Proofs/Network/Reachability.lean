import ControlPlane.Proofs.Network.Separation
import ControlPlane.Proofs.Node.Release

/-!
# Who can be reached

Message streams connect keys and take them back, nodes subscribe and are unsubscribed: all of
them write to one registry. What is registered under a key is decided by the last *event* of the
key, whoever made it and whatever happened in between: the sink of the stream that was installed
last, or nothing if the key was removed after that (`Network.reaches_of_unfolds`). A stream that
ends leaves its entries behind.
-/

set_option autoImplicit false

namespace ControlPlane

/-! ## Events -/

/-- What happens to an entry of the registry. -/
inductive RegistryEvent where
  | installed (key : String) (sink : SinkId)
  | removed (key : String)
deriving DecidableEq

namespace RegistryEvent

def key : RegistryEvent → String
  | installed key _ | removed key => key

/-- The sink that an event leaves under its key. -/
def sink? : RegistryEvent → Option SinkId
  | installed _ sink => some sink
  | removed _ => none

/-- The last event of a key. -/
def last? (key : String) (es : List RegistryEvent) : Option RegistryEvent :=
  (es.filter fun e => e.key = key).getLast?

theorem last?_append (key : String) (es es' : List RegistryEvent) :
    last? key (es ++ es') = (last? key es').or (last? key es) := by
  rw [last?, last?, last?, List.filter_append, List.getLast?_append]

theorem last?_singleton (key : String) (e : RegistryEvent) :
    last? key [e] = if e.key = key then some e else none := by
  by_cases h : e.key = key <;> simp [last?, h]

theorem mem_of_last? {key : String} {es : List RegistryEvent} {e : RegistryEvent}
    (h : last? key es = some e) : e ∈ es ∧ e.key = key := by
  have hmem := List.mem_filter.mp (List.mem_of_getLast? h)
  exact ⟨hmem.1, of_decide_eq_true hmem.2⟩

end RegistryEvent

/-- The event of a message that arrives on a stream with a sink. -/
def StreamMessage.event? (sink : SinkId) (m : StreamMessage) : Option RegistryEvent :=
  match m.code? with
  | some .connect => if m.sourceKey = "" then none else some (.installed m.sourceKey sink)
  | some .disconnect => some (.removed m.sourceKey)
  | _ => none

namespace Network

/-- The message that an actor receives next, and the sink of its stream. -/
def nextOnStream? (n : Network) (t : ActorId) : Option (SinkId × StreamMessage) :=
  match n.actors.find? t with
  | some (.router _ sink none) => (n.nextMessage? t).map fun m => (sink, m)
  | _ => none

/-- The events of an unsubscription that is served alone: one, if it succeeds. -/
def unsubscribeEvents (n : Network) (node : String) : List RegistryEvent :=
  match ((Coordination.unsubscribe node).run.run n.backend).1 with
  | .ok _ => [.removed (Registry.nodeKey node)]
  | .error _ => []

end Network

namespace Act

/-- The events of an act: a stream receives a message, a node subscribes, or an unsubscription
makes the call by which it removes its node. -/
def events (n : Network) : Act → List RegistryEvent
  | step t => ((n.nextOnStream? t).bind fun p => p.2.event? p.1).toList
  | openControl key capacity =>
      [.installed (Registry.nodeKey key) (n.openControl key capacity).1.sink]
  | openSocket (.control key) capacity =>
      [.installed (Registry.nodeKey key) (n.openControl key capacity).1.sink]
  | ask (.remove key) => [.removed key]
  | _ => []

/-- Of the calls that services make, only those of unsubscriptions change entries. -/
def IsServed : Act → Prop
  | ask c => c.registryKey? = none ∨ ∃ node, c = .remove (Registry.nodeKey node)
  | _ => True

end Act

/-! ## What an event does -/

/-- Every entry is as the events left it. -/
def Registry.Follows (es : List RegistryEvent) (r r' : Registry) : Prop :=
  ∀ key, (r'.find? key).map (·.sink)
    = (RegistryEvent.last? key es).elim ((r.find? key).map (·.sink)) RegistryEvent.sink?

namespace Registry

variable {r r' : Registry}

theorem follows_of_leaves (h : ∀ key, r.Leaves key r') : r.Follows [] r' := by
  intro key
  rw [(h key).find]
  rfl

theorem follows_of_set {key : String} {s : Subscription}
    (h : ∀ l, r'.find? l = if key = l then some s else r.find? l) :
    r.Follows [.installed key s.sink] r' := by
  intro l
  rw [h l, RegistryEvent.last?_singleton]
  by_cases hl : key = l
  · simp [hl, RegistryEvent.key, RegistryEvent.sink?]
  · simp [hl, RegistryEvent.key]

theorem follows_of_erase {key : String}
    (h : ∀ l, r'.find? l = if key = l then none else r.find? l) : r.Follows [.removed key] r' := by
  intro l
  rw [h l, RegistryEvent.last?_singleton]
  by_cases hl : key = l
  · simp [hl, RegistryEvent.key, RegistryEvent.sink?]
  · simp [hl, RegistryEvent.key]

end Registry

namespace Router

/-- A message does to the registry what its event says. -/
theorem follows_handle (sink : SinkId) (m : StreamMessage) (b : Backend) :
    b.registry.Follows (m.event? sink).toList ((handle sink m).run b).2.registry := by
  have hsame : b.registry.Follows [] b.registry :=
    Registry.follows_of_leaves fun key => .refl key b.registry
  cases hcode : m.code? with
  | none =>
      simp only [handle, StreamMessage.event?, hcode]
      exact hsame
  | some code =>
      cases code with
      | connect =>
          by_cases hkey : m.sourceKey = ""
          · simp only [handle, StreamMessage.event?, hcode, connect, if_pos hkey]
            exact hsame
          · simp only [handle, StreamMessage.event?, hcode, connect, if_neg hkey]
            exact Registry.follows_of_set (s := ⟨sink, b.registry.nextSignal⟩)
              fun l => Registry.find?_set (b.registry.newSignal false).2 m.sourceKey l _
      | disconnect =>
          simp only [handle, StreamMessage.event?, hcode]
          exact Registry.follows_of_erase fun l => Registry.find?_erase b.registry m.sourceKey l
      | _ =>
          simp only [handle, StreamMessage.event?, hcode]
          exact hsame

/-- The code of a message that connects or takes back a key. -/
def isClaim (m : StreamMessage) : Prop := m.code? = some .connect ∨ m.code? = some .disconnect

/-- Whatever else arrives leaves the registry as it is. -/
theorem registry_onArrival (sink : SinkId) (arrival? : Option Arrival) (b : Backend)
    (h : ∀ m, arrival? = some (.ok m) → ¬ isClaim m) :
    ((onArrival sink arrival?).run b).2.registry = b.registry := by
  cases arrival? with
  | none => rfl
  | some arrival =>
      cases arrival with
      | error e =>
          rw [onArrival]
          split <;> rfl
      | ok m =>
          have hclaim := h m rfl
          rw [onArrival, handle]
          split
          next hcode => exact absurd (.inl hcode) hclaim
          next hcode => exact absurd (.inr hcode) hclaim
          next => rfl
          next => rfl

end Router

namespace Coordination

variable {b : Backend} {node : String}

/-- An unsubscription that finds nothing fails. -/
theorem run_unsubscribe_of_none (h : b.registry.find? (Registry.nodeKey node) = none) :
    ((unsubscribe node).run.run b).1 = .error (.subscribeNotFound (Registry.nodeKey node)) ∧
      ((unsubscribe node).run.run b).2.registry = b.registry := by
  have hlookUp : b.perform (.lookUp (Registry.nodeKey node)) = (none, b) := by rw [← h]; rfl
  rw [run_unsubscribe, Routine.run_ask, hlookUp]
  exact ⟨rfl, rfl⟩

/-- An unsubscription that finds a subscription raises its signal and removes the key. -/
theorem run_unsubscribe_of_some {s : Subscription}
    (h : b.registry.find? (Registry.nodeKey node) = some s) :
    ((unsubscribe node).run.run b).1 = .ok () ∧ ((unsubscribe node).run.run b).2.registry
      = (b.registry.raise s.signal).2.erase (Registry.nodeKey node) := by
  have hlookUp : b.perform (.lookUp (Registry.nodeKey node)) = (some s, b) := by rw [← h]; rfl
  rw [run_unsubscribe, Routine.run_ask, hlookUp]
  exact ⟨rfl, rfl⟩

end Coordination

namespace Network

variable {n₀ n n' : Network} {t : ActorId}

theorem follows_step? (h : n.step? t = some n') :
    n.backend.registry.Follows ((Act.step t).events n) n'.backend.registry := by
  rw [Act.events]
  cases hm : n.nextMessage? t with
  | none =>
      have hnone : n.nextOnStream? t = none := by
        rw [nextOnStream?, hm]
        split <;> rfl
      rw [hnone]
      exact Registry.follows_of_leaves fun key => leaves_step? (by simp [hm]) h
  | some m =>
      rcases exists_receive hm h with ⟨source, sink, i, inbox, next, b, hx, -, -, hrun, rfl⟩
      have hnext : n.nextOnStream? t = some (sink, m) := by
        rw [nextOnStream?, hx, hm]
        rfl
      have hfollows := Router.follows_handle sink m n.backend
      rw [hrun] at hfollows
      rw [hnext, backend_onward]
      exact hfollows

theorem follows_install (b : Backend) (node : String) (sink : SinkId) :
    b.registry.Follows [.installed (Registry.nodeKey node) sink]
      ((Coordination.install node sink).run b).2.registry :=
  Registry.follows_of_set (s := ⟨sink, b.registry.nextSignal⟩)
    fun l => Registry.find?_set (b.registry.newSignal true).2 (Registry.nodeKey node) l _

/-- **One act.** -/
theorem follows_perform? {a : Act} (ha : a.IsServed) (h : a.perform? n = some n') :
    n.backend.registry.Follows (a.events n) n'.backend.registry := by
  by_cases hstep : ∃ t, a = .step t
  · rcases hstep with ⟨t, rfl⟩
    exact follows_step? h
  · have hbackend := backend_of_perform? (fun t ht => hstep ⟨t, ht⟩) h
    have hnothing : n.backend.registry.Follows [] n.backend.registry :=
      Registry.follows_of_leaves fun key => .refl key _
    rw [hbackend]
    cases a with
    | step t => exact absurd ⟨t, rfl⟩ hstep
    | openControl key capacity => exact follows_install n.backend key _
    | openSocket p capacity =>
        cases p with
        | control key => exact follows_install n.backend key _
        | messages => exact hnothing
        | telemetry => exact hnothing
    | ask c =>
        rcases ha with hkey | ⟨node, rfl⟩
        · have hevents : (Act.ask c).events n = [] := by
            cases c with
            | remove key => cases hkey
            | _ => rfl
          rw [hevents]
          exact Registry.follows_of_leaves fun key =>
            n.backend.leaves_perform (by simp [Call.Avoids, hkey])
        · exact Registry.follows_of_erase fun l =>
            Registry.find?_erase n.backend.registry (Registry.nodeKey node) l
    | _ => exact hnothing

/-- **One unsubscription.** -/
theorem follows_unsubscribe (n : Network) (node : String) :
    n.backend.registry.Follows (n.unsubscribeEvents node)
      (n.run (Coordination.unsubscribe node).run).2.backend.registry := by
  have hrun : (n.run (Coordination.unsubscribe node).run).2.backend
      = ((Coordination.unsubscribe node).run.run n.backend).2 := rfl
  rw [hrun, unsubscribeEvents]
  cases hfound : n.backend.registry.find? (Registry.nodeKey node) with
  | none =>
      rcases Coordination.run_unsubscribe_of_none hfound with ⟨hanswer, hregistry⟩
      rw [hanswer, hregistry]
      exact Registry.follows_of_leaves fun key => .refl key _
  | some s =>
      rcases Coordination.run_unsubscribe_of_some hfound with ⟨hanswer, hregistry⟩
      rw [hanswer, hregistry]
      apply Registry.follows_of_erase
      intro l
      -- raising the signal changes no entry
      rw [Registry.find?_erase, (Registry.leaves_raise l n.backend.registry s.signal).find]

/-! ## Runs -/

/-- What can come about from a network, with the events: acts, and unsubscriptions that are served
alone. -/
inductive Unfolds (n₀ : Network) : List RegistryEvent → Network → Prop
  | start : Unfolds n₀ [] n₀
  | act {log : List RegistryEvent} {n n' : Network} (a : Act) (ha : a.IsServed)
      (hn : a.perform? n = some n') (h : Unfolds n₀ log n) : Unfolds n₀ (log ++ a.events n) n'
  | unsubscribe {log : List RegistryEvent} {n : Network} (node : String) (h : Unfolds n₀ log n) :
      Unfolds n₀ (log ++ n.unsubscribeEvents node) (n.run (Coordination.unsubscribe node).run).2

/-- What the registry says after a run. -/
structure Reaches (log : List RegistryEvent) (n : Network) : Prop where
  /-- Under every key stands the sink that the last event of the key left. -/
  decided : ∀ key, (n.backend.registry.find? key).map (·.sink)
    = (RegistryEvent.last? key log).bind RegistryEvent.sink?
  nameless : n.backend.registry.find? "" = none
  /-- Steps of a message stream in which no message connects or takes back a key change nothing:
  other messages, the end of the stream, its cancellation, and failures to receive. -/
  quiet : ∀ t source sink pending n', n.actors.find? t = some (.router source sink pending) →
    n.step? t = some n' → (∀ m, n.nextMessage? t = some m → ¬ Router.isClaim m) →
    n'.backend.registry = n.backend.registry

theorem registry_of_quiet {source : InboxId} {sink : SinkId} {pending : Option Routing}
    (hx : n.actors.find? t = some (.router source sink pending)) (h : n.step? t = some n')
    (hm : ∀ m, n.nextMessage? t = some m → ¬ Router.isClaim m) :
    n'.backend.registry = n.backend.registry := by
  cases pending with
  | some r =>
      -- the stream routes a message
      have hp : n.pending? t = some r := by
        rw [pending?, hx]
        rfl
      rcases exists_routeStep? hp h with ⟨x, y, next, n₁, -, hroute, rfl, -, -⟩
      exact (performs_of_routeStep? hroute).registry
  | none =>
      rcases exists_arrival hx h with ⟨i, arrival?, inbox, next, b, hi, hreceive, hrun, rfl⟩
      have hquiet := Router.registry_onArrival sink arrival? n.backend fun m harrival =>
        hm m (by rw [nextMessage?_eq hx hi hreceive, harrival]; rfl)
      rw [hrun] at hquiet
      rw [backend_onward]
      exact hquiet

/-- No event leaves a sink under the empty key. -/
def AreNamed (es : List RegistryEvent) : Prop := ∀ e ∈ es, e.key = "" → e.sink? = none

theorem areNamed_event? (sink : SinkId) (m : StreamMessage) : AreNamed (m.event? sink).toList := by
  intro e he hkey
  rw [Option.mem_toList, StreamMessage.event?] at he
  split at he
  next =>
    split at he
    next => cases he
    next hne =>
      cases he
      exact absurd hkey hne
  next =>
    cases he
    rfl
  next => cases he

theorem areNamed_install (node : String) (sink : SinkId) :
    AreNamed [.installed (Registry.nodeKey node) sink] := by
  intro e he hkey
  rw [List.mem_singleton.mp he] at hkey
  exact absurd hkey (Registry.nodeKey_ne_empty node)

theorem areNamed_events (a : Act) (n : Network) : AreNamed (a.events n) := by
  cases a with
  | step t =>
      rw [Act.events]
      cases n.nextOnStream? t with
      | none => simp [AreNamed]
      | some p => exact areNamed_event? p.1 p.2
  | openControl key capacity => exact areNamed_install key _
  | openSocket p capacity =>
      cases p with
      | control key => exact areNamed_install key _
      | _ => simp [AreNamed, Act.events]
  | ask c => cases c <;> simp [AreNamed, Act.events, RegistryEvent.sink?]
  | _ => simp [AreNamed, Act.events]

theorem areNamed_unsubscribeEvents (n : Network) (node : String) :
    AreNamed (n.unsubscribeEvents node) := by
  rw [unsubscribeEvents]
  split <;> simp [AreNamed, RegistryEvent.sink?]

theorem AreNamed.append {es es' : List RegistryEvent} (h : AreNamed es) (h' : AreNamed es') :
    AreNamed (es ++ es') := by
  intro e he
  rcases List.mem_append.mp he with he | he
  · exact h e he
  · exact h' e he

/-- The events of a run are what decides. -/
theorem Unfolds.decided (hempty : ∀ key, n₀.backend.registry.find? key = none)
    {log : List RegistryEvent} (h : Unfolds n₀ log n) :
    AreNamed log ∧ ∀ key, (n.backend.registry.find? key).map (·.sink)
      = (RegistryEvent.last? key log).bind RegistryEvent.sink? := by
  -- events that come later decide first
  have hlater {r r' : Registry} {log es : List RegistryEvent} (hfollows : r.Follows es r')
      (hdecided : ∀ key, (r.find? key).map (·.sink)
        = (RegistryEvent.last? key log).bind RegistryEvent.sink?) (key : String) :
      (r'.find? key).map (·.sink)
        = (RegistryEvent.last? key (log ++ es)).bind RegistryEvent.sink? := by
    rw [hfollows key, RegistryEvent.last?_append, hdecided key]
    cases RegistryEvent.last? key es <;> rfl
  induction h with
  | start => exact ⟨by simp [AreNamed], fun key => by rw [hempty key]; rfl⟩
  | act a ha hn _ ih =>
      exact ⟨ih.1.append (areNamed_events a _), hlater (follows_perform? ha hn) ih.2⟩
  | unsubscribe node _ ih =>
      exact ⟨ih.1.append (areNamed_unsubscribeEvents _ node),
        hlater (follows_unsubscribe _ node) ih.2⟩

/-- **Who can be reached.** After every run from an empty registry, the last event of a key decides
who is registered under it; nobody is under the empty key; and a message stream changes the
registry only by a message that connects or takes back a key. -/
theorem reaches_of_unfolds (hempty : ∀ key, n₀.backend.registry.find? key = none)
    {log : List RegistryEvent} (h : Unfolds n₀ log n) : Reaches log n := by
  rcases h.decided hempty with ⟨hnamed, hdecided⟩
  refine ⟨hdecided, ?_, fun t source sink pending n' hx hstep hm => registry_of_quiet hx hstep hm⟩
  have hsink : (n.backend.registry.find? "").map (·.sink) = none := by
    rw [hdecided ""]
    cases hlast : RegistryEvent.last? "" log with
    | none => rfl
    | some e =>
        rcases RegistryEvent.mem_of_last? hlast with ⟨hmem, hkey⟩
        exact hnamed e hmem hkey
  exact Option.map_eq_none_iff.mp hsink

/-! ### Comings and goings -/

/-- A network without streams. -/
def vacant : Network := { backend := { wall := .epoch, clock := .epoch }, frameLimit := 16 }

theorem unfolds_of_runs {log : List RegistryEvent} (h : Runs Act.events Act.IsServed n₀ log n) :
    Unfolds n₀ log n := by
  induction h with
  | start => exact .start
  | act a ha hn _ ih => exact ih.act a ha hn

/-- A node subscribes and a stream connects a key. -/
def comings : List Act :=
  [.openControl "w1" 1, .openMessages 1, .submit 1 (.ok (.connect "a")), .step 1]

/-- When the node was unsubscribed, the stream can still be reached. -/
theorem reaches_comings : ∃ n, (∀ key, vacant.backend.registry.find? key = none) ∧
    Unfolds vacant [.installed "node:w1" 0, .installed "a" 1, .removed "node:w1"] n ∧
    (n.backend.registry.find? "a").map (·.sink) = some 1 ∧
    n.backend.registry.find? "node:w1" = none := by
  have hcheck : (play Act.events comings vacant).any (fun p =>
      p.1 = [.installed "node:w1" 0, .installed "a" 1]
        && p.2.unsubscribeEvents "w1" = [.removed "node:w1"]) = true := by decide +kernel
  rcases (Option.any_eq_true _ _).mp hcheck with ⟨⟨log, n⟩, hplay, hchecked⟩
  rcases Bool.and_eq_true_iff.mp hchecked with ⟨hlog, hevents⟩
  have hlog : log = [.installed "node:w1" 0, .installed "a" 1] := of_decide_eq_true hlog
  have hevents : n.unsubscribeEvents "w1" = [.removed "node:w1"] := of_decide_eq_true hevents
  have hserved : ∀ a ∈ comings, a.IsServed := by
    intro a ha
    simp only [comings, List.mem_cons, List.not_mem_nil, or_false] at ha
    rcases ha with rfl | rfl | rfl | rfl <;> trivial
  have hruns := (unfolds_of_runs (runs_of_play hserved hplay)).unsubscribe "w1"
  rw [hlog, hevents] at hruns
  have hempty (key : String) : vacant.backend.registry.find? key = none := rfl
  have hreaches := reaches_of_unfolds hempty hruns
  refine ⟨_, hempty, hruns, hreaches.decided "a", ?_⟩
  exact Option.map_eq_none_iff.mp (hreaches.decided "node:w1")

end Network
end ControlPlane
