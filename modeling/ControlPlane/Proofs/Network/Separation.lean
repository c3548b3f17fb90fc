import ControlPlane.Proofs.Backend.Footprint
import ControlPlane.Proofs.Network.Routing

/-!
# Control streams and message streams in one registry

The control stream of a node is registered under the key of the node with a prefix, message
streams under whatever keys their peers choose. Nothing keeps a peer from choosing a key with the
prefix: a message that connects or takes back the key of a control stream *claims* it
(`StreamMessage.Claims`), and such a message does to the entry what it does to any other.

Main statement: as long as a node is neither subscribed nor unsubscribed, its control stream stays
registered exactly as long as no message that was received claims its key
(`Network.find?_nodeKey_iff`).
-/

set_option autoImplicit false

namespace ControlPlane

/-- A message stream that receives the message registers its sink under the key, or takes the key
back. -/
def StreamMessage.Claims (key : String) (m : StreamMessage) : Prop :=
  (m.code? = some .connect ∨ m.code? = some .disconnect) ∧ m.sourceKey = key

instance (key : String) (m : StreamMessage) : Decidable (m.Claims key) :=
  inferInstanceAs (Decidable ((_ ∨ _) ∧ _))

/-! ## One arrival -/

namespace Router

variable {key : String}

/-- A message is handled without touching the registry, unless it connects a key or takes it
back. -/
theorem asksOnly_handle {P : Call → Prop} (haside : ∀ c, c.IsAside → P c) {sink : SinkId}
    {m : StreamMessage} (hinstall : m.code? = some .connect → P (.install m.sourceKey sink false))
    (hremove : m.code? = some .disconnect → P (.remove m.sourceKey)) :
    (handle sink m).AsksOnly P := by
  have hgauge : Routine.gauge.AsksOnly P := Routine.asksOnly_ask (haside _ trivial)
  simp only [handle]
  split
  next hcode =>
    apply Routine.AsksOnly.bind _ fun _ => Routine.asksOnly_pure _
    unfold connect
    split
    · exact Routine.asksOnly_pure _
    · exact (Routine.asksOnly_ask (hinstall hcode)).bind fun _ => hgauge
  next hcode =>
    apply Routine.AsksOnly.bind _ fun _ => Routine.asksOnly_pure _
    exact (Routine.asksOnly_ask (hremove hcode)).bind fun _ => hgauge
  next => exact Routine.asksOnly_pure _
  next => exact Routine.asksOnly_pure _

theorem asksOnly_onArrival {P : Call → Prop} (haside : ∀ c, c.IsAside → P c) {sink : SinkId}
    {arrival? : Option Arrival} (hinstall : ∀ m, arrival? = some (.ok m) →
      m.code? = some .connect → P (.install m.sourceKey sink false))
    (hremove : ∀ m, arrival? = some (.ok m) →
      m.code? = some .disconnect → P (.remove m.sourceKey)) :
    (onArrival sink arrival?).AsksOnly P := by
  cases arrival? with
  | none => exact Routine.asksOnly_pure _
  | some arrival =>
      cases arrival with
      | error e =>
          simp only [onArrival]
          split
          · exact Routine.asksOnly_pure _
          · exact (Routine.asksOnly_ask (haside (.count ..) trivial)).bind
              fun _ => Routine.asksOnly_pure _
      | ok m => exact asksOnly_handle haside (hinstall m rfl) (hremove m rfl)

/-- What arrives is handled without touching the entry of a key, unless it claims the key. -/
theorem asksOnly_onArrival_avoids {sink : SinkId} {arrival? : Option Arrival}
    (h : ∀ m, arrival? = some (.ok m) → ¬ m.Claims key) :
    (onArrival sink arrival?).AsksOnly (Call.Avoids key) := by
  apply asksOnly_onArrival fun c hc => hc.avoids key
  · exact fun m hm hcode hkey => h m hm ⟨.inl hcode, Option.some.inj hkey⟩
  · exact fun m hm hcode hkey => h m hm ⟨.inr hcode, Option.some.inj hkey⟩

/-- The entry of a key after a message that claims it: a new one, or none. -/
theorem find?_of_claims {m : StreamMessage} (hkey : key ≠ "") (h : m.Claims key) (sink : SinkId)
    (b : Backend) :
    b.registry.nextSignal ≤ ((handle sink m).run b).2.registry.nextSignal ∧
    ((handle sink m).run b).2.registry.find? key
      = if m.code? = some .connect then some ⟨sink, b.registry.nextSignal⟩ else none := by
  obtain ⟨hcode | hcode, rfl⟩ := h
  · simp only [handle, hcode, connect, if_neg hkey]
    refine ⟨Nat.le_succ _, ?_⟩
    exact (Registry.find?_set _ m.sourceKey m.sourceKey _).trans (if_pos rfl)
  · simp only [handle, hcode]
    refine ⟨Nat.le_refl _, ?_⟩
    exact (Registry.find?_erase _ m.sourceKey m.sourceKey).trans (if_pos rfl)

end Router

/-! ## One act -/

/-- The messages that message streams receive in an act. -/
def Act.heard (n : Network) : Act → List StreamMessage
  | step t => (n.nextMessage? t).toList
  | _ => []

/-- The act neither subscribes nor unsubscribes a node. -/
def Act.Respects (node : String) : Act → Prop
  | openControl key _ => key ≠ node
  | openSocket (.control key) _ => key ≠ node
  | ask c => c.Avoids (Registry.nodeKey node)
  | _ => True

/-- Such an act asks nothing about the entry of the node. -/
theorem Act.asksOnly_request {node : String} {a : Act} (ha : a.Respects node) (n : Network) :
    (a.request n).AsksOnly (Call.Avoids (Registry.nodeKey node)) := by
  have hinstall {key : String} (hkey : key ≠ node) := (Coordination.asksOnly_install
    (fun h => hkey (Registry.nodeKey_injective h)) n.sinks.size).bind
      fun _ => Routine.asksOnly_pure ()
  cases a with
  | openControl key capacity => exact hinstall ha
  | openSocket p capacity =>
      cases p with
      | control key => exact hinstall ha
      | _ => exact Routine.asksOnly_pure ()
  | ask c => exact ⟨ha, fun _ => Routine.asksOnly_pure ()⟩
  | _ => exact Routine.asksOnly_pure ()

namespace Network

variable {n₀ n n' : Network} {t : ActorId} {key : String}

theorem backend_onward (n : Network) (t : ActorId) (source : InboxId) (sink : SinkId)
    (next : Router.Next) : (n.onward t source sink next).backend = n.backend := by
  cases next with
  | stop e => exact (bypasses_closeInbox _ source).backend
  | _ => rfl

/-- What a step that routes no message may do to the services. -/
inductive Reacts (n n' : Network) (t : ActorId) : Prop
  /-- A reader or a writer. -/
  | idle (hx : ∀ source sink?, n.actors.find? t ≠ some (.collector source sink?))
      (h : n'.backend = n.backend)
  /-- A message stream receives an arrival. -/
  | message (source : InboxId) (sink : SinkId) (arrival? : Option Arrival)
      (hx : n.actors.find? t = some (.router source sink none))
      (hm : n.nextMessage? t = arrival?.bind Except.toOption)
      (h : n'.backend = ((Router.onArrival sink arrival?).run n.backend).2)
  /-- A telemetry stream receives an arrival. -/
  | telemetry (source : InboxId) (sink? : Option SinkId) (arrival? : Option Arrival)
      (hx : n.actors.find? t = some (.collector source sink?))
      (h : n'.backend = ((Collector.onArrival n.ingest arrival?).run n.backend).2)
  /-- The actor of a control stream listens no longer. -/
  | control (sink : SinkId) (signal : SignalId)
      (hx : n.actors.find? t = some (.subscriber sink signal))
      (h : n'.backend = { n.backend with registry := n.backend.registry.deafen signal })

theorem reacts_of_step? (hp : n.pending? t = none) (h : n.step? t = some n') :
    n.Reacts n' t := by
  by_cases hrouter : ∃ source sink, n.actors.find? t = some (.router source sink none)
  · obtain ⟨source, sink, hx⟩ := hrouter
    obtain ⟨i, arrival?, inbox, next, b, hi, hreceive, hrun, rfl⟩ := exists_arrival hx h
    refine .message source sink arrival? hx (nextMessage?_eq hx hi hreceive) ?_
    rw [backend_onward, hrun]
  · simp only [step?, Option.bind_eq_bind, Option.bind_eq_some_iff] at h
    obtain ⟨x, hx, hstep⟩ := h
    rw [pending?, hx, Option.bind_some] at hp
    cases x with
    | router source sink pending =>
        obtain rfl : pending = none := hp
        exact absurd ⟨source, sink, hx⟩ hrouter
    | courier pending => cases hp
    | subscriber sink signal =>
        simp only [subscriberStep?] at hstep
        split at hstep <;> cases hstep
        exact .control sink signal hx rfl
    | collector source sink? =>
        simp only [collectorStep?, Option.bind_eq_bind, Option.bind_eq_some_iff] at hstep
        obtain ⟨i, -, ⟨arrival?, inbox⟩, -, hstep⟩ := hstep
        refine .telemetry source sink? arrival? hx ?_
        split at hstep <;> cases hstep
        · rfl
        · rw [stop, (bypasses_closeInbox _ source).backend]
          rfl
    | reader socket inbox held =>
        exact .idle (by simp [hx]) (bypasses_readerStep? hx hstep).backend
    | writer socket sink reader =>
        exact .idle (by simp [hx]) (bypasses_writerStep? hx hstep).backend
    | ended e => cases hstep

/-- How the registry may change when an actor takes a step. -/
inductive Registers (n n' : Network) (t : ActorId) : Prop
  | same (h : n'.backend.registry = n.backend.registry)
  /-- A message stream receives an arrival. -/
  | message (sink : SinkId) (arrival? : Option Arrival)
      (hm : n.nextMessage? t = arrival?.bind Except.toOption)
      (h : n'.backend = ((Router.onArrival sink arrival?).run n.backend).2)
  /-- A telemetry stream receives an arrival. -/
  | telemetry (arrival? : Option Arrival)
      (h : n'.backend = ((Collector.onArrival n.ingest arrival?).run n.backend).2)
  /-- The actor of a control stream listens no longer. -/
  | control (sink : SinkId) (signal : SignalId)
      (hx : n.actors.find? t = some (.subscriber sink signal))
      (h : n'.backend.registry = n.backend.registry.deafen signal)

theorem registers_of_step? (h : n.step? t = some n') : n.Registers n' t := by
  cases hp : n.pending? t with
  | some r =>
      obtain ⟨x, y, next, n₁, -, hroute, rfl, -, -⟩ := exists_routeStep? hp h
      exact .same (performs_of_routeStep? hroute).registry
  | none =>
      cases reacts_of_step? hp h with
      | idle _ h => exact .same (congrArg (·.registry) h)
      | message source sink arrival? _ hm h => exact .message sink arrival? hm h
      | telemetry source sink? arrival? _ h => exact .telemetry arrival? h
      | control sink signal hx h => exact .control sink signal hx (congrArg (·.registry) h)

/-- A step in which no message claims the key leaves its entry alone. -/
theorem leaves_step? (hm : ∀ m, n.nextMessage? t = some m → ¬ m.Claims key)
    (h : n.step? t = some n') : n.backend.registry.Leaves key n'.backend.registry := by
  cases registers_of_step? h with
  | same h => exact h ▸ .refl key _
  | message sink arrival? hnext h =>
      have hasks : (Router.onArrival sink arrival?).AsksOnly (Call.Avoids key) := by
        apply Router.asksOnly_onArrival_avoids
        rintro m rfl
        exact hm m hnext
      exact h ▸ hasks.leaves n.backend
  | telemetry arrival? h =>
      have hasks : (Collector.onArrival n.ingest arrival?).AsksOnly (Call.Avoids key) :=
        Collector.asksOnly_onArrival (fun c hc => hc.avoids key) (fun _ _ => nofun) _ _
      exact h ▸ hasks.leaves n.backend
  | control sink signal _ h => exact h ▸ ⟨rfl, Nat.le_refl _⟩

/-- An act that is no step leaves the entry of a node alone, unless it is about the node. -/
theorem leaves_perform? {node : String} {a : Act} (ha : a.Respects node)
    (hstep : ∀ t, a ≠ .step t) (h : a.perform? n = some n') :
    n.backend.registry.Leaves (Registry.nodeKey node) n'.backend.registry := by
  rw [backend_of_perform? hstep h]
  exact (Act.asksOnly_request ha n).leaves n.backend

/-! ## Runs -/

/-- A step in which a message claims the key. -/
theorem find?_of_claimed {m : StreamMessage} (hkey : key ≠ "") (hm : n.nextMessage? t = some m)
    (hclaims : m.Claims key) (h : n.step? t = some n') :
    n.backend.registry.nextSignal ≤ n'.backend.registry.nextSignal ∧
    ∃ sink, n'.backend.registry.find? key
      = if m.code? = some .connect then some ⟨sink, n.backend.registry.nextSignal⟩ else none := by
  obtain ⟨source, sink, i, inbox, next, b, -, -, -, hrun, rfl⟩ := exists_receive hm h
  obtain ⟨hsignal, hfind⟩ := Router.find?_of_claims hkey hclaims sink n.backend
  rw [backend_onward]
  rw [hrun] at hsignal hfind
  exact ⟨hsignal, sink, hfind⟩

/-- A subscription that is there stays, unless a message of the act claims its key. -/
theorem find?_iff_of_perform? {node : String} {s : Subscription} {a : Act}
    (ha : a.Respects node) (hsignal : s.signal < n.backend.registry.nextSignal)
    (h : a.perform? n = some n') :
    s.signal < n'.backend.registry.nextSignal ∧
    (n'.backend.registry.find? (Registry.nodeKey node) = some s ↔
      n.backend.registry.find? (Registry.nodeKey node) = some s ∧
        ∀ m ∈ a.heard n, ¬ m.Claims (Registry.nodeKey node)) := by
  by_cases hfree : ∀ m ∈ a.heard n, ¬ m.Claims (Registry.nodeKey node)
  · have hleaves : n.backend.registry.Leaves (Registry.nodeKey node) n'.backend.registry := by
      by_cases hstep : ∃ t, a = .step t
      · obtain ⟨t, rfl⟩ := hstep
        apply leaves_step? _ h
        intro m hm
        exact hfree m (by simp [Act.heard, hm])
      · exact leaves_perform? ha (fun t ht => hstep ⟨t, ht⟩) h
    refine ⟨Nat.lt_of_lt_of_le hsignal hleaves.signal, ?_⟩
    rw [hleaves.find]
    exact ⟨fun hs => ⟨hs, hfree⟩, fun hs => hs.1⟩
  · obtain ⟨m, hm, hclaims⟩ : ∃ m ∈ a.heard n, m.Claims (Registry.nodeKey node) := by
      simpa using hfree
    -- only a step hears a message
    cases a with
    | step t =>
        have hnext : n.nextMessage? t = some m := by simpa [Act.heard] using hm
        obtain ⟨hle, sink, hfind⟩ :=
          find?_of_claimed (Registry.nodeKey_ne_empty node) hnext hclaims h
        refine ⟨Nat.lt_of_lt_of_le hsignal hle, ?_⟩
        -- the new entry, if there is one, has a signal that did not exist before
        have hnew : n'.backend.registry.find? (Registry.nodeKey node) ≠ some s := by
          rw [hfind]
          split
          · intro heq
            cases heq
            exact absurd hsignal (Nat.lt_irrefl _)
          · simp
        exact ⟨fun hs => absurd hs hnew, fun hs => absurd hs.2 hfree⟩
    | _ => simp [Act.heard] at hm

/-- **When control streams are left alone.** In every run without a subscription or unsubscription
of a node, the control stream of the node stays registered exactly as long as no message that a
message stream received claims its key. -/
theorem find?_nodeKey_iff {node : String} {s : Subscription} {log : List StreamMessage}
    (hs : n₀.backend.registry.find? (Registry.nodeKey node) = some s)
    (hsignal : s.signal < n₀.backend.registry.nextSignal)
    (h : Runs Act.heard (Act.Respects node) n₀ log n) :
    n.backend.registry.find? (Registry.nodeKey node) = some s ↔
      ∀ m ∈ log, ¬ m.Claims (Registry.nodeKey node) := by
  have hrun : s.signal < n.backend.registry.nextSignal ∧
      (n.backend.registry.find? (Registry.nodeKey node) = some s ↔
        ∀ m ∈ log, ¬ m.Claims (Registry.nodeKey node)) := by
    induction h with
    | start => exact ⟨hsignal, by simp [hs]⟩
    | act a ha hn _ ih =>
        obtain ⟨hlt, hiff⟩ := ih
        obtain ⟨hlt', hiff'⟩ := find?_iff_of_perform? ha hlt hn
        refine ⟨hlt', ?_⟩
        rw [hiff', hiff, List.forall_mem_append]
  exact hrun.2

/-! ### A node and its impostor -/

/-- The control stream of the node `w1`, and then a message stream. -/
def watched : Network :=
  ((({ backend := { wall := .epoch, clock := .epoch }, frameLimit := 16 } : Network).openControl
    "w1" 1).2.openMessages 1).2

/-- The peer of the message stream sends a message, which is received. -/
def speak (m : StreamMessage) : List Act := [.submit 1 (.ok m), .step 1]

/-- What the peer says is heard, and if the check holds afterwards there is such a run. -/
theorem runs_speak (m : StreamMessage) (check : Network → Bool)
    (h : (play Act.heard (speak m) watched).any (fun p => p.1 = [m] && check p.2) = true) :
    ∃ n, Runs Act.heard (Act.Respects "w1") watched [m] n ∧ check n = true := by
  obtain ⟨⟨log, n⟩, hplay, hchecked⟩ := (Option.any_eq_true _ _).mp h
  obtain ⟨hlog, hcheck⟩ := Bool.and_eq_true_iff.mp hchecked
  obtain rfl : log = [m] := of_decide_eq_true hlog
  refine ⟨n, runs_of_play ?_ hplay, hcheck⟩
  intro a ha
  simp only [speak, List.mem_cons, List.not_mem_nil, or_false] at ha
  rcases ha with rfl | rfl <;> trivial

/-- A message stream that keeps to a key of its own leaves the node alone. -/
theorem find?_nodeKey_neighbour :
    ∃ n : Network, watched.backend.registry.find? (Registry.nodeKey "w1") = some ⟨0, 0⟩ ∧
      0 < watched.backend.registry.nextSignal ∧
      Runs Act.heard (Act.Respects "w1") watched [{ code := 1, key := "w1" }] n ∧
      n.backend.registry.find? (Registry.nodeKey "w1") = some ⟨0, 0⟩ := by
  have hentry : watched.backend.registry.find? (Registry.nodeKey "w1") = some ⟨0, 0⟩ := by
    decide +kernel
  have hsignal : 0 < watched.backend.registry.nextSignal := by decide +kernel
  obtain ⟨n, hruns, -⟩ := runs_speak { code := 1, key := "w1" } (fun _ => true) (by decide +kernel)
  refine ⟨n, hentry, hsignal, hruns, ?_⟩
  exact (find?_nodeKey_iff hentry hsignal hruns).mpr (by decide +kernel)

/-- A message stream can put itself in the place of a node, and it can have the node removed. -/
theorem find?_nodeKey_impostor :
    watched.backend.registry.find? (Registry.nodeKey "w1") = some ⟨0, 0⟩ ∧
    (∃ n, Runs Act.heard (Act.Respects "w1") watched [{ code := 1, key := "node:w1" }] n ∧
      n.backend.registry.find? (Registry.nodeKey "w1") = some ⟨1, 1⟩) ∧
    ∃ n, Runs Act.heard (Act.Respects "w1") watched [{ code := 2, key := "node:w1" }] n ∧
      n.backend.registry.find? (Registry.nodeKey "w1") = none := by
  refine ⟨by decide +kernel, ?_, ?_⟩
  · obtain ⟨n, hruns, hcheck⟩ := runs_speak { code := 1, key := "node:w1" }
      (fun n => n.backend.registry.find? (Registry.nodeKey "w1") = some ⟨1, 1⟩)
      (by decide +kernel)
    exact ⟨n, hruns, of_decide_eq_true hcheck⟩
  · obtain ⟨n, hruns, hcheck⟩ := runs_speak { code := 2, key := "node:w1" }
      (fun n => n.backend.registry.find? (Registry.nodeKey "w1") = none) (by decide +kernel)
    exact ⟨n, hruns, of_decide_eq_true hcheck⟩

end Network
end ControlPlane
