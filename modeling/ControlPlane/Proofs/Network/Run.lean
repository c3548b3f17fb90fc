import ControlPlane.Proofs.Network.Frame

/-!
# Runs of a network

Everything that happens to a network is an act: an actor takes a step, a peer moves, a message is
given to the network to be routed, or a service that shares the backend makes a call. A run is
any number of acts in any order, so a statement about all runs is one about every interleaving of
the streams. Of each act a *note* may be taken; the notes of a run make its log.

Main statements: an act that is not a step of a routing actor spares what is on its way
(`Network.spares_of_step?`, `Network.spares_of_perform?`), and only steps do to the services what
was not asked of them (`Network.backend_of_perform?`).
-/

set_option autoImplicit false

namespace ControlPlane

/-! ## Acts -/

/-- What can happen to a network. -/
inductive Act where
  /-- An actor takes its next step. -/
  | step (t : ActorId)
  /-- A writer sees the end of its reader before it looks at its sink. -/
  | quit (t : ActorId)
  | openMessages (capacity : Nat)
  | openControl (key : String) (capacity : Nat)
  | openTelemetry (capacity : Nat) (isSinkKept : Bool)
  | openSocket (p : Network.Purpose) (capacity : Nat)
  | submit (i : InboxId) (a : Arrival)
  | endInbox (i : InboxId)
  | drain (s : SinkId) (max : Option Nat)
  | closeSink (s : SinkId)
  | clientSend (socket : SocketId) (f : Frame)
  | clientReceive (socket : SocketId)
  | clientVanish (socket : SocketId)
  /-- A message is to be routed, by an actor of its own. -/
  | route (m : StreamMessage)
  /-- A service that shares the backend makes a call. -/
  | ask (c : Call)

/-- The network after an act, if the act is possible. -/
def Act.perform? (n : Network) : Act → Option Network
  | step t => n.step? t
  | quit t => n.quit? t
  | openMessages capacity => some (n.openMessages capacity).2
  | openControl key capacity => some (n.openControl key capacity).2
  | openTelemetry capacity isSinkKept => some (n.openTelemetry capacity isSinkKept).2
  | openSocket p capacity => some (n.openSocket p capacity).2
  | submit i a => (n.submit i a).toOption
  | endInbox i => some (n.endInbox i)
  | drain s max => some (n.drain s max).2
  | closeSink s => some (n.closeSink s)
  | clientSend socket f => n.clientSend socket f
  | clientReceive socket => some (n.clientReceive socket).2
  | clientVanish socket => some (n.clientVanish socket)
  | route m => some (n.spawn (.courier (.looking m))).2
  | ask c => some { n with backend := (n.backend.perform c).2 }

/-- What an act asks of the services, unless it is a step. -/
def Act.request (n : Network) : Act → Routine Unit
  | openControl key _ => do
      let _ ← Coordination.install key n.sinks.size
  | openSocket (.control key) _ => do
      let _ ← Coordination.install key n.sinks.size
  | ask c => .ask c fun _ => .done ()
  | _ => .done ()

/-! ## Runs -/

/-- Acts of the allowed kinds, one after another, with what was noted of each. -/
inductive Runs {ε : Type} (note : Network → Act → List ε) (allowed : Act → Prop) (n₀ : Network) :
    List ε → Network → Prop
  | start : Runs note allowed n₀ [] n₀
  | act {log : List ε} {n n' : Network} (a : Act) (ha : allowed a) (h : a.perform? n = some n')
      (hruns : Runs note allowed n₀ log n) : Runs note allowed n₀ (log ++ note n a) n'

namespace Runs

variable {ε : Type} {note : Network → Act → List ε} {allowed : Act → Prop}
  {n₀ n n' : Network} {log log' : List ε}

theorem trans (h : Runs note allowed n₀ log n) (h' : Runs note allowed n log' n') :
    Runs note allowed n₀ (log ++ log') n' := by
  induction h' with
  | start => rwa [List.append_nil]
  | act a ha hn _ ih =>
      rw [← List.append_assoc]
      exact ih.act a ha hn

end Runs

/-- Performs acts in order, as long as they are possible. -/
def play {ε : Type} (note : Network → Act → List ε) : List Act → Network → Option (List ε × Network)
  | [], n => some ([], n)
  | a :: as, n => do
      let next ← a.perform? n
      let (log, last) ← play note as next
      return (note n a ++ log, last)

theorem runs_of_play {ε : Type} {note : Network → Act → List ε} {allowed : Act → Prop}
    {as : List Act} {n n' : Network} {log : List ε} (hall : ∀ a ∈ as, allowed a)
    (h : play note as n = some (log, n')) : Runs note allowed n log n' := by
  induction as generalizing n log with
  | nil =>
      cases h
      exact .start
  | cons a as ih =>
      simp only [play, Option.bind_eq_bind, Option.bind_eq_some_iff] at h
      obtain ⟨next, hnext, ⟨rest, last⟩, hrest, h⟩ := h
      obtain ⟨rfl, rfl⟩ : note n a ++ rest = log ∧ last = n' := by simpa using h
      have hfirst : Runs note allowed n (note n a) next :=
        Runs.start.act a (hall a (by simp)) hnext
      exact hfirst.trans (ih (fun b hb => hall b (List.mem_cons_of_mem _ hb)) hrest)

namespace Network

/-! ## Acts that route nothing -/

variable {n n' : Network}

/-- A step of an actor that has nothing on its way and serves no message stream. -/
theorem spares_of_step? {t : ActorId} (hpending : n.pending? t = none)
    (hrouter : ∀ source sink, n.actors.find? t ≠ some (.router source sink none))
    (h : n.step? t = some n') : n.Spares n' := by
  simp only [step?, Option.bind_eq_bind, Option.bind_eq_some_iff] at h
  obtain ⟨x, hx, hstep⟩ := h
  rw [pending?, hx, Option.bind_some] at hpending
  cases x with
  | router source sink pending =>
      obtain rfl : pending = none := hpending
      exact absurd hx (hrouter source sink)
  | courier pending => cases hpending
  | subscriber sink signal => exact spares_subscriberStep? hx hstep
  | collector source sink? => exact spares_collectorStep? hx hstep
  | reader socket inbox held => exact (bypasses_readerStep? hx hstep).toSpares
  | writer socket sink reader => exact (bypasses_writerStep? hx hstep).toSpares
  | ended e => cases hstep

theorem submit_of_perform? {i : InboxId} {a : Arrival} (h : (Act.submit i a).perform? n = some n') :
    n.submit i a = .ok n' := by
  cases hs : n.submit i a with
  | error r => simp [Act.perform?, hs, Except.toOption] at h
  | ok n₁ =>
      obtain rfl : n₁ = n' := by simpa [Act.perform?, hs, Except.toOption] using h
      rfl

/-- What an act does that is no step, both to the messages and to the services. -/
theorem spares_and_backend_of_perform? {a : Act} (hstep : ∀ t, a ≠ .step t)
    (h : a.perform? n = some n') :
    ((∀ m, a ≠ .route m) → n.Spares n') ∧ n'.backend = ((a.request n).run n.backend).2 := by
  -- the acts of a peer that have nothing to do with the services
  have hbypasses (hn : n.Bypasses n') : ((∀ m, a ≠ .route m) → n.Spares n') ∧
      n'.backend = n.backend := ⟨fun _ => hn.toSpares, hn.backend⟩
  cases a with
  | step t => exact absurd rfl (hstep t)
  | quit t => exact hbypasses (bypasses_quit? h)
  | route m =>
      cases h
      exact ⟨fun hroute => absurd rfl (hroute m), rfl⟩
  | openMessages capacity =>
      cases h
      exact hbypasses (n.bypasses_openMessages capacity)
  | openControl key capacity =>
      cases h
      exact ⟨fun _ => n.spares_openControl key capacity, n.backend_openControl key capacity⟩
  | openTelemetry capacity isSinkKept =>
      cases h
      exact hbypasses (n.bypasses_openTelemetry capacity isSinkKept)
  | openSocket p capacity =>
      cases h
      refine ⟨fun _ => n.spares_openSocket p capacity, ?_⟩
      cases p with
      | control key => exact (n.setSocket n.sockets.size {}).backend_openControl key capacity
      | messages => rfl
      | telemetry => rfl
  | submit i a => exact hbypasses (bypasses_submit (submit_of_perform? h))
  | endInbox i =>
      cases h
      exact hbypasses (n.bypasses_endInbox i)
  | drain s max =>
      cases h
      exact hbypasses (n.bypasses_drain s max)
  | closeSink s =>
      cases h
      exact hbypasses (n.bypasses_closeSink s)
  | clientSend socket f => exact hbypasses (bypasses_clientSend h)
  | clientReceive socket =>
      cases h
      exact hbypasses (n.bypasses_clientReceive socket)
  | clientVanish socket =>
      cases h
      exact hbypasses (n.bypasses_clientVanish socket)
  | ask c =>
      cases h
      exact ⟨fun _ => n.spares_backend _, rfl⟩

/-- An act that is no step and gives the network no message to route. -/
theorem spares_of_perform? {a : Act} (hstep : ∀ t, a ≠ .step t) (hroute : ∀ m, a ≠ .route m)
    (h : a.perform? n = some n') : n.Spares n' :=
  (spares_and_backend_of_perform? hstep h).1 hroute

/-- An act that is no step does nothing to the services but what it asks of them. -/
theorem backend_of_perform? {a : Act} (hstep : ∀ t, a ≠ .step t) (h : a.perform? n = some n') :
    n'.backend = ((a.request n).run n.backend).2 :=
  (spares_and_backend_of_perform? hstep h).2

end Network
end ControlPlane
