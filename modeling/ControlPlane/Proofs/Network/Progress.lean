import ControlPlane.Proofs.Network.Burden
import ControlPlane.Proofs.Network.Delivery
import ControlPlane.Proofs.Network.Opening
import ControlPlane.Proofs.Network.Reachability

/-!
# Streams do not lock each other up

The actors of several sockets may send to each other, and to themselves, in any pattern, and each
may find the queue full that it wants to write to. A network in which no actor can take a step that
leaves less to do is nevertheless one in which nothing is left to do: who cannot write stands in line
at a queue that is full and open, or has to go there, and somebody else can take from it or use the
slot that he was given.

Main statement: as long as there is something to do, somebody can take a step that leaves less to do
(`Network.exists_step_of_runs`), whatever the streams and clients of a network did before and
whichever writers left their sinks when their readers had ended.
-/

set_option autoImplicit false

namespace ControlPlane

/-! ## Work -/

/-- There is something for an actor to do, whether or not it can do it now. -/
def Actor.HasWork (n : Network) : Actor → Prop
  | .router source _ pending =>
      pending ≠ none ∨ ∃ z, n.inboxes.find? source = some z ∧ z.channel.queue ≠ []
  | .courier _ => True
  | .collector source _ => ∃ z, n.inboxes.find? source = some z ∧ z.channel.queue ≠ []
  | .reader socket _ held =>
      held ≠ none ∨ ∃ s, n.sockets.find? socket = some s ∧ s.inbound ≠ []
  | .writer _ sink _ => ∃ c, n.sinks.find? sink = some c ∧ c.queue ≠ []
  | .subscriber .. | .ended _ => False

namespace Network

/-- An arrival or a frame has not been dealt with, or a message has not been written. -/
def HasWork (n : Network) : Prop := ∃ t x, n.actors.find? t = some x ∧ x.HasWork n

/-- There is no stream yet, and nobody is registered. -/
structure IsVacant (n : Network) : Prop where
  actors : n.actors = .empty
  sinks : n.sinks = .empty
  inboxes : n.inboxes = .empty
  sockets : n.sockets = .empty
  registry : ∀ key, n.backend.registry.find? key = none

variable {n n₀ : Network} {t u : ActorId}

theorem IsVacant.isAttended (h : n.IsVacant) : n.IsAttended where
  actors := h.actors ▸ Table.isNumbered_empty
  sinks := h.sinks ▸ Table.isNumbered_empty
  numberedInboxes := h.inboxes ▸ Table.isNumbered_empty
  numberedSockets := h.sockets ▸ Table.isNumbered_empty
  wired t x hx := by
    rw [h.actors] at hx
    cases hx
  registered key e he := by
    rw [h.registry key] at he
    cases he
  sink s c hc := by
    rw [h.sinks] at hc
    cases hc
  inbox i z hz := by
    rw [h.inboxes] at hz
    cases hz

/-! ## Networks in which nobody gets on -/

/-- No actor can take a step that leaves less to do. -/
def IsStill (n : Network) : Prop := ∀ t, ¬ n.Lightens t

namespace IsAttended

theorem empty_of_writer (h : n.IsAttended) (hstill : n.IsStill) {socket : SocketId} {i : SinkId}
    {reader : ActorId} {c : Channel StreamMessage}
    (hx : n.actors.find? t = some (.writer socket i reader)) (hc : n.sinks.find? i = some c) :
    c.queue = [] := by
  obtain ⟨s, hs⟩ := Option.isSome_iff_exists.mp ((h.wired t _ hx).socket socket rfl)
  exact Decidable.byContradiction fun hqueue => hstill t (lightens_of_writer hx hs hc hqueue)

/-- A sink that is open has a writer. -/
theorem queue_of_open (h : n.IsAttended) (hstill : n.IsStill) {s : SinkId}
    {c : Channel StreamMessage} (hc : n.sinks.find? s = some c) (hopen : c.isOpen = true) :
    c.queue = [] := by
  obtain ⟨t, ht⟩ := (h.sink s c hc).served hopen
  obtain ⟨x, hx, hserved⟩ := Option.bind_eq_some_iff.mp ht
  cases x with
  | writer socket sink reader =>
      obtain rfl : sink = s := Option.some.inj hserved
      exact h.empty_of_writer hstill hx hc
  | _ => cases hserved

/-- Who has a message on its way cannot put it into the sink where it is to go. -/
theorem isBlocked_of_pending (h : n.IsAttended) (hstill : n.IsStill) {r : Routing}
    (hr : n.pending? t = some r) :
    ∃ m s c, r = .writing m s ∧ n.sinks.find? s = some c ∧ c.IsBlocked t m := by
  cases r with
  | looking m => exact absurd (lightens_of_looking hr) (hstill t)
  | writing m s =>
      obtain ⟨x, hx, hpending⟩ := Option.bind_eq_some_iff.mp hr
      have hmem : s ∈ x.sinks := by
        have hahead : x.sinkAhead? = some s := by
          rw [Actor.sinkAhead?, hpending]
          rfl
        cases x with
        | router source sink pending =>
            exact List.mem_cons_of_mem _ (Option.mem_toList.mpr hahead)
        | courier pending => exact Option.mem_toList.mpr hahead
        | _ => cases hpending
      obtain ⟨c, hc⟩ := Option.isSome_iff_exists.mp ((h.wired t x hx).sink s hmem)
      refine ⟨m, s, c, rfl, hc, fun w d hw => ?_⟩
      exact Decidable.byContradiction fun hne => hstill t (lightens_of_writing hr hc hw hne)

/-- Nobody has a message on its way: who waits for a sink waits for its writer, or for somebody who
was given a slot. -/
theorem pending?_eq_none (h : n.IsAttended) (hstill : n.IsStill) (t : ActorId) :
    n.pending? t = none := by
  cases hr : n.pending? t with
  | none => rfl
  | some r =>
      exfalso
      obtain ⟨m, s, c, rfl, hc, hblocked⟩ := h.isBlocked_of_pending hstill hr
      have hattended := h.sink s c hc
      obtain ⟨hopen, hqueue | ⟨u, hu⟩⟩ := hattended.exists_of_isBlocked hblocked
      · exact hqueue (h.queue_of_open hstill hc hopen)
      · -- who was given a slot does not wait
        have hwaits := hattended.waits u (List.mem_append_left _ hu)
        obtain ⟨y, hy, hahead⟩ := Option.bind_eq_some_iff.mp hwaits
        obtain ⟨r', hr', hsink⟩ := Option.bind_eq_some_iff.mp hahead
        have hpending : n.pending? u = some r' := by rw [pending?, hy, Option.bind_some, hr']
        obtain ⟨m', s', c', rfl, hc', hblocked'⟩ := h.isBlocked_of_pending hstill hpending
        obtain rfl : s' = s := Option.some.inj hsink
        obtain rfl : c' = c := Option.some.inj (hc'.symm.trans hc)
        exact hblocked'.not_isReady (.inl hu)

theorem queue_of_served (h : n.IsAttended) (hstill : n.IsStill) {x : Actor} {i : InboxId}
    {z : Inbox} (hx : n.actors.find? t = some x) (hserved : x.inboxServed? = some i)
    (hz : n.inboxes.find? i = some z) : z.channel.queue = [] := by
  -- a loop would take what is in its inbox
  have hloop {l : Loop} (hx : n.actors.find? t = some (l.actor i none)) : z.channel.queue = [] :=
    Decidable.byContradiction fun hqueue => hstill t (lightens_of_loop hx hz hqueue)
  cases x with
  | router source sink pending =>
      obtain rfl : source = i := Option.some.inj hserved
      have hpending := h.pending?_eq_none hstill t
      rw [pending?, hx] at hpending
      obtain rfl : pending = none := hpending
      exact hloop (l := .routing sink) hx
  | collector source sink? =>
      obtain rfl : source = i := Option.some.inj hserved
      exact hloop (l := .telemetry sink?) hx
  | _ => cases hserved

/-- A reader that holds something cannot put it into its inbox. -/
theorem isBlocked_of_held (h : n.IsAttended) (hstill : n.IsStill) {socket : SocketId} {i : InboxId}
    {a : Arrival} (hx : n.actors.find? t = some (.reader socket i (some a))) :
    ∃ z, n.inboxes.find? i = some z ∧ z.channel.IsBlocked t a := by
  obtain ⟨z, hz⟩ := Option.isSome_iff_exists.mp ((h.wired t _ hx).inbox i rfl)
  refine ⟨z, hz, fun w d hw => ?_⟩
  exact Decidable.byContradiction fun hne => hstill t (lightens_of_held hx hz hw hne)

/-- No reader holds anything: who waits for an inbox waits for the loop that serves it, or for
somebody who was given a slot. -/
theorem held_eq_none (h : n.IsAttended) (hstill : n.IsStill) {socket : SocketId} {i : InboxId}
    {held : Option Arrival} (hx : n.actors.find? t = some (.reader socket i held)) :
    held = none := by
  cases held with
  | none => rfl
  | some a =>
      exfalso
      obtain ⟨z, hz, hblocked⟩ := h.isBlocked_of_held hstill hx
      have hattended := h.inbox i z hz
      obtain ⟨hopen, hqueue | ⟨u, hu⟩⟩ := hattended.exists_of_isBlocked hblocked
      · obtain ⟨v, hv⟩ := hattended.served hopen
        obtain ⟨y, hy, hserved⟩ := Option.bind_eq_some_iff.mp hv
        exact hqueue (h.queue_of_served hstill hy hserved hz)
      · have hwaits := hattended.waits u (List.mem_append_left _ hu)
        obtain ⟨y, hy, hahead⟩ := Option.bind_eq_some_iff.mp hwaits
        unfold Actor.inboxAhead? at hahead
        split at hahead
        next socket' j b =>
          obtain rfl : j = i := Option.some.inj hahead
          obtain ⟨z', hz', hblocked'⟩ := h.isBlocked_of_held hstill hy
          obtain rfl : z' = z := Option.some.inj (hz'.symm.trans hz)
          exact hblocked'.not_isReady (.inl hu)
        next => cases hahead

/-- **Where nobody gets on, nothing is left to do.** -/
theorem not_hasWork (h : n.IsAttended) (hstill : n.IsStill) : ¬ n.HasWork := by
  rintro ⟨t, x, hx, hwork⟩
  have hpending := h.pending?_eq_none hstill t
  rw [pending?, hx, Option.bind_some] at hpending
  cases x with
  | router source sink pending =>
      rcases hwork with hne | ⟨z, hz, hne⟩
      · exact hne hpending
      · exact hne (h.queue_of_served hstill hx rfl hz)
  | courier pending => cases hpending
  | subscriber sink signal => exact hwork
  | collector source sink? =>
      obtain ⟨z, hz, hne⟩ := hwork
      exact hne (h.queue_of_served hstill hx rfl hz)
  | reader socket i held =>
      obtain rfl := h.held_eq_none hstill hx
      rcases hwork with hne | ⟨s, hs, hne⟩
      · exact hne rfl
      · exact hstill t (lightens_of_inbound hx hs hne)
  | writer socket sink reader =>
      obtain ⟨c, hc, hne⟩ := hwork
      exact hne (h.empty_of_writer hstill hx hc)
  | ended e => exact hwork

end IsAttended

/-! ## Runs -/

section Runs

variable {ε : Type} {note : Network → Act → List ε} {log : List ε}

theorem IsVacant.attended_of_runs (h₀ : n₀.IsVacant) (h : Runs note Act.IsBridged n₀ log n) :
    n.IsAttended := by
  induction h with
  | start => exact h₀.isAttended
  | act a ha hn _ ih => exact ih.perform? ha hn

/-- **Streams do not lock each other up.** Whatever happened on the sockets of a network, as long
as an arrival or a frame has not been dealt with, or a message has not been written, some actor can
take a step that leaves less to do, so that it neither waits nor goes round in circles. -/
theorem exists_step_of_runs (h₀ : n₀.IsVacant) (h : Runs note Act.IsBridged n₀ log n)
    (hwork : n.HasWork) : ∃ t n', n.step? t = some n' ∧ n'.burden < n.burden :=
  Classical.byContradiction fun hnone =>
    (h₀.attended_of_runs h).not_hasWork (not_exists.mp hnone) hwork

end Runs

/-! ### Sending to oneself -/

/-- A client connects a key and sends to it, on a socket whose queues hold one message each. Then
the stream stands in line for its own sink, and the reader for the inbox of the stream. -/
def monologue : List Act :=
  [.openSocket .messages 1, .clientSend 0 (.ofMessage (.connect "a")),
    .clientSend 0 (.ofMessage (.send "a" "a" [1])), .clientSend 0 (.ofMessage (.send "a" "a" [2])),
    .clientSend 0 (.ofMessage (.send "a" "a" [3])), .clientSend 0 (.ofMessage (.send "a" "a" [4])),
    .step 1, .step 1, .step 0,
    .step 1, .step 1, .step 0, .step 0, .step 0,
    .step 1, .step 1, .step 0, .step 0, .step 0,
    .step 1, .step 1, .step 1, .step 1]

/-- Another client connects a key, a message is sent to it, and it closes its socket. Its writer
sees that the reader has ended before it looks at its sink. -/
def departure : List Act :=
  [.openSocket .messages 1, .clientSend 1 (.ofMessage (.connect "b")), .step 4, .step 4, .step 3,
    .route (.send "a" "b" [5]), .step 6, .step 6,
    .clientSend 1 .close, .step 4, .quit 5]

def monologueLog : List (ActorId × Deed) :=
  [(0, .accepted (.send "a" "a" [1])), (0, .lookedUp (.send "a" "a" [1]) (some 0)),
    (0, .placed (.send "a" "a" [1]) 0), (0, .accepted (.send "a" "a" [2])),
    (0, .lookedUp (.send "a" "a" [2]) (some 0)),
    (6, .accepted (.send "a" "b" [5])), (6, .lookedUp (.send "a" "b" [5]) (some 1)),
    (6, .placed (.send "a" "b" [5]) 1)]

/-- The stream and the reader of a client that sends to itself wait, another writer has left a
message in its sink, and somebody can get on. -/
theorem exists_step_monologue : ∃ n₀ n : Network, n₀.IsVacant ∧
    Runs Act.deeds Act.IsBridged n₀ monologueLog n ∧
    n.HasWork ∧ n.step? 0 = none ∧ n.step? 1 = none ∧
    n.ending? 5 = some .ok ∧ (n.sockets.find? 1).map Socket.outbound = some [] ∧
    ∃ t n', n.step? t = some n' ∧ n'.burden < n.burden := by
  let n₀ : Network := { vacant with frameLimit := 256 }
  have hvacant : n₀.IsVacant := ⟨rfl, rfl, rfl, rfl, fun _ => rfl⟩
  have hcheck : (play Act.deeds (monologue ++ departure) n₀).any (fun p =>
      p.1 = monologueLog && (p.2.pending? 0).isSome && (p.2.step? 0).isNone
      && (p.2.step? 1).isNone && p.2.ending? 5 = some .ok
      && (p.2.sockets.find? 1).map Socket.outbound = some []) = true := by
    decide +kernel
  obtain ⟨⟨log, n⟩, hplay, hchecked⟩ := (Option.any_eq_true _ _).mp hcheck
  simp only [Bool.and_eq_true, decide_eq_true_eq, Option.isNone_iff_eq_none] at hchecked
  obtain ⟨⟨⟨⟨⟨rfl, hpending⟩, hstream⟩, hreader⟩, hleft⟩, hunwritten⟩ := hchecked
  have hbridged : ∀ a ∈ monologue ++ departure, a.IsBridged := by
    simp [monologue, departure, Act.IsBridged]
  have hruns := runs_of_play hbridged hplay
  -- what is on its way is something to do
  have hwork : n.HasWork := by
    obtain ⟨r, hr⟩ := Option.isSome_iff_exists.mp hpending
    obtain ⟨x, hx, hxr⟩ := Option.bind_eq_some_iff.mp hr
    refine ⟨0, x, hx, ?_⟩
    cases x with
    | router source sink pending =>
        obtain rfl : pending = some r := hxr
        exact .inl (Option.some_ne_none r)
    | courier pending => trivial
    | _ => cases hxr
  exact ⟨n₀, n, hvacant, hruns, hwork, hstream, hreader, hleft, hunwritten,
    exists_step_of_runs hvacant hruns hwork⟩

end Network
end ControlPlane
