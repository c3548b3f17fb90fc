import ControlPlane.Proofs.Network.Attendance

/-!
# What is left to do

Every item under way in a network counts for how far it is from being dealt with: what came out of a
socket counts for more than what a reader holds, that for more than what is in an inbox, that for
more than a message on its way, and a message that only has to be written to a socket for least
(`Network.burden`). An actor that takes an item on leaves less to do (`Network.Lightens`).

Main statements: the actors that have an item before them can take it on, unless they have no room
for it (`Network.lightens_of_writer`, `Network.lightens_of_looking`, `Network.lightens_of_writing`,
`Network.lightens_of_loop`, `Network.lightens_of_held`, `Network.lightens_of_inbound`).
-/

set_option autoImplicit false

namespace ControlPlane

/-! ## Sums over tables -/

namespace Table

variable {κ α : Type} [Ord κ]

/-- What the values come to. -/
def total (t : Table κ α) (f : α → Nat) : Nat := t.entries.foldr (fun e n => f e.2 + n) 0

theorem foldr_insertEntry (f : α → Nat) (k : κ) (a b : α) (es : List (κ × α)) :
    (insertEntry k b es).foldr (fun e n => f e.2 + n) 0 + f a
      = (insertEntry k a es).foldr (fun e n => f e.2 + n) 0 + f b := by
  induction es with
  | nil =>
      simp only [insertEntry, List.foldr_cons, List.foldr_nil]
      omega
  | cons hd tl ih =>
      obtain ⟨l, c⟩ := hd
      rw [insertEntry, insertEntry]
      cases compare k l <;> simp only [List.foldr_cons] <;> omega

/-- A value is replaced. -/
theorem total_insert [DecidableEq κ] [Std.TransOrd κ] {t : Table κ α} {k : κ} {a : α}
    (hk : t.find? k = some a) (b : α) (f : α → Nat) :
    (t.insert k b).total f + f a = t.total f + f b :=
  calc (t.insert k b).total f + f a
      = (t.insert k a).total f + f b := foldr_insertEntry f k a b t.entries
    _ = t.total f + f b := by rw [insert_of_find? hk]

end Table

/-! ## The burden of a network -/

/-- What an actor has still to do for what it has on its way. -/
def Actor.burden : Actor → Nat
  | .router _ _ pending => 2 * Network.stage pending
  | .courier pending => 2 * Network.stage (some pending)
  | .reader _ _ held => held.elim 0 fun _ => 6
  | _ => 0

namespace Network

variable {n n' : Network} {t : ActorId} {x y : Actor} {i : InboxId} {z : Inbox} {j : SinkId}
  {c d : Channel StreamMessage} {k : SocketId} {s : Socket}

/-- What is left to do: what is under way counts for less and less until it is dealt with. -/
def burden (n : Network) : Nat :=
  -- 7 in a socket, 6 with its reader, 5 in an inbox, 4 and then 2 on its way, 1 in a sink
  n.actors.total Actor.burden + n.inboxes.total (fun z => 5 * z.channel.queue.length)
    + n.sinks.total (fun c => c.queue.length) + n.sockets.total fun s => 7 * s.inbound.length

theorem burden_setActor (hx : n.actors.find? t = some x) (y : Actor) :
    (n.setActor t y).burden + x.burden = n.burden + y.burden := by
  have htotal := Table.total_insert hx y Actor.burden
  simp only [burden, setActor]
  omega

theorem burden_setInbox (hz : n.inboxes.find? i = some z) (z' : Inbox) :
    (n.setInbox i z').burden + 5 * z.channel.queue.length
      = n.burden + 5 * z'.channel.queue.length := by
  have htotal := Table.total_insert hz z' fun z => 5 * z.channel.queue.length
  simp only [burden, setInbox]
  omega

theorem burden_setSink (hc : n.sinks.find? j = some c) (d : Channel StreamMessage) :
    (n.setSink j d).burden + c.queue.length = n.burden + d.queue.length := by
  have htotal := Table.total_insert hc d fun c => c.queue.length
  simp only [burden, setSink]
  omega

theorem burden_setSocket (hs : n.sockets.find? k = some s) (s' : Socket) :
    (n.setSocket k s').burden + 7 * s.inbound.length = n.burden + 7 * s'.inbound.length := by
  have htotal := Table.total_insert hs s' fun s => 7 * s.inbound.length
  simp only [burden, setSocket]
  omega

theorem burden_closeSink_le (n : Network) (j : SinkId) : (n.closeSink j).burden ≤ n.burden := by
  unfold closeSink
  split
  next c hc =>
    have hset := burden_setSink hc c.close
    have hempty : c.close.queue.length = 0 := rfl
    omega
  next => exact Nat.le_refl _

theorem burden_endInbox_le (n : Network) (i : InboxId) : (n.endInbox i).burden ≤ n.burden := by
  unfold endInbox
  split
  next z hz =>
    have hset := burden_setInbox hz { z with hasSender := false }
    dsimp only at hset
    omega
  next => exact Nat.le_refl _

/-- An actor that ends leaves nothing to do but what is in queues. -/
theorem burden_ended_le (hx : n.actors.find? t = some x) (e : Ending) :
    (n.setActor t (.ended e)).burden ≤ n.burden := by
  have hset := burden_setActor hx (.ended e)
  have hzero : (Actor.ended e).burden = 0 := rfl
  omega

theorem burden_endWriter_le (hx : n.actors.find? t = some x) (j : SinkId) :
    (n.endWriter t j).burden ≤ n.burden :=
  Nat.le_trans (burden_closeSink_le _ j) (burden_ended_le hx .ok)

theorem burden_endReader_le (hx : n.actors.find? t = some x) (i : InboxId) :
    (n.endReader t i).burden ≤ n.burden :=
  Nat.le_trans (burden_endInbox_le _ i) (burden_ended_le hx .ok)

/-! ## Who leaves less to do -/

/-- The actor can take a step that leaves less to do. -/
def Lightens (n : Network) (t : ActorId) : Prop :=
  ∃ n', n.step? t = some n' ∧ n'.burden < n.burden

theorem not_lightens (h : n.step? t = none) : ¬ n.Lightens t := by
  rintro ⟨n', hn, -⟩
  rw [h] at hn
  cases hn

/-- A writer takes what is in its sink. -/
theorem lightens_of_writer {reader : ActorId} (hx : n.actors.find? t = some (.writer k j reader))
    (hs : n.sockets.find? k = some s) (hc : n.sinks.find? j = some c) (hqueue : c.queue ≠ []) :
    n.Lightens t := by
  cases htake : c.take? with
  | none => exact absurd (Channel.take?_eq_none_iff.mp htake) hqueue
  | some p =>
      obtain ⟨m, d⟩ := p
      have htaken : (n.setSink j d).burden < n.burden := by
        have hset := burden_setSink hc d
        rw [Channel.queue_of_take? htake, List.length_cons] at hset
        omega
      cases hwritable : s.isWritable with
      | true =>
          have hstep : n.step? t
              = some ((n.setSink j d).setSocket k (s.write (.ofMessage m))) := by
            simp [step?, hx, writerStep?, hs, hc, htake, hwritable]
          have hset := burden_setSocket (n := n.setSink j d) hs (s.write (.ofMessage m))
          have hsame : (s.write (.ofMessage m)).inbound = s.inbound := rfl
          rw [hsame] at hset
          exact ⟨_, hstep, by omega⟩
      | false =>
          have hstep : n.step? t = some ((n.setSink j d).endWriter t j) := by
            simp [step?, hx, writerStep?, hs, hc, htake, hwritable]
          have hend := burden_endWriter_le (n := n.setSink j d) hx j
          exact ⟨_, hstep, Nat.lt_of_le_of_lt hend htaken⟩

/-- A message is brought on, unless it waits for its destination. -/
theorem burden_routeStep? {r : Routing} {next : Routed} (h : n.routeStep? t r = some (next, n'))
    (hmoves : next.pending? ≠ some r) :
    n'.burden + 2 * stage next.pending? < n.burden + 2 * stage (some r) := by
  have hstage := (stage_of_routeStep? h).resolve_right fun hwaits => hmoves hwaits.1
  cases r with
  | looking m =>
      obtain ⟨l, hl⟩ := run_lookUp n m
      have hsame : n'.burden = n.burden := by
        simp only [routeStep?, hl] at h
        split at h <;> cases h <;> rfl
      omega
  | writing m j =>
      simp only [routeStep?, Option.bind_eq_bind, Option.bind_eq_some_iff] at h
      obtain ⟨c, hc, ⟨w, d⟩, hw, h⟩ := h
      -- the sink has at most one message more
      have hset := burden_setSink hc d
      have hqueue : d.queue.length ≤ c.queue.length + 1 := by
        rw [Channel.queue_of_write? hw]
        split <;> simp
      have hsame : n'.burden = (n.setSink j d).burden := by cases w <;> cases h <;> rfl
      omega

theorem lightens_of_routeStep? {r : Routing} {next : Routed} {n₁ : Network}
    (hr : n.pending? t = some r) (h : n.routeStep? t r = some (next, n₁))
    (hmoves : next.pending? ≠ some r) : n.Lightens t := by
  have hlt := burden_routeStep? h hmoves
  have hactors := (performs_of_routeStep? h).actors
  obtain ⟨x, hx, hpending⟩ := Option.bind_eq_some_iff.mp hr
  have hset (y : Actor) := burden_setActor (hactors ▸ hx) y
  cases x with
  | router source sink pending =>
      obtain rfl : pending = some r := hpending
      have hstep : n.step? t = some (n₁.setActor t (.router source sink next.pending?)) := by
        rw [step?_pending hx, h]
        rfl
      have hset := hset (.router source sink next.pending?)
      simp only [Actor.burden] at hset
      exact ⟨_, hstep, by omega⟩
  | courier pending =>
      obtain rfl : pending = r := Option.some.inj hpending
      cases next with
      | inl rest =>
          have hstep : n.step? t = some (n₁.setActor t (.courier rest)) := by
            simp [step?, hx, courierStep?, h]
          have hset := hset (.courier rest)
          simp only [Actor.burden] at hset
          simp only [Routed.pending?] at hlt
          exact ⟨_, hstep, by omega⟩
      | inr result =>
          have hstep : n.step? t = some (n₁.setActor t (.ended (endingOf result))) := by
            simp [step?, hx, courierStep?, h]
          have hset := hset (.ended (endingOf result))
          simp only [Actor.burden] at hset
          exact ⟨_, hstep, by omega⟩
  | _ => cases hpending

theorem lightens_of_looking {m : StreamMessage} (hr : n.pending? t = some (.looking m)) :
    n.Lightens t := by
  obtain ⟨l, hl⟩ := run_lookUp n m
  cases hfind : n.backend.registry.find? m.receiver with
  | none =>
      have hroute : n.routeStep? t (.looking m)
          = some (.inr (.error (.subscribeNotFound m.receiver)), n.withLedger l) := by
        simp only [routeStep?, hl, hfind, Option.elim_none]
      exact lightens_of_routeStep? hr hroute (by simp [Routed.pending?])
  | some e =>
      have hroute : n.routeStep? t (.looking m)
          = some (.inl (.writing m e.sink), n.withLedger l) := by
        simp only [routeStep?, hl, hfind, Option.elim_some]
      exact lightens_of_routeStep? hr hroute (by simp [Routed.pending?])

/-- A message is put into a sink, unless its actor has to wait. -/
theorem lightens_of_writing {m : StreamMessage} {w : Channel.Write}
    (hr : n.pending? t = some (.writing m j)) (hc : n.sinks.find? j = some c)
    (hw : c.write? t m = some (w, d)) (hne : w ≠ .queued) : n.Lightens t := by
  have hroute : ∃ result n₁, n.routeStep? t (.writing m j) = some (.inr result, n₁) := by
    cases w with
    | queued => exact absurd rfl hne
    | _ => simp [routeStep?, hc, hw]
  obtain ⟨result, n₁, hroute⟩ := hroute
  exact lightens_of_routeStep? hr hroute (by simp [Routed.pending?])

/-- A loop has at most one message on its way. -/
theorem burden_turn_le (l : Loop) (i : InboxId) (next : Router.Next) :
    (l.turn i next).burden ≤ 4 := by
  cases next with
  | receive => cases l <;> exact Nat.zero_le 4
  | route m =>
      cases l with
      | routing sink => exact Nat.le_refl 4
      | telemetry sink? => exact Nat.zero_le 4
  | stop e => exact Nat.zero_le 4

theorem length_leaves_le (next : Router.Next) (z : Inbox) :
    (next.leaves z).channel.queue.length ≤ z.channel.queue.length := by
  cases next with
  | stop e => exact Nat.zero_le _
  | _ => exact Nat.le_refl _

/-- A loop has less on its way for an arrival than the arrival was in its inbox. -/
theorem burden_heed_lt {l : Loop} {a : Arrival} {d : Channel Arrival}
    (hx : n.actors.find? t = some (l.actor i none)) (hz : n.inboxes.find? i = some z)
    (htake : z.channel.take? = some (a, d)) (arrival? : Option Arrival) :
    (n.heed l i t arrival? { z with channel := d }).burden < n.burden := by
  unfold heed
  generalize l.respond n.ingest arrival? n.backend = response
  obtain ⟨next, b⟩ := response
  have hturn := burden_turn_le l i next
  have hleaves := length_leaves_le next { z with channel := d }
  have hactor := burden_setActor (n := { n with backend := b }) hx (l.turn i next)
  have hinbox := burden_setInbox (n := { n with backend := b }.setActor t (l.turn i next)) hz
    (next.leaves { z with channel := d })
  have hsame : ({ n with backend := b } : Network).burden = n.burden := rfl
  rw [Channel.queue_of_take? htake, List.length_cons] at hinbox
  dsimp only at *
  omega

/-- A loop takes what is in its inbox. -/
theorem lightens_of_loop {l : Loop} (hx : n.actors.find? t = some (l.actor i none))
    (hz : n.inboxes.find? i = some z) (hqueue : z.channel.queue ≠ []) : n.Lightens t := by
  cases htake : z.channel.take? with
  | none => exact absurd (Channel.take?_eq_none_iff.mp htake) hqueue
  | some p =>
      obtain ⟨a, d⟩ := p
      have hreceive : z.receive? = some (some a, { z with channel := d }) := by
        simp [Inbox.receive?, htake]
      have hstep : n.step? t = some (n.heed l i t (some a) { z with channel := d }) := by
        rw [step?_actor hx, hz, Option.bind_some, hreceive]
        rfl
      exact ⟨_, hstep, burden_heed_lt hx hz htake (some a)⟩

/-- A reader hands on what it holds, unless it has to wait. -/
theorem lightens_of_held {a : Arrival} {w : Channel.Write} {d : Channel Arrival}
    (hx : n.actors.find? t = some (.reader k i (some a))) (hz : n.inboxes.find? i = some z)
    (hw : z.channel.write? t a = some (w, d)) (hne : w ≠ .queued) : n.Lightens t := by
  -- what was held is in the inbox, or lost
  have hlt {y : Actor} (hy : y.burden = 0) :
      ((n.setInbox i { z with channel := d }).setActor t y).burden < n.burden := by
    have hset := burden_setInbox hz { z with channel := d }
    have hactor := burden_setActor (n := n.setInbox i { z with channel := d }) hx y
    have hheld : (Actor.reader k i (some a)).burden = 6 := rfl
    have hqueue : d.queue.length ≤ z.channel.queue.length + 1 := by
      rw [Channel.queue_of_write? hw]
      split <;> simp
    dsimp only at hset
    omega
  cases a with
  | ok m =>
      have hstep : n.step? t
          = some ((n.setInbox i { z with channel := d }).setActor t (.reader k i none)) := by
        cases w with
        | queued => exact absurd rfl hne
        | _ => simp [step?, hx, readerStep?, hz, hw]
      exact ⟨_, hstep, hlt rfl⟩
  | error e =>
      have hstep : n.step? t = some ((n.setInbox i { z with channel := d }).endReader t i) := by
        cases w with
        | queued => exact absurd rfl hne
        | _ => simp [step?, hx, readerStep?, hz, hw]
      exact ⟨_, hstep, Nat.lt_of_le_of_lt (burden_endInbox_le _ i) (hlt rfl)⟩

/-- A reader that holds nothing reads what its client sent. -/
theorem lightens_of_inbound (hx : n.actors.find? t = some (.reader k i none))
    (hs : n.sockets.find? k = some s) (hinbound : s.inbound ≠ []) : n.Lightens t := by
  cases hitems : s.inbound with
  | nil => exact absurd hitems hinbound
  | cons item rest =>
      have hset (r : Socket) (hr : r.inbound = rest) :
          (n.setSocket k r).burden + 7 = n.burden := by
        have hset := burden_setSocket hs r
        rw [hr, hitems, List.length_cons] at hset
        omega
      have hrest := hset { s with inbound := rest } rfl
      have hnone : (Actor.reader k i none).burden = 0 := rfl
      cases hitem : Reading.of n.frameLimit item with
      | skip =>
          have hstep : n.step? t = some (n.setSocket k { s with inbound := rest }) := by
            simp [step?, hx, readerStep?, hs, hitems, hitem]
          exact ⟨_, hstep, by omega⟩
      | arrival a =>
          have hstep : n.step? t = some ((n.setSocket k { s with inbound := rest }).setActor t
              (.reader k i (some a))) := by
            simp [step?, hx, readerStep?, hs, hitems, hitem]
          have hactor := burden_setActor (n := n.setSocket k { s with inbound := rest }) hx
            (.reader k i (some a))
          have hheld : (Actor.reader k i (some a)).burden = 6 := rfl
          exact ⟨_, hstep, by omega⟩
      | ping data =>
          have hstep : n.step? t = some (n.setSocket k
              ({ s with inbound := rest }.write (.pong data))) := by
            simp [step?, hx, readerStep?, hs, hitems, hitem]
          have hpong := hset ({ s with inbound := rest }.write (.pong data)) rfl
          exact ⟨_, hstep, by omega⟩
      | stop =>
          have hstep : n.step? t
              = some ((n.setSocket k { s with inbound := rest }).endReader t i) := by
            simp [step?, hx, readerStep?, hs, hitems, hitem]
          have hend := burden_endReader_le (n := n.setSocket k { s with inbound := rest }) hx i
          exact ⟨_, hstep, by omega⟩

end Network
end ControlPlane
