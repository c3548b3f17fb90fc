import ControlPlane.Proofs.Network.Attendance

/-!
# Sockets that are opened

A new socket comes with an inbox and a sink, the actor of its stream, and its reader and its writer
(`Network.furnished`, `Network.staffed`, `Network.openSocket_eq`). So its queues have somebody at
both ends from the start, and they keep them whatever is done in the network, as long as every
stream is left to its socket (`Act.IsBridged`).

Main statement: `Network.IsAttended.perform?`.
-/

set_option autoImplicit false

namespace ControlPlane

/-! ## Acts -/

/-- An act that leaves every stream to its socket: streams are opened for sockets, with room for at
least one item, nobody else receives from their sinks or sends to their inboxes, and services make
no subscriptions of their own. -/
def Act.IsBridged : Act → Prop
  | .openSocket _ capacity => 0 < capacity
  | .ask c => ∀ key sink isHeard, c ≠ .install key sink isHeard
  | .openMessages _ | .openControl .. | .openTelemetry .. => False
  | .submit .. | .endInbox _ | .drain .. | .closeSink _ => False
  | _ => True

namespace Network

variable {n n' : Network} {t u : ActorId} {x y : Actor} {f : Actor → Option Nat} {k : Nat}

/-! ### New actors -/

theorem part?_spawn_self (n : Network) (y : Actor) :
    (n.spawn y).2.part? f n.actors.size = f y := by
  rw [spawn, part?_setActor, if_pos rfl]

theorem part?_spawn (h : n.actors.IsNumbered) (y : Actor) (hu : n.part? f u = some k) :
    (n.spawn y).2.part? f u = some k := by
  rw [spawn, part?_setActor, if_neg]
  · exact hu
  · rintro rfl
    rw [part?, h.find?_size] at hu
    cases hu

theorem eq_or_find?_of_spawn (hx : (n.spawn y).2.actors.find? t = some x) :
    x = y ∨ n.actors.find? t = some x := by
  rw [spawn, setActor, Table.find?_insert] at hx
  split at hx
  · exact .inl (Option.some.inj hx).symm
  · exact .inr hx

theorem AttendsTo.spawn {α : Type} {c : Channel α} {ahead served : Actor → Option Nat}
    (h : n.AttendsTo ahead served k c) (hn : n.actors.IsNumbered) (y : Actor) :
    (n.spawn y).2.AttendsTo ahead served k c :=
  Channel.IsAttended.mono h (fun _ _ hu => part?_spawn hn y hu)
    fun _ ⟨u, hu⟩ => ⟨u, part?_spawn hn y hu⟩

theorem IsAttended.spawn (h : n.IsAttended) (hy : y.IsWired n) : (n.spawn y).2.IsAttended where
  actors := h.actors.extend y
  sinks := h.sinks
  numberedInboxes := h.numberedInboxes
  numberedSockets := h.numberedSockets
  wired u z hz := by
    rcases eq_or_find?_of_spawn hz with rfl | hz
    · exact hy.mono (fun _ => id) (fun _ => id) fun _ => id
    · exact (h.wired u z hz).mono (fun _ => id) (fun _ => id) fun _ => id
  registered := h.registered
  sink s c hc := (h.sink s c hc).spawn h.actors y
  inbox i z hz := (h.inbox i z hz).spawn h.actors y

/-! ### New sockets -/

/-- A new socket with an inbox, a sink and what the services made of them. -/
def furnished (n : Network) (b : Backend) (z : Inbox) (capacity : Nat) : Network :=
  { n with
    backend := b
    inboxes := n.inboxes.insert n.inboxes.size z
    sinks := n.sinks.insert n.sinks.size { capacity }
    sockets := n.sockets.insert n.sockets.size {} }

/-- The actor of a stream, and the reader and the writer of its socket. -/
def staffed (n : Network) (x : Actor) (k : SocketId) (i : InboxId) (s : SinkId) : Network :=
  (((n.spawn x).2.spawn (.reader k i none)).2.spawn (.writer k s (n.spawn x).2.actors.size)).2

theorem find?_staffed {i : InboxId} {s : SinkId}
    (hy : (n.staffed x k i s).actors.find? t = some y) :
    y = .writer k s (n.spawn x).2.actors.size ∨ y = .reader k i none ∨ y = x ∨
      n.actors.find? t = some y :=
  (eq_or_find?_of_spawn hy).imp_right fun hy =>
    (eq_or_find?_of_spawn hy).imp_right eq_or_find?_of_spawn

/-- The actors that are there stay as they are. -/
theorem find?_staffed_of_isSome (h : n.actors.IsNumbered) {i : InboxId} {s : SinkId}
    (ht : (n.actors.find? t).isSome = true) :
    (n.staffed x k i s).actors.find? t = n.actors.find? t := by
  have hfirst := h.find?_extended ht x
  have hsecond := (h.extend x).find?_extended (hfirst ▸ ht) (.reader k i none)
  have hthird := ((h.extend x).extend (.reader k i none)).find?_extended
    ((hsecond.trans hfirst) ▸ ht) (.writer k s (n.spawn x).2.actors.size)
  exact hthird.trans (hsecond.trans hfirst)

theorem size_spawn (h : n.actors.IsNumbered) (y : Actor) :
    (n.spawn y).2.actors.size = n.actors.size + 1 := by
  rw [spawn, setActor, Table.size_insert, h.find?_size]
  rfl

/-- The reader and the writer of a new socket come after the actor of its stream. -/
theorem actors_staffed (h : n.actors.IsNumbered) (x : Actor) (k : SocketId) (i : InboxId)
    (s : SinkId) :
    (n.staffed x k i s).actors = ((n.actors.insert n.actors.size x).insert (n.actors.size + 1)
      (.reader k i none)).insert (n.actors.size + 2) (.writer k s (n.actors.size + 1)) := by
  have hfirst := size_spawn h x
  have hsecond : ((n.spawn x).2.spawn (.reader k i none)).2.actors.size = n.actors.size + 2 := by
    rw [size_spawn (h.extend x), hfirst]
  rw [staffed, spawn, setActor, hsecond, hfirst, spawn, setActor, hfirst]
  rfl

/-- The actor of the stream is there. -/
theorem isSome_staffed (h : n.actors.IsNumbered) (x : Actor) (k : SocketId) (i : InboxId)
    (s : SinkId) : ((n.staffed x k i s).actors.find? n.actors.size).isSome = true := by
  rw [actors_staffed h]
  have hfirst := Option.isSome_of_mem (Table.find?_insert_self n.actors n.actors.size x)
  exact Table.isSome_insert (Table.isSome_insert hfirst)

theorem part?_staffed (hn : n.actors.IsNumbered) (x : Actor) {j : Nat} (i : InboxId) (s : SinkId)
    (hu : n.part? f u = some j) : (n.staffed x k i s).part? f u = some j :=
  part?_spawn ((hn.extend _).extend _) _ (part?_spawn (hn.extend _) _ (part?_spawn hn x hu))

theorem isSome_extended {α : Type} (as : Table Nat α) (a : α) :
    ((as.insert as.size a).find? as.size).isSome = true :=
  Option.isSome_of_mem (Table.find?_insert_self ..)

theorem mem_or_eq_of_insert {α : Type} {as : Table Nat α} {a b : α}
    (h : (as.insert as.size a).find? k = some b) : k = as.size ∧ b = a ∨ as.find? k = some b := by
  rw [Table.find?_insert] at h
  split at h
  next hk => exact .inl ⟨hk.symm, (Option.some.inj h).symm⟩
  next => exact .inr h

/-- A new socket is attended to when its stream has an actor that serves its inbox, or nobody
receives from the inbox in the first place. -/
theorem IsAttended.open (h : n.IsAttended) {b : Backend} {z : Inbox} {capacity : Nat} {x : Actor}
    (hcapacity : 0 < capacity)
    (hb : ∀ key e, b.registry.find? key = some e →
      e.sink = n.sinks.size ∨ (n.sinks.find? e.sink).isSome = true)
    (hx : x.IsWired (n.furnished b z capacity))
    (hz : z.channel = { capacity } ∧ x.inboxServed? = some n.inboxes.size ∨
      z.channel = ({ capacity } : Channel Arrival).close) :
    ((n.furnished b z capacity).staffed x n.sockets.size n.inboxes.size
      n.sinks.size).IsAttended := by
  have hold {f : Actor → Option Nat} {u : ActorId} {j : Nat} (hu : n.part? f u = some j) :
      ((n.furnished b z capacity).staffed x n.sockets.size n.inboxes.size n.sinks.size).part? f u
        = some j :=
    part?_staffed (n := n.furnished b z capacity) h.actors x _ _ hu
  refine ⟨⟨((h.actors.extend _).extend _).extend _, h.sinks.extend _⟩, h.numberedInboxes.extend _,
    h.numberedSockets.extend _, ?_, ?_, ?_, ?_⟩
  · intro u y hy
    rcases find?_staffed hy with rfl | rfl | rfl | hy
    · refine ⟨nofun, ?_, ?_⟩
      · intro s hs
        obtain rfl := List.mem_singleton.mp hs
        exact isSome_extended ..
      · rintro l ⟨⟩
        exact isSome_extended ..
    · refine ⟨?_, nofun, ?_⟩
      · rintro j ⟨⟩
        exact isSome_extended ..
      · rintro l ⟨⟩
        exact isSome_extended ..
    · exact hx.mono (fun _ => id) (fun _ => id) fun _ => id
    · exact (h.wired u y hy).mono (fun _ => Table.isSome_insert) (fun _ => Table.isSome_insert)
        fun _ => Table.isSome_insert
  · intro key e he
    rcases hb key e he with hnew | hthere
    · rw [hnew]
      exact isSome_extended ..
    · exact Table.isSome_insert hthere
  · intro s c hc
    rcases mem_or_eq_of_insert hc with ⟨rfl, rfl⟩ | hc
    · exact Channel.isAttended_new hcapacity ⟨_, part?_spawn_self _ _⟩
    · exact Channel.IsAttended.mono (h.sink s c hc) (fun _ _ hu => hold hu)
        fun _ ⟨u, hu⟩ => ⟨u, hold hu⟩
  · intro i y hy
    rcases mem_or_eq_of_insert hy with ⟨rfl, rfl⟩ | hy
    · -- the inbox is served by the actor of the stream, or is closed
      rcases hz with ⟨hnew, hserved⟩ | hclosed
      · rw [hnew]
        have hactor : (n.furnished b y capacity |>.spawn x).2.part? Actor.inboxServed?
            n.actors.size = some n.inboxes.size := (part?_spawn_self _ x).trans hserved
        exact Channel.isAttended_new hcapacity ⟨n.actors.size,
          part?_spawn ((h.actors.extend _).extend _) _ (part?_spawn (h.actors.extend _) _ hactor)⟩
      · rw [hclosed]
        exact (Channel.isAttended_new hcapacity trivial).close
    · exact Channel.IsAttended.mono (h.inbox i y hy) (fun _ _ hu => hold hu)
        fun _ ⟨u, hu⟩ => ⟨u, hold hu⟩

theorem openSocket_eq (n : Network) (p : Purpose) (capacity : Nat) :
    (n.openSocket p capacity).2 = match p with
      | .messages => (n.furnished n.backend { channel := { capacity } } capacity).staffed
          (.router n.inboxes.size n.sinks.size none) n.sockets.size n.inboxes.size n.sinks.size
      | .telemetry => (n.furnished n.backend { channel := { capacity } } capacity).staffed
          (.collector n.inboxes.size (some n.sinks.size)) n.sockets.size n.inboxes.size n.sinks.size
      | .control key =>
          (n.furnished ((Coordination.install key n.sinks.size).run n.backend).2
            { channel := ({ capacity } : Channel Arrival).close } capacity).staffed
            (.subscriber n.sinks.size n.backend.registry.nextSignal) n.sockets.size n.inboxes.size
            n.sinks.size := by
  cases p with
  | messages => rfl
  | telemetry => rfl
  | control key =>
      have hclose : ((n.setSocket n.sockets.size {}).openStream capacity).2.closeInbox n.inboxes.size
          = { n with
              inboxes := n.inboxes.insert n.inboxes.size
                { channel := ({ capacity } : Channel Arrival).close }
              sinks := n.sinks.insert n.sinks.size { capacity }
              sockets := n.sockets.insert n.sockets.size {} } := by
        simp [closeInbox, openStream, setInbox, setSink, setSocket, Table.find?_insert,
          Table.insert_insert]
      show (((((n.setSocket n.sockets.size {}).openStream capacity).2.closeInbox
        n.inboxes.size).run (Coordination.install key n.sinks.size)).2.staffed
          (.subscriber n.sinks.size ((((n.setSocket n.sockets.size {}).openStream
            capacity).2.closeInbox n.inboxes.size).run
              (Coordination.install key n.sinks.size)).1) n.sockets.size n.inboxes.size
          n.sinks.size) = _
      rw [hclose]
      rfl

namespace IsAttended

theorem openSocket (h : n.IsAttended) (p : Purpose) {capacity : Nat} (hcapacity : 0 < capacity) :
    (n.openSocket p capacity).2.IsAttended := by
  rw [openSocket_eq]
  cases p with
  | messages =>
      refine h.open hcapacity (fun key e he => .inr (h.registered key e he)) ⟨?_, ?_, nofun⟩
        (.inl ⟨rfl, rfl⟩)
      · rintro i ⟨⟩
        exact isSome_extended ..
      · intro s hs
        obtain rfl := List.mem_singleton.mp hs
        exact isSome_extended ..
  | telemetry =>
      refine h.open hcapacity (fun key e he => .inr (h.registered key e he)) ⟨?_, nofun, nofun⟩
        (.inl ⟨rfl, rfl⟩)
      rintro i ⟨⟩
      exact isSome_extended ..
  | control key =>
      refine h.open hcapacity ?_ ⟨nofun, nofun, nofun⟩ (.inr rfl)
      intro l e he
      have hset : ((Coordination.install key n.sinks.size).run n.backend).2.registry.find? l
          = if Registry.nodeKey key = l then some ⟨n.sinks.size, n.backend.registry.nextSignal⟩
            else n.backend.registry.find? l := Registry.find?_set _ _ _ _
      rw [hset] at he
      split at he
      · cases he
        exact .inl rfl
      · exact .inr (h.registered l e he)

theorem ask (h : n.IsAttended) {c : Call} (hc : ∀ key sink isHeard, c ≠ .install key sink isHeard) :
    ({ n with backend := (n.backend.perform c).2 } : Network).IsAttended := by
  apply h.backend
  intro key e he
  have haside (hc : c.IsAside) : (n.sinks.find? e.sink).isSome = true := by
    rw [n.backend.registry_perform hc] at he
    exact h.registered key e he
  cases c with
  | install l sink isHeard => exact absurd rfl (hc l sink isHeard)
  | remove l =>
      rw [show (n.backend.perform (.remove l)).2.registry.find? key = _ from
        Registry.find?_erase _ _ _] at he
      split at he
      · cases he
      · exact h.registered key e he
  | finish signal =>
      rw [show (n.backend.perform (.finish signal)).2.registry.find? key = _ from
        (Registry.leaves_raise key n.backend.registry signal).find] at he
      exact h.registered key e he
  | retain task batch => exact h.registered key e he
  | _ => exact haside trivial

/-- **Every queue stays attended to.** -/
theorem perform? (h : n.IsAttended) {a : Act} (ha : a.IsBridged) (hn : a.perform? n = some n') :
    n'.IsAttended := by
  cases a with
  | step t => exact h.step? hn
  | quit t => exact h.quit? hn
  | openSocket p capacity =>
      cases hn
      exact h.openSocket p ha
  | clientSend socket frame =>
      simp only [Act.perform?, clientSend, Option.bind_eq_bind, Option.bind_eq_some_iff] at hn
      obtain ⟨s, hs, hn⟩ := hn
      split at hn <;> cases hn
      exact h.setSocket hs
  | clientReceive socket =>
      cases hn
      unfold clientReceive
      split
      next => exact h
      next s hs => exact h.setSocket hs
  | clientVanish socket =>
      cases hn
      unfold clientVanish
      split
      next => exact h
      next s hs => exact h.setSocket hs
  | route m =>
      cases hn
      exact h.spawn (Actor.isWired_courier m n)
  | ask c =>
      cases hn
      exact h.ask ha
  | _ => cases ha

end IsAttended
end Network
end ControlPlane
