import ControlPlane.Proofs.Network.Line
import ControlPlane.Proofs.Network.Mirror

/-!
# Loops over an inbox

The actor of a message stream and the actor of a telemetry stream both take one thing after
another from an inbox until something ends them. What an inbox tells a loop is the messages that
the loop handles, and the failure that it meets then, if it meets one (`Loop.Hears`).

Main statements: a loop that waits for what arrives next does one thing with it
(`Network.step?_actor`), it is ended by the end of its stream or by a message that quits, and by
nothing else (`Loop.ends_iff`), and each step of a loop leaves less for it to do, unless it waits
for a destination (`Network.Hosts.perform?`).
-/

set_option autoImplicit false

namespace ControlPlane

/-- What serves an inbox: the loop of a message stream or that of a telemetry stream. -/
inductive Loop where
  | routing (sink : SinkId)
  | telemetry (sink? : Option SinkId)

namespace Loop

/-- The actor of a loop; only message streams have something on its way. -/
def actor (source : InboxId) : Loop → Option Routing → Actor
  | routing sink, pending => .router source sink pending
  | telemetry sink?, _ => .collector source sink?

/-- What a loop does with what arrives. -/
def respond (l : Loop) (c : IngestConfig) (arrival? : Option Arrival) (b : Backend) :
    Router.Next × Backend :=
  match l with
  | routing sink => (Router.onArrival sink arrival?).run b
  | telemetry _ =>
      let (ending?, b) := (Collector.onArrival c arrival?).run b
      (ending?.elim .receive .stop, b)

/-- What a loop is after that. -/
def turn (l : Loop) (source : InboxId) : Router.Next → Actor
  | .receive => l.actor source none
  | .route m => l.actor source (some (.looking m))
  | .stop e => .ended e

/-! ## Ends -/

/-- A message that ends the loop. -/
def quits : Loop → StreamMessage → Bool
  | routing _, m => m.code? = some .disconnect
  | telemetry _, _ => false

/-- How a loop ends with an error of its stream. -/
def failure : Loop → StreamError → Ending
  | routing _, e => .routing (.transport e)
  | telemetry _, e => .ingest (.transport e)

/-- What a loop counts when it ends with an error. -/
def counter : Loop → Counter
  | routing _ => .subsystemError .routing "transport"
  | telemetry _ => .subsystemError .telemetry "transport"

/-- How a loop ends, with the error that it met. -/
def verdict (l : Loop) (e? : Option StreamError) : Ending := e?.elim .ok l.failure

/-- The backend after a loop ended. -/
def charge (l : Loop) (e? : Option StreamError) (b : Backend) : Backend :=
  e?.elim b fun _ => b.note l.counter

/-- The end of a stream: nobody sends any more, or there was an error, which is kept unless it
means that the stream was ended on purpose. -/
inductive Closes : Option Arrival → Option StreamError → Prop
  | eof : Closes none none
  | cancelled {e : StreamError} (he : e.isCancellation = true) : Closes (some (.error e)) none
  | failed {e : StreamError} (he : e.isCancellation = false) : Closes (some (.error e)) (some e)

/-- What ends a loop, and how. -/
inductive Ends (l : Loop) : Option Arrival → Ending → Prop
  | closed {arrival? : Option Arrival} {e? : Option StreamError} (h : Closes arrival? e?) :
      Ends l arrival? (l.verdict e?)
  | quit {m : StreamMessage} (hm : l.quits m = true) : Ends l (some (.ok m)) .ok

/-- What a loop hears of the items of an inbox: the messages that it handles, the last of which may
quit, and the error that it meets then, if any. Nothing is heard after that. -/
inductive Hears (l : Loop) (hasSender : Bool) :
    List Arrival → List StreamMessage → Option StreamError → Prop
  | eof (h : hasSender = false) : Hears l hasSender [] [] none
  | error {a : Arrival} {rest : List Arrival} {e? : Option StreamError} (h : Closes (some a) e?) :
      Hears l hasSender (a :: rest) [] e?
  | quit {m : StreamMessage} {rest : List Arrival} (hm : l.quits m = true) :
      Hears l hasSender (.ok m :: rest) [m] none
  | handle {m : StreamMessage} {rest : List Arrival} {ms : List StreamMessage}
      {e? : Option StreamError} (hm : l.quits m = false) (h : Hears l hasSender rest ms e?) :
      Hears l hasSender (.ok m :: rest) (m :: ms) e?

variable {l : Loop} {c : IngestConfig} {b : Backend} {m : StreamMessage} {e : Ending}
  {arrival? : Option Arrival} {e? : Option StreamError}

theorem respond_of_closes (h : Closes arrival? e?) :
    l.respond c arrival? b = (.stop (l.verdict e?), l.charge e? b) := by
  cases l with
  | routing sink =>
      cases h with
      | eof => rfl
      | cancelled he => simp only [respond, Router.onArrival, he, if_true]; rfl
      | failed he => simp only [respond, Router.onArrival, he]; rfl
  | telemetry sink? =>
      cases h with
      | eof => rfl
      | cancelled he => simp only [respond, Collector.onArrival, he, if_true]; rfl
      | failed he => simp only [respond, Collector.onArrival, he]; rfl

theorem respond_of_quits (hm : l.quits m = true) : (l.respond c (some (.ok m)) b).1 = .stop .ok := by
  cases l with
  | routing sink =>
      have hcode : m.code? = some .disconnect := of_decide_eq_true hm
      simp only [respond, Router.onArrival, Router.handle, hcode]
      rfl
  | telemetry sink? => cases hm

theorem respond_of_not_quits (hm : l.quits m = false) (e : Ending) :
    (l.respond c (some (.ok m)) b).1 ≠ .stop e := by
  cases l with
  | routing sink =>
      have hcode : m.code? ≠ some .disconnect := of_decide_eq_false hm
      simp only [respond, Router.onArrival, Router.handle]
      split
      next =>
        rw [Routine.run_bind]
        exact fun h => by cases h
      next h => exact absurd h hcode
      next => exact fun h => by cases h
      next => exact fun h => by cases h
  | telemetry sink? =>
      have hrun : ((Collector.onArrival c (some (.ok m))).run b).1 = none := by
        rw [Collector.onArrival, Routine.run_bind]
        rfl
      simp only [respond, hrun]
      exact fun h => by cases h

/-- **What ends a loop**: the end of its stream or a message that quits, and nothing else. -/
theorem ends_iff : (l.respond c arrival? b).1 = .stop e ↔ l.Ends arrival? e := by
  constructor
  · intro h
    have hclosed {a? : Option Arrival} {e? : Option StreamError} (hcloses : Closes a? e?)
        (h : (l.respond c a? b).1 = .stop e) : l.Ends a? e := by
      rw [respond_of_closes hcloses] at h
      cases h
      exact .closed hcloses
    cases arrival? with
    | none => exact hclosed .eof h
    | some arrival =>
        cases arrival with
        | error e' =>
            cases he : e'.isCancellation with
            | true => exact hclosed (.cancelled he) h
            | false => exact hclosed (.failed he) h
        | ok m =>
            cases hm : l.quits m with
            | true =>
                rw [respond_of_quits hm] at h
                cases h
                exact .quit hm
            | false => exact absurd h (respond_of_not_quits hm e)
  · intro h
    cases h with
    | closed hcloses => rw [respond_of_closes hcloses]
    | quit hm => exact respond_of_quits hm

end Loop

/-! ## Inboxes -/

namespace Inbox

/-- Nobody receives from an inbox any more, and nothing is left in it. -/
def IsShut (z : Inbox) : Prop := z.channel.isOpen = false ∧ z.channel.queue = []

def shut (z : Inbox) : Inbox := { z with channel := z.channel.close }

theorem isShut_shut (z : Inbox) : z.shut.IsShut := ⟨rfl, rfl⟩

/-- What an inbox tells a loop. -/
def Tells (z : Inbox) (l : Loop) (ms : List StreamMessage) (e? : Option StreamError) : Prop :=
  l.Hears z.hasSender z.channel.queue ms e?

variable {z : Inbox} {l : Loop} {ms : List StreamMessage} {e? : Option StreamError}

theorem exists_receive?_cons {a : Arrival} {rest : List Arrival}
    (h : z.channel.queue = a :: rest) : ∃ z', z.receive? = some (some a, z') ∧
      z'.channel.queue = rest ∧ z'.hasSender = z.hasSender := by
  have hreceive : z.receive?
      = some (some a, { z with channel := ({ z.channel with queue := rest }).grant }) := by
    simp only [receive?, Channel.take?, h]
  exact ⟨_, hreceive, Channel.queue_grant _, rfl⟩

/-- What a loop receives when it has handled all messages. -/
theorem Tells.last (h : z.Tells l [] e?) :
    ∃ arrival? z', z.receive? = some (arrival?, z') ∧ Loop.Closes arrival? e? := by
  generalize hqueue : z.channel.queue = as at h
  unfold Tells at h
  rw [hqueue] at h
  cases h with
  | eof hsender =>
      exact ⟨none, z, by simp [receive?, Channel.take?, hqueue, hsender], .eof⟩
  | error hcloses =>
      obtain ⟨z', hreceive, -⟩ := exists_receive?_cons hqueue
      exact ⟨_, z', hreceive, hcloses⟩

/-- What a loop receives when it has not. -/
theorem Tells.next {m : StreamMessage} (h : z.Tells l (m :: ms) e?) :
    ∃ z', z.receive? = some (some (.ok m), z') ∧
      (l.quits m = true ∧ ms = [] ∧ e? = none ∨ l.quits m = false ∧ z'.Tells l ms e?) := by
  generalize hqueue : z.channel.queue = as at h
  unfold Tells at h
  rw [hqueue] at h
  cases h with
  | quit hm =>
      obtain ⟨z', hreceive, -⟩ := exists_receive?_cons hqueue
      exact ⟨z', hreceive, .inl ⟨hm, rfl, rfl⟩⟩
  | handle hm hrest =>
      obtain ⟨z', hreceive, hqueue', hsender⟩ := exists_receive?_cons hqueue
      refine ⟨z', hreceive, .inr ⟨hm, ?_⟩⟩
      rwa [Tells, hqueue', hsender]

end Inbox

/-- What is left of an inbox: nobody receives from it when the loop has ended. -/
def Router.Next.leaves : Router.Next → Inbox → Inbox
  | .stop _, z => z.shut
  | _, z => z

theorem Router.Next.leaves_eq {next : Router.Next} (h : ∀ e, next ≠ .stop e) (z : Inbox) :
    next.leaves z = z := by
  cases next with
  | stop e => exact absurd rfl (h e)
  | _ => rfl

namespace Network

variable {n n' : Network} {l : Loop} {s : InboxId} {t : ActorId} {arrival? : Option Arrival}
  {e? : Option StreamError} {ms : List StreamMessage} {p : Option Routing}

/-! ## Receiving -/

/-- The network after a loop has done what it does with what arrived. -/
def heed (n : Network) (l : Loop) (s : InboxId) (t : ActorId) (arrival? : Option Arrival)
    (z : Inbox) : Network :=
  let (next, b) := l.respond n.ingest arrival? n.backend
  ({ n with backend := b }.setActor t (l.turn s next)).setInbox s (next.leaves z)

theorem setActor_of_find? {x : Actor} (hx : n.actors.find? t = some x) : n.setActor t x = n := by
  unfold setActor
  rw [Table.insert_of_find? hx]

theorem run_setInbox {α : Type} (n : Network) (z : Inbox) (r : Routine α) :
    (n.setInbox s z).run r
      = ((r.run n.backend).1, { n.setInbox s z with backend := (r.run n.backend).2 }) := rfl

theorem stop_setInbox (n : Network) (z : Inbox) (e : Ending) :
    (n.setInbox s z).stop t s e = (n.setActor t (.ended e)).setInbox s z.shut := by
  simp only [stop, closeInbox, setActor, setInbox, Table.find?_insert, if_true,
    Table.insert_insert]
  rfl

/-- A loop that waits for what arrives next. -/
theorem step?_actor (hx : n.actors.find? t = some (l.actor s none)) :
    n.step? t
      = ((n.inboxes.find? s).bind Inbox.receive?).map fun r => n.heed l s t r.1 r.2 := by
  cases hi : n.inboxes.find? s with
  | none => cases l <;> simp [step?, hx, Loop.actor, routerStep?, collectorStep?, hi]
  | some i =>
      cases hreceive : i.receive? with
      | none =>
          cases l <;> simp [step?, hx, Loop.actor, routerStep?, collectorStep?, hi, hreceive]
      | some r =>
          obtain ⟨arrival?, z⟩ := r
          -- where the loop goes on as it is, its actor stays as it is
          have hsame (b : Backend) :
              ({ n with backend := b }.setActor t (l.actor s none)).setInbox s z
                = { n.setInbox s z with backend := b } := by
            rw [setActor_of_find? (n := { n with backend := b }) hx]
            rfl
          cases l with
          | routing sink =>
              simp only [step?, hx, Loop.actor, routerStep?, hi, hreceive, Option.bind_eq_bind,
                Option.bind_some, Option.map_some, heed, Loop.respond]
              cases hrun : (Router.onArrival sink arrival?).run n.backend with
              | mk next b =>
                  rw [run_setInbox, hrun]
                  cases next with
                  | receive => exact congrArg some (hsame b).symm
                  | route m => rfl
                  | stop e => exact congrArg some (stop_setInbox { n with backend := b } z e)
          | telemetry sink? =>
              simp only [step?, hx, Loop.actor, collectorStep?, hi, hreceive, Option.bind_eq_bind,
                Option.bind_some, Option.map_some, heed, Loop.respond]
              cases hrun : (Collector.onArrival n.ingest arrival?).run n.backend with
              | mk ending? b =>
                  rw [run_setInbox, hrun]
                  cases ending? with
                  | none => exact congrArg some (hsame b).symm
                  | some e => exact congrArg some (stop_setInbox { n with backend := b } z e)

/-- A loop that has a message on its way. -/
theorem step?_pending {sink : SinkId} {r : Routing}
    (hx : n.actors.find? t = some (.router s sink (some r))) :
    n.step? t
      = (n.routeStep? t r).map fun q => q.2.setActor t (.router s sink q.1.pending?) := by
  simp only [step?, hx, routerStep?, Option.bind_eq_bind, Option.bind_some]
  cases n.routeStep? t r with
  | none => rfl
  | some q =>
      obtain ⟨next, n₁⟩ := q
      cases next <;> rfl

/-! ## Serving -/

theorem Secludes.setActor (hn : n.Secludes s t) (x : Actor) : (n.setActor t x).Secludes s t where
  inbox := hn.inbox
  actor := by rw [actor_setActor]; rfl
  inbox_lt := hn.inbox_lt
  actor_lt := Nat.lt_of_lt_of_le hn.actor_lt (Table.size_le_insert _ _ _)
  alone u y hy hs := by
    rw [Network.setActor, Table.find?_insert] at hy
    split at hy
    next htu => exact htu.symm
    next => exact hn.alone u y hy hs

theorem inbox_setInbox (n : Network) (s : InboxId) (z : Inbox) :
    (n.setInbox s z).inboxes.find? s = some z := by
  rw [setInbox, Table.find?_insert, if_pos rfl]

theorem Secludes.setInbox (hn : n.Secludes s t) (z : Inbox) : (n.setInbox s z).Secludes s t where
  inbox := by rw [inbox_setInbox]; rfl
  actor := hn.actor
  inbox_lt := Nat.lt_of_lt_of_le hn.inbox_lt (Table.size_le_insert _ _ _)
  actor_lt := hn.actor_lt
  alone := hn.alone

theorem Secludes.backend (hn : n.Secludes s t) (b : Backend) :
    ({ n with backend := b } : Network).Secludes s t :=
  hn.passes (.of_eq rfl rfl)

/-- A loop serves an inbox that tells it something, and may have a message on its way. -/
structure Hosts (n : Network) (l : Loop) (s : InboxId) (t : ActorId) (p : Option Routing)
    (ms : List StreamMessage) (e? : Option StreamError) : Prop where
  secludes : n.Secludes s t
  actor : n.actors.find? t = some (l.actor s p)
  pending : n.pending? t = p
  tells : ∃ z, n.inboxes.find? s = some z ∧ z.Tells l ms e?

theorem Hosts.passes (h : n.Hosts l s t p ms e?) (hpasses : Passes s t n n') :
    n'.Hosts l s t p ms e? where
  secludes := h.secludes.passes hpasses
  actor := hpasses.actor.trans h.actor
  pending := by rw [pending?, hpasses.actor, ← pending?, h.pending]
  tells := by
    obtain ⟨z, hz, htells⟩ := h.tells
    exact ⟨z, hpasses.inbox.trans hz, htells⟩

theorem Hosts.ne_writer (h : n.Hosts l s t p ms e?) (socket : SocketId) (sink : SinkId)
    (reader : ActorId) : n.actors.find? t ≠ some (.writer socket sink reader) := by
  rw [h.actor]
  cases l <;> simp [Loop.actor]

/-- Only a message stream has something on its way. -/
theorem Hosts.exists_sink {r : Routing} (h : n.Hosts l s t (some r) ms e?) :
    ∃ sink, l = .routing sink := by
  cases l with
  | routing sink => exact ⟨sink, rfl⟩
  | telemetry sink? =>
      have hpending := h.pending
      rw [pending?, h.actor] at hpending
      cases hpending

/-- A loop before it has received anything. -/
theorem Secludes.hosts_setInbox (hn : n.Secludes s t)
    (hx : n.actors.find? t = some (l.actor s none)) {z : Inbox} (hz : z.Tells l ms e?) :
    (n.setInbox s z).Hosts l s t none ms e? where
  secludes := hn.setInbox z
  actor := hx
  pending := by
    show (n.actors.find? t).bind Actor.pending? = none
    rw [hx]
    cases l <;> rfl
  tells := ⟨z, inbox_setInbox n s z, hz⟩

/-- How far a message on its way is from being dealt with. -/
def stage : Option Routing → Nat
  | none => 0
  | some (.looking _) => 2
  | some (.writing ..) => 1

/-- What a loop has still to do. -/
def work (p : Option Routing) (ms : List StreamMessage) : Nat := 3 * ms.length + stage p

theorem stage_le (p : Option Routing) : stage p ≤ 2 := by
  unfold stage
  split <;> decide

theorem work_lt {p p' : Option Routing} {m : StreamMessage} : work p ms < work p' (m :: ms) := by
  have hstage := stage_le p
  simp only [work, List.length_cons]
  omega

/-- A step about a message brings it on, unless it waits for its destination. -/
theorem stage_of_routeStep? {r : Routing} {next : Routed}
    (h : n.routeStep? t r = some (next, n')) :
    stage next.pending? < stage (some r) ∨
      next.pending? = some r ∧ ∃ m i, r = .writing m i := by
  have hmoves := (performs_of_routeStep? h).moves
  cases hd : n.attempt t r with
  | none =>
      rw [hd] at hmoves
      cases r with
      | looking m => cases hd
      | writing m i => exact .inr ⟨hmoves, m, i, rfl⟩
  | some d =>
      rw [hd] at hmoves
      have hmoves : d.Moves (some r) next.pending? := hmoves
      generalize next.pending? = rest at hmoves
      left
      cases hmoves <;> simp [stage]

theorem waits_of_routeStep? {r : Routing} (hr : n.pending? t = some r)
    (h : n.routeStep? t r = none) : n.Waits t := by
  cases r with
  | looking m =>
      obtain ⟨b, hb⟩ := run_lookUp n m
      simp only [routeStep?, hb] at h
      split at h <;> cases h
  | writing m i =>
      refine ⟨m, i, hr, ?_⟩
      intro c hc
      rw [← Channel.write?_eq_none_iff (a := m)]
      cases hw : c.write? t m with
      | none => rfl
      | some q =>
          obtain ⟨w, d⟩ := q
          simp only [routeStep?, hc, hw, Option.bind_eq_bind, Option.bind_some] at h
          cases w <;> cases h

/-- A loop takes every step but that for which it waits in a line. -/
theorem Hosts.waits (h : n.Hosts l s t p ms e?) (hstep : n.step? t = none) : n.Waits t := by
  cases p with
  | none =>
      obtain ⟨z, hz, htells⟩ := h.tells
      have hreceive : ∃ r, z.receive? = some r := by
        cases ms with
        | nil =>
            obtain ⟨arrival?, z', hreceive, -⟩ := htells.last
            exact ⟨_, hreceive⟩
        | cons m ms =>
            obtain ⟨z', hreceive, -⟩ := htells.next
            exact ⟨_, hreceive⟩
      obtain ⟨r, hreceive⟩ := hreceive
      simp [step?_actor h.actor, hz, hreceive] at hstep
  | some r =>
      obtain ⟨sink, rfl⟩ := h.exists_sink
      rw [step?_pending h.actor, Option.map_eq_none_iff] at hstep
      exact waits_of_routeStep? h.pending hstep

theorem actor_heed (n : Network) (l : Loop) (s : InboxId) (t : ActorId)
    (arrival? : Option Arrival) (z : Inbox) :
    (n.heed l s t arrival? z).actors.find? t
      = some (l.turn s (l.respond n.ingest arrival? n.backend).1) :=
  actor_setActor _ t _

theorem Secludes.heed (hn : n.Secludes s t) (l : Loop) (arrival? : Option Arrival) (z : Inbox) :
    (n.heed l s t arrival? z).Secludes s t :=
  ((hn.backend _).setActor _).setInbox _

/-- What becomes of a loop that goes on. -/
theorem exists_turn {next : Router.Next} (l : Loop) (s : InboxId) (h : ∀ e, next ≠ .stop e) :
    ∃ p, l.turn s next = l.actor s p ∧ (l.turn s next).pending? = p := by
  cases next with
  | receive => cases l <;> exact ⟨none, rfl, rfl⟩
  | route m =>
      cases l with
      | routing sink => exact ⟨some (.looking m), rfl, rfl⟩
      | telemetry sink? => exact ⟨none, rfl, rfl⟩
  | stop e => exact absurd rfl (h e)

/-- A message that does not quit is handled, and the rest is still to be heard. -/
theorem Secludes.hosts_heed (hn : n.Secludes s t) {m : StreamMessage} {z : Inbox}
    (hm : l.quits m = false) (hz : z.Tells l ms e?) :
    ∃ p, (n.heed l s t (some (.ok m)) z).Hosts l s t p ms e? := by
  have hgoes := l.respond_of_not_quits (c := n.ingest) (b := n.backend) hm
  obtain ⟨p, hturn, hpending⟩ := exists_turn l s hgoes
  have hactor := n.actor_heed l s t (some (.ok m)) z
  refine ⟨p, hn.heed l _ z, hactor.trans (congrArg some hturn), ?_, z, ?_, hz⟩
  · rw [pending?, hactor, Option.bind_some, hpending]
  · rw [Network.heed, inbox_setInbox, Router.Next.leaves_eq hgoes]

/-- A loop that heard all that it had to hear has ended. -/
structure Concludes (n : Network) (l : Loop) (s : InboxId) (t : ActorId)
    (e? : Option StreamError) : Prop where
  secludes : n.Secludes s t
  actor : n.actors.find? t = some (.ended (l.verdict e?))
  shut : ∃ z, n.inboxes.find? s = some z ∧ z.IsShut

theorem Secludes.concludes_heed (hn : n.Secludes s t) {z : Inbox}
    (h : (l.respond n.ingest arrival? n.backend).1 = .stop (l.verdict e?)) :
    (n.heed l s t arrival? z).Concludes l s t e? where
  secludes := hn.heed l arrival? z
  actor := by rw [actor_heed, h, Loop.turn]
  shut := ⟨z.shut, by rw [Network.heed, inbox_setInbox, h, Router.Next.leaves], z.isShut_shut⟩

/-- A message is brought on. -/
theorem Hosts.routed {sink : SinkId} {r : Routing} {next : Routed} {n₁ : Network}
    (h : n.Hosts (.routing sink) s t (some r) ms e?)
    (hroute : n.routeStep? t r = some (next, n₁)) :
    (n₁.setActor t (.router s sink next.pending?)).Hosts (.routing sink) s t next.pending? ms e? := by
  have hhosts := h.passes (passes_routeStep? hroute)
  refine ⟨hhosts.secludes.setActor _, actor_setActor _ t _, ?_, hhosts.tells⟩
  rw [pending?_setActor, if_pos rfl]
  rfl

/-- **One step of a loop**: it ends, or it leaves less to do, unless it waits for a
destination. -/
theorem Hosts.step? (h : n.Hosts l s t p ms e?) (hstep : n.step? t = some n') :
    n'.Concludes l s t e? ∨ ∃ p' ms', n'.Hosts l s t p' ms' e? ∧
      (work p' ms' < work p ms ∨ p' = p ∧ ms' = ms ∧ ∃ m i, p = some (.writing m i)) := by
  cases p with
  | none =>
      obtain ⟨z, hz, htells⟩ := h.tells
      rw [step?_actor h.actor, hz, Option.bind_some] at hstep
      cases ms with
      | nil =>
          obtain ⟨arrival?, z', hreceive, hcloses⟩ := htells.last
          rw [hreceive] at hstep
          cases hstep
          exact .inl (h.secludes.concludes_heed (by rw [Loop.respond_of_closes hcloses]))
      | cons m ms =>
          obtain ⟨z', hreceive, ⟨hm, -, rfl⟩ | ⟨hm, htells'⟩⟩ := htells.next
          · rw [hreceive] at hstep
            cases hstep
            exact .inl (h.secludes.concludes_heed (Loop.respond_of_quits hm))
          · rw [hreceive] at hstep
            cases hstep
            obtain ⟨p', hhosts⟩ := h.secludes.hosts_heed hm htells'
            exact .inr ⟨p', ms, hhosts, .inl work_lt⟩
  | some r =>
      obtain ⟨sink, rfl⟩ := h.exists_sink
      rw [step?_pending h.actor, Option.map_eq_some_iff] at hstep
      obtain ⟨⟨next, n₁⟩, hroute, rfl⟩ := hstep
      refine .inr ⟨next.pending?, ms, h.routed hroute, ?_⟩
      rcases stage_of_routeStep? hroute with hlt | ⟨hsame, m, i, rfl⟩
      · exact .inl (Nat.add_lt_add_left hlt _)
      · exact .inr ⟨hsame, rfl, m, i, rfl⟩

/-- **One act**, by whomever: the loop ends, or it has less to do, or as much as before if this
was not its act or it waits for a destination. -/
theorem Hosts.perform? (h : n.Hosts l s t p ms e?) {a : Act} (ha : a.Avoids s)
    (hperform : a.perform? n = some n') :
    n'.Concludes l s t e? ∨ ∃ p' ms', n'.Hosts l s t p' ms' e? ∧
      (work p' ms' < work p ms ∨
        p' = p ∧ ms' = ms ∧ (a = .step t → ∃ m i, p = some (.writing m i))) := by
  by_cases hstep : a = .step t
  · subst hstep
    rcases h.step? hperform with hends | ⟨p', ms', hhosts, hlt | ⟨hp, hms, hwriting⟩⟩
    · exact .inl hends
    · exact .inr ⟨p', ms', hhosts, .inl hlt⟩
    · exact .inr ⟨p', ms', hhosts, .inr ⟨hp, hms, fun _ => hwriting⟩⟩
  · have hpasses := h.secludes.passes_perform? h.ne_writer ha hstep hperform
    exact .inr ⟨p, ms, h.passes hpasses, .inr ⟨rfl, rfl, fun heq => absurd heq hstep⟩⟩

theorem Concludes.passes (h : n.Concludes l s t e?) (hpasses : Passes s t n n') :
    n'.Concludes l s t e? where
  secludes := h.secludes.passes hpasses
  actor := hpasses.actor.trans h.actor
  shut := by
    obtain ⟨z, hz, hshut⟩ := h.shut
    exact ⟨z, hpasses.inbox.trans hz, hshut⟩

end Network
end ControlPlane
