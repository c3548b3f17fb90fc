import ControlPlane.Proofs.Metrics.Services
import ControlPlane.Proofs.Network.Delivery
import ControlPlane.Proofs.Network.Separation
import ControlPlane.Proofs.Telemetry.Stream
import Mathlib.Algebra.BigOperators.Group.List.Basic

/-!
# The metrics account for everything that is done

A master is used by *operations*, one at a time: a service is called, a request is answered, a
stream or a peer moves, time passes. The entry of an operation (`Operation.entry`) says what it
came to without a look at the ledger: by its answer, by the records before and after it, by which
actors were done with a message, and by how much the queues grew. The account of a run is the sum
of the entries of its operations.

Main statement: after every run the ledger reads as the account of the run, and the gauge of
subscriptions shows the size of the registry (`Network.isAccounted_of_operates`).
-/

set_option autoImplicit false

namespace ControlPlane

/-! ## What a network shows -/

namespace Network

/-- The actors that had a message on its way and have none any more. -/
def concluded (n n' : Network) : List ActorId :=
  n.actors.keys.filter fun t => (n.pending? t).isSome && (n'.pending? t).isNone

/-- By how many messages the queues of the sinks grew. -/
def enqueued (n n' : Network) : Nat :=
  (n'.sinks.keys.map fun s => (n'.queueOf s).length - (n.queueOf s).length).sum

end Network

/-- The batch that a telemetry stream takes in when something arrives. -/
def Collector.accepted? (c : IngestConfig) (b : Backend) : Option Arrival → Option OutputBatch
  | some (.ok m) => Ingest.accepted? c b m
  | _ => none

/-- The batch that an act takes in: a telemetry stream receives it. -/
def Act.accepted? (n : Network) : Act → Option OutputBatch
  | step t => (n.nextArrival? t).bind (Collector.accepted? n.ingest n.backend)
  | _ => none

/-! ## Operations -/

/-- What is done with a master, one thing after another. -/
inductive Operation where
  /-- A service is called. -/
  | call (s : ServiceCall)
  /-- A request is answered. -/
  | respond (c : RuntimeConfig) (r : HttpRequest)
  /-- An actor takes a step, a message is given to the network to be routed, or a peer moves. -/
  | act (a : Act)
  /-- Time passes on both clocks. -/
  | wait (wall clock : Instant)

namespace Operation

/-- The network after an operation, if it is possible. What services ask of the backend they ask in
their calls, so an operation is no single call of the backend. -/
def perform? (n : Network) : Operation → Option Network
  | call s => some { n with backend := s.serve n.ingest n.backend }
  | respond c r => some { n with backend := (Http.respond c r n.backend).2 }
  | act (.ask _) => none
  | act a => a.perform? n
  | wait wall clock => some { n with backend := { n.backend with wall, clock } }

/-- What an operation came to. -/
def entry (n n' : Network) : Operation → Account
  | call s => s.entry n.ingest n.backend
  | respond c r => (Http.call? c r).elim 0 fun s => s.entry n.ingest n.backend
  | act a => fun
      | .routings => (n.concluded n').length
      | .deliveries => n.enqueued n'
      | .rows => (a.accepted? n).elim 0 fun batch => batch.rows.length
      | .lines => (a.accepted? n).elim 0 fun batch => batch.lines.length
      | _ => 0
  | wait .. => 0

end Operation

/-- Operations one after another, with the account of what they came to. -/
inductive Operates (n₀ : Network) : Account → Network → Prop
  | start : Operates n₀ 0 n₀
  | next {a : Account} {n n' : Network} (o : Operation) (h : o.perform? n = some n')
      (hruns : Operates n₀ a n) : Operates n₀ (a + o.entry n n') n'

/-! ## Messages that are routed -/

namespace Deed

/-- How a deed is counted that is the last about its message. -/
def outcome? : Deed → Option Outcome
  | lookedUp _ none => some .notFound
  | placed .. => some .delivered
  | refused .. => some .writeFailed
  | _ => none

/-- After its last deed an actor has nothing on its way. -/
theorem Moves.isNone_iff {p q : Option Routing} {d : Deed} (h : d.Moves p q) :
    (p.isSome && q.isNone) = d.outcome?.isSome := by
  cases h <;> rfl

end Deed

/-- What is booked for the deeds of an act. -/
def bookedDeeds (deeds : List (ActorId × Deed)) : Account :=
  (deeds.filterMap fun e => e.2.outcome?).foldr
    (fun o a => (Counter.messageRouted o).booked 1 + a) 0

namespace Network

variable {n₀ n n' : Network} {t : ActorId}

theorem deeds_eq_nil_or (n : Network) (a : Act) :
    a.deeds n = [] ∨ ∃ t d, a.deeds n = [(t, d)] := by
  cases a with
  | step t =>
      rw [deeds_step]
      cases n.deed? t with
      | none => exact .inl rfl
      | some d => exact .inr ⟨t, d, rfl⟩
  | route m => exact .inr ⟨n.actors.size, .accepted m, rfl⟩
  | _ => exact .inl rfl

/-- The actors that are done with a message are those whose last deed about it was done. -/
theorem length_concluded {noted : List (ActorId × Deed)}
    (hnoted : noted = [] ∨ ∃ t d, noted = [(t, d)]) (h : n.Advances noted n') :
    (n.concluded n').length = (noted.filterMap fun e => e.2.outcome?).length := by
  -- an actor without a deed has on its way what it had
  have hother (u : ActorId) (hu : deedsOf u noted = []) :
      ((n.pending? u).isSome && (n'.pending? u).isNone) = false := by
    rcases h.moves u with ⟨-, hsame⟩ | ⟨d, hd, -⟩
    · rw [hsame]
      cases n.pending? u <;> rfl
    · rw [hu] at hd
      cases hd
  rcases hnoted with rfl | ⟨t, d, rfl⟩
  · have hnil : n.concluded n' = [] := by
      rw [concluded, List.filter_eq_nil_iff]
      intro u _
      rw [hother u rfl]
      exact Bool.false_ne_true
    rw [hnil]
    rfl
  · have hmoves : d.Moves (n.pending? t) (n'.pending? t) := by
      rcases h.moves t with ⟨hnone, -⟩ | ⟨d', hd, hmoves⟩
      · simp at hnone
      · have hsame : d = d' := by simpa using hd
        exact hsame ▸ hmoves
    have hfilter : n.concluded n'
        = n.actors.keys.filter fun u => decide (u = t) && d.outcome?.isSome := by
      apply List.filter_congr
      intro u _
      by_cases hu : u = t
      · subst hu
        rw [hmoves.isNone_iff, decide_eq_true rfl, Bool.true_and]
      · rw [hother u (by simp [Ne.symm hu]), decide_eq_false hu, Bool.false_and]
    rw [hfilter]
    cases hout : d.outcome? with
    | none => simp [hout]
    | some o =>
        have hpending : (n.pending? t).isSome = true := by
          have hboth := hmoves.isNone_iff
          rw [hout] at hboth
          exact (Bool.and_eq_true_iff.mp hboth).1
        have hthere : t ∈ n.actors.keys := by
          rw [Table.mem_keys]
          unfold pending? at hpending
          cases hx : n.actors.find? t with
          | none => simp [hx] at hpending
          | some x => rfl
        have hone : n.actors.keys.countP (fun u => u == t) = 1 :=
          List.count_eq_one_of_mem n.actors.nodup_keys hthere
        simp only [Option.isSome_some, Bool.and_true, hout, List.filterMap_cons, List.filterMap_nil,
          List.length_singleton, ← List.countP_eq_length_filter]
        simpa [beq_eq_decide] using hone

/-- A queue that loses messages at most did not grow. -/
theorem enqueued_eq_zero (h : ∀ s, n'.queueOf s <:+ n.queueOf s) : n.enqueued n' = 0 := by
  apply List.sum_eq_zero
  intro k hk
  obtain ⟨s, -, rfl⟩ := List.mem_map.mp hk
  have hle := (h s).length_le
  omega

/-- One message was put at the end of one queue. -/
theorem enqueued_eq_one {s : SinkId} {m : StreamMessage} (hs : s ∈ n'.sinks.keys)
    (h : ∀ i, n'.queueOf i = n.queueOf i ++ ((Deed.placed m s).placedOn? i).toList) :
    n.enqueued n' = 1 := by
  have hgrowth (i : SinkId) :
      (n'.queueOf i).length - (n.queueOf i).length = if i = s then 1 else 0 := by
    rw [h i, Deed.placedOn?]
    by_cases hi : s = i
    · simp [hi]
    · simp [hi, Ne.symm hi]
  have hothers : ∀ i, i ≠ s → i ∈ n'.sinks.keys →
      (n'.queueOf i).length - (n.queueOf i).length = 0 := by
    intro i hi _
    rw [hgrowth, if_neg hi]
  rw [enqueued, List.sum_map_eq_nsmul_single s _ hothers,
    List.count_eq_one_of_mem n'.sinks.nodup_keys hs, one_nsmul, hgrowth, if_pos rfl]

/-- The queues grow by the messages that are placed. -/
theorem enqueued_eq (hn : n.IsNumbered) {a : Act} (h : a.perform? n = some n') :
    n.enqueued n' = ((a.deeds n).filterMap fun e => e.2.outcome?).count .delivered := by
  have hadvances := advances_of_perform? hn h
  by_cases hplaced : ∃ t m s, a.deeds n = [(t, .placed m s)]
  · -- only a step of an actor places a message
    obtain ⟨t, m, s, hdeeds⟩ := hplaced
    cases a with
    | step u =>
        obtain ⟨hdeed, rfl⟩ : n.deed? u = some (.placed m s) ∧ u = t := by
          rw [deeds_step] at hdeeds
          cases hd : n.deed? u <;> simp_all
        have hdeals : n.Deals u := by
          by_contra hnot
          rw [deed?_of_not_deals hnot] at hdeed
          cases hdeed
        have hserves := serves_of_step? hn hdeals h
        have hqueue := hserves.queue
        rw [hdeed] at hqueue
        have hthere : s ∈ n'.sinks.keys := by
          rw [Table.mem_keys]
          have hgrown := hqueue s
          unfold queueOf at hgrown
          cases hc : n'.sinks.find? s with
          | none => simp [hc, Deed.placedOn?] at hgrown
          | some c => rfl
        rw [enqueued_eq_one hthere hqueue, hdeeds]
        rfl
    | route x => cases hdeeds
    | _ => cases hdeeds
  · have hnone : ∀ s, placedOn s (a.deeds n) = [] ∧
        ((a.deeds n).filterMap fun e => e.2.outcome?).count .delivered = 0 := by
      intro s
      rcases n.deeds_eq_nil_or a with hdeeds | ⟨t, d, hdeeds⟩
      · rw [hdeeds]
        exact ⟨rfl, rfl⟩
      · rw [hdeeds, placedOn_singleton]
        cases d with
        | placed m i => exact absurd ⟨t, m, i, hdeeds⟩ hplaced
        | lookedUp m sink? => cases sink? <;> exact ⟨rfl, rfl⟩
        | _ => exact ⟨rfl, rfl⟩
    rw [(hnone 0).2]
    apply enqueued_eq_zero
    intro s
    have hsuffix := hadvances.queue s
    rwa [(hnone s).1, List.append_nil] at hsuffix

/-- **One act and its messages.** What is booked for the deeds of an act is what the network shows
of them. -/
theorem bookedDeeds_eq (hn : n.IsNumbered) {a : Act} (h : a.perform? n = some n') :
    bookedDeeds (a.deeds n) = fun
      | .routings => (n.concluded n').length
      | .deliveries => n.enqueued n'
      | _ => 0 := by
  have hconcluded := length_concluded (n.deeds_eq_nil_or a) (advances_of_perform? hn h)
  have henqueued := enqueued_eq hn h
  rw [hconcluded, henqueued]
  rcases n.deeds_eq_nil_or a with hdeeds | ⟨t, d, hdeeds⟩
  · rw [hdeeds]
    funext item
    cases item <;> rfl
  · rw [hdeeds]
    cases d with
    | lookedUp m sink? =>
        cases sink? <;>
        · funext item
          cases item <;> rfl
    | _ =>
        funext item
        cases item <;> rfl

/-! ## What acts do to the services -/

/-- A step about a message books its deed. -/
theorem books_routeStep? {r : Routing} {next : Routed} (h : n.routeStep? t r = some (next, n')) :
    n.backend.Books (bookedDeeds ((n.attempt t r).toList.map fun d => (t, d))) n'.backend := by
  have hcount (b : Backend) (o : Outcome) :
      b.Books ((Counter.messageRouted o).booked 1 + 0)
        ((Routine.count (.messageRouted o)).run b).2 :=
    (b.books_count (.messageRouted o)).of_eq (add_zero _).symm
  cases r with
  | looking m =>
      have hask : (Routine.lookUp m.receiver).run n.backend
          = (n.backend.registry.find? m.receiver, n.backend) := rfl
      simp only [routeStep?, Network.run, Router.lookUp, ExceptT.run_mk, Routine.run_bind, hask] at h
      rw [attempt]
      cases hfound : n.backend.registry.find? m.receiver with
      | some s =>
          rw [hfound] at h
          cases h
          exact .refl n.backend
      | none =>
          rw [hfound] at h
          cases h
          exact hcount n.backend .notFound
  | writing m s =>
      simp only [routeStep?, Option.bind_eq_bind, Option.bind_eq_some_iff] at h
      obtain ⟨c, hc, ⟨w, d⟩, hw, h⟩ := h
      simp only [attempt, hc, Option.bind_some, hw]
      cases w with
      | written =>
          cases h
          exact hcount n.backend .delivered
      | failed =>
          cases h
          exact hcount n.backend .writeFailed
      | queued =>
          cases h
          exact .refl n.backend

end Network

theorem Router.books_onArrival (b : Backend) (sink : SinkId) (arrival? : Option Arrival) :
    b.Books 0 ((onArrival sink arrival?).run b).2 := by
  cases arrival? with
  | none => exact .refl b
  | some arrival =>
      cases arrival with
      | error e =>
          rw [onArrival]
          split
          · exact .refl b
          · rw [Routine.run_bind]
            exact b.books_error _ _
      | ok m =>
          rw [onArrival, handle]
          split
          · rw [connect]
            split
            · exact .refl b
            · exact Coordination.books_gauged (fun hb => hb.run _) rfl rfl
          · exact Coordination.books_gauged (fun hb => hb.run _) rfl rfl
          · exact .refl b
          · exact .refl b

theorem Collector.books_onArrival (b : Backend) (c : IngestConfig) (arrival? : Option Arrival) :
    b.Books (Ingest.booked (accepted? c b arrival?)) ((onArrival c arrival?).run b).2 := by
  cases arrival? with
  | none => exact .refl b
  | some arrival =>
      cases arrival with
      | error e =>
          rw [onArrival]
          split
          · exact .refl b
          · rw [Routine.run_bind]
            exact b.books_error _ _
      | ok m =>
          rw [onArrival, Routine.run_bind]
          exact Ingest.books_receive b c m

namespace Network

variable {n₀ n n' : Network} {t : ActorId}

theorem nextArrival?_eq_none
    (h : ∀ source sink?, n.actors.find? t ≠ some (.collector source sink?)) :
    n.nextArrival? t = none := by
  unfold nextArrival?
  split
  next source sink? hx => exact absurd hx (h source sink?)
  next => rfl

/-- **One step.** It books its deed, or the batch that it takes in. -/
theorem books_step? (h : n.step? t = some n') :
    n.backend.Books
      (bookedDeeds (Act.deeds n (.step t)) + Ingest.booked (Act.accepted? n (.step t)))
      n'.backend := by
  rw [deeds_step, Act.accepted?]
  cases hp : n.pending? t with
  | some r =>
      obtain ⟨x, y, next, n₁, hx, hroute, rfl, -, -⟩ := exists_routeStep? hp h
      have hdeed : n.deed? t = n.attempt t r := by rw [deed?, hp]
      have hcollector : ∀ source sink?, n.actors.find? t ≠ some (.collector source sink?) := by
        intro source sink? hx
        rw [pending?, hx] at hp
        cases hp
      rw [hdeed, nextArrival?_eq_none hcollector]
      exact (books_routeStep? hroute).of_eq (add_zero _).symm
  | none =>
      -- an actor that has nothing on its way does no deed that is counted
      have hdeeds : bookedDeeds ((n.deed? t).toList.map fun d => (t, d)) = 0 := by
        rw [deed?, hp]
        cases n.nextSend? t <;> rfl
      rw [hdeeds, zero_add]
      cases reacts_of_step? hp h with
      | idle hx hbackend =>
          rw [nextArrival?_eq_none hx, hbackend]
          exact .refl n.backend
      | message source sink arrival? hx _ hbackend =>
          rw [nextArrival?_eq_none (by simp [hx]), hbackend]
          exact Router.books_onArrival n.backend sink arrival?
      | telemetry source sink? arrival? hx _ =>
          obtain ⟨arrival?, harrival, hbackend, -, -⟩ := exists_collect hx h
          rw [harrival, hbackend]
          exact Collector.books_onArrival n.backend n.ingest arrival?
      | control sink signal hx hbackend =>
          rw [nextArrival?_eq_none (by simp [hx]), hbackend]
          exact .of_counts (fun hb => ⟨hb.plain, hb.wellFormed⟩) rfl id

/-- An act that is no step books nothing. -/
theorem books_request (n : Network) {a : Act} (ha : ∀ c, a ≠ .ask c) :
    n.backend.Books 0 ((a.request n).run n.backend).2 := by
  cases a with
  | openControl key capacity =>
      rw [Act.request, Routine.run_bind]
      exact Coordination.books_install n.backend key n.sinks.size
  | openSocket p capacity =>
      cases p with
      | control key =>
          rw [Act.request, Routine.run_bind]
          exact Coordination.books_install n.backend key n.sinks.size
      | _ => exact .refl n.backend
  | ask c => exact absurd rfl (ha c)
  | _ => exact .refl n.backend

/-- **One act.** -/
theorem books_perform? {a : Act} (ha : ∀ c, a ≠ .ask c) (h : a.perform? n = some n') :
    n.backend.Books (bookedDeeds (a.deeds n) + Ingest.booked (a.accepted? n)) n'.backend := by
  by_cases hstep : ∃ t, a = .step t
  · obtain ⟨t, rfl⟩ := hstep
    exact books_step? h
  · have hnone : bookedDeeds (a.deeds n) + Ingest.booked (a.accepted? n) = 0 := by
      cases a with
      | step t => exact absurd ⟨t, rfl⟩ hstep
      | _ => rfl
    rw [hnone, backend_of_perform? (fun t ht => hstep ⟨t, ht⟩) h]
    exact books_request n ha

end Network

/-! ## Operations -/

theorem Ingest.booked_eq (batch? : Option OutputBatch) : booked batch? = fun
    | .rows => batch?.elim 0 fun batch => batch.rows.length
    | .lines => batch?.elim 0 fun batch => batch.lines.length
    | _ => 0 := by
  funext item
  cases batch? with
  | none => cases item <;> rfl
  | some batch => cases batch <;> cases item <;> rfl

/-- An operation that is possible books its entry. -/
theorem Operation.books_perform? {n n' : Network} (hn : n.IsNumbered) (hb : n.backend.IsSound)
    {o : Operation} (h : o.perform? n = some n') :
    n'.IsNumbered ∧ n.backend.Books (o.entry n n') n'.backend := by
  cases o with
  | call s =>
      cases h
      exact ⟨(n.spares_backend _).numbered hn, s.books_serve hb n.ingest⟩
  | respond c r =>
      cases h
      refine ⟨(n.spares_backend _).numbered hn, ?_⟩
      rw [entry, Http.respond_eq c r n.ingest]
      cases Http.call? c r with
      | none => exact .refl n.backend
      | some s => exact s.books_serve hb n.ingest
  | wait wall clock =>
      cases h
      exact ⟨(n.spares_backend _).numbered hn,
        .of_counts (fun hb => ⟨hb.plain, hb.wellFormed⟩) rfl id⟩
  | act a =>
      have ha : ∀ c, a ≠ .ask c := by
        rintro c rfl
        cases h
      have h : a.perform? n = some n' := by
        cases a with
        | ask c => cases h
        | _ => exact h
      refine ⟨(Network.advances_of_perform? hn h).numbered, ?_⟩
      apply (Network.books_perform? ha h).of_eq
      rw [Network.bookedDeeds_eq hn h, Ingest.booked_eq]
      funext item
      cases item <;> simp [entry]

/-! ## Runs -/

namespace Network

variable {n₀ n : Network} {a : Account}

/-- Nothing was counted yet and nobody is registered; there may be records of nodes already. -/
structure IsUnused (n : Network) : Prop where
  ledger : n.backend.ledger = {}
  registry : n.backend.registry = {}
  sound : n.backend.IsSound
  numbered : n.IsNumbered

/-- The metrics show an account, and how many entries the registry has. -/
structure IsAccounted (n : Network) (a : Account) : Prop where
  reading : n.backend.ledger.reading = a
  gauge : n.backend.ledger.subscriptions = n.backend.registry.size

/-- What a run came to is booked. -/
theorem books_of_operates (hn : n₀.IsNumbered) (hb : n₀.backend.IsSound) (h : Operates n₀ a n) :
    n.IsNumbered ∧ n₀.backend.Books a n.backend := by
  induction h with
  | start => exact ⟨hn, .refl n₀.backend⟩
  | next o hstep _ ih =>
      obtain ⟨hnumbered, hbooks⟩ := ih
      obtain ⟨hnext, hentry⟩ := o.books_perform? hnumbered (hbooks.sound hb) hstep
      exact ⟨hnext, hbooks.trans hentry⟩

/-- **The metrics account for everything that is done, exactly once.** After every run of
operations the ledger reads as the account of the run, and the gauge is right. -/
theorem isAccounted_of_operates (hn₀ : n₀.IsUnused) (h : Operates n₀ a n) : n.IsAccounted a := by
  obtain ⟨-, hbooks⟩ := books_of_operates hn₀.numbered hn₀.sound h
  have hproper : n₀.backend.ledger.IsProper := hn₀.ledger ▸ Ledger.isProper_empty
  have hzero : n₀.backend.ledger.reading = 0 := by
    rw [hn₀.ledger]
    funext item
    cases item <;> rfl
  have hgauged : n₀.backend.IsGauged := by
    rw [Backend.IsGauged, hn₀.ledger, hn₀.registry]
    rfl
  refine ⟨?_, hbooks.gauged hgauged⟩
  rw [hbooks.reading hproper, hzero, zero_add]

/-! ### A day of a master -/

/-- Performs operations in order, as long as they are possible. -/
def operate? : List Operation → Network → Option (Account × Network)
  | [], n => some (0, n)
  | o :: os, n => do
      let next ← o.perform? n
      let (a, last) ← operate? os next
      return (o.entry n next + a, last)

theorem operates_of_operate? {os : List Operation} {a₀ : Account} (h₀ : Operates n₀ a₀ n)
    {n' : Network} (h : operate? os n = some (a, n')) : Operates n₀ (a₀ + a) n' := by
  induction os generalizing a₀ n a with
  | nil =>
      cases h
      exact h₀
  | cons o os ih =>
      simp only [operate?, Option.bind_eq_bind, Option.bind_eq_some_iff] at h
      obtain ⟨next, hnext, ⟨rest, last⟩, hrest, h⟩ := h
      obtain ⟨rfl, rfl⟩ : o.entry n next + rest = a ∧ last = n' := by simpa using h
      rw [← add_assoc]
      exact ih (h₀.next o hnext) hrest

/-- A master without records. -/
def unused : Network where
  backend := { wall := .epoch, clock := .epoch }
  frameLimit := 16

/-- A worker joins, listens and falls silent; a message reaches it and another one nobody, a
delegate message asks for its record, and a line of output comes in. -/
def errands : List Operation := [
  .call (.register "w1" {}), .call (.register "w1" {}), .call (.register "" {}),
  .call (.heartbeat "w1"), .call (.heartbeat "w2"),
  .act (.openControl "w1" 1), .act (.openControl "w2" 1), .call (.unsubscribe "w2"),
  .act (.route { receiver := "node:w1" }), .act (.step 2), .act (.step 2),
  .act (.route { receiver := "w1" }), .act (.step 3),
  .call (.execute (.ofModel .refresh (Model.identity .node (IdSupply.id {} 1)))),
  .call (.ingest goodLine), .wait .epoch ⟨31, 0⟩, .call (.sweep 30)]

theorem isAccounted_errands : ∃ a n, unused.IsUnused ∧ Operates unused a n ∧ n.IsAccounted a ∧
    (a .registrations, a .insertions) = (3, 1) ∧ (a .heartbeats, a .beats) = (2, 1) ∧
    (a .routings, a .deliveries) = (2, 1) ∧ (a .lapses, a .delegations) = (1, 1) ∧
    (a .rows, a .lines) = (0, 1) ∧ n.backend.ledger.subscriptions = 1 := by
  have hcheck : (operate? errands unused).any (fun p =>
      (p.1 .registrations, p.1 .insertions) = (3, 1) && (p.1 .heartbeats, p.1 .beats) = (2, 1)
        && (p.1 .routings, p.1 .deliveries) = (2, 1) && (p.1 .lapses, p.1 .delegations) = (1, 1)
        && (p.1 .rows, p.1 .lines) = (0, 1) && p.2.backend.ledger.subscriptions = 1) = true := by
    decide +kernel
  obtain ⟨⟨a, n⟩, hplay, hcheck⟩ := (Option.any_eq_true _ _).mp hcheck
  simp only [Bool.and_eq_true, decide_eq_true_eq] at hcheck
  obtain ⟨⟨⟨⟨⟨hregistered, hbeats⟩, hrouted⟩, hlapsed⟩, houtput⟩, hgauge⟩ := hcheck
  have hunused : unused.IsUnused := by
    refine ⟨rfl, rfl, Backend.isSound_of_empty rfl rfl, ?_⟩
    exact ⟨Table.isNumbered_empty, Table.isNumbered_empty⟩
  have hrun : Operates unused a n := zero_add a ▸ operates_of_operate? .start hplay
  exact ⟨a, n, hunused, hrun, isAccounted_of_operates hunused hrun, hregistered, hbeats, hrouted,
    hlapsed, houtput, hgauge⟩

end Network
end ControlPlane
