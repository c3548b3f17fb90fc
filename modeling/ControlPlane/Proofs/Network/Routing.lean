import ControlPlane.Proofs.Network.Run

/-!
# What a routing actor does

A message that is routed meets one *deed* after another: an actor accepts it, looks its
destination up, and places it on the sink that it found, or is refused there. `Network.deed?` reads
off a network which deed the next step of an actor is; a step that only stands in line is none.

Main statements: a step about a message that is routed does its deed and nothing else
(`Network.serves_of_step?`), a step about anything else spares what is on its way
(`Network.spares_of_not_deals`), and a message to route comes from the front of an inbox
(`Network.exists_accept`).
-/

set_option autoImplicit false

namespace ControlPlane

/-! ## Deeds -/

/-- What an actor does about a message. -/
inductive Deed where
  /-- The message is the next one that the actor routes. -/
  | accepted (m : StreamMessage)
  /-- The destination of the message has this sink, or none. -/
  | lookedUp (m : StreamMessage) (sink? : Option SinkId)
  /-- The message stands at the end of the queue of the sink. -/
  | placed (m : StreamMessage) (sink : SinkId)
  /-- Nobody receives from the sink. -/
  | refused (m : StreamMessage) (sink : SinkId)
deriving DecidableEq

namespace Deed

/-- The message that a deed adds to the queue of a sink. -/
def placedOn? (s : SinkId) : Deed → Option StreamMessage
  | placed m sink => if sink = s then some m else none
  | _ => none

/-- A deed finds an actor with something on its way and leaves it with something else. -/
inductive Moves : Option Routing → Deed → Option Routing → Prop
  | accept (m : StreamMessage) : Moves none (.accepted m) (some (.looking m))
  | find (m : StreamMessage) (s : SinkId) :
      Moves (some (.looking m)) (.lookedUp m (some s)) (some (.writing m s))
  | miss (m : StreamMessage) : Moves (some (.looking m)) (.lookedUp m none) none
  | place (m : StreamMessage) (s : SinkId) : Moves (some (.writing m s)) (.placed m s) none
  | refuse (m : StreamMessage) (s : SinkId) : Moves (some (.writing m s)) (.refused m s) none

end Deed

namespace Network

/-- The deed of the next step about a message, unless the step only stands in line. -/
def attempt (n : Network) (t : ActorId) : Routing → Option Deed
  | .looking m => some (.lookedUp m ((n.backend.registry.find? m.receiver).map (·.sink)))
  | .writing m s =>
      match (n.sinks.find? s).bind (·.write? t m) with
      | some (.written, _) => some (.placed m s)
      | some (.failed, _) => some (.refused m s)
      | _ => none

/-- The message that the owner of a message stream receives next. -/
def nextMessage? (n : Network) (t : ActorId) : Option StreamMessage :=
  match n.actors.find? t with
  | some (.router source _ none) =>
      match (n.inboxes.find? source).bind Inbox.receive? with
      | some (some (.ok m), _) => some m
      | _ => none
  | _ => none

/-- The message that the owner of a message stream receives next, if it is one to route. -/
def nextSend? (n : Network) (t : ActorId) : Option StreamMessage :=
  (n.nextMessage? t).filter fun m => m.code? = some .send

/-- The deed of the next step of an actor. -/
def deed? (n : Network) (t : ActorId) : Option Deed :=
  match n.pending? t with
  | some r => n.attempt t r
  | none => (n.nextSend? t).map .accepted

/-! ## One message -/

variable {n n' : Network} {t : ActorId}

/-- What is left of a message after a step about it. -/
def Routed.pending? : Routed → Option Routing
  | .inl r => some r
  | .inr _ => none

/-- A step about a message does a deed, or none, and nothing else. -/
structure Performs (n : Network) (r : Routing) (done : Option Deed) (rest : Option Routing)
    (n' : Network) : Prop where
  actors : n'.actors = n.actors
  registry : n'.backend.registry = n.backend.registry
  sinks : n.sinks.IsNumbered → n'.sinks.IsNumbered
  queue : ∀ s, n'.queueOf s = n.queueOf s ++ (done.bind (·.placedOn? s)).toList
  moves : done.elim (rest = some r) fun d => d.Moves (some r) rest

/-- The network with another ledger. -/
def withLedger (n : Network) (l : Ledger) : Network :=
  { n with backend := { n.backend with ledger := l } }

theorem run_lookUp (n : Network) (m : StreamMessage) :
    ∃ l, n.run (Router.lookUp m).run
      = ((n.backend.registry.find? m.receiver).elim (.error (.subscribeNotFound m.receiver))
          fun s => .ok s.sink, n.withLedger l) := by
  have hask : (Routine.lookUp m.receiver).run n.backend
      = (n.backend.registry.find? m.receiver, n.backend) := rfl
  unfold Router.lookUp run
  simp only [ExceptT.run_mk, Routine.run_bind, hask]
  cases n.backend.registry.find? m.receiver with
  | some s => exact ⟨n.backend.ledger, rfl⟩
  | none => exact ⟨_, rfl⟩

theorem performs_looking {m : StreamMessage} {next : Routed}
    (h : n.routeStep? t (.looking m) = some (next, n')) :
    n.Performs (.looking m) (n.attempt t (.looking m)) next.pending? n' := by
  obtain ⟨l, hl⟩ := run_lookUp n m
  simp only [routeStep?, hl] at h
  have hattempt : n.attempt t (.looking m)
      = some (.lookedUp m ((n.backend.registry.find? m.receiver).map (·.sink))) := rfl
  cases hf : n.backend.registry.find? m.receiver with
  | some sub =>
      rw [hf] at h hattempt
      cases h
      rw [hattempt]
      exact ⟨rfl, rfl, id, fun s => (List.append_nil _).symm, .find m sub.sink⟩
  | none =>
      rw [hf] at h hattempt
      cases h
      rw [hattempt]
      exact ⟨rfl, rfl, id, fun s => (List.append_nil _).symm, .miss m⟩

theorem performs_writing {m : StreamMessage} {s : SinkId} {next : Routed}
    (h : n.routeStep? t (.writing m s) = some (next, n')) :
    n.Performs (.writing m s) (n.attempt t (.writing m s)) next.pending? n' := by
  simp only [routeStep?, Option.bind_eq_bind, Option.bind_eq_some_iff] at h
  obtain ⟨c, hc, ⟨w, d⟩, hw, h⟩ := h
  have hsinks : n.sinks.IsNumbered → (n.setSink s d).sinks.IsNumbered :=
    fun hn => hn.replace hc
  have hqueue : ∀ i, (n.setSink s d).queueOf i
      = n.queueOf i ++ if w = .written ∧ s = i then [m] else [] := by
    intro i
    rw [queueOf_setSink, Channel.queue_of_write? hw]
    by_cases hi : s = i
    · subst hi
      have hs : n.queueOf s = c.queue := by rw [queueOf, hc, Option.elim_some]
      by_cases hwritten : w = .written <;> simp [hwritten, hs]
    · simp [hi]
  -- what the write came to decides about the deed
  cases w with
  | written =>
      have hattempt : n.attempt t (.writing m s) = some (.placed m s) := by
        simp only [attempt, hc, Option.bind_some, hw]
      cases h
      rw [hattempt]
      refine ⟨rfl, rfl, hsinks, fun i => ?_, .place m s⟩
      refine (hqueue i).trans ?_
      by_cases hi : s = i <;> simp [Deed.placedOn?, hi]
  | failed =>
      have hattempt : n.attempt t (.writing m s) = some (.refused m s) := by
        simp only [attempt, hc, Option.bind_some, hw]
      cases h
      rw [hattempt]
      exact ⟨rfl, rfl, hsinks, hqueue, .refuse m s⟩
  | queued =>
      have hattempt : n.attempt t (.writing m s) = none := by
        simp only [attempt, hc, Option.bind_some, hw]
      cases h
      rw [hattempt]
      exact ⟨rfl, rfl, hsinks, hqueue, rfl⟩

theorem performs_of_routeStep? {r : Routing} {next : Routed}
    (h : n.routeStep? t r = some (next, n')) :
    n.Performs r (n.attempt t r) next.pending? n' := by
  cases r with
  | looking m => exact performs_looking h
  | writing m s => exact performs_writing h

/-- A message is refused only where nobody receives any more. -/
theorem isSinkClosed_of_attempt {r : Routing} {m : StreamMessage} {s : SinkId}
    (h : n.attempt t r = some (.refused m s)) : n.isSinkClosed s = true := by
  cases r with
  | looking m => cases h
  | writing m i =>
      simp only [attempt] at h
      split at h
      next => cases h
      next d hw =>
        cases h
        obtain ⟨c, hc, hw⟩ := Option.bind_eq_some_iff.mp hw
        have hopen : c.isOpen = false := by
          unfold Channel.write? at hw
          split at hw
          next hclosed => simpa using hclosed
          next => grind
        simp [isSinkClosed, hc, hopen]
      next => cases h

/-! ## One step -/

theorem attempt_ne_accepted {m : StreamMessage} {r : Routing} :
    n.attempt t r ≠ some (.accepted m) := by
  cases r with
  | looking x => simp [attempt]
  | writing x s =>
      simp only [attempt]
      split <;> simp

theorem nextSend?_of_deed? {m : StreamMessage} (h : n.deed? t = some (.accepted m)) :
    n.pending? t = none ∧ n.nextSend? t = some m := by
  unfold deed? at h
  split at h
  next r _ => exact absurd h attempt_ne_accepted
  next hp => exact ⟨hp, by simpa using h⟩

/-- What was looked up is what is registered under the key that the message is sent to. -/
theorem sink_of_deed? {m : StreamMessage} {sink? : Option SinkId}
    (h : n.deed? t = some (.lookedUp m sink?)) :
    sink? = (n.backend.registry.find? m.receiver).map (·.sink) := by
  unfold deed? at h
  split at h
  next r hp =>
    cases r with
    | looking x =>
        cases h
        rfl
    | writing x s =>
        simp only [attempt] at h
        split at h <;> cases h
  next => simp at h

theorem isSinkClosed_of_deed? {m : StreamMessage} {s : SinkId}
    (h : n.deed? t = some (.refused m s)) : n.isSinkClosed s = true := by
  unfold deed? at h
  split at h
  next => exact isSinkClosed_of_attempt h
  next => simp at h

/-- The next step of an actor is about a message that is routed. -/
def Deals (n : Network) (t : ActorId) : Prop := n.pending? t ≠ none ∨ n.nextSend? t ≠ none

theorem not_deals : ¬ n.Deals t ↔ n.pending? t = none ∧ n.nextSend? t = none := by
  simp [Deals]

/-- A step about anything else is no deed. -/
theorem deed?_of_not_deals (h : ¬ n.Deals t) : n.deed? t = none := by
  obtain ⟨hp, hsend⟩ := not_deals.mp h
  rw [deed?, hp, hsend]
  rfl

/-- An actor does its deed, or stands in line, and nothing else. -/
structure Serves (n : Network) (t : ActorId) (n' : Network) : Prop where
  numbered : n'.IsNumbered
  moves : (n.deed? t).elim (n'.pending? t = n.pending? t)
    fun d => d.Moves (n.pending? t) (n'.pending? t)
  others : ∀ u, t ≠ u → n'.pending? u = n.pending? u
  queue : ∀ s, n'.queueOf s = n.queueOf s ++ ((n.deed? t).bind (·.placedOn? s)).toList
  registry : n'.backend.registry = n.backend.registry
  router : ∀ source sink pending, n.actors.find? t = some (.router source sink pending) →
    ∃ rest, n'.actors.find? t = some (.router source sink rest)

theorem actor_setActor (n : Network) (t : ActorId) (x : Actor) :
    (n.setActor t x).actors.find? t = some x := by
  unfold setActor
  rw [Table.find?_insert, if_pos rfl]

/-- What a step does with the message that is on its way. -/
theorem exists_routeStep? {r : Routing} (hr : n.pending? t = some r) (h : n.step? t = some n') :
    ∃ x y next n₁, n.actors.find? t = some x ∧ n.routeStep? t r = some (next, n₁) ∧
      n' = n₁.setActor t y ∧ y.pending? = next.pending? ∧
      ∀ source sink pending, x = .router source sink pending →
        y = .router source sink next.pending? := by
  simp only [step?, Option.bind_eq_bind, Option.bind_eq_some_iff] at h
  obtain ⟨x, hx, hstep⟩ := h
  rw [pending?, hx, Option.bind_some] at hr
  cases x with
  | router source sink pending =>
      obtain rfl : pending = some r := hr
      simp only [routerStep?, Option.bind_eq_bind, Option.bind_eq_some_iff] at hstep
      obtain ⟨⟨next, n₁⟩, hroute, hstep⟩ := hstep
      refine ⟨_, .router source sink next.pending?, next, n₁, hx, hroute, ?_, rfl, ?_⟩
      · cases next <;> cases hstep <;> rfl
      · rintro _ _ _ ⟨⟩
        rfl
  | courier pending =>
      obtain rfl : pending = r := Option.some.inj hr
      simp only [courierStep?, Option.bind_eq_bind, Option.bind_eq_some_iff] at hstep
      obtain ⟨⟨next, n₁⟩, hroute, hstep⟩ := hstep
      cases next with
      | inl rest =>
          cases hstep
          refine ⟨_, .courier rest, _, n₁, hx, hroute, rfl, rfl, ?_⟩
          rintro _ _ _ ⟨⟩
      | inr result =>
          cases hstep
          refine ⟨_, .ended (endingOf result), _, n₁, hx, hroute, rfl, rfl, ?_⟩
          rintro _ _ _ ⟨⟩
  | _ => cases hr

theorem serves_of_pending (hn : n.IsNumbered) {r : Routing} (hr : n.pending? t = some r)
    (h : n.step? t = some n') : n.Serves t n' := by
  obtain ⟨x, y, next, n₁, hx, hroute, rfl, hy, hrouter⟩ := exists_routeStep? hr h
  have hp := performs_of_routeStep? hroute
  have hdeed : n.deed? t = n.attempt t r := by rw [deed?, hr]
  have hx₁ : n₁.actors.find? t = some x := by rw [hp.actors, hx]
  have hself : (n₁.setActor t y).pending? t = next.pending? := by
    rw [pending?_setActor, if_pos rfl, hy]
  refine ⟨⟨(hp.actors ▸ hn.actors).replace hx₁, hp.sinks hn.sinks⟩, ?_, ?_, ?_, hp.registry, ?_⟩
  · rw [hdeed, hself, hr]
    exact hp.moves
  · intro u hu
    rw [pending?_setActor, if_neg hu, pending?, pending?, hp.actors]
  · intro s
    rw [hdeed]
    exact hp.queue s
  · intro source sink pending hfound
    have hy := hrouter source sink pending (Option.some.inj (hx.symm.trans hfound))
    exact ⟨next.pending?, by rw [actor_setActor, hy]⟩

/-! ### Receiving -/

/-- Only a message that says so is routed, and receiving it changes nothing else. -/
theorem run_onArrival_eq_route {sink : SinkId} {arrival? : Option Arrival} {b b' : Backend}
    {m : StreamMessage} (h : (Router.onArrival sink arrival?).run b = (.route m, b')) :
    arrival? = some (.ok m) ∧ m.code? = some .send ∧ b' = b := by
  cases arrival? with
  | none => cases h
  | some arrival =>
      cases arrival with
      | error e =>
          simp only [Router.onArrival] at h
          split at h <;> cases h
      | ok x =>
          simp only [Router.onArrival, Router.handle] at h
          split at h
          next =>
            rw [Routine.run_bind] at h
            cases h
          next => cases h
          next hcode =>
            cases h
            exact ⟨rfl, hcode, rfl⟩
          next => cases h

theorem run_handle_send {m : StreamMessage} (hm : m.code? = some .send) (sink : SinkId)
    (b : Backend) : (Router.handle sink m).run b = (.route m, b) := by
  simp only [Router.handle, hm]
  rfl

/-- The network after a message stream has decided what to do next. -/
def onward (n : Network) (t : ActorId) (source : InboxId) (sink : SinkId) : Router.Next → Network
  | .receive => n
  | .route m => n.setActor t (.router source sink (some (.looking m)))
  | .stop e => n.stop t source e

/-- What a message stream does with the next thing that arrives. -/
theorem exists_arrival {source : InboxId} {sink : SinkId}
    (hx : n.actors.find? t = some (.router source sink none)) (h : n.step? t = some n') :
    ∃ i arrival? inbox next b, n.inboxes.find? source = some i ∧
      i.receive? = some (arrival?, inbox) ∧
      (Router.onArrival sink arrival?).run n.backend = (next, b) ∧
      n' = { n.setInbox source inbox with backend := b }.onward t source sink next := by
  simp only [step?, hx, Option.bind_eq_bind, Option.bind_some, routerStep?,
    Option.bind_eq_some_iff] at h
  obtain ⟨i, hi, ⟨arrival?, inbox⟩, hreceive, h⟩ := h
  refine ⟨i, arrival?, inbox, _, _, hi, hreceive, rfl, ?_⟩
  have hback : ((n.setInbox source inbox).run (Router.onArrival sink arrival?)).1
      = ((Router.onArrival sink arrival?).run n.backend).1 := rfl
  rw [hback] at h
  split at h
  all_goals
    next hnext =>
      cases h
      rw [hnext]
      rfl

theorem nextMessage?_eq {source : InboxId} {sink : SinkId} {i inbox : Inbox}
    {arrival? : Option Arrival} (hx : n.actors.find? t = some (.router source sink none))
    (hi : n.inboxes.find? source = some i) (hreceive : i.receive? = some (arrival?, inbox)) :
    n.nextMessage? t = arrival?.bind Except.toOption := by
  simp only [nextMessage?, hx, hi, Option.bind_some, hreceive]
  cases arrival? with
  | none => rfl
  | some arrival => cases arrival <;> rfl

/-- What a message stream does with the message that it receives. -/
theorem exists_receive {m : StreamMessage} (hm : n.nextMessage? t = some m)
    (h : n.step? t = some n') :
    ∃ source sink i inbox next b, n.actors.find? t = some (.router source sink none) ∧
      n.inboxes.find? source = some i ∧ i.receive? = some (some (.ok m), inbox) ∧
      (Router.handle sink m).run n.backend = (next, b) ∧
      n' = { n.setInbox source inbox with backend := b }.onward t source sink next := by
  -- only the owner of a message stream that waits receives anything
  obtain ⟨source, sink, hx⟩ :
      ∃ source sink, n.actors.find? t = some (.router source sink none) := by
    unfold nextMessage? at hm
    split at hm
    next source sink hx => exact ⟨source, sink, hx⟩
    next => cases hm
  obtain ⟨i, arrival?, inbox, next, b, hi, hreceive, hrun, hn'⟩ := exists_arrival hx h
  rw [nextMessage?_eq hx hi hreceive] at hm
  obtain ⟨arrival, rfl, hok⟩ := Option.bind_eq_some_iff.mp hm
  cases arrival with
  | error e => cases hok
  | ok x =>
      obtain rfl : x = m := Option.some.inj hok
      exact ⟨source, sink, i, inbox, next, b, hx, hi, hreceive, hrun, hn'⟩

/-- A message to route is taken out of the inbox of its stream and is on its way then. -/
theorem exists_accept {m : StreamMessage} (hm : n.nextSend? t = some m)
    (h : n.step? t = some n') :
    ∃ source sink i inbox, n.actors.find? t = some (.router source sink none) ∧
      n.inboxes.find? source = some i ∧ i.receive? = some (some (.ok m), inbox) ∧
      m.code? = some .send ∧
      n' = (n.setInbox source inbox).setActor t (.router source sink (some (.looking m))) := by
  obtain ⟨hnext, hsend⟩ := Option.filter_eq_some_iff.mp hm
  have hsend : m.code? = some .send := by simpa using hsend
  obtain ⟨source, sink, i, inbox, next, b, hx, hi, hreceive, hrun, rfl⟩ := exists_receive hnext h
  rw [run_handle_send hsend] at hrun
  cases hrun
  exact ⟨source, sink, i, inbox, hx, hi, hreceive, hsend, rfl⟩

theorem serves_of_nextSend? (hn : n.IsNumbered) {m : StreamMessage} (hp : n.pending? t = none)
    (hm : n.nextSend? t = some m) (h : n.step? t = some n') : n.Serves t n' := by
  obtain ⟨source, sink, i, inbox, hx, -, -, -, rfl⟩ := exists_accept hm h
  have hdeed : n.deed? t = some (.accepted m) := by
    rw [deed?, hp, hm]
    rfl
  refine ⟨⟨hn.actors.replace hx, hn.sinks⟩, ?_, ?_, ?_, rfl, ?_⟩
  · rw [hdeed, hp, pending?_setActor, if_pos rfl]
    exact .accept m
  · intro u hu
    rw [pending?_setActor, if_neg hu]
    rfl
  · intro s
    rw [hdeed]
    exact (List.append_nil _).symm
  · intro source' sink' pending hfound
    cases hx.symm.trans hfound
    exact ⟨_, actor_setActor _ _ _⟩

/-- A step about a message that is routed does its deed, or stands in line, and nothing else. -/
theorem serves_of_step? (hn : n.IsNumbered) (hdeals : n.Deals t) (h : n.step? t = some n') :
    n.Serves t n' := by
  cases hp : n.pending? t with
  | some r => exact serves_of_pending hn hp h
  | none =>
      obtain ⟨m, hm⟩ := Option.ne_none_iff_exists'.mp (hdeals.resolve_left fun hne => hne hp)
      exact serves_of_nextSend? hn hp hm h

/-- A step about anything else spares what is on its way. -/
theorem spares_of_not_deals (hdeals : ¬ n.Deals t) (h : n.step? t = some n') :
    n.Spares n' := by
  obtain ⟨hp, hsend⟩ := not_deals.mp hdeals
  by_cases hrouter : ∃ source sink, n.actors.find? t = some (.router source sink none)
  · obtain ⟨source, sink, hx⟩ := hrouter
    obtain ⟨i, arrival?, inbox, next, b, hi, hreceive, hrun, rfl⟩ := exists_arrival hx h
    have htake : n.Spares { n.setInbox source inbox with backend := b } := .of_eq rfl rfl
    cases next with
    | receive => exact htake
    | stop e => exact htake.trans (Bypasses.toSpares (bypasses_stop hx rfl))
    | route m =>
        -- the message would have been one to route
        obtain ⟨rfl, hcode, -⟩ := run_onArrival_eq_route hrun
        rw [nextSend?, nextMessage?_eq hx hi hreceive] at hsend
        simp [Except.toOption, hcode] at hsend
  · exact spares_of_step? hp (fun source sink hx => hrouter ⟨source, sink, hx⟩) h

end Network
end ControlPlane
