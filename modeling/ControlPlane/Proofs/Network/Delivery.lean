import ControlPlane.Proofs.Network.Routing

/-!
# What routing delivers

The log of a run lists the deeds of all routing actors in the order of the run. What one actor
did is a part of the log (`deedsOf`), and so is what came to one sink (`placedOn`); the two views
of one list relate the streams that send to the queues that receive.

A message that was dealt with is a *sending*: it was accepted, looked up once, and then placed
once, refused, or found to have no destination (`Sending.deeds`). Deeds of different actors
interleave in every way, those of one actor never do.

Main statement: after every run the log is that of sendings, and each queue holds the last of what
was placed on its sink, in that order (`Network.faithful_of_runs`).
-/

set_option autoImplicit false

namespace ControlPlane

/-! ## Logs -/

/-- The deeds of an act, each with the actor that does it. -/
def Act.deeds (n : Network) : Act → List (ActorId × Deed)
  | step t => (n.deed? t).toList.map fun d => (t, d)
  | route m => [(n.actors.size, .accepted m)]
  | _ => []

/-- What one actor did. -/
def deedsOf (t : ActorId) (log : List (ActorId × Deed)) : List Deed :=
  (log.filter fun e => e.1 = t).map (·.2)

/-- What was placed on one sink. -/
def placedOn (s : SinkId) (log : List (ActorId × Deed)) : List StreamMessage :=
  log.filterMap fun e => e.2.placedOn? s

@[simp] theorem deedsOf_nil (t : ActorId) : deedsOf t [] = [] := rfl

@[simp] theorem deedsOf_append (t : ActorId) (log log' : List (ActorId × Deed)) :
    deedsOf t (log ++ log') = deedsOf t log ++ deedsOf t log' := by
  simp [deedsOf]

@[simp] theorem deedsOf_singleton (t u : ActorId) (d : Deed) :
    deedsOf t [(u, d)] = if u = t then [d] else [] := by
  by_cases h : u = t <;> simp [deedsOf, h]

@[simp] theorem placedOn_nil (s : SinkId) : placedOn s [] = [] := rfl

@[simp] theorem placedOn_append (s : SinkId) (log log' : List (ActorId × Deed)) :
    placedOn s (log ++ log') = placedOn s log ++ placedOn s log' := by
  simp [placedOn]

@[simp] theorem placedOn_singleton (s : SinkId) (t : ActorId) (d : Deed) :
    placedOn s [(t, d)] = (d.placedOn? s).toList := by
  cases h : d.placedOn? s <;> simp [placedOn, h]

/-- What one actor placed on a sink is among its deeds. -/
theorem placedOn_filter (s : SinkId) (t : ActorId) (log : List (ActorId × Deed)) :
    placedOn s (log.filter fun e => e.1 = t) = (deedsOf t log).filterMap (·.placedOn? s) := by
  rw [placedOn, deedsOf, List.filterMap_map]
  rfl

/-! ## Sendings -/

/-- What became of a message. -/
inductive Fate where
  /-- Its destination has no subscription. -/
  | unregistered
  | placed (s : SinkId)
  /-- Nobody receives from the sink of its destination any more. -/
  | refused (s : SinkId)
deriving DecidableEq

/-- A message that was dealt with. -/
structure Sending where
  message : StreamMessage
  fate : Fate

/-- The deeds about a message that was dealt with. -/
def Sending.deeds (x : Sending) : List Deed :=
  match x.fate with
  | .unregistered => [.accepted x.message, .lookedUp x.message none]
  | .placed s => [.accepted x.message, .lookedUp x.message (some s), .placed x.message s]
  | .refused s => [.accepted x.message, .lookedUp x.message (some s), .refused x.message s]

/-- The deeds so far about a message that is on its way. -/
def underWay : Option Routing → List Deed
  | none => []
  | some (.looking m) => [.accepted m]
  | some (.writing m s) => [.accepted m, .lookedUp m (some s)]

/-- **One deed of one actor.** It is the next one about the message that is on its way, or the
last one; then nothing is on its way. -/
theorem Deed.Moves.underWay_eq {p q : Option Routing} {d : Deed} (h : d.Moves p q) :
    underWay p ++ [d] = underWay q ∨
      ∃ x : Sending, underWay p ++ [d] = x.deeds ∧ underWay q = [] := by
  cases h with
  | accept m => exact .inl rfl
  | find m s => exact .inl rfl
  | miss m => exact .inr ⟨⟨m, .unregistered⟩, rfl, rfl⟩
  | place m s => exact .inr ⟨⟨m, .placed s⟩, rfl, rfl⟩
  | refuse m s => exact .inr ⟨⟨m, .refused s⟩, rfl, rfl⟩

theorem filterMap_underWay (s : SinkId) (p : Option Routing) :
    (underWay p).filterMap (·.placedOn? s) = [] := by
  cases p with
  | none => rfl
  | some r => cases r <;> rfl

/-- What sendings placed on a sink, in their order. -/
theorem filterMap_flatMap_deeds (s : SinkId) (done : List Sending) :
    (done.flatMap Sending.deeds).filterMap (·.placedOn? s)
      = (done.filter fun x => x.fate = .placed s).map (·.message) := by
  induction done with
  | nil => rfl
  | cons x done ih =>
      rw [List.flatMap_cons, List.filterMap_append, ih, List.filter_cons]
      obtain ⟨m, fate⟩ := x
      cases fate with
      | unregistered => simp [Sending.deeds, Deed.placedOn?]
      | placed i => by_cases hi : i = s <;> simp [Sending.deeds, Deed.placedOn?, hi]
      | refused i => simp [Sending.deeds, Deed.placedOn?]

/-! ## One act -/

theorem Inbox.queue_of_receive? {i inbox : Inbox} {a : Arrival}
    (h : i.receive? = some (some a, inbox)) : i.channel.queue = a :: inbox.channel.queue := by
  unfold receive? at h
  split at h
  next b c hc =>
    cases h
    exact Channel.queue_of_take? hc
  next => split at h <;> cases h

namespace Network

variable {n₀ n n' : Network} {log : List (ActorId × Deed)}

/-- What an act does to the messages on their way and in the queues. -/
structure Advances (n : Network) (noted : List (ActorId × Deed)) (n' : Network) : Prop where
  numbered : n'.IsNumbered
  moves : ∀ t, deedsOf t noted = [] ∧ n'.pending? t = n.pending? t ∨
    ∃ d, deedsOf t noted = [d] ∧ d.Moves (n.pending? t) (n'.pending? t)
  queue : ∀ s, n'.queueOf s <:+ n.queueOf s ++ placedOn s noted

theorem Spares.advances (hn : n.IsNumbered) (h : n.Spares n') : n.Advances [] n' where
  numbered := h.numbered hn
  moves t := .inl ⟨rfl, h.pending hn t⟩
  queue s := by
    rw [placedOn_nil, List.append_nil]
    exact h.queue s

theorem deeds_step (n : Network) (t : ActorId) :
    Act.deeds n (.step t) = (n.deed? t).toList.map fun d => (t, d) := rfl

theorem placedOn_step (n : Network) (s : SinkId) (t : ActorId) :
    placedOn s (Act.deeds n (.step t)) = ((n.deed? t).bind (·.placedOn? s)).toList := by
  rw [deeds_step]
  cases n.deed? t with
  | none => rfl
  | some d => simp

theorem Serves.advances {t : ActorId} (h : n.Serves t n') :
    n.Advances (Act.deeds n (.step t)) n' where
  numbered := h.numbered
  moves u := by
    have hmoves := h.moves
    rw [deeds_step]
    by_cases hu : t = u
    · subst hu
      cases hd : n.deed? t with
      | none =>
          rw [hd] at hmoves
          exact .inl ⟨rfl, hmoves⟩
      | some d =>
          rw [hd] at hmoves
          exact .inr ⟨d, by simp, hmoves⟩
    · refine .inl ⟨?_, h.others u hu⟩
      cases n.deed? t <;> simp [hu]
  queue s := by
    have hsame : n'.queueOf s = n.queueOf s ++ placedOn s (Act.deeds n (.step t)) := by
      rw [placedOn_step, h.queue s]
    exact hsame ▸ List.suffix_rfl

/-- A message that is to be routed has an actor of its own. -/
theorem advances_route (hn : n.IsNumbered) (m : StreamMessage) :
    n.Advances (Act.deeds n (.route m)) (n.spawn (.courier (.looking m))).2 where
  numbered := ⟨hn.actors.extend _, hn.sinks⟩
  moves u := by
    rw [Act.deeds, deedsOf_singleton, spawn, pending?_setActor]
    by_cases hu : n.actors.size = u
    · subst hu
      have hnew : n.pending? n.actors.size = none := by
        rw [pending?, hn.actors.find?_size, Option.bind_none]
      refine .inr ⟨.accepted m, by simp, ?_⟩
      rw [hnew, if_pos rfl]
      exact .accept m
    · exact .inl ⟨by simp [hu], by simp [hu]⟩
  queue s := by
    have hnothing : placedOn s (Act.deeds n (.route m)) = [] := rfl
    rw [hnothing, List.append_nil]
    exact List.suffix_rfl

/-- **One act.** Whatever happens, deeds go on where they were, and what is added to a queue was
placed there. -/
theorem advances_of_perform? (hn : n.IsNumbered) {a : Act} (h : a.perform? n = some n') :
    n.Advances (a.deeds n) n' := by
  cases a with
  | step t =>
      by_cases hdeals : n.Deals t
      · exact (serves_of_step? hn hdeals h).advances
      · have hnone : Act.deeds n (.step t) = [] := by
          rw [Act.deeds, deed?_of_not_deals hdeals]
          rfl
        rw [hnone]
        exact (spares_of_not_deals hdeals h).advances hn
  | route m =>
      cases h
      exact advances_route hn m
  | _ => exact (spares_of_perform? (by simp) (by simp) h).advances hn

/-! ## Runs -/

/-- Nobody was served yet: there are no actors and no sinks. -/
def IsNew (n : Network) : Prop := n.actors = .empty ∧ n.sinks = .empty

theorem IsNew.isNumbered (h : n.IsNew) : n.IsNumbered := by
  obtain ⟨hactors, hsinks⟩ := h
  exact ⟨hactors ▸ Table.isNumbered_empty, hsinks ▸ Table.isNumbered_empty⟩

/-- The deeds of each actor are those of sendings and of what it has on its way, and each queue
holds the last of what was placed there. -/
structure Traces (log : List (ActorId × Deed)) (n : Network) : Prop where
  numbered : n.IsNumbered
  sendings : ∀ t, ∃ done : List Sending,
    deedsOf t log = done.flatMap Sending.deeds ++ underWay (n.pending? t)
  queue : ∀ s, n.queueOf s <:+ placedOn s log

theorem IsNew.traces (h : n.IsNew) : n.Traces [] where
  numbered := h.isNumbered
  sendings t := by
    refine ⟨[], ?_⟩
    rw [pending?, h.1]
    rfl
  queue s := by
    rw [queueOf, h.2]
    exact List.suffix_rfl

theorem Traces.advance (h : n.Traces log) {noted : List (ActorId × Deed)}
    (hnext : n.Advances noted n') : n'.Traces (log ++ noted) where
  numbered := hnext.numbered
  sendings t := by
    obtain ⟨done, hdone⟩ := h.sendings t
    rw [deedsOf_append, hdone]
    rcases hnext.moves t with ⟨hnone, hsame⟩ | ⟨d, hd, hmoves⟩
    · exact ⟨done, by rw [hnone, List.append_nil, hsame]⟩
    · rw [hd, List.append_assoc]
      -- the deed is one more about the same message, or the last one
      rcases hmoves.underWay_eq with hmore | ⟨x, hlast, hfree⟩
      · exact ⟨done, by rw [hmore]⟩
      · exact ⟨done ++ [x], by simp [hlast, hfree]⟩
  queue s := by
    obtain ⟨before, hbefore⟩ := h.queue s
    have hqueue := hnext.queue s
    rw [placedOn_append, ← hbefore, List.append_assoc]
    exact hqueue.trans (List.suffix_append _ _)

/-- The invariant holds after every run. -/
theorem traces_of_runs {allowed : Act → Prop} (h₀ : n₀.IsNew)
    (h : Runs Act.deeds allowed n₀ log n) : n.Traces log := by
  induction h with
  | start => exact h₀.traces
  | act a _ hn _ ih => exact ih.advance (advances_of_perform? ih.numbered hn)

/-! ## Faithful routing -/

/-- Routing is faithful up to now, and it is in what happens next. -/
structure Faithful (log : List (ActorId × Deed)) (n : Network) : Prop where
  /-- Each actor deals with one message after another, and with each in exactly one way. What it
  placed on a sink was placed in the order in which it was accepted. -/
  sendings : ∀ t, ∃ done : List Sending,
    deedsOf t log = done.flatMap Sending.deeds ++ underWay (n.pending? t) ∧
    ∀ s, placedOn s (log.filter fun e => e.1 = t)
      = (done.filter fun x => x.fate = .placed s).map (·.message)
  /-- A queue holds the last of what was placed on its sink, in the order of the log. -/
  queue : ∀ s, n.queueOf s <:+ placedOn s log
  /-- Nothing is added to a queue but what is placed there. -/
  grows : ∀ (a : Act) (n' : Network), a.perform? n = some n' → ∀ s,
    n'.queueOf s <:+ n.queueOf s ++ placedOn s (a.deeds n)
  /-- A step about a message does its deed and nothing else: the queues but for the message it
  places, the registry, and the message stream that it belongs to stay as they are. -/
  serves : ∀ t n', n.Deals t → n.step? t = some n' → n.Serves t n'
  /-- A message is accepted from the front of the inbox of its stream. -/
  accepted : ∀ t m n', n.deed? t = some (.accepted m) → n.step? t = some n' →
    m.code? = some .send ∧ ∃ source sink i i', n.actors.find? t = some (.router source sink none) ∧
      n.inboxes.find? source = some i ∧ n'.inboxes.find? source = some i' ∧
      i.channel.queue = .ok m :: i'.channel.queue
  /-- A message is looked up under the key that it is sent to. -/
  lookedUp : ∀ t m sink?, n.deed? t = some (.lookedUp m sink?) →
    sink? = (n.backend.registry.find? m.receiver).map (·.sink)
  /-- A message is refused only by a sink from which nobody receives any more. -/
  refused : ∀ t m s, n.deed? t = some (.refused m s) → n.isSinkClosed s = true

/-- **Routing is faithful.** After every run of a network that began with no actors and no
sinks, on whatever backend, and in every interleaving of its streams and peers. -/
theorem faithful_of_runs (h₀ : n₀.IsNew) (h : Runs Act.deeds (fun _ => True) n₀ log n) :
    n.Faithful log := by
  have htraces := traces_of_runs h₀ h
  have hn := htraces.numbered
  refine ⟨?_, htraces.queue, ?_, ?_, ?_, ?_, ?_⟩
  · intro t
    obtain ⟨done, hdone⟩ := htraces.sendings t
    refine ⟨done, hdone, ?_⟩
    intro s
    rw [placedOn_filter, hdone, List.filterMap_append, filterMap_flatMap_deeds,
      filterMap_underWay, List.append_nil]
  · intro a n' hperform
    exact (advances_of_perform? hn hperform).queue
  · intro t n' hdeals hstep
    exact serves_of_step? hn hdeals hstep
  · intro t m n' hdeed hstep
    obtain ⟨-, hm⟩ := nextSend?_of_deed? hdeed
    obtain ⟨source, sink, i, inbox, hx, hi, hreceive, hsend, rfl⟩ := exists_accept hm hstep
    have hfound : ((n.setInbox source inbox).setActor t
        (.router source sink (some (.looking m)))).inboxes.find? source = some inbox := by
      unfold setActor setInbox
      rw [Table.find?_insert, if_pos rfl]
    exact ⟨hsend, source, sink, i, inbox, hx, hi, hfound, Inbox.queue_of_receive? hreceive⟩
  · intro t m sink? hdeed
    exact sink_of_deed? hdeed
  · intro t m s hdeed
    exact isSinkClosed_of_deed? hdeed

/-! ### Two streams and a guest -/

/-- A message to a peer. -/
def letter (receiver : String) (content : UInt8) : StreamMessage :=
  { code := 3, receiver, data := [content] }

/-- The first stream connects the key `a`, and its sink has room for one message. The second one
sends it two, which has to wait for the second, and then one to nobody. A guest has a message
routed; it is looked up before the first stream goes away and is written afterwards. -/
def correspondence : List Act :=
  [.openMessages 1, .openMessages 1,
    .submit 0 (.ok { code := 1, key := "a" }), .step 0,
    .submit 1 (.ok (letter "a" 1)), .step 1, .step 1, .step 1,
    .submit 1 (.ok (letter "a" 2)), .step 1, .step 1, .step 1,
    .drain 0 none, .step 1,
    .submit 1 (.ok (letter "z" 3)), .step 1, .step 1,
    .route (letter "a" 4), .step 2, .closeSink 0, .step 2]

def correspondenceLog : List (ActorId × Deed) :=
  [(1, .accepted (letter "a" 1)), (1, .lookedUp (letter "a" 1) (some 0)),
    (1, .placed (letter "a" 1) 0),
    (1, .accepted (letter "a" 2)), (1, .lookedUp (letter "a" 2) (some 0)),
    (1, .placed (letter "a" 2) 0),
    (1, .accepted (letter "z" 3)), (1, .lookedUp (letter "z" 3) none),
    (2, .accepted (letter "a" 4)), (2, .lookedUp (letter "a" 4) (some 0)),
    (2, .refused (letter "a" 4) 0)]

theorem faithful_correspondence :
    ∃ n₀ n : Network, n₀.IsNew ∧ Runs Act.deeds (fun _ => True) n₀ correspondenceLog n ∧
      n.Faithful correspondenceLog := by
  let n₀ : Network := { backend := { wall := .epoch, clock := .epoch }, frameLimit := 16 }
  have hnew : n₀.IsNew := ⟨rfl, rfl⟩
  have hlog : (play Act.deeds correspondence n₀).any (fun p => p.1 = correspondenceLog) = true := by
    decide +kernel
  obtain ⟨⟨log, n⟩, hplay, heq⟩ := (Option.any_eq_true _ _).mp hlog
  obtain rfl : log = correspondenceLog := of_decide_eq_true heq
  have hruns : Runs Act.deeds (fun _ => True) n₀ correspondenceLog n :=
    runs_of_play (fun _ _ => trivial) hplay
  exact ⟨n₀, n, hnew, hruns, faithful_of_runs hnew hruns⟩

end Network
end ControlPlane
