import ControlPlane.Proofs.Network.Carriage

/-!
# Runs of a network are courses of its bridges

For a bridge everything that happens in a network is a move of its own or happens elsewhere: its
reader and its writer take their steps, the stream receives from the inbox, an actor with a message
writes to the sink, the client sends frames or vanishes. The socket, the filling of the inbox and
the emptying of the sink are left to the reader and the writer (`Bridge.IsLeft`), whatever else
comes to be in the network.

Main statement: `Bridge.leads_of_runs`, for every socket that is opened and every run after that, as
long as the actor of its stream has not ended.
-/

set_option autoImplicit false

namespace ControlPlane

/-! ## What an actor keeps -/

/-- An actor goes on with the same parts of the network, or ends. -/
inductive Actor.Becomes (x : Actor) : Actor → Prop
  | same {y : Actor} (socket : y.socket? = x.socket?) (inbox : y.inbox? = x.inbox?)
      (sinkServed : y.sinkServed? = x.sinkServed?) (inboxServed : y.inboxServed? = x.inboxServed?) :
      Becomes x y
  | ended (e : Ending) : Becomes x (.ended e)

theorem Actor.mem_sinks_of_sinkServed? {x : Actor} {s : SinkId} (h : x.sinkServed? = some s) :
    s ∈ x.sinks := by
  cases x with
  | writer k s' reader =>
      obtain rfl := Option.some.inj h
      exact List.mem_singleton_self _
  | _ => cases h

namespace Network

variable {n n' : Network} {t : ActorId} {x : Actor}

/-- A step changes one actor, which goes on with the same parts or ends. -/
def Turns (n : Network) (t : ActorId) (x : Actor) (n' : Network) : Prop :=
  ∃ y, x.Becomes y ∧ n'.actors = n.actors.insert t y

theorem turns_keep (hx : n.actors.find? t = some x) (h : n'.actors = n.actors) : n.Turns t x n' :=
  ⟨x, .same rfl rfl rfl rfl, by rw [h, Table.insert_of_find? hx]⟩

theorem turns_end (e : Ending) (h : n'.actors = (n.setActor t (.ended e)).actors) :
    n.Turns t x n' :=
  ⟨.ended e, .ended e, h⟩

theorem actors_closeSink (n : Network) (s : SinkId) : (n.closeSink s).actors = n.actors := by
  unfold closeSink
  split <;> rfl

theorem actors_endInbox (n : Network) (i : InboxId) : (n.endInbox i).actors = n.actors := by
  unfold endInbox
  split <;> rfl

theorem turns_heed (l : Loop) (i : InboxId) (arrival? : Option Arrival) (z : Inbox) :
    n.Turns t (l.actor i none) (n.heed l i t arrival? z) := by
  refine ⟨l.turn i (l.respond n.ingest arrival? n.backend).1, ?_, rfl⟩
  cases (l.respond n.ingest arrival? n.backend).1 with
  | receive => exact .same rfl rfl rfl rfl
  | route m => cases l <;> exact .same rfl rfl rfl rfl
  | stop e => exact .ended e

theorem turns_readerStep? {k : SocketId} {i : InboxId} {held : Option Arrival}
    (hx : n.actors.find? t = some (.reader k i held)) (hn : n.readerStep? t k i held = some n') :
    n.Turns t (.reader k i held) n' := by
  cases held with
  | some a =>
      obtain ⟨z, -, hhands⟩ := hands_of_readerStep? hn
      cases hhands with
      | wait hw => exact turns_keep hx rfl
      | hand hw hne => exact ⟨.reader k i none, .same rfl rfl rfl rfl, rfl⟩
      | fail hw hne => exact turns_end .ok (actors_endInbox _ i)
  | none =>
      simp only [readerStep?, Option.bind_eq_bind, Option.bind_eq_some_iff] at hn
      obtain ⟨s, -, hn⟩ := hn
      split at hn
      next =>
        split at hn <;> cases hn
        exact turns_end .ok (actors_endInbox _ i)
      next item rest _ =>
        split at hn <;> cases hn
        · exact turns_keep hx rfl
        next a _ => exact ⟨.reader k i (some a), .same rfl rfl rfl rfl, rfl⟩
        · exact turns_keep hx rfl
        · exact turns_end .ok (actors_endInbox _ i)

theorem turns_writerStep? {k : SocketId} {s : SinkId} {reader : ActorId}
    (hx : n.actors.find? t = some (.writer k s reader))
    (hn : n.writerStep? t k s reader = some n') : n.Turns t (.writer k s reader) n' := by
  simp only [writerStep?, Option.bind_eq_bind, Option.bind_eq_some_iff] at hn
  obtain ⟨socket, -, c, -, hn⟩ := hn
  split at hn
  next =>
    split at hn <;> cases hn
    · exact turns_keep hx rfl
    · exact turns_end .ok (actors_closeSink _ s)
  next =>
    split at hn
    next =>
      obtain ⟨-, rfl⟩ := abandon?_cases hn
      exact turns_end .ok (actors_closeSink _ s)
    next =>
      cases hn
      exact turns_end .ok (actors_closeSink _ s)

theorem turns_quit? (hn : n.quit? t = some n') :
    ∃ x, n.actors.find? t = some x ∧ n.Turns t x n' := by
  obtain ⟨_, s, _, hx, -, rfl⟩ := quit?_cases hn
  exact ⟨_, hx, turns_end .ok (actors_closeSink _ s)⟩

theorem turns_step? (hn : n.step? t = some n') :
    ∃ x, n.actors.find? t = some x ∧ n.Turns t x n' := by
  have hstep := hn
  simp only [step?, Option.bind_eq_bind, Option.bind_eq_some_iff] at hstep
  obtain ⟨x, hx, hstep⟩ := hstep
  refine ⟨x, hx, ?_⟩
  -- a loop that waits for what arrives next
  have hloop {l : Loop} {i : InboxId} (hl : x = l.actor i none) : n.Turns t x n' := by
    subst hl
    rw [step?_actor hx] at hn
    obtain ⟨⟨arrival?, z⟩, -, rfl⟩ := Option.map_eq_some_iff.mp hn
    exact turns_heed l i arrival? z
  cases x with
  | router source sink pending =>
      cases pending with
      | none => exact hloop (l := .routing sink) rfl
      | some r =>
          rw [step?_pending hx] at hn
          obtain ⟨⟨next, n₁⟩, hroute, rfl⟩ := Option.map_eq_some_iff.mp hn
          refine ⟨.router source sink next.pending?, .same rfl rfl rfl rfl, ?_⟩
          rw [setActor, (performs_of_routeStep? hroute).actors]
  | courier pending =>
      simp only [courierStep?, Option.bind_eq_bind, Option.bind_eq_some_iff] at hstep
      obtain ⟨⟨next, n₁⟩, hroute, hstep⟩ := hstep
      cases next with
      | inl rest =>
          cases hstep
          refine ⟨.courier rest, .same rfl rfl rfl rfl, ?_⟩
          rw [setActor, (performs_of_routeStep? hroute).actors]
      | inr result =>
          cases hstep
          refine turns_end (endingOf result) ?_
          rw [setActor, setActor, (performs_of_routeStep? hroute).actors]
  | subscriber sink signal =>
      simp only [subscriberStep?] at hstep
      split at hstep <;> cases hstep
      exact turns_end .ok rfl
  | collector source sink? => exact hloop (l := .telemetry sink?) rfl
  | reader k i held => exact turns_readerStep? hx hstep
  | writer k s reader => exact turns_writerStep? hx hstep
  | ended e => cases hstep

/-- An actor that has ended takes no step. -/
theorem ending?_of_turn (hn : n.step? t = some n' ∨ n.quit? t = some n')
    (hx : n.actors.find? t = some x) : x.ending? = none := by
  cases x with
  | ended e => rcases hn with hn | hn <;> simp [step?, quit?, hx] at hn
  | _ => rfl

/-- Other acts than steps leave the actors that are there as they are. -/
theorem find?_of_perform? {u : ActorId} (h : n.IsAttended) {a : Act} (ha : a.IsBridged)
    (hstep : ∀ t, a ≠ .step t) (hquit : ∀ t, a ≠ .quit t) (hn : a.perform? n = some n')
    (hu : (n.actors.find? u).isSome = true) : n'.actors.find? u = n.actors.find? u := by
  cases a with
  | step t => exact absurd rfl (hstep t)
  | quit t => exact absurd rfl (hquit t)
  | openSocket p capacity =>
      cases hn
      rw [openSocket_eq]
      cases p <;> exact find?_staffed_of_isSome h.actors hu
  | clientSend k f =>
      simp only [Act.perform?, clientSend, Option.bind_eq_bind, Option.bind_eq_some_iff] at hn
      obtain ⟨s, -, hn⟩ := hn
      split at hn <;> cases hn
      rfl
  | clientReceive k =>
      cases hn
      unfold clientReceive
      split <;> rfl
  | clientVanish k =>
      cases hn
      unfold clientVanish
      split <;> rfl
  | route m =>
      cases hn
      exact h.actors.find?_extended hu _
  | ask c =>
      cases hn
      rfl
  | _ => cases ha

/-- An actor that has ended stays so. -/
theorem ending?_of_perform? {u : ActorId} (h : n.IsAttended)
    (hu : (n.actors.find? u).isSome = true) {a : Act} (ha : a.IsBridged)
    (hn : a.perform? n = some n') :
    (n'.actors.find? u).isSome = true ∧ (n'.ending? u = none → n.ending? u = none) := by
  have hturn {t : ActorId} (hn : n.step? t = some n' ∨ n.quit? t = some n') :
      (n'.actors.find? u).isSome = true ∧ (n'.ending? u = none → n.ending? u = none) := by
    obtain ⟨x, hx, y, -, hactors⟩ := hn.elim turns_step? turns_quit?
    refine ⟨hactors ▸ Table.isSome_insert hu, fun hup => ?_⟩
    by_cases htu : t = u
    · subst htu
      rw [ending?, hx, Option.bind_some, ending?_of_turn hn hx]
    · rwa [ending?, hactors, Table.find?_insert, if_neg htu] at hup
  by_cases hstep : ∃ t, a = .step t
  · obtain ⟨t, rfl⟩ := hstep
    exact hturn (.inl hn)
  by_cases hquit : ∃ t, a = .quit t
  · obtain ⟨t, rfl⟩ := hquit
    exact hturn (.inr hn)
  have hsame := find?_of_perform? h ha (fun t ht => hstep ⟨t, ht⟩) (fun t ht => hquit ⟨t, ht⟩) hn hu
  refine ⟨hsame ▸ hu, fun hup => ?_⟩
  rwa [ending?, hsame] at hup

end Network

namespace Bridge

variable {b : Bridge} {u t : ActorId} {n n' n'' : Network} {x y : Actor} {z : Inbox}
  {c : Channel StreamMessage} {s : Socket}

/-! ## What is left to a bridge -/

/-- The socket of a bridge, the filling of its inbox and the emptying of its sink are left to its
reader and its writer; only the actor of the stream receives from the inbox. -/
structure IsLeft (b : Bridge) (u : ActorId) (n : Network) : Prop where
  socket : ∀ t x, n.actors.find? t = some x → x.socket? = some b.socket →
    t = b.reader ∨ t = b.writer
  sink : ∀ t x, n.actors.find? t = some x → x.sinkServed? = some b.sink → t = b.writer
  inbox : ∀ t x, n.actors.find? t = some x → x.inbox? = some b.inbox →
    t = b.reader ∨ t = u ∧ x.inboxServed? = some b.inbox

namespace IsLeft

theorem turn (h : b.IsLeft u n) (hx : n.actors.find? t = some x) (hn : n.Turns t x n') :
    b.IsLeft u n' := by
  obtain ⟨y, hy, hactors⟩ := hn
  have hfind (v : ActorId) (w : Actor) (hw : n'.actors.find? v = some w) :
      t = v ∧ y = w ∨ n.actors.find? v = some w := by
    rw [hactors, Table.find?_insert] at hw
    split at hw
    next htv => exact .inl ⟨htv, Option.some.inj hw⟩
    next => exact .inr hw
  constructor
  · intro v w hw hsocket
    obtain ⟨rfl, rfl⟩ | hold := hfind v w hw
    · cases hy with
      | same hsame => exact h.socket t x hx (hsame.symm.trans hsocket)
      | ended e => cases hsocket
    · exact h.socket v w hold hsocket
  · intro v w hw hserved
    obtain ⟨rfl, rfl⟩ | hold := hfind v w hw
    · cases hy with
      | same _ _ hsame => exact h.sink t x hx (hsame.symm.trans hserved)
      | ended e => cases hserved
    · exact h.sink v w hold hserved
  · intro v w hw hinbox
    obtain ⟨rfl, rfl⟩ | hold := hfind v w hw
    · cases hy with
      | same _ hsame _ hserved =>
          exact (h.inbox t x hx (hsame.symm.trans hinbox)).imp_right fun hu =>
            ⟨hu.1, hserved.trans hu.2⟩
      | ended e => cases hinbox
    · exact h.inbox v w hold hinbox

/-- A new actor that has to do with other parts. -/
theorem spawn (h : b.IsLeft u n) (hsocket : y.socket? ≠ some b.socket)
    (hsink : y.sinkServed? ≠ some b.sink) (hinbox : y.inbox? ≠ some b.inbox) :
    b.IsLeft u (n.spawn y).2 := by
  constructor
  · intro v w hw hpart
    rcases Network.eq_or_find?_of_spawn hw with rfl | hold
    · exact absurd hpart hsocket
    · exact h.socket v w hold hpart
  · intro v w hw hpart
    rcases Network.eq_or_find?_of_spawn hw with rfl | hold
    · exact absurd hpart hsink
    · exact h.sink v w hold hpart
  · intro v w hw hpart
    rcases Network.eq_or_find?_of_spawn hw with rfl | hold
    · exact absurd hpart hinbox
    · exact h.inbox v w hold hpart

theorem of_eq (h : b.IsLeft u n) (hn : n'.actors = n.actors) : b.IsLeft u n' :=
  ⟨hn ▸ h.socket, hn ▸ h.sink, hn ▸ h.inbox⟩

end IsLeft

/-! ## What happens elsewhere -/

namespace IsPassed

theorem refl (b : Bridge) (n : Network) : b.IsPassed n n :=
  ⟨rfl, rfl, rfl, rfl, rfl, fun s hs => ⟨s, hs, rfl, rfl, id⟩⟩

theorem trans (h : b.IsPassed n n') (h' : b.IsPassed n' n'') : b.IsPassed n n'' where
  frameLimit := h'.frameLimit.trans h.frameLimit
  reader := h'.reader.trans h.reader
  writer := h'.writer.trans h.writer
  inbox := h'.inbox.trans h.inbox
  sink := h'.sink.trans h.sink
  socket s hs := by
    obtain ⟨s', hs', hinbound', hended', hwritable'⟩ := h.socket s hs
    obtain ⟨s'', hs'', hinbound'', hended'', hwritable''⟩ := h'.socket s' hs'
    exact ⟨s'', hs'', hinbound''.trans hinbound', hended''.trans hended', hwritable' ∘ hwritable''⟩

variable (n)

theorem backend (a : Backend) : b.IsPassed n { n with backend := a } :=
  { refl b n with }

theorem setActor (hreader : t ≠ b.reader) (hwriter : t ≠ b.writer) (x : Actor) :
    b.IsPassed n (n.setActor t x) :=
  { refl b n with
    reader := by rw [Network.setActor, Table.find?_insert, if_neg hreader]
    writer := by rw [Network.setActor, Table.find?_insert, if_neg hwriter] }

theorem setInbox {i : InboxId} (hi : i ≠ b.inbox) (z : Inbox) : b.IsPassed n (n.setInbox i z) :=
  { refl b n with inbox := by rw [Network.setInbox, Table.find?_insert, if_neg hi] }

theorem setSink {i : SinkId} (hi : i ≠ b.sink) (c : Channel StreamMessage) :
    b.IsPassed n (n.setSink i c) :=
  { refl b n with sink := by rw [Network.setSink, Table.find?_insert, if_neg hi] }

theorem setSocket {k : SocketId} (hk : k ≠ b.socket) (s : Socket) :
    b.IsPassed n (n.setSocket k s) :=
  { refl b n with
    socket := fun s' hs' =>
      ⟨s', by rw [Network.setSocket, Table.find?_insert, if_neg hk, hs'], rfl, rfl, id⟩ }

theorem endInbox {i : InboxId} (hi : i ≠ b.inbox) : b.IsPassed n (n.endInbox i) := by
  unfold Network.endInbox
  split
  · exact setInbox n hi _
  · exact refl b n

theorem closeSink {i : SinkId} (hi : i ≠ b.sink) : b.IsPassed n (n.closeSink i) := by
  unfold Network.closeSink
  split
  · exact setSink n hi _
  · exact refl b n

theorem endWriter (hreader : t ≠ b.reader) (hwriter : t ≠ b.writer) {i : SinkId}
    (hi : i ≠ b.sink) : b.IsPassed n (n.endWriter t i) :=
  (setActor n hreader hwriter (.ended .ok)).trans (closeSink _ hi)

end IsPassed

/-- What happens between two moments is a course of the bridge, in which the socket goes on. -/
def Leads (b : Bridge) (n n' : Network) : Prop := ∃ seen, b.Course n seen n' ∧ .finished ∉ seen

namespace Leads

theorem move (a : Move) {es : List Event} (h : b.perform? n a = some (es, n'))
    (hes : .finished ∉ es) : b.Leads n n' :=
  ⟨[] ++ es, Course.start.move a h, by simpa using hes⟩

theorem pass (h : b.IsPassed n n') : b.Leads n n' := ⟨[], Course.start.pass h, List.not_mem_nil⟩

theorem trans (h : b.Leads n n') (h' : b.Leads n' n'') : b.Leads n n'' := by
  obtain ⟨seen, hcourse, hseen⟩ := h
  obtain ⟨more, hcourse', hmore⟩ := h'
  exact ⟨seen ++ more, hcourse.trans hcourse', by simp [hseen, hmore]⟩

end Leads

/-! ## Steps -/

theorem finished_not_mem_newFrames (b : Bridge) (n n' : Network) :
    .finished ∉ b.newFrames n n' := by
  intro hmem
  obtain ⟨f, -, hf⟩ := List.mem_map.mp hmem
  cases hf

/-- The step of an actor that has a message on its way. -/
theorem leads_routeStep? {r : Routing} {next : Network.Routed}
    (h : n.routeStep? t r = some (next, n')) : b.Leads n n' := by
  cases r with
  | looking m =>
      obtain ⟨l, hl⟩ := Network.run_lookUp n m
      have hpass : b.Leads n (n.withLedger l) := .pass (.backend n _)
      simp only [Network.routeStep?, hl] at h
      split at h <;> cases h <;> exact hpass
  | writing m i =>
      simp only [Network.routeStep?, Option.bind_eq_bind, Option.bind_eq_some_iff] at h
      obtain ⟨c, hc, ⟨w, d⟩, hw, h⟩ := h
      have hset : b.Leads n (n.setSink i d) := by
        by_cases hi : i = b.sink
        · subst hi
          have hsend : b.perform? n (.send t m)
              = some (if w = .written then [.sent m] else [], n.setSink b.sink d) := by
            simp [perform?, hc, hw]
          refine .move (.send t m) hsend ?_
          split <;> simp
        · exact .pass (.setSink n hi d)
      have hdone {a : Backend} : b.Leads n { n.setSink i d with backend := a } :=
        hset.trans (.pass (.backend _ a))
      split at h <;> cases h
      · exact hset
      · exact hdone
      · exact hdone

/-- The step of a loop that receives. -/
theorem leads_heed {l : Loop} {i : InboxId} {z z' : Inbox} {arrival? : Option Arrival}
    (hreader : t ≠ b.reader) (hwriter : t ≠ b.writer) (hz : n.inboxes.find? i = some z)
    (hreceive : z.receive? = some (arrival?, z'))
    (hup : i = b.inbox → (n.heed l i t arrival? z').ending? t = none) :
    b.Leads n (n.heed l i t arrival? z') := by
  unfold Network.heed at hup ⊢
  generalize l.respond n.ingest arrival? n.backend = response at hup ⊢
  obtain ⟨next, a⟩ := response
  dsimp only at hup ⊢
  by_cases hi : i = b.inbox
  · subst hi
    -- the loop goes on, so it still receives from its inbox
    have hgoes : ∀ e, next ≠ .stop e := by
      rintro e rfl
      have hending := hup rfl
      rw [Network.ending?] at hending
      simp only [Network.setInbox, Network.setActor, Table.find?_insert_self] at hending
      cases hending
    rw [Router.Next.leaves_eq hgoes]
    have hmove : b.Leads n (n.setInbox b.inbox z') := by
      have hgot : b.perform? n .receive = some ([.got arrival?], n.setInbox b.inbox z') := by
        simp [perform?, hz, hreceive]
      exact .move .receive hgot (by simp)
    exact hmove.trans (.pass ((IsPassed.backend _ a).trans (.setActor _ hreader hwriter _)))
  · exact .pass (((IsPassed.backend n a).trans (.setActor _ hreader hwriter _)).trans
      (.setInbox _ hi _))

theorem isPassed_readerStep? {k : SocketId} {i : InboxId} {held : Option Arrival}
    (hreader : t ≠ b.reader) (hwriter : t ≠ b.writer) (hk : k ≠ b.socket) (hi : i ≠ b.inbox)
    (hn : n.readerStep? t k i held = some n') : b.IsPassed n n' := by
  have hend (n : Network) : b.IsPassed n (n.endReader t i) :=
    (IsPassed.setActor n hreader hwriter (.ended .ok)).trans (.endInbox _ hi)
  cases held with
  | some a =>
      obtain ⟨z, -, hhands⟩ := Network.hands_of_readerStep? hn
      cases hhands with
      | wait hw => exact .setInbox n hi _
      | hand hw hne => exact (IsPassed.setInbox n hi _).trans (.setActor _ hreader hwriter _)
      | fail hw hne => exact (IsPassed.setInbox n hi _).trans (hend _)
  | none =>
      simp only [Network.readerStep?, Option.bind_eq_bind, Option.bind_eq_some_iff] at hn
      obtain ⟨s, -, hn⟩ := hn
      split at hn
      next =>
        split at hn <;> cases hn
        exact hend n
      next =>
        split at hn <;> cases hn
        · exact .setSocket n hk _
        · exact (IsPassed.setSocket n hk _).trans (.setActor _ hreader hwriter _)
        · exact .setSocket n hk _
        · exact (IsPassed.setSocket n hk _).trans (hend _)

theorem isPassed_writerStep? {k : SocketId} {i : SinkId} {reader : ActorId}
    (hreader : t ≠ b.reader) (hwriter : t ≠ b.writer) (hk : k ≠ b.socket) (hi : i ≠ b.sink)
    (hn : n.writerStep? t k i reader = some n') : b.IsPassed n n' := by
  have hend (n : Network) := IsPassed.endWriter n hreader hwriter hi
  simp only [Network.writerStep?, Option.bind_eq_bind, Option.bind_eq_some_iff] at hn
  obtain ⟨s, -, c, -, hn⟩ := hn
  split at hn
  next =>
    split at hn <;> cases hn
    · exact (IsPassed.setSink n hi _).trans (.setSocket _ hk _)
    · exact (IsPassed.setSink n hi _).trans (hend _)
  next =>
    split at hn
    next =>
      obtain ⟨-, rfl⟩ := Network.abandon?_cases hn
      exact hend n
    next =>
      cases hn
      exact (IsPassed.setSocket n hk _).trans (hend _)

/-- A writer leaves its sink. -/
theorem leads_quit? (h : b.IsLeft u n)
    (hreader : ∀ k i r, n.actors.find? b.reader ≠ some (.writer k i r))
    (hn : n.quit? t = some n') : b.Leads n n' := by
  by_cases hwriter : t = b.writer
  · subst hwriter
    have hquit : b.perform? n .quit = some ([], n') := by simp [perform?, hn]
    exact .move .quit hquit List.not_mem_nil
  · obtain ⟨k, i, r, hx, -, rfl⟩ := Network.quit?_cases hn
    have hne : t ≠ b.reader := by
      rintro rfl
      exact hreader k i r hx
    have hi : i ≠ b.sink := by
      rintro rfl
      exact hwriter (h.sink t _ hx rfl)
    exact .pass (.endWriter n hne hwriter hi)

/-- **One step.** -/
theorem leads_step? (h : b.IsLeft u n) (hn : n.step? t = some n') (hup : n'.ending? u = none) :
    b.Leads n n' := by
  by_cases hreader : t = b.reader
  · subst hreader
    have hread : b.perform? n .read = some (.read :: b.newFrames n n', n') := by
      simp [perform?, hn]
    refine .move .read hread ?_
    simpa using b.finished_not_mem_newFrames n n'
  by_cases hwriter : t = b.writer
  · subst hwriter
    have hwrite : b.perform? n .write = some (b.newFrames n n', n') := by simp [perform?, hn]
    exact .move .write hwrite (b.finished_not_mem_newFrames n n')
  have hset (n : Network) (x : Actor) : b.Leads n (n.setActor t x) :=
    .pass (.setActor n hreader hwriter x)
  have hstep := hn
  simp only [Network.step?, Option.bind_eq_bind, Option.bind_eq_some_iff] at hstep
  obtain ⟨x, hx, hstep⟩ := hstep
  have hloop {l : Loop} {i : InboxId} (hl : x = l.actor i none) : b.Leads n n' := by
    subst hl
    rw [Network.step?_actor hx] at hn
    obtain ⟨⟨arrival?, z'⟩, hreceive, rfl⟩ := Option.map_eq_some_iff.mp hn
    obtain ⟨z, hz, hreceive⟩ := Option.bind_eq_some_iff.mp hreceive
    refine leads_heed hreader hwriter hz hreceive fun hi => ?_
    -- only the actor of the stream receives from the inbox
    have hinbox : (l.actor i none).inbox? = some b.inbox := by
      cases l <;> exact congrArg some hi
    obtain ⟨rfl, -⟩ := (h.inbox t _ hx hinbox).resolve_left hreader
    exact hup
  cases x with
  | router source sink pending =>
      cases pending with
      | none => exact hloop (l := .routing sink) rfl
      | some r =>
          rw [Network.step?_pending hx] at hn
          obtain ⟨⟨next, n₁⟩, hroute, rfl⟩ := Option.map_eq_some_iff.mp hn
          exact (leads_routeStep? hroute).trans (hset n₁ _)
  | courier pending =>
      simp only [Network.courierStep?, Option.bind_eq_bind, Option.bind_eq_some_iff] at hstep
      obtain ⟨⟨next, n₁⟩, hroute, hstep⟩ := hstep
      cases next <;> cases hstep <;> exact (leads_routeStep? hroute).trans (hset n₁ _)
  | subscriber sink signal =>
      simp only [Network.subscriberStep?] at hstep
      split at hstep <;> cases hstep
      exact (Leads.pass (.backend n _)).trans (hset _ _)
  | collector source sink? => exact hloop (l := .telemetry sink?) rfl
  | reader k i held =>
      have hk : k ≠ b.socket := by
        rintro rfl
        rcases h.socket t _ hx rfl with heq | heq
        · exact hreader heq
        · exact hwriter heq
      have hi : i ≠ b.inbox := by
        rintro rfl
        rcases h.inbox t _ hx rfl with heq | ⟨-, hserved⟩
        · exact hreader heq
        · cases hserved
      exact .pass (isPassed_readerStep? hreader hwriter hk hi hstep)
  | writer k i reader =>
      have hk : k ≠ b.socket := by
        rintro rfl
        rcases h.socket t _ hx rfl with heq | heq
        · exact hreader heq
        · exact hwriter heq
      have hi : i ≠ b.sink := by
        rintro rfl
        exact hwriter (h.sink t _ hx rfl)
      exact .pass (isPassed_writerStep? hreader hwriter hk hi hstep)
  | ended e => cases hstep

/-! ## Clients -/

/-- A client changes its socket: it may send an item, it may cease to take frames. -/
theorem leads_setSocket {k : SocketId} {s' : Socket} (hs : n.sockets.find? k = some s)
    (hopen : k = b.socket → s.isEnded = false) (hended : s'.isEnded = s.isEnded)
    (hwritable : s'.isWritable = true → s.isWritable = true)
    (hinbound : s'.inbound = s.inbound ∨ ∃ item, s'.inbound = s.inbound ++ [item]) :
    b.Leads n (n.setSocket k s') := by
  by_cases hk : k = b.socket
  · subst hk
    have hset (n : Network) {s₁ : Socket} (hs₁ : n.sockets.find? b.socket = some s₁)
        (hsame : s'.inbound = s₁.inbound) (hended₁ : s'.isEnded = s₁.isEnded)
        (hwritable₁ : s'.isWritable = true → s₁.isWritable = true) :
        b.IsPassed n (n.setSocket b.socket s') :=
      { IsPassed.refl b n with
        socket := fun s₂ hs₂ => by
          obtain rfl : s₁ = s₂ := Option.some.inj (hs₁.symm.trans hs₂)
          exact ⟨s', Table.find?_insert_self .., hsame, hended₁, hwritable₁⟩ }
    rcases hinbound with hsame | ⟨item, hmore⟩
    · exact .pass (hset n hs hsame hended hwritable)
    · have hcome : b.Leads n (n.setSocket b.socket { s with inbound := s.inbound ++ [item] }) := by
        have hcame : b.perform? n (.come item) = some ([.came item],
            n.setSocket b.socket { s with inbound := s.inbound ++ [item] }) := by
          simp [perform?, hs, hopen rfl]
        exact .move (.come item) hcame (by simp)
      have hpass := hset (n.setSocket b.socket { s with inbound := s.inbound ++ [item] })
        (Table.find?_insert_self ..) hmore hended hwritable
      rw [Network.setSocket, Network.setSocket, Table.insert_insert] at hpass
      exact hcome.trans (.pass hpass)
  · exact .pass (.setSocket n hk s')

/-! ## New sockets -/

theorem isPassed_staffed (h : n.IsAttended) (hhas : b.Has n x y z c s) (a : Backend) (z' : Inbox)
    (capacity : Nat) (w : Actor) : b.IsPassed n ((n.furnished a z' capacity).staffed w
      n.sockets.size n.inboxes.size n.sinks.size) where
  frameLimit := rfl
  reader := Network.find?_staffed_of_isSome (n := n.furnished a z' capacity) h.actors
    (hhas.reader ▸ rfl)
  writer := Network.find?_staffed_of_isSome (n := n.furnished a z' capacity) h.actors
    (hhas.writer ▸ rfl)
  inbox := h.numberedInboxes.find?_extended (hhas.inbox ▸ rfl) z'
  sink := h.sinks.find?_extended (hhas.sink ▸ rfl) { capacity }
  socket s hs := ⟨s, (h.numberedSockets.find?_extended (hs ▸ rfl) {}).trans hs, rfl, rfl, id⟩

theorem isPassed_openSocket (h : n.IsAttended) (hhas : b.Has n x y z c s) (p : Network.Purpose)
    (capacity : Nat) : b.IsPassed n (n.openSocket p capacity).2 := by
  rw [Network.openSocket_eq]
  cases p with
  | messages => exact isPassed_staffed h hhas _ _ capacity _
  | telemetry => exact isPassed_staffed h hhas _ _ capacity _
  | control key => exact isPassed_staffed h hhas _ _ capacity _

/-- **One act.** -/
theorem leads_perform? (h : b.IsLeft u n) (hattended : n.IsAttended) (hhas : b.Has n x y z c s)
    (hreader : ∀ k i r, x ≠ .writer k i r) (hopen : s.isEnded = false) {a : Act}
    (ha : a.IsBridged) (hn : a.perform? n = some n') (hup : n'.ending? u = none) :
    b.Leads n n' := by
  -- a client of the socket of the bridge finds it going on
  have hsame {k : SocketId} {s' : Socket} (hs' : n.sockets.find? k = some s') (hk : k = b.socket) :
      s'.isEnded = false := by
    rw [hk] at hs'
    rwa [Option.some.inj (hs'.symm.trans hhas.socket)]
  cases a with
  | step t => exact leads_step? h hn hup
  | quit t =>
      refine leads_quit? h (fun k i r hx => ?_) hn
      exact hreader k i r (Option.some.inj (hhas.reader.symm.trans hx))
  | openSocket p capacity =>
      cases hn
      exact .pass (isPassed_openSocket hattended hhas p capacity)
  | clientSend k f =>
      simp only [Act.perform?, Network.clientSend, Option.bind_eq_bind, Option.bind_eq_some_iff]
        at hn
      obtain ⟨s', hs', hn⟩ := hn
      split at hn <;> cases hn
      exact leads_setSocket hs' (hsame hs') rfl id (.inr ⟨.ok f, rfl⟩)
  | clientReceive k =>
      cases hn
      unfold Network.clientReceive
      cases hs' : n.sockets.find? k with
      | none => exact .pass (.refl b n)
      | some s' =>
          refine leads_setSocket hs' (hsame hs') rfl id ?_
          dsimp only
          split
          · exact .inr ⟨.ok .close, rfl⟩
          · exact .inl rfl
  | clientVanish k =>
      cases hn
      unfold Network.clientVanish
      cases hs' : n.sockets.find? k with
      | none => exact .pass (.refl b n)
      | some s' =>
          exact leads_setSocket hs' (hsame hs') rfl (fun hw => by cases hw) (.inr ⟨.error _, rfl⟩)
  | route m =>
      cases hn
      exact .pass
        { IsPassed.refl b n with
          reader := hattended.actors.find?_extended (hhas.reader ▸ rfl) _
          writer := hattended.actors.find?_extended (hhas.writer ▸ rfl) _ }
  | ask c =>
      cases hn
      exact .pass (.backend n _)
  | _ => cases ha

/-! ## Runs -/

theorem IsLeft.staffed (h : b.IsLeft u n) {w : Actor} {k : SocketId} {i : InboxId} {j : SinkId}
    (hk : k ≠ b.socket) (hi : i ≠ b.inbox) (hj : j ≠ b.sink) (hsocket : w.socket? ≠ some b.socket)
    (hsink : w.sinkServed? ≠ some b.sink) (hinbox : w.inbox? ≠ some b.inbox) :
    b.IsLeft u (n.staffed w k i j) := by
  have hnew {p q : Nat} (hpq : p ≠ q) : some p ≠ some q := fun heq => hpq (Option.some.inj heq)
  have hfirst : b.IsLeft u (n.spawn w).2 := h.spawn hsocket hsink hinbox
  have hsecond := hfirst.spawn (y := .reader k i none) (hnew hk) nofun (hnew hi)
  exact hsecond.spawn (y := .writer k j (n.spawn w).2.actors.size) (hnew hk) (hnew hj) nofun

theorem IsLeft.openSocket (h : b.IsLeft u n) (hattended : n.IsAttended) (hhas : b.Has n x y z c s)
    (p : Network.Purpose) (capacity : Nat) : b.IsLeft u (n.openSocket p capacity).2 := by
  have hk : n.sockets.size ≠ b.socket := hattended.numberedSockets.size_ne (hhas.socket ▸ rfl)
  have hi : n.inboxes.size ≠ b.inbox := hattended.numberedInboxes.size_ne (hhas.inbox ▸ rfl)
  have hj : n.sinks.size ≠ b.sink := hattended.sinks.size_ne (hhas.sink ▸ rfl)
  have hinbox : some n.inboxes.size ≠ some b.inbox := fun heq => hi (Option.some.inj heq)
  have hfurnished (a : Backend) (z' : Inbox) : b.IsLeft u (n.furnished a z' capacity) :=
    h.of_eq rfl
  rw [Network.openSocket_eq]
  cases p with
  | messages => exact (hfurnished _ _).staffed hk hi hj nofun nofun hinbox
  | telemetry => exact (hfurnished _ _).staffed hk hi hj nofun nofun hinbox
  | control key => exact (hfurnished _ _).staffed hk hi hj nofun nofun nofun

theorem IsLeft.perform? (h : b.IsLeft u n) (hattended : n.IsAttended) (hhas : b.Has n x y z c s)
    {a : Act} (ha : a.IsBridged) (hn : a.perform? n = some n') : b.IsLeft u n' := by
  cases a with
  | step t =>
      obtain ⟨w, hw, hturns⟩ := Network.turns_step? hn
      exact h.turn hw hturns
  | quit t =>
      obtain ⟨w, hw, hturns⟩ := Network.turns_quit? hn
      exact h.turn hw hturns
  | openSocket p capacity =>
      cases hn
      exact h.openSocket hattended hhas p capacity
  | clientSend k f =>
      simp only [Act.perform?, Network.clientSend, Option.bind_eq_bind, Option.bind_eq_some_iff]
        at hn
      obtain ⟨s', -, hn⟩ := hn
      split at hn <;> cases hn
      exact h.of_eq rfl
  | clientReceive k =>
      cases hn
      apply h.of_eq
      unfold Network.clientReceive
      split <;> rfl
  | clientVanish k =>
      cases hn
      apply h.of_eq
      unfold Network.clientVanish
      split <;> rfl
  | route m =>
      cases hn
      have hnone (k : Nat) : none ≠ some k := (Option.some_ne_none k).symm
      exact h.spawn (hnone _) (hnone _) (hnone _)
  | ask c =>
      cases hn
      exact h.of_eq rfl
  | _ => cases ha

section Runs

variable {ε : Type} {note : Network → Act → List ε} {log : List ε} {n₀ : Network}

/-- A run in which the stream of a bridge has not ended is a course of the bridge. -/
theorem IsFresh.leads_of_runs (hfresh : b.IsFresh n₀) (hleft : b.IsLeft u n₀)
    (hattended : n₀.IsAttended) (hu : (n₀.actors.find? u).isSome = true)
    (h : Runs note Act.IsBridged n₀ log n) (hup : n.ending? u = none) : b.Leads n₀ n := by
  have hrun : n.IsAttended ∧ (n.actors.find? u).isSome = true ∧
      (n.ending? u = none → b.IsLeft u n ∧ b.Leads n₀ n) := by
    clear hup
    induction h with
    | start => exact ⟨hattended, hu, fun _ => ⟨hleft, .pass (.refl b n₀)⟩⟩
    | act a ha hn _ ih =>
        obtain ⟨hattended, hu, hleads⟩ := ih
        obtain ⟨hu', hending⟩ := Network.ending?_of_perform? hattended hu ha hn
        refine ⟨hattended.perform? ha hn, hu', fun hup => ?_⟩
        obtain ⟨hleft, seen, hcourse, hseen⟩ := hleads (hending hup)
        obtain ⟨x, y, z, c, s, hcarries⟩ := hfresh.carries_of_course hcourse
        have hopen : s.isEnded = false := by
          rw [← Bool.not_eq_true, hcarries.finished]
          exact hseen
        exact ⟨hleft.perform? hattended hcarries.toHas ha hn, Leads.trans ⟨seen, hcourse, hseen⟩
          (leads_perform? hleft hattended hcarries.toHas hcarries.ne_writer hopen ha hn hup)⟩
  exact (hrun.2.2 hup).2

end Runs

/-! ## Sockets that are opened -/

/-- The bridge of the next socket. -/
def next (n : Network) : Bridge :=
  ⟨n.sockets.size, n.inboxes.size, n.sinks.size, n.actors.size + 1, n.actors.size + 2⟩

/-- A socket that was just opened has a fresh bridge. -/
theorem isFresh_staffed (h : n.actors.IsNumbered) (x : Actor) {capacity : Nat}
    (hcapacity : 0 < capacity) : (next n).IsFresh
      ((n.furnished n.backend { channel := { capacity } } capacity).staffed x n.sockets.size
        n.inboxes.size n.sinks.size) := by
  have hactors := Network.actors_staffed
    (n := n.furnished n.backend { channel := { capacity } } capacity) h x n.sockets.size
    n.inboxes.size n.sinks.size
  refine ⟨?_, ?_, ⟨capacity, hcapacity, Table.find?_insert_self ..⟩,
    ⟨capacity, hcapacity, Table.find?_insert_self ..⟩, Table.find?_insert_self ..⟩
  · have hne : n.actors.size + 2 ≠ (next n).reader := Nat.succ_ne_self _
    rw [hactors, Table.find?_insert]
    exact (if_neg hne).trans (Table.find?_insert_self ..)
  · rw [hactors]
    exact Table.find?_insert_self ..

/-- Everything is left to it. -/
theorem isLeft_staffed (h : n.IsAttended) {x : Actor} (a : Backend) (z : Inbox) (capacity : Nat)
    (hsocket : x.socket? = none) (hsink : x.sinkServed? = none)
    (hinbox : x.inboxServed? = some n.inboxes.size) : (next n).IsLeft n.actors.size
      ((n.furnished a z capacity).staffed x n.sockets.size n.inboxes.size n.sinks.size) := by
  have hactors := Network.actors_staffed (n := n.furnished a z capacity) h.actors x n.sockets.size
    n.inboxes.size n.sinks.size
  -- the actors that were there have to do with other parts
  have hcases {v : ActorId} {w : Actor} (hw : ((n.furnished a z capacity).staffed x n.sockets.size
      n.inboxes.size n.sinks.size).actors.find? v = some w) :
      v = (next n).writer ∧ w = .writer n.sockets.size n.sinks.size (n.actors.size + 1) ∨
      v = (next n).reader ∧ w = .reader n.sockets.size n.inboxes.size none ∨
      v = n.actors.size ∧ w = x ∨ w.IsWired n := by
    rw [hactors] at hw
    simp only [Table.find?_insert] at hw
    split at hw
    next hv => exact .inl ⟨hv.symm, (Option.some.inj hw).symm⟩
    next =>
      split at hw
      next hv => exact .inr (.inl ⟨hv.symm, (Option.some.inj hw).symm⟩)
      next =>
        split at hw
        next hv => exact .inr (.inr (.inl ⟨hv.symm, (Option.some.inj hw).symm⟩))
        next => exact .inr (.inr (.inr (h.wired v w hw)))
  constructor
  · intro v w hw hpart
    rcases hcases hw with ⟨hv, -⟩ | ⟨hv, -⟩ | ⟨-, rfl⟩ | hwired
    · exact .inr hv
    · exact .inl hv
    · cases hsocket.symm.trans hpart
    · exact absurd rfl (h.numberedSockets.size_ne (hwired.socket _ hpart))
  · intro v w hw hpart
    rcases hcases hw with ⟨hv, -⟩ | ⟨-, rfl⟩ | ⟨-, rfl⟩ | hwired
    · exact hv
    · cases hpart
    · cases hsink.symm.trans hpart
    · exact absurd rfl (h.sinks.size_ne (hwired.sink _ (Actor.mem_sinks_of_sinkServed? hpart)))
  · intro v w hw hpart
    rcases hcases hw with ⟨-, rfl⟩ | ⟨hv, -⟩ | ⟨hv, rfl⟩ | hwired
    · cases hpart
    · exact .inl hv
    · exact .inr ⟨hv, hinbox⟩
    · exact absurd rfl (h.numberedInboxes.size_ne (hwired.inbox _ hpart))

section Opened

variable {ε : Type} {note : Network → Act → List ε} {log : List ε} {n₀ : Network} {capacity : Nat}
  {p : Network.Purpose}

theorem isFresh_openSocket (h : n.actors.IsNumbered) (hcapacity : 0 < capacity)
    (hp : ∀ key, p ≠ .control key) : (next n).IsFresh (n.openSocket p capacity).2 := by
  rw [Network.openSocket_eq]
  cases p with
  | control key => exact absurd rfl (hp key)
  | messages => exact isFresh_staffed h _ hcapacity
  | telemetry => exact isFresh_staffed h _ hcapacity

theorem isLeft_openSocket (h : n.IsAttended) (hp : ∀ key, p ≠ .control key) (capacity : Nat) :
    (next n).IsLeft n.actors.size (n.openSocket p capacity).2 := by
  rw [Network.openSocket_eq]
  cases p with
  | control key => exact absurd rfl (hp key)
  | messages => exact isLeft_staffed h _ _ capacity rfl rfl rfl
  | telemetry => exact isLeft_staffed h _ _ capacity rfl rfl rfl

/-- **Runs are courses.** Whatever clients, streams and services do after a socket was opened, its
bridge makes its moves or is passed by, until the actor of its stream ends. -/
theorem leads_of_runs (h₀ : n₀.IsAttended) (hp : ∀ key, p ≠ .control key)
    (hcapacity : 0 < capacity)
    (h : Runs note Act.IsBridged (n₀.openSocket p capacity).2 log n)
    (hup : n.ending? n₀.actors.size = none) :
    (next n₀).Leads (n₀.openSocket p capacity).2 n := by
  have hleft := isLeft_openSocket h₀ hp capacity
  refine (isFresh_openSocket h₀.actors hcapacity hp).leads_of_runs hleft
    (h₀.openSocket p hcapacity) ?_ h hup
  rw [Network.openSocket_eq]
  cases p with
  | control key => exact absurd rfl (hp key)
  | messages => exact Network.isSome_staffed h₀.actors _ _ _ _
  | telemetry => exact Network.isSome_staffed h₀.actors _ _ _ _

end Opened
end Bridge
end ControlPlane
