import ControlPlane.Proofs.Network.Waiting

/-!
# Places in line

An actor that finds no room in a sink stands in line until it is given a slot. Nobody else can
take its place away: whatever happens, it is still in line, or was given a slot, or nobody
receives from the sink any more (`Network.Retains`). So an actor waits in vain only where messages
are no longer taken (`Network.Waits`).

Main statement: an act of anybody else leaves every place (`Network.retains_perform?`).
-/

set_option autoImplicit false

namespace ControlPlane

/-! ## One queue -/

namespace Channel

variable {α : Type} {t u : ActorId} {c d d' : Channel α} {a : α} {w : Write}

/-- An actor keeps its place or is given a slot, and a queue that is closed stays so. -/
structure Retains (t : ActorId) (c d : Channel α) : Prop where
  closed : c.isOpen = false → d.isOpen = false
  granted : t ∈ c.granted → t ∈ d.granted
  line : t ∈ c.line → t ∈ d.line ∨ t ∈ d.granted

theorem Retains.refl (t : ActorId) (c : Channel α) : c.Retains t c := ⟨id, id, .inl⟩

theorem Retains.trans (h : c.Retains t d) (h' : d.Retains t d') : c.Retains t d' where
  closed hc := h'.closed (h.closed hc)
  granted hg := h'.granted (h.granted hg)
  line hl := (h.line hl).elim h'.line fun hg => .inr (h'.granted hg)

theorem retains_grant (t : ActorId) (c : Channel α) : c.Retains t c.grant where
  closed hc := by rwa [isOpen_grant]
  granted hg := by
    unfold grant
    split
    · exact hg
    · exact List.mem_append_left _ hg
  line hl := by
    unfold grant
    split
    next => exact .inl hl
    next u us hline =>
      rw [hline] at hl
      rcases List.mem_cons.mp hl with rfl | hl
      · exact .inr (by simp)
      · exact .inl hl

theorem retains_take? (h : c.take? = some (a, d)) : c.Retains t d := by
  unfold take? at h
  split at h
  · cases h
  next as _ =>
    obtain ⟨-, rfl⟩ : _ = a ∧ _ = d := by simpa using h
    have hqueue : c.Retains t { c with queue := as } := ⟨id, id, .inl⟩
    exact hqueue.trans (retains_grant t _)

theorem retains_takeMany (t : ActorId) (k : Nat) (c : Channel α) :
    c.Retains t (c.takeMany k).2 := by
  induction k generalizing c with
  | zero => exact .refl t c
  | succ k ih =>
      rw [takeMany]
      cases hc : c.take? with
      | none => exact .refl t c
      | some p => exact (retains_take? hc).trans (ih p.2)

theorem retains_close (t : ActorId) (c : Channel α) : c.Retains t c.close :=
  ⟨fun _ => rfl, id, .inl⟩

/-- Another actor writes. -/
theorem retains_write? (hu : u ≠ t) (h : c.write? u a = some (w, d)) : c.Retains t d := by
  have hleave : c.Retains t (c.leave u) :=
    ⟨id, (List.mem_erase_of_ne hu.symm).mpr, fun hl => .inl ((List.mem_erase_of_ne hu.symm).mpr hl)⟩
  have hpush (c : Channel α) : c.Retains t (c.push a) := ⟨id, id, .inl⟩
  unfold write? at h
  split at h
  · cases h
    exact hleave
  · split at h
    · cases h
      exact hleave.trans (hpush _)
    · split at h
      · cases h
      · split at h
        · cases h
          exact hpush c
        · cases h
          exact ⟨id, id, fun hl => .inl (List.mem_append_left _ hl)⟩

/-- The slot of an actor is ready: it was given one, or it would write in vain. -/
def IsReady (c : Channel α) (t : ActorId) : Prop := t ∈ c.granted ∨ c.isOpen = false

theorem IsReady.retain (h : c.IsReady t) (hcd : c.Retains t d) : d.IsReady t :=
  h.imp hcd.granted hcd.closed

theorem write?_of_isReady (h : c.IsReady t) (a : α) :
    ∃ w d, c.write? t a = some (w, d) ∧ w ≠ .queued := by
  unfold write?
  by_cases hopen : c.isOpen = true
  · have hgranted : t ∈ c.granted := h.resolve_right (by simp [hopen])
    rw [if_neg (by simp [hopen]), if_pos hgranted]
    exact ⟨_, _, rfl, by decide⟩
  · rw [if_pos (by simpa using hopen)]
    exact ⟨_, _, rfl, by decide⟩

/-- The only way not to be able to write is to stand in line. -/
theorem write?_eq_none_iff : c.write? t a = none ↔ t ∈ c.line ∧ ¬ c.IsReady t := by
  unfold write? IsReady
  by_cases hopen : c.isOpen = true
  · by_cases hgranted : t ∈ c.granted
    · simp [hopen, hgranted]
    · by_cases hline : t ∈ c.line
      · simp [hopen, hgranted, hline]
      · by_cases hfree : 0 < c.free <;> simp [hopen, hgranted, hline, hfree]
  · simp [hopen]

theorem mem_line_of_write? (h : c.write? t a = some (.queued, d)) : t ∈ d.line := by
  unfold write? at h
  split at h
  · cases h
  · split at h
    · cases h
    · split at h
      · cases h
      · split at h
        · cases h
        · cases h
          simp

end Channel

/-! ## All sinks -/

namespace Network

variable {n n' n'' : Network} {t u : ActorId}

/-- An actor stands in line for a sink, and no slot is ready for it. -/
def Waits (n : Network) (t : ActorId) : Prop :=
  ∃ m i, n.pending? t = some (.writing m i) ∧
    ∀ c, n.sinks.find? i = some c → t ∈ c.line ∧ ¬ c.IsReady t

/-- An actor keeps its places, and sinks that are closed stay so. -/
def Retains (t : ActorId) (n n' : Network) : Prop :=
  ∀ i c, n.sinks.find? i = some c → ∃ d, n'.sinks.find? i = some d ∧ c.Retains t d

theorem Retains.of_eq (h : n'.sinks = n.sinks) : n.Retains t n' := fun _ c hc =>
  ⟨c, h ▸ hc, .refl t c⟩

theorem Retains.trans (h : n.Retains t n') (h' : n'.Retains t n'') : n.Retains t n'' := by
  intro i c hc
  obtain ⟨d, hd, hcd⟩ := h i c hc
  obtain ⟨d', hd', hdd'⟩ := h' i d hd
  exact ⟨d', hd', hcd.trans hdd'⟩

theorem retains_setSink {i : SinkId} {c d : Channel StreamMessage}
    (hc : n.sinks.find? i = some c) (hcd : c.Retains t d) : n.Retains t (n.setSink i d) := by
  intro j c' hc'
  rw [setSink, Table.find?_insert]
  split
  next hij =>
    subst hij
    obtain rfl : c = c' := Option.some.inj (hc.symm.trans hc')
    exact ⟨d, rfl, hcd⟩
  next => exact ⟨c', hc', .refl t c'⟩

theorem retains_closeSink (n : Network) (i : SinkId) : n.Retains t (n.closeSink i) := by
  unfold closeSink
  split
  next c hc => exact retains_setSink hc (Channel.retains_close t c)
  next => exact .of_eq rfl

theorem retains_openStream (hn : n.IsNumbered) (capacity : Nat) :
    n.Retains t (n.openStream capacity).2 := by
  intro i c hc
  have hne : n.sinks.size ≠ i := by
    rintro rfl
    rw [hn.sinks.find?_size] at hc
    cases hc
  refine ⟨c, ?_, .refl t c⟩
  show (n.sinks.insert n.sinks.size _).find? i = some c
  rw [Table.find?_insert, if_neg hne, hc]

theorem sinks_closeInbox (n : Network) (i : InboxId) : (n.closeInbox i).sinks = n.sinks := by
  unfold closeInbox
  split <;> rfl

theorem sinks_endInbox (n : Network) (i : InboxId) : (n.endInbox i).sinks = n.sinks := by
  unfold endInbox
  split <;> rfl

/-! ### Steps -/

theorem retains_routeStep? (hu : u ≠ t) {r : Routing} {next : Routed}
    (h : n.routeStep? u r = some (next, n')) : n.Retains t n' := by
  cases r with
  | looking m =>
      simp only [routeStep?] at h
      split at h <;> cases h <;> exact .of_eq rfl
  | writing m i =>
      simp only [routeStep?, Option.bind_eq_bind, Option.bind_eq_some_iff] at h
      obtain ⟨c, hc, ⟨w, d⟩, hw, h⟩ := h
      have hset : n.Retains t (n.setSink i d) := retains_setSink hc (Channel.retains_write? hu hw)
      cases w <;> cases h <;> exact hset.trans (.of_eq rfl)

theorem retains_endWriter (n : Network) (sink : SinkId) : n.Retains t (n.endWriter u sink) := by
  have hactor : n.Retains t (n.setActor u (.ended .ok)) := .of_eq rfl
  exact hactor.trans (retains_closeSink _ sink)

theorem retains_writerStep? {socket : SocketId} {sink : SinkId} {reader : ActorId}
    (h : n.writerStep? u socket sink reader = some n') : n.Retains t n' := by
  simp only [writerStep?, Option.bind_eq_bind, Option.bind_eq_some_iff] at h
  obtain ⟨x, -, c, hc, h⟩ := h
  split at h
  next m d hd =>
    have htake : n.Retains t (n.setSink sink d) := retains_setSink hc (Channel.retains_take? hd)
    split at h <;> cases h
    · exact htake.trans (.of_eq rfl)
    · exact htake.trans (retains_endWriter _ sink)
  next =>
    split at h
    next =>
      obtain ⟨-, rfl⟩ := abandon?_cases h
      exact retains_endWriter n sink
    next =>
      have hclose : n.Retains t (n.setSocket socket (x.write .close)) := .of_eq rfl
      cases h
      exact hclose.trans (retains_endWriter _ sink)

/-- Only what is routed and what is written to a socket changes sinks. -/
theorem sinks_of_step? (hpending : n.pending? u = none)
    (hwriter : ∀ socket sink reader, n.actors.find? u ≠ some (.writer socket sink reader))
    (h : n.step? u = some n') : n'.sinks = n.sinks := by
  have hstop (n : Network) (i : InboxId) (e : Ending) : (n.stop u i e).sinks = n.sinks :=
    sinks_closeInbox _ i
  have hreader (n : Network) (i : InboxId) : (n.endReader u i).sinks = n.sinks :=
    sinks_endInbox _ i
  simp only [step?, Option.bind_eq_bind, Option.bind_eq_some_iff] at h
  obtain ⟨x, hx, h⟩ := h
  rw [pending?, hx, Option.bind_some] at hpending
  cases x with
  | router source sink pending =>
      obtain rfl : pending = none := hpending
      simp only [routerStep?, Option.bind_eq_bind, Option.bind_eq_some_iff] at h
      obtain ⟨i, -, ⟨arrival?, inbox⟩, -, h⟩ := h
      split at h <;> cases h
      · rfl
      · rfl
      · exact hstop _ source _
  | courier pending => cases hpending
  | subscriber sink signal =>
      simp only [subscriberStep?] at h
      split at h <;> cases h
      rfl
  | collector source sink? =>
      simp only [collectorStep?, Option.bind_eq_bind, Option.bind_eq_some_iff] at h
      obtain ⟨i, -, ⟨arrival?, inbox⟩, -, h⟩ := h
      split at h <;> cases h
      · rfl
      · exact hstop _ source _
  | reader socket inbox held =>
      cases held with
      | some a =>
          simp only [readerStep?, Option.bind_eq_bind, Option.bind_eq_some_iff] at h
          obtain ⟨i, -, ⟨w, c⟩, -, h⟩ := h
          split at h <;> cases h
          · rfl
          · rfl
          · exact hreader _ inbox
      | none =>
          simp only [readerStep?, Option.bind_eq_bind, Option.bind_eq_some_iff] at h
          obtain ⟨y, -, h⟩ := h
          split at h
          next =>
            split at h <;> cases h
            exact hreader _ inbox
          next =>
            split at h <;> cases h
            · rfl
            · rfl
            · rfl
            · exact hreader _ inbox
  | writer socket sink reader => exact absurd hx (hwriter socket sink reader)
  | ended e => cases h

/-- A step of another actor. -/
theorem retains_step? (hu : u ≠ t) (h : n.step? u = some n') : n.Retains t n' := by
  cases hr : n.pending? u with
  | some r =>
      obtain ⟨x, y, next, n₁, -, hroute, rfl, -⟩ := exists_routeStep? hr h
      exact (retains_routeStep? hu hroute).trans (.of_eq rfl)
  | none =>
      by_cases hwriter : ∃ socket sink reader, n.actors.find? u = some (.writer socket sink reader)
      · obtain ⟨socket, sink, reader, hx⟩ := hwriter
        simp only [step?, hx, Option.bind_eq_bind, Option.bind_some] at h
        exact retains_writerStep? h
      · have hother : ∀ socket sink reader,
            n.actors.find? u ≠ some (.writer socket sink reader) :=
          fun socket sink reader hx => hwriter ⟨socket, sink, reader, hx⟩
        exact .of_eq (sinks_of_step? hr hother h)

/-! ### Acts -/

theorem retains_drain (n : Network) (i : SinkId) (max : Option Nat) :
    n.Retains t (n.drain i max).2 := by
  unfold drain
  split
  next => exact .of_eq rfl
  next c hc => exact retains_setSink hc (Channel.retains_takeMany t _ c)

theorem retains_openSocket (hn : n.IsNumbered) (p : Purpose) (capacity : Nat) :
    n.Retains t (n.openSocket p capacity).2 := by
  have hset : (n.setSocket n.sockets.size {}).IsNumbered := ⟨hn.actors, hn.sinks⟩
  have hstream : n.Retains t ((n.setSocket n.sockets.size {}).openStream capacity).2 :=
    retains_openStream hset capacity
  cases p with
  | control key => exact hstream.trans (.of_eq (sinks_closeInbox _ _))
  | messages => exact hstream
  | telemetry => exact hstream

/-- **Nobody else takes a place away.** -/
theorem retains_perform? (hn : n.IsNumbered) {a : Act} (ha : a ≠ .step t)
    (h : a.perform? n = some n') : n.Retains t n' := by
  cases a with
  | step u => exact retains_step? (fun hu => ha (hu ▸ rfl)) h
  | quit u =>
      obtain ⟨_, sink, _, -, -, rfl⟩ := quit?_cases h
      exact retains_endWriter n sink
  | openMessages capacity =>
      cases h
      exact retains_openStream hn capacity
  | openControl key capacity =>
      cases h
      exact (retains_openStream hn capacity).trans (.of_eq (sinks_closeInbox _ _))
  | openTelemetry capacity isSinkKept =>
      cases h
      exact retains_openStream hn capacity
  | openSocket p capacity =>
      cases h
      exact retains_openSocket hn p capacity
  | submit i x =>
      have hsubmit := submit_of_perform? h
      unfold submit at hsubmit
      split at hsubmit
      next => cases hsubmit
      next y _ =>
        split at hsubmit
        next =>
          cases hc : y.channel.offer x with
          | error r => simp [hc, Except.map] at hsubmit
          | ok c =>
              rw [hc] at hsubmit
              cases hsubmit
              exact .of_eq rfl
        next => cases hsubmit
  | endInbox i =>
      cases h
      exact .of_eq (sinks_endInbox n i)
  | drain i max =>
      cases h
      exact retains_drain n i max
  | closeSink i =>
      cases h
      exact retains_closeSink n i
  | clientSend socket f =>
      simp only [Act.perform?, clientSend, Option.bind_eq_bind, Option.bind_eq_some_iff] at h
      obtain ⟨x, -, h⟩ := h
      split at h <;> cases h
      exact .of_eq rfl
  | clientReceive socket =>
      cases h
      unfold clientReceive
      split <;> exact .of_eq rfl
  | clientVanish socket =>
      cases h
      unfold clientVanish
      split <;> exact .of_eq rfl
  | route m =>
      cases h
      exact .of_eq rfl
  | ask c =>
      cases h
      exact .of_eq rfl

end Network
end ControlPlane
