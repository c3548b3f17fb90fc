import ControlPlane.Proofs.Network.Delivery
import ControlPlane.Proofs.Network.Reachability
import ControlPlane.Proofs.Network.Waiting

/-!
# How a subscription ends

A node that subscribes has an actor of its own, which waits until it is told to stop or its peer is
gone. A run is noted in a log of *cues*: a subscription begins, an unsubscription finds a
subscription, the receiver of a sink goes away, the actor of a subscription returns. That an entry
of the registry is replaced or removed is no cue: nobody is told of it.

Main statements: what each cue does to the subscriptions (`Network.Tended.subscribe`,
`Network.Tended.find`, `Network.Tended.close`, `Network.Tended.return`), that everything else does
nothing to them (`Network.Tended.sustain`), and what a subscription may count on after every run
(`Network.keeps_of_attends`).
-/

set_option autoImplicit false

namespace ControlPlane

/-! ## Cues -/

inductive Cue where
  /-- An actor begins to wait for the end of a subscription. -/
  | subscribed (t : ActorId) (s : Subscription)
  /-- An unsubscription has found the subscription, and tells its owner. -/
  | found (s : Subscription)
  /-- The receiver of a sink went away. -/
  | left (sink : SinkId)
  /-- The actor of a subscription returned. -/
  | returned (t : ActorId)
deriving DecidableEq

namespace Network

/-- The network after an unsubscription that is served alone. -/
def unsubscribe (n : Network) (node : String) : Network :=
  (n.run (Coordination.unsubscribe node).run).2

/-- The cue of an unsubscription, if it finds a subscription. -/
def unsubscribeCues (n : Network) (node : String) : List Cue :=
  ((n.backend.registry.find? (Registry.nodeKey node)).map Cue.found).toList

/-- The cue of a node that subscribes: its actor waits for what is then under its key. -/
def subscribeCues (n : Network) (key : String) (capacity : Nat) : List Cue :=
  let (link, n) := n.openControl key capacity
  ((n.backend.registry.find? (Registry.nodeKey key)).map (.subscribed link.actor)).toList

/-- The cue of a receiver that goes away. -/
def leaveCues (n : Network) (sink : SinkId) : List Cue :=
  if (n.sinks.find? sink).isSome then [.left sink] else []

end Network

/-- The cues of an act. A writer that ends was the receiver of its sink. -/
def Act.cues (n : Network) : Act → List Cue
  | openControl key capacity => n.subscribeCues key capacity
  | openSocket (.control key) capacity =>
      (n.setSocket n.sockets.size {}).subscribeCues key capacity
  | closeSink s => n.leaveCues s
  | quit t =>
      match n.actors.find? t with
      | some (.writer _ sink _) => n.leaveCues sink
      | _ => []
  | step t =>
      match n.actors.find? t with
      | some (.subscriber ..) => [.returned t]
      | some (.writer _ sink _) =>
          if ((n.step? t).bind (·.ending? t)).isSome then [.left sink] else []
      | _ => []
  | _ => []

namespace Network

variable {n₀ n n' : Network} {t : ActorId} {log : List Cue}

/-- Acts and unsubscriptions, one after another, with their cues. Signals are raised by
unsubscriptions only. -/
inductive Attends (n₀ : Network) : List Cue → Network → Prop
  | start : Attends n₀ [] n₀
  | act {log : List Cue} {n n' : Network} (a : Act) (ha : ∀ c, a = .ask c → c.RaisesNothing)
      (hn : a.perform? n = some n') (h : Attends n₀ log n) : Attends n₀ (log ++ a.cues n) n'
  | unsubscribe {log : List Cue} {n : Network} (node : String) (h : Attends n₀ log n) :
      Attends n₀ (log ++ n.unsubscribeCues node) (n.unsubscribe node)

/-! ## The invariant -/

/-- A cue speaks of actors, sinks and signals that are there. -/
def Knows (n : Network) : Cue → Prop
  | .subscribed t s =>
      t < n.actors.size ∧ s.sink < n.sinks.size ∧ s.signal < n.backend.registry.nextSignal
  | .found s => s.signal < n.backend.registry.nextSignal
  | .left sink => sink < n.sinks.size
  | .returned t => t < n.actors.size

/-- How it stands with the actor of a subscription. -/
structure Attended (log : List Cue) (n : Network) (t : ActorId) (s : Subscription) : Prop where
  /-- Its signal is in no other entry. -/
  entry : ∀ key x, n.backend.registry.find? key = some x → x.signal = s.signal → x = s
  sink : n.sinkIsOpen? s.sink = some (decide (Cue.left s.sink ∉ log))
  waits : Cue.returned t ∉ log → n.actors.find? t = some (.subscriber s.sink s.signal) ∧
    n.backend.registry.signals.find? s.signal = some ⟨true, decide (Cue.found s ∈ log)⟩
  ended : Cue.returned t ∈ log → n.actors.find? t = some (.ended .ok)
  cause : ∀ past, past ++ [Cue.returned t] <+: log → Cue.found s ∈ past ∨ Cue.left s.sink ∈ past

/-- How it stands with all subscriptions. -/
structure Tended (log : List Cue) (n : Network) : Prop where
  numbered : n.IsNumbered
  dated : n.backend.registry.IsDated
  known : ∀ cue ∈ log, n.Knows cue
  /-- Every actor that waits has subscribed. -/
  complete : ∀ t s, (n.actors.find? t).bind Actor.awaits? = some s → Cue.subscribed t s ∈ log
  unique : ∀ t s t' s', Cue.subscribed t s ∈ log → Cue.subscribed t' s' ∈ log →
    s.signal = s'.signal ∨ t = t' → t = t' ∧ s = s'
  attended : ∀ t s, Cue.subscribed t s ∈ log → Attended log n t s

theorem Knows.later {cue : Cue} (h : n.Knows cue)
    (hgrown : n.actors.size ≤ n'.actors.size ∧ n.sinks.size ≤ n'.sinks.size)
    (hnext : n.backend.registry.nextSignal ≤ n'.backend.registry.nextSignal) : n'.Knows cue := by
  obtain ⟨hactors, hsinks⟩ := hgrown
  cases cue with
  | subscribed t s =>
      exact ⟨Nat.lt_of_lt_of_le h.1 hactors, Nat.lt_of_lt_of_le h.2.1 hsinks,
        Nat.lt_of_lt_of_le h.2.2 hnext⟩
  | found s => exact Nat.lt_of_lt_of_le h hnext
  | left sink => exact Nat.lt_of_lt_of_le h hsinks
  | returned t => exact Nat.lt_of_lt_of_le h hactors

theorem Tended.signal_lt (h : Tended log n) {s : Subscription} (hmem : Cue.subscribed t s ∈ log) :
    s.signal < n.backend.registry.nextSignal := (h.known _ hmem).2.2

theorem mem_of_concat {cue last : Cue} (h : cue ∈ log ++ [last]) (hne : cue ≠ last) :
    cue ∈ log := by
  rcases List.mem_append.mp h with hold | hnew
  · exact hold
  · exact absurd (List.mem_singleton.mp hnew) hne

/-- Whatever keeps the actor, the sink and the signal keeps a subscription. -/
theorem Attended.keep {s : Subscription} (h : Attended log n t s)
    (hentry : ∀ key x, n'.backend.registry.find? key = some x → x.signal = s.signal →
      n.backend.registry.find? key = some x)
    (hsignal : n'.backend.registry.signals.find? s.signal
      = n.backend.registry.signals.find? s.signal)
    (hactor : ∀ x, x.IsAtRest → n.actors.find? t = some x → n'.actors.find? t = some x)
    (hsink : ∀ isOpen, n.sinkIsOpen? s.sink = some isOpen → n'.sinkIsOpen? s.sink = some isOpen) :
    Attended log n' t s where
  entry key x hx heq := h.entry key x (hentry key x hx heq) heq
  sink := hsink _ h.sink
  waits hret := by
    obtain ⟨hfind, hraised⟩ := h.waits hret
    exact ⟨hactor _ trivial hfind, hsignal.trans hraised⟩
  ended hret := hactor _ trivial (h.ended hret)
  cause := h.cause

theorem Attended.endure {s : Subscription} (h : Attended log n t s)
    (hlt : s.signal < n.backend.registry.nextSignal)
    (hregistry : n.backend.registry.Endures n'.backend.registry)
    (hactor : ∀ x, x.IsAtRest → n.actors.find? t = some x → n'.actors.find? t = some x)
    (hsink : ∀ isOpen, n.sinkIsOpen? s.sink = some isOpen → n'.sinkIsOpen? s.sink = some isOpen) :
    Attended log n' t s := by
  refine h.keep ?_ (hregistry.signal _ hlt) hactor hsink
  intro key x hx heq
  rcases hregistry.entry key x hx with hold | ⟨hle, -⟩
  · exact hold
  · -- the signal of a new entry is a new one
    rw [heq] at hle
    exact absurd hlt (Nat.not_lt_of_le hle)

/-- The cause of a return is before it, also when it is the last of the cues. -/
theorem Attended.cause_concat {s : Subscription} {cue : Cue} (h : Attended log n t s)
    (hlast : cue = .returned t → Cue.found s ∈ log ∨ Cue.left s.sink ∈ log) (past : List Cue)
    (hpast : past ++ [Cue.returned t] <+: log ++ [cue]) :
    Cue.found s ∈ past ∨ Cue.left s.sink ∈ past := by
  rcases List.prefix_concat_iff.mp hpast with heq | hold
  · obtain ⟨rfl, hcue⟩ := List.append_inj' heq rfl
    exact hlast (List.singleton_inj.mp hcue).symm
  · exact h.cause past hold

/-- A cue that is about something else. -/
theorem Attended.concat {s : Subscription} {cue : Cue} (h : Attended log n t s)
    (hfound : cue ≠ .found s) (hleft : cue ≠ .left s.sink) (hret : cue ≠ .returned t) :
    Attended (log ++ [cue]) n t s where
  entry := h.entry
  sink := by
    rw [h.sink]
    simp [hleft.symm]
  waits hnot := by
    obtain ⟨hfind, hraised⟩ := h.waits fun hmem => hnot (List.mem_append_left _ hmem)
    refine ⟨hfind, hraised.trans ?_⟩
    simp [hfound.symm]
  ended hmem := h.ended (mem_of_concat hmem hret.symm)
  cause := h.cause_concat fun heq => absurd heq hret

/-! ## What happens -/

/-- A cue that is no subscription, from what it does to those that there are. -/
theorem Tended.concat {cue : Cue} (h : Tended log n) (hcue : ∀ t s, cue ≠ .subscribed t s)
    (hnumbered : n'.IsNumbered) (hdated : n'.backend.registry.IsDated)
    (hgrown : n.actors.size ≤ n'.actors.size ∧ n.sinks.size ≤ n'.sinks.size)
    (hnext : n.backend.registry.nextSignal ≤ n'.backend.registry.nextSignal)
    (hknows : n'.Knows cue)
    (hwaiting : ∀ t s, (n'.actors.find? t).bind Actor.awaits? = some s →
      (n.actors.find? t).bind Actor.awaits? = some s)
    (hattended : ∀ t s, Cue.subscribed t s ∈ log → Attended (log ++ [cue]) n' t s) :
    Tended (log ++ [cue]) n' where
  numbered := hnumbered
  dated := hdated
  known c hmem := by
    rcases List.mem_append.mp hmem with hmem | hmem
    · exact (h.known c hmem).later hgrown hnext
    · exact List.mem_singleton.mp hmem ▸ hknows
  complete t s hs := List.mem_append_left _ (h.complete t s (hwaiting t s hs))
  unique t s t' s' hmem hmem' := h.unique t s t' s' (mem_of_concat hmem (hcue t s).symm)
    (mem_of_concat hmem' (hcue t' s').symm)
  attended t s hmem := hattended t s (mem_of_concat hmem (hcue t s).symm)

/-- **Nothing** happens to the subscriptions when the waiting is sustained. -/
theorem Tended.sustain (h : Tended log n) (hn : n.Sustains n')
    (hregistry : n.backend.registry.Endures n'.backend.registry) : Tended log n' where
  numbered := hn.numbered h.numbered
  dated := hregistry.isDated h.dated
  known cue hmem := (h.known cue hmem).later hn.grown hregistry.next
  complete t s hs := h.complete t s (hn.waiting t s hs)
  unique := h.unique
  attended t s hmem := (h.attended t s hmem).endure (h.signal_lt hmem) hregistry
    (hn.actor h.numbered t) (hn.sink h.numbered s.sink)

section Subscribe

/-- The next subscription, on a sink. -/
def newcomer (n : Network) (sink : SinkId) : Subscription := ⟨sink, n.backend.registry.nextSignal⟩

/-- The network after a node has subscribed on a sink. -/
def subscribed (n : Network) (key : String) (sink : SinkId) : Network :=
  ((n.run (Coordination.install key sink)).2.spawn
    (.subscriber sink n.backend.registry.nextSignal)).2

variable (n) (key : String) (sink : SinkId)

theorem actor_subscribed (u : ActorId) : (n.subscribed key sink).actors.find? u
    = if n.actors.size = u then some (.subscriber sink n.backend.registry.nextSignal)
      else n.actors.find? u := Table.find?_insert _ _ _ _

theorem find?_subscribed (l : String) : (n.subscribed key sink).backend.registry.find? l
    = if Registry.nodeKey key = l then some (n.newcomer sink) else n.backend.registry.find? l :=
  Registry.find?_set (n.backend.registry.newSignal true).2 _ _ _

theorem signal_subscribed : (n.subscribed key sink).backend.registry.signals.find?
    n.backend.registry.nextSignal = some ⟨true, false⟩ :=
  (Table.find?_insert _ _ _ _).trans (if_pos rfl)

theorem endures_subscribed :
    n.backend.registry.Endures (n.subscribed key sink).backend.registry :=
  n.backend.registry.endures_install (Registry.nodeKey key) sink true

variable {n}

theorem IsNumbered.subscribed (h : n.IsNumbered) : (n.subscribed key sink).IsNumbered :=
  ⟨h.actors.extend _, h.sinks⟩

theorem size_subscribed (h : n.IsNumbered) :
    (n.subscribed key sink).actors.size = n.actors.size + 1 := by
  show (n.actors.insert n.actors.size _).size = _
  rw [Table.size_insert, h.actors.find?_size]
  rfl

variable {sink}

/-- The new subscription, which no cue can have spoken of. -/
theorem Tended.attended_newcomer (h : Tended log n) (hopen : n.sinkIsOpen? sink = some true)
    (hleft : Cue.left sink ∉ log) :
    Attended (log ++ [.subscribed n.actors.size (n.newcomer sink)]) (n.subscribed key sink)
      n.actors.size (n.newcomer sink) := by
  have hreturned : Cue.returned n.actors.size ∉
      log ++ [.subscribed n.actors.size (n.newcomer sink)] := by
    intro hmem
    have hold : Cue.returned n.actors.size ∈ log := mem_of_concat hmem (by simp)
    exact Nat.lt_irrefl n.actors.size (h.known _ hold)
  have hfound : Cue.found (n.newcomer sink) ∉
      log ++ [.subscribed n.actors.size (n.newcomer sink)] := by
    intro hmem
    have hold : Cue.found (n.newcomer sink) ∈ log := mem_of_concat hmem (by simp)
    exact Nat.lt_irrefl n.backend.registry.nextSignal (h.known _ hold)
  have hthere : Cue.left sink ∉ log ++ [.subscribed n.actors.size (n.newcomer sink)] :=
    fun hmem => hleft (mem_of_concat hmem (by simp))
  refine ⟨?_, ?_, ?_, fun hmem => absurd hmem hreturned, ?_⟩
  · intro l x hx hsignal
    rw [find?_subscribed] at hx
    split at hx
    next => exact (Option.some.inj hx).symm
    next =>
      -- an entry that was there before has an older signal
      have hlt : x.signal < n.backend.registry.nextSignal := h.dated l x hx
      rw [hsignal] at hlt
      exact absurd hlt (Nat.lt_irrefl _)
  · exact hopen.trans (congrArg some (decide_eq_true hthere).symm)
  · intro _
    rw [actor_subscribed, if_pos rfl, decide_eq_false hfound]
    exact ⟨rfl, n.signal_subscribed key sink⟩
  · intro past hpast
    have hmem := hpast.subset (List.mem_append_right past (List.mem_singleton.mpr rfl))
    exact absurd hmem hreturned

/-- **A subscription.** Its actor waits for a signal that nobody else has. -/
theorem Tended.subscribe (h : Tended log n) (hopen : n.sinkIsOpen? sink = some true)
    (hleft : Cue.left sink ∉ log) :
    Tended (log ++ [.subscribed n.actors.size (n.newcomer sink)]) (n.subscribed key sink) := by
  have hendures := n.endures_subscribed key sink
  have hgrown : n.actors.size ≤ (n.subscribed key sink).actors.size ∧
      n.sinks.size ≤ (n.subscribed key sink).sinks.size :=
    ⟨Table.size_le_insert _ _ _, Nat.le_refl _⟩
  have hsink : sink < n.sinks.size := by
    obtain ⟨c, hc, -⟩ := Option.map_eq_some_iff.mp hopen
    exact (h.numbered.sinks sink).mp (by rw [hc]; rfl)
  have hold {u : ActorId} {s : Subscription} (hmem : Cue.subscribed u s ∈ log) :
      n.actors.size ≠ u ∧ n.backend.registry.nextSignal ≠ s.signal :=
    ⟨Nat.ne_of_gt (h.known _ hmem).1, Nat.ne_of_gt (h.signal_lt hmem)⟩
  have hcases {u : ActorId} {s : Subscription}
      (hmem : Cue.subscribed u s ∈ log ++ [.subscribed n.actors.size (n.newcomer sink)]) :
      Cue.subscribed u s ∈ log ∨ u = n.actors.size ∧ s = n.newcomer sink := by
    simpa using hmem
  refine ⟨h.numbered.subscribed key sink, hendures.isDated h.dated, ?_, ?_, ?_, ?_⟩
  · intro cue hmem
    rcases List.mem_append.mp hmem with hmem | hmem
    · exact (h.known cue hmem).later hgrown hendures.next
    · rw [List.mem_singleton.mp hmem]
      refine ⟨?_, hsink, Nat.lt_succ_self _⟩
      rw [size_subscribed key sink h.numbered]
      exact Nat.lt_succ_self _
  · intro u s hs
    rw [actor_subscribed] at hs
    split at hs
    next hu =>
      subst hu
      obtain rfl : n.newcomer sink = s := Option.some.inj hs
      exact List.mem_append_right _ (List.mem_singleton.mpr rfl)
    next => exact List.mem_append_left _ (h.complete u s hs)
  · -- the new actor and the new signal are not among the old ones
    intro u s u' s' hmem hmem' hsame
    rcases hcases hmem with hmem | ⟨rfl, rfl⟩ <;> rcases hcases hmem' with hmem' | ⟨rfl, rfl⟩
    · exact h.unique u s u' s' hmem hmem' hsame
    · rcases hsame with hsame | hsame
      · exact absurd hsame.symm (hold hmem).2
      · exact absurd hsame.symm (hold hmem).1
    · rcases hsame with hsame | hsame
      · exact absurd hsame (hold hmem').2
      · exact absurd hsame (hold hmem').1
    · exact ⟨rfl, rfl⟩
  · intro u s hmem
    rcases hcases hmem with hmem | ⟨rfl, rfl⟩
    · have hactor : ∀ x, x.IsAtRest → n.actors.find? u = some x →
          (n.subscribed key sink).actors.find? u = some x := by
        intro x _ hx
        rw [actor_subscribed, if_neg (hold hmem).1, hx]
      have hkept := (h.attended u s hmem).endure (h.signal_lt hmem) hendures hactor fun _ hs => hs
      exact hkept.concat (by simp) (by simp) (by simp)
    · exact h.attended_newcomer key hopen hleft

end Subscribe

section Unsubscribe

variable {node : String} {x : Subscription}

theorem registry_unsubscribe (hfound : n.backend.registry.find? (Registry.nodeKey node) = some x) :
    (n.unsubscribe node).backend.registry
      = (n.backend.registry.raise x.signal).2.erase (Registry.nodeKey node) :=
  (Coordination.run_unsubscribe_of_some hfound).2

theorem find?_unsubscribe (hfound : n.backend.registry.find? (Registry.nodeKey node) = some x)
    (key : String) : (n.unsubscribe node).backend.registry.find? key
      = if Registry.nodeKey node = key then none else n.backend.registry.find? key := by
  rw [registry_unsubscribe hfound, Registry.find?_erase,
    (Registry.leaves_raise key n.backend.registry x.signal).find]

/-- **An unsubscription** raises the signal of what it finds, and no other. -/
theorem Tended.find (h : Tended log n)
    (hfound : n.backend.registry.find? (Registry.nodeKey node) = some x) :
    Tended (log ++ [.found x]) (n.unsubscribe node) := by
  have hregistry := registry_unsubscribe hfound
  have hnext :
      n.backend.registry.nextSignal ≤ (n.unsubscribe node).backend.registry.nextSignal := by
    rw [hregistry]
    exact (Registry.leaves_raise "" n.backend.registry x.signal).signal
  have hentry {key : String} {y : Subscription}
      (hy : (n.unsubscribe node).backend.registry.find? key = some y) :
      n.backend.registry.find? key = some y := by
    rw [find?_unsubscribe hfound] at hy
    split at hy
    · cases hy
    · exact hy
  have hsignal (i : SignalId) := congrArg (·.signals.find? i) hregistry
  refine h.concat (by simp) ⟨h.numbered.actors, h.numbered.sinks⟩
    (fun key y hy => Nat.lt_of_lt_of_le (h.dated key y (hentry hy)) hnext)
    ⟨Nat.le_refl _, Nat.le_refl _⟩ hnext (Nat.lt_of_lt_of_le (h.dated _ x hfound) hnext)
    (fun _ _ hs => hs) ?_
  intro t s hmem
  have hold := h.attended t s hmem
  by_cases hx : x.signal = s.signal
  · -- the subscription itself was found, since its signal is in no other entry
    obtain rfl := hold.entry _ x hfound hx
    refine ⟨fun key y hy => hold.entry key y (hentry hy), ?_, ?_, ?_, ?_⟩
    · exact hold.sink.trans (by simp)
    · intro hnot
      obtain ⟨hfind, hraised⟩ := hold.waits fun hmem => hnot (List.mem_append_left _ hmem)
      refine ⟨hfind, (hsignal x.signal).trans ?_⟩
      show (n.backend.registry.raise x.signal).2.signals.find? x.signal = _
      rw [Registry.signal_raise, hraised]
      simp
    · exact fun hret => hold.ended (mem_of_concat hret (by simp))
    · exact hold.cause_concat (by simp)
  · have hkept : Attended log (n.unsubscribe node) t s := by
      refine hold.keep (fun key y hy _ => hentry hy) ((hsignal s.signal).trans ?_)
        (fun _ _ hfind => hfind) fun _ hs => hs
      show (n.backend.registry.raise x.signal).2.signals.find? s.signal = _
      rw [Registry.signal_raise, if_neg hx]
    exact hkept.concat (fun heq => hx (by cases heq; rfl)) (by simp) (by simp)

theorem Tended.unsubscribe (h : Tended log n) (node : String) :
    Tended (log ++ n.unsubscribeCues node) (n.unsubscribe node) := by
  rw [unsubscribeCues]
  cases hfound : n.backend.registry.find? (Registry.nodeKey node) with
  | none =>
      have hsame : (n.unsubscribe node).backend.registry = n.backend.registry :=
        (Coordination.run_unsubscribe_of_none hfound).2
      rw [Option.map_none, Option.toList_none, List.append_nil]
      exact h.sustain (sustains_backend n _) (hsame ▸ .refl _)
  | some x => exact h.find hfound

end Unsubscribe

/-- **A peer goes away.** -/
theorem Tended.close (h : Tended log n) {i : SinkId} {c : Channel StreamMessage}
    (hc : n.sinks.find? i = some c) : Tended (log ++ [.left i]) (n.closeSink i) := by
  have hclose : n.closeSink i = n.setSink i c.close := by rw [closeSink, hc]
  have hlt : i < n.sinks.size := (h.numbered.sinks i).mp (by rw [hc]; rfl)
  have hsize : n.sinks.size ≤ (n.setSink i c.close).sinks.size := Table.size_le_insert _ _ _
  have hsink := n.sinkIsOpen?_closeSink i
  rw [hclose] at hsink ⊢
  refine h.concat (by simp) ⟨h.numbered.actors, h.numbered.sinks.replace hc⟩ h.dated
    ⟨Nat.le_refl _, hsize⟩ (Nat.le_refl _) (Nat.lt_of_lt_of_le hlt hsize) (fun _ _ hs => hs) ?_
  intro t s hmem
  have hold := h.attended t s hmem
  by_cases hi : i = s.sink
  · subst hi
    refine ⟨hold.entry, ?_, ?_, ?_, ?_⟩
    · rw [hsink, if_pos rfl, hold.sink]
      simp
    · intro hnot
      obtain ⟨hfind, hraised⟩ := hold.waits fun hmem => hnot (List.mem_append_left _ hmem)
      exact ⟨hfind, hraised.trans (by simp)⟩
    · exact fun hret => hold.ended (mem_of_concat hret (by simp))
    · exact hold.cause_concat (by simp)
  · have hkept : Attended log (n.setSink i c.close) t s :=
      hold.keep (fun _ _ hx _ => hx) rfl (fun _ _ hfind => hfind) fun _ hs =>
        ((hsink s.sink).trans (if_neg hi)).trans hs
    exact hkept.concat (by simp) (fun heq => hi (by cases heq; rfl)) (by simp)

theorem Tended.closeSink (h : Tended log n) (i : SinkId) :
    Tended (log ++ n.leaveCues i) (n.closeSink i) := by
  rw [leaveCues]
  cases hc : n.sinks.find? i with
  | none =>
      rw [Network.closeSink, hc]
      exact (List.append_nil log).symm ▸ h
  | some c => exact h.close hc

section Return

/-- The network after the actor of a subscription has returned. -/
def returned (n : Network) (t : ActorId) (s : Subscription) : Network :=
  { n with backend.registry := n.backend.registry.deafen s.signal }.setActor t (.ended .ok)

variable {s : Subscription}

/-- The actor of a subscription can return if there is a cause, and does nothing else. -/
theorem Attended.step?_eq (h : Attended log n t s) (hret : Cue.returned t ∉ log) : n.step? t
    = if Cue.found s ∈ log ∨ Cue.left s.sink ∈ log then some (n.returned t s) else none := by
  obtain ⟨hfind, hsignal⟩ := h.waits hret
  obtain ⟨c, hc, hopen⟩ := Option.map_eq_some_iff.mp h.sink
  have hraised : n.backend.registry.isRaised s.signal = decide (Cue.found s ∈ log) := by
    rw [Registry.isRaised, hsignal]
    rfl
  have hclosed : n.isSinkClosed s.sink = decide (Cue.left s.sink ∈ log) := by
    rw [isSinkClosed, hc]
    simp [hopen]
  have hstep : n.step? t = n.subscriberStep? t s.sink s.signal := by
    rw [step?, hfind]
    rfl
  rw [hstep, subscriberStep?]
  simp only [hraised, hclosed, Bool.or_eq_true, decide_eq_true_eq]
  rfl

/-- **The actor of a subscription returns.** The others wait for other signals. -/
theorem Tended.return {sink : SinkId} {signal : SignalId} (h : Tended log n)
    (hx : n.actors.find? t = some (.subscriber sink signal)) (hn : n.step? t = some n') :
    Tended (log ++ [.returned t]) n' := by
  have hmem : Cue.subscribed t ⟨sink, signal⟩ ∈ log := h.complete t _ (by rw [hx]; rfl)
  have hown := h.attended t _ hmem
  have hret : Cue.returned t ∉ log := by
    intro hret
    cases hx.symm.trans (hown.ended hret)
  have hstep := hown.step?_eq hret
  rw [hn] at hstep
  split at hstep
  next hcause =>
    obtain rfl := Option.some.inj hstep
    have hsize : n.actors.size ≤ (n.returned t ⟨sink, signal⟩).actors.size :=
      Table.size_le_insert _ _ _
    refine h.concat (by simp) ⟨h.numbered.actors.replace hx, h.numbered.sinks⟩ h.dated
      ⟨hsize, Nat.le_refl _⟩ (Nat.le_refl _) (Nat.lt_of_lt_of_le (h.known _ hmem).1 hsize)
      (waiting_setActor rfl) ?_
    intro u s hmem'
    have hold := h.attended u s hmem'
    by_cases hu : u = t
    · obtain ⟨-, rfl⟩ := h.unique _ _ _ _ hmem' hmem (.inr hu)
      subst hu
      refine ⟨hold.entry, ?_, ?_, ?_, ?_⟩
      · exact hold.sink.trans (by simp)
      · exact fun hnot => absurd (List.mem_append_right _ (List.mem_singleton.mpr rfl)) hnot
      · exact fun _ => actor_setActor _ _ _
      · exact hold.cause_concat fun _ => hcause
    · have hsignal : signal ≠ s.signal :=
        fun heq => hu (h.unique _ _ _ _ hmem hmem' (.inl heq)).1.symm
      have hkept : Attended log (n.returned t ⟨sink, signal⟩) u s := by
        refine hold.keep (fun _ _ hx _ => hx) ?_ ?_ fun _ hs => hs
        · exact (Table.find?_insert _ _ _ _).trans (if_neg hsignal)
        · intro x _ hfind
          exact ((Table.find?_insert _ _ _ _).trans (if_neg (Ne.symm hu))).trans hfind
      exact hkept.concat (by simp) (by simp) fun heq => hu (by cases heq; rfl)
  next => cases hstep

end Return

/-! ## Acts -/

/-- A node subscribes on a sink of its own. -/
theorem openControl_eq (n : Network) (key : String) (capacity : Nat) :
    (n.openControl key capacity).2
      = ((n.openStream capacity).2.closeInbox n.inboxes.size).subscribed key n.sinks.size := rfl

theorem subscribeCues_eq (n : Network) (key : String) (capacity : Nat) :
    n.subscribeCues key capacity = [.subscribed (n.openControl key capacity).1.actor
      (((n.openStream capacity).2.closeInbox n.inboxes.size).newcomer n.sinks.size)] := by
  have hfind :
      (n.openControl key capacity).2.backend.registry.find? (Registry.nodeKey key) = some _ :=
    (find?_subscribed _ key n.sinks.size (Registry.nodeKey key)).trans (if_pos rfl)
  simp only [subscribeCues, hfind]
  rfl

theorem Tended.openControl (h : Tended log n) (key : String) (capacity : Nat) :
    Tended (log ++ n.subscribeCues key capacity) (n.openControl key capacity).2 := by
  let uplink := (n.openStream capacity).2.closeInbox n.inboxes.size
  have huplink : Tended log uplink := by
    refine h.sustain (n.sustains_openUplink capacity) ?_
    rw [(n.bypasses_openUplink capacity).backend]
    exact .refl _
  have hnew : (n.openStream capacity).2.sinkIsOpen? n.sinks.size = some true := by
    show ((n.sinks.insert n.sinks.size _).find? n.sinks.size).map _ = _
    rw [Table.find?_insert, if_pos rfl]
    rfl
  have hopen : uplink.sinkIsOpen? n.sinks.size = some true :=
    ((n.openStream capacity).2.sustains_closeInbox n.inboxes.size).sink
      ((n.sustains_openStream capacity).numbered h.numbered) n.sinks.size true hnew
  have hleft : Cue.left n.sinks.size ∉ log :=
    fun hmem => Nat.lt_irrefl n.sinks.size (h.known _ hmem)
  rw [subscribeCues_eq, openControl_eq]
  exact huplink.subscribe key hopen hleft

theorem Tended.step (h : Tended log n) (hn : n.step? t = some n') :
    Tended (log ++ (Act.step t).cues n) n' := by
  rw [Act.cues]
  split
  next sink signal hx => exact h.return hx hn
  next socket sink reader hx =>
    have hstep : n.writerStep? t socket sink reader = some n' := by
      rw [← hn, step?, hx]
      rfl
    obtain ⟨hthere, ⟨hsustains, hgoes⟩ | ⟨n₁, hsustains, hbackend, rfl, hends⟩⟩ :=
      writerStep?_cases hx hstep
    · have hending : n'.ending? t = none := by rw [ending?, hgoes]; rfl
      rw [hn, Option.bind_some, hending]
      have hnot (sink : SinkId) (signal : SignalId) :
          n.actors.find? t ≠ some (.subscriber sink signal) := by
        simp [hx]
      exact (List.append_nil log).symm ▸ h.sustain hsustains (endures_step? hnot hn)
    · have hending : (n₁.closeSink sink).ending? t = some .ok := by rw [ending?, hends]; rfl
      rw [hn, Option.bind_some, hending]
      have h₁ : Tended log n₁ := h.sustain hsustains (hbackend ▸ .refl _)
      obtain ⟨isOpen, hopen⟩ := Option.ne_none_iff_exists'.mp hthere
      obtain ⟨c, hc, -⟩ := Option.map_eq_some_iff.mp (hsustains.sink h.numbered sink isOpen hopen)
      exact h₁.close hc
  next hsubscriber hwriter =>
    rw [List.append_nil]
    have hnot : ∀ sink signal, n.actors.find? t ≠ some (.subscriber sink signal) := hsubscriber
    exact h.sustain (sustains_step? hnot hwriter hn) (endures_step? hnot hn)

/-- **One act.** -/
theorem Tended.perform {a : Act} (h : Tended log n) (ha : ∀ c, a = .ask c → c.RaisesNothing)
    (hn : a.perform? n = some n') : Tended (log ++ a.cues n) n' := by
  have hothers (hstep : ∀ t, a ≠ .step t) (hquit : ∀ t, a ≠ .quit t)
      (hclose : ∀ s, a ≠ .closeSink s)
      (hcontrol : ∀ key capacity, a ≠ .openControl key capacity)
      (hsocket : ∀ key capacity, a ≠ .openSocket (.control key) capacity)
      (hcues : a.cues n = []) : Tended (log ++ a.cues n) n' := by
    rw [hcues, List.append_nil]
    exact h.sustain (sustains_perform? hstep hquit hclose hcontrol hsocket hn)
      (endures_perform? ha (fun t ht => absurd ht (hstep t)) hn)
  cases a with
  | step t => exact h.step hn
  | openControl key capacity =>
      cases hn
      exact h.openControl key capacity
  | openSocket p capacity =>
      cases p with
      | control key =>
          cases hn
          have hset : Tended log (n.setSocket n.sockets.size {}) :=
            h.sustain (.of_eq rfl rfl) (.refl _)
          exact (hset.openControl key capacity).sustain (sustains_ends _ _ _) (.refl _)
      | messages => exact hothers (by simp) (by simp) (by simp) (by simp) (by simp) rfl
      | telemetry => exact hothers (by simp) (by simp) (by simp) (by simp) (by simp) rfl
  | closeSink s =>
      cases hn
      exact h.closeSink s
  | quit t =>
      obtain ⟨socket, sink, reader, hx, -, rfl⟩ := quit?_cases hn
      rw [Act.cues, hx]
      have hends : Tended log (n.setActor t (.ended .ok)) :=
        h.sustain (sustains_setActor hx id rfl) (.refl _)
      exact hends.closeSink sink
  | _ => exact hothers (by simp) (by simp) (by simp) (by simp) (by simp) rfl

/-! ## Runs -/

theorem Attends.tended (h₀ : n₀.IsNew) (hdated : n₀.backend.registry.IsDated)
    (h : Attends n₀ log n) : Tended log n := by
  induction h with
  | start =>
      have hnobody (t : ActorId) : n₀.actors.find? t = none := by
        rw [h₀.1]
        rfl
      refine ⟨h₀.isNumbered, hdated, nofun, ?_, nofun, nofun⟩
      intro t s hs
      rw [hnobody] at hs
      cases hs
  | act a ha hn _ ih => exact ih.perform ha hn
  | unsubscribe node _ ih => exact ih.unsubscribe node

theorem Attends.trans {log' : List Cue} (h : Attends n₀ log n) (h' : Attends n log' n') :
    Attends n₀ (log ++ log') n' := by
  induction h' with
  | start => rwa [List.append_nil]
  | act a ha hn _ ih => exact List.append_assoc _ _ _ ▸ ih.act a ha hn
  | unsubscribe node _ ih => exact List.append_assoc _ _ _ ▸ ih.unsubscribe node

/-- What a subscription may count on: its actor returns for its own reasons, and always for them. -/
structure Keeps (n : Network) (log : List Cue) (t : ActorId) (s : Subscription) : Prop where
  /-- The actor has returned only after an unsubscription found the subscription itself, or the
  peer went away. -/
  cause : ∀ past, past ++ [Cue.returned t] <+: log → Cue.found s ∈ past ∨ Cue.left s.sink ∈ past
  returned : Cue.returned t ∈ log → n.ending? t = some .ok
  /-- As long as it has not returned it can move if there is a cause. -/
  waits : Cue.returned t ∉ log → n.ending? t = none ∧
    ((n.step? t).isSome ↔ Cue.found s ∈ log ∨ Cue.left s.sink ∈ log)
  /-- When it moves it returns, and the registry is as it was. -/
  ends : ∀ n', n.step? t = some n' → n'.ending? t = some .ok ∧
    n'.backend.registry.entries = n.backend.registry.entries
  /-- An unsubscription that finds the subscription ends it, although it removes the entry. -/
  told : ∀ node, n.backend.registry.find? (Registry.nodeKey node) = some s →
    (n.unsubscribe node).backend.registry.find? (Registry.nodeKey node) = none ∧
      (Cue.returned t ∉ log →
        ∃ n', (n.unsubscribe node).step? t = some n' ∧ n'.ending? t = some .ok)
  /-- Nothing else ends it, whatever becomes of its entry. -/
  lasts : Cue.returned t ∉ log → n.step? t = none → ∀ more n', Attends n more n' →
    Cue.found s ∉ more → Cue.left s.sink ∉ more → n'.ending? t = none ∧ n'.step? t = none

namespace Attended

variable {s : Subscription}

theorem caused (h : Attended log n t s) (hret : Cue.returned t ∈ log) :
    Cue.found s ∈ log ∨ Cue.left s.sink ∈ log := by
  obtain ⟨past, rest, rfl⟩ := List.append_of_mem hret
  have hpast : past ++ [Cue.returned t] <+: past ++ Cue.returned t :: rest := ⟨rest, by simp⟩
  rcases h.cause past hpast with hfound | hleft
  · exact .inl (List.mem_append_left _ hfound)
  · exact .inr (List.mem_append_left _ hleft)

theorem waiting (h : Attended log n t s) (hret : Cue.returned t ∉ log) : n.ending? t = none ∧
    ((n.step? t).isSome ↔ Cue.found s ∈ log ∨ Cue.left s.sink ∈ log) := by
  constructor
  · rw [ending?, (h.waits hret).1]
    rfl
  · rw [h.step?_eq hret]
    split
    next hcause => exact iff_of_true rfl hcause
    next hcause => exact iff_of_false nofun hcause

theorem ends (h : Attended log n t s) (hn : n.step? t = some n') :
    n'.ending? t = some .ok ∧ n'.backend.registry.entries = n.backend.registry.entries := by
  by_cases hret : Cue.returned t ∈ log
  · have hstep : n.step? t = none := by
      rw [step?, h.ended hret]
      rfl
    cases hstep.symm.trans hn
  · rw [h.step?_eq hret] at hn
    split at hn
    next =>
      obtain rfl := Option.some.inj hn
      exact ⟨by rw [ending?, returned, actor_setActor]; rfl, rfl⟩
    next => cases hn

end Attended

/-- **A subscription ends for its own reasons.** After every run of a network that began with no
actors and no sinks: every actor that waits for the end of a subscription has subscribed, and what
every subscription may count on. -/
theorem keeps_of_attends (h₀ : n₀.IsNew) (hdated : n₀.backend.registry.IsDated)
    (h : Attends n₀ log n) :
    (∀ t sink signal, n.actors.find? t = some (.subscriber sink signal) →
      Cue.subscribed t ⟨sink, signal⟩ ∈ log) ∧
    ∀ t s, Cue.subscribed t s ∈ log → n.Keeps log t s := by
  have htended := h.tended h₀ hdated
  refine ⟨fun t sink signal hx => htended.complete t _ (by rw [hx]; rfl), ?_⟩
  intro t s hmem
  have hown := htended.attended t s hmem
  refine ⟨hown.cause, ?_, hown.waiting, fun n' => hown.ends, ?_, ?_⟩
  · intro hret
    rw [ending?, hown.ended hret]
    rfl
  · intro node hfound
    refine ⟨(find?_unsubscribe hfound _).trans (if_pos rfl), ?_⟩
    intro hret
    have hafter := (htended.find hfound).attended t s (List.mem_append_left _ hmem)
    have hlast : Cue.found s ∈ log ++ [.found s] :=
      List.mem_append_right _ (List.mem_singleton.mpr rfl)
    have hcan := (hafter.waiting fun hmem => hret (mem_of_concat hmem nofun)).2.mpr (.inl hlast)
    obtain ⟨n', hn⟩ := Option.isSome_iff_exists.mp hcan
    exact ⟨n', hn, (hafter.ends hn).1⟩
  · intro hret hstep more n' hmore hfound hleft
    -- no cause before, and none since
    have hbefore : ¬ (Cue.found s ∈ log ∨ Cue.left s.sink ∈ log) := by
      rw [← (hown.waiting hret).2, hstep]
      nofun
    have hcause : ¬ (Cue.found s ∈ log ++ more ∨ Cue.left s.sink ∈ log ++ more) := by
      simpa [hfound, hleft] using hbefore
    have hlater := ((h.trans hmore).tended h₀ hdated).attended t s (List.mem_append_left _ hmem)
    obtain ⟨hending, hmoves⟩ := hlater.waiting fun hmem => hcause (hlater.caused hmem)
    refine ⟨hending, ?_⟩
    rw [← hmoves, Bool.not_eq_true, Option.isSome_eq_false_iff, Option.isNone_iff_eq_none] at hcause
    exact hcause

/-! ### A replaced subscription -/

theorem attends_of_runs (h : Runs Act.cues (fun a => ∀ c, a = .ask c → c.RaisesNothing) n₀ log n) :
    Attends n₀ log n := by
  induction h with
  | start => exact .start
  | act a ha hn _ ih => exact ih.act a ha hn

/-- A node subscribes twice. -/
def resubscription : List Act := [.openControl "w1" 1, .openControl "w1" 1]

/-- The node is unsubscribed, and the second subscription ends. -/
def resubscriptionLog : List Cue :=
  [.subscribed 0 ⟨0, 0⟩, .subscribed 1 ⟨1, 1⟩, .found ⟨1, 1⟩, .returned 1]

/-- The first subscription, which was replaced, goes on when the second is ended. -/
theorem keeps_replaced : ∃ n, vacant.IsNew ∧ vacant.backend.registry.IsDated ∧
    Attends vacant resubscriptionLog n ∧ n.Keeps resubscriptionLog 0 ⟨0, 0⟩ ∧
    n.ending? 0 = none ∧ n.ending? 1 = some .ok := by
  have hcheck : (play Act.cues resubscription vacant).any (fun p =>
      (p.1 ++ p.2.unsubscribeCues "w1" ++ (Act.step 1).cues (p.2.unsubscribe "w1"))
        = resubscriptionLog && ((p.2.unsubscribe "w1").step? 1).isSome) = true := by decide +kernel
  obtain ⟨⟨log, n⟩, hplay, hchecked⟩ := (Option.any_eq_true _ _).mp hcheck
  obtain ⟨hlog, hstep⟩ := Bool.and_eq_true_iff.mp hchecked
  obtain ⟨n', hn⟩ := Option.isSome_iff_exists.mp hstep
  have hn : (Act.step 1).perform? (n.unsubscribe "w1") = some n' := hn
  have hallowed : ∀ a ∈ resubscription, ∀ c, a = .ask c → c.RaisesNothing := by
    simp [resubscription]
  have hcame : Attends vacant log n := attends_of_runs (runs_of_play hallowed hplay)
  have hasks (c : Call) : Act.step 1 = .ask c → c.RaisesNothing := nofun
  have hattends := (hcame.unsubscribe "w1").act (.step 1) hasks hn
  have hlog : log ++ n.unsubscribeCues "w1" ++ (Act.step 1).cues (n.unsubscribe "w1")
      = resubscriptionLog := of_decide_eq_true hlog
  rw [hlog] at hattends
  have hnew : vacant.IsNew := ⟨rfl, rfl⟩
  have hdated : vacant.backend.registry.IsDated := nofun
  have hkeeps := (keeps_of_attends hnew hdated hattends).2
  have hfirst := hkeeps 0 ⟨0, 0⟩ (by decide)
  exact ⟨n', hnew, hdated, hattends, hfirst, (hfirst.waits (by decide)).1,
    (hkeeps 1 ⟨1, 1⟩ (by decide)).returned (by decide)⟩

end Network
end ControlPlane
