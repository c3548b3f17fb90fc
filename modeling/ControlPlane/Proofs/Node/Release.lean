import ControlPlane.Proofs.Backend.Crowd
import ControlPlane.Proofs.Backend.Footprint

/-!
# Races of subscriptions

Any number of subscriptions and unsubscriptions are served at the same time, each moving on by one
call at a time. What they do to the registry is noted in a log, each *mark* with the number of
the call that made it: a key was looked up, a signal was raised, a key was removed or installed.

An unsubscription looks a subscription up, raises its signal, and then removes what stands under
the key. Between the first call and the last another subscription may take the place of the one
that was found, and then it is removed although nobody has told its owner.

Main statement: this is the only way in which a subscription is removed untold
(`Coordination.accounts_of_removed`).
-/

set_option autoImplicit false

namespace ControlPlane

/-! ## Marks -/

/-- What a call does with the registry. -/
inductive Mark where
  | found (key : String) (s? : Option Subscription)
  | told (signal : SignalId)
  | removed (key : String) (s? : Option Subscription)
  | installed (key : String) (s : Subscription)
deriving DecidableEq

/-- The mark of a call that is made now. -/
def Backend.mark? (b : Backend) : Call → Option Mark
  | .lookUp key => some (.found key (b.registry.find? key))
  | .finish signal => some (.told signal)
  | .remove key => some (.removed key (b.registry.find? key))
  | .install key sink _ => some (.installed key ⟨sink, b.registry.nextSignal⟩)
  | _ => none

namespace Backend

variable {key : String} {x : Subscription}

/-- What stands under a key after a call was there before, or the call has installed it. -/
theorem find?_perform_cases (b : Backend) {q : Call}
    (h : (b.perform q).2.registry.find? key = some x) :
    b.registry.find? key = some x ∨ b.mark? q = some (.installed key x) := by
  by_cases hq : q.registryKey? = some key
  · cases q with
    | install l sink isHeard =>
        obtain rfl : l = key := Option.some.inj hq
        have hset := Registry.find?_set (b.registry.newSignal isHeard).2 l l
          ⟨sink, b.registry.nextSignal⟩
        rw [if_pos rfl] at hset
        have hx := hset.symm.trans h
        exact .inr (by rw [mark?, Option.some.inj hx])
    | remove l =>
        obtain rfl : l = key := Option.some.inj hq
        have herase := Registry.find?_erase b.registry l l
        rw [if_pos rfl] at herase
        cases herase.symm.trans h
    | _ => cases hq
  · exact .inl ((b.leaves_perform hq).find.symm.trans h)

theorem nextSignal_le_perform (b : Backend) (q : Call) :
    b.registry.nextSignal ≤ (b.perform q).2.registry.nextSignal := by
  -- a call that is about no key is not about the empty one
  have hleaves (d : Call) (hd : d.registryKey? = none) :
      b.registry.Leaves "" (b.perform d).2.registry := b.leaves_perform (by simp [Call.Avoids, hd])
  cases q with
  | install l sink isHeard => exact Nat.le_succ _
  | remove l => exact Nat.le_refl _
  | _ => exact (hleaves _ rfl).signal

theorem signal_of_mark? (b : Backend) {q : Call} (h : b.mark? q = some (.installed key x)) :
    x.signal = b.registry.nextSignal := by
  cases q with
  | install l sink isHeard =>
      cases h
      rfl
  | _ => cases h

end Backend

/-- The signals of all subscriptions are from before the next one. -/
def Registry.IsDated (r : Registry) : Prop :=
  ∀ key s, r.find? key = some s → s.signal < r.nextSignal

/-- The marks of a run, each with the job that made it. -/
abbrev MarkLog := List (Nat × Mark)

namespace Coordination

/-! ## Subscriptions and unsubscriptions -/

/-- What nodes and operators ask for. -/
inductive ControlCall where
  | subscribe (node : String) (sink : SinkId)
  | unsubscribe (node : String)

namespace ControlCall

abbrev Answer : ControlCall → Type
  | subscribe .. => SignalId
  | unsubscribe _ => Except CoordinationError Unit

def serve : (c : ControlCall) → Routine c.Answer
  | subscribe node sink => Coordination.install node sink
  | unsubscribe node => (Coordination.unsubscribe node).run

end ControlCall

/-- What an unsubscription does after it has removed the entry. -/
def settle : Routine (Except CoordinationError Unit) := .ask .gauge fun _ => .done (.ok ())

/-- What is left of an unsubscription that has told the owner. -/
def clear (key : String) : Routine (Except CoordinationError Unit) :=
  .ask (.remove key) fun _ => settle

/-- What is left of an unsubscription that has found a subscription. -/
def release (key : String) (s : Subscription) : Routine (Except CoordinationError Unit) :=
  .ask (.finish s.signal) fun _ => clear key

/-- What is left of an unsubscription that has found nothing. -/
def giveUp (key : String) : Routine (Except CoordinationError Unit) :=
  (do
    countError (.subscribeNotFound key)
    throw (.subscribeNotFound key) : Attempt CoordinationError Unit).run

theorem run_unsubscribe (node : String) :
    (unsubscribe node).run = .ask (.lookUp (Registry.nodeKey node)) fun s? =>
      s?.elim (giveUp (Registry.nodeKey node)) (release (Registry.nodeKey node)) := by
  unfold unsubscribe
  rw [ExceptT.run_bind]
  show Routine.ask _ _ = _
  congr 1
  funext s?
  cases s? with
  | none => rfl
  | some s => rfl

/-! ## Runs -/

/-- The mark that the next move of a job leaves. -/
def notes (b : Backend) (i : Nat) (q : Call) : MarkLog := (b.mark? q).toList.map fun m => (i, m)

theorem mem_notes {b : Backend} {i k : Nat} {q : Call} {m : Mark} :
    (k, m) ∈ notes b i q ↔ i = k ∧ b.mark? q = some m := by
  unfold notes
  cases b.mark? q with
  | none => simp
  | some m' => simp [eq_comm]

/-- The marks that the next move of a crowd leaves. -/
def marks (c : Crowd ControlCall.Answer) (i : Nat) : MarkLog :=
  match c.jobs[i]? with
  | some ⟨_, .ask q _⟩ => notes c.backend i q
  | _ => []

/-- What can come about: calls come in, time passes, owners of signals leave, and jobs move, in
any order. The registry may hold subscriptions from before, if their signals are from before. -/
inductive Logged : MarkLog → Crowd ControlCall.Answer → Prop
  | start (b : Backend) (h : b.registry.IsDated) : Logged [] ⟨b, []⟩
  | join {log : MarkLog} {c : Crowd ControlCall.Answer} (call : ControlCall) (h : Logged log c) :
      Logged log { c with jobs := c.jobs ++ [⟨call, call.serve⟩] }
  | pass {log : MarkLog} {c : Crowd ControlCall.Answer} (ids : IdSupply) (wall clock : Instant)
      (h : Logged log c) : Logged log { c with backend := { c.backend with ids, wall, clock } }
  | leave {log : MarkLog} {c : Crowd ControlCall.Answer} (signal : SignalId) (h : Logged log c) :
      Logged log { c with backend :=
        { c.backend with registry := c.backend.registry.deafen signal } }
  | move {log : MarkLog} {c c' : Crowd ControlCall.Answer} (i : Nat) (hmove : c.move? i = some c')
      (h : Logged log c) : Logged (log ++ marks c i) c'

/-! ## What an unsubscription has found -/

/-- An unsubscription has looked up a key, at a point of the log, and found a subscription. What
stands under the key now is this one or was installed since; and what was installed since has a
later signal. -/
structure Holds (log : MarkLog) (r : Registry) (i : Nat) (key : String) (s : Subscription)
    (before after : MarkLog) : Prop where
  split : log = before ++ (i, .found key (some s)) :: after
  first : ∀ m, (i, m) ∉ before
  own : ∀ signal, (i, .told signal) ∈ after → signal = s.signal
  dated : s.signal < r.nextSignal
  entry : ∀ x, r.find? key = some x → x = s ∨ ∃ j, (j, .installed key x) ∈ after
  later : ∀ j x, (j, .installed key x) ∈ after → s.signal < x.signal

namespace Holds

variable {log before after : MarkLog} {b : Backend} {r : Registry} {i : Nat} {key : String}
  {s x : Subscription}

/-- One more call, of any job. -/
theorem call (h : Holds log b.registry i key s before after) (k : Nat) (q : Call)
    (hown : ∀ signal, k = i → b.mark? q = some (.told signal) → signal = s.signal) :
    Holds (log ++ notes b k q) (b.perform q).2.registry i key s before (after ++ notes b k q) where
  split := by rw [h.split, List.append_assoc, List.cons_append]
  first := h.first
  own signal hmem := by
    rcases List.mem_append.mp hmem with hmem | hmem
    · exact h.own signal hmem
    · obtain ⟨hk, hmark⟩ := mem_notes.mp hmem
      exact hown signal hk hmark
  dated := Nat.lt_of_lt_of_le h.dated (b.nextSignal_le_perform q)
  entry x hx := by
    rcases b.find?_perform_cases hx with hx | hmark
    · rcases h.entry x hx with rfl | ⟨j, hj⟩
      · exact .inl rfl
      · exact .inr ⟨j, List.mem_append_left _ hj⟩
    · exact .inr ⟨k, List.mem_append_right _ (mem_notes.mpr ⟨rfl, hmark⟩)⟩
  later j x hmem := by
    rcases List.mem_append.mp hmem with hmem | hmem
    · exact h.later j x hmem
    · rw [b.signal_of_mark? (mem_notes.mp hmem).2]
      exact h.dated

end Holds

/-- A call that looks nothing up, tells nobody and removes nothing. -/
def IsQuiet : Call → Prop
  | .lookUp _ | .finish _ | .remove _ => False
  | _ => True

/-- What a job has done and what is left of it. -/
inductive Progress (log : MarkLog) (r : Registry) (i : Nat) (j : Job ControlCall.Answer) : Prop
  /-- A subscription, or an unsubscription that is through with the registry. -/
  | quiet (h : j.rest.AsksOnly IsQuiet)
  | fresh (node : String) (hj : j = ⟨.unsubscribe node, (unsubscribe node).run⟩)
      (h : ∀ m, (i, m) ∉ log)
  | found (node : String) (s : Subscription) (before after : MarkLog)
      (hj : j = ⟨.unsubscribe node, release (Registry.nodeKey node) s⟩)
      (h : Holds log r i (Registry.nodeKey node) s before after)
  | told (node : String) (s : Subscription) (before after : MarkLog)
      (hj : j = ⟨.unsubscribe node, clear (Registry.nodeKey node)⟩)
      (h : Holds log r i (Registry.nodeKey node) s before after)
      (htold : (i, .told s.signal) ∈ after)

theorem quiet_giveUp (key : String) : (giveUp key).AsksOnly IsQuiet := by
  apply Attempt.asksOnly_bind
  · exact Attempt.asksOnly_lift (Routine.asksOnly_ask trivial)
  · intro _
    exact Routine.asksOnly_pure _

theorem quiet_install (node : String) (sink : SinkId) : (install node sink).AsksOnly IsQuiet := by
  apply (Routine.asksOnly_ask trivial).bind
  intro signal
  exact (Routine.asksOnly_ask trivial).bind fun _ => Routine.asksOnly_pure _

namespace Progress

variable {log : MarkLog} {b : Backend} {i : Nat}

/-- A call of another job. -/
theorem other {j : Job ControlCall.Answer} (h : Progress log b.registry i j) {k : Nat}
    (hk : k ≠ i) (q : Call) :
    Progress (log ++ notes b k q) (b.perform q).2.registry i j := by
  cases h with
  | quiet h => exact .quiet h
  | fresh node hj h =>
      refine .fresh node hj ?_
      intro m hm
      rcases List.mem_append.mp hm with hm | hm
      · exact h m hm
      · exact hk (mem_notes.mp hm).1
  | found node s before after hj h =>
      exact .found node s before _ hj (h.call k q fun _ hki _ => absurd hki hk)
  | told node s before after hj h htold =>
      exact .told node s before _ hj (h.call k q fun _ hki _ => absurd hki hk)
        (List.mem_append_left _ htold)

/-- The next call of the job itself. -/
theorem own {call : ControlCall} {q : Call} {next : q.Answer → Routine call.Answer}
    (h : Progress log b.registry i ⟨call, .ask q next⟩) (hdated : b.registry.IsDated) :
    Progress (log ++ notes b i q) (b.perform q).2.registry i
      ⟨call, next (b.perform q).1⟩ := by
  cases h with
  | quiet h => exact .quiet (h.2 _)
  | fresh node hj h =>
      rw [run_unsubscribe] at hj
      cases hj
      show Progress _ b.registry i ⟨_, (b.registry.find? (Registry.nodeKey node)).elim _ _⟩
      cases hf : b.registry.find? (Registry.nodeKey node) with
      | none => exact .quiet (quiet_giveUp _)
      | some s =>
          refine .found node s log [] rfl ⟨?_, h, by simp, hdated _ s hf, ?_, by simp⟩
          · simp [notes, Backend.mark?, hf]
          · intro x hx
            exact .inl (Option.some.inj (hx.symm.trans hf))
  | found node s before after hj h =>
      cases hj
      refine .told node s before _ rfl (h.call i _ ?_) (by simp [notes, Backend.mark?])
      rintro signal - ⟨⟩
      rfl
  | told node s before after hj h htold =>
      cases hj
      exact .quiet ⟨trivial, fun _ => trivial⟩

/-- The owner of a signal leaves. -/
theorem leave {r : Registry} {j : Job ControlCall.Answer} (h : Progress log r i j)
    (signal : SignalId) : Progress log (r.deafen signal) i j := by
  have hholds {key s before after} (h : Holds log r i key s before after) :
      Holds log (r.deafen signal) i key s before after :=
    ⟨h.split, h.first, h.own, h.dated, h.entry, h.later⟩
  cases h with
  | quiet h => exact .quiet h
  | fresh node hj h => exact .fresh node hj h
  | found node s before after hj h => exact .found node s before after hj (hholds h)
  | told node s before after hj h htold => exact .told node s before after hj (hholds h) htold

end Progress

/-! ## The invariant -/

/-- Signals are handed out in order, marks are made by jobs that are there, and each job has done
what it should have. -/
structure Watched (log : MarkLog) (c : Crowd ControlCall.Answer) : Prop where
  dated : c.backend.registry.IsDated
  numbered : ∀ i m, (i, m) ∈ log → i < c.jobs.length
  jobs : ∀ i j, c.jobs[i]? = some j → Progress log c.backend.registry i j

theorem isDated_perform {b : Backend} (h : b.registry.IsDated) (q : Call) :
    (b.perform q).2.registry.IsDated := by
  intro key x hx
  rcases b.find?_perform_cases hx with hold | hmark
  · exact Nat.lt_of_lt_of_le (h key x hold) (b.nextSignal_le_perform q)
  · cases q with
    | install l sink isHeard =>
        rw [b.signal_of_mark? hmark]
        exact Nat.lt_succ_self _
    | _ => cases hmark

theorem watched_of_logged {log : MarkLog} {c : Crowd ControlCall.Answer} (h : Logged log c) :
    Watched log c := by
  induction h with
  | start b h => exact ⟨h, by simp, by simp⟩
  | @join log c call _ ih =>
      refine ⟨ih.dated, ?_, ?_⟩
      · intro i m hm
        have hlt := ih.numbered i m hm
        simp only [List.length_append, List.length_singleton]
        omega
      · intro i j hj
        rw [List.getElem?_append] at hj
        split at hj
        next => exact ih.jobs i j hj
        next hlen =>
          obtain ⟨-, rfl⟩ : i - c.jobs.length = 0 ∧ ⟨call, call.serve⟩ = j := by
            simpa [List.getElem?_singleton] using hj
          -- nobody of this number has made a mark yet
          have hno : ∀ m, (i, m) ∉ log := fun m hm => hlen (ih.numbered i m hm)
          cases call with
          | subscribe node sink => exact .quiet (quiet_install node sink)
          | unsubscribe node => exact .fresh node rfl hno
  | pass ids wall clock _ ih => exact ⟨ih.dated, ih.numbered, ih.jobs⟩
  | leave signal _ ih => exact ⟨ih.dated, ih.numbered, fun i j hj => (ih.jobs i j hj).leave signal⟩
  | @move log c c' i hmove _ ih =>
      obtain ⟨call, q, next, hi, rfl⟩ := Crowd.exists_ask_of_move? hmove
      have hmarks : marks c i = notes c.backend i q := by rw [marks, hi]
      have hlt : i < c.jobs.length := (List.getElem?_eq_some_iff.mp hi).1
      rw [hmarks]
      refine ⟨isDated_perform ih.dated q, ?_, ?_⟩
      · intro k m hm
        rw [List.length_set]
        rcases List.mem_append.mp hm with hm | hm
        · exact ih.numbered k m hm
        · obtain rfl : i = k := (mem_notes.mp hm).1
          exact hlt
      · intro k j hj
        rw [List.getElem?_set] at hj
        split at hj
        next hik =>
          subst hik
          obtain rfl : ⟨call, next (c.backend.perform q).1⟩ = j := by simpa [hlt] using hj
          exact (ih.jobs i _ hi).own ih.dated
        next hik => exact (ih.jobs k j hj).other hik q

/-! ## What a removal finds -/

/-- An unsubscription has told the owner of what it has found. It has told the owner of what stands
under the key now, too, unless that was installed since and no other job has told its owner. -/
theorem Holds.told_iff {log before after : MarkLog} {r : Registry} {i : Nat} {key : String}
    {s x : Subscription} (h : Holds log r i key s before after)
    (htold : (i, .told s.signal) ∈ after) (hx : r.find? key = some x) :
    (∃ j, (j, .told x.signal) ∈ log) ↔
      ¬ ((∃ j, (j, .installed key x) ∈ after) ∧ ∀ j, j ≠ i → (j, .told x.signal) ∉ log) := by
  have hafter : ∀ e ∈ after, e ∈ log := by
    intro e he
    rw [h.split]
    exact List.mem_append_right _ (List.mem_cons_of_mem _ he)
  constructor
  · rintro ⟨j, hj⟩ ⟨⟨k, hk⟩, hnobody⟩
    -- it can only be the unsubscription itself, and that tells only what it has found
    obtain rfl : j = i := Classical.byContradiction fun hji => hnobody j hji hj
    rw [h.split] at hj
    rcases List.mem_append.mp hj with hbefore | hj
    · exact h.first _ hbefore
    · have hmem : (j, .told x.signal) ∈ after := by simpa using hj
      have hlater := h.later k x hk
      rw [h.own x.signal hmem] at hlater
      exact Nat.lt_irrefl _ hlater
  · intro hnot
    rcases h.entry x hx with rfl | hinstalled
    · exact ⟨i, hafter _ htold⟩
    · by_cases hother : ∃ j, j ≠ i ∧ (j, .told x.signal) ∈ log
      · obtain ⟨j, -, hj⟩ := hother
        exact ⟨j, hj⟩
      · exact absurd ⟨hinstalled, fun j hji hj => hother ⟨j, hji, hj⟩⟩ hnot

/-- A job that is about to remove something is an unsubscription that has told the owner of what
it has found. -/
theorem Watched.holds_of_remove {log : MarkLog} {c : Crowd ControlCall.Answer} (h : Watched log c)
    {i : Nat} {call : ControlCall} {key : String} {next : Unit → Routine call.Answer}
    (hi : c.jobs[i]? = some ⟨call, .ask (.remove key) next⟩) :
    ∃ s before after, Holds log c.backend.registry i key s before after ∧
      (i, .told s.signal) ∈ after := by
  cases h.jobs i _ hi with
  | quiet h => exact h.1.elim
  | fresh node hj _ =>
      rw [run_unsubscribe] at hj
      cases hj
  | found node s before after hj _ => cases hj
  | told node s before after hj h htold =>
      cases hj
      exact ⟨s, before, after, h, htold⟩

theorem remove_of_mark? {b : Backend} {q : Call} {key : String} {x : Subscription}
    (h : b.mark? q = some (.removed key (some x))) :
    q = .remove key ∧ b.registry.find? key = some x := by
  cases q with
  | remove l =>
      obtain ⟨rfl, hx⟩ : l = key ∧ b.registry.find? l = some x := by
        simpa [Backend.mark?] using h
      exact ⟨rfl, hx⟩
  | _ => cases h

/-- A job that removes a subscription after these marks has looked the key up before, and the owner
of the subscription has been told, unless it was registered since and no other job has told its
owner. -/
def Accounts (pre : MarkLog) (i : Nat) (key : String) (x : Subscription) : Prop :=
  ∃ s before after, pre = before ++ (i, .found key (some s)) :: after ∧
    (∀ m, (i, m) ∉ before) ∧
    ((∃ j, (j, .told x.signal) ∈ pre) ↔
      ¬ ((∃ j, (j, .installed key x) ∈ after) ∧ ∀ j, j ≠ i → (j, .told x.signal) ∉ pre))

/-- **What is removed untold.** In every run, the owner of a subscription that is removed has been
told, unless the subscription was registered after the removing call had looked its key up, and no
other call has told its owner. -/
theorem accounts_of_removed {log pre post : MarkLog} {c : Crowd ControlCall.Answer}
    (h : Logged log c) {i : Nat} {key : String} {x : Subscription}
    (hlog : log = pre ++ (i, .removed key (some x)) :: post) : Accounts pre i key x := by
  induction h generalizing post with
  | start b h => simp at hlog
  | join call _ ih => exact ih hlog
  | pass ids wall clock _ ih => exact ih hlog
  | leave signal _ ih => exact ih hlog
  | @move log c c' k hmove hbefore ih =>
      obtain ⟨call, q, next, hk, rfl⟩ := Crowd.exists_ask_of_move? hmove
      have hmarks : marks c k = notes c.backend k q := by rw [marks, hk]
      rw [hmarks] at hlog
      -- the removal was there before, or it is what the job does now
      cases hm : c.backend.mark? q with
      | none => exact ih (by simpa [notes, hm] using hlog)
      | some m =>
          have hlog : log ++ [(k, m)] = pre ++ (i, .removed key (some x)) :: post := by
            simpa [notes, hm] using hlog
          rcases List.eq_nil_or_concat post with rfl | ⟨post', e, rfl⟩
          · obtain ⟨rfl, hlast⟩ := List.append_inj' hlog rfl
            obtain ⟨rfl, rfl⟩ : k = i ∧ m = .removed key (some x) := by simpa using hlast
            obtain ⟨rfl, hx⟩ := remove_of_mark? hm
            obtain ⟨s, before, after, hholds, htold⟩ :=
              (watched_of_logged hbefore).holds_of_remove hk
            exact ⟨s, before, after, hholds.split, hholds.first, hholds.told_iff htold hx⟩
          · rw [List.concat_eq_append, ← List.cons_append, ← List.append_assoc] at hlog
            exact ih (List.append_inj' hlog rfl).1

/-! ### Two unsubscriptions -/

/-- What happens next: a call comes in, or a job moves. -/
inductive Event where
  | join (call : ControlCall)
  | move (i : Nat)

/-- Lets things happen in order, as long as they can. -/
def happen? : List Event → MarkLog → Crowd ControlCall.Answer →
    Option (MarkLog × Crowd ControlCall.Answer)
  | [], log, c => some (log, c)
  | .join call :: es, log, c => happen? es log { c with jobs := c.jobs ++ [⟨call, call.serve⟩] }
  | .move i :: es, log, c => (c.move? i).bind (happen? es (log ++ marks c i))

theorem logged_of_happen? {es : List Event} {log log' : MarkLog}
    {c c' : Crowd ControlCall.Answer} (h : Logged log c)
    (hes : happen? es log c = some (log', c')) : Logged log' c' := by
  induction es generalizing log c with
  | nil =>
      cases hes
      exact h
  | cons e es ih =>
      cases e with
      | join call => exact ih (h.join call) hes
      | move i =>
          obtain ⟨next, hmove, hrest⟩ := Option.bind_eq_some_iff.mp hes
          exact ih (h.move i hmove) hrest

/-- Nobody is served, and nobody is registered. -/
def idle : Crowd ControlCall.Answer := ⟨{ wall := .epoch, clock := .epoch }, []⟩

theorem logged_idle : Logged [] idle := .start _ (by simp [Registry.IsDated, Registry.find?])

/-- A subscription, and an unsubscription up to the point at which it removes what it has found. -/
def quietEnd : MarkLog :=
  [(0, .installed (Registry.nodeKey "w1") ⟨0, 0⟩),
    (1, .found (Registry.nodeKey "w1") (some ⟨0, 0⟩)), (1, .told 0)]

/-- The same, but another subscription comes between. -/
def lateArrival : MarkLog :=
  [(0, .installed (Registry.nodeKey "w1") ⟨0, 0⟩),
    (1, .found (Registry.nodeKey "w1") (some ⟨0, 0⟩)), (1, .told 0),
    (2, .installed (Registry.nodeKey "w1") ⟨1, 1⟩)]

theorem accounts_quietEnd :
    ∃ c, Logged (quietEnd ++ [(1, .removed (Registry.nodeKey "w1") (some ⟨0, 0⟩))]) c ∧
      (1, .told 0) ∈ quietEnd ∧ Accounts quietEnd 1 (Registry.nodeKey "w1") ⟨0, 0⟩ := by
  have hend : (happen? [.join (.subscribe "w1" 0), .move 0, .move 0, .join (.unsubscribe "w1"),
      .move 1, .move 1, .move 1] [] idle).any (fun p =>
        p.1 = quietEnd ++ [(1, .removed (Registry.nodeKey "w1") (some ⟨0, 0⟩))]) = true := by
    decide +kernel
  obtain ⟨⟨log, c⟩, hes, heq⟩ := (Option.any_eq_true _ _).mp hend
  have hlogged := logged_of_happen? logged_idle hes
  rw [show log = _ from of_decide_eq_true heq] at hlogged
  exact ⟨c, hlogged, by decide, accounts_of_removed hlogged rfl⟩

/-- The second subscription of a node is removed by an unsubscription that has found the first one;
nobody has told its owner, who goes on waiting. -/
theorem removed_untold_lateArrival :
    ∃ c, Logged (lateArrival ++ [(1, .removed (Registry.nodeKey "w1") (some ⟨1, 1⟩))]) c ∧
      (∀ j, (j, .told 1) ∉ lateArrival) ∧
      c.backend.registry.find? (Registry.nodeKey "w1") = none ∧
      c.backend.registry.isRaised 1 = false := by
  have hend : (happen? [.join (.subscribe "w1" 0), .move 0, .move 0, .join (.unsubscribe "w1"),
      .move 1, .move 1, .join (.subscribe "w1" 1), .move 2, .move 1] [] idle).any (fun p =>
        p.1 = lateArrival ++ [(1, .removed (Registry.nodeKey "w1") (some ⟨1, 1⟩))] &&
          (p.2.backend.registry.find? (Registry.nodeKey "w1")).isNone &&
          !p.2.backend.registry.isRaised 1) = true := by
    decide +kernel
  obtain ⟨⟨log, c⟩, hes, hcheck⟩ := (Option.any_eq_true _ _).mp hend
  have hlogged := logged_of_happen? logged_idle hes
  simp only [Bool.and_eq_true, decide_eq_true_eq, Option.isNone_iff_eq_none,
    Bool.not_eq_true'] at hcheck
  obtain ⟨⟨hlog, hnone⟩, hsilent⟩ := hcheck
  rw [hlog] at hlogged
  exact ⟨c, hlogged, by simp [lateArrival], hnone, hsilent⟩

end Coordination
end ControlPlane
