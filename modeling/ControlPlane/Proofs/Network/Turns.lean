import ControlPlane.Proofs.Network.Delivery
import ControlPlane.Proofs.Network.Loop

/-!
# Loops that get their turns

Acts may go on without end, and a loop that serves an inbox is one actor among others. It gets to
the end of what it has to hear if it gets its turns and does not wait in a line for ever, that is,
if destinations keep taking messages (`Network.FairRun`). Nothing else is asked of the others:
they may do whatever they like in between.

Main statement: `Network.FairRun.exists_concludes`.
-/

set_option autoImplicit false

namespace ControlPlane.Network

variable {n n' : Network} {l : Loop} {s : InboxId} {t : ActorId} {e? : Option StreamError}
  {ms : List StreamMessage} {p : Option Routing} {m : StreamMessage} {i : SinkId}

/-! ## Writing -/

/-- What becomes of a message that a loop writes. -/
theorem Hosts.write (h : n.Hosts l s t (some (.writing m i)) ms e?) (hstep : n.step? t = some n') :
    ∃ c w d, n.sinks.find? i = some c ∧ c.write? t m = some (w, d) ∧
      (w ≠ .queued → n'.Hosts l s t none ms e?) ∧
      (w = .queued → n'.Hosts l s t (some (.writing m i)) ms e? ∧ n'.sinks.find? i = some d) := by
  obtain ⟨sink, rfl⟩ := h.exists_sink
  rw [step?_pending h.actor, Option.map_eq_some_iff] at hstep
  obtain ⟨⟨next, n₁⟩, hroute, rfl⟩ := hstep
  have hrouted := h.routed hroute
  simp only [routeStep?, Option.bind_eq_bind, Option.bind_eq_some_iff] at hroute
  obtain ⟨c, hc, ⟨w, d⟩, hw, hroute⟩ := hroute
  refine ⟨c, w, d, hc, hw, ?_⟩
  cases w with
  | queued =>
      cases hroute
      have hsink : (n.setSink i d).sinks.find? i = some d := by
        rw [setSink, Table.find?_insert, if_pos rfl]
      exact ⟨fun hne => absurd rfl hne, fun _ => ⟨hrouted, hsink⟩⟩
  | written =>
      cases hroute
      exact ⟨fun _ => hrouted, fun h => by cases h⟩
  | failed =>
      cases hroute
      exact ⟨fun _ => hrouted, fun h => by cases h⟩

/-- A loop has less to do, or it has ended. -/
def Eases (n : Network) (l : Loop) (s : InboxId) (t : ActorId) (e? : Option StreamError)
    (w : Nat) : Prop :=
  n.Concludes l s t e? ∨ ∃ p ms, n.Hosts l s t p ms e? ∧ work p ms < w

/-- **One act while a loop writes**: the message is dealt with, or the loop keeps its place, or it
has gone to the end of the line because no slot was ready. -/
theorem Hosts.write_or_keep (h : n.Hosts l s t (some (.writing m i)) ms e?) (hn : n.IsNumbered)
    {a : Act} (ha : a.Avoids s) (hperform : a.perform? n = some n') {c : Channel StreamMessage}
    (hc : n.sinks.find? i = some c) :
    n'.Eases l s t e? (work (some (.writing m i)) ms) ∨
      n'.Hosts l s t (some (.writing m i)) ms e? ∧ ∃ d, n'.sinks.find? i = some d ∧
        (a ≠ .step t ∧ c.Retains t d ∨ ¬ c.IsReady t ∧ t ∈ d.line) := by
  by_cases hstep : a = .step t
  · subst hstep
    obtain ⟨c', w, d, hc', hw, hdone, hqueued⟩ := h.write hperform
    obtain rfl : c = c' := Option.some.inj (hc.symm.trans hc')
    by_cases hqueue : w = .queued
    · obtain ⟨hhosts, hd⟩ := hqueued hqueue
      subst hqueue
      refine .inr ⟨hhosts, d, hd, .inr ⟨?_, Channel.mem_line_of_write? hw⟩⟩
      intro hready
      obtain ⟨w, d', hw', hne⟩ := Channel.write?_of_isReady hready m
      cases hw.symm.trans hw'
      exact hne rfl
    · exact .inl (.inr ⟨none, ms, hdone hqueue, Nat.add_lt_add_left (Nat.zero_lt_one) _⟩)
  · obtain ⟨d, hd, hcd⟩ := retains_perform? hn hstep hperform i c hc
    have hpasses := h.secludes.passes_perform? h.ne_writer ha hstep hperform
    exact .inr ⟨h.passes hpasses, d, hd, .inl ⟨hstep, hcd⟩⟩

/-- A loop writes a message to a sink of some kind. -/
def WritesTo (n : Network) (l : Loop) (s : InboxId) (t : ActorId) (m : StreamMessage) (i : SinkId)
    (ms : List StreamMessage) (e? : Option StreamError) (F : Channel StreamMessage → Prop) : Prop :=
  n.Hosts l s t (some (.writing m i)) ms e? ∧ ∃ c, n.sinks.find? i = some c ∧ F c

/-- A loop that cannot write stands in line. -/
theorem Hosts.line_of_step? (h : n.Hosts l s t (some (.writing m i)) ms e?)
    (hstep : n.step? t = none) {c : Channel StreamMessage} (hc : n.sinks.find? i = some c) :
    t ∈ c.line ∧ ¬ c.IsReady t := by
  obtain ⟨m', i', hpending, hwaits⟩ := h.waits hstep
  cases h.pending.symm.trans hpending
  exact hwaits c hc

/-! ## Runs without end -/

/-- The network after acts, if they are possible one after another. -/
def after? (n : Network) (as : List Act) : Option Network := as.foldlM (fun n a => a.perform? n) n

/-- A run without end, in which the peer behind an inbox has no part: the actor that serves the
inbox gets its turns, and what it has to write is not kept waiting for ever. -/
structure FairRun (s : InboxId) (t : ActorId) (acts : Nat → Act) (course : Nat → Network) :
    Prop where
  avoids : ∀ k, (acts k).Avoids s
  perform : ∀ k, (acts k).perform? (course k) = some (course (k + 1))
  turns : ∀ k, (∀ j, k ≤ j → (course j).step? t ≠ none) → ∃ j, k ≤ j ∧ acts j = .step t
  served : ∀ k, ∃ j, k ≤ j ∧ ¬ (course j).Waits t

namespace FairRun

variable {acts : Nat → Act} {course : Nat → Network} {P Q : Network → Prop} {k : Nat}

theorem isNumbered (h : FairRun s t acts course) (h₀ : (course 0).IsNumbered) (k : Nat) :
    (course k).IsNumbered := by
  induction k with
  | zero => exact h₀
  | succ k ih => exact (advances_of_perform? ih (h.perform k)).numbered

/-- What holds until something else does. -/
theorem lasts (hP : P (course k))
    (hnext : ∀ j, P (course j) → Q (course (j + 1)) ∨ P (course (j + 1))) {j : Nat} (hj : k ≤ j) :
    P (course j) ∨ ∃ i, k ≤ i ∧ Q (course i) := by
  induction hj with
  | refl => exact .inl hP
  | @step j hj ih =>
      rcases ih with hP | hQ
      · rcases hnext j hP with hQ | hP
        · exact .inr ⟨j + 1, Nat.le_succ_of_le hj, hQ⟩
        · exact .inl hP
      · exact .inr hQ

/-- What enables a step, and holds until that step or something else brings about more. -/
theorem leads (h : FairRun s t acts course) (hP : P (course k))
    (hnext : ∀ j, P (course j) → Q (course (j + 1)) ∨ acts j ≠ .step t ∧ P (course (j + 1)))
    (henabled : ∀ n, P n → n.step? t ≠ none) : ∃ j, k ≤ j ∧ Q (course j) := by
  by_cases hQ : ∃ j, k ≤ j ∧ Q (course j)
  · exact hQ
  · have halways (j : Nat) (hj : k ≤ j) : P (course j) :=
      (lasts hP (fun j hP => (hnext j hP).imp_right And.right) hj).resolve_right hQ
    obtain ⟨j, hj, hact⟩ := h.turns k fun j hj => henabled _ (halways j hj)
    rcases hnext j (halways j hj) with hQ | ⟨hne, -⟩
    · exact ⟨j + 1, Nat.le_succ_of_le hj, hQ⟩
    · exact absurd hact hne

/-! ### A message that is written -/

section Writing

variable (h : FairRun s t acts course) (h₀ : (course 0).IsNumbered)
include h h₀

/-- A slot is ready. -/
theorem eases_of_isReady
    (hwrites : (course k).WritesTo l s t m i ms e? fun c => c.IsReady t) :
    ∃ j, k ≤ j ∧ (course j).Eases l s t e? (work (some (.writing m i)) ms) := by
  refine h.leads (P := fun n => n.WritesTo l s t m i ms e? fun c => c.IsReady t)
    (Q := fun n => n.Eases l s t e? (work (some (.writing m i)) ms)) hwrites ?_ ?_
  · rintro j ⟨hhosts, c, hc, hready⟩
    rcases hhosts.write_or_keep (h.isNumbered h₀ j) (h.avoids j) (h.perform j) hc with
      heases | ⟨hhosts, d, hd, ⟨hne, hcd⟩ | ⟨hnot, -⟩⟩
    · exact .inl heases
    · exact .inr ⟨hne, hhosts, d, hd, hready.retain hcd⟩
    · exact absurd hready hnot
  · rintro n ⟨hhosts, c, hc, hready⟩ hstep
    exact (hhosts.line_of_step? hstep hc).2 hready

/-- The loop has a place in line, or a slot is ready. -/
theorem eases_of_line
    (hwrites : (course k).WritesTo l s t m i ms e? fun c => t ∈ c.line ∨ c.IsReady t) :
    ∃ j, k ≤ j ∧ (course j).Eases l s t e? (work (some (.writing m i)) ms) := by
  obtain ⟨j, hj, hserved⟩ := h.served k
  have hlasts := lasts (P := fun n => n.WritesTo l s t m i ms e? fun c => t ∈ c.line ∨ c.IsReady t)
    (Q := fun n => n.Eases l s t e? (work (some (.writing m i)) ms)) hwrites (by
      rintro j ⟨hhosts, c, hc, hplace⟩
      rcases hhosts.write_or_keep (h.isNumbered h₀ j) (h.avoids j) (h.perform j) hc with
        heases | ⟨hhosts, d, hd, ⟨-, hcd⟩ | ⟨-, hline⟩⟩
      · exact .inl heases
      · refine .inr ⟨hhosts, d, hd, ?_⟩
        rcases hplace with hline | hready
        · exact (hcd.line hline).imp_right .inl
        · exact .inr (hready.retain hcd)
      · exact .inr ⟨hhosts, d, hd, .inl hline⟩) hj
  rcases hlasts with ⟨hhosts, c, hc, hplace⟩ | ⟨i', hi', heases⟩
  · -- it does not wait now, so its slot is ready
    have hready : c.IsReady t := by
      rcases hplace with hline | hready
      · refine Classical.byContradiction fun hready => hserved ⟨m, i, hhosts.pending, ?_⟩
        intro c' hc'
        obtain rfl : c = c' := Option.some.inj (hc.symm.trans hc')
        exact ⟨hline, hready⟩
      · exact hready
    obtain ⟨j', hj', heases⟩ := h.eases_of_isReady h₀ ⟨hhosts, c, hc, hready⟩
    exact ⟨j', Nat.le_trans hj hj', heases⟩
  · exact ⟨i', hi', heases⟩

/-- Wherever the loop is, the message is dealt with. -/
theorem eases_of_writing (hhosts : (course k).Hosts l s t (some (.writing m i)) ms e?) :
    ∃ j, k ≤ j ∧ (course j).Eases l s t e? (work (some (.writing m i)) ms) := by
  -- the sink is there whenever the loop does not wait for it
  obtain ⟨j₀, hj₀, hserved⟩ := h.served k
  have hlasts := lasts (P := fun n => n.Hosts l s t (some (.writing m i)) ms e?)
    (Q := fun n => n.Eases l s t e? (work (some (.writing m i)) ms)) hhosts (fun j hhosts => by
      rcases hhosts.perform? (h.avoids j) (h.perform j) with
        hends | ⟨p', ms', hhosts', hlt | ⟨rfl, rfl, -⟩⟩
      · exact .inl (.inl hends)
      · exact .inl (.inr ⟨p', ms', hhosts', hlt⟩)
      · exact .inr hhosts') hj₀
  rcases hlasts with hhosts | ⟨i', hi', heases⟩
  · have hsink : ∃ c, (course j₀).sinks.find? i = some c := by
      cases hc : (course j₀).sinks.find? i with
      | some c => exact ⟨c, rfl⟩
      | none =>
          refine absurd ⟨m, i, hhosts.pending, ?_⟩ hserved
          intro c hc'
          cases hc.symm.trans hc'
    obtain ⟨c, hc⟩ := hsink
    by_cases hplace : t ∈ c.line ∨ c.IsReady t
    · obtain ⟨j, hj, heases⟩ := h.eases_of_line h₀ ⟨hhosts, c, hc, hplace⟩
      exact ⟨j, Nat.le_trans hj₀ hj, heases⟩
    · -- as long as it has no place it can take one
      have hleads := h.leads (k := j₀)
        (P := fun n => n.WritesTo l s t m i ms e? fun c => ¬ (t ∈ c.line ∨ c.IsReady t))
        (Q := fun n => n.Eases l s t e? (work (some (.writing m i)) ms) ∨
          n.WritesTo l s t m i ms e? fun c => t ∈ c.line ∨ c.IsReady t)
        ⟨hhosts, c, hc, hplace⟩ (by
          rintro j ⟨hhosts, c, hc, hplace⟩
          rcases hhosts.write_or_keep (h.isNumbered h₀ j) (h.avoids j) (h.perform j) hc with
            heases | ⟨hhosts, d, hd, ⟨hne, -⟩ | ⟨-, hline⟩⟩
          · exact .inl (.inl heases)
          · by_cases hplace' : t ∈ d.line ∨ d.IsReady t
            · exact .inl (.inr ⟨hhosts, d, hd, hplace'⟩)
            · exact .inr ⟨hne, hhosts, d, hd, hplace'⟩
          · exact .inl (.inr ⟨hhosts, d, hd, .inl hline⟩)) (by
          rintro n ⟨hhosts, c, hc, hplace⟩ hstep
          exact hplace (.inl (hhosts.line_of_step? hstep hc).1))
      obtain ⟨j, hj, heases | hwrites⟩ := hleads
      · exact ⟨j, Nat.le_trans hj₀ hj, heases⟩
      · obtain ⟨j', hj', heases⟩ := h.eases_of_line h₀ hwrites
        exact ⟨j', Nat.le_trans (Nat.le_trans hj₀ hj) hj', heases⟩
  · exact ⟨i', hi', heases⟩

end Writing

/-! ### Everything -/

section Everything

variable (h : FairRun s t acts course) (h₀ : (course 0).IsNumbered)
include h h₀

/-- What a loop has to do becomes less. -/
theorem exists_eases (hhosts : (course k).Hosts l s t p ms e?) :
    ∃ j, k ≤ j ∧ (course j).Eases l s t e? (work p ms) := by
  by_cases hwriting : ∃ m i, p = some (.writing m i)
  · obtain ⟨m, i, rfl⟩ := hwriting
    exact h.eases_of_writing h₀ hhosts
  · refine h.leads (P := fun n => n.Hosts l s t p ms e?)
      (Q := fun n => n.Eases l s t e? (work p ms)) hhosts ?_ ?_
    · intro j hhosts
      rcases hhosts.perform? (h.avoids j) (h.perform j) with
        hends | ⟨p', ms', hhosts', hlt | ⟨rfl, rfl, hturn⟩⟩
      · exact .inl (.inl hends)
      · exact .inl (.inr ⟨p', ms', hhosts', hlt⟩)
      · exact .inr ⟨fun hact => hwriting (hturn hact), hhosts'⟩
    · intro n hhosts hstep
      obtain ⟨m, i, hpending, -⟩ := hhosts.waits hstep
      exact hwriting ⟨m, i, hhosts.pending.symm.trans hpending⟩

/-- **A loop that gets its turns ends**, with what it meets at the end of what it hears. -/
theorem exists_concludes (hhosts : (course k).Hosts l s t p ms e?) :
    ∃ j, k ≤ j ∧ (course j).Concludes l s t e? := by
  generalize hw : work p ms = w
  induction w using Nat.strongRecOn generalizing k p ms with
  | ind w ih =>
      obtain ⟨j, hj, hends | ⟨p', ms', hhosts', hlt⟩⟩ := h.exists_eases h₀ hhosts
      · exact ⟨j, hj, hends⟩
      · obtain ⟨j', hj', hends⟩ := ih _ (hw ▸ hlt) hhosts' rfl
        exact ⟨j', Nat.le_trans hj hj', hends⟩

end Everything

/-! ### Runs that have come to an end -/

theorem exists_ended (h : n.ending? t ≠ none) : ∃ e, n.actors.find? t = some (.ended e) := by
  unfold ending? at h
  cases hx : n.actors.find? t with
  | none => exact absurd (by rw [hx, Option.bind_none]) h
  | some x =>
      rw [hx, Option.bind_some] at h
      cases x with
      | ended e => exact ⟨e, rfl⟩
      | _ => exact absurd rfl h

/-- When an actor has ended, nothing more need happen. -/
theorem rest (h : n.ending? t ≠ none) : FairRun s t (fun _ => .ask (.lookUp "")) fun _ => n := by
  obtain ⟨e, hx⟩ := exists_ended h
  have hstep : n.step? t = none := by
    simp only [step?, hx, Option.bind_eq_bind, Option.bind_some]
  refine ⟨fun _ => ⟨fun _ h => ?_, fun h => ?_⟩, fun _ => rfl, fun k hmoves => ?_,
    fun k => ⟨k, Nat.le_refl k, ?_⟩⟩
  · cases h
  · cases h
  · exact absurd hstep (hmoves k (Nat.le_refl k))
  · rintro ⟨m, i, hpending, -⟩
    rw [pending?, hx] at hpending
    cases hpending

/-- Any acts that end an actor are the first ones of a fair run. -/
theorem exists_of_after? {as : List Act} (has : ∀ a ∈ as, a.Avoids s) (h : n.after? as = some n')
    (he : n'.ending? t ≠ none) : ∃ acts course, FairRun s t acts course ∧ course 0 = n := by
  induction as generalizing n with
  | nil =>
      cases h
      exact ⟨_, _, rest he, rfl⟩
  | cons a as ih =>
      simp only [after?, List.foldlM_cons, Option.bind_eq_bind, Option.bind_eq_some_iff] at h
      obtain ⟨n₁, hfirst, h⟩ := h
      obtain ⟨acts, course, hfair, h₀⟩ := ih (fun b hb => has b (List.mem_cons_of_mem a hb)) h
      refine ⟨fun k => k.casesOn a acts, fun k => k.casesOn n course, ⟨?_, ?_, ?_, ?_⟩, rfl⟩
      · rintro (_ | k)
        · exact has a (by simp)
        · exact hfair.avoids k
      · rintro (_ | k)
        · show a.perform? n = some (course 0)
          rw [hfirst, h₀]
        · exact hfair.perform k
      · intro k hmoves
        obtain ⟨j, hj, hact⟩ := hfair.turns (k - 1) fun j hj => hmoves (j + 1) (by omega)
        exact ⟨j + 1, by omega, hact⟩
      · intro k
        obtain ⟨j, hj, hwaits⟩ := hfair.served (k - 1)
        exact ⟨j + 1, by omega, hwaits⟩

end FairRun
end ControlPlane.Network
