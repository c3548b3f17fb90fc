import ControlPlane.Proofs.Network.Loop

/-!
# Queues with somebody at both ends

A queue is attended to (`Channel.IsAttended`) when somebody takes its items as long as it is open,
and whoever stands in line for a slot, or was given one, has something to put there. A slot is given
away only when all are in use, so a queue with a line is full.

Main statements: what one operation does to such a queue (`Channel.IsAttended.take?`,
`Channel.IsAttended.write?`), and why an actor cannot write to it
(`Channel.IsAttended.exists_of_isBlocked`).
-/

set_option autoImplicit false

namespace ControlPlane

/-! ## One queue -/

namespace Channel

variable {α : Type} {c d : Channel α} {t : ActorId} {a : α} {w : Write}
  {waits waits' : ActorId → Prop} {served served' : Prop}

/-- The actors that were given a slot and those in line. -/
def places (c : Channel α) : List ActorId := c.granted ++ c.line

/-- Who has a place at a queue waits for it, nobody has two places, slots are given away only when
all are in use, and somebody takes the items of a queue that is open. -/
structure IsAttended (c : Channel α) (waits : ActorId → Prop) (served : Prop) : Prop where
  roomy : 0 < c.capacity
  full : c.isOpen = true → c.line ≠ [] → c.capacity ≤ c.queue.length + c.granted.length
  distinct : c.places.Nodup
  waits : ∀ u, u ∈ c.places → waits u
  served : c.isOpen = true → served

theorem isAttended_new {capacity : Nat} (h : 0 < capacity) (hserved : served) :
    ({ capacity } : Channel α).IsAttended waits served where
  roomy := h
  full _ hline := absurd rfl hline
  distinct := List.nodup_nil
  waits _ ht := absurd ht List.not_mem_nil
  served _ := hserved

namespace IsAttended

theorem mono (h : c.IsAttended waits served) (hwaits : ∀ t, t ∈ c.places → waits t → waits' t)
    (hserved : c.isOpen = true → served → served') : c.IsAttended waits' served' where
  roomy := h.roomy
  full := h.full
  distinct := h.distinct
  waits t ht := hwaits t ht (h.waits t ht)
  served hopen := hserved hopen (h.served hopen)

theorem close (h : c.IsAttended waits served) : c.close.IsAttended waits served' where
  roomy := h.roomy
  full hopen := absurd hopen (by simp [Channel.close])
  distinct := h.distinct
  waits := h.waits
  served hopen := absurd hopen (by simp [Channel.close])

end IsAttended

theorem places_grant (c : Channel α) : c.grant.places = c.places := by
  unfold grant places
  split
  · rfl
  next u us hline => rw [hline, List.append_assoc, List.singleton_append]

theorem places_of_take? (h : c.take? = some (a, d)) : d.places = c.places := by
  unfold Channel.take? at h
  split at h
  · cases h
  next as hqueue =>
    obtain ⟨rfl, rfl⟩ : _ = a ∧ _ = d := by simpa using h
    exact places_grant _

/-- A slot that becomes free is given away at once, if anybody waits for it. -/
theorem length_grant (c : Channel α) (hline : c.grant.line ≠ []) :
    c.grant.granted.length = c.granted.length + 1 := by
  unfold grant at hline ⊢
  split
  next hnil => simp [hnil] at hline
  next u us _ => simp

theorem IsAttended.take? (h : c.IsAttended waits served) (htake : c.take? = some (a, d)) :
    d.IsAttended waits served := by
  have hplaces := places_of_take? htake
  unfold Channel.take? at htake
  split at htake
  · cases htake
  next as hqueue =>
    obtain ⟨rfl, rfl⟩ : _ = a ∧ _ = d := by simpa using htake
    refine ⟨?_, ?_, hplaces ▸ h.distinct, fun t ht => h.waits t (hplaces ▸ ht), ?_⟩
    · show 0 < (grant _).capacity
      unfold grant
      split <;> exact h.roomy
    · intro hopen hline
      rw [isOpen_grant] at hopen
      have hbefore : c.line ≠ [] := by
        intro hnil
        apply hline
        unfold grant
        simp [hnil]
      have hfull := h.full hopen hbefore
      rw [hqueue, List.length_cons] at hfull
      rw [length_grant _ hline, queue_grant]
      have hcap : (grant { c with queue := as }).capacity = c.capacity := by
        unfold grant
        split <;> rfl
      rw [hcap]
      show c.capacity ≤ as.length + (c.granted.length + 1)
      omega
    · intro hopen
      rw [isOpen_grant] at hopen
      exact h.served hopen

/-- Who leaves has no place any more, and nobody else loses his. -/
theorem mem_places_leave (h : c.places.Nodup) (u : ActorId) :
    u ∈ (c.leave t).places ↔ u ≠ t ∧ u ∈ c.places := by
  obtain ⟨hgranted, hline, -⟩ := List.nodup_append.mp h
  unfold places leave
  simp only [List.mem_append, hgranted.mem_erase_iff, hline.mem_erase_iff]
  exact and_or_left.symm

theorem nodup_leave (h : c.places.Nodup) : (c.leave t).places.Nodup :=
  h.sublist (List.Sublist.append List.erase_sublist List.erase_sublist)

theorem IsAttended.leave (h : c.IsAttended waits served) (hclosed : c.isOpen = false) :
    (c.leave t).IsAttended waits served where
  roomy := h.roomy
  full hopen := absurd (hclosed.symm.trans hopen) (by decide)
  distinct := nodup_leave h.distinct
  waits u hu := h.waits u ((mem_places_leave h.distinct u).mp hu).2
  served := h.served

/-- The slot that an actor was given is in use now. -/
theorem IsAttended.fill (h : c.IsAttended waits served) (ht : t ∈ c.granted) (a : α) :
    ((c.leave t).push a).IsAttended waits served where
  roomy := h.roomy
  full hopen hline := by
    have hbefore : c.line ≠ [] := by
      rintro hnil
      exact hline (by simp [Channel.leave, push, hnil])
    have hfull := h.full hopen hbefore
    have hpos : 0 < c.granted.length := List.length_pos_of_mem ht
    have herase : (c.granted.erase t).length = c.granted.length - 1 := List.length_erase_of_mem ht
    show c.capacity ≤ (c.queue ++ [a]).length + (c.granted.erase t).length
    rw [List.length_append, List.length_singleton, herase]
    omega
  distinct := nodup_leave h.distinct
  waits u hu := h.waits u ((mem_places_leave h.distinct u).mp hu).2
  served := h.served

theorem IsAttended.write? (h : c.IsAttended waits served) (ht : waits t)
    (hw : c.write? t a = some (w, d)) : d.IsAttended waits served := by
  unfold Channel.write? at hw
  split at hw
  next hclosed =>
    cases hw
    exact h.leave (by simpa using hclosed)
  next hopen =>
    split at hw
    next hgranted =>
      cases hw
      exact h.fill hgranted a
    next hgranted =>
      split at hw
      · cases hw
      next hline =>
        split at hw
        next hfree =>
          cases hw
          -- there is a free slot, so nobody is in line
          have hnil : c.line = [] := by
            apply Decidable.byContradiction
            intro hne
            have hfull := h.full (by simpa using hopen) hne
            unfold free at hfree
            omega
          exact ⟨h.roomy, fun _ hne => absurd hnil hne, h.distinct, h.waits, h.served⟩
        next hfree =>
          cases hw
          have hnew : t ∉ c.places := by
            simp [places, hgranted, hline]
          have hplaces : c.granted ++ (c.line ++ [t]) = c.places ++ [t] := by
            rw [places, List.append_assoc]
          refine ⟨h.roomy, ?_, ?_, ?_, h.served⟩
          · intro _ _
            show c.capacity ≤ c.queue.length + c.granted.length
            unfold free at hfree
            omega
          · show (c.granted ++ (c.line ++ [t])).Nodup
            rw [hplaces]
            exact List.nodup_append.mpr ⟨h.distinct, by simp, by
              intro u hu v hv
              obtain rfl : v = t := by simpa using hv
              rintro rfl
              exact hnew hu⟩
          · intro u hu
            have hu : u ∈ c.granted ++ (c.line ++ [t]) := hu
            rw [hplaces, List.mem_append, List.mem_singleton] at hu
            rcases hu with hu | rfl
            · exact h.waits u hu
            · exact ht

/-- An actor that has written, or could not, has no place any more. -/
theorem not_mem_places_of_write? (h : c.places.Nodup) (hw : c.write? t a = some (w, d))
    (hne : w ≠ .queued) : t ∉ d.places := by
  have hleave : t ∉ (c.leave t).places := fun ht => ((mem_places_leave h t).mp ht).1 rfl
  unfold Channel.write? at hw
  split at hw
  · cases hw
    exact hleave
  · split at hw
    next =>
      cases hw
      exact hleave
    next hgranted =>
      split at hw
      · cases hw
      next hline =>
        split at hw
        · cases hw
          show t ∉ c.places
          simp [places, hgranted, hline]
        · cases hw
          exact absurd rfl hne

/-- An actor goes to the end of the line once. -/
theorem places_of_queued (hw : c.write? t a = some (.queued, d)) :
    t ∉ c.places ∧ t ∈ d.places := by
  refine ⟨?_, List.mem_append_right _ (mem_line_of_write? hw)⟩
  unfold Channel.write? at hw
  split at hw
  · cases hw
  · split at hw
    · cases hw
    next hgranted =>
      split at hw
      · cases hw
      next hline => simp [places, hgranted, hline]

/-- Nothing is lost at a queue that is open. -/
theorem queue_of_isOpen (hopen : c.isOpen = true) (hw : c.write? t a = some (w, d))
    (hne : w ≠ .queued) : w = .written ∧ d.queue = c.queue ++ [a] := by
  have hwritten : w = .written := by
    unfold Channel.write? at hw
    rw [if_neg (by simp [hopen])] at hw
    split at hw
    · cases hw
      rfl
    · split at hw
      · cases hw
      · split at hw <;> cases hw
        · rfl
        · exact absurd rfl hne
  exact ⟨hwritten, by rw [queue_of_write? hw, if_pos hwritten]⟩

/-- An actor cannot put an item in: it stands in line, or has to go there. -/
def IsBlocked (c : Channel α) (t : ActorId) (a : α) : Prop :=
  ∀ w d, c.write? t a = some (w, d) → w = .queued

theorem IsBlocked.not_isReady (h : c.IsBlocked t a) : ¬ c.IsReady t := by
  intro hready
  obtain ⟨w, d, hw, hne⟩ := write?_of_isReady hready a
  exact hne (h w d hw)

/-- **Why an actor cannot write.** The queue is open, and there is an item to take or a slot that
another actor was given. -/
theorem IsAttended.exists_of_isBlocked (h : c.IsAttended waits served) (hw : c.IsBlocked t a) :
    c.isOpen = true ∧ (c.queue ≠ [] ∨ ∃ u, u ∈ c.granted) := by
  obtain ⟨hgranted, hopen⟩ := not_or.mp hw.not_isReady
  rw [Bool.not_eq_false] at hopen
  have hfull : c.capacity ≤ c.queue.length + c.granted.length := by
    by_cases hline : t ∈ c.line
    · exact h.full hopen (List.ne_nil_of_mem hline)
    · -- it would have taken a free slot
      have hfree : ¬ 0 < c.free := by
        intro hfree
        have hwritten : c.write? t a = some (.written, c.push a) := by
          simp [Channel.write?, hopen, hgranted, hline, hfree]
        cases hw _ _ hwritten
      unfold free at hfree
      omega
  have hroomy := h.roomy
  refine ⟨hopen, ?_⟩
  by_cases hqueue : c.queue = []
  · have hpos : 0 < c.granted.length := by
      rw [hqueue, List.length_nil] at hfull
      omega
    exact .inr (List.exists_mem_of_length_pos hpos)
  · exact .inl hqueue

end Channel

/-! ## Inboxes -/

namespace Inbox

variable {z z' : Inbox} {arrival? : Option Arrival}

/-- Nothing is received from an inbox that is empty and that somebody can still fill. -/
theorem receive?_eq_none_iff :
    z.receive? = none ↔ z.channel.queue = [] ∧ z.hasSender = true := by
  rw [← Channel.take?_eq_none_iff]
  unfold receive?
  split
  · simp [*]
  · split <;> simp [*]

/-- What is received is the oldest item, or that there will be none. -/
theorem receive?_cases (h : z.receive? = some (arrival?, z')) :
    (∃ a d, z.channel.take? = some (a, d) ∧ arrival? = some a ∧ z' = { z with channel := d }) ∨
      z.channel.queue = [] ∧ z.hasSender = false ∧ arrival? = none ∧ z' = z := by
  unfold receive? at h
  split at h
  next a d htake =>
    cases h
    exact .inl ⟨a, d, htake, rfl, rfl⟩
  next htake =>
    split at h
    · cases h
    next hsender =>
      cases h
      exact .inr ⟨Channel.take?_eq_none_iff.mp htake, by simpa using hsender, rfl, rfl⟩

end Inbox
end ControlPlane
