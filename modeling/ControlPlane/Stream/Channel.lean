/-!
# Bounded queues

One direction of a stream. A queue holds at most as many items as its capacity. An actor that finds
no free slot stands in line, and each item that is taken out gives its slot to the first in line,
so the actors in line write in the order in which they came. When the receiver goes away the items
are lost and every write fails.
-/

set_option autoImplicit false

namespace ControlPlane

/-- The number of an actor. -/
abbrev ActorId := Nat

structure Channel (α : Type) where
  capacity : Nat
  /-- The items, the oldest first. -/
  queue : List α := []
  /-- The actors that wait for a slot, the first in line first. -/
  line : List ActorId := []
  /-- The actors that were given a slot and have not used it. -/
  granted : List ActorId := []
  /-- The receiver is there. -/
  isOpen : Bool := true

namespace Channel

variable {α : Type}

/-- How many slots are neither filled nor given away. -/
def free (c : Channel α) : Nat := c.capacity - (c.queue.length + c.granted.length)

/-- Puts an item at the end. -/
def push (c : Channel α) (a : α) : Channel α := { c with queue := c.queue ++ [a] }

/-! ## Taking -/

/-- Gives a slot to the first in line. -/
def grant (c : Channel α) : Channel α :=
  match c.line with
  | [] => c
  | t :: ts => { c with line := ts, granted := c.granted ++ [t] }

/-- Takes the oldest item; its slot goes to the first in line. -/
def take? (c : Channel α) : Option (α × Channel α) :=
  match c.queue with
  | [] => none
  | a :: as => some (a, grant { c with queue := as })

/-- Takes up to a number of items. -/
def takeMany : Nat → Channel α → List α × Channel α
  | 0, c => ([], c)
  | k + 1, c =>
      match c.take? with
      | none => ([], c)
      | some (a, c) =>
          let (as, c) := takeMany k c
          (a :: as, c)

/-- The receiver goes away. -/
def close (c : Channel α) : Channel α := { c with isOpen := false, queue := [] }

/-! ## Writing -/

/-- Why an item that should not wait was not accepted. -/
inductive Refusal where
  | closed
  | full
deriving DecidableEq, Repr

/-- Puts an item in if there is a free slot. -/
def offer (c : Channel α) (a : α) : Except Refusal (Channel α) :=
  if !c.isOpen then .error .closed
  else if c.free = 0 then .error .full
  else .ok (c.push a)

/-- What becomes of an attempt to write. -/
inductive Write where
  /-- The item is in the queue. -/
  | written
  /-- The receiver is gone. -/
  | failed
  /-- The actor went to the end of the line. -/
  | queued
deriving DecidableEq, Repr

/-- An actor waits no longer. -/
def leave (c : Channel α) (t : ActorId) : Channel α :=
  { c with line := c.line.erase t, granted := c.granted.erase t }

/-- An actor attempts to write an item; there is nothing to be done while it stands in line. -/
def write? (c : Channel α) (t : ActorId) (a : α) : Option (Write × Channel α) :=
  if !c.isOpen then some (.failed, c.leave t)
  else if t ∈ c.granted then some (.written, (c.leave t).push a)
  else if t ∈ c.line then none
  else if 0 < c.free then some (.written, c.push a)
  else some (.queued, { c with line := c.line ++ [t] })

/-! ## What the operations do to the queue -/

theorem queue_grant (c : Channel α) : c.grant.queue = c.queue := by
  unfold grant
  split <;> rfl

theorem take?_eq_none_iff {c : Channel α} : c.take? = none ↔ c.queue = [] := by
  unfold take?
  split <;> simp [*]

theorem queue_of_take? {c d : Channel α} {a : α} (h : c.take? = some (a, d)) :
    c.queue = a :: d.queue := by
  unfold take? at h
  split at h
  · cases h
  next as hq =>
    simp only [Option.some.injEq, Prod.mk.injEq] at h
    obtain ⟨rfl, rfl⟩ := h
    rw [hq, queue_grant]

/-- A write adds the item when it succeeds, and nothing otherwise. -/
theorem queue_of_write? {c d : Channel α} {t : ActorId} {a : α} {w : Write}
    (h : c.write? t a = some (w, d)) :
    d.queue = if w = .written then c.queue ++ [a] else c.queue := by
  unfold write? at h
  split at h
  · simp only [Option.some.injEq, Prod.mk.injEq] at h
    obtain ⟨rfl, rfl⟩ := h
    simp [leave]
  · split at h
    · simp only [Option.some.injEq, Prod.mk.injEq] at h
      obtain ⟨rfl, rfl⟩ := h
      simp [leave, push]
    · split at h
      · cases h
      · split at h
        · simp only [Option.some.injEq, Prod.mk.injEq] at h
          obtain ⟨rfl, rfl⟩ := h
          simp [push]
        · simp only [Option.some.injEq, Prod.mk.injEq] at h
          obtain ⟨rfl, rfl⟩ := h
          simp

end Channel
end ControlPlane
