import ControlPlane.Store.Error

/-!
# Scripted answers

A script stands in front of the store and answers some of its calls itself: of each sort of call
it lets a number through, then answers a number with an error or a model, and lets the rest
through. It is how the failure of a store is rehearsed.
-/

set_option autoImplicit false

namespace ControlPlane

/-- The sorts of calls of the store. -/
inductive StoreCall where
  | add
  | save
  | delete
  | get
  | getById
  | getList
  | getArtifact
deriving DecidableEq, Repr

/-- What a scripted call is answered with. -/
inductive ScriptedAnswer where
  | error (e : StoreError)
  | model (m : Model)

/-- What is planned for one sort of call. -/
structure Plan where
  /-- How many calls are let through first. -/
  after : Nat
  /-- How many calls are answered then. -/
  times : Nat
  answer : ScriptedAnswer

/-- The plan for each sort of call. -/
structure Script where
  plans : List (StoreCall × Plan) := []

namespace Script

/-- Plans for a sort of call, in place of what was planned. -/
def plan (s : Script) (c : StoreCall) (p : Plan) : Script :=
  ⟨(c, p) :: s.plans.filter fun q => q.1 ≠ c⟩

/-- The answer to the next call of a sort, if it is planned. -/
def next (s : Script) (c : StoreCall) : Option ScriptedAnswer × Script :=
  match s.plans.find? fun q => q.1 = c with
  | none => (none, s)
  | some (_, p) =>
      if 0 < p.after then (none, s.plan c { p with after := p.after - 1 })
      else if 0 < p.times then (some p.answer, s.plan c { p with times := p.times - 1 })
      else (none, s)

end Script
end ControlPlane
