import ControlPlane.Json.Format

/-!
# Queries

A query asks for documents whose fields have given values; a page says how many matches to pass
over and how many to give at most.
-/

set_option autoImplicit false

namespace ControlPlane

open Json Json.Format

structure Query where
  conditions : List (String × Value) := []

namespace Query

/-- A query for one value of one field. -/
def eq (field : String) (v : Value) : Query := ⟨[(field, v)]⟩

def isEmpty (q : Query) : Bool := q.conditions.isEmpty

/-- Every field named in the query is there and has the value asked for. -/
def accepts (q : Query) (doc : Value) : Bool :=
  q.conditions.all fun c =>
    match doc.get? c.1 with
    | some v => v == c.2
    | none => false

def layout : Layout Query where
  blank := {}
  isStrict := true
  fields := [
    field "conditions" (list (pair string value)) (·.conditions)
      fun a q => { q with conditions := a }]

end Query

structure Page where
  skip : Nat := 0
  limit : Option Nat := none
deriving DecidableEq, Repr

namespace Page

/-- The part of a list that a page shows. -/
def of {α : Type} (p : Page) (as : List α) : List α :=
  let rest := as.drop p.skip
  match p.limit with
  | some n => rest.take n
  | none => rest

/-- The part of the accepted items that a page shows, in one pass over all items that ends when the
page is full. -/
def select {α : Type} (accepts : α → Bool) : Page → List α → List α
  | _, [] => []
  | ⟨_, some 0⟩, _ => []
  | ⟨skip, limit⟩, a :: as =>
      if accepts a then
        match skip with
        | 0 => a :: select accepts ⟨0, limit.map (· - 1)⟩ as
        | k + 1 => select accepts ⟨k, limit⟩ as
      else select accepts ⟨skip, limit⟩ as

/-- What a page shows is the part that it cuts out of the accepted items. -/
theorem select_eq_of {α : Type} (accepts : α → Bool) (p : Page) (as : List α) :
    p.select accepts as = p.of (as.filter accepts) := by
  induction as generalizing p with
  | nil =>
      obtain ⟨skip, limit⟩ := p
      cases limit <;> simp [select, of]
  | cons a as ih =>
      obtain ⟨skip, limit⟩ := p
      rcases limit with _ | _ | n
      · cases h : accepts a <;> cases skip <;> simp [select, of, h, ih]
      · simp [select, of]
      · cases h : accepts a <;> cases skip <;> simp [select, of, h, ih]

def layout : Layout Page where
  blank := {}
  isStrict := true
  fields := [
    field "skip" (natural 64) (·.skip) fun a p => { p with skip := a },
    optionalField "limit" (natural 64) (·.limit) fun a p => { p with limit := a }]

end Page
end ControlPlane
