import ControlPlane.Entity.Json
import ControlPlane.Store.Error
import ControlPlane.Store.Query
import ControlPlane.Table

/-!
# The store

All records of the cluster by kind and id, and beside them one audit artifact for each id that
was ever added, held by the bare id. Each call is one atomic step: it gives the new store, or an
error and leaves the store as it was. Records are listed by increasing id; keys of nodes are
unique among the nodes that `add` lets in.
-/

set_option autoImplicit false

namespace ControlPlane

/-- Where a record is held. -/
structure Ref where
  kind : Kind
  id : ObjectId
deriving DecidableEq

namespace Ref

/-- Records are ordered by kind and then by id. -/
instance : Ord Ref :=
  ⟨compareLex (compareOn fun r => r.kind.number) (compareOn fun r => r.id)⟩

instance : Std.TransOrd Ref :=
  inferInstanceAs <| Std.TransCmp <|
    compareLex (compareOn fun r : Ref => r.kind.number) (compareOn fun r => r.id)

instance : Std.LawfulEqOrd Ref where
  compare_self := Std.ReflCmp.compare_self
  eq_of_compare := fun {a b} h => by
    obtain ⟨hk, hi⟩ := Ordering.then_eq_eq.mp h
    have hk : a.kind.number = b.kind.number := Std.LawfulEqCmp.eq_of_compare hk
    have hi : a.id = b.id := Std.LawfulEqCmp.eq_of_compare hi
    have hk : a.kind = b.kind := by
      generalize a.kind = x at hk
      generalize b.kind = y at hk
      cases x <;> cases y <;> first | rfl | simp [Kind.number] at hk
    cases a
    cases b
    simp_all

end Ref

structure Store where
  /-- The records. -/
  models : Table Ref Model := .empty
  /-- The audit artifacts. -/
  artifacts : Table ObjectId Artifact := .empty

namespace Store

/-! ## Reading -/

/-- The record of a kind with an id. -/
def find? (s : Store) (kind : Kind) (id : ObjectId) : Option Model := s.models.find? ⟨kind, id⟩

/-- The records of a kind by increasing id. -/
def ofKind (s : Store) (kind : Kind) : List Model :=
  (s.models.entries.filter fun e => e.1.kind = kind).map (·.2)

def count (s : Store) (kind : Kind) : Nat := (s.ofKind kind).length

def getById (s : Store) (kind : Kind) (id : ObjectId) : Except StoreError Model :=
  match s.find? kind id with
  | some m => .ok m
  | none => .error (.notFound kind id)

/-- A page of the records of a kind that a query accepts. -/
def getList (s : Store) (kind : Kind) (q : Query) (page : Page) : List Model :=
  page.select (fun m => q.accepts m.document) (s.ofKind kind)

/-- The first record of a kind that a query accepts. -/
def get (s : Store) (kind : Kind) (q : Query) : Except StoreError Model :=
  match s.getList kind q ⟨0, some 1⟩ with
  | m :: _ => .ok m
  | [] => .error (.noMatch kind)

/-- The query for the nodes with a key. -/
def keyQuery (key : String) : Query := .eq "key" (.string key)

/-- The audit artifact of a record. -/
def getArtifact (s : Store) (kind : Kind) (id : ObjectId) : Except StoreError Artifact :=
  match (s.artifacts.find? id).filter fun a => a.col == kind.collection with
  | some a => .ok a
  | none => .error (.notFound .artifact id)

/-! ## Writing -/

/-- The audit artifact after a record was added or changed. Artifacts have none of their own. -/
def touch (s : Store) (now : Instant) (kind : Kind) (id : ObjectId) (created : Bool) : Store :=
  if kind = .artifact then s
  else
    let a := (s.artifacts.find? id).getD { id := some id, col := kind.collection }
    let a :=
      if created then { a with createdAt := some now, deleted := false, deletedAt := none } else a
    { s with artifacts := s.artifacts.insert id { a with updatedAt := some now } }

/-- Some node already has the key of a node. -/
def isKeyTaken (s : Store) (m : Model) : Bool :=
  match m with
  | .node n =>
      n.key ≠ "" && (s.ofKind .node).any fun
        | .node other => other.key = n.key
        | _ => false
  | _ => false

/-- The key of a node. -/
def keyOf : Model → String
  | .node n => n.key
  | _ => ""

/-- Adds a record; one without an id gets the fresh one. -/
def add (s : Store) (fresh : ObjectId) (now : Instant) (m : Model) :
    Except StoreError (Model × Store) :=
  let kind := m.kind
  let (id, m) :=
    match m.storedId? with
    | some id => (id, m)
    | none => (fresh, m.setId fresh)
  if (s.find? kind id).isSome then .error (.duplicate kind id)
  else if s.isKeyTaken m then .error (.duplicateKey kind (keyOf m))
  else .ok (m, { s with models := s.models.insert ⟨kind, id⟩ m }.touch now kind id true)

/-- Replaces a record. -/
def save (s : Store) (now : Instant) (m : Model) : Except StoreError (Model × Store) :=
  let kind := m.kind
  match m.storedId? with
  | none => .error (.missingId kind)
  | some id =>
      if (s.find? kind id).isSome then
        .ok (m, { s with models := s.models.insert ⟨kind, id⟩ m }.touch now kind id false)
      else .error (.notFound kind id)

/-- The audit artifact of a record that is deleted. -/
def retire (s : Store) (now : Instant) (id : ObjectId) : Store :=
  match s.artifacts.find? id with
  | some a =>
      let a := { a with deleted := true, deletedAt := some now, updatedAt := some now }
      { s with artifacts := s.artifacts.insert id a }
  | none => s

/-- Removes a record. -/
def delete (s : Store) (now : Instant) (kind : Kind) (id : ObjectId) : Except StoreError Store :=
  if (s.find? kind id).isSome then
    .ok ({ s with models := s.models.erase ⟨kind, id⟩ }.retire now id)
  else .error (.notFound kind id)

end Store
end ControlPlane
