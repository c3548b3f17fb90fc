import ControlPlane.Proofs.Entity.Document
import ControlPlane.Proofs.Store.Contents
import Mathlib.Data.List.Sort

/-!
# Listings

What a query asks for is said of the text of a record: read back as a document, it has every
field of the query with the value asked for (`Query.Fits`). The listing of a kind are the records
that fit, by increasing id (`Store.IsListing`). All that the store answers about the kind comes
from it (`Store.Answers`): a page is cut out of it, pages of one size put one after another give
it back, and the first record is its head.
-/

set_option autoImplicit false

namespace ControlPlane

open Json

/-! ## Queries -/

/-- The values of two scalars are compared exactly. -/
theorem Json.Value.IsScalar.beq_iff {v w : Value} (h : v.IsScalar) : (v == w) = true ↔ v = w := by
  show Value.beq v w = true ↔ v = w
  cases v with
  | null | bool b | int n | string s => cases w <;> simp [Value.beq]
  | float x | array vs | object ms => cases h

namespace Query

/-- The text of the model is a document that has every field of the query, with its value. -/
def Fits (q : Query) (m : Model) : Prop :=
  ∃ doc, Value.ofText? m.encode = some doc ∧ ∀ c ∈ q.conditions, doc.get? c.1 = some c.2

theorem accepts_eq_true {q : Query} {doc : Value} :
    q.accepts doc = true ↔
      ∀ c ∈ q.conditions, ∃ v, doc.get? c.1 = some v ∧ (v == c.2) = true := by
  rw [accepts, List.all_eq_true]
  refine forall₂_congr fun c _ => ?_
  cases doc.get? c.1 <;> simp

theorem accepts_iff {q : Query} {m : Model} : q.accepts m.document = true ↔ q.Fits m := by
  obtain ⟨doc, hdoc, hget⟩ := m.ofText?_encode
  have hcondition (c : String × Value) :
      (∃ v, m.document.get? c.1 = some v ∧ (v == c.2) = true) ↔ doc.get? c.1 = some c.2 := by
    rw [hget]
    constructor
    · rintro ⟨v, hv, heq⟩
      rwa [← (Model.isScalar_of_get?_document hv).beq_iff.mp heq]
    · intro hv
      exact ⟨c.2, hv, (Model.isScalar_of_get?_document hv).beq_iff.mpr rfl⟩
  rw [accepts_eq_true]
  constructor
  · intro h
    exact ⟨doc, hdoc, fun c hc => (hcondition c).mp (h c hc)⟩
  · rintro ⟨doc', hdoc', h⟩ c hc
    obtain rfl : doc = doc' := Option.some.inj (hdoc.symm.trans hdoc')
    exact (hcondition c).mpr (h c hc)

/-- The empty query fits every model. -/
theorem fits_of_isEmpty {q : Query} (hq : q.isEmpty = true) (m : Model) : q.Fits m := by
  obtain ⟨doc, hdoc, -⟩ := m.ofText?_encode
  have hnone : q.conditions = [] := List.isEmpty_iff.mp hq
  refine ⟨doc, hdoc, ?_⟩
  rw [hnone]
  exact List.forall_mem_nil _

end Query

/-! ## Lists by increasing key -/

/-- A list by increasing key is determined by its entries. -/
theorem Table.Increasing.eq_of_mem_iff {κ α : Type} [Ord κ] [Std.TransOrd κ]
    {es fs : List (κ × α)} (hes : Increasing es) (hfs : Increasing fs)
    (h : ∀ e, e ∈ es ↔ e ∈ fs) : es = fs := by
  have hirrefl : Std.Irrefl fun a b : κ × α => compare a.1 b.1 = .lt :=
    ⟨fun _ hlt => ne_of_lt hlt rfl⟩
  have hantisymm : Std.Antisymm fun a b : κ × α => compare a.1 b.1 = .lt :=
    ⟨fun a b hlt hlt' => by
      have hgt : compare a.1 b.1 = .gt := Std.OrientedCmp.gt_of_lt hlt'
      rw [hlt] at hgt
      cases hgt⟩
  exact List.Pairwise.eq_of_mem_iff hes hfs h

/-! ## Pages -/

namespace Page

variable {α : Type}

/-- The first pages of one size, put one after another, are the beginning of the list. -/
theorem flatMap_range_of (as : List α) (n count : Nat) :
    (List.range count).flatMap (fun i => Page.of ⟨i * n, some n⟩ as) = as.take (count * n) := by
  induction count with
  | zero => simp
  | succ count ih =>
      calc (List.range (count + 1)).flatMap (fun i => Page.of ⟨i * n, some n⟩ as)
          = as.take (count * n) ++ (as.drop (count * n)).take n := by
            rw [List.range_succ, List.flatMap_append, ih, List.flatMap_singleton]
            rfl
        _ = as.take (count * n + n) := List.take_add.symm
        _ = as.take ((count + 1) * n) := by rw [Nat.succ_mul]

end Page

namespace Store

variable {s : Store} {kind : Kind} {q : Query}

/-! ## Records of a kind -/

/-- The records of a kind, each with the id that it is held under. -/
def rows (s : Store) (kind : Kind) : List (ObjectId × Model) :=
  (s.models.entries.filter fun e => e.1.kind = kind).map fun e => (e.1.id, e.2)

theorem ofKind_eq_rows (s : Store) (kind : Kind) : s.ofKind kind = (s.rows kind).map (·.2) := by
  rw [ofKind, rows, List.map_map]
  rfl

theorem mem_rows {id : ObjectId} {m : Model} :
    (id, m) ∈ s.rows kind ↔ s.find? kind id = some m := by
  rw [find?, ← Table.mem_entries]
  simp only [rows, List.mem_map, List.mem_filter, decide_eq_true_eq, Prod.mk.injEq]
  constructor
  · rintro ⟨⟨⟨k, i⟩, x⟩, ⟨hmem, rfl⟩, rfl, rfl⟩
    exact hmem
  · intro hmem
    exact ⟨(⟨kind, id⟩, m), ⟨hmem, rfl⟩, rfl, rfl⟩

/-- Under one kind, places are ordered by their ids. -/
theorem compare_ref (kind : Kind) (i j : ObjectId) :
    compare (⟨kind, i⟩ : Ref) ⟨kind, j⟩ = compare i j := by
  have hkind : compare kind.number kind.number = .eq := Std.ReflCmp.compare_self
  show (compare kind.number kind.number).then (compare i j) = compare i j
  rw [hkind]
  rfl

/-- Every row has a smaller id than those after it. -/
theorem increasing_rows (s : Store) (kind : Kind) : Table.Increasing (s.rows kind) := by
  rw [Table.Increasing, rows, List.pairwise_map]
  have hentries : (s.models.entries.filter fun e => e.1.kind = kind).Pairwise
      fun a b => compare a.1 b.1 = .lt := s.models.increasing.filter _
  refine hentries.imp_of_mem fun {a b} ha hb hlt => ?_
  obtain ⟨⟨k, i⟩, m⟩ := a
  obtain ⟨⟨l, j⟩, x⟩ := b
  obtain rfl : k = kind := by simpa using (List.mem_filter.mp ha).2
  obtain rfl : l = k := by simpa using (List.mem_filter.mp hb).2
  rwa [compare_ref] at hlt

/-! ## Listings -/

/-- The rows are the records of a kind that fit a query, by increasing id. -/
structure IsListing (s : Store) (kind : Kind) (q : Query) (rows : List (ObjectId × Model)) :
    Prop where
  increasing : Table.Increasing rows
  mem_iff (id : ObjectId) (m : Model) : (id, m) ∈ rows ↔ s.find? kind id = some m ∧ q.Fits m
  /-- The empty query is for all records of the kind. -/
  mem_iff_of_isEmpty (hq : q.isEmpty = true) (id : ObjectId) (m : Model) :
    (id, m) ∈ rows ↔ s.find? kind id = some m

/-- What the store answers about the records of a kind that are listed. -/
structure Answers (s : Store) (kind : Kind) (q : Query) (rows : List (ObjectId × Model)) :
    Prop where
  unlimited (skip : Nat) : s.getList kind q ⟨skip, none⟩ = (rows.map (·.2)).drop skip
  limited (skip n : Nat) :
    s.getList kind q ⟨skip, some n⟩ = ((rows.map (·.2)).drop skip).take n
  /-- So many pages of one size are the beginning of the list without pages. -/
  pages (n count : Nat) :
    (List.range count).flatMap (fun i => s.getList kind q ⟨i * n, some n⟩)
      = (s.getList kind q {}).take (count * n)
  /-- Enough pages are the whole list. -/
  all_pages (n count : Nat) (hn : 1 ≤ n) (hcount : (s.getList kind q {}).length ≤ count) :
    (List.range count).flatMap (fun i => s.getList kind q ⟨i * n, some n⟩) = s.getList kind q {}
  get : s.get kind q =
    match s.getList kind q {} with
    | m :: _ => .ok m
    | [] => .error (.noMatch kind)

/-- There is only one listing. -/
theorem IsListing.unique {rows rows' : List (ObjectId × Model)} (h : s.IsListing kind q rows)
    (h' : s.IsListing kind q rows') : rows = rows' := by
  refine h.increasing.eq_of_mem_iff h'.increasing fun r => ?_
  obtain ⟨id, m⟩ := r
  rw [h.mem_iff, h'.mem_iff]

theorem isListing_filter (s : Store) (kind : Kind) (q : Query) :
    s.IsListing kind q ((s.rows kind).filter fun r => q.accepts r.2.document) := by
  have hmem (id : ObjectId) (m : Model) :
      (id, m) ∈ (s.rows kind).filter (fun r => q.accepts r.2.document)
        ↔ s.find? kind id = some m ∧ q.Fits m := by
    rw [List.mem_filter, mem_rows, Query.accepts_iff]
  constructor
  · exact (s.increasing_rows kind).filter _
  · exact hmem
  · intro hq id m
    rw [hmem]
    exact and_iff_left (Query.fits_of_isEmpty hq m)

/-- A page is cut out of the records that are accepted. -/
theorem getList_eq_of (s : Store) (kind : Kind) (q : Query) (p : Page) :
    s.getList kind q p
      = p.of (((s.rows kind).filter fun r => q.accepts r.2.document).map (·.2)) := by
  rw [getList, Page.select_eq_of, ofKind_eq_rows, List.filter_map]
  rfl

theorem answers_filter (s : Store) (kind : Kind) (q : Query) :
    s.Answers kind q ((s.rows kind).filter fun r => q.accepts r.2.document) := by
  have hall : s.getList kind q {}
      = ((s.rows kind).filter fun r => q.accepts r.2.document).map (·.2) := s.getList_eq_of kind q {}
  have hpages (n count : Nat) :
      (List.range count).flatMap (fun i => s.getList kind q ⟨i * n, some n⟩)
        = (s.getList kind q {}).take (count * n) := by
    simp only [getList_eq_of s kind q ⟨_, some n⟩]
    rw [Page.flatMap_range_of, hall]
  constructor
  · intro skip
    exact s.getList_eq_of kind q ⟨skip, none⟩
  · intro skip n
    exact s.getList_eq_of kind q ⟨skip, some n⟩
  · exact hpages
  · intro n count hn hcount
    have henough : (s.getList kind q {}).length ≤ count * n :=
      hcount.trans (Nat.le_mul_of_pos_right count hn)
    rw [hpages, List.take_of_length_le henough]
  · have hfirst : s.getList kind q ⟨0, some 1⟩ = (s.getList kind q {}).take 1 := by
      rw [getList_eq_of, hall]
      rfl
    rw [get, hfirst]
    cases s.getList kind q {} <;> rfl

/-- **Listing is filtering, dropping and taking.** Of every kind and query there is one listing,
and the store answers from it. -/
theorem exists_listing (s : Store) (kind : Kind) (q : Query) :
    ∃ rows, s.IsListing kind q rows ∧ (∀ rows', s.IsListing kind q rows' → rows' = rows) ∧
      s.Answers kind q rows := by
  have hlisting := s.isListing_filter kind q
  refine ⟨_, hlisting, ?_, s.answers_filter kind q⟩
  intro rows' h
  exact h.unique hlisting

end Store
end ControlPlane
