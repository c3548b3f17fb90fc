/-!
# Sorted tables

A table maps finitely many keys to values and lists its entries by increasing key. The order of
the entries is part of the type, so a table is determined by what it holds.

Main statements: what `find?` gives after `insert` and `erase`, and that values can be put under
different keys in any order.
-/

set_option autoImplicit false

namespace ControlPlane

variable {κ α : Type} [Ord κ]

/-- Every entry has a smaller key than those after it. -/
def Table.Increasing (es : List (κ × α)) : Prop :=
  es.Pairwise fun a b => compare a.1 b.1 = .lt

/-- A finite map with its entries in increasing order of keys. -/
structure Table (κ α : Type) [Ord κ] where
  entries : List (κ × α)
  increasing : Table.Increasing entries

namespace Table

/-! ## Lists of entries -/

theorem ne_of_lt [Std.ReflOrd κ] {k l : κ} (h : compare k l = .lt) : k ≠ l := by
  intro heq
  have hsame : compare k l = .eq := Std.ReflCmp.cmp_eq_of_eq heq
  rw [hsame] at h
  cases h

/-- Puts an entry where it belongs, in place of one with the same key. -/
def insertEntry (k : κ) (a : α) : List (κ × α) → List (κ × α)
  | [] => [(k, a)]
  | (l, b) :: es =>
      match compare k l with
      | .lt => (k, a) :: (l, b) :: es
      | .eq => (k, a) :: es
      | .gt => (l, b) :: insertEntry k a es

theorem mem_insertEntry {k : κ} {a : α} {es : List (κ × α)} {e : κ × α}
    (h : e ∈ insertEntry k a es) : e = (k, a) ∨ e ∈ es := by
  induction es with
  | nil => simpa [insertEntry] using h
  | cons hd tl ih =>
      obtain ⟨l, b⟩ := hd
      rw [insertEntry] at h
      split at h
      · simpa using h
      · rcases List.mem_cons.mp h with rfl | h
        · exact .inl rfl
        · exact .inr (List.mem_cons_of_mem _ h)
      · rcases List.mem_cons.mp h with rfl | h
        · exact .inr (by simp)
        · exact (ih h).imp_right (List.mem_cons_of_mem _)

theorem increasing_insertEntry [Std.TransOrd κ] (k : κ) (a : α) {es : List (κ × α)}
    (h : Increasing es) : Increasing (insertEntry k a es) := by
  induction es with
  | nil => simp [insertEntry, Increasing]
  | cons hd tl ih =>
      obtain ⟨l, b⟩ := hd
      obtain ⟨hl, htl⟩ := List.pairwise_cons.mp h
      rw [insertEntry]
      split
      next hkl =>
        refine List.pairwise_cons.mpr ⟨fun e he => ?_, h⟩
        rcases List.mem_cons.mp he with rfl | he
        · exact hkl
        · exact Std.TransCmp.lt_trans hkl (hl e he)
      next hkl =>
        exact List.pairwise_cons.mpr ⟨fun e he => Std.TransCmp.lt_of_eq_of_lt hkl (hl e he), htl⟩
      next hkl =>
        refine List.pairwise_cons.mpr ⟨fun e he => ?_, ih htl⟩
        rcases mem_insertEntry he with rfl | he
        · exact Std.OrientedCmp.lt_of_gt hkl
        · exact hl e he

/-- Of two values put under one key the second stays. -/
theorem insertEntry_insertEntry [Std.TransOrd κ] (k : κ) (a b : α) (es : List (κ × α)) :
    insertEntry k b (insertEntry k a es) = insertEntry k b es := by
  have hself : compare k k = .eq := Std.ReflCmp.compare_self
  induction es with
  | nil => simp only [insertEntry, hself]
  | cons hd tl ih =>
      obtain ⟨l, c⟩ := hd
      rw [insertEntry, insertEntry]
      cases hkl : compare k l with
      | lt => simp only [insertEntry, hself]
      | eq => simp only [insertEntry, hself]
      | gt => simp only [insertEntry, hkl, ih]

/-- It does not matter which of two keys is put in first. -/
theorem insertEntry_comm [Std.TransOrd κ] {k l : κ} (h : compare k l = .lt) (a b : α)
    (es : List (κ × α)) :
    insertEntry l b (insertEntry k a es) = insertEntry k a (insertEntry l b es) := by
  have hlk : compare l k = .gt := Std.OrientedCmp.gt_of_lt h
  induction es with
  | nil => simp only [insertEntry, hlk, h]
  | cons hd tl ih =>
      obtain ⟨m, c⟩ := hd
      cases hkm : compare k m with
      | lt => cases hlm : compare l m <;> simp only [insertEntry, hkm, hlm, hlk, h]
      | eq =>
          have hlm : compare l m = .gt :=
            Std.OrientedCmp.gt_of_lt (Std.TransCmp.lt_of_eq_of_lt (Std.OrientedCmp.eq_symm hkm) h)
          simp only [insertEntry, hkm, hlm, hlk]
      | gt =>
          have hlm : compare l m = .gt :=
            Std.OrientedCmp.gt_of_lt (Std.TransCmp.lt_trans (Std.OrientedCmp.lt_of_gt hkm) h)
          simp only [insertEntry, hkm, hlm, ih]

/-! ## Operations -/

def empty : Table κ α := ⟨[], .nil⟩

instance : Inhabited (Table κ α) := ⟨empty⟩

def size (t : Table κ α) : Nat := t.entries.length

def keys (t : Table κ α) : List κ := t.entries.map (·.1)

def values (t : Table κ α) : List α := t.entries.map (·.2)

/-- The value of a key. -/
def find? [DecidableEq κ] (t : Table κ α) (k : κ) : Option α :=
  (t.entries.find? fun e => e.1 = k).map (·.2)

def contains [DecidableEq κ] (t : Table κ α) (k : κ) : Bool := (t.find? k).isSome

/-- Gives a key a value, in place of any it had. -/
def insert [Std.TransOrd κ] (t : Table κ α) (k : κ) (a : α) : Table κ α :=
  ⟨insertEntry k a t.entries, increasing_insertEntry k a t.increasing⟩

/-- Removes a key and its value. -/
def erase [DecidableEq κ] (t : Table κ α) (k : κ) : Table κ α :=
  ⟨t.entries.filter fun e => e.1 ≠ k, t.increasing.filter _⟩

/-! ## The order of insertions -/

theorem insert_insert [Std.TransOrd κ] (t : Table κ α) (k : κ) (a b : α) :
    (t.insert k a).insert k b = t.insert k b := by
  simp only [insert, insertEntry_insertEntry]

/-- Values can be put in any order under keys that the order tells apart. -/
theorem insert_comm_of [Std.TransOrd κ] (t : Table κ α) {k l : κ} (a b : α)
    (hkl : compare k l ≠ .eq) : (t.insert k a).insert l b = (t.insert l b).insert k a := by
  cases h : compare k l with
  | lt => simp only [insert, insertEntry_comm h]
  | eq => exact absurd h hkl
  | gt => simp only [insert, insertEntry_comm (Std.OrientedCmp.lt_of_gt h)]

theorem insert_comm [Std.TransOrd κ] [Std.LawfulEqOrd κ] (t : Table κ α) {k l : κ} (a b : α)
    (hkl : k ≠ l) : (t.insert k a).insert l b = (t.insert l b).insert k a :=
  t.insert_comm_of a b fun h => hkl (Std.LawfulEqCmp.eq_of_compare h)

/-! ## What a table holds -/

section Lemmas

variable [DecidableEq κ]

@[simp] theorem find?_empty (k : κ) : (empty : Table κ α).find? k = none := rfl

/-- What is found under a key that the order tells apart from the new one. -/
theorem find?_insert_of [Std.TransOrd κ] (t : Table κ α) {k l : κ} (a : α)
    (hkl : compare k l = .eq → k = l) :
    (t.insert k a).find? l = if k = l then some a else t.find? l := by
  obtain ⟨es, h⟩ := t
  simp only [find?, insert]
  induction es with
  | nil => by_cases hkl : k = l <;> simp [insertEntry, hkl]
  | cons hd tl ih =>
      obtain ⟨m, b⟩ := hd
      have ih := ih (List.pairwise_cons.mp h).2
      rw [insertEntry]
      split
      · by_cases hkl : k = l <;> simp [List.find?_cons, hkl]
      next hkm =>
        by_cases hne : k = l
        · simp [hne]
        · have hml : m ≠ l := by
            rintro rfl
            exact hne (hkl hkm)
          simp [hne, hml]
      next hkm =>
        by_cases hml : m = l
        · have hne : k ≠ l := by
            rintro rfl
            subst hml
            simp [Std.ReflCmp.compare_self] at hkm
          simp [hml, hne]
        · simp [hml, ih]

theorem find?_insert [Std.TransOrd κ] [Std.LawfulEqOrd κ] (t : Table κ α) (k l : κ) (a : α) :
    (t.insert k a).find? l = if k = l then some a else t.find? l :=
  t.find?_insert_of a Std.LawfulEqCmp.eq_of_compare

theorem find?_insert_self [Std.TransOrd κ] [Std.LawfulEqOrd κ] (t : Table κ α) (k : κ) (a : α) :
    (t.insert k a).find? k = some a := by
  rw [find?_insert, if_pos rfl]

theorem insertEntry_of_find? [Std.TransOrd κ] {e : κ × α} {es : List (κ × α)}
    (hes : Increasing es) (he : es.find? (fun x => x.1 = e.1) = some e) :
    insertEntry e.1 e.2 es = es := by
  induction es with
  | nil => cases he
  | cons hd tl ih =>
      obtain ⟨hhd, htl⟩ := List.pairwise_cons.mp hes
      by_cases hkey : hd.1 = e.1
      · obtain rfl : hd = e := by simpa [hkey] using he
        simp only [insertEntry, Std.ReflCmp.compare_self]
      · have htail : tl.find? (fun x => x.1 = e.1) = some e := by simpa [hkey] using he
        have hgt : compare e.1 hd.1 = .gt :=
          Std.OrientedCmp.gt_of_lt (hhd e (List.mem_of_find?_eq_some htail))
        simp only [insertEntry, hgt, ih htl htail]

/-- Putting in what is there changes nothing. -/
theorem insert_of_find? [Std.TransOrd κ] {t : Table κ α} {k : κ} {a : α}
    (h : t.find? k = some a) : t.insert k a = t := by
  obtain ⟨es, hes⟩ := t
  simp only [find?, Option.map_eq_some_iff] at h
  obtain ⟨e, he, rfl⟩ := h
  obtain rfl : e.1 = k := by simpa using List.find?_some he
  simp only [insert, insertEntry_of_find? hes he]

theorem find?_erase (t : Table κ α) (k l : κ) :
    (t.erase k).find? l = if k = l then none else t.find? l := by
  simp only [find?, erase, List.find?_filter]
  by_cases hkl : k = l
  · subst hkl
    simp
  · have same : (fun e : κ × α => !decide (e.1 = k) && decide (e.1 = l))
        = fun e => decide (e.1 = l) := by
      funext e
      by_cases hel : e.1 = l
      · simp [hel, Ne.symm hkl]
      · simp [hel]
    simp [same, hkl]

end Lemmas
end Table
end ControlPlane
