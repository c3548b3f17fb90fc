import ControlPlane.Metrics.Ledger

/-!
# The values of counters

Samples are ordered by less than all they are, so the order may not tell two of them apart; it
does for the samples of counters, whose labels have the names that their family gives them. Adding
to a counter therefore changes its own value only (`Ledger.value_add`), and the order in which
things are counted leaves no trace (`Ledger.add_comm`).
-/

set_option autoImplicit false

namespace ControlPlane

namespace Counter

/-- The order tells the samples of counters apart. -/
theorem sample_of_compare {c d : Counter} (h : compare c.sample d.sample = .eq) :
    c.sample = d.sample := by
  obtain ⟨hfamily, hvalues⟩ := Ordering.then_eq_eq.mp h
  have hfamily : c.family.number = d.family.number := Std.LawfulEqCmp.eq_of_compare hfamily
  have hvalues : c.labels.map (·.2) = d.labels.map (·.2) :=
    Std.LawfulEqCmp.eq_of_compare hvalues
  cases c <;> cases d <;> simp_all [family, Family.number, labels, sample]

theorem sample_eq_messageRejected {c : Counter} {reason : String} :
    c.sample = (messageRejected reason).sample ↔ c = .messageRejected reason := by
  constructor
  · intro h
    cases c <;> simp_all [sample, family, labels]
  · rintro rfl
    rfl

end Counter

namespace Ledger

theorem value_add (l : Ledger) (c d : Counter) (n : Nat) :
    (l.add c n).value d = if c.sample = d.sample then l.value d + n else l.value d := by
  unfold value add
  rw [Table.find?_insert_of _ _ Counter.sample_of_compare]
  by_cases h : c.sample = d.sample <;> simp [h]

/-- What is counted can be counted in any order. -/
theorem add_comm (l : Ledger) (c d : Counter) (n m : Nat) :
    (l.add c n).add d m = (l.add d m).add c n := by
  unfold add
  dsimp only
  rw [Table.find?_insert_of _ _ Counter.sample_of_compare,
    Table.find?_insert_of _ _ Counter.sample_of_compare]
  by_cases h : c.sample = d.sample
  · rw [h, if_pos rfl, if_pos rfl, Table.insert_insert, Table.insert_insert, Option.getD_some,
      Option.getD_some, Nat.add_right_comm]
  · rw [if_neg h, if_neg (Ne.symm h),
      Table.insert_comm_of _ _ _ fun heq => h (Counter.sample_of_compare heq)]

end Ledger
end ControlPlane
