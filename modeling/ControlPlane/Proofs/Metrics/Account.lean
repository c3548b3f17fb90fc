import ControlPlane.Proofs.Metrics.Ledger
import ControlPlane.Proofs.Telemetry.Intake
import Mathlib.Algebra.Group.Pi.Basic

/-!
# Accounts

What the metrics amount to. An account has a number for each *item*: how often something was asked
for, how often it went well, how much was taken in. The ledger keeps an item in a counter of its
own or in all counters of a family, and can be read as an account (`Ledger.reading`).

A piece of work *books* an account when the reading of the ledger grows by just that, and the
gauge of subscriptions is right after it if it was right before (`Backend.Books`). Booking adds up
along a routine (`Backend.Books.trans`), so what a service books follows from what it counts.
-/

set_option autoImplicit false

namespace ControlPlane

/-! ## Items -/

/-- What an account has a number for. -/
inductive Item where
  | registrations
  /-- Registrations that inserted the record of a node. -/
  | insertions
  | heartbeats
  /-- Heartbeats that succeeded. -/
  | beats
  /-- Messages that were routed, whatever became of them. -/
  | routings
  /-- Messages that were put into the queue of a sink. -/
  | deliveries
  /-- Nodes that a sweep found online and left offline. -/
  | lapses
  /-- Delegate messages that could be read. -/
  | delegations
  /-- Rows of batches that were taken in. -/
  | rows
  /-- Lines of batches that were taken in. -/
  | lines

abbrev Account := Item → Nat

/-- Where the ledger keeps an item: in the counters of a family, or in one counter. -/
def Item.place : Item → Family ⊕ Counter
  | registrations => .inl .nodesRegistered
  | insertions => .inr (.nodeRegistered .created)
  | heartbeats => .inl .nodeHeartbeats
  | beats => .inr (.nodeHeartbeat .ok)
  | routings => .inl .messagesRouted
  | deliveries => .inr (.messageRouted .delivered)
  | lapses => .inr .nodeMarkedOffline
  | delegations => .inl .delegateCalls
  | rows => .inr .recordsIngested
  | lines => .inr .logsIngested

/-- The ledger as an account. -/
def Ledger.reading (l : Ledger) : Account := fun item => item.place.elim l.total l.value

/-- What it means for an account that `n` is added to a counter. -/
def Counter.booked (c : Counter) (n : Nat) : Account := fun item =>
  item.place.elim (fun f => if c.family = f then n else 0) fun d => if c = d then n else 0

/-! ## Adding to a counter -/

namespace Counter

/-- A counter is told by its sample. -/
theorem sample_injective {c d : Counter} (h : c.sample = d.sample) : c = d := by
  have houtcome (o o' : Outcome) : o.label = o'.label → o = o' := by
    cases o <;> cases o' <;> decide
  have hkind (k k' : Kind) : k.label = k'.label → k = k' := by
    cases k <;> cases k' <;> decide
  have hsubsystem (s s' : Subsystem) : s.label = s'.label → s = s' := by
    cases s <;> cases s' <;> decide
  have hmethod (m m' : Option DelegateMethod) :
      (m.map DelegateMethod.label).getD "unknown" = (m'.map DelegateMethod.label).getD "unknown" →
        m = m' := by
    rcases m with _ | m <;> rcases m' with _ | m'
    · exact fun _ => rfl
    · cases m' <;> decide
    · cases m <;> decide
    · cases m <;> cases m' <;> decide
  have hfamily : c.family = d.family := congrArg Sample.family h
  have hlabels : c.labels = d.labels := congrArg Sample.labels h
  cases c <;> cases d <;> try cases hfamily
  all_goals simp only [labels, List.cons.injEq, Prod.mk.injEq, and_true, true_and] at hlabels
  all_goals grind

/-- Errors are no item. -/
theorem booked_subsystemError (s : Subsystem) (label : String) (n : Nat) :
    (subsystemError s label).booked n = 0 := by
  funext item
  cases item <;> rfl

theorem booked_messageRejected (reason : String) (n : Nat) :
    (messageRejected reason).booked n = 0 := by
  funext item
  cases item <;> rfl

theorem booked_zero (c : Counter) : c.booked 0 = 0 := by
  funext item
  rw [booked]
  cases item.place <;> simp

theorem booked_add (c : Counter) (n m : Nat) : c.booked n + c.booked m = c.booked (n + m) := by
  funext item
  rw [Pi.add_apply, booked, booked, booked]
  cases item.place with
  | inl f => by_cases h : c.family = f <;> simp [h]
  | inr d => by_cases h : c = d <;> simp [h]

end Counter

namespace Ledger

/-- Every entry is that of a counter. -/
def IsProper (l : Ledger) : Prop := ∀ e ∈ l.counts.entries, ∃ c : Counter, e.1 = c.sample

theorem isProper_empty : ({} : Ledger).IsProper := by
  intro e he
  cases he

theorem IsProper.add {l : Ledger} (h : l.IsProper) (c : Counter) (n : Nat) :
    (l.add c n).IsProper := by
  intro e he
  rcases Table.mem_insertEntry he with rfl | he
  · exact ⟨c, rfl⟩
  · exact h e he

/-- The entries of a family taken together. -/
def sumOf (f : Family) (es : List (Sample × Nat)) : Nat :=
  ((es.filter fun e => e.1.family = f).map (·.2)).foldr (· + ·) 0

theorem sumOf_cons (f : Family) (e : Sample × Nat) (es : List (Sample × Nat)) :
    sumOf f (e :: es) = (if e.1.family = f then e.2 else 0) + sumOf f es := by
  by_cases h : e.1.family = f <;> simp [sumOf, h]

/-- What is added to one entry is added to the sum of its family. -/
theorem sumOf_insertEntry {k : Sample} {es : List (Sample × Nat)} (hes : Table.Increasing es)
    (hk : ∀ e ∈ es, compare k e.1 = .eq → k = e.1) (n : Nat) (f : Family) :
    sumOf f (Table.insertEntry k (((es.find? fun e => e.1 = k).map (·.2)).getD 0 + n) es)
      = sumOf f es + if k.family = f then n else 0 := by
  induction es with
  | nil => by_cases hf : k.family = f <;> simp [Table.insertEntry, sumOf, hf]
  | cons hd tl ih =>
      obtain ⟨l, v⟩ := hd
      obtain ⟨hl, htl⟩ := List.pairwise_cons.mp hes
      rw [Table.insertEntry]
      cases hkl : compare k l with
      | lt =>
          -- the entry is new: its place is before all others
          have hnone : ((l, v) :: tl).find? (fun e => e.1 = k) = none := by
            rw [List.find?_eq_none]
            intro e he heq
            have hlt : compare k e.1 = .lt := by
              rcases List.mem_cons.mp he with rfl | he
              · exact hkl
              · exact Std.TransCmp.lt_trans hkl (hl e he)
            exact Table.ne_of_lt hlt (of_decide_eq_true heq).symm
          simp only [hnone, sumOf_cons, Option.map_none, Option.getD_none, Nat.zero_add]
          omega
      | eq =>
          obtain rfl : k = l := hk _ List.mem_cons_self hkl
          simp only [List.find?_cons, decide_true, Option.map_some, Option.getD_some, sumOf_cons]
          split <;> omega
      | gt =>
          have hne : l ≠ k := Table.ne_of_lt (Std.OrientedCmp.lt_of_gt hkl)
          have ih := ih htl fun e he => hk e (List.mem_cons_of_mem _ he)
          simp only [List.find?_cons, hne, decide_false, sumOf_cons]
          omega

/-- Adding to a counter adds to the total of its family. -/
theorem total_add {l : Ledger} (h : l.IsProper) (c : Counter) (n : Nat) (f : Family) :
    (l.add c n).total f = l.total f + if c.family = f then n else 0 := by
  apply sumOf_insertEntry l.counts.increasing
  intro e he heq
  obtain ⟨d, hd⟩ := h e he
  rw [hd] at heq ⊢
  exact Counter.sample_of_compare heq

/-- The reading grows by what is booked. -/
theorem reading_add {l : Ledger} (h : l.IsProper) (c : Counter) (n : Nat) :
    (l.add c n).reading = l.reading + c.booked n := by
  funext item
  rw [Pi.add_apply, reading, reading, Counter.booked]
  cases item.place with
  | inl f => exact total_add h c n f
  | inr d =>
      have hsample : c.sample = d.sample ↔ c = d :=
        ⟨Counter.sample_injective, congrArg Counter.sample⟩
      simp only [Sum.elim_inr, value_add, hsample]
      split <;> rfl

end Ledger

/-! ## Booking -/

theorem Registry.size_raise (r : Registry) (signal : SignalId) :
    (r.raise signal).2.size = r.size := by
  unfold raise
  split
  · split <;> rfl
  · rfl

namespace Backend

/-- The gauge of subscriptions is right. -/
def IsGauged (b : Backend) : Prop := b.ledger.subscriptions = b.registry.size

/-- The second backend comes from the first by work that an account tells: that much was counted,
and the gauge was kept up. -/
structure Books (b : Backend) (a : Account) (b' : Backend) : Prop where
  sound : b.IsSound → b'.IsSound
  proper : b.ledger.IsProper → b'.ledger.IsProper
  reading : b.ledger.IsProper → b'.ledger.reading = b.ledger.reading + a
  gauged : b.IsGauged → b'.IsGauged

namespace Books

variable {b b' b'' : Backend} {a a' : Account}

theorem refl (b : Backend) : b.Books 0 b := ⟨id, id, fun _ => rfl, id⟩

theorem of_eq (h : b.Books a b') (ha : a = a') : b.Books a' b' := ha ▸ h

theorem trans (h : b.Books a b') (h' : b'.Books a' b'') : b.Books (a + a') b'' where
  sound hb := h'.sound (h.sound hb)
  proper hb := h'.proper (h.proper hb)
  reading hb := by rw [h'.reading (h.proper hb), h.reading hb, add_assoc]
  gauged hb := h'.gauged (h.gauged hb)

/-- Work after which the ledger has the same counters books nothing. -/
theorem of_counts (hsound : b.IsSound → b'.IsSound) (hcounts : b'.ledger.counts = b.ledger.counts)
    (hgauged : b.IsGauged → b'.IsGauged) : b.Books 0 b' where
  sound := hsound
  proper hb := by
    unfold Ledger.IsProper
    rw [hcounts]
    exact hb
  reading _ := by
    funext item
    show item.place.elim b'.ledger.total b'.ledger.value = _
    have htotal : b'.ledger.total = b.ledger.total := by
      funext f
      rw [Ledger.total, Ledger.total, hcounts]
    have hvalue : b'.ledger.value = b.ledger.value := by
      funext c
      rw [Ledger.value, Ledger.value, hcounts]
    rw [htotal, hvalue]
    rfl
  gauged := hgauged

end Books

theorem ledger_scripted {α : Type} {b : Backend} {c : StoreCall} {ofModel : Model → α}
    {make : Backend → Except StoreError α × Backend} (h : ∀ b, (make b).2.ledger = b.ledger) :
    (b.scripted c ofModel make).2.ledger = b.ledger := by
  unfold scripted
  split
  · rw [h]
  · rfl
  · rfl

theorem books_countMany (b : Backend) (c : Counter) (n : Nat) :
    b.Books (c.booked n) ((Routine.countMany c n).run b).2 where
  sound hb := hb.run _
  proper hb := hb.add c n
  reading hb := Ledger.reading_add hb c n
  gauged := id

theorem books_count (b : Backend) (c : Counter) : b.Books (c.booked 1) ((Routine.count c).run b).2 :=
  b.books_countMany c 1

theorem books_error (b : Backend) (s : Subsystem) (label : String) :
    b.Books 0 ((Routine.count (.subsystemError s label)).run b).2 :=
  Counter.booked_subsystemError s label 1 ▸ b.books_count (.subsystemError s label)

end Backend

/-! ## Work that counts nothing -/

/-- A call that counts nothing and leaves the entries of the registry alone. -/
def Call.IsQuiet : Call → Prop
  | .count .. | .install .. | .remove _ => False
  | _ => True

theorem Call.IsOfStore.isQuiet {c : Call} (h : c.IsOfStore) : c.IsQuiet := by
  cases c with
  | count c n => cases h
  | install key sink isHeard => cases h
  | remove key => cases h
  | _ => trivial

theorem Backend.books_perform (b : Backend) {c : Call} (h : c.IsQuiet) :
    b.Books 0 (b.perform c).2 := by
  have hsound (hb : b.IsSound) : (b.perform c).2.IsSound := hb.perform c
  -- a call of the store touches neither the ledger nor the registry
  have hstore (haside : c.IsAside) (hledger : (b.perform c).2.ledger = b.ledger) :
      b.Books 0 (b.perform c).2 := by
    refine .of_counts hsound (congrArg Ledger.counts hledger) ?_
    unfold IsGauged
    rw [hledger, b.registry_perform haside]
    exact id
  cases c with
  | getById kind id => exact hstore trivial (ledger_scripted fun _ => rfl)
  | get kind q => exact hstore trivial (ledger_scripted fun _ => rfl)
  | getList kind q page => exact hstore trivial (ledger_scripted fun _ => rfl)
  | getArtifact kind id => exact hstore trivial (ledger_scripted fun _ => rfl)
  | add m =>
      apply hstore trivial
      apply ledger_scripted
      intro b
      rw [Backend.add]
      split <;> rfl
  | save m =>
      apply hstore trivial
      apply ledger_scripted
      intro b
      rw [Backend.save]
      split <;> rfl
  | delete kind id =>
      apply hstore trivial
      apply ledger_scripted
      intro b
      rw [Backend.delete]
      split <;> rfl
  | now => exact .refl b
  | lookUp key => exact .refl b
  | time => exact .of_counts hsound rfl id
  | gauge => exact .of_counts hsound rfl fun _ => rfl
  | retain task batch => exact .of_counts hsound rfl id
  | finish signal =>
      refine .of_counts hsound rfl fun hb => ?_
      exact hb.trans (b.registry.size_raise signal).symm
  | count c n => cases h
  | install key sink isHeard => cases h
  | remove key => cases h

theorem Routine.AsksOnly.books {α : Type} {r : Routine α} (h : r.AsksOnly Call.IsQuiet)
    (b : Backend) : b.Books 0 (r.run b).2 := by
  apply h.run (R := fun b b' => b.Books 0 b') .refl
  · intro b c d hbc hcd
    exact add_zero (0 : Account) ▸ hbc.trans hcd
  · exact fun c b hc => b.books_perform hc

end ControlPlane
