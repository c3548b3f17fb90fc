import ControlPlane.Proofs.Node.Order
import ControlPlane.Proofs.Node.Stamps

/-!
# Sweeps are exact

A sweep that is served alone marks the workers that are online and have been silent for longer
than the timeout, all of them and nobody else, and answers with their keys by increasing id. A
second sweep at the same time has nothing left to mark (`Sweep.exactSweep_run`).

The timeout is any number of seconds, and stamps may lie in the future. They only have to be
instants of the calendar, as all stamps are that the master writes (`Store.IsDated`).
-/

set_option autoImplicit false

namespace ControlPlane

namespace Sweep

/-! ## Silent workers -/

/-- The worker is online and was heard of never, or longer ago than so many seconds. -/
structure IsSilent (now : Instant) (timeout : Nat) (n : Node) : Prop where
  online : n.status = .online
  worker : n.isMaster = false
  silent : ∀ t, n.activeAt = some t → ((timeout * 1000000000 : Nat) : Int) < now.nanosSince t

variable {s s' : Store} {now : Instant} {timeout : Nat}

/-- The span that the timeout is cut off at makes no difference. -/
theorem isStale_iff (hnow : now.IsRepresentable) {n : Node} (hn : n.IsDated) :
    isStale now timeout n = true ↔
      ∀ t, n.activeAt = some t → ((timeout * 1000000000 : Nat) : Int) < now.nanosSince t := by
  rw [isStale]
  cases hstamp : n.activeAt with
  | none => exact iff_of_true rfl nofun
  | some t =>
      show decide (Instant.spanOfSeconds timeout < now.nanosSince t) = true ↔ _
      rw [decide_eq_true_iff, Instant.spanOfSeconds_lt_iff hnow (hn t hstamp)]
      constructor
      · rintro hlt x ⟨⟩
        exact hlt
      · intro hall
        exact hall t rfl

theorem isDue_iff (hnow : now.IsRepresentable) {n : Node} (hn : n.IsDated) :
    isDue now timeout n = true ↔ IsSilent now timeout n := by
  rw [isDue, Bool.and_eq_true, Bool.and_eq_true, decide_eq_true_iff, Bool.not_eq_true',
    isStale_iff hnow hn]
  constructor
  · rintro ⟨⟨honline, hworker⟩, hsilent⟩
    exact ⟨honline, hworker, hsilent⟩
  · rintro ⟨honline, hworker, hsilent⟩
    exact ⟨⟨honline, hworker⟩, hsilent⟩

/-! ## What a sweep does -/

/-- What a sweep answers and leaves in the store, when it marks certain nodes. -/
structure ExactSweep (s : Store) (now : Instant) (timeout : Nat) (marked : List (ObjectId × Node))
    (answer : Except CoordinationError (List String)) (s' : Store) : Prop where
  increasing : Table.Increasing marked
  mem_iff (id : ObjectId) (n : Node) :
    (id, n) ∈ marked ↔ s.HoldsNode id n ∧ IsSilent now timeout n
  /-- No marking fails. -/
  answer_eq : answer = .ok (marked.map (·.2.key))
  offline (id : ObjectId) (n : Node) (hn : (id, n) ∈ marked) :
    s'.HoldsNode id { n with status := .offline, active := false }
  others (kind : Kind) (i : ObjectId) (hother : kind = .node → ∀ n, (i, n) ∉ marked) :
    s'.find? kind i = s.find? kind i

/-- The nodes that are due, by increasing id. -/
def dueRows (s : Store) (now : Instant) (timeout : Nat) : List (ObjectId × Node) :=
  s.nodeRows.filter fun r => isDue now timeout r.2

theorem mem_dueRows {id : ObjectId} {n : Node} :
    (id, n) ∈ dueRows s now timeout ↔ s.HoldsNode id n ∧ isDue now timeout n = true := by
  rw [dueRows, List.mem_filter, Store.mem_nodeRows]

theorem filter_isDue_nodes (s : Store) (now : Instant) (timeout : Nat) :
    s.nodes.filter (isDue now timeout) = (dueRows s now timeout).map (·.2) := by
  rw [Store.nodes_eq_nodeRows, List.filter_map]
  rfl

section Stored

variable (hstored : ∀ id n, s.HoldsNode id n → n.isStored = true)

include hstored

/-- Of a node that can be written back, a sweep leaves the due ones silenced. -/
theorem swept_of_isDue {id : ObjectId} {n : Node} (hn : s.HoldsNode id n)
    (hdue : isDue now timeout n = true) : swept now timeout n = n.silenced := by
  rw [swept, hdue, hstored id n hn]
  rfl

/-- All nodes that are due are marked. -/
theorem filter_isStored_due :
    ((s.nodes.filter (isDue now timeout)).filter Node.isStored).map (·.key)
      = (dueRows s now timeout).map (·.2.key) := by
  have hall : ∀ n ∈ s.nodes.filter (isDue now timeout), n.isStored = true := by
    intro n hn
    obtain ⟨id, hid⟩ := Store.mem_nodes.mp (List.mem_filter.mp hn).1
    exact hstored id n hid
  rw [List.filter_eq_self.mpr hall, filter_isDue_nodes, List.map_map]
  rfl

theorem Sweeps.exact (hs : s.WellFormed) (hnow : now.IsRepresentable) (hdated : s.IsDated)
    (h : Sweeps now timeout s s') :
    ExactSweep s now timeout (dueRows s now timeout)
      (.ok ((dueRows s now timeout).map (·.2.key))) s' := by
  have hsilent {id : ObjectId} {n : Node} (hn : s.HoldsNode id n) :
      isDue now timeout n = true ↔ IsSilent now timeout n :=
    isDue_iff hnow (hdated id n hn)
  constructor
  · exact s.increasing_nodeRows.filter _
  · intro id n
    rw [mem_dueRows]
    exact and_congr_right hsilent
  · rfl
  · intro id n hn
    obtain ⟨hold, hdue⟩ := mem_dueRows.mp hn
    exact h.holdsNode_iff.mpr ⟨n, hold, swept_of_isDue hstored hold hdue⟩
  · intro kind i hother
    rw [h kind i]
    cases hfound : s.find? kind i with
    | none => rfl
    | some m =>
        cases m with
        | node n =>
            obtain rfl : Kind.node = kind := (hs kind i _ hfound).1
            have hnot : isDue now timeout n = false := by
              rw [← Bool.not_eq_true]
              intro hdue
              exact hother rfl n (mem_dueRows.mpr ⟨hfound, hdue⟩)
            have hsame : swept now timeout n = n := by
              rw [swept, hnot]
              rfl
            rw [Option.map_some, Model.mapNode, hsame]
        | _ => rfl

/-- After a sweep no node is due. -/
theorem Sweeps.filter_isDue (h : Sweeps now timeout s s') :
    s'.nodes.filter (isDue now timeout) = [] := by
  rw [List.filter_eq_nil_iff]
  intro x hx hdue
  obtain ⟨id, hid⟩ := Store.mem_nodes.mp hx
  obtain ⟨n, hn, rfl⟩ := h.holdsNode_iff.mp hid
  -- a node that was due is offline now, and another one is as it was
  by_cases hold : isDue now timeout n = true
  · rw [swept_of_isDue hstored hn hold] at hdue
    cases hdue
  · have hsame : swept now timeout n = n := by
      rw [swept, Bool.eq_false_iff.mpr hold]
      rfl
    rw [hsame] at hdue
    exact hold hdue

end Stored

/-- A sweep at this time has nothing to mark: it answers so, and does nothing. -/
def IsIdle (now : Instant) (timeout : Nat) (b : Backend) : Prop :=
  ∀ ids wall, (run timeout).run.run { b with ids, wall, clock := now }
    = (.ok [], { b with ids, wall, clock := now })

theorem isIdle_of_filter_isDue {b : Backend} (hb : b.IsPlain) (hs : b.store.WellFormed)
    (hnone : b.store.nodes.filter (isDue now timeout) = []) : IsIdle now timeout b := by
  intro ids wall
  rw [run_eq_markAll (b := { b with ids, wall, clock := now }) hb hs, hnone]
  rfl

/-- **Sweeps are exact**, on every store that a session leads to, and a second one at the same
time does nothing. -/
theorem exactSweep_run {xs : List Exchange} {b : Backend} (h : Backend.Session xs b)
    (hdated : b.store.IsDated) (hnow : b.clock.IsRepresentable) (timeout : Nat) :
    ∃ marked,
      ExactSweep b.store b.clock timeout marked ((run timeout).run.run b).1
          ((run timeout).run.run b).2.store ∧
        IsIdle b.clock timeout ((run timeout).run.run b).2 := by
  have hstored : ∀ id n, b.store.HoldsNode id n → n.isStored = true := by
    intro id n hn
    rw [Node.isStored, h.storedId?_eq hn]
    rfl
  have hsweeps : Sweeps b.clock timeout b.store ((run timeout).run.run b).2.store :=
    sweeps_run h.isPlain h.wellFormed timeout
  refine ⟨dueRows b.store b.clock timeout, ?_, ?_⟩
  · rw [answer_run h.isPlain h.wellFormed, filter_isStored_due hstored]
    exact hsweeps.exact hstored h.wellFormed hnow hdated
  · have hplain : ((run timeout).run.run b).2.IsPlain := Routine.isPlain_run _ h.isPlain
    have hwf : ((run timeout).run.run b).2.store.WellFormed := h.wellFormed.run _ h.isPlain
    exact isIdle_of_filter_isDue hplain hwf (hsweeps.filter_isDue hstored)

/-- Two workers that register and are heard of, the second one fifty seconds later; a master; and,
one minute after the first heartbeat, a worker that a delegate call adds as online. -/
def fourNodes : Backend :=
  Master.runTurns Master.freshMaster
    [{ work := .register "w1" {} },
     { work := .heartbeat "w1" },
     { work := .register "w2" {}, ids := { used := 1 } },
     { work := .heartbeat "w2", clock := ⟨50, 0⟩ },
     { work := .upsertMaster { key := "master" }, ids := { used := 2 } },
     { work := .delegate (delegateRequest "w3" .add (.node { key := "w3", status := .online })),
       ids := { used := 3 }, clock := ⟨60, 0⟩ }]

/-- Of four nodes that are online, the worker that was silent for a minute and the one without a
stamp are marked. -/
theorem exactSweep_fourNodes :
    ∃ xs, Backend.Session xs fourNodes ∧ fourNodes.store.IsDated ∧
      fourNodes.clock.IsRepresentable ∧
      fourNodes.store.nodes.map (fun n => (n.key, n.status))
        = [("w1", .online), ("w2", .online), ("master", .online), ("w3", .online)] ∧
      ((run 30).run.run fourNodes).1 = .ok ["w1", "w3"] ∧
      ∃ marked, ExactSweep fourNodes.store fourNodes.clock 30 marked
        ((run 30).run.run fourNodes).1 ((run 30).run.run fourNodes).2.store := by
  obtain ⟨xs, hxs⟩ : ∃ xs, Backend.Session xs fourNodes := Master.session_freshMaster (by decide)
  have hsteady : Master.Steady Master.freshMaster := ⟨rfl, Store.wellFormed_empty⟩
  have hdated : fourNodes.store.IsDated :=
    Master.isDated_runTurns hsteady Store.isDated_empty (by decide)
  have hnow : fourNodes.clock.IsRepresentable := by decide +kernel
  obtain ⟨marked, hexact, -⟩ := exactSweep_run hxs hdated hnow 30
  exact ⟨xs, hxs, hdated, hnow, by decide +kernel, by decide +kernel, marked, hexact⟩

end Sweep
end ControlPlane
