import ControlPlane.Proofs.Backend.Alone
import ControlPlane.Proofs.Backend.Footprint
import Mathlib.Data.List.Dedup
import Mathlib.Data.List.Induction

/-!
# Retained output as a history

What is retained of the output of tasks is determined by the batches that were written, in their
order. The tasks that are kept are the last of all writers, each counted at its last write
(`RetainedOutput.current`). What is kept of a task is the end of what was written to it during its
present *stay*: a stay begins when a task is written to that is not kept, and lasts until so many
other tasks have been written to that it is dropped.

Main statements: one write, for the order of the tasks (`RetainedOutput.order_insert`) and for
their output (`RetainedOutput.Mirrors.insert`), and the run (`Ingest.recalls_of_filed`).
-/

set_option autoImplicit false

namespace ControlPlane

/-- A batch that is written, and its task. -/
abbrev TaskWrite := ObjectId × OutputBatch

namespace OutputBatch

/-- The rows of a batch of rows. -/
def rows : OutputBatch → List ResultRecord
  | records rows => rows
  | logs _ => []

/-- The lines of a batch of lines. -/
def lines : OutputBatch → List String
  | records _ => []
  | logs lines => lines

end OutputBatch

/-! ## The newest items -/

namespace TaskOutput

section Newest

variable {α : Type}

theorem newest_of_length_le {limit : Nat} {as : List α} (h : as.length ≤ limit) :
    newest limit as = as := by
  rw [newest, Nat.sub_eq_zero_of_le h, List.drop_zero]

theorem newest_nil (limit : Nat) : newest limit ([] : List α) = [] :=
  newest_of_length_le (Nat.zero_le _)

/-- What comes before is not among the newest, if there are enough of them. -/
theorem newest_append_of_le {limit : Nat} (as : List α) {bs : List α} (h : limit ≤ bs.length) :
    newest limit (as ++ bs) = newest limit bs := by
  have hlen : (as ++ bs).length - limit = as.length + (bs.length - limit) := by
    rw [List.length_append]
    omega
  rw [newest, hlen, List.drop_length_add_append, newest]

/-- A list is what is not among the newest, followed by the newest. -/
theorem exists_newest (limit : Nat) (as : List α) :
    ∃ older, as = older ++ newest limit as ∧ (older = [] ∨ (newest limit as).length = limit) := by
  refine ⟨as.take (as.length - limit), (List.take_append_drop _ _).symm, ?_⟩
  by_cases h : as.length ≤ limit
  · left
    rw [Nat.sub_eq_zero_of_le h, List.take_zero]
  · right
    rw [newest, List.length_drop]
    omega

/-- Dropping what is too old at once or step by step is the same. -/
theorem newest_newest_append (limit : Nat) (as bs : List α) :
    newest limit (newest limit as ++ bs) = newest limit (as ++ bs) := by
  obtain ⟨older, has, hold⟩ := exists_newest limit as
  rcases hold with rfl | hlen
  · rw [← List.nil_append (newest limit as), ← has]
  · have hle : limit ≤ (newest limit as ++ bs).length := by
      rw [List.length_append, hlen]
      exact Nat.le_add_right _ _
    calc newest limit (newest limit as ++ bs)
        = newest limit (older ++ (newest limit as ++ bs)) := (newest_append_of_le older hle).symm
      _ = newest limit (as ++ bs) := by rw [← List.append_assoc, ← has]

theorem mem_of_mem_newest {limit : Nat} {as : List α} {a : α} (h : a ∈ newest limit as) :
    a ∈ as := List.mem_of_mem_drop h

theorem mem_newest_concat {limit : Nat} (hlimit : limit ≠ 0) (as : List α) (a : α) :
    a ∈ newest limit (as ++ [a]) := by
  have hlen : (as ++ [a]).length - limit ≤ as.length := by
    rw [List.length_append, List.length_singleton]
    omega
  rw [newest, List.drop_append_of_le_length hlen]
  exact List.mem_append_right _ (List.mem_singleton.mpr rfl)

end Newest

variable {o : TaskOutput} {limit : Nat}

/-- A batch of lines leaves the rows alone, and a batch of rows adds to them. -/
theorem records_append {rows : List ResultRecord} (h : o.records = newest limit rows)
    (batch : OutputBatch) : (o.append limit batch).records = newest limit (rows ++ batch.rows) := by
  cases batch with
  | records new =>
      show newest limit (o.records ++ new) = newest limit (rows ++ new)
      rw [h, newest_newest_append]
  | logs new =>
      show o.records = newest limit (rows ++ [])
      rw [h, List.append_nil]

theorem logs_append {lines : List String} (h : o.logs = newest limit lines)
    (batch : OutputBatch) : (o.append limit batch).logs = newest limit (lines ++ batch.lines) := by
  cases batch with
  | records new =>
      show o.logs = newest limit (lines ++ [])
      rw [h, List.append_nil]
  | logs new =>
      show newest limit (o.logs ++ new) = newest limit (lines ++ new)
      rw [h, newest_newest_append]

end TaskOutput

open TaskOutput

/-! ## Writers -/

section Dedup

variable {α : Type} [DecidableEq α]

/-- One more item moves to the end. -/
theorem dedup_concat (as : List α) (a : α) :
    (as ++ [a]).dedup = as.dedup.erase a ++ [a] := by
  induction as with
  | nil => rfl
  | cons x as ih =>
      rw [List.cons_append]
      by_cases hx : x ∈ as
      · rw [List.dedup_cons_of_mem (List.mem_append_left _ hx), List.dedup_cons_of_mem hx, ih]
      · rw [List.dedup_cons_of_notMem hx]
        by_cases hxa : x = a
        · subst hxa
          have hsame : as.dedup.erase x = as.dedup :=
            List.erase_of_not_mem (mt List.mem_dedup.mp hx)
          rw [List.dedup_cons_of_mem (by simp), ih, List.erase_cons_head, hsame]
        · have hnot : x ∉ as ++ [a] := by simp [hx, hxa]
          rw [List.dedup_cons_of_notMem hnot, ih, List.erase_cons_tail (by simpa using hxa),
            List.cons_append]

/-- Moving an item to the end of the newest ones. -/
theorem newest_erase_concat (limit : Nat) {as : List α} (hnodup : as.Nodup) (a : α) :
    newest limit ((newest limit as).erase a ++ [a]) = newest limit (as.erase a ++ [a]) := by
  obtain ⟨older, has, hold⟩ := exists_newest limit as
  rcases hold with rfl | hlen
  · rw [List.nil_append] at has
    rw [← has]
  · -- as many as may be kept are left, with the item at the end or in its old place
    generalize newest limit as = new at has hlen
    subst has
    have hdisjoint := (List.nodup_append.mp hnodup).2.2
    by_cases ha : a ∈ older
    · have hnot : a ∉ new := fun hmem => hdisjoint a ha a hmem rfl
      have hle : limit ≤ (new ++ [a]).length := by
        rw [List.length_append, hlen]
        exact Nat.le_add_right _ _
      rw [List.erase_of_not_mem hnot, List.erase_append_left _ ha, List.append_assoc,
        newest_append_of_le _ hle]
    · have hle : limit ≤ (new.erase a ++ [a]).length := by
        rw [List.length_append, List.length_singleton, List.length_erase]
        split <;> omega
      rw [List.erase_append_right _ ha, List.append_assoc, newest_append_of_le _ hle]

end Dedup

/-! ## Tables -/

namespace Table

variable {κ α : Type} [Ord κ] [DecidableEq κ]

theorem find?_foldl_erase (t : Table κ α) (ks : List κ) (k : κ) :
    (ks.foldl erase t).find? k = if k ∈ ks then none else t.find? k := by
  induction ks generalizing t with
  | nil => rfl
  | cons l ks ih =>
      rw [List.foldl_cons, ih, find?_erase]
      by_cases hk : k ∈ ks
      · simp [hk]
      · by_cases hl : l = k
        · simp [hl]
        · simp [hk, hl, Ne.symm hl]

/-- The keys are those under which the look-up finds something, each once. -/
theorem size_eq_length [Std.LawfulEqOrd κ] {t : Table κ α} {ks : List κ} (hnodup : ks.Nodup)
    (h : ∀ k, (t.find? k).isSome = true ↔ k ∈ ks) : t.size = ks.length := by
  have hkeys : t.keys.Nodup := t.nodup_keys
  have hmem : ∀ k, k ∈ t.keys ↔ k ∈ ks := by
    intro k
    rw [← h k, Option.isSome_iff_exists]
    constructor
    · intro hk
      obtain ⟨⟨l, a⟩, he, rfl⟩ := List.mem_map.mp hk
      exact ⟨a, (mem_entries t l a).mp he⟩
    · rintro ⟨a, ha⟩
      exact List.mem_map.mpr ⟨(k, a), (mem_entries t k a).mpr ha, rfl⟩
  have hperm : t.keys.Perm ks := (List.perm_ext_iff_of_nodup hkeys hnodup).mpr hmem
  have hlen : t.keys.length = t.size := List.length_map _
  rw [← hlen, hperm.length_eq]

end Table

namespace RetainedOutput

/-! ## What is kept, by the writes -/

/-- All tasks that were written to, each at its last write. -/
def writers (ws : List TaskWrite) : List ObjectId := (ws.map (·.1)).dedup

/-- The tasks that are kept: the last writers, as many as may be. -/
def current (limits : Retention) (ws : List TaskWrite) : List ObjectId :=
  if limits.perTask = 0 then [] else newest limits.tasks (writers ws)

/-- What was written to a task, one batch after another. -/
def written {α : Type} (items : OutputBatch → List α) (task : ObjectId) (ws : List TaskWrite) :
    List α := (ws.filter fun w => w.1 = task).flatMap fun w => items w.2

/-- A task was not kept after some writes, and was kept after each of those that followed. -/
structure IsStay (limits : Retention) (task : ObjectId) (before since : List TaskWrite) : Prop where
  absent : task ∉ current limits before
  present : ∀ ws, ws ≠ [] → ws <+: since → task ∈ current limits (before ++ ws)

section Writes

variable {limits : Retention} {task u : ObjectId} {ws before since : List TaskWrite} {w : TaskWrite}

theorem current_of_nothing (h : limits.tasks = 0 ∨ limits.perTask = 0) (ws : List TaskWrite) :
    current limits ws = [] := by
  unfold current
  split
  next => rfl
  next hper =>
    have htasks : limits.tasks = 0 := h.resolve_right hper
    rw [htasks, newest, Nat.sub_zero, List.drop_length]

theorem nodup_current (limits : Retention) (ws : List TaskWrite) : (current limits ws).Nodup := by
  unfold current
  split
  · exact List.nodup_nil
  · exact (List.nodup_dedup _).sublist (List.drop_sublist _ _)

/-- A write makes its task the last. -/
theorem current_concat (hper : limits.perTask ≠ 0) (ws : List TaskWrite) (w : TaskWrite) :
    current limits (ws ++ [w]) = newest limits.tasks ((current limits ws).erase w.1 ++ [w.1]) := by
  unfold current writers
  rw [if_neg hper, if_neg hper, List.map_append, List.map_singleton, dedup_concat,
    newest_erase_concat limits.tasks (List.nodup_dedup _)]

theorem mem_current_concat_self (hper : limits.perTask ≠ 0) (htasks : limits.tasks ≠ 0)
    (ws : List TaskWrite) (w : TaskWrite) : w.1 ∈ current limits (ws ++ [w]) := by
  rw [current_concat hper]
  exact mem_newest_concat htasks _ _

/-- Only its own write brings a task back. -/
theorem mem_current_of_concat (hper : limits.perTask ≠ 0) (hu : w.1 ≠ u)
    (h : u ∈ current limits (ws ++ [w])) : u ∈ current limits ws := by
  rw [current_concat hper] at h
  rcases List.mem_append.mp (mem_of_mem_newest h) with hmem | hmem
  · exact List.mem_of_mem_erase hmem
  · exact absurd (List.mem_singleton.mp hmem).symm hu

theorem written_concat {α : Type} (items : OutputBatch → List α) (task : ObjectId)
    (ws : List TaskWrite) (w : TaskWrite) :
    written items task (ws ++ [w])
      = written items task ws ++ if w.1 = task then items w.2 else [] := by
  unfold written
  rw [List.filter_append, List.flatMap_append]
  by_cases hw : w.1 = task <;> simp [hw]

theorem IsStay.extend (h : IsStay limits task before since)
    (hkept : task ∈ current limits (before ++ (since ++ [w]))) :
    IsStay limits task before (since ++ [w]) where
  absent := h.absent
  present ws hne hws := by
    rcases List.prefix_concat_iff.mp hws with rfl | hws
    · exact hkept
    · exact h.present ws hne hws

/-- A stay begins with a write. -/
theorem IsStay.start (hgone : task ∉ current limits ws)
    (hkept : task ∈ current limits (ws ++ [w])) : IsStay limits task ws [w] where
  absent := hgone
  present xs hne hxs := by
    have hxs : xs <+: [] ++ [w] := hxs
    rcases List.prefix_concat_iff.mp hxs with rfl | hxs
    · exact hkept
    · exact absurd (List.prefix_nil.mp hxs) hne

end Writes

/-! ## One write -/

/-- What is kept is what the writes say. -/
structure Mirrors (limits : Retention) (ws : List TaskWrite) (r : RetainedOutput) : Prop where
  order : r.order = current limits ws
  held : ∀ task, (r.outputs.find? task).isSome = true ↔ task ∈ current limits ws
  stay : ∀ task o, r.outputs.find? task = some o → ∃ before since, ws = before ++ since ∧
    IsStay limits task before since ∧
    o.records = newest limits.perTask (written OutputBatch.rows task since) ∧
    o.logs = newest limits.perTask (written OutputBatch.lines task since)

section Insert

variable {limits : Retention} {r : RetainedOutput} {ws : List TaskWrite}

/-- The task of the write comes last, and the oldest tasks are dropped. -/
theorem order_insert (hper : limits.perTask ≠ 0) (htasks : limits.tasks ≠ 0) (r : RetainedOutput)
    (w : TaskWrite) :
    (r.insert limits w.1 w.2).order = newest limits.tasks (r.order.erase w.1 ++ [w.1]) := by
  rw [insert, if_neg (by simp [hper, htasks])]
  rfl

/-- The outputs after a write: a task that is dropped loses all it had. -/
theorem find?_insert (hper : limits.perTask ≠ 0) (htasks : limits.tasks ≠ 0)
    (hnodup : r.order.Nodup) (hheld : ∀ u, (r.outputs.find? u).isSome = true ↔ u ∈ r.order)
    (w : TaskWrite) (u : ObjectId) :
    (r.insert limits w.1 w.2).outputs.find? u
      = if w.1 = u then some (((r.outputs.find? u).getD {}).append limits.perTask w.2)
        else if u ∈ (r.insert limits w.1 w.2).order then r.outputs.find? u else none := by
  rw [order_insert hper htasks, insert, if_neg (by simp [hper, htasks])]
  -- the tasks in their new order: the dropped ones first, then those that are kept
  generalize hmoved : r.order.erase w.1 ++ [w.1] = moved
  have hsplit : moved = moved.take (moved.length - limits.tasks) ++ newest limits.tasks moved :=
    (List.take_append_drop _ _).symm
  have hmovedNodup : moved.Nodup := by
    rw [← hmoved, List.nodup_append]
    refine ⟨hnodup.erase _, List.nodup_singleton _, ?_⟩
    rintro a ha b hb rfl
    rw [List.mem_singleton.mp hb] at ha
    exact hnodup.not_mem_erase ha
  rw [hsplit] at hmovedNodup
  have hdisjoint := (List.nodup_append.mp hmovedNodup).2.2
  have htouch : ∀ v, (r.touch limits.tasks w.1).outputs.find? v
      = if v ∈ moved.take (moved.length - limits.tasks) then none else r.outputs.find? v := by
    intro v
    rw [← hmoved]
    exact Table.find?_foldl_erase _ _ v
  by_cases hu : w.1 = u
  · subst hu
    have hkept : w.1 ∈ newest limits.tasks moved := by
      rw [← hmoved]
      exact mem_newest_concat htasks _ _
    have hnot : w.1 ∉ moved.take (moved.length - limits.tasks) :=
      fun hmem => hdisjoint _ hmem _ hkept rfl
    rw [if_pos rfl, Table.find?_insert, if_pos rfl, htouch, if_neg hnot]
  · rw [if_neg hu, Table.find?_insert, if_neg hu, htouch]
    by_cases hkept : u ∈ newest limits.tasks moved
    · have hnot : u ∉ moved.take (moved.length - limits.tasks) :=
        fun hmem => hdisjoint _ hmem _ hkept rfl
      rw [if_pos hkept, if_neg hnot]
    · rw [if_neg hkept]
      split
      next => rfl
      next hnot =>
        -- a task that is in neither part was not kept before
        have hnowhere : u ∉ moved := by
          rw [hsplit, List.mem_append]
          exact not_or.mpr ⟨hnot, hkept⟩
        have hgone : u ∉ r.order := by
          intro hmem
          apply hnowhere
          rw [← hmoved]
          exact List.mem_append_left _ ((List.mem_erase_of_ne (Ne.symm hu)).mpr hmem)
        simpa [← hheld u] using hgone

theorem mirrors_empty (limits : Retention) : Mirrors limits [] {} where
  order := by
    unfold current
    split
    · rfl
    · exact (newest_nil _).symm
  held task := by
    unfold current
    split <;> simp [writers, newest_nil]
  stay task o h := by cases h

/-- Where nothing may be kept a write changes nothing. -/
theorem Mirrors.insert_of_nothing (hnothing : limits.tasks = 0 ∨ limits.perTask = 0)
    (h : Mirrors limits ws r) (w : TaskWrite) :
    Mirrors limits (ws ++ [w]) (r.insert limits w.1 w.2) := by
  have hcurrent : current limits (ws ++ [w]) = current limits ws := by
    rw [current_of_nothing hnothing, current_of_nothing hnothing]
  rw [RetainedOutput.insert, if_pos hnothing]
  refine ⟨h.order.trans hcurrent.symm, ?_, ?_⟩
  · intro task
    rw [hcurrent]
    exact h.held task
  · intro task o ho
    have hkept : task ∈ current limits ws := (h.held task).mp (by rw [ho]; rfl)
    rw [current_of_nothing hnothing] at hkept
    cases hkept

/-- **One write.** -/
theorem Mirrors.insert (hper : limits.perTask ≠ 0) (htasks : limits.tasks ≠ 0)
    (h : Mirrors limits ws r) (w : TaskWrite) :
    Mirrors limits (ws ++ [w]) (r.insert limits w.1 w.2) := by
  have hnodup : r.order.Nodup := by
    rw [h.order]
    exact nodup_current limits ws
  have hheld : ∀ u, (r.outputs.find? u).isSome = true ↔ u ∈ r.order := by
    intro u
    rw [h.order]
    exact h.held u
  have horder : (r.insert limits w.1 w.2).order = current limits (ws ++ [w]) := by
    rw [order_insert hper htasks, current_concat hper, h.order]
  have hfind := find?_insert hper htasks hnodup hheld w
  rw [horder] at hfind
  refine ⟨horder, ?_, ?_⟩
  · intro u
    rw [hfind u]
    by_cases hu : w.1 = u
    · subst hu
      simp [mem_current_concat_self hper htasks ws w]
    · rw [if_neg hu]
      by_cases hkept : u ∈ current limits (ws ++ [w])
      · have hold := mem_current_of_concat hper hu hkept
        simp [hkept, (h.held u).mpr hold]
      · simp [hkept]
  · intro u o ho
    rw [hfind u] at ho
    by_cases hu : w.1 = u
    · subst hu
      obtain rfl : ((r.outputs.find? w.1).getD {}).append limits.perTask w.2 = o := by
        simpa using ho
      have hkept := mem_current_concat_self hper htasks ws w
      cases hold : r.outputs.find? w.1 with
      | none =>
          -- the task comes back with nothing
          have hgone : w.1 ∉ current limits ws := by simp [← h.held, hold]
          refine ⟨ws, [w], rfl, .start hgone hkept, ?_, ?_⟩
          · rw [← List.nil_append [w], written_concat, if_pos rfl]
            exact records_append (newest_nil _).symm w.2
          · rw [← List.nil_append [w], written_concat, if_pos rfl]
            exact logs_append (newest_nil _).symm w.2
      | some old =>
          obtain ⟨before, since, rfl, hstay, hrecords, hlogs⟩ := h.stay w.1 old hold
          rw [List.append_assoc] at hkept
          refine ⟨before, since ++ [w], by rw [List.append_assoc], hstay.extend hkept, ?_, ?_⟩
          · rw [written_concat, if_pos rfl]
            exact records_append hrecords w.2
          · rw [written_concat, if_pos rfl]
            exact logs_append hlogs w.2
    · rw [if_neg hu] at ho
      split at ho
      next hkept =>
        obtain ⟨before, since, rfl, hstay, hrecords, hlogs⟩ := h.stay u o ho
        rw [List.append_assoc] at hkept
        refine ⟨before, since ++ [w], by rw [List.append_assoc], hstay.extend hkept, ?_, ?_⟩
        · rw [written_concat, if_neg hu, List.append_nil, hrecords]
        · rw [written_concat, if_neg hu, List.append_nil, hlogs]
      next => cases ho

end Insert

/-! ## Runs -/

/-- What is kept after some writes, as it can be told from outside. -/
structure Recalls (limits : Retention) (ws : List TaskWrite) (r : RetainedOutput) : Prop where
  /-- Where nothing may be kept nothing is. -/
  nothing : limits.tasks = 0 ∨ limits.perTask = 0 →
    r.size = 0 ∧ ∀ task, r.records task = [] ∧ r.logs task = []
  size : r.size = (current limits ws).length
  held : ∀ task, (r.outputs.find? task).isSome = true ↔ task ∈ current limits ws
  /-- Of a task that is kept there are the last rows and the last lines of its stay. -/
  stay : ∀ task ∈ current limits ws, ∃ before since, ws = before ++ since ∧
    IsStay limits task before since ∧
    r.records task = newest limits.perTask (written OutputBatch.rows task since) ∧
    r.logs task = newest limits.perTask (written OutputBatch.lines task since)
  /-- Of any other task there is nothing. -/
  gone : ∀ task, task ∉ current limits ws → r.records task = [] ∧ r.logs task = []

variable {limits : Retention} {r : RetainedOutput} {ws : List TaskWrite}

theorem Mirrors.recalls (h : Mirrors limits ws r) : Recalls limits ws r := by
  have hsize : r.size = (current limits ws).length :=
    Table.size_eq_length (nodup_current limits ws) h.held
  have hgone : ∀ task, task ∉ current limits ws → r.records task = [] ∧ r.logs task = [] := by
    intro task hnot
    have hnone : r.outputs.find? task = none := by simpa [← h.held task] using hnot
    rw [records, logs, hnone]
    exact ⟨rfl, rfl⟩
  refine ⟨?_, hsize, h.held, ?_, hgone⟩
  · intro hnothing
    have hcurrent := current_of_nothing hnothing ws
    rw [hcurrent] at hsize hgone
    exact ⟨hsize, fun task => hgone task List.not_mem_nil⟩
  · intro task hkept
    obtain ⟨o, ho⟩ := Option.isSome_iff_exists.mp ((h.held task).mpr hkept)
    obtain ⟨before, since, hws, hstay, hrecords, hlogs⟩ := h.stay task o ho
    refine ⟨before, since, hws, hstay, ?_, ?_⟩
    · rw [records, ho]
      exact hrecords
    · rw [logs, ho]
      exact hlogs

end RetainedOutput

namespace Ingest

/-- Writing a batch changes what is retained, whatever becomes of the counters. -/
theorem retained_insert (b : Backend) (task : ObjectId) (batch : OutputBatch) :
    ((insert task batch).run.run b).2.retention = b.retention ∧
      ((insert task batch).run.run b).2.retained = b.retained.insert b.retention task batch := by
  have haside := (asksOnly_bump task batch).mono fun _ => Call.IsOfStore.isAside
  have hbump := haside.run (R := fun b b' => b'.surroundings = b.surroundings)
    (fun _ => rfl) (fun h h' => h'.trans h) (fun _ b hc => b.surroundings_perform hc)
    ((Routine.retain task batch).run b).2
  have hinsert : ((insert task batch).run.run b).2
      = ((bump task batch).run.run ((Routine.retain task batch).run b).2).2 := by
    rw [insert, Attempt.run_run_bind, Attempt.run_run_lift]
  rw [hinsert]
  exact ⟨congrArg (·.1) hbump, congrArg (·.2.1) hbump⟩

/-- Batches are written one at a time to a backend that has retained nothing. Between two of them
anything may happen that has nothing to do with retained output. -/
inductive Filed (limits : Retention) : List TaskWrite → Backend → Prop
  | start {b : Backend} (hlimits : b.retention = limits) (hempty : b.retained = {}) :
      Filed limits [] b
  | aside {ws : List TaskWrite} {b b' : Backend} (h : Filed limits ws b)
      (hretention : b'.retention = b.retention) (hretained : b'.retained = b.retained) :
      Filed limits ws b'
  | insert {ws : List TaskWrite} {b : Backend} (h : Filed limits ws b) (task : ObjectId)
      (batch : OutputBatch) :
      Filed limits (ws ++ [(task, batch)]) ((insert task batch).run.run b).2

open RetainedOutput in
theorem Filed.mirrors {limits : Retention} {ws : List TaskWrite} {b : Backend}
    (h : Filed limits ws b) : b.retention = limits ∧ Mirrors limits ws b.retained := by
  induction h with
  | start hlimits hempty =>
      rw [hempty]
      exact ⟨hlimits, mirrors_empty limits⟩
  | aside _ hretention hretained ih => rwa [hretention, hretained]
  | insert _ task batch ih =>
      obtain ⟨hlimits, hmirrors⟩ := ih
      obtain ⟨hretention, hretained⟩ := retained_insert _ task batch
      rw [hretained, hretention, hlimits]
      refine ⟨rfl, ?_⟩
      by_cases hnothing : limits.tasks = 0 ∨ limits.perTask = 0
      · exact hmirrors.insert_of_nothing hnothing (task, batch)
      · obtain ⟨htasks, hper⟩ := not_or.mp hnothing
        exact hmirrors.insert hper htasks (task, batch)

open RetainedOutput in
/-- **Retained output is a function of the writes.** After every sequence of writes, under any
limits, the tasks that wrote last are kept, each with the newest rows and the newest lines of its
present stay, and of all others nothing is. -/
theorem recalls_of_filed {limits : Retention} {ws : List TaskWrite} {b : Backend}
    (h : Filed limits ws b) : Recalls limits ws b.retained := h.mirrors.2.recalls

/-- Two lines of one task are kept. The first task is written to, another takes its place, and the
first comes back. -/
def returning : List TaskWrite :=
  let first := ObjectId.generated 1 0 1
  let second := ObjectId.generated 1 0 2
  [(first, .logs ["a"]), (second, .logs ["b"]), (first, .logs ["c"]), (first, .logs ["d", "e"])]

/-- The task that came back has lost what it had, and has the newest of its new lines. -/
theorem recalls_returning : ∃ b : Backend, Filed ⟨2, 1⟩ returning b ∧
    RetainedOutput.current ⟨2, 1⟩ returning = [ObjectId.generated 1 0 1] ∧
    b.retained.logs (ObjectId.generated 1 0 1) = ["d", "e"] ∧
    b.retained.logs (ObjectId.generated 1 0 2) = [] := by
  have hstart : Filed ⟨2, 1⟩ [] { wall := .epoch, clock := .epoch, retention := ⟨2, 1⟩ } :=
    .start rfl rfl
  have hfiled := (((hstart.insert (.generated 1 0 1) (.logs ["a"])).insert (.generated 1 0 2)
    (.logs ["b"])).insert (.generated 1 0 1) (.logs ["c"])).insert (.generated 1 0 1)
    (.logs ["d", "e"])
  have hcurrent : RetainedOutput.current ⟨2, 1⟩ returning = [ObjectId.generated 1 0 1] := by
    decide +kernel
  have hrecalls := recalls_of_filed hfiled
  refine ⟨_, hfiled, hcurrent, by decide +kernel, ?_⟩
  have hgone : ObjectId.generated 1 0 2 ∉ RetainedOutput.current ⟨2, 1⟩ returning := by
    rw [hcurrent]
    decide +kernel
  exact (hrecalls.gone _ hgone).2

end Ingest

end ControlPlane
