import ControlPlane.Proofs.Delegate.Effect
import ControlPlane.Proofs.Node.Coordination
import Mathlib.Data.List.Induction
import Mathlib.Data.List.Infix

/-!
# Are keys unique?

The master is asked for one thing after another: registrations, heartbeats, sweeps, its own record
and delegate calls. All but one keep the keys of nodes unique. The exception is a delegate call
that saves a stored node under the key of another one, which nothing refuses; keys are unique
along a run exactly when no such call is in it (`Master.keysUnique_iff_no_clash`).
-/

set_option autoImplicit false

namespace ControlPlane.Master

/-! ## Runs -/

/-- What the master is asked for. -/
inductive Work where
  | register (nodeKey : String) (info : NodeInfo)
  | heartbeat (key : String)
  | sweep (timeout : Nat)
  | upsertMaster (n : Node)
  | delegate (r : Request)

/-- The backend after the work was done. -/
def Work.finish (b : Backend) : Work → Backend
  | register nodeKey info => ((Coordination.register nodeKey info).run.run b).2
  | heartbeat key => ((Coordination.heartbeat key).run.run b).2
  | sweep timeout => ((Sweep.run timeout).run.run b).2
  | upsertMaster n => ((Directory.upsertMaster n).run.run b).2
  | delegate r => ((Delegate.handle r).run b).2

/-- One piece of work, with the ids at hand and the time when it is done. -/
structure Turn where
  work : Work
  ids : IdSupply := {}
  wall : Instant := .epoch
  clock : Instant := .epoch

def Turn.take (b : Backend) (t : Turn) : Backend :=
  t.work.finish { b with ids := t.ids, wall := t.wall, clock := t.clock }

/-- The backend after a run. -/
def runTurns (b : Backend) (ts : List Turn) : Backend := ts.foldl Turn.take b

theorem runTurns_concat (b : Backend) (ts : List Turn) (t : Turn) :
    runTurns b (ts ++ [t]) = t.take (runTurns b ts) := by
  rw [runTurns, List.foldl_append]
  rfl

/-- A stored node would be saved under the key of another stored node. -/
def IsClash (s : Store) (method : DelegateMethod) (m : Model) : Prop :=
  method = .save ∧ (∃ id, m.storedId? = some id ∧ (s.find? m.kind id).isSome = true) ∧ s.Clashes m

theorem not_isClash {s : Store} {method : DelegateMethod} (h : method ≠ .save) (m : Model) :
    ¬ IsClash s method m := by
  rintro ⟨hsave, -⟩
  exact h hsave

/-- The work is a delegate call that asks for that. -/
def Work.Clashes (s : Store) (w : Work) : Prop :=
  ∃ r method m, w = .delegate r ∧ Delegate.demand? r = some (method, m) ∧ IsClash s method m

/-! ## One piece of work -/

/-- What every piece of work keeps. -/
structure Steady (b : Backend) : Prop where
  plain : b.IsPlain
  wellFormed : b.store.WellFormed

/-- A routine that keeps the discipline of nodes keeps keys unique when it runs alone. -/
theorem steady_of_safe {α : Type} {r : Routine α} {b : Backend} (h : Steady b)
    (hu : b.store.KeysUnique)
    (hr : r.Safe (nodeDiscipline False) (fun _ _ => True) b.store) :
    Steady (r.run b).2 ∧ (r.run b).2.store.KeysUnique := by
  have hinv : (nodeDiscipline False).inv b.store := ⟨h.wellFormed, hu, False.elim⟩
  obtain ⟨hplain, ⟨hwf, hu', -⟩, -, -⟩ := hr.run (fun _ _ => False.elim) h.plain hinv
    ((nodeDiscipline False).refl _) fun _ _ _ _ _ => trivial
  exact ⟨⟨hplain, hwf⟩, hu'⟩

/-- The direct call of a delegate call keeps keys unique unless it clashes. -/
theorem steady_direct {b : Backend} (h : Steady b) (hu : b.store.KeysUnique)
    (method : DelegateMethod) (m : Model) :
    Steady (Delegate.direct b method m).2 ∧
      ((Delegate.direct b method m).2.store.KeysUnique ↔ ¬ IsClash b.store method m) := by
  have hplain := Delegate.isPlain_direct h.plain method m
  -- where the store stays as it is, or the method is not `save`, there is no clash
  have hsame (b' : Backend) (hb' : b'.store = b.store) (hno : ¬ IsClash b.store method m) :
      b'.store.WellFormed ∧ (b'.store.KeysUnique ↔ ¬ IsClash b.store method m) := by
    rw [hb']
    exact ⟨h.wellFormed, fun _ => hno, fun _ => hu⟩
  suffices hstore : (Delegate.direct b method m).2.store.WellFormed ∧
      ((Delegate.direct b method m).2.store.KeysUnique ↔ ¬ IsClash b.store method m) from
    ⟨⟨hplain, hstore.1⟩, hstore.2⟩
  cases method with
  | add =>
      have hno : ¬ IsClash b.store .add m := not_isClash (by decide) m
      simp only [Delegate.direct, Backend.add]
      cases hadd : b.store.add b.ids.next b.wall m with
      | error e => exact hsame b rfl hno
      | ok p => exact ⟨h.wellFormed.add hadd, fun _ => hno, fun _ => hu.add h.wellFormed hadd⟩
  | save =>
      simp only [Delegate.direct, Backend.save]
      cases hsave : b.store.save b.wall m with
      | error e =>
          refine hsame b rfl ?_
          rintro ⟨-, ⟨id, hid, hthere⟩, -⟩
          rw [Store.save_eq_ok.mpr ⟨id, hid, hthere, rfl, rfl⟩] at hsave
          cases hsave
      | ok p =>
          obtain ⟨saved, s'⟩ := p
          obtain ⟨id, hid, hthere, -, -⟩ := Store.save_eq_ok.mp hsave
          refine ⟨h.wellFormed.save hsave, ?_⟩
          show s'.KeysUnique ↔ _
          rw [Store.keysUnique_of_save_iff hu hsave, IsClash]
          exact not_congr ⟨fun hc => ⟨rfl, ⟨id, hid, hthere⟩, hc⟩, fun hc => hc.2.2⟩
  | delete =>
      have hno : ¬ IsClash b.store .delete m := not_isClash (by decide) m
      simp only [Delegate.direct, Backend.delete]
      cases m.storedId? with
      | none => exact hsame b rfl hno
      | some id =>
          dsimp only
          cases hdel : b.store.delete b.wall m.kind id with
          | error e => exact hsame b rfl hno
          | ok s' => exact ⟨h.wellFormed.delete hdel, fun _ => hno, fun _ => hu.delete hdel⟩
  | refresh =>
      refine hsame _ ?_ (not_isClash (by decide) m)
      simp only [Delegate.direct]
      cases m.storedId? <;> rfl
  | getDerived =>
      refine hsame _ ?_ (not_isClash (by decide) m)
      simp only [Delegate.direct]
      cases m.storedId? <;> rfl

theorem not_clashes {w : Work} (h : ∀ r, w ≠ .delegate r) (s : Store) : ¬ w.Clashes s := by
  rintro ⟨r, -, -, hwork, -⟩
  exact h r hwork

/-- A delegate call clashes when what is demanded does. -/
theorem clashes_delegate {s : Store} {r : Request} :
    (Work.delegate r).Clashes s ↔
      ∃ method m, Delegate.demand? r = some (method, m) ∧ IsClash s method m := by
  constructor
  · rintro ⟨r', method, m, hwork, hdemand, hclash⟩
    cases hwork
    exact ⟨method, m, hdemand, hclash⟩
  · rintro ⟨method, m, hdemand, hclash⟩
    exact ⟨r, method, m, rfl, hdemand, hclash⟩

/-- A request keeps keys unique unless its direct call clashes. -/
theorem steady_handle {b : Backend} (h : Steady b) (hu : b.store.KeysUnique) (r : Request) :
    Steady ((Delegate.handle r).run b).2 ∧
      (((Delegate.handle r).run b).2.store.KeysUnique ↔ ¬ (Work.delegate r).Clashes b.store) := by
  rw [clashes_delegate]
  cases hdemand : Delegate.demand? r with
  | none =>
      obtain ⟨ledger, hend⟩ := Delegate.handle_sameButLedger b hdemand
      rw [hend]
      refine ⟨⟨h.plain, h.wellFormed⟩, ?_⟩
      simpa using hu
  | some demand =>
      obtain ⟨method, m⟩ := demand
      obtain ⟨-, ledger, hend⟩ := Delegate.run_handle h.plain hdemand
      obtain ⟨⟨hplain, hwf⟩, hiff⟩ := steady_direct h hu method m
      rw [hend]
      refine ⟨⟨hplain, hwf⟩, ?_⟩
      simpa using hiff

/-- **One piece of work.** It keeps keys unique exactly when it is no clash. -/
theorem steady_take {b : Backend} (h : Steady b) (hu : b.store.KeysUnique) (t : Turn) :
    Steady (t.take b) ∧ ((t.take b).store.KeysUnique ↔ ¬ t.work.Clashes b.store) := by
  obtain ⟨work, ids, wall, clock⟩ := t
  have h : Steady { b with ids, wall, clock } := ⟨h.plain, h.wellFormed⟩
  -- whatever is no delegate call keeps the discipline of nodes
  have halone {α : Type} {r : Routine α} (hwork : ∀ r, work ≠ .delegate r)
      (hr : r.Safe (nodeDiscipline False) (fun _ _ => True) b.store) :
      Steady (r.run { b with ids, wall, clock }).2 ∧
        ((r.run { b with ids, wall, clock }).2.store.KeysUnique ↔ ¬ work.Clashes b.store) := by
    obtain ⟨hsteady, hunique⟩ := steady_of_safe h hu hr
    exact ⟨hsteady, fun _ => not_clashes hwork b.store, fun _ => hunique⟩
  cases work with
  | register nodeKey info =>
      exact halone (fun _ => nofun) (Coordination.safe_register.weaken fun _ _ _ _ => trivial)
  | heartbeat key => exact halone (fun _ => nofun) Coordination.safe_heartbeat
  | sweep timeout => exact halone (fun _ => nofun) Sweep.safe_run
  | upsertMaster n => exact halone (fun _ => nofun) Directory.safe_upsertMaster
  | delegate r => exact steady_handle h hu r

/-! ## Runs of the master -/

/-- **Unique keys along a run.** From an empty store on, keys are unique after every part of a run
exactly when no work of the run clashes with the store that it finds. -/
theorem keysUnique_iff_no_clash {b : Backend} (hplain : b.IsPlain) (hempty : b.store = {})
    (ts : List Turn) :
    (∀ us, us <+: ts → (runTurns b us).store.KeysUnique) ↔
      ∀ us t, us ++ [t] <+: ts → ¬ t.work.Clashes (runTurns b us).store := by
  have hstart : Steady b ∧ b.store.KeysUnique := by
    refine ⟨⟨hplain, ?_⟩, ?_⟩
    · rw [hempty]
      exact Store.wellFormed_empty
    · rw [hempty]
      exact Store.keysUnique_empty
  constructor
  · intro hall
    -- as long as keys are unique, the store is steady
    have hsteady : ∀ us, us <+: ts → Steady (runTurns b us) := by
      intro us
      induction us using List.reverseRecOn with
      | nil => exact fun _ => hstart.1
      | append_singleton us t ih =>
          intro hus
          have hbefore : us <+: ts := (List.prefix_append us [t]).trans hus
          rw [runTurns_concat]
          exact (steady_take (ih hbefore) (hall us hbefore) t).1
    intro us t hus
    have hbefore : us <+: ts := (List.prefix_append us [t]).trans hus
    have hafter := hall _ hus
    rw [runTurns_concat] at hafter
    exact (steady_take (hsteady us hbefore) (hall us hbefore) t).2.mp hafter
  · intro hall
    have hkept : ∀ us, us <+: ts → Steady (runTurns b us) ∧ (runTurns b us).store.KeysUnique := by
      intro us
      induction us using List.reverseRecOn with
      | nil => exact fun _ => hstart
      | append_singleton us t ih =>
          intro hus
          obtain ⟨hsteady, hunique⟩ := ih ((List.prefix_append us [t]).trans hus)
          obtain ⟨hnext, hiff⟩ := steady_take hsteady hunique t
          rw [runTurns_concat]
          exact ⟨hnext, hiff.mpr (hall us t hus)⟩
    exact fun us hus => (hkept us hus).2

/-! ### A clash -/

/-- A master that nobody has asked for anything. -/
def freshMaster : Backend := { wall := .epoch, clock := .epoch }

/-- Two workers register, under keys of their own. -/
def twoWorkers : List Turn :=
  [{ work := .register "w1" {} }, { work := .register "w2" {}, ids := { used := 1 } }]

theorem keysUnique_twoWorkers :
    freshMaster.IsPlain ∧ freshMaster.store = {} ∧
      ∀ us, us <+: twoWorkers → (runTurns freshMaster us).store.KeysUnique := by
  refine ⟨rfl, rfl, (keysUnique_iff_no_clash (b := freshMaster) rfl rfl twoWorkers).mpr ?_⟩
  rintro us t hus ⟨r, -, -, hwork, -⟩
  -- a registration is no delegate call
  have hmem : t ∈ twoWorkers := hus.subset (List.mem_append_right us List.mem_cons_self)
  simp only [twoWorkers, List.mem_cons, List.not_mem_nil, or_false] at hmem
  rcases hmem with rfl | rfl <;> cases hwork

/-- The record of the first worker, under the key of which the second one saves its own. -/
def firstWorker : Node :=
  { id := some (IdSupply.id {} 1), key := "w1", name := "w1", status := .registered, active := true,
    enabled := true }

def rival : Node := { id := some (IdSupply.id {} 2), key := "w1" }

/-- The two workers, and then the second under the key of the first. -/
def rivalry : List Turn :=
  twoWorkers ++ [{ work := .delegate (delegateRequest "w2" .save (.node rival)) }]

theorem not_keysUnique_rivalry : ¬ (runTurns freshMaster rivalry).store.KeysUnique := by
  intro h
  have hfirst : (runTurns freshMaster rivalry).store.find? .node (IdSupply.id {} 1)
      = some (.node firstWorker) := by decide +kernel
  have hrival : (runTurns freshMaster rivalry).store.find? .node (IdSupply.id {} 2)
      = some (.node rival) := by decide +kernel
  exact absurd (h _ _ _ _ hfirst hrival (by decide) rfl) (by decide)

end ControlPlane.Master
