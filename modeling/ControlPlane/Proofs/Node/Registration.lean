import ControlPlane.Proofs.Node.Effect
import ControlPlane.Proofs.Node.Order
import ControlPlane.Proofs.Node.Race
import ControlPlane.Proofs.Node.Reachable

/-!
# Registrations are exact, and can be repeated

A registration that is served alone, on a store where keys are unique, is decided by what it says
and by the node that has its key: masters are refused, in the request and in the store, a known
worker keeps all of its record but the status, and an unknown one gets a record of its own, unless
the id at hand is in use. Nothing else changes in the store. A registration that succeeded gives the
same node again, and then changes no record at all (`Coordination.exactRegistration_run`).
-/

set_option autoImplicit false

namespace ControlPlane

/-- Under unique keys, the node that is found under a key is the only one that has it. -/
theorem Store.KeysUnique.holdsOnly {s : Store} (hunique : s.KeysUnique) {key : String}
    (hkey : key ≠ "") {id : ObjectId} {n : Node} (hn : s.HoldsNode id n) (hkeyOf : n.key = key) :
    s.HoldsOnly key id n := by
  refine ⟨hn, hkeyOf, ?_⟩
  intro i x hx hxkey
  exact hunique i x id n hx hn (hxkey ▸ hkey) (hxkey.trans hkeyOf.symm)

namespace Coordination

/-- What an admissible registration under a key answers, and what it leaves in the store. -/
structure ExactUpsert (s : Store) (key : String) (info : NodeInfo) (fresh : ObjectId)
    (answer : Except CoordinationError Node) (s' : Store) : Prop where
  master (id : ObjectId) (old : Node) (hold : s.HoldsNode id old) (hkey : old.key = key)
    (hmaster : old.isMaster = true) : answer = .error (.notAllowed key)
  /-- A worker that is known keeps its record but for the status. -/
  known (id : ObjectId) (old : Node) (hold : s.HoldsNode id old) (hkey : old.key = key)
    (hworker : old.isMaster = false) :
    answer = .ok { old with status := .registered, active := true } ∧
      s.Puts id (.node { old with status := .registered, active := true }) s'
  /-- One that is not known gets a record, under an id that was not in use. -/
  unknown (hnone : ∀ id x, s.HoldsNode id x → x.key ≠ key) (hfree : s.find? .node fresh = none) :
    ∃ new : Node,
      new = { id := some fresh, key, name := if info.name = "" then key else info.name,
              ip := info.ip, hostname := info.hostname, description := info.description,
              isMaster := false, maxRunners := info.maxRunners, status := .registered,
              active := true, enabled := true, activeAt := none } ∧
        answer = .ok new ∧ s.Puts fresh (.node new) s'
  /-- No record is written over: an id at hand that is in use stops the registration. -/
  inUse (hnone : ∀ id x, s.HoldsNode id x → x.key ≠ key) (hused : s.find? .node fresh ≠ none) :
    answer = .error (.store (.duplicate .node fresh))

/-- What a registration answers, and what it leaves in the store. -/
structure ExactRegistration (s : Store) (nodeKey : String) (info : NodeInfo) (fresh : ObjectId)
    (answer : Except CoordinationError Node) (s' : Store) : Prop where
  masterInfo (hmaster : info.isMaster = true) : answer = .error (.notAllowed info.key)
  anonymous (hworker : info.isMaster = false) (hkey : nodeKey = "" ∧ info.key = "") :
    answer = .error .missingIdentity
  upsert (hworker : info.isMaster = false) (hkey : ¬ (nodeKey = "" ∧ info.key = "")) :
    ExactUpsert s (if nodeKey = "" then info.key else nodeKey) info fresh answer s'
  refused (e : CoordinationError) (he : answer = .error e) : s' = s

/-- The registration succeeded with a node: whenever it is repeated, it gives the node again and
leaves every record as it is. -/
def Repeats (nodeKey : String) (info : NodeInfo) (n : Node) (b : Backend) : Prop :=
  ∀ ids wall clock, ∃ b', (register nodeKey info).run.run { b with ids, wall, clock } = (.ok n, b') ∧
    ∀ kind i, b'.store.find? kind i = b.store.find? kind i

variable {s s' : Store} {nodeKey : String} {info : NodeInfo} {fresh : ObjectId}
  {answer : Except CoordinationError Node}

theorem effectiveKey_eq_empty : effectiveKey nodeKey info = "" ↔ nodeKey = "" ∧ info.key = "" := by
  rw [effectiveKey]
  split
  next hempty => exact (and_iff_right hempty).symm
  next hne => exact iff_of_false hne fun h => hne h.1

/-! ## The cases of a registration -/

/-- Nothing more is to be shown of a registration that is not admissible. -/
theorem exactRegistration_of_inadmissible {e : CoordinationError}
    (hmaster : info.isMaster = true → e = .notAllowed info.key)
    (hempty : info.isMaster = false → e = .missingIdentity ∧ effectiveKey nodeKey info = "") :
    ExactRegistration s nodeKey info fresh (.error e) s := by
  constructor
  · intro h
    rw [hmaster h]
  · intro h _
    rw [(hempty h).1]
  · intro h hkey
    exact absurd (effectiveKey_eq_empty.mp (hempty h).2) hkey
  · intro _ _
    rfl

/-- Of one that is admissible, it is to be shown what it does with the record under its key. -/
theorem exactRegistration_of_admissible (hadm : Admissible nodeKey info)
    (h : ExactUpsert s (effectiveKey nodeKey info) info fresh answer s')
    (hrefused : ∀ e, answer = .error e → s' = s) :
    ExactRegistration s nodeKey info fresh answer s' := by
  obtain ⟨hworker, hkey⟩ := hadm
  constructor
  · intro hmaster
    rw [hworker] at hmaster
    cases hmaster
  · intro _ hempty
    exact absurd (effectiveKey_eq_empty.mpr hempty) hkey
  · intro _ _
    exact h
  · exact hrefused

section Known

variable {key : String} {id : ObjectId} {old : Node}

theorem exactUpsert_of_master (hold : s.HoldsOnly key id old) (hmaster : old.isMaster = true) :
    ExactUpsert s key info fresh (.error (.notAllowed key)) s' := by
  constructor
  · intro _ _ _ _ _
    rfl
  · intro i x hx hkey hworker
    obtain ⟨rfl, rfl⟩ := hold.unique hx hkey
    rw [hmaster] at hworker
    cases hworker
  · intro hnone
    exact absurd hold.key_eq (hnone id old hold.holds)
  · intro hnone
    exact absurd hold.key_eq (hnone id old hold.holds)

theorem exactUpsert_of_worker (hold : s.HoldsOnly key id old) (hworker : old.isMaster = false)
    (hput : s.Puts id (.node old.renewed) s') :
    ExactUpsert s key info fresh (.ok old.renewed) s' := by
  constructor
  · intro i x hx hkey hmaster
    obtain ⟨rfl, rfl⟩ := hold.unique hx hkey
    rw [hworker] at hmaster
    cases hmaster
  · intro i x hx hkey _
    obtain ⟨rfl, rfl⟩ := hold.unique hx hkey
    exact ⟨rfl, hput⟩
  · intro hnone
    exact absurd hold.key_eq (hnone id old hold.holds)
  · intro hnone
    exact absurd hold.key_eq (hnone id old hold.holds)

end Known

/-- Where no node is found, it is to be shown what becomes of the one that is to be added. -/
theorem exactUpsert_of_unknown {key : String} (hfound : s.nodeUnder? key = none)
    (hunknown : s.find? .node fresh = none →
      answer = .ok { newcomer key info with id := some fresh } ∧
        s.Puts fresh (.node { newcomer key info with id := some fresh }) s')
    (hinUse : s.find? .node fresh ≠ none → answer = .error (.store (.duplicate .node fresh))) :
    ExactUpsert s key info fresh answer s' := by
  have hnone : ∀ id x, s.HoldsNode id x → x.key ≠ key := Store.nodeUnder?_eq_none.mp hfound
  constructor
  · intro id old hold hkey
    exact absurd hkey (hnone id old hold)
  · intro id old hold hkey
    exact absurd hkey (hnone id old hold)
  · intro _ hfree
    exact ⟨_, rfl, hunknown hfree⟩
  · intro _ hused
    exact hinUse hused

/-- What is asked of the store before a registration: keys are unique, and every node can be written
back. -/
structure Ready (s : Store) : Prop where
  wellFormed : s.WellFormed
  unique : s.KeysUnique
  stored : ∀ id n, s.HoldsNode id n → (Model.node n).storedId? = some id

theorem Ready.holdsOnly (h : Ready s) (hadm : Admissible nodeKey info) {old : Node}
    (hfound : s.nodeUnder? (effectiveKey nodeKey info) = some old) :
    ∃ id, s.HoldsOnly (effectiveKey nodeKey info) id old ∧
      (Model.node old).storedId? = some id := by
  obtain ⟨id, -, hold, hkey⟩ := h.wellFormed.of_nodeUnder? hfound
  exact ⟨id, h.unique.holdsOnly hadm.2 hold hkey, h.stored id old hold⟩

theorem RegistrationEnds.exact (hs : Ready s)
    (h : RegistrationEnds s nodeKey info fresh answer s') :
    ExactRegistration s nodeKey info fresh answer s' := by
  cases h with
  | masterInfo hmaster =>
      refine exactRegistration_of_inadmissible (fun _ => rfl) fun hworker => ?_
      rw [hmaster] at hworker
      cases hworker
  | anonymous hworker hkey =>
      refine exactRegistration_of_inadmissible (fun hmaster => ?_) fun _ => ⟨rfl, hkey⟩
      rw [hworker] at hmaster
      cases hmaster
  | masterKey hadm hfound hmaster =>
      obtain ⟨id, hold, -⟩ := hs.holdsOnly hadm hfound
      exact exactRegistration_of_admissible hadm (exactUpsert_of_master hold hmaster) fun _ _ => rfl
  | missingId hadm hfound hworker hid =>
      obtain ⟨id, -, hstored⟩ := hs.holdsOnly hadm hfound
      rw [hid] at hstored
      cases hstored
  | @renewed old i _ hadm hfound hworker hid hput =>
      obtain ⟨id, hold, hstored⟩ := hs.holdsOnly hadm hfound
      obtain rfl : id = i := Option.some.inj (hstored.symm.trans hid)
      exact exactRegistration_of_admissible hadm (exactUpsert_of_worker hold hworker hput) nofun
  | inUse hadm hfound hused =>
      have hupsert : ExactUpsert s _ info fresh (.error (.store (.duplicate .node fresh))) s :=
        exactUpsert_of_unknown hfound (fun hfree => absurd hfree hused) fun _ => rfl
      exact exactRegistration_of_admissible hadm hupsert fun _ _ => rfl
  | created hadm hfound hfree hnew hput =>
      subst hnew
      have hupsert := exactUpsert_of_unknown hfound (fun _ => ⟨rfl, hput⟩)
        fun hused => absurd hfree hused
      exact exactRegistration_of_admissible hadm hupsert nofun

/-! ## Repetitions -/

/-- The only node with a key is a worker that has just registered, and can be written back. -/
structure IsSettled (s : Store) (key : String) (n : Node) : Prop where
  holds : ∃ id, s.HoldsOnly key id n ∧ (Model.node n).storedId? = some id
  isWorker : n.isMaster = false
  renewed : n.renewed = n

/-- After a registration that succeeded, the node is settled, if its id is not the one that stands
for none. -/
theorem RegistrationEnds.isSettled (hs : Ready s) {n : Node} (hid : (Model.node n).storedId? ≠ none)
    (h : RegistrationEnds s nodeKey info fresh (.ok n) s') :
    Admissible nodeKey info ∧ IsSettled s' (effectiveKey nodeKey info) n := by
  cases h with
  | @renewed old i _ hadm hfound hworker hold? hput =>
      obtain ⟨id, hold, hstored⟩ := hs.holdsOnly hadm hfound
      obtain rfl : id = i := Option.some.inj (hstored.symm.trans hold?)
      have honly : s'.HoldsOnly old.key id old.renewed :=
        hput.holdsOnly fun j x hx hkey => hold.only j x hx (hkey.trans hold.key_eq)
      rw [hold.key_eq] at honly
      exact ⟨hadm, ⟨id, honly, hold?⟩, hworker, rfl⟩
  | @created new _ hadm hfound hfree hnew hput =>
      subst hnew
      have hnone := Store.nodeUnder?_eq_none.mp hfound
      have honly : s'.HoldsOnly (effectiveKey nodeKey info) fresh
          { newcomer (effectiveKey nodeKey info) info with id := some fresh } :=
        hput.holdsOnly fun j x hx hkey => absurd hkey (hnone j x hx)
      obtain ⟨i, hi⟩ := Option.ne_none_iff_exists'.mp hid
      obtain ⟨hsame, hnonzero⟩ := Model.storedId?_eq_some.mp hi
      obtain rfl : fresh = i := Option.some.inj hsame
      exact ⟨hadm, ⟨fresh, honly, Model.storedId?_eq_some.mpr ⟨rfl, hnonzero⟩⟩, rfl, rfl⟩

/-- Where the node is settled, a registration under its key writes what is there already. -/
theorem RegistrationEnds.of_isSettled (hs : s.WellFormed) (hadm : Admissible nodeKey info)
    {n : Node} (hn : IsSettled s (effectiveKey nodeKey info) n)
    (h : RegistrationEnds s nodeKey info fresh answer s') :
    answer = .ok n ∧ ∀ kind i, s'.find? kind i = s.find? kind i := by
  obtain ⟨id, hold, hstored⟩ := hn.holds
  have hunder : s.nodeUnder? (effectiveKey nodeKey info) = some n := hold.nodeUnder? hs
  cases h with
  | masterInfo hmaster => exact absurd hadm.1 (by simp [hmaster])
  | anonymous hworker hkey => exact absurd hkey hadm.2
  | masterKey _ hfound hmaster =>
      obtain rfl := Option.some.inj (hunder.symm.trans hfound)
      exact absurd hn.isWorker (by simp [hmaster])
  | missingId _ hfound hworker hid =>
      obtain rfl := Option.some.inj (hunder.symm.trans hfound)
      rw [hid] at hstored
      cases hstored
  | @renewed old i _ _ hfound hworker hid hput =>
      obtain rfl : n = old := Option.some.inj (hunder.symm.trans hfound)
      obtain rfl : id = i := Option.some.inj (hstored.symm.trans hid)
      rw [hn.renewed] at hput ⊢
      refine ⟨rfl, fun kind i => ?_⟩
      rw [hput kind i]
      split
      next hat =>
        obtain ⟨rfl, rfl⟩ := hat
        exact hold.holds.symm
      next => rfl
  | inUse _ hfound =>
      rw [hunder] at hfound
      cases hfound
  | created _ hfound =>
      rw [hunder] at hfound
      cases hfound

/-- A registration that succeeded can be repeated. -/
theorem repeats_of_ok {b : Backend} (hb : b.IsPlain) (hs : Ready b.store) {n : Node}
    (hok : ((register nodeKey info).run.run b).1 = .ok n) (hid : (Model.node n).storedId? ≠ none) :
    Repeats nodeKey info n ((register nodeKey info).run.run b).2 := by
  intro ids wall clock
  have hfirst := register_ends hb hs.wellFormed nodeKey info
  rw [hok] at hfirst
  obtain ⟨hadm, hsettled⟩ := hfirst.isSettled hs hid
  have hplain : ((register nodeKey info).run.run b).2.IsPlain := Routine.isPlain_run _ hb
  have hwf : ((register nodeKey info).run.run b).2.store.WellFormed := hs.wellFormed.run _ hb
  generalize ((register nodeKey info).run.run b).2 = mid at hsettled hplain hwf
  have hsecond := register_ends (b := { mid with ids, wall, clock }) hplain hwf nodeKey info
  obtain ⟨hanswer, hfind⟩ := hsecond.of_isSettled hwf hadm hsettled
  exact ⟨_, Prod.ext hanswer rfl, hfind⟩

/-! ## Registrations -/

/-- **Registrations are exact, and can be repeated**, on every store with unique keys that a
session leads to. Only a node that was added under the id that stands for none could not be written
again. -/
theorem exactRegistration_run {xs : List Exchange} {b : Backend} (h : Backend.Session xs b)
    (hunique : b.store.KeysUnique) (nodeKey : String) (info : NodeInfo) :
    ExactRegistration b.store nodeKey info b.ids.next ((register nodeKey info).run.run b).1
        ((register nodeKey info).run.run b).2.store ∧
      ∀ n, ((register nodeKey info).run.run b).1 = .ok n → (Model.node n).storedId? ≠ none →
        Repeats nodeKey info n ((register nodeKey info).run.run b).2 := by
  have hs : Ready b.store := ⟨h.wellFormed, hunique, fun id n hn => h.storedId?_eq hn⟩
  constructor
  · exact (register_ends h.isPlain h.wellFormed nodeKey info).exact hs
  · intro n hok hid
    exact repeats_of_ok h.isPlain hs hok hid

/-- A worker has registered and was heard of one minute after the epoch. -/
def heardWorker : Backend :=
  Master.runTurns Master.freshMaster
    [{ work := .register "w1" { ip := "10.0.0.1" } },
     { work := .heartbeat "w1", ids := { used := 1 }, clock := ⟨60, 0⟩ }]

/-- What is kept of the worker when it registers again. -/
def keptWorker : Node :=
  { id := some (IdSupply.id {} 1), key := "w1", name := "w1", ip := "10.0.0.1",
    status := .registered, active := true, enabled := true, activeAt := some ⟨60, 0⟩ }

/-- When the worker registers again, its address and its stamp are kept, whatever it now says. -/
theorem exactRegistration_heardWorker :
    ∃ xs, Backend.Session xs heardWorker ∧ heardWorker.store.KeysUnique ∧
      ((register "w1" { ip := "10.0.0.9" }).run.run heardWorker).1 = .ok keptWorker ∧
      ExactRegistration heardWorker.store "w1" { ip := "10.0.0.9" } heardWorker.ids.next
        ((register "w1" { ip := "10.0.0.9" }).run.run heardWorker).1
        ((register "w1" { ip := "10.0.0.9" }).run.run heardWorker).2.store ∧
      Repeats "w1" { ip := "10.0.0.9" } keptWorker
        ((register "w1" { ip := "10.0.0.9" }).run.run heardWorker).2 := by
  obtain ⟨xs, hxs⟩ : ∃ xs, Backend.Session xs heardWorker :=
    Master.session_freshMaster (by decide)
  have hplaces : heardWorker.store.nodeRows.map (·.1) = [IdSupply.id {} 1] := by decide +kernel
  have hunique : heardWorker.store.KeysUnique := by
    -- there is only one node
    have honly (id : ObjectId) (n : Node) (hn : heardWorker.store.HoldsNode id n) :
        id = IdSupply.id {} 1 := by
      have hmem : id ∈ heardWorker.store.nodeRows.map (·.1) :=
        List.mem_map_of_mem (Store.mem_nodeRows.mpr hn)
      rw [hplaces] at hmem
      exact List.mem_singleton.mp hmem
    intro id n i x hn hx _ _
    rw [honly id n hn, honly i x hx]
  have hanswer : ((register "w1" { ip := "10.0.0.9" }).run.run heardWorker).1 = .ok keptWorker := by
    decide +kernel
  obtain ⟨hexact, hrepeats⟩ := exactRegistration_run hxs hunique "w1" { ip := "10.0.0.9" }
  exact ⟨_, hxs, hunique, hanswer, hexact, hrepeats keptWorker hanswer (by decide)⟩

end Coordination
end ControlPlane
