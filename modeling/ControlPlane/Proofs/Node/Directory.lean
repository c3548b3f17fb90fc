import ControlPlane.Node.Directory
import ControlPlane.Proofs.Backend.Discipline
import ControlPlane.Proofs.Node.Key

/-!
# The directory keeps keys unique

Each call of the directory of nodes keeps the keys of nodes unique and every record under its id
and key, whatever others that do the same do between the look-up of a node and the write that
follows it: what a routine remembers of a node is its id and key, and these do not change
(`Directory.Recalls`).

The *strict* form of the discipline also rules out masters, zero ids and fresh ids that are in
use. Under it a node that is remembered can be written back (`Directory.safe_save`), and a node
can be added unless its key is taken (`Directory.safe_add`).
-/

set_option autoImplicit false

namespace ControlPlane

/-! ## The discipline of nodes -/

/-- Stores with unique keys, and calls that keep records. The strict form admits no master, no
zero id and no fresh id that is in use. -/
def nodeDiscipline (strict : Prop) : Discipline where
  inv s := s.WellFormed ∧ s.KeysUnique ∧
    (strict → ∀ id n, s.HoldsNode id n → id.isZero = false ∧ n.isMaster = false)
  le := Store.IsKeptBy
  supply s fresh := strict → fresh.isZero = false ∧ s.find? .node fresh = none
  refl := Store.IsKeptBy.refl
  trans := Store.IsKeptBy.trans

theorem nodeDiscipline_inv_empty (strict : Prop) : (nodeDiscipline strict).inv {} := by
  refine ⟨Store.wellFormed_empty, Store.keysUnique_empty, ?_⟩
  intro _ id n h
  simp [Store.HoldsNode] at h

namespace Store

variable {s s' : Store}

/-- Where a key is in use, it stays in use. -/
theorem IsKeptBy.node (h : s.IsKeptBy s') {id : ObjectId} {n : Node} (hn : s.HoldsNode id n) :
    ∃ n', s'.HoldsNode id n' ∧ n'.key = n.key := by
  obtain ⟨m, hm, hkind, -, hkey⟩ := h .node id (.node n) hn
  cases m with
  | node n' => exact ⟨n', hm, hkey⟩
  | _ => cases hkind

end Store

namespace Directory

/-- A node is stored with the id and the key of this one. -/
def Recalls (s : Store) (n : Node) : Prop :=
  ∃ id old, n.id = some id ∧ s.HoldsNode id old ∧ old.key = n.key

theorem Recalls.later {s s' : Store} {n : Node} (h : Recalls s n) (hle : s.IsKeptBy s') :
    Recalls s' n := by
  obtain ⟨id, old, hid, hold, hkey⟩ := h
  obtain ⟨n', hn', hkey'⟩ := hle.node hold
  exact ⟨id, n', hid, hn', hkey'.trans hkey⟩

/-- A node with the key is stored. -/
def IsTaken (s : Store) (key : String) : Prop := ∃ id n, s.HoldsNode id n ∧ n.key = key

theorem IsTaken.later {s s' : Store} {key : String} (h : IsTaken s key) (hle : s.IsKeptBy s') :
    IsTaken s' key := by
  obtain ⟨id, n, hn, hkey⟩ := h
  obtain ⟨n', hn', hkey'⟩ := hle.node hn
  exact ⟨id, n', hn', hkey'.trans hkey⟩

/-- A node is given that is stored and has the key, or the discipline is not strict. -/
def Gives (strict : Prop) (key : String) (r : Except CoordinationError Node) (s : Store) : Prop :=
  match r with
  | .ok n => n.key = key ∧ Recalls s n
  | .error _ => ¬ strict

variable {strict : Prop} {s : Store}

/-! ## Calls on one node -/

/-- What a look-up by key finds: a node with that key, or that there is none. -/
def Finds (strict : Prop) (key : String) (r : Except CoordinationError (Option Node)) (s : Store) :
    Prop :=
  match r with
  | .ok (some n) => n.key = key ∧ Recalls s n ∧ (strict → n.isMaster = false)
  | .ok none => ¬ IsTaken s key
  | .error _ => False

theorem finds_get {key : String} (hinv : (nodeDiscipline strict).inv s) :
    match s.get .node (Store.keyQuery key) >>= Model.asNode with
    | .ok n => Finds strict key (.ok (some n)) s
    | .error e => e.isNotFound = true ∧ Finds strict key (.ok none) s := by
  obtain ⟨hwf, -, hstrict⟩ := hinv
  cases h : s.get .node (Store.keyQuery key) with
  | ok m =>
      obtain ⟨id, n, rfl, hid, hn, hkey⟩ := Store.get_key_eq_ok hwf h
      exact ⟨hkey, ⟨id, n, hid, hn, rfl⟩, fun hs => (hstrict hs id n hn).2⟩
  | error e =>
      obtain ⟨rfl, hno⟩ := (Store.get_key_eq_error hwf).mp h
      refine ⟨rfl, ?_⟩
      rintro ⟨id, n, hn, hkey⟩
      exact hno id n hn hkey

/-- **A look-up by key.** It does not fail, and what it finds holds at the time of the call. -/
theorem safe_find? {key : String} :
    Routine.Safe (nodeDiscipline strict) (Finds strict key) (find? key).run s := by
  have hget : Routine.Safe (nodeDiscipline strict) (fun r s' => match r with
      | .ok n => Finds strict key (.ok (some n)) s'
      | .error e => e.isNotFound = true ∧ Finds strict key (.ok none) s') (getByKey key).run s :=
    (Routine.safe_get fun s' hinv _ => finds_get hinv).bind fun r s' _ hr => hr
  apply hget.bind
  intro r s' _ hr
  cases r with
  | ok n => exact hr
  | error e =>
      obtain ⟨hnot, hnone⟩ := hr
      show Finds strict key (if e.isNotFound then .ok none else .error (.store e)) s'
      rwa [if_pos hnot]

/-- What follows a look-up has to be safe with the node that was found, and without one. -/
theorem safe_find?_bind {β : Type} {key : String} {f : Option Node → Attempt CoordinationError β}
    {post : Except CoordinationError β → Store → Prop}
    (hsome : ∀ s' n, s.IsKeptBy s' → n.key = key → Recalls s' n → (strict → n.isMaster = false) →
      Routine.Safe (nodeDiscipline strict) post (f (some n)).run s')
    (hnone : ∀ s', s.IsKeptBy s' → ¬ IsTaken s' key →
      Routine.Safe (nodeDiscipline strict) post (f none).run s') :
    Routine.Safe (nodeDiscipline strict) post (find? key >>= f).run s := by
  apply Attempt.safe_bind safe_find?
  · intro old? s' hle hr
    cases old? with
    | some n =>
        obtain ⟨hkey, hrec, hmaster⟩ := hr
        exact hsome s' n hle hkey hrec hmaster
    | none => exact hnone s' hle hr
  · intro e s' _ hr
    exact hr.elim

/-- **Writing a node back.** Where a node has the id and the key of a stored one, a `save` that
succeeds keeps the discipline, and the node is stored afterwards. -/
theorem inv_of_save {s' : Store} {now : Instant} {n : Node} {saved : Model}
    (hinv : (nodeDiscipline strict).inv s) (hn : Recalls s n)
    (hmaster : strict → n.isMaster = false) (h : s.save now (.node n) = .ok (saved, s')) :
    (nodeDiscipline strict).inv s' ∧ s.IsKeptBy s' ∧ Recalls s' n := by
  obtain ⟨hwf, hu, hstrict⟩ := hinv
  obtain ⟨id, old, hid, hold, hkey⟩ := hn
  obtain ⟨i, hi, -, -, -⟩ := Store.save_eq_ok.mp h
  obtain ⟨hni, hnonzero⟩ := Model.storedId?_eq_some.mp hi
  obtain rfl : i = id := Option.some.inj (hni.symm.trans hid)
  have hputs := Store.puts_of_save hi h
  have hkept : s.IsKeptBy s' := by
    apply hputs.isKeptBy
    intro m hm
    obtain rfl : m = .node old := Option.some.inj (hm.symm.trans hold)
    exact ⟨rfl, hid.trans (hwf .node i _ hold).2.symm, hkey.symm⟩
  have hunique : s'.KeysUnique := by
    rw [Store.keysUnique_of_save_iff hu h]
    -- a clash would be one of the node that is replaced
    rintro ⟨new, j, other, k, hnew, hj, hother, hne, hnonempty, hsame⟩
    cases hnew
    obtain rfl : i = j := Option.some.inj (hi.symm.trans hj)
    have hkeys : other.key = old.key := hsame.trans hkey.symm
    exact hne (hu k other i old hother hold (hsame ▸ hnonempty) hkeys)
  have hworkers : strict → ∀ j x, s'.HoldsNode j x → j.isZero = false ∧ x.isMaster = false := by
    intro hs j x hx
    rcases (Store.holdsNode_of_puts hputs).mp hx with ⟨hnew, rfl⟩ | ⟨-, hkeep⟩
    · cases hnew
      exact ⟨hnonzero, hmaster hs⟩
    · exact hstrict hs j x hkeep
  have hthere : s'.HoldsNode i n := (Store.holdsNode_of_puts hputs).mpr (.inl ⟨rfl, rfl⟩)
  exact ⟨⟨hwf.save h, hunique, hworkers⟩, hkept, i, n, hid, hthere, rfl⟩

/-- Under the strict discipline a node that is remembered can be written back. -/
theorem exists_save (hinv : (nodeDiscipline True).inv s) {n : Node} (hn : Recalls s n)
    (now : Instant) : ∃ s', s.save now (.node n) = .ok (.node n, s') := by
  obtain ⟨-, -, hstrict⟩ := hinv
  obtain ⟨id, old, hid, hold, -⟩ := hn
  have hstored : (Model.node n).storedId? = some id :=
    Model.storedId?_eq_some.mpr ⟨hid, (hstrict trivial id old hold).1⟩
  have hthere : (s.find? (Model.node n).kind id).isSome = true := Option.isSome_of_eq_some hold
  exact ⟨_, Store.save_eq_ok.mpr ⟨id, hstored, hthere, rfl, rfl⟩⟩

theorem safe_save {n : Node} (hn : Recalls s n) (hmaster : strict → n.isMaster = false) :
    Routine.Safe (nodeDiscipline strict) (Gives strict n.key) (save n).run s := by
  have hcall : (Routine.save (.node n)).Safe (nodeDiscipline strict)
      (fun r s' => Gives strict n.key ((r >>= Model.asNode).mapError .store) s') s := by
    apply Routine.safe_save
    · intro s' now saved s'' hinv hle h
      obtain ⟨hinv', hkept, hrec⟩ := inv_of_save hinv (hn.later hle) hmaster h
      obtain ⟨id, -, -, rfl, -⟩ := Store.save_eq_ok.mp h
      exact ⟨hinv', hkept, rfl, hrec⟩
    · intro s' now e hinv hle h hs
      obtain rfl : strict = True := eq_true hs
      obtain ⟨s'', hok⟩ := exists_save hinv (hn.later hle) now
      rw [h] at hok
      cases hok
  exact Attempt.safe_of (hcall.bind fun _ _ _ hr => hr)

/-- A node as `add` keeps it is the node, but for its id. -/
theorem exists_placed_node (n : Node) (fresh : ObjectId) :
    ∃ x, (Model.node n).placed fresh = .node x ∧ x.id = some ((Model.node n).place fresh) ∧
      x.key = n.key ∧ x.isMaster = n.isMaster := by
  have hid := Model.id_placed (.node n) fresh
  unfold Model.placed at hid ⊢
  split at hid
  next h => exact ⟨n, if_pos h, hid, rfl, rfl⟩
  next h => exact ⟨{ n with id := some fresh }, if_neg h, hid, rfl, rfl⟩

/-- Where a node without an id is placed: under the fresh id. -/
theorem place_of_storedId?_eq_none {m : Model} (h : m.storedId? = none) (fresh : ObjectId) :
    m.place fresh = fresh := by
  simp [Model.place, h]

/-- **Adding a node.** An `add` that succeeds keeps the discipline, and gives a node under the
key that is stored afterwards. -/
theorem inv_of_add {s' : Store} {fresh : ObjectId} {now : Instant} {n : Node} {added : Model}
    (hinv : (nodeDiscipline strict).inv s) (hfresh : (nodeDiscipline strict).supply s fresh)
    (hn : strict → (Model.node n).storedId? = none ∧ n.isMaster = false)
    (h : s.add fresh now (.node n) = .ok (added, s')) :
    (nodeDiscipline strict).inv s' ∧ s.IsKeptBy s' ∧
      ∃ x, added = .node x ∧ x.key = n.key ∧ Recalls s' x := by
  obtain ⟨hwf, hu, hstrict⟩ := hinv
  obtain ⟨hfree, -, rfl, -⟩ := Store.add_eq_ok.mp h
  have hputs := Store.puts_of_add h
  have hkept : s.IsKeptBy s' := by
    apply hputs.isKeptBy
    intro m hm
    rw [Model.kind_placed, hfree] at hm
    cases hm
  obtain ⟨x, hx, hxid, hxkey, hxmaster⟩ := exists_placed_node n fresh
  have hworkers : strict → ∀ j y, s'.HoldsNode j y → j.isZero = false ∧ y.isMaster = false := by
    intro hs j y hy
    rcases (Store.holdsNode_of_puts hputs).mp hy with ⟨hnew, rfl⟩ | ⟨-, hkeep⟩
    · obtain rfl : x = y := Model.node.inj (hx.symm.trans hnew)
      obtain ⟨hnone, hmaster⟩ := hn hs
      rw [place_of_storedId?_eq_none hnone]
      exact ⟨(hfresh hs).1, hxmaster.trans hmaster⟩
    · exact hstrict hs j y hkeep
  have hthere : s'.HoldsNode ((Model.node n).place fresh) x :=
    (Store.holdsNode_of_puts hputs).mpr (.inl ⟨hx, rfl⟩)
  exact ⟨⟨hwf.add h, hu.add hwf h, hworkers⟩, hkept, x, hx, hxkey, _, x, hxid, hthere, rfl⟩

/-- An `add` that fails finds the key taken; another failure is possible only where the
discipline is not strict. -/
theorem isTaken_of_add {fresh : ObjectId} {now : Instant} {n : Node} {e : StoreError}
    (hinv : (nodeDiscipline strict).inv s) (hfresh : (nodeDiscipline strict).supply s fresh)
    (hn : strict → (Model.node n).storedId? = none ∧ n.isMaster = false)
    (h : s.add fresh now (.node n) = .error e) :
    ¬ strict ∨ (∃ kind key, e = .duplicateKey kind key) ∧ IsTaken s n.key := by
  obtain ⟨hwf, -, -⟩ := hinv
  rw [Store.add_eq] at h
  split at h
  next hused =>
    left
    intro hs
    -- the fresh id would be in use
    rw [place_of_storedId?_eq_none (hn hs).1, Model.kind, (hfresh hs).2] at hused
    cases hused
  next =>
    split at h
    next htaken =>
      cases h
      obtain ⟨x, hx, -, hxkey, -⟩ := exists_placed_node n fresh
      rw [hx] at htaken
      obtain ⟨-, id, other, hother, hkey⟩ := (Store.isKeyTaken_node hwf x).mp htaken
      exact .inr ⟨⟨_, _, rfl⟩, id, other, hother, hkey.trans hxkey⟩
    next => cases h

/-- The call of the directory, with one case for each way in which it may end. -/
theorem safe_add {n : Node} {post : Except CoordinationError Node → Store → Prop}
    (hn : strict → (Model.node n).storedId? = none ∧ n.isMaster = false)
    (hok : ∀ s' added, s.IsKeptBy s' → added.key = n.key → Recalls s' added →
      post (.ok added) s')
    (htaken : ∀ s' kind key, s.IsKeptBy s' → IsTaken s' n.key →
      post (.error (.store (.duplicateKey kind key))) s')
    (herr : ∀ s' e, ¬ strict → s.IsKeptBy s' → post (.error e) s') :
    Routine.Safe (nodeDiscipline strict) post (add n).run s := by
  have hcall : (Routine.add (.node n)).Safe (nodeDiscipline strict)
      (fun r s' => post ((r >>= Model.asNode).mapError .store) s') s := by
    apply Routine.safe_add
    · intro s' fresh now added s'' hinv hle hfresh h
      obtain ⟨hinv', hkept, x, rfl, hkey, hrec⟩ := inv_of_add hinv hfresh hn h
      exact ⟨hinv', hkept, hok s'' x (hle.trans hkept) hkey hrec⟩
    · intro s' fresh now e hinv hle hfresh h
      rcases isTaken_of_add hinv hfresh hn h with hloose | ⟨⟨kind, key, rfl⟩, hkey⟩
      · exact herr s' _ hloose hle
      · exact htaken s' kind key hle hkey
  exact Attempt.safe_of (hcall.bind fun _ _ _ hr => hr)

/-! ## Changes of status -/

/-- **Changes of status.** A node that is remembered is moved to another status, or the status
cannot be reached from the one remembered. -/
theorem safe_updateStatus {n : Node} {status : NodeStatus} {active : Bool}
    (hn : Recalls s n) (hmaster : strict → n.isMaster = false) :
    Routine.Safe (nodeDiscipline strict) (fun _ _ => True) (updateStatus n status active).run s := by
  -- a change of status leaves the id, the key and the mastership alone
  have hsave (at? : Option Instant) (s' : Store) (hle : s.IsKeptBy s') : Routine.Safe
      (nodeDiscipline strict) (fun _ _ => True) (save (n.setStatus status active at?)).run s' := by
    have hlater : Recalls s' (n.setStatus status active at?) := hn.later hle
    exact (safe_save hlater hmaster).weaken fun _ _ _ _ => trivial
  unfold updateStatus
  split
  next =>
    cases active with
    | true =>
        have htime : Routine.Safe (nodeDiscipline strict) (fun _ _ => True)
            (some <$> liftM Routine.now : Attempt CoordinationError (Option Instant)).run s :=
          Routine.safe_now.bind fun _ _ _ _ => trivial
        exact Attempt.safe_bind htime (fun at? s' hle _ => hsave at? s' hle) fun _ _ _ _ => trivial
    | false => exact hsave none s (Store.IsKeptBy.refl s)
  next => trivial

/-! ## Lists -/

theorem mem_of_mapM_asNode {ms : List Model} {ns : List Node} (h : ms.mapM Model.asNode = .ok ns) :
    ∀ n ∈ ns, Model.node n ∈ ms := by
  induction ms generalizing ns with
  | nil =>
      cases h
      simp
  | cons m ms ih =>
      rw [List.mapM_cons] at h
      cases m with
      | node x =>
          cases hrest : ms.mapM Model.asNode with
          | error e =>
              rw [hrest] at h
              cases h
          | ok rest =>
              rw [hrest] at h
              cases h
              intro n hn
              rcases List.mem_cons.mp hn with rfl | hn
              · exact List.mem_cons_self
              · exact List.mem_cons_of_mem _ (ih hrest n hn)
      | _ => cases h

/-- A list holds stored nodes only. -/
theorem safe_list {q : Query} :
    Routine.Safe (nodeDiscipline strict)
      (fun r s' => ∀ ns, r = .ok ns → ∀ n ∈ ns, Recalls s' n ∧ (strict → n.isMaster = false))
      (list q).run s := by
  have hcall : (Routine.getList .node q {}).Safe (nodeDiscipline strict) (fun r s' =>
      ∀ ns, (r >>= fun ms => ms.mapM Model.asNode).mapError CoordinationError.store = .ok ns →
        ∀ n ∈ ns, Recalls s' n ∧ (strict → n.isMaster = false)) s := by
    apply Routine.safe_getList
    intro s' hinv hle ns hns n hn
    obtain ⟨hwf, -, hstrict⟩ := hinv
    have hok : (s'.getList .node q {}).mapM Model.asNode = .ok ns := by
      cases h : (s'.getList .node q {}).mapM Model.asNode with
      | error e => simp [bind, Except.bind, h] at hns
      | ok ms => simpa [bind, Except.bind, h] using hns
    have hmem : .node n ∈ s'.getList .node q {} := mem_of_mapM_asNode hok n hn
    rw [Store.getList, Page.select_eq_of] at hmem
    obtain ⟨id, x, hx, hid, hold⟩ := hwf.exists_node (List.mem_filter.mp hmem).1
    cases hx
    have hmaster : strict → n.isMaster = false := fun hs => (hstrict hs id n hold).2
    exact ⟨⟨id, n, hid, hold, rfl⟩, hmaster⟩
  exact Attempt.safe_of (hcall.bind fun _ _ _ hr => hr)

/-! ## The record of the master -/

/-- The record of the master is written, if masters are admitted. -/
theorem safe_upsertMaster {n : Node} :
    Routine.Safe (nodeDiscipline False) (fun _ _ => True) (upsertMaster n).run s := by
  refine Attempt.safe_bind Attempt.safe_now ?_ fun _ _ _ _ => trivial
  intro now s' _ _
  apply safe_find?_bind
  · intro t old _ hkey hrec _
    obtain ⟨id, stored, hid, hstored, hsame⟩ := hrec
    refine (safe_save ?_ False.elim).weaken fun _ _ _ _ => trivial
    -- the record is written under the id and the key that were found
    exact ⟨id, stored, hid, hstored, hsame.trans hkey⟩
  · intro t _ _
    exact safe_add False.elim (fun _ _ _ _ _ => trivial) (fun _ _ _ _ _ => trivial)
      fun _ _ _ _ => trivial

end Directory
end ControlPlane
