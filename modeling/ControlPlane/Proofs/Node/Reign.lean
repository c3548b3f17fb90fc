import ControlPlane.Proofs.Node.Mastership

/-!
# A master stays up

Once a master was bootstrapped, it stays the only node with its key, under the same id, and up,
whatever registrations, heartbeats, sweeps and further bootstraps follow: registrations are
refused under its key, sweeps pass it over, and heartbeats and bootstraps renew its record in its
place. No other node becomes a master (`Master.reign_of_course`).
-/

set_option autoImplicit false

namespace ControlPlane

/-! ## Masters that are up -/

/-- The node is a master that is up. -/
structure Node.IsUp (n : Node) : Prop where
  isMaster : n.isMaster = true
  enabled : n.enabled = true
  active : n.active = true
  online : n.status = .online

theorem Node.IsUp.revived {n : Node} (h : n.IsUp) (now : Instant) : (n.revived now).IsUp :=
  ⟨h.isMaster, h.enabled, rfl, rfl⟩

theorem Bootstrap.isUp_record (id : Option ObjectId) (key hostname : String) (now : Instant) :
    (record id key hostname now).IsUp := ⟨rfl, rfl, rfl, rfl⟩

namespace Store

/-- Every master under another key was a master before, under its id and key. -/
def NoOtherMasters (key : String) (s s' : Store) : Prop :=
  ∀ id n, s'.HoldsNode id n → n.isMaster = true → n.key ≠ key →
    ∃ old, s.HoldsNode id old ∧ old.isMaster = true ∧ old.key = n.key

/-- A master under a key is up, and no other node has the key. -/
def IsLed (s : Store) (key : String) (id : ObjectId) : Prop := ∃ n, s.HoldsOnly key id n ∧ n.IsUp

variable {s s' t : Store} {key : String} {id : ObjectId}

theorem NoNewMasters.noOtherMasters (h : s.NoNewMasters s') (key : String) :
    s.NoOtherMasters key s' := fun id n hn hmaster _ => h id n hn hmaster

theorem NoOtherMasters.trans (h : s.NoOtherMasters key s') (h' : s'.NoOtherMasters key t) :
    s.NoOtherMasters key t := by
  intro id n hn hmaster hkey
  rcases h' id n hn hmaster hkey with ⟨mid, hmid, hmidMaster, hmidKey⟩
  rcases h id mid hmid hmidMaster (hmidKey ▸ hkey) with ⟨old, hold, holdMaster, holdKey⟩
  exact ⟨old, hold, holdMaster, holdKey.trans hmidKey⟩

/-- A node under the key is written. -/
theorem Puts.noOtherMasters {new : Node} (h : s.Puts id (.node new) s') (hkey : new.key = key) :
    s.NoOtherMasters key s' := by
  intro i n hn hmaster hne
  rcases h.holdsNode_iff.mp hn with ⟨-, rfl⟩ | ⟨-, hold⟩
  · exact absurd hkey hne
  · exact ⟨n, hold, hmaster, rfl⟩

/-- A master under another key than the one that is written stays the only one. -/
theorem Puts.isLed_other {new : Node} {i : ObjectId} (h : s.Puts i (.node new) s')
    (hled : s.IsLed key id) (hkeeps : s.KeepsKey i new) (hkey : new.key ≠ key) :
    s'.IsLed key id := by
  rcases hled with ⟨n, hn, hup⟩
  have hsame (j : ObjectId) (x : Node) (hx : x.key = key) : s'.HoldsNode j x ↔ s.HoldsNode j x :=
    h.holdsNode_other hkeeps fun hnew => hkey (hnew.symm.trans hx)
  exact ⟨n, hn.of_iff hsame, hup⟩

/-- The record of a master is replaced by one that is up. -/
theorem Puts.isLed {new : Node} (h : s.Puts id (.node new) s') (hup : new.IsUp)
    (hkey : new.key = key) (honly : ∀ i x, s.HoldsNode i x → x.key = key → i = id) :
    s'.IsLed key id := by
  subst hkey
  exact ⟨new, h.holdsOnly honly, hup⟩

end Store

/-! ## What keeps a master up -/

section Steps

variable {s s' : Store} {key : String} {id : ObjectId}

theorem Coordination.RegistrationEnds.isLed (hs : s.WellFormed) {nodeKey : String}
    {info : NodeInfo} {fresh : ObjectId} {answer : Except CoordinationError Node}
    (h : RegistrationEnds s nodeKey info fresh answer s') (hled : s.IsLed key id) :
    s'.IsLed key id := by
  cases h with
  | @renewed old i _ hadm hfound hworker hid hput =>
      rcases hs.of_storedId? hfound hid with ⟨-, hold, hkeyOld⟩
      refine hput.isLed_other hled (hold.keepsKey rfl) ?_
      -- the node under the key is a master, and would have been refused
      intro hsame
      rcases hled with ⟨n, hn, hup⟩
      have hkey : Coordination.effectiveKey nodeKey info = key := hkeyOld.symm.trans hsame
      rw [hkey, hn.nodeUnder? hs] at hfound
      cases hfound
      simp [hup.isMaster] at hworker
  | @created new _ hadm hfound hfree hnew hput =>
      have hkeeps : s.KeepsKey fresh new := by
        intro x hx
        exact absurd hx (by simp [Store.HoldsNode, hfree])
      refine hput.isLed_other hled hkeeps ?_
      intro hsame
      rcases hled with ⟨n, hn, -⟩
      have hkey : Coordination.effectiveKey nodeKey info = key := by
        rw [← hsame, hnew]
        rfl
      rw [hkey, hn.nodeUnder? hs] at hfound
      cases hfound
  | _ => exact hled

theorem Coordination.HeartbeatEnds.isLed (hs : s.WellFormed) {k : String} {now : Instant}
    {answer : Except CoordinationError Node} (h : HeartbeatEnds s k now answer s')
    (hled : s.IsLed key id) : s'.IsLed key id := by
  cases h with
  | @revived x i _ hfound hstatus hid hput =>
      rcases hs.of_storedId? hfound hid with ⟨-, hold, hkeyOld⟩
      by_cases hk : k = key
      · rcases hled with ⟨n, hn, hup⟩
        rw [hk, hn.nodeUnder? hs] at hfound
        have hsame : n = x := Option.some.inj hfound
        subst hsame
        have hi : i = id := hn.only i n hold hn.key_eq
        rw [hi] at hput
        exact hput.isLed (hup.revived now) hn.key_eq hn.only
      · exact hput.isLed_other hled (hold.keepsKey rfl) fun hsame => hk (hkeyOld.symm.trans hsame)
  | _ => exact hled

theorem Sweep.Sweeps.isLed {now : Instant} {timeout : Nat} (h : Sweeps now timeout s s')
    (hled : s.IsLed key id) : s'.IsLed key id := by
  rcases hled with ⟨n, hn, hup⟩
  have hend := h.holdsOnly hn
  rw [swept_of_isMaster hup.isMaster] at hend
  exact ⟨n, hend, hup⟩

theorem Bootstrap.Ends.isLed (hs : s.WellFormed) {hostname : String} {now : Instant}
    {fresh : ObjectId} {answer : Except String Node} (h : Ends s key hostname now fresh answer s')
    (hled : s.IsLed key id) : s'.IsLed key id := by
  rcases hled with ⟨n, hn, hup⟩
  cases h with
  | @replaced old new i _ hfound hid hnew hput =>
      rcases hs.of_storedId? hfound hid with ⟨-, hold, hkey⟩
      have hi : i = id := hn.only i old hold hkey
      subst hnew hi
      exact hput.isLed (isUp_record ..) rfl hn.only
  | created hfound =>
      rw [hn.nodeUnder? hs] at hfound
      cases hfound
  | _ => exact ⟨n, hn, hup⟩

theorem Bootstrap.Ends.noOtherMasters {hostname : String} {now : Instant} {fresh : ObjectId}
    {answer : Except String Node} (h : Ends s key hostname now fresh answer s') :
    s.NoOtherMasters key s' := by
  cases h with
  | replaced _ _ hnew hput =>
      subst hnew
      exact hput.noOtherMasters rfl
  | created _ _ hnew hput =>
      subst hnew
      exact hput.noOtherMasters rfl
  | _ => exact (Store.SameMasters.refl s).noNewMasters.noOtherMasters key

end Steps

namespace Master

/-- What may follow the bootstrap of a master: visits and further bootstraps, served one at a time
at any reading of the clock. -/
inductive Course (key : String) (b₀ : Backend) : Backend → Prop
  | start : Course key b₀ b₀
  | pass {b : Backend} (h : Course key b₀ b) (ids : IdSupply) (wall clock : Instant) :
      Course key b₀ { b with ids, wall, clock }
  | visit {b : Backend} (h : Course key b₀ b) (v : Coordination.Visit) :
      Course key b₀ (v.serve.run b).2
  | bootstrap {b : Backend} (h : Course key b₀ b) (hostname : String) :
      Course key b₀ ((Bootstrap.run key hostname).run.run b).2

/-- What holds throughout a course. -/
structure Upheld (key : String) (id : ObjectId) (b₀ b : Backend) : Prop where
  plain : b.IsPlain
  wellFormed : b.store.WellFormed
  isLed : b.store.IsLed key id
  noOtherMasters : b₀.store.NoOtherMasters key b.store

variable {key : String} {id : ObjectId} {b₀ b : Backend}

theorem Upheld.visit (h : Upheld key id b₀ b) (v : Coordination.Visit) :
    Upheld key id b₀ (v.serve.run b).2 where
  plain := Routine.isPlain_run _ h.plain
  wellFormed := h.wellFormed.run _ h.plain
  isLed := by
    cases v with
    | register nodeKey info =>
        have hends := Coordination.register_ends h.plain h.wellFormed nodeKey info
        exact hends.isLed h.wellFormed h.isLed
    | heartbeat k =>
        exact (Coordination.heartbeat_ends h.plain h.wellFormed k).isLed h.wellFormed h.isLed
    | sweep timeout => exact (Sweep.sweeps_run h.plain h.wellFormed timeout).isLed h.isLed
  noOtherMasters := by
    have hstep := (Coordination.masters_of_visit h.plain h.wellFormed v).1
    exact h.noOtherMasters.trans (hstep.noOtherMasters key)

theorem Upheld.bootstrap (h : Upheld key id b₀ b) (hostname : String) :
    Upheld key id b₀ ((Bootstrap.run key hostname).run.run b).2 where
  plain := Routine.isPlain_run _ h.plain
  wellFormed := h.wellFormed.run _ h.plain
  isLed := (Bootstrap.run_ends h.plain h.wellFormed key hostname).isLed h.wellFormed h.isLed
  noOtherMasters :=
    h.noOtherMasters.trans (Bootstrap.run_ends h.plain h.wellFormed key hostname).noOtherMasters

theorem Upheld.course {b' : Backend} (h : Upheld key id b₀ b) (hcourse : Course key b b') :
    Upheld key id b₀ b' := by
  induction hcourse with
  | start => exact h
  | pass _ ids wall clock ih => exact ⟨ih.plain, ih.wellFormed, ih.isLed, ih.noOtherMasters⟩
  | visit _ v ih => exact ih.visit v
  | bootstrap _ hostname ih => exact ih.bootstrap hostname

/-- A bootstrap that succeeds makes the node a master that is up: in the place of the node that
had the key, or in a new one. -/
theorem isLed_of_bootstrap {s s' : Store} {hostname : String} {now : Instant} {fresh : ObjectId}
    {n : Node} (hs : s.WellFormed) (h : Bootstrap.Ends s key hostname now fresh (.ok n) s')
    (honly : ∀ i x j y, s.HoldsNode i x → s.HoldsNode j y → x.key = key → y.key = key → i = j) :
    ∃ id, n.id = some id ∧ s'.IsLed key id ∧ ∀ i x, s.HoldsNode i x → x.key = key → i = id := by
  cases h with
  | @replaced old _ id _ hfound hid hnew hput =>
      rcases hs.of_storedId? hfound hid with ⟨-, hold, hkey⟩
      have hplace (i : ObjectId) (x : Node) (hx : s.HoldsNode i x) (hxk : x.key = key) : i = id :=
        honly i x id old hx hold hxk hkey
      subst hnew
      exact ⟨id, rfl, hput.isLed (Bootstrap.isUp_record ..) rfl hplace, hplace⟩
  | created hfound hfree hnew hput =>
      have hplace (i : ObjectId) (x : Node) (hx : s.HoldsNode i x) (hxk : x.key = key) :
          i = fresh :=
        absurd hxk (Store.nodeUnder?_eq_none.mp hfound i x hx)
      subst hnew
      exact ⟨fresh, rfl, hput.isLed (Bootstrap.isUp_record ..) rfl hplace, hplace⟩

/-- **A master stays up.** Where at most one node had the key and the bootstrap succeeded, the
node stays the only one with the key throughout every course, under the id that it was given,
which is that of the node that had the key before; and no other node becomes a master. -/
theorem reign_of_course (hb : b₀.IsPlain) (hs : b₀.store.Reachable)
    (honly : ∀ i x j y, b₀.store.HoldsNode i x → b₀.store.HoldsNode j y → x.key = key →
      y.key = key → i = j)
    {hostname : String} {n : Node} (hboot : ((Bootstrap.run key hostname).run.run b₀).1 = .ok n)
    (hcourse : Course key ((Bootstrap.run key hostname).run.run b₀).2 b) :
    ∃ id, n.id = some id ∧ b.store.IsLed key id ∧
      (∀ i x, b₀.store.HoldsNode i x → x.key = key → i = id) ∧
      b₀.store.NoOtherMasters key b.store := by
  have hwf := Store.wellFormed_of_reachable hs
  have hends := Bootstrap.run_ends hb hwf key hostname
  have hothers := hends.noOtherMasters
  rw [hboot] at hends
  rcases isLed_of_bootstrap hwf hends honly with ⟨id, hid, hled, hplace⟩
  have hstart : Upheld key id b₀ ((Bootstrap.run key hostname).run.run b₀).2 :=
    ⟨Routine.isPlain_run _ hb, hwf.run _ hb, hled, hothers⟩
  have hend := hstart.course hcourse
  exact ⟨id, hid, hend.isLed, hplace, hend.noOtherMasters⟩

/-- A worker has the key of the master. -/
def usurpedKey : Backend where
  store := (Store.run [.add (IdSupply.id {} 1) .epoch (.node { key := "master" })]).1
  wall := .epoch
  clock := .epoch

/-- The master takes over the record of the worker, and keeps it when it is long silent. -/
theorem reign_usurpedKey : ∃ b,
    Course "master" ((Bootstrap.run "master" "host").run.run usurpedKey).2 b ∧
    b.clock = ⟨1000, 0⟩ ∧ b.store.IsLed "master" (IdSupply.id {} 1) ∧
    usurpedKey.store.NoOtherMasters "master" b.store := by
  have hreach : usurpedKey.store.Reachable := ⟨_, rfl⟩
  have hnodes : usurpedKey.store.nodes = [{ id := some (IdSupply.id {} 1), key := "master" }] := by
    decide +kernel
  have hplace (i : ObjectId) (x : Node) (hx : usurpedKey.store.HoldsNode i x) :
      some i = some (IdSupply.id {} 1) := by
    have hmem : x ∈ usurpedKey.store.nodes := Store.mem_nodes.mpr ⟨i, hx⟩
    rw [hnodes, List.mem_singleton] at hmem
    rw [← (Store.wellFormed_of_reachable hreach).id_eq hx, hmem]
  have honly (i : ObjectId) (x : Node) (j : ObjectId) (y : Node)
      (hx : usurpedKey.store.HoldsNode i x) (hy : usurpedKey.store.HoldsNode j y)
      (_ : x.key = "master") (_ : y.key = "master") : i = j :=
    Option.some.inj ((hplace i x hx).trans (hplace j y hy).symm)
  have hboot : ((Bootstrap.run "master" "host").run.run usurpedKey).1
      = .ok (Bootstrap.record (some (IdSupply.id {} 1)) "master" "host" .epoch) := by decide +kernel
  have hstart : Course "master" ((Bootstrap.run "master" "host").run.run usurpedKey).2
      ((Bootstrap.run "master" "host").run.run usurpedKey).2 := .start
  have hregister := hstart.visit (.register "master" {})
  have hcourse := (hregister.pass {} .epoch ⟨1000, 0⟩).visit (.sweep 30)
  have hplain : usurpedKey.IsPlain := rfl
  rcases reign_of_course hplain hreach honly hboot hcourse with ⟨id, hid, hled, -, hothers⟩
  cases hid
  exact ⟨_, hcourse, by decide +kernel, hled, hothers⟩

end Master
end ControlPlane
