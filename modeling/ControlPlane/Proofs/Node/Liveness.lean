import ControlPlane.Proofs.Node.Diary
import ControlPlane.Proofs.Node.Effect
import ControlPlane.Proofs.Node.Sweep

/-!
# The liveness of workers

What the store says of a key is a function of the signs of life in its diary: the last sign
decides the status, with the sweeps after it, and the last heartbeat decides the stamp
(`Coordination.portrait_of_diary`).
-/

set_option autoImplicit false

namespace ControlPlane.Coordination

/-! ## What the store says -/

/-- What the store says of a key by its history. -/
def Depicts (log : List Entry) (s : Store) (key : String) : Prop :=
  match lastSign? key log with
  | none => ∀ id n, s.HoldsNode id n → n.key ≠ key
  | some (sign, later) => ∃ id n, s.HoldsOnly key id n ∧
      (n.status, n.active) = sign.standing later ∧ n.activeAt = lastBeat? key log

section Steps

variable {log : List Entry} {e : Entry} {s s' : Store} {key : String}

/-- A key stays as it is when its nodes do, and the visit neither is a sign of life nor misses
one. -/
theorem Depicts.concat (h : Depicts log s key) (hsign : e.sign? key = none)
    (hmisses : ∀ reading, e.misses reading = false)
    (hsame : ∀ id n, n.key = key → (s'.HoldsNode id n ↔ s.HoldsNode id n)) :
    Depicts (log ++ [e]) s' key := by
  rcases lastSign?_concat_of_none log hsign with ⟨hlast, hbeat⟩
  rw [Depicts, hlast, hbeat]
  rw [Depicts] at h
  cases hbefore : lastSign? key log with
  | none =>
      rw [hbefore] at h
      intro id n hn hkey
      exact h id n ((hsame id n hkey).mp hn) hkey
  | some p =>
      rcases p with ⟨sign, later⟩
      rw [hbefore] at h
      rcases h with ⟨id, n, hn, hstanding, hstamp⟩
      refine ⟨id, n, hn.of_iff hsame, ?_, hstamp⟩
      rw [hstanding, sign.standing_concat_of_not_misses later hmisses]

/-- A sign of life decides anew. -/
theorem depicts_of_sign {sign : Sign} {id : ObjectId} {n : Node} (hsign : e.sign? key = some sign)
    (hn : s'.HoldsOnly key id n) (hstanding : (n.status, n.active) = sign.standing [])
    (hstamp : n.activeAt = sign.reading?.or (lastBeat? key log)) : Depicts (log ++ [e]) s' key := by
  rcases lastSign?_concat_of_some log hsign with ⟨hlast, hbeat⟩
  rw [Depicts, hlast, hbeat]
  exact ⟨id, n, hn, hstanding, hstamp⟩

/-! ## One visit -/

/-- What holds after every visit. -/
structure Chronicle (log : List Entry) (s : Store) : Prop where
  wellFormed : s.WellFormed
  workers : ∀ id n, s.HoldsNode id n → n.isMaster = false
  /-- Only nodes that can be written back were brought online. -/
  stored : ∀ id n, s.HoldsNode id n → n.status = .online → n.isStored = true
  /-- Every id was at hand once. -/
  given : ∀ id n, s.HoldsNode id n → ∃ e ∈ log, e.fresh = id
  clocks : ∀ e ∈ log, e.clock.IsRepresentable
  /-- The first sign of life is a registration. -/
  enrolled : ∀ key, lastSign? key log ≠ none → IsEnrolled key log
  depicts : ∀ key, Depicts log s key

namespace Chronicle

theorem empty : Chronicle [] {} := by
  have hnone (id : ObjectId) (n : Node) : ¬ ({} : Store).HoldsNode id n := by
    simp [Store.HoldsNode]
  refine ⟨Store.wellFormed_empty, ?_, ?_, ?_, ?_, ?_, ?_⟩
  · intro id n hn
    exact absurd hn (hnone id n)
  · intro id n hn
    exact absurd hn (hnone id n)
  · intro id n hn
    exact absurd hn (hnone id n)
  · intro e he
    cases he
  · intro key hsign
    exact absurd rfl hsign
  · intro key id n hn
    exact absurd hn (hnone id n)

/-- The node that is found under a key is the one that the history tells of. -/
theorem of_nodeUnder? (h : Chronicle log s) {id : ObjectId} {n : Node}
    (hfound : s.nodeUnder? key = some n) (hold : s.HoldsNode id n) :
    s.HoldsOnly key id n ∧ n.activeAt = lastBeat? key log ∧
      ∃ sign later, lastSign? key log = some (sign, later) ∧
        (n.status, n.active) = sign.standing later := by
  have hkey : n.key = key := by
    rcases h.wellFormed.of_nodeUnder? hfound with ⟨_, -, -, hkey⟩
    exact hkey
  have hdepicts := h.depicts key
  rw [Depicts] at hdepicts
  cases hlast : lastSign? key log with
  | none =>
      rw [hlast] at hdepicts
      exact absurd hkey (hdepicts id n hold)
  | some p =>
      rcases p with ⟨sign, later⟩
      rw [hlast] at hdepicts
      rcases hdepicts with ⟨i, x, hx, hstanding, hstamp⟩
      have hsame : n = x := Option.some.inj (hfound.symm.trans (hx.nodeUnder? h.wellFormed))
      have hi : id = i := hx.only id n hold hkey
      subst hsame hi
      exact ⟨hx, hstamp, sign, later, rfl, hstanding⟩

theorem lastSign?_eq_none (h : Chronicle log s) (hfound : s.nodeUnder? key = none) :
    lastSign? key log = none := by
  have hdepicts := h.depicts key
  rw [Depicts] at hdepicts
  cases hlast : lastSign? key log with
  | none => rfl
  | some p =>
      rw [hlast] at hdepicts
      rcases hdepicts with ⟨id, n, hn, -⟩
      exact absurd hn.key_eq (Store.nodeUnder?_eq_none.mp hfound id n hn.holds)

theorem clocks_concat (h : Chronicle log s) (hclock : e.clock.IsRepresentable) :
    ∀ x ∈ log ++ [e], x.clock.IsRepresentable := by
  intro x hx
  rcases List.mem_append.mp hx with hx | hx
  · exact h.clocks x hx
  · rw [List.mem_singleton.mp hx]
    exact hclock

theorem given_concat (h : Chronicle log s) {id : ObjectId} {n : Node} (hn : s.HoldsNode id n) :
    ∃ x ∈ log ++ [e], x.fresh = id := by
  rcases h.given id n hn with ⟨x, hx, hid⟩
  exact ⟨x, List.mem_append_left _ hx, hid⟩

/-- A visit without a sign of life enrols nobody. -/
theorem enrolled_concat (h : Chronicle log s) (hsign : e.sign? key = none)
    (hlast : lastSign? key (log ++ [e]) ≠ none) : IsEnrolled key (log ++ [e]) := by
  rw [(lastSign?_concat_of_none log hsign).1] at hlast
  have hbefore : lastSign? key log ≠ none := by simpa using hlast
  exact (h.enrolled key hbefore).concat e

/-- A visit that is refused leaves all as it is. -/
theorem refused (h : Chronicle log s) (hclock : e.clock.IsRepresentable)
    (hsign : ∀ key, e.sign? key = none) (hmisses : ∀ reading, e.misses reading = false) :
    Chronicle (log ++ [e]) s where
  wellFormed := h.wellFormed
  workers := h.workers
  stored := h.stored
  given _ _ hn := h.given_concat hn
  clocks := h.clocks_concat hclock
  enrolled key hlast := h.enrolled_concat (hsign key) hlast
  depicts key := (h.depicts key).concat (hsign key) hmisses fun _ _ _ => Iff.rfl

/-- A visit that gives a sign of life under the key of the node that it writes. -/
theorem written (h : Chronicle log s) (hclock : e.clock.IsRepresentable) {id : ObjectId}
    {new : Node} {sign : Sign} (hput : s.Puts id (.node new) s') (hid : new.id = some id)
    (hworker : new.isMaster = false) (hstored : new.status = .online → new.isStored = true)
    (hgiven : ∃ x ∈ log ++ [e], x.fresh = id)
    (hsign : ∀ k, e.sign? k = if new.key = k then some sign else none)
    (hmisses : ∀ reading, e.misses reading = false) (henrolled : IsEnrolled new.key (log ++ [e]))
    (hplace : ∀ i x, s.HoldsNode i x → (i = id ↔ x.key = new.key))
    (hstanding : (new.status, new.active) = sign.standing [])
    (hstamp : new.activeAt = sign.reading?.or (lastBeat? new.key log)) :
    Chronicle (log ++ [e]) s' where
  wellFormed := Store.WellFormed.puts h.wellFormed (m := .node new) hid hput
  workers i x hx := by
    rcases hput.holdsNode_iff.mp hx with ⟨-, rfl⟩ | ⟨-, hold⟩
    · exact hworker
    · exact h.workers i x hold
  stored i x hx honline := by
    rcases hput.holdsNode_iff.mp hx with ⟨-, rfl⟩ | ⟨-, hold⟩
    · exact hstored honline
    · exact h.stored i x hold honline
  given i x hx := by
    rcases hput.holdsNode_iff.mp hx with ⟨rfl, -⟩ | ⟨-, hold⟩
    · exact hgiven
    · exact h.given_concat hold
  clocks := h.clocks_concat hclock
  enrolled k hlast := by
    by_cases hk : new.key = k
    · exact hk ▸ henrolled
    · exact h.enrolled_concat ((hsign k).trans (if_neg hk)) hlast
  depicts k := by
    by_cases hk : new.key = k
    · subst hk
      have honly : s'.HoldsOnly new.key id new :=
        hput.holdsOnly fun i x hx hkey => (hplace i x hx).mpr hkey
      exact depicts_of_sign ((hsign _).trans (if_pos rfl)) honly hstanding hstamp
    · have hkeeps : s.KeepsKey id new := fun x hx => (hplace id x hx).mp rfl
      refine (h.depicts k).concat ((hsign k).trans (if_neg hk)) hmisses ?_
      intro i x hx
      exact hput.holdsNode_other hkeeps fun hnew => hk (hnew.symm.trans hx)

/-- **A registration.** -/
theorem register (h : Chronicle log s) {clock : Instant} (hclock : clock.IsRepresentable)
    {fresh : ObjectId} {nodeKey : String} {info : NodeInfo} {answer : Except CoordinationError Node}
    (hends : RegistrationEnds s nodeKey info fresh answer s') :
    Chronicle (log ++ [⟨clock, fresh, .register nodeKey info, answer⟩]) s' := by
  have hnotOnline : NodeStatus.registered ≠ .online := by decide
  cases hends with
  | @renewed old id _ hadm hfound hworker hid hput =>
      rcases h.wellFormed.of_storedId? hfound hid with ⟨hi, hold, -⟩
      rcases h.of_nodeUnder? hfound hold with ⟨honly, hstamp, -⟩
      have hkey : effectiveKey nodeKey info = old.key := honly.key_eq.symm
      rw [hkey] at honly hstamp
      have hsign (k : String) :
          Entry.sign? k ⟨clock, fresh, .register nodeKey info, .ok old.renewed⟩
            = if old.key = k then some .registered else none := by
        rw [← hkey]
        rfl
      exact h.written hclock hput hi hworker (fun honline => absurd honline hnotOnline)
        (h.given_concat honly.holds) hsign (fun _ => rfl)
        ⟨_, List.mem_append_right _ List.mem_cons_self, (hsign _).trans (if_pos rfl)⟩
        honly.place_iff rfl hstamp
  | created hadm hfound hfree hnew hput =>
      subst hnew
      have hplace (i : ObjectId) (x : Node) (hx : s.HoldsNode i x) :
          i = fresh ↔ x.key = effectiveKey nodeKey info := by
        constructor
        · rintro rfl
          exact absurd hx (by simp [Store.HoldsNode, hfree])
        · intro hxk
          exact absurd hxk (Store.nodeUnder?_eq_none.mp hfound i x hx)
      have hbeat : lastBeat? (effectiveKey nodeKey info) log = none :=
        lastBeat?_of_lastSign?_eq_none (h.lastSign?_eq_none hfound)
      exact h.written hclock hput rfl rfl (fun honline => absurd honline hnotOnline)
        ⟨_, List.mem_append_right _ List.mem_cons_self, rfl⟩ (fun _ => rfl) (fun _ => rfl)
        ⟨_, List.mem_append_right _ List.mem_cons_self, if_pos rfl⟩ hplace rfl hbeat.symm
  | _ => exact h.refused hclock (fun _ => rfl) fun _ => rfl

/-- **A heartbeat.** -/
theorem heartbeat (h : Chronicle log s) {clock : Instant} (hclock : clock.IsRepresentable)
    {fresh : ObjectId} {k : String} {answer : Except CoordinationError Node}
    (hends : HeartbeatEnds s k clock answer s') :
    Chronicle (log ++ [⟨clock, fresh, .heartbeat k, answer⟩]) s' := by
  cases hends with
  | @revived n id _ hfound hstatus hid hput =>
      rcases h.wellFormed.of_storedId? hfound hid with ⟨hi, hold, -⟩
      rcases h.of_nodeUnder? hfound hold with ⟨honly, -, sign, later, hlast, -⟩
      have hkey : k = n.key := honly.key_eq.symm
      subst hkey
      have hworker : n.isMaster = false := h.workers id n hold
      have hstored : (n.revived clock).isStored = true := by
        have hsame : (Model.node (n.revived clock)).storedId? = some id := hid
        rw [Node.isStored, hsame]
        rfl
      have henrolled : IsEnrolled n.key log := h.enrolled n.key (by rw [hlast]; simp)
      have hsign (key : String) :
          Entry.sign? key ⟨clock, fresh, .heartbeat n.key, .ok (n.revived clock)⟩
            = if n.key = key then some (.beat clock) else none := rfl
      exact h.written hclock hput hi hworker (fun _ => hstored) (h.given_concat hold) hsign
        (fun _ => rfl) (henrolled.concat _) honly.place_iff rfl rfl
  | _ => exact h.refused hclock (fun _ => rfl) fun _ => rfl

/-- A worker that was brought online goes offline when a sweep finds its heartbeat too old. -/
theorem standing_swept (h : Chronicle log s) {now : Instant} (hnow : now.IsRepresentable)
    {timeout : Nat} {id : ObjectId} {n : Node} (hn : s.HoldsOnly key id n) {sign : Sign}
    {later : List Entry} (hlast : lastSign? key log = some (sign, later))
    (hstanding : (n.status, n.active) = sign.standing later)
    (hstamp : n.activeAt = lastBeat? key log)
    (hmisses : ∀ reading, e.misses reading
      = decide (((timeout * Instant.nanosPerSecond : Nat) : Int) < now.nanosSince reading)) :
    ((Sweep.swept now timeout n).status, (Sweep.swept now timeout n).active)
      = sign.standing (later ++ [e]) := by
  cases sign with
  | registered =>
      have hstatus : n.status = .registered := congrArg Prod.fst hstanding
      rw [Sweep.swept_of_status_ne (by rw [hstatus]; decide)]
      exact hstanding
  | beat reading =>
      have hbeat := lastBeat?_of_lastSign? hlast
      by_cases hmissed : later.any (Entry.misses reading) = true
      · -- it is offline already
        rw [Sign.standing, if_pos hmissed] at hstanding
        have hstatus : n.status = .offline := congrArg Prod.fst hstanding
        rw [Sweep.swept_of_status_ne (by rw [hstatus]; decide), hstanding]
        simp [Sign.standing, hmissed]
      · rw [Sign.standing, if_neg hmissed] at hstanding
        have hstatus : n.status = .online := congrArg Prod.fst hstanding
        have hstored : n.isStored = true := h.stored id n hn.holds hstatus
        have hworker : n.isMaster = false := h.workers id n hn.holds
        have hreading : reading.IsRepresentable := by
          rcases exists_of_lastBeat? hbeat with ⟨x, hx, rfl⟩
          exact h.clocks x hx
        have hstale : Sweep.isStale now timeout n = e.misses reading := by
          rw [Sweep.isStale, hstamp, hbeat, hmisses]
          exact decide_eq_decide.mpr (Instant.spanOfSeconds_lt_iff hnow hreading timeout)
        have hswept : Sweep.swept now timeout n = if e.misses reading then n.silenced else n := by
          simp [Sweep.swept, Sweep.isDue, hstatus, hworker, hstored, hstale]
        have hnext : (later ++ [e]).any (Entry.misses reading) = e.misses reading := by
          simp [hmissed]
        rw [hswept, Sign.standing, hnext]
        cases e.misses reading with
        | true => rfl
        | false => exact hstanding

/-- **A sweep.** -/
theorem sweep (h : Chronicle log s) {clock : Instant} (hclock : clock.IsRepresentable)
    {fresh : ObjectId} {timeout : Nat} {answer : Except CoordinationError (List String)}
    (hsweeps : Sweep.Sweeps clock timeout s s') :
    Chronicle (log ++ [⟨clock, fresh, .sweep timeout, answer⟩]) s' where
  wellFormed := hsweeps.wellFormed h.wellFormed
  workers i x hx := by
    rcases hsweeps.holdsNode_iff.mp hx with ⟨n, hn, rfl⟩
    rw [Sweep.isMaster_swept]
    exact h.workers i n hn
  stored i x hx honline := by
    rcases hsweeps.holdsNode_iff.mp hx with ⟨n, hn, rfl⟩
    rcases Sweep.swept_cases clock timeout n with hsame | hsame
    · rw [hsame] at honline ⊢
      exact h.stored i n hn honline
    · rw [hsame] at honline
      cases honline
  given i x hx := by
    rcases hsweeps.holdsNode_iff.mp hx with ⟨n, hn, -⟩
    exact h.given_concat hn
  clocks := h.clocks_concat hclock
  enrolled key hlast := h.enrolled_concat rfl hlast
  depicts key := by
    have hsign : Entry.sign? key ⟨clock, fresh, .sweep timeout, answer⟩ = none := rfl
    rcases lastSign?_concat_of_none log hsign with ⟨hlast, hbeat⟩
    have hbefore := h.depicts key
    rw [Depicts] at hbefore
    rw [Depicts, hlast, hbeat]
    cases hlastSign : lastSign? key log with
    | none =>
        rw [hlastSign] at hbefore
        intro i x hx hkey
        rcases hsweeps.holdsNode_iff.mp hx with ⟨n, hn, rfl⟩
        exact hbefore i n hn ((Sweep.key_swept n).symm.trans hkey)
    | some p =>
        rcases p with ⟨sign, later⟩
        rw [hlastSign] at hbefore
        rcases hbefore with ⟨id, n, hn, hstanding, hstamp⟩
        refine ⟨id, _, hsweeps.holdsOnly hn, ?_, (Sweep.activeAt_swept n).trans hstamp⟩
        exact h.standing_swept hclock hn hlastSign hstanding hstamp fun _ => rfl

end Chronicle
end Steps

/-! ## Every diary -/

section Diaries

variable {log : List Entry} {b : Backend}

theorem Diary.chronicle (h : Diary log b) : b.IsPlain ∧ Chronicle log b.store := by
  induction h with
  | start hplain hempty =>
      refine ⟨hplain, ?_⟩
      rw [hempty]
      exact .empty
  | pass h ids wall clock ih => exact ih
  | @visit log b h hclock v ih =>
      rcases ih with ⟨hplain, hchron⟩
      refine ⟨Routine.isPlain_run _ hplain, ?_⟩
      cases v with
      | register nodeKey info =>
          exact hchron.register hclock (register_ends hplain hchron.wellFormed nodeKey info)
      | heartbeat key => exact hchron.heartbeat hclock (heartbeat_ends hplain hchron.wellFormed key)
      | sweep timeout =>
          exact hchron.sweep hclock (Sweep.sweeps_run hplain hchron.wellFormed timeout)

/-- No id at hand was zero. -/
def HasIds (log : List Entry) : Prop := ∀ e ∈ log, e.fresh.isZero = false

/-- Where no id at hand was zero, every node can be written back. -/
theorem Chronicle.storedId?_eq {s : Store} (h : Chronicle log s) (hids : HasIds log) {id : ObjectId}
    {n : Node} (hn : s.HoldsNode id n) : (Model.node n).storedId? = some id := by
  rcases h.given id n hn with ⟨e, he, rfl⟩
  exact Model.storedId?_eq_some.mpr ⟨h.wellFormed.id_eq hn, hids e he⟩

/-- What is said of a key, by its history. -/
structure Portrait (log : List Entry) (b : Backend) (key : String) : Prop where
  /-- A key that was registered has exactly one record. The last sign of life decides its status,
  and the last heartbeat is its stamp. -/
  known : IsEnrolled key log → ∃ sign later id n, lastSign? key log = some (sign, later) ∧
    b.store.HoldsOnly key id n ∧ (n.status, n.active) = sign.standing later ∧
    n.activeAt = lastBeat? key log
  /-- A key that was not has none, and its heartbeats create none. -/
  unknown : ¬ IsEnrolled key log → (∀ id n, b.store.HoldsNode id n → n.key ≠ key) ∧
    ((heartbeat key).run.run b).1 = .error (.nodeNotFound key) ∧
    ((heartbeat key).run.run b).2.store = b.store
  /-- A worker that names its key is registered, if the id at hand is unused. -/
  registers : HasIds log → isUnused b.store b.ids.next = true → ∀ nodeKey info,
    Admissible nodeKey info → effectiveKey nodeKey info = key →
    ∃ n, ((register nodeKey info).run.run b).1 = .ok n
  /-- The heartbeats of a key that was registered succeed. -/
  beats : HasIds log → IsEnrolled key log → ∃ n, ((heartbeat key).run.run b).1 = .ok n

theorem Chronicle.registers (hb : b.IsPlain) (h : Chronicle log b.store) (hids : HasIds log)
    (hunused : isUnused b.store b.ids.next = true) {nodeKey : String} {info : NodeInfo}
    (hadm : Admissible nodeKey info) :
    ∃ n, ((Coordination.register nodeKey info).run.run b).1 = .ok n := by
  have hends := register_ends hb h.wellFormed nodeKey info
  generalize ((Coordination.register nodeKey info).run.run b).1 = answer at hends ⊢
  generalize ((Coordination.register nodeKey info).run.run b).2.store = s' at hends
  cases hends with
  | renewed => exact ⟨_, rfl⟩
  | created => exact ⟨_, rfl⟩
  | masterInfo hmaster => exact absurd hmaster (by simp [hadm.1])
  | anonymous hworker hkey => exact absurd hkey hadm.2
  | masterKey _ hfound hmaster =>
      rcases h.wellFormed.of_nodeUnder? hfound with ⟨id, -, hold, -⟩
      exact absurd hmaster (by simp [h.workers id _ hold])
  | missingId _ hfound _ hid =>
      rcases h.wellFormed.of_nodeUnder? hfound with ⟨id, -, hold, -⟩
      rw [h.storedId?_eq hids hold] at hid
      cases hid
  | inUse _ _ hused => simp [isUnused, Option.isNone_iff_eq_none, hused] at hunused

theorem Chronicle.beats (hb : b.IsPlain) (h : Chronicle log b.store) (hids : HasIds log)
    {key : String} (hkey : IsEnrolled key log) :
    ∃ n, ((Coordination.heartbeat key).run.run b).1 = .ok n := by
  have hends := heartbeat_ends hb h.wellFormed key
  generalize ((Coordination.heartbeat key).run.run b).1 = answer at hends ⊢
  generalize ((Coordination.heartbeat key).run.run b).2.store = s' at hends
  cases hends with
  | revived => exact ⟨_, rfl⟩
  | unknown hfound => exact absurd (h.lastSign?_eq_none hfound) hkey.lastSign?_ne_none
  | unregistered hfound hstatus =>
      rcases h.wellFormed.of_nodeUnder? hfound with ⟨id, -, hold, -⟩
      rcases h.of_nodeUnder? hfound hold with ⟨-, -, sign, later, -, hstanding⟩
      -- no sign of life leaves a worker unregistered
      have hregistered : (sign.standing later).1 ≠ .unregistered := by
        cases sign with
        | registered => simp [Sign.standing]
        | beat reading =>
            rw [Sign.standing]
            split <;> decide
      exact absurd (congrArg Prod.fst hstanding) (hstatus ▸ hregistered.symm)
  | missingId hfound _ hid =>
      rcases h.wellFormed.of_nodeUnder? hfound with ⟨id, -, hold, -⟩
      rw [h.storedId?_eq hids hold] at hid
      cases hid

/-- **Liveness.** In every diary, what is said of a key is decided by the history of the key. -/
theorem portrait_of_diary (h : Diary log b) (key : String) : Portrait log b key := by
  rcases h.chronicle with ⟨hplain, hchron⟩
  have hdepicts := hchron.depicts key
  rw [Depicts] at hdepicts
  refine ⟨?_, ?_, ?_, fun hids hkey => hchron.beats hplain hids hkey⟩
  · intro hkey
    cases hlast : lastSign? key log with
    | none => exact absurd hlast hkey.lastSign?_ne_none
    | some p =>
        rcases p with ⟨sign, later⟩
        rw [hlast] at hdepicts
        rcases hdepicts with ⟨id, n, hn, hstanding, hstamp⟩
        exact ⟨sign, later, id, n, rfl, hn, hstanding, hstamp⟩
  · intro hkey
    have hlast : lastSign? key log = none := by
      by_contra hsome
      exact hkey (hchron.enrolled key hsome)
    rw [hlast] at hdepicts
    have hfound : b.store.nodeUnder? key = none := Store.nodeUnder?_eq_none.mpr hdepicts
    have hends := heartbeat_ends hplain hchron.wellFormed key
    generalize ((heartbeat key).run.run b).1 = answer at hends ⊢
    generalize ((heartbeat key).run.run b).2.store = s' at hends ⊢
    cases hends with
    | unknown => exact ⟨hdepicts, rfl, rfl⟩
    | unregistered hsome => rw [hfound] at hsome; cases hsome
    | missingId hsome => rw [hfound] at hsome; cases hsome
    | revived hsome => rw [hfound] at hsome; cases hsome
  · intro hids hunused nodeKey info hadm _
    exact hchron.registers hplain hids hunused hadm

/-- A worker registers, is heard of once and is then silent for 31 seconds, where 30 are allowed;
another key was never registered. -/
theorem portrait_silentWorker : ∃ log b, Diary log b ∧ IsEnrolled "w1" log ∧
    (lastSign? "w1" log).map (fun p => p.1.standing p.2) = some (.offline, false) ∧
    Portrait log b "w1" ∧ Portrait log b "w2" := by
  have hstart : Diary [] { wall := .epoch, clock := .epoch } := .start rfl rfl
  have hregister := hstart.visit (by decide) (.register "w1" {})
  have hbeat := hregister.visit (by decide +kernel) (.heartbeat "w1")
  have hsweep := (hbeat.pass { used := 1 } .epoch ⟨31, 0⟩).visit (by decide) (.sweep 30)
  exact ⟨_, _, hsweep, ⟨_, List.mem_cons_self, by decide +kernel⟩, by decide +kernel,
    portrait_of_diary hsweep "w1", portrait_of_diary hsweep "w2"⟩

end Diaries
end ControlPlane.Coordination
