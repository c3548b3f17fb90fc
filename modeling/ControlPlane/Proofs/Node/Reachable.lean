import ControlPlane.Proofs.Backend.Session
import ControlPlane.Proofs.Node.Uniqueness
import Mathlib.Algebra.Group.Nat.Defs

/-!
# Runs of the master are sessions

What a service asks of the backend, it asks in single calls, so a routine that is served continues
the session of the calls before it (`Backend.Session.run`), provided that no id of the supply is
the zero one. That holds of every supply whose second is not the very first
(`IdSupply.isProper_of_seconds`). A run of the master is a session therefore, with its delegate
calls as well (`Master.session_runTurns`, `Master.session_freshMaster`).
-/

set_option autoImplicit false

namespace ControlPlane

/-! ## Supplies of ids -/

/-- The octets of a number are zero only if they cannot tell the number from zero. -/
theorem ObjectId.mod_eq_zero_of_bigEndian {width n : Nat}
    (h : ∀ octet ∈ bigEndian width n, octet = 0) : n % 256 ^ width = 0 := by
  induction width generalizing n with
  | zero => exact Nat.mod_one n
  | succ width ih =>
      rw [bigEndian, List.forall_mem_append, List.forall_mem_singleton] at h
      obtain ⟨hhigh, hlow⟩ := h
      have hrest : n / 256 % 256 ^ width = 0 := ih hhigh
      have hlast : n % 256 = 0 := by
        have hoctet : (UInt8.ofNat n).toNat = 0 := by rw [hlow]; rfl
        simpa using hoctet
      calc n % 256 ^ (width + 1) = n % (256 * 256 ^ width) := by rw [Nat.pow_succ, Nat.mul_comm]
        _ = n % 256 + 256 * (n / 256 % 256 ^ width) := Nat.mod_mul
        _ = 0 := by rw [hlast, hrest]

namespace IdSupply

/-- No id of the supply is zero. -/
def IsProper (s : IdSupply) : Prop := ∀ n, (s.id n).isZero = false

theorem isProper_of_seconds {s : IdSupply} (h : s.seconds % 2 ^ 32 ≠ 0) : s.IsProper := by
  intro n
  rw [ObjectId.isZero, beq_eq_false_iff_ne]
  intro hzero
  have hbytes : (s.id n).bytes = List.replicate 12 0 := congrArg ObjectId.bytes hzero
  have hseconds : ∀ octet ∈ ObjectId.bigEndian 4 s.seconds, octet = 0 := by
    intro octet hoctet
    have hmem : octet ∈ (s.id n).bytes :=
      List.mem_append_left _ (List.mem_append_left _ hoctet)
    rw [hbytes] at hmem
    exact List.eq_of_mem_replicate hmem
  exact h (ObjectId.mod_eq_zero_of_bigEndian hseconds)

/-- Using an id up leaves the ids as they are. -/
theorem IsProper.advance {s : IdSupply} (h : s.IsProper) : s.advance.IsProper := h

end IdSupply

namespace Backend

variable {b : Backend} {xs : List Exchange}

theorem isProper_perform (hb : b.IsPlain) (hids : b.ids.IsProper) (c : Call) :
    (b.perform c).2.ids.IsProper := by
  cases c with
  | add m =>
      rw [perform_add hb, Backend.add]
      cases b.store.add b.ids.next b.wall m with
      | error e => exact hids
      | ok p =>
          show (if m.storedId?.isSome then b.ids else b.ids.advance).IsProper
          split
          · exact hids
          · exact hids.advance
  | save m =>
      rw [perform_save hb, Backend.save]
      cases b.store.save b.wall m <;> exact hids
  | delete kind id =>
      rw [perform_delete hb, Backend.delete]
      cases b.store.delete b.wall kind id <;> exact hids
  | getById kind id => rwa [perform_getById hb]
  | get kind q => rwa [perform_get hb]
  | getList kind q page => rwa [perform_getList hb]
  | getArtifact kind id => rwa [perform_getArtifact hb]
  | _ => exact hids

/-- **Services are sessions.** A routine that is served continues the session. -/
theorem Session.run {α : Type} (h : Session xs b) (hids : b.ids.IsProper) (r : Routine α) :
    ∃ ys, Session (xs ++ ys) (r.run b).2 := by
  induction r generalizing b xs with
  | done a => exact ⟨[], (List.append_nil xs).symm ▸ h⟩
  | ask c next ih =>
      have hcall : Session (xs ++ [b.exchange c]) (b.perform c).2 :=
        h.call c fun _ _ _ => hids _
      obtain ⟨ys, hys⟩ := ih (b.perform c).1 hcall (isProper_perform h.isPlain hids c)
      refine ⟨b.exchange c :: ys, ?_⟩
      rw [List.append_cons]
      exact hys

/-- A node that is stored has the id that it is held under, and can be written back there. -/
theorem Session.storedId?_eq (h : Session xs b) {id : ObjectId} {n : Node}
    (hn : b.store.HoldsNode id n) : (Model.node n).storedId? = some id := by
  have hheld : held .node id xs = some (.node n) := (h.find?_eq_held .node id).symm.trans hn
  obtain ⟨-, hid, hnonzero⟩ := h.place_of_held hheld
  exact Model.storedId?_eq_some.mpr ⟨hid, hnonzero⟩

end Backend

namespace Master

/-- Whatever the master is asked for continues the session. -/
theorem session_finish {b : Backend} {xs : List Exchange} (h : Backend.Session xs b)
    (hids : b.ids.IsProper) (w : Work) : ∃ ys, Backend.Session (xs ++ ys) (w.finish b) := by
  cases w with
  | register nodeKey info => exact h.run hids _
  | heartbeat key => exact h.run hids _
  | sweep timeout => exact h.run hids _
  | upsertMaster n => exact h.run hids _
  | delegate r => exact h.run hids _

/-- **Runs of the master are sessions.** -/
theorem session_runTurns {b : Backend} {xs : List Exchange} (h : Backend.Session xs b)
    {ts : List Turn} (hids : ∀ t ∈ ts, t.ids.IsProper) :
    ∃ ys, Backend.Session (xs ++ ys) (runTurns b ts) := by
  induction ts generalizing b xs with
  | nil => exact ⟨[], (List.append_nil xs).symm ▸ h⟩
  | cons t ts ih =>
      rw [List.forall_mem_cons] at hids
      obtain ⟨ys, hys⟩ := session_finish (h.pass t.ids t.wall t.clock) hids.1 t.work
      obtain ⟨zs, hzs⟩ := ih hys hids.2
      refine ⟨ys ++ zs, ?_⟩
      rw [← List.append_assoc]
      exact hzs

/-- From the start on, that is, unless an id was made in the very first second. -/
theorem session_freshMaster {ts : List Turn} (h : ∀ t ∈ ts, t.ids.seconds % 2 ^ 32 ≠ 0) :
    ∃ xs, Backend.Session xs (runTurns freshMaster ts) :=
  session_runTurns (.start freshMaster rfl rfl) fun t ht => IdSupply.isProper_of_seconds (h t ht)

end Master
end ControlPlane
