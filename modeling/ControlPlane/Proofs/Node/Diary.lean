import ControlPlane.Proofs.Backend.Alone
import ControlPlane.Proofs.Node.Race
import ControlPlane.Proofs.Time.Span
import Mathlib.Data.List.Induction

/-!
# Diaries

The registrations, heartbeats and sweeps that were served since the store was empty, one at a
time and at any readings of the clock, with their answers. Those that succeed under a key are its
*signs* of life. The last sign of a key and the visits after it are read off the diary
(`lastSign?`), and so is its last heartbeat (`lastBeat?`); both follow the diary entry by entry.
-/

set_option autoImplicit false

namespace ControlPlane.Coordination

/-! ## Diaries -/

/-- A visit that was served, with the reading of the clock and the id at hand for a new record. -/
structure Entry where
  clock : Instant
  fresh : ObjectId
  visit : Visit
  answer : visit.Answer

/-- The visits served since the store was empty. Between two of them the clock may go to any
reading, forth or back. -/
inductive Diary : List Entry → Backend → Prop
  | start {b : Backend} (hplain : b.IsPlain) (hempty : b.store = {}) : Diary [] b
  | pass {log : List Entry} {b : Backend} (h : Diary log b) (ids : IdSupply)
      (wall clock : Instant) : Diary log { b with ids, wall, clock }
  | visit {log : List Entry} {b : Backend} (h : Diary log b) (hclock : b.clock.IsRepresentable)
      (v : Visit) :
      Diary (log ++ [⟨b.clock, b.ids.next, v, (v.serve.run b).1⟩]) (v.serve.run b).2

/-! ## Signs of life -/

/-- A sign of life of a worker. -/
inductive Sign where
  | registered
  | beat (reading : Instant)
deriving DecidableEq

namespace Sign

def reading? : Sign → Option Instant
  | registered => none
  | beat reading => some reading

end Sign

namespace Entry

/-- The sign of life that a visit gives under a key: a registration or a heartbeat that
succeeded. -/
def sign? (key : String) : Entry → Option Sign
  | ⟨_, _, .register nodeKey info, .ok _⟩ =>
      if effectiveKey nodeKey info = key then some .registered else none
  | ⟨clock, _, .heartbeat k, .ok _⟩ => if k = key then some (.beat clock) else none
  | _ => none

/-- The visit is a sweep that finds a heartbeat too old. -/
def misses (beat : Instant) (e : Entry) : Bool :=
  match e.visit with
  | .sweep timeout => ((timeout * Instant.nanosPerSecond : Nat) : Int) < e.clock.nanosSince beat
  | _ => false

end Entry

/-- The status of a worker and whether it is active, by its last sign of life and the visits after
it. -/
def Sign.standing : Sign → List Entry → NodeStatus × Bool
  | registered, _ => (.registered, true)
  | beat reading, later =>
      if later.any (Entry.misses reading) then (.offline, false) else (.online, true)

/-- The last sign of life under a key, and the visits after it. -/
def lastSign? (key : String) : List Entry → Option (Sign × List Entry)
  | [] => none
  | e :: es => (lastSign? key es).or ((e.sign? key).map fun sign => (sign, es))

/-- The reading of the last successful heartbeat of a key. -/
def lastBeat? (key : String) (log : List Entry) : Option Instant :=
  (log.filterMap fun e => (e.sign? key).bind Sign.reading?).getLast?

/-- The key was registered. -/
def IsEnrolled (key : String) (log : List Entry) : Prop :=
  ∃ e ∈ log, e.sign? key = some .registered

section Log

variable {key : String} {log : List Entry} {e : Entry}

theorem lastSign?_concat (key : String) (log : List Entry) (e : Entry) :
    lastSign? key (log ++ [e])
      = match e.sign? key with
        | some sign => some (sign, [])
        | none => (lastSign? key log).map fun p => (p.1, p.2 ++ [e]) := by
  induction log with
  | nil =>
      cases h : e.sign? key <;> simp [lastSign?, h]
  | cons x log ih =>
      rw [List.cons_append, lastSign?, ih, lastSign?]
      cases e.sign? key with
      | some sign => rfl
      | none => cases lastSign? key log <;> cases x.sign? key <;> rfl

theorem lastBeat?_concat (key : String) (log : List Entry) (e : Entry) :
    lastBeat? key (log ++ [e]) = ((e.sign? key).bind Sign.reading?).or (lastBeat? key log) := by
  rw [lastBeat?, List.filterMap_append, List.getLast?_append]
  cases h : (e.sign? key).bind Sign.reading? <;> simp [lastBeat?, h]

/-- A visit that gives no sign under a key comes after the last one. -/
theorem lastSign?_concat_of_none (log : List Entry) (h : e.sign? key = none) :
    lastSign? key (log ++ [e]) = (lastSign? key log).map (fun p => (p.1, p.2 ++ [e])) ∧
      lastBeat? key (log ++ [e]) = lastBeat? key log := by
  rw [lastSign?_concat, lastBeat?_concat, h]
  exact ⟨rfl, rfl⟩

/-- A sign of life is the last one. -/
theorem lastSign?_concat_of_some (log : List Entry) {sign : Sign} (h : e.sign? key = some sign) :
    lastSign? key (log ++ [e]) = some (sign, []) ∧
      lastBeat? key (log ++ [e]) = sign.reading?.or (lastBeat? key log) := by
  rw [lastSign?_concat, lastBeat?_concat, h]
  exact ⟨rfl, rfl⟩

/-- Without a sign of life there was no heartbeat. -/
theorem lastBeat?_of_lastSign?_eq_none (h : lastSign? key log = none) :
    lastBeat? key log = none := by
  induction log using List.reverseRecOn with
  | nil => rfl
  | append_singleton log e ih =>
      cases hsign : e.sign? key with
      | some sign =>
          rw [(lastSign?_concat_of_some log hsign).1] at h
          cases h
      | none =>
          rcases lastSign?_concat_of_none log hsign with ⟨hlast, hbeat⟩
          rw [hbeat]
          rw [hlast, Option.map_eq_none_iff] at h
          exact ih h

/-- A last sign that is a heartbeat is the last heartbeat. -/
theorem lastBeat?_of_lastSign? {reading : Instant} {later : List Entry}
    (h : lastSign? key log = some (.beat reading, later)) : lastBeat? key log = some reading := by
  induction log using List.reverseRecOn generalizing later with
  | nil => cases h
  | append_singleton log e ih =>
      cases hsign : e.sign? key with
      | some sign =>
          rcases lastSign?_concat_of_some log hsign with ⟨hlast, hbeat⟩
          rw [hlast] at h
          cases h
          rw [hbeat]
          rfl
      | none =>
          rcases lastSign?_concat_of_none log hsign with ⟨hlast, hbeat⟩
          rw [hlast] at h
          rcases Option.map_eq_some_iff.mp h with ⟨⟨sign, rest⟩, hrest, hpair⟩
          cases hpair
          rw [hbeat]
          exact ih hrest

theorem Entry.reading_eq_clock {reading : Instant} (h : e.sign? key = some (.beat reading)) :
    reading = e.clock := by
  rcases e with ⟨clock, fresh, v, answer⟩
  cases v with
  | register nodeKey info =>
      cases answer with
      | ok n =>
          rw [Entry.sign?] at h
          split at h <;> cases h
      | error x => cases h
  | heartbeat k =>
      cases answer with
      | ok n =>
          rw [Entry.sign?] at h
          split at h
          · cases h
            rfl
          · cases h
      | error x => cases h
  | sweep timeout => cases h

/-- The last heartbeat was read off the clock. -/
theorem exists_of_lastBeat? {reading : Instant} (h : lastBeat? key log = some reading) :
    ∃ e ∈ log, e.clock = reading := by
  have hmem := List.mem_of_getLast? h
  rcases List.mem_filterMap.mp hmem with ⟨e, he, hread⟩
  rcases Option.bind_eq_some_iff.mp hread with ⟨sign, hsign, hreading⟩
  cases sign with
  | registered => cases hreading
  | beat r =>
      cases hreading
      exact ⟨e, he, (Entry.reading_eq_clock hsign).symm⟩

/-- A key that was registered has a last sign. -/
theorem IsEnrolled.lastSign?_ne_none (h : IsEnrolled key log) : lastSign? key log ≠ none := by
  induction log using List.reverseRecOn with
  | nil =>
      rcases h with ⟨e, he, -⟩
      cases he
  | append_singleton log e ih =>
      rw [lastSign?_concat]
      cases hsign : e.sign? key with
      | some sign => simp
      | none =>
          rcases h with ⟨x, hx, henrols⟩
          have hold : x ∈ log := by
            rcases List.mem_append.mp hx with hx | hx
            · exact hx
            · rw [List.mem_singleton.mp hx, hsign] at henrols
              cases henrols
          simpa using ih ⟨x, hold, henrols⟩

theorem IsEnrolled.concat (h : IsEnrolled key log) (e : Entry) : IsEnrolled key (log ++ [e]) := by
  rcases h with ⟨x, hx, henrols⟩
  exact ⟨x, List.mem_append_left _ hx, henrols⟩

/-- A visit that misses no heartbeat leaves the standing as it is. -/
theorem Sign.standing_concat_of_not_misses (sign : Sign) (later : List Entry)
    (h : ∀ reading, e.misses reading = false) :
    sign.standing (later ++ [e]) = sign.standing later := by
  cases sign with
  | registered => rfl
  | beat reading => simp [Sign.standing, h]

end Log

end ControlPlane.Coordination
