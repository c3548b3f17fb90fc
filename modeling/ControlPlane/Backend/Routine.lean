import ControlPlane.Backend.Basic

/-!
# Routines

A routine is what a service does for one request: it asks the backend one call after another, and
what it asks next depends on the answers. Between two calls other routines may run, so a routine
can be run alone (`Routine.run`) or one call at a time (`Routine.step?`).

Main statement: running one routine after another is running them in sequence
(`Routine.run_bind`).
-/

set_option autoImplicit false

namespace ControlPlane

inductive Routine (α : Type) where
  | done (a : α)
  | ask (c : Call) (next : c.Answer → Routine α)

namespace Routine

variable {α β : Type}

/-- Goes on with another routine. -/
def bind : Routine α → (α → Routine β) → Routine β
  | done a, f => f a
  | ask c next, f => ask c fun answer => (next answer).bind f

instance : Monad Routine where
  pure := done
  bind := bind

/-! ## Running -/

/-- Runs a routine alone. -/
def run : Routine α → Backend → α × Backend
  | done a, b => (a, b)
  | ask c next, b =>
      let (answer, b) := b.perform c
      (next answer).run b

/-- Makes the next call of a routine that is not done. -/
def step? : Routine α → Backend → Option (Routine α × Backend)
  | done _, _ => none
  | ask c next, b =>
      let (answer, b) := b.perform c
      some (next answer, b)

@[simp] theorem run_pure (a : α) (b : Backend) : (pure a : Routine α).run b = (a, b) := rfl

@[simp] theorem run_done (a : α) (b : Backend) : (done a).run b = (a, b) := rfl

theorem run_ask (c : Call) (next : c.Answer → Routine α) (b : Backend) :
    (ask c next).run b = (next (b.perform c).1).run (b.perform c).2 := rfl

@[simp] theorem run_bind (r : Routine α) (f : α → Routine β) (b : Backend) :
    (r >>= f).run b = (f (r.run b).1).run (r.run b).2 := by
  show (r.bind f).run b = _
  induction r generalizing b with
  | done a => rfl
  | ask c next ih => exact ih _ _

theorem bind_done (r : Routine α) : r.bind done = r := by
  induction r with
  | done a => rfl
  | ask c next ih => simp [bind, ih]

theorem bind_assoc {γ : Type} (r : Routine α) (f : α → Routine β) (g : β → Routine γ) :
    (r.bind f).bind g = r.bind fun a => (f a).bind g := by
  induction r with
  | done a => rfl
  | ask c next ih => simp [bind, ih]

instance : LawfulMonad Routine :=
  .mk' Routine (fun r => bind_done r) (fun _ _ => rfl) (fun r f g => bind_assoc r f g)

/-! ## Single calls -/

def getById (kind : Kind) (id : ObjectId) : Routine (Except StoreError Model) :=
  ask (.getById kind id) done

def get (kind : Kind) (q : Query) : Routine (Except StoreError Model) := ask (.get kind q) done

def getList (kind : Kind) (q : Query) (page : Page) : Routine (Except StoreError (List Model)) :=
  ask (.getList kind q page) done

def getArtifact (kind : Kind) (id : ObjectId) : Routine (Except StoreError Artifact) :=
  ask (.getArtifact kind id) done

def add (m : Model) : Routine (Except StoreError Model) := ask (.add m) done

def save (m : Model) : Routine (Except StoreError Model) := ask (.save m) done

def delete (kind : Kind) (id : ObjectId) : Routine (Except StoreError Unit) :=
  ask (.delete kind id) done

def now : Routine Instant := ask .now done

/-- Adds one to a counter. -/
def count (c : Counter) : Routine Unit := ask (.count c 1) done

def countMany (c : Counter) (n : Nat) : Routine Unit := ask (.count c n) done

def time : Routine Unit := ask .time done

def gauge : Routine Unit := ask .gauge done

def retain (task : ObjectId) (batch : OutputBatch) : Routine Unit := ask (.retain task batch) done

def lookUp (key : String) : Routine (Option Subscription) := ask (.lookUp key) done

def install (key : String) (sink : SinkId) (isHeard : Bool) : Routine SignalId :=
  ask (.install key sink isHeard) done

def remove (key : String) : Routine Unit := ask (.remove key) done

def finish (signal : SignalId) : Routine Bool := ask (.finish signal) done

end Routine

/-! ## Routines that may fail -/

/-- A routine that ends in a value or an error. -/
abbrev Attempt (ε α : Type) := ExceptT ε Routine α

namespace Attempt

variable {δ ε α : Type}

/-- An attempt from a routine whose errors are another service's. -/
def of (r : Routine (Except δ α)) (wrap : δ → ε) : Attempt ε α :=
  .mk do return (← r).mapError wrap

end Attempt
end ControlPlane
