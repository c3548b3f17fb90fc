import ControlPlane.Node.Coordination
import ControlPlane.Stream.Loop

/-!
# Which calls a routine makes

What a routine may do to the backend follows from which calls it may make, whatever their answers
are (`Routine.AsksOnly`). Here this is used for one key of the registry: a call leaves it alone
unless it installs or removes something there (`Call.registryKey?`), so a routine without such calls
does.

Main statements: a routine that asks for nothing but certain calls moves the backend along every
preorder that these calls respect (`Routine.AsksOnly.run`), and what that means for the entry of
a key (`Routine.AsksOnly.leaves`).
-/

set_option autoImplicit false

namespace ControlPlane

/-! ## Routines -/

namespace Routine

variable {α β : Type} {P Q : Call → Prop}

/-- Every call of the routine is of a certain kind, whatever the calls before it are answered. -/
def AsksOnly (P : Call → Prop) : Routine α → Prop
  | done _ => True
  | ask c next => P c ∧ ∀ answer, (next answer).AsksOnly P

theorem asksOnly_pure (a : α) : (pure a : Routine α).AsksOnly P := trivial

theorem asksOnly_ask {c : Call} (h : P c) : (ask c done).AsksOnly P := ⟨h, fun _ => trivial⟩

theorem AsksOnly.bind {r : Routine α} {f : α → Routine β} (h : r.AsksOnly P)
    (hf : ∀ a, (f a).AsksOnly P) : (r >>= f).AsksOnly P := by
  show (r.bind f).AsksOnly P
  induction r with
  | done a => exact hf a
  | ask c next ih => exact ⟨h.1, fun answer => ih answer (h.2 answer)⟩

theorem AsksOnly.mono {r : Routine α} (h : r.AsksOnly P) (hPQ : ∀ c, P c → Q c) :
    r.AsksOnly Q := by
  induction r with
  | done a => trivial
  | ask c next ih => exact ⟨hPQ c h.1, fun answer => ih answer (h.2 answer)⟩

/-- Alone, such a routine moves the backend along every preorder that its calls respect. -/
theorem AsksOnly.run {R : Backend → Backend → Prop} (hrefl : ∀ b, R b b)
    (htrans : ∀ {b c d}, R b c → R c d → R b d) (hcall : ∀ c b, P c → R b (b.perform c).2)
    {r : Routine α} (h : r.AsksOnly P) (b : Backend) : R b (r.run b).2 := by
  induction r generalizing b with
  | done a => exact hrefl b
  | ask c next ih => exact htrans (hcall c b h.1) (ih _ (h.2 _) _)

end Routine

namespace Attempt

variable {δ ε α β : Type} {P : Call → Prop}

theorem asksOnly_bind {x : Attempt ε α} {f : α → Attempt ε β} (h : Routine.AsksOnly P x.run)
    (hf : ∀ a, Routine.AsksOnly P (f a).run) : Routine.AsksOnly P (x >>= f).run := by
  rw [ExceptT.run_bind]
  apply h.bind
  intro r
  cases r with
  | ok a => exact hf a
  | error e => exact Routine.asksOnly_pure _

theorem asksOnly_lift {r : Routine α} (h : r.AsksOnly P) :
    Routine.AsksOnly P (liftM r : Attempt ε α).run :=
  h.bind fun _ => Routine.asksOnly_pure _

theorem asksOnly_of {r : Routine (Except δ α)} (h : r.AsksOnly P) (wrap : δ → ε) :
    Routine.AsksOnly P (Attempt.of r wrap).run :=
  h.bind fun _ => Routine.asksOnly_pure _

end Attempt

/-! ## The registry -/

/-- The key at which a call changes the registry. -/
def Call.registryKey? : Call → Option String
  | .install key .. => some key
  | .remove key => some key
  | _ => none

/-- A call that neither retains output nor changes the registry. -/
def Call.IsAside : Call → Prop
  | .retain .. | .install .. | .remove _ | .finish _ => False
  | _ => True

/-- A call of the store. -/
def Call.IsOfStore : Call → Prop
  | .getById .. | .get .. | .getList .. | .getArtifact .. | .add _ | .save _ | .delete .. => True
  | _ => False

theorem Call.IsOfStore.isAside {c : Call} (h : c.IsOfStore) : c.IsAside := by
  cases c with
  | retain task batch => cases h
  | install key sink isHeard => cases h
  | remove key => cases h
  | finish signal => cases h
  | _ => trivial

/-- A call leaves the entry of a key alone. -/
def Call.Avoids (key : String) (c : Call) : Prop := c.registryKey? ≠ some key

theorem Call.IsAside.avoids {c : Call} (h : c.IsAside) (key : String) : c.Avoids key := by
  cases c with
  | install l sink isHeard => cases h
  | remove l => cases h
  | _ => nofun

/-- A single call that is about no key. -/
theorem Routine.asksOnly_aside {c : Call} {key : String} (h : c.registryKey? = none) :
    (ask c done).AsksOnly (Call.Avoids key) := by
  apply asksOnly_ask
  rw [Call.Avoids, h]
  simp

/-- The entry of a key stays as it is, and numbers of signals are used up only. -/
structure Registry.Leaves (key : String) (r r' : Registry) : Prop where
  find : r'.find? key = r.find? key
  signal : r.nextSignal ≤ r'.nextSignal

namespace Registry

variable {key : String} {r r' r'' : Registry}

theorem Leaves.refl (key : String) (r : Registry) : r.Leaves key r := ⟨rfl, Nat.le_refl _⟩

theorem Leaves.trans (h : r.Leaves key r') (h' : r'.Leaves key r'') : r.Leaves key r'' :=
  ⟨h'.find.trans h.find, Nat.le_trans h.signal h'.signal⟩

theorem find?_set (r : Registry) (key l : String) (s : Subscription) :
    (r.set key s).find? l = if key = l then some s else r.find? l :=
  Table.find?_insert _ _ _ _

theorem find?_erase (r : Registry) (key l : String) :
    (r.erase key).find? l = if key = l then none else r.find? l :=
  Table.find?_erase _ _ _

theorem leaves_raise (key : String) (r : Registry) (signal : SignalId) :
    r.Leaves key (r.raise signal).2 := by
  unfold raise
  split
  · split <;> exact ⟨rfl, Nat.le_refl _⟩
  · exact .refl key r

end Registry

namespace Backend

/-- What a call of the store has nothing to do with: the retained output, its limits and the
registry. -/
def surroundings (b : Backend) : Retention × RetainedOutput × Registry :=
  (b.retention, b.retained, b.registry)

theorem surroundings_scripted {α : Type} {b : Backend} {c : StoreCall} {ofModel : Model → α}
    {make : Backend → Except StoreError α × Backend}
    (h : ∀ b, (make b).2.surroundings = b.surroundings) :
    (b.scripted c ofModel make).2.surroundings = b.surroundings := by
  unfold scripted
  split
  · rw [h]
    rfl
  · rfl
  · rfl

/-- A call that neither retains output nor changes the registry leaves its surroundings alone. -/
theorem surroundings_perform (b : Backend) {c : Call} (h : c.IsAside) :
    (b.perform c).2.surroundings = b.surroundings := by
  cases c with
  | getById k i => exact surroundings_scripted fun _ => rfl
  | get k q => exact surroundings_scripted fun _ => rfl
  | getList k q page => exact surroundings_scripted fun _ => rfl
  | getArtifact k i => exact surroundings_scripted fun _ => rfl
  | add m =>
      apply surroundings_scripted
      intro b
      rw [Backend.add]
      split <;> rfl
  | save m =>
      apply surroundings_scripted
      intro b
      rw [Backend.save]
      split <;> rfl
  | delete k i =>
      apply surroundings_scripted
      intro b
      rw [Backend.delete]
      split <;> rfl
  | install l sink isHeard => cases h
  | remove l => cases h
  | retain task batch => cases h
  | finish signal => cases h
  | _ => rfl

theorem registry_perform (b : Backend) {c : Call} (h : c.IsAside) :
    (b.perform c).2.registry = b.registry := congrArg (·.2.2) (b.surroundings_perform h)

/-- A call leaves every entry alone but the one that it installs or removes. -/
theorem leaves_perform {c : Call} {key : String} (b : Backend) (h : c.Avoids key) :
    b.registry.Leaves key (b.perform c).2.registry := by
  have haside (hc : c.IsAside) : b.registry.Leaves key (b.perform c).2.registry :=
    b.registry_perform hc ▸ .refl key _
  cases c with
  | install l sink isHeard =>
      have hne : l ≠ key := fun hl => h (congrArg some hl)
      refine ⟨?_, Nat.le_succ _⟩
      exact (Registry.find?_set _ l key _).trans (if_neg hne)
  | remove l =>
      have hne : l ≠ key := fun hl => h (congrArg some hl)
      exact ⟨(Registry.find?_erase _ l key).trans (if_neg hne), Nat.le_refl _⟩
  | finish signal => exact Registry.leaves_raise key b.registry signal
  | retain task batch => exact .refl key _
  | _ => exact haside trivial

end Backend

/-- A routine that changes the registry nowhere else leaves the entry of a key alone. -/
theorem Routine.AsksOnly.leaves {α : Type} {r : Routine α} {key : String}
    (h : r.AsksOnly (Call.Avoids key)) (b : Backend) :
    b.registry.Leaves key (r.run b).2.registry :=
  h.run (R := fun b b' => b.registry.Leaves key b'.registry) (fun b => .refl key b.registry)
    Registry.Leaves.trans (fun _ b hc => b.leaves_perform hc) b

/-! ## Services -/

section Services

variable {key : String}

theorem Registry.nodeKey_injective {k l : String} (h : nodeKey k = nodeKey l) : k = l := by
  have hlist : "node:".toList ++ k.toList = "node:".toList ++ l.toList := by
    rw [← String.toList_append, ← String.toList_append]
    exact congrArg String.toList h
  exact String.toList_inj.mp (List.append_cancel_left hlist)

theorem Registry.nodeKey_ne_empty (node : String) : nodeKey node ≠ "" := by
  intro h
  have hlist := congrArg String.toList h
  simp [nodeKey] at hlist

theorem Coordination.asksOnly_install {k : String} (hk : Registry.nodeKey k ≠ key)
    (sink : SinkId) : (install k sink).AsksOnly (Call.Avoids key) := by
  apply Routine.AsksOnly.bind (Routine.asksOnly_ask fun h => hk (Option.some.inj h))
  intro signal
  exact (Routine.asksOnly_aside rfl).bind fun _ => Routine.asksOnly_pure _

namespace Ingest

/-- Counting a batch is a matter of the store. -/
theorem asksOnly_bump (task : ObjectId) (batch : OutputBatch) :
    Routine.AsksOnly Call.IsOfStore (bump task batch).run := by
  have hfind : Routine.AsksOnly Call.IsOfStore (findStat task).run := by
    apply (Routine.asksOnly_ask trivial).bind
    intro r
    cases r with
    | ok m => cases m <;> exact Routine.asksOnly_pure _
    | error e => exact Routine.asksOnly_pure _
  apply Attempt.asksOnly_bind hfind
  intro stat?
  cases stat? with
  | none => exact Routine.asksOnly_pure _
  | some s =>
      apply Attempt.asksOnly_bind (Attempt.asksOnly_of (Routine.asksOnly_ask trivial) _)
      intro saved
      exact Routine.asksOnly_pure _

variable {P : Call → Prop}

/-- Taking in a batch has nothing to do with the registry. -/
theorem asksOnly_take (haside : ∀ c, c.IsAside → P c)
    (hretain : ∀ task batch, P (.retain task batch)) (task : ObjectId) (batch : OutputBatch) :
    Routine.AsksOnly P (take task batch).run := by
  apply Attempt.asksOnly_bind
  · apply Attempt.asksOnly_bind (Attempt.asksOnly_lift (Routine.asksOnly_ask (hretain task batch)))
    intro _
    exact (asksOnly_bump task batch).mono fun c hc => haside c hc.isAside
  · intro _
    exact Attempt.asksOnly_lift (Routine.asksOnly_ask (haside _ trivial))

theorem asksOnly_receive (haside : ∀ c, c.IsAside → P c)
    (hretain : ∀ task batch, P (.retain task batch)) (config : IngestConfig) (m : StreamMessage) :
    (receive config m).AsksOnly P := by
  have hrun : Routine.AsksOnly P (run config m).run := by
    unfold run
    rw [ExceptT.run_mk]
    cases batchOf config m with
    | error e => exact Routine.asksOnly_pure _
    | ok p =>
        apply (asksOnly_take haside hretain p.1 p.2).bind
        intro r
        cases r with
        | ok _ => exact Routine.asksOnly_pure _
        | error e =>
            have hcount : (countError e).AsksOnly P := by
              unfold countError
              split
              · exact Routine.asksOnly_ask (haside _ trivial)
              · exact Routine.asksOnly_pure _
            exact hcount.bind fun _ => Routine.asksOnly_pure _
  apply hrun.bind
  intro r
  cases r with
  | ok _ => exact Routine.asksOnly_pure _
  | error e => exact Routine.asksOnly_ask (haside _ trivial)

end Ingest

theorem Collector.asksOnly_onArrival {P : Call → Prop} (haside : ∀ c, c.IsAside → P c)
    (hretain : ∀ task batch, P (.retain task batch)) (config : IngestConfig)
    (arrival? : Option Arrival) : (onArrival config arrival?).AsksOnly P := by
  cases arrival? with
  | none => exact Routine.asksOnly_pure _
  | some arrival =>
      cases arrival with
      | ok m =>
          have hreceive := Ingest.asksOnly_receive haside hretain config m
          exact hreceive.bind fun _ => Routine.asksOnly_pure _
      | error e =>
          rw [onArrival]
          split
          · exact Routine.asksOnly_pure _
          · exact (Routine.asksOnly_ask (haside (.count ..) trivial)).bind fun _ =>
              Routine.asksOnly_pure _

end Services
end ControlPlane
