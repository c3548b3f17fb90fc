import ControlPlane.Proofs.Network.Turns

/-!
# Clean ends

A stream ends cleanly when nobody sends any more, when it was closed or cancelled, and when a
message quits. Which of these it was makes no difference to anybody, and neither does anything
that comes afterwards. A stream that ends with an error makes two: the error is what its loop ends
with, and it is counted once.

That is a statement about two networks in which the same acts happen and of which one inbox tells
one loop the same messages (`Loop.Twins`): an act that is possible in one is possible in the
other, and leads to such networks again.

Main statement: `Loop.endsCleanly`.
-/

set_option autoImplicit false

namespace ControlPlane

namespace Loop

open Network

variable {n n' k : Network} {l : Loop} {s : InboxId} {t : ActorId} {e? : Option StreamError}
  {ms : List StreamMessage} {p : Option Routing} {x y : Inbox} {a : Act}

/-! ## Two networks -/

/-- What a loop would have left that met an error: it would have counted the error, and ended
with it. -/
def mark (l : Loop) (t : ActorId) (e? : Option StreamError) (n : Network) : Network :=
  e?.elim n fun e =>
    { n with backend := n.backend.note l.counter }.setActor t (.ended (l.failure e))

/-- The veil that hides the error. -/
def veil (l : Loop) (y : Inbox) (e? : Option StreamError) : Veil where
  inbox := y
  ending? := e?.map l.failure
  counted? := e?.map fun _ => l.counter

theorem setInbox_mark (l : Loop) (s : InboxId) (t : ActorId) (y : Inbox) (e? : Option StreamError)
    (n : Network) : (l.mark t e? n).setInbox s y = n.veil s t (l.veil y e?) := by
  cases e? <;> rfl

/-- Two networks of which one inbox tells one loop the same messages, and in the second one also
an error, if there is one. When the loop has ended, only that is left of the difference. -/
inductive Twins (l : Loop) (s : InboxId) (t : ActorId) (e? : Option StreamError) :
    Network → Network → Prop
  | serving {n : Network} {p : Option Routing} {ms : List StreamMessage} {y : Inbox}
      (hn : n.Hosts l s t p ms none) (hy : y.Tells l ms e?) : Twins l s t e? n (n.setInbox s y)
  | ended {n : Network} {y : Inbox} (hn : n.Concludes l s t none) (hy : y.IsShut) :
      Twins l s t e? n ((l.mark t e? n).setInbox s y)

/-! ### The loop's own steps -/

/-- The same arrival, whatever else is in the inbox. -/
theorem heed_setInbox (n : Network) (l : Loop) (s : InboxId) (t : ActorId)
    (arrival? : Option Arrival) (y x' y' : Inbox) :
    (n.setInbox s y).heed l s t arrival? y' = (n.heed l s t arrival? x').setInbox s
      ((l.respond n.ingest arrival? n.backend).1.leaves y') := by
  simp only [heed, setActor, setInbox, Table.insert_insert]

theorem heed_of_closes {arrival? : Option Arrival} (h : Closes arrival? e?) (n : Network)
    (l : Loop) (s : InboxId) (t : ActorId) (z : Inbox) :
    n.heed l s t arrival? z
      = ({ n with backend := l.charge e? n.backend }.setActor t
          (.ended (l.verdict e?))).setInbox s z.shut := by
  rw [heed, respond_of_closes h]
  rfl

/-- Two ends of a stream, the first one clean. -/
theorem heed_closes {a₁ a₂ : Option Arrival} (h₁ : Closes a₁ none) (h₂ : Closes a₂ e?)
    (n : Network) (l : Loop) (s : InboxId) (t : ActorId) (y x' y' : Inbox) :
    (n.setInbox s y).heed l s t a₂ y'
      = (l.mark t e? (n.heed l s t a₁ x')).setInbox s y'.shut := by
  rw [heed_of_closes h₁, heed_of_closes h₂]
  cases e? with
  | none =>
      simp only [charge, verdict, mark, Option.elim_none, setActor, setInbox, Table.insert_insert]
  | some e =>
      simp only [charge, verdict, mark, Option.elim_none, Option.elim_some, setActor, setInbox,
        Table.insert_insert]

/-- A loop that waits for what arrives next. -/
theorem rel_receive (hn : n.Hosts l s t none ms none) (hy : y.Tells l ms e?) :
    Option.Rel (Twins l s t e?) (n.step? t) ((n.setInbox s y).step? t) := by
  obtain ⟨x, hx, htells⟩ := hn.tells
  rw [step?_actor hn.actor, step?_actor (n := n.setInbox s y) hn.actor, hx, inbox_setInbox,
    Option.bind_some, Option.bind_some]
  cases ms with
  | nil =>
      obtain ⟨a₁, x', hreceive₁, hcloses₁⟩ := htells.last
      obtain ⟨a₂, y', hreceive₂, hcloses₂⟩ := hy.last
      rw [hreceive₁, hreceive₂, Option.map_some, Option.map_some, heed_closes hcloses₁ hcloses₂]
      have hstop : (l.respond n.ingest a₁ n.backend).1 = .stop (l.verdict none) := by
        rw [respond_of_closes hcloses₁]
      exact .some (.ended (hn.secludes.concludes_heed hstop) y'.isShut_shut)
  | cons m ms =>
      obtain ⟨x', hreceive₁, hx'⟩ := htells.next
      obtain ⟨y', hreceive₂, hy'⟩ := hy.next
      rw [hreceive₁, hreceive₂, Option.map_some, Option.map_some, heed_setInbox n l s t _ y x' y']
      -- the message quits in both or in neither
      rcases hx' with ⟨hm, rfl, -⟩ | ⟨hm, hx'⟩ <;> rcases hy' with ⟨hm', -, rfl⟩ | ⟨hm', hy'⟩
      · have hstop := respond_of_quits (c := n.ingest) (b := n.backend) hm
        rw [hstop]
        exact .some (.ended (hn.secludes.concludes_heed hstop) y'.isShut_shut)
      · cases hm.symm.trans hm'
      · cases hm.symm.trans hm'
      · rw [Router.Next.leaves_eq (respond_of_not_quits hm)]
        obtain ⟨p, hhosts⟩ := hn.secludes.hosts_heed hm hx'
        exact .some (.serving hhosts hy')

/-- A loop that has a message on its way. -/
theorem rel_pending {r : Routing} (hn : n.Hosts l s t (some r) ms none) (hy : y.Tells l ms e?) :
    Option.Rel (Twins l s t e?) (n.step? t) ((n.setInbox s y).step? t) := by
  obtain ⟨sink, rfl⟩ := hn.exists_sink
  have hveil : n.setInbox s y = n.veil s t { inbox := y } := rfl
  rw [step?_pending hn.actor, step?_pending (n := n.setInbox s y) hn.actor, hveil,
    routeStep?_veil]
  cases hroute : n.routeStep? t r with
  | none => exact .none
  | some q => exact .some (.serving (hn.routed hroute) hy)

theorem actor_mark (h : n.actors.find? t = some (.ended .ok)) :
    (l.mark t e? n).actors.find? t = some (.ended (l.verdict e?)) := by
  cases e? with
  | none => exact h
  | some e => exact actor_setActor _ t _

/-! ### Any act -/

theorem Twins.step? (h : Twins l s t e? n k) :
    Option.Rel (Twins l s t e?) (n.step? t) (k.step? t) := by
  cases h with
  | @serving p ms y hn hy =>
      cases p with
      | none => exact rel_receive hn hy
      | some r => exact rel_pending hn hy
  | @ended y hn hy =>
      have hk : ((l.mark t e? n).setInbox s y).actors.find? t = some (.ended (l.verdict e?)) :=
        actor_mark hn.actor
      simp only [Network.step?, hn.actor, hk, Option.bind_eq_bind, Option.bind_some]
      exact .none

/-- **One act**, by whomever but the peer behind the inbox. -/
theorem Twins.perform? (h : Twins l s t e? n k) (ha : a.Avoids s) :
    Option.Rel (Twins l s t e?) (a.perform? n) (a.perform? k) := by
  by_cases hstep : a = .step t
  · subst hstep
    exact h.step?
  · cases h with
    | @serving p ms y hn hy =>
        have hwears : n.Wears s t { inbox := y } := ⟨hn.secludes, .inl rfl⟩
        have hmirrors := mirrors_perform? hwears hn.ne_writer ha hstep
        have hveil : n.setInbox s y = n.veil s t { inbox := y } := rfl
        rw [hveil, hmirrors.veiled]
        cases hperform : a.perform? n with
        | none => exact .none
        | some n' => exact .some (.serving (hn.passes (hmirrors.passes n' hperform)) hy)
    | @ended y hn hy =>
        have hwears : n.Wears s t (l.veil y e?) := ⟨hn.secludes, .inr ⟨_, hn.actor⟩⟩
        have hwriter (socket : SocketId) (sink : SinkId) (reader : ActorId) :
            n.actors.find? t ≠ some (.writer socket sink reader) := by simp [hn.actor]
        have hmirrors := mirrors_perform? hwears hwriter ha hstep
        rw [setInbox_mark, hmirrors.veiled]
        cases hperform : a.perform? n with
        | none => exact .none
        | some n' =>
            rw [Option.map_some, ← setInbox_mark]
            exact .some (.ended (hn.passes (hmirrors.passes n' hperform)) hy)

/-- **Any acts.** -/
theorem Twins.after? (h : Twins l s t e? n k) {as : List Act} (has : ∀ a ∈ as, a.Avoids s) :
    Option.Rel (Twins l s t e?) (n.after? as) (k.after? as) := by
  induction as generalizing n k with
  | nil => exact .some h
  | cons a as ih =>
      have hfirst := h.perform? (has a (by simp))
      simp only [Network.after?, List.foldlM_cons, Option.bind_eq_bind]
      generalize a.perform? n = r, a.perform? k = r' at hfirst
      cases hfirst with
      | none => exact .none
      | some htwins => exact ih htwins fun b hb => has b (List.mem_cons_of_mem a hb)

/-! ## Clean ends -/

/-- What the same acts lead to when the first of two streams ends cleanly and the other one may end
with an error: nothing but that error tells them apart. -/
structure Alike (l : Loop) (s : InboxId) (t : ActorId) (e? : Option StreamError) (n k : Network) :
    Prop where
  /-- As long as one of the loops goes on, the other does the same. -/
  serving : n.ending? t = none → ∃ y, k = n.setInbox s y
  /-- The first loop ends well. The second one ends with the error and has counted it, or it ends
  well, too. Nothing is left in their inboxes, and the rest is the same. -/
  ended : ∀ e, n.ending? t = some e → e = .ok ∧ k.ending? t = some (l.verdict e?) ∧
    ∃ x y, n.inboxes.find? s = some x ∧ x.IsShut ∧ y.IsShut ∧ k = (l.mark t e? n).setInbox s y

theorem Twins.alike (h : Twins l s t e? n k) : l.Alike s t e? n k := by
  cases h with
  | @serving p ms y hn hy =>
      refine ⟨fun _ => ⟨y, rfl⟩, ?_⟩
      intro e he
      rw [ending?, hn.actor, Option.bind_some] at he
      cases l <;> cases he
  | @ended y hn hy =>
      have hn' : n.ending? t = some .ok := by rw [ending?, hn.actor]; rfl
      refine ⟨fun hnone => absurd hn' (by simp [hnone]), ?_⟩
      intro e he
      obtain ⟨x, hx, hshut⟩ := hn.shut
      refine ⟨Option.some.inj (he.symm.trans hn'), ?_, x, y, hx, hshut, hy, rfl⟩
      have hk : ((l.mark t e? n).setInbox s y).actors.find? t = some (.ended (l.verdict e?)) :=
        actor_mark hn.actor
      rw [ending?, hk]
      rfl

/-- A loop does not tell one clean end of its stream from another. -/
structure EndsCleanly (l : Loop) (s : InboxId) (t : ActorId) (n₀ : Network) : Prop where
  /-- What one inbox tells before a clean end, and another one before an error or a clean end:
  whatever else happens, the same is possible and leads to the same. -/
  alike : ∀ (x y : Inbox) (ms : List StreamMessage) (e? : Option StreamError),
    x.Tells l ms none → y.Tells l ms e? → ∀ as : List Act, (∀ a ∈ as, a.Avoids s) →
      Option.Rel (l.Alike s t e?) ((n₀.setInbox s x).after? as) ((n₀.setInbox s y).after? as)
  /-- The loop does end, unless it is kept from going on. -/
  finishes : ∀ (x : Inbox) (ms : List StreamMessage) (e? : Option StreamError), x.Tells l ms e? →
    ∀ (acts : Nat → Act) (course : Nat → Network), course 0 = n₀.setInbox s x →
      FairRun s t acts course → ∃ k, (course k).ending? t = some (l.verdict e?)
  /-- Nothing but the end of the stream and a message that quits ends the loop. -/
  ends : ∀ (n n' : Network) (p : Option Routing) (e : Ending),
    n.actors.find? t = some (l.actor s p) → n.step? t = some n' → n'.ending? t = some e →
      ∃ z arrival? z', n.inboxes.find? s = some z ∧ z.receive? = some (arrival?, z') ∧
        l.Ends arrival? e

/-- What makes a loop end is what it received. -/
theorem exists_ends {e : Ending} (hx : n.actors.find? t = some (l.actor s p))
    (hstep : n.step? t = some n') (he : n'.ending? t = some e) :
    ∃ z arrival? z', n.inboxes.find? s = some z ∧ z.receive? = some (arrival?, z') ∧
      l.Ends arrival? e := by
  have hwaiting (hx : n.actors.find? t = some (l.actor s none)) :
      ∃ z arrival? z', n.inboxes.find? s = some z ∧ z.receive? = some (arrival?, z') ∧
        l.Ends arrival? e := by
    rw [step?_actor hx, Option.map_eq_some_iff] at hstep
    obtain ⟨⟨arrival?, z'⟩, hreceive, rfl⟩ := hstep
    obtain ⟨z, hz, hreceive⟩ := Option.bind_eq_some_iff.mp hreceive
    refine ⟨z, arrival?, z', hz, hreceive, ?_⟩
    rw [ending?, actor_heed, Option.bind_some] at he
    rw [← ends_iff (c := n.ingest) (b := n.backend)]
    generalize (l.respond n.ingest arrival? n.backend).1 = next at he
    cases next with
    | receive => cases l <;> cases he
    | route m => cases l <;> cases he
    | stop e' => exact congrArg Router.Next.stop (Option.some.inj he)
  cases l with
  | telemetry sink? => exact hwaiting hx
  | routing sink =>
      cases p with
      | none => exact hwaiting hx
      | some r =>
          rw [step?_pending hx, Option.map_eq_some_iff] at hstep
          obtain ⟨⟨next, n₁⟩, -, rfl⟩ := hstep
          rw [ending?, actor_setActor] at he
          cases he

/-- **Clean ends.** A loop that serves an inbox to which nobody else has access ends in the same
way however its stream is ended cleanly. -/
theorem endsCleanly {n₀ : Network} (hn : n₀.IsNumbered) (hs : n₀.Secludes s t)
    (hx : n₀.actors.find? t = some (l.actor s none)) : l.EndsCleanly s t n₀ where
  alike x y ms e? htellsx htellsy as has := by
    have hhosts := hs.hosts_setInbox hx htellsx
    have htwins : l.Twins s t e? (n₀.setInbox s x) (n₀.setInbox s y) := by
      have hy : n₀.setInbox s y = (n₀.setInbox s x).setInbox s y := by
        simp only [setInbox, Table.insert_insert]
      rw [hy]
      exact .serving hhosts htellsy
    have hrel := htwins.after? has
    generalize (n₀.setInbox s x).after? as = r, (n₀.setInbox s y).after? as = r' at hrel
    cases hrel with
    | none => exact .none
    | some h => exact .some h.alike
  finishes x ms e? htells acts course h₀ hfair := by
    have hhosts := hs.hosts_setInbox hx htells
    rw [← h₀] at hhosts
    obtain ⟨k, -, hends⟩ := hfair.exists_concludes (h₀ ▸ ⟨hn.actors, hn.sinks⟩) hhosts
    exact ⟨k, by rw [ending?, hends.actor]; rfl⟩
  ends n n' p e hx hstep he := exists_ends hx hstep he

/-! ### An office -/

/-- A message stream and a telemetry stream. -/
def office : Network :=
  let n : Network := { backend := { wall := .epoch, clock := .epoch }, frameLimit := 16 }
  ((n.openMessages 1).2.openTelemetry 1 true).2

/-- A peer connects the key under which it sends itself a message. -/
def notes : List Arrival := [.ok { code := 1, key := "a" }, .ok (letter "a" 1)]

/-- Nobody sends any more. -/
def done : Inbox := { channel := { capacity := 8, queue := notes }, hasSender := false }

/-- The connection is lost. -/
def lost : Inbox :=
  { channel := { capacity := 8, queue := notes ++ [.error (.transport "reset")] } }

theorem isNumbered_office : office.IsNumbered := by
  have hnew : ({ backend := { wall := .epoch, clock := .epoch }, frameLimit := 16 } :
      Network).IsNew := ⟨rfl, rfl⟩
  exact (sustains_openTelemetry _ 1 true).numbered
    ((sustains_openMessages _ 1).numbered hnew.isNumbered)

theorem actors_office (u : ActorId) : office.actors.find? u
    = if 1 = u then some (.collector 1 (some 1))
      else if 0 = u then some (.router 0 0 none) else none := by
  have hactors : office.actors
      = (Table.empty.insert 0 (Actor.router 0 0 none)).insert 1 (Actor.collector 1 (some 1)) := rfl
  rw [hactors, Table.find?_insert, Table.find?_insert, Table.find?_empty]

/-- Each inbox of the office has its own actor. -/
theorem alone_office {u : ActorId} {x : Actor} (hx : office.actors.find? u = some x)
    (hs : x.inbox? = some s) : u = s := by
  rw [actors_office] at hx
  split at hx
  next hu =>
    cases hx
    cases hs
    exact hu.symm
  next =>
    split at hx
    next hu =>
      cases hx
      cases hs
      exact hu.symm
    next => cases hx

/-- Both loops of the office end cleanly. The first one does so after five steps if nobody sends
any more, and with the error after as many if the connection is lost; these steps begin a fair
run. -/
theorem endsCleanly_office :
    (Loop.routing 0).EndsCleanly 0 0 office ∧ (Loop.telemetry (some 1)).EndsCleanly 1 1 office ∧
      (Loop.routing 0).Hears false notes [{ code := 1, key := "a" }, letter "a" 1] none ∧
      (((office.setInbox 0 done).after? (List.replicate 5 (.step 0))).bind (·.ending? 0)
        = some .ok) ∧
      (((office.setInbox 0 lost).after? (List.replicate 5 (.step 0))).bind (·.ending? 0)
        = some (.routing (.transport (.transport "reset")))) ∧
      ∃ acts course, FairRun 0 0 acts course ∧ course 0 = office.setInbox 0 done := by
  have hrouter : office.Secludes 0 0 := ⟨rfl, rfl, by decide, by decide, fun _ _ => alone_office⟩
  have hcollector : office.Secludes 1 1 :=
    ⟨rfl, rfl, by decide, by decide, fun _ _ => alone_office⟩
  have hdone : ((office.setInbox 0 done).after? (List.replicate 5 (.step 0))).bind (·.ending? 0)
      = some .ok := by decide +kernel
  refine ⟨endsCleanly isNumbered_office hrouter rfl, endsCleanly isNumbered_office hcollector rfl,
    .handle rfl (.handle rfl (.eof rfl)), hdone, by decide +kernel, ?_⟩
  obtain ⟨n, hn, hended⟩ := Option.bind_eq_some_iff.mp hdone
  refine FairRun.exists_of_after? ?_ hn (by simp [hended])
  intro a ha
  obtain rfl := List.eq_of_mem_replicate ha
  exact Act.avoids_step 0 0

end Loop
end ControlPlane
