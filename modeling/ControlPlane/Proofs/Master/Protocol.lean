import ControlPlane.Master.Basic
import ControlPlane.Proofs.Envelope.Wire
import ControlPlane.Proofs.Network.Separation
import ControlPlane.Proofs.Node.Effect
import ControlPlane.Proofs.Node.Writable

/-!
# Unary routes answer in protocol

A worker that posts a body to a unary route gets a response, whatever the body is: the response of
the handler if the body is a request, and an internal error, with nothing changed, if it is not.
When a registration or a heartbeat succeeds, the worker reads in the response the very record that
is stored now. For that the record has to be read back from its text, so the timestamps of all
records matter: they are readings of the clock, or what somebody gave to the directory.

The states in question are those in which nodes have been coordinated (`Coordinated`): any number of
calls are served at the same time, each moving on by one call of the backend at a time, control
streams come and go, and time passes.

Main statement: `Master.answersInProtocol`.
-/

set_option autoImplicit false

namespace ControlPlane

/-! ## Duties -/

/-- Runs a routine for what it does. -/
def Routine.forget {α : Type} (r : Routine α) : Routine Unit := do
  let _ ← r

theorem Routine.Upholds.forget {α : Type} {r : Routine α} {post : α → Prop} (h : r.Upholds post) :
    r.forget.Upholds fun _ => True :=
  h.bind fun _ _ => trivial

namespace Coordination

/-- What the coordination of nodes is asked for, by workers, by the monitor, or by the master
itself. A call that only reads leaves no trace. -/
inductive Duty where
  | register (nodeKey : String) (info : NodeInfo)
  | heartbeat (key : String)
  | unsubscribe (key : String)
  | sweep (timeout : Nat)
  /-- A sweep that the monitor makes. -/
  | patrol (timeout : Nat)
  | bootstrap (key hostname : String)
  | upsertMaster (n : Node)
  | add (n : Node)
  | save (n : Node)
  | updateStatus (n : Node) (status : NodeStatus) (active : Bool)

namespace Duty

def serve : Duty → Routine Unit
  | register nodeKey info => (Coordination.register nodeKey info).run.forget
  | heartbeat key => (Coordination.heartbeat key).run.forget
  | unsubscribe key => (Coordination.unsubscribe key).run.forget
  | sweep timeout => (Sweep.run timeout).run.forget
  | patrol timeout => Sweep.unattended timeout
  | bootstrap key hostname => (Bootstrap.run key hostname).run.forget
  | upsertMaster n => (Directory.upsertMaster n).run.forget
  | add n => (Directory.add n).run.forget
  | save n => (Directory.save n).run.forget
  | updateStatus n status active => (Directory.updateStatus n status active).run.forget

/-- A record that is given to the directory, to be written as it is, can be read back. -/
def IsWritable : Duty → Prop
  | add n | save n | updateStatus n .. => n.IsWritable
  | _ => True

theorem upholds_serve {d : Duty} (hd : d.IsWritable) : d.serve.Upholds fun _ => True := by
  cases d with
  | register nodeKey info => exact (upholds_register nodeKey info).forget
  | heartbeat key => exact (upholds_heartbeat key).forget
  | unsubscribe key => exact (upholds_unsubscribe key).forget
  | sweep timeout => exact (Sweep.upholds_run timeout).forget
  | patrol timeout => exact Sweep.upholds_unattended timeout
  | bootstrap key hostname => exact (Bootstrap.upholds_run key hostname).forget
  | upsertMaster n => exact (Directory.upholds_upsertMaster n).forget
  | add n => exact (Directory.upholds_add hd).forget
  | save n => exact (Directory.upholds_save hd).forget
  | updateStatus n status active => exact (Directory.upholds_updateStatus hd status active).forget

end Duty
end Coordination

/-! ## Control streams -/

/-- The actor of a control stream, or one that reads or writes a socket. -/
def Actor.IsOfControl : Actor → Prop
  | subscriber .. | reader .. | writer .. => True
  | _ => False

/-- A control stream is opened, one of its actors takes a step, or its peer moves. No message is
routed, and no output of tasks comes in. -/
def Act.IsOfControl (n : Network) : Act → Prop
  | step t => ∃ x, n.actors.find? t = some x ∧ x.IsOfControl
  | openMessages _ | openTelemetry .. | openSocket .messages _ | openSocket .telemetry _ => False
  | route _ | ask _ => False
  | _ => True

namespace Network

variable {n n' : Network}

theorem upholds_request {a : Act} (ha : a.IsOfControl n) : (a.request n).Upholds fun _ => True := by
  cases a with
  | openControl key capacity => exact (Coordination.upholds_install key n.sinks.size).forget
  | openSocket p capacity =>
      cases p with
      | control key => exact (Coordination.upholds_install key n.sinks.size).forget
      | _ => exact ha.elim
  | ask c => exact ha.elim
  | _ => trivial

/-- Control streams touch no record. -/
theorem isWritable_of_perform? (hb : n.backend.IsWritable) {a : Act} (ha : a.IsOfControl n)
    (h : a.perform? n = some n') : n'.backend.IsWritable := by
  by_cases hstep : ∃ t, a = .step t
  · obtain ⟨t, rfl⟩ := hstep
    obtain ⟨x, hx, hcontrol⟩ := ha
    have hpending : n.pending? t = none := by
      rw [pending?, hx]
      cases x <;> first | rfl | exact hcontrol.elim
    cases reacts_of_step? hpending h with
    | idle _ hbackend => exact hbackend ▸ hb
    | message source sink arrival? hrouter =>
        cases hx.symm.trans hrouter
        exact hcontrol.elim
    | telemetry source sink? arrival? hcollector =>
        cases hx.symm.trans hcollector
        exact hcontrol.elim
    | control sink signal _ hbackend =>
        rw [hbackend]
        exact ⟨hb.plain, hb.wellFormed, hb.record, hb.clock⟩
  · rw [backend_of_perform? (fun t ht => hstep ⟨t, ht⟩) h]
    exact ((upholds_request ha).run hb).2

end Network

/-! ## Reached states -/

/-- The networks that the coordination of nodes leads to, each with what is left to do of the calls
that are being served. The clock only shows times that can be read back. -/
inductive Coordinated : Network → List (Routine Unit) → Prop
  /-- There are no records yet. -/
  | start {n : Network} (hplain : n.backend.IsPlain) (hstore : n.backend.store = {})
      (hclock : n.backend.clock.IsWritable) : Coordinated n []
  /-- Time passes, and ids are used up elsewhere. -/
  | pass {n : Network} {rs : List (Routine Unit)} (ids : IdSupply) (wall clock : Instant)
      (hclock : clock.IsWritable) (h : Coordinated n rs) :
      Coordinated { n with backend := { n.backend with ids, wall, clock } } rs
  /-- A call comes in. -/
  | join {n : Network} {rs : List (Routine Unit)} (d : Coordination.Duty) (hd : d.IsWritable)
      (h : Coordinated n rs) : Coordinated n (rs ++ [d.serve])
  /-- One of the calls moves on. -/
  | move {n : Network} {rs : List (Routine Unit)} {r next : Routine Unit} {b : Backend} (i : Nat)
      (hr : rs[i]? = some r) (hstep : r.step? n.backend = some (next, b)) (h : Coordinated n rs) :
      Coordinated { n with backend := b } (rs.set i next)
  /-- A control stream moves. -/
  | act {n n' : Network} {rs : List (Routine Unit)} (a : Act) (ha : a.IsOfControl n)
      (hact : a.perform? n = some n') (h : Coordinated n rs) : Coordinated n' rs

namespace Coordinated

variable {n : Network} {rs : List (Routine Unit)}

/-- **What coordination keeps.** All records can be read back, and whatever is left to do will
keep it so. -/
theorem upholds (h : Coordinated n rs) :
    n.backend.IsWritable ∧ ∀ r ∈ rs, r.Upholds fun _ => True := by
  induction h with
  | start hplain hstore hclock =>
      refine ⟨⟨hplain, ?_, ?_, hclock⟩, nofun⟩
      · rw [hstore]
        exact Store.wellFormed_empty
      · intro kind id m hm
        rw [hstore, Store.find?_empty] at hm
        cases hm
  | pass ids wall clock hclock _ ih =>
      obtain ⟨hb, hrs⟩ := ih
      exact ⟨⟨hb.plain, hb.wellFormed, hb.record, hclock⟩, hrs⟩
  | join d hd _ ih =>
      obtain ⟨hb, hrs⟩ := ih
      refine ⟨hb, ?_⟩
      rw [List.forall_mem_append, List.forall_mem_singleton]
      exact ⟨hrs, d.upholds_serve hd⟩
  | move i hr hstep _ ih =>
      obtain ⟨hb, hrs⟩ := ih
      obtain ⟨hnext, hb'⟩ := (hrs _ (List.mem_of_getElem? hr)).step hb hstep
      refine ⟨hb', ?_⟩
      intro r hmem
      rcases List.mem_or_eq_of_mem_set hmem with hold | rfl
      · exact hrs r hold
      · exact hnext
  | act a ha hact _ ih => exact ⟨Network.isWritable_of_perform? ih.1 ha hact, ih.2⟩

/-- A call may be served to its end while the others wait. -/
theorem finish {i : Nat} {r : Routine Unit} (hr : rs[i]? = some r) (h : Coordinated n rs) :
    ∃ rs', Coordinated { n with backend := (r.run n.backend).2 } rs' := by
  induction r generalizing n rs with
  | done a => exact ⟨rs, h⟩
  | ask c next ih =>
      refine ih _ (List.getElem?_set_self ?_) (h.move i hr rfl)
      exact (List.getElem?_eq_some_iff.mp hr).1

/-- A duty that is served alone. -/
theorem serve (d : Coordination.Duty) (hd : d.IsWritable) (h : Coordinated n rs) :
    ∃ rs', Coordinated { n with backend := (d.serve.run n.backend).2 } rs' :=
  (h.join d hd).finish (i := rs.length) (by simp)

end Coordinated

/-! ## Records in responses -/

/-- A response that says ok carries a node which is stored as it is read. -/
def Response.IsRecorded (s : Store) (r : Response) : Prop :=
  r.isOk = true → ∃ n id, Model.decode? .node r.data = some (.node n) ∧ n.id = some id ∧
    s.HoldsNode id n

theorem Response.isRecorded_ofError {ε : Type} [Coded ε] (s : Store) (e : ε) :
    (ofError e).IsRecorded s := nofun

theorem Response.isRecorded_ofNode {s : Store} {answer : Except CoordinationError Node}
    (hwritable : ∀ n, answer = .ok n → n.IsWritable)
    (hstored : ∀ n, answer = .ok n → ∃ id, n.id = some id ∧ s.HoldsNode id n) :
    (ofNode answer).IsRecorded s := by
  cases answer with
  | error e => exact isRecorded_ofError s e
  | ok n =>
      intro _
      obtain ⟨id, hid, hold⟩ := hstored n rfl
      exact ⟨n, id, Model.decode?_encode (hwritable n rfl), hid, hold⟩

namespace Coordination

variable {s s' : Store} {answer : Except CoordinationError Node} {n : Node}

/-- A registration that succeeds answers with what it has stored. -/
theorem RegistrationEnds.exists_holdsNode {nodeKey : String} {info : NodeInfo} {fresh : ObjectId}
    (h : RegistrationEnds s nodeKey info fresh (.ok n) s') :
    ∃ id, n.id = some id ∧ s'.HoldsNode id n := by
  cases h with
  | renewed hadm hfound hworker hid hput =>
      exact ⟨_, (Model.storedId?_eq_some.mp hid).1, hput.holdsNode_iff.mpr (.inl ⟨rfl, rfl⟩)⟩
  | created hadm hfound hfree hnew hput =>
      exact ⟨fresh, hnew ▸ rfl, hput.holdsNode_iff.mpr (.inl ⟨rfl, rfl⟩)⟩

/-- So does a heartbeat. -/
theorem HeartbeatEnds.exists_holdsNode {key : String} {now : Instant}
    (h : HeartbeatEnds s key now (.ok n) s') : ∃ id, n.id = some id ∧ s'.HoldsNode id n := by
  cases h with
  | revived hfound hstatus hid hput =>
      exact ⟨_, (Model.storedId?_eq_some.mp hid).1, hput.holdsNode_iff.mpr (.inl ⟨rfl, rfl⟩)⟩

variable {b : Backend}

theorem isRecorded_handleRegister (hb : b.IsWritable) (r : Request) :
    ((handleRegister r).run b).1.IsRecorded ((handleRegister r).run b).2.store := by
  unfold handleRegister
  cases readInfo r.data with
  | error e => exact Response.isRecorded_ofError _ e
  | ok info =>
      dsimp only
      rw [Routine.run_bind]
      refine Response.isRecorded_ofNode ((upholds_register r.nodeKey info).run hb).1 ?_
      intro n hn
      have hends := register_ends hb.plain hb.wellFormed r.nodeKey info
      rw [hn] at hends
      exact hends.exists_holdsNode

theorem isRecorded_handleHeartbeat (hb : b.IsWritable) (r : Request) :
    ((handleHeartbeat r).run b).1.IsRecorded ((handleHeartbeat r).run b).2.store := by
  rw [handleHeartbeat, Routine.run_bind]
  refine Response.isRecorded_ofNode ((upholds_heartbeat r.nodeKey).run hb).1 ?_
  intro n hn
  have hends := heartbeat_ends hb.plain hb.wellFormed r.nodeKey
  rw [hn] at hends
  exact hends.exists_holdsNode

end Coordination

/-! ## Answers -/

/-- The response that an answer carries. -/
def HttpAnswer.response? : HttpAnswer → Option Response
  | content _ body => Response.ofBytes? body
  | status _ => none

theorem Http.response?_envelope {r : Response} (h : r.Fits) : (envelope r).response? = some r :=
  Response.reads_scan.read?_eq_some.mpr ⟨h, List.prefix_rfl⟩

namespace Master

/-- How a unary route answers what is posted to it. -/
structure AnswersInProtocol (m : Master) (route : UnaryRoute) (r : HttpRequest) : Prop where
  status : (m.respond r).1.code = 200
  /-- A request is left to the handler, and its response is what the answer carries. -/
  handled : ∀ request, Request.ofBytes? r.body = some request →
    (m.respond r).1.response? = some ((route.handle request).run m.network.backend).1 ∧
      (m.respond r).2 = m.setBackend ((route.handle request).run m.network.backend).2
  /-- Any other body is answered with an internal error, and nothing has changed. -/
  refused : Request.ofBytes? r.body = none →
    (m.respond r).1.response?.bind Response.failure? = some .internalError ∧ (m.respond r).2 = m
  /-- A registration or a heartbeat that is answered with ok gives the record that is stored now. -/
  recorded : route = .register ∨ route = .heartbeat → ∀ response,
    (m.respond r).1.response? = some response →
      response.IsRecorded (m.respond r).2.network.backend.store

/-- The response to a body that is no request. -/
def malformed : Response := .ofError (EnvelopeError.malformed .malformed)

theorem fits_malformed : malformed.Fits := ⟨by decide +kernel, by decide⟩

variable {m : Master} {route : UnaryRoute} {r : HttpRequest}

section

variable (hpath : Route.ofPath? (splitTarget r.target).1 = some (.unary route))
  (hmethod : r.method = "POST") (hsize : r.body.length ≤ m.config.maxFrameBytes)

include hpath hmethod hsize

/-- What is posted to a unary route, if it is not too large, gets a response. -/
theorem respond_unary :
    m.respond r = (Http.envelope ((route.serve r.body).run m.network.backend).1,
      m.setBackend ((route.serve r.body).run m.network.backend).2) := by
  rw [respond, Http.respond]
  simp only [hpath, hmethod, ne_eq, not_true_eq_false, if_false, if_neg (Nat.not_lt.mpr hsize)]

/-- A request is answered with the response of the handler. -/
theorem answersInProtocol_of_request (hb : m.network.backend.IsWritable) {request : Request}
    (hbody : Request.ofBytes? r.body = some request)
    (hfits : ((route.handle request).run m.network.backend).1.Fits) :
    m.AnswersInProtocol route r := by
  have hrespond : m.respond r = (Http.envelope ((route.handle request).run m.network.backend).1,
      m.setBackend ((route.handle request).run m.network.backend).2) := by
    rw [respond_unary hpath hmethod hsize, UnaryRoute.serve, hbody]
  have hresponse := Http.response?_envelope hfits
  constructor
  · rw [hrespond]
    rfl
  · intro request' hrequest
    obtain rfl : request = request' := Option.some.inj (hbody.symm.trans hrequest)
    rw [hrespond]
    exact ⟨hresponse, rfl⟩
  · intro hnone
    rw [hbody] at hnone
    cases hnone
  · intro hroute response hcarried
    rw [hrespond] at hcarried ⊢
    obtain rfl := Option.some.inj (hresponse.symm.trans hcarried)
    obtain rfl | rfl := hroute
    · exact Coordination.isRecorded_handleRegister hb request
    · exact Coordination.isRecorded_handleHeartbeat hb request

/-- Nothing is done about a body that is no request. -/
theorem answersInProtocol_of_malformed (hbody : Request.ofBytes? r.body = none) :
    m.AnswersInProtocol route r := by
  have hrespond : m.respond r = (Http.envelope malformed, m) := by
    rw [respond_unary hpath hmethod hsize, UnaryRoute.serve, hbody]
    rfl
  have hresponse := Http.response?_envelope fits_malformed
  constructor
  · rw [hrespond]
    rfl
  · intro request hrequest
    rw [hbody] at hrequest
    cases hrequest
  · intro _
    rw [hrespond, hresponse]
    exact ⟨rfl, rfl⟩
  · intro _ response hcarried
    rw [hrespond] at hcarried
    obtain rfl := Option.some.inj (hresponse.symm.trans hcarried)
    exact Response.isRecorded_ofError _ _

end

/-- **Unary routes answer in protocol**, in every state that the coordination of nodes leads to.
Lengths take eight octets in a response, which is enough for what a machine can hold. -/
theorem answersInProtocol {rs : List (Routine Unit)} (h : Coordinated m.network rs)
    (hpath : Route.ofPath? (splitTarget r.target).1 = some (.unary route))
    (hmethod : r.method = "POST") (hsize : r.body.length ≤ m.config.maxFrameBytes)
    (hfits : ∀ request, Request.ofBytes? r.body = some request →
      ((route.handle request).run m.network.backend).1.Fits) : m.AnswersInProtocol route r := by
  cases hbody : Request.ofBytes? r.body with
  | none => exact answersInProtocol_of_malformed hpath hmethod hsize hbody
  | some request =>
      exact answersInProtocol_of_request hpath hmethod hsize h.upholds.1 hbody (hfits request hbody)

/-! ### A worker and a stranger -/

/-- A master that nobody has asked for anything. -/
def fresh : Master := start {} (.start 0) .epoch "host"

/-- The worker `w1` has registered. -/
def joined : Backend :=
  ((Coordination.Duty.register "w1" {}).serve.run fresh.network.backend).2

/-- A minute has passed since. -/
def expectant : Master := fresh.setBackend { joined with clock := ⟨60, 0⟩ }

theorem exists_coordinated_expectant : ∃ rs, Coordinated expectant.network rs := by
  have hepoch : Instant.epoch.IsOrdinary := ⟨by decide, by decide, by decide⟩
  have hminute : (⟨60, 0⟩ : Instant).IsOrdinary := ⟨by decide, by decide, by decide⟩
  have hfresh : Coordinated fresh.network [] := .start rfl rfl hepoch.isWritable
  obtain ⟨rs, hrs⟩ := hfresh.serve (.register "w1" {}) trivial
  exact ⟨rs, hrs.pass joined.ids joined.wall ⟨60, 0⟩ hminute.isWritable⟩

/-- The worker beats, and reads its record in the answer. -/
def beat : HttpRequest where
  method := "POST"
  target := "/rpc/node/heartbeat"
  body := Request.toBytes { nodeKey := "w1" }

/-- Somebody posts a body that is no request. -/
def noise : HttpRequest where
  method := "POST"
  target := "/rpc/node/ping"
  body := [255]

theorem answersInProtocol_beat : ∃ rs, Coordinated expectant.network rs ∧
    Request.ofBytes? beat.body = some { nodeKey := "w1" } ∧
    ((expectant.respond beat).1.response?.bind fun response => Model.decode? .node response.data)
      = some (.node { id := some (IdSupply.id {} 1), key := "w1", name := "w1", status := .online,
                      active := true, enabled := true, activeAt := some ⟨60, 0⟩ }) ∧
    expectant.AnswersInProtocol .heartbeat beat ∧
    Request.ofBytes? noise.body = none ∧ expectant.AnswersInProtocol .ping noise := by
  obtain ⟨rs, hrs⟩ := exists_coordinated_expectant
  have hread : Request.ofBytes? beat.body = some { nodeKey := "w1" } := by decide +kernel
  have hnoise : Request.ofBytes? noise.body = none := by decide +kernel
  have hbeat : expectant.AnswersInProtocol .heartbeat beat := by
    refine answersInProtocol hrs (by decide +kernel) rfl (by decide +kernel) ?_
    intro request hrequest
    obtain rfl := Option.some.inj (hread.symm.trans hrequest)
    exact ⟨by decide +kernel, by decide +kernel⟩
  have hping : expectant.AnswersInProtocol .ping noise := by
    refine answersInProtocol hrs (by decide +kernel) rfl (by decide +kernel) ?_
    intro request hrequest
    rw [hnoise] at hrequest
    cases hrequest
  exact ⟨rs, hrs, hread, by decide +kernel, hbeat, hnoise, hping⟩

end Master
end ControlPlane
