import ControlPlane.Config.Runtime
import ControlPlane.Delegate.Service
import ControlPlane.Metrics.Exposition
import ControlPlane.Network.Endpoint
import ControlPlane.Node.Handler
import ControlPlane.Text.Form

/-!
# Routes

What the master serves under which path. A unary route takes a request in the body and always
answers with a response, also to a body that is no request. A stream route opens a socket. Two
more routes show the health and the metrics of the master.
-/

set_option autoImplicit false

namespace ControlPlane

open Json

/-! ## Routes and paths -/

/-- The routes that answer a request with a response. -/
inductive UnaryRoute where
  | register
  | heartbeat
  | ping
  | unsubscribe
  | delegate
deriving DecidableEq, Repr

/-- The routes that open a socket. -/
inductive StreamRoute where
  | control
  | messages
  | telemetry
deriving DecidableEq, Repr

inductive Route where
  | unary (r : UnaryRoute)
  | stream (r : StreamRoute)
  | health
  | metrics
deriving DecidableEq, Repr

namespace Route

/-- The route of a path. -/
def ofPath? : String → Option Route
  | "/rpc/node/register" => some (unary .register)
  | "/rpc/node/heartbeat" => some (unary .heartbeat)
  | "/rpc/node/ping" => some (unary .ping)
  | "/rpc/node/unsubscribe" => some (unary .unsubscribe)
  | "/rpc/node/subscribe" => some (stream .control)
  | "/rpc/message/connect" => some (stream .messages)
  | "/rpc/model/delegate" => some (unary .delegate)
  | "/rpc/task/subscribe" => some (stream .telemetry)
  | "/health" => some health
  | "/metrics" => some metrics
  | _ => none

end Route

/-- The path and the query of a target. -/
def splitTarget (target : String) : String × List Char :=
  let cs := target.toList
  (.ofList (cs.takeWhile (· ≠ '?')), (cs.dropWhile (· ≠ '?')).drop 1)

/-! ## Unary routes -/

/-- A body that is no request. -/
inductive EnvelopeError where
  | malformed (e : CodecError)
deriving DecidableEq, Repr

def EnvelopeError.message : EnvelopeError → String
  | malformed e => "Malformed request envelope: " ++ e.message

instance : Coded EnvelopeError := ⟨fun _ => .internalError, EnvelopeError.message⟩

namespace UnaryRoute

/-- The response to a request. -/
def handle : UnaryRoute → Request → Routine Response
  | register => Coordination.handleRegister
  | heartbeat => Coordination.handleHeartbeat
  | ping => Coordination.handlePing
  | unsubscribe => Coordination.handleUnsubscribe
  | delegate => Delegate.handle

/-- The response to a body. -/
def serve (route : UnaryRoute) (body : Bytes) : Routine Response :=
  match Request.ofBytes? body with
  | some r => route.handle r
  | none => return .ofError (EnvelopeError.malformed .malformed)

end UnaryRoute

/-! ## Answers -/

structure HttpRequest where
  method : String
  /-- The path, and a query if there is one. -/
  target : String
  body : Bytes := []

/-- What a request is answered with: a status alone, or content. -/
inductive HttpAnswer where
  | status (code : Nat)
  | content (type : String) (body : Bytes)
deriving DecidableEq

namespace HttpAnswer

/-- The status of an answer. -/
def code : HttpAnswer → Nat
  | status code => code
  | content .. => 200

/-- The answer without its content. -/
def withoutBody : HttpAnswer → HttpAnswer
  | status code => status code
  | content type _ => content type []

end HttpAnswer

namespace Http

/-- The answer that carries a response. -/
def envelope (r : Response) : HttpAnswer := .content "application/octet-stream" r.toBytes

/-- How the master is. -/
def health (c : RuntimeConfig) (b : Backend) : HttpAnswer :=
  .content "application/json" (Value.write (.object [
    ("master_key", .string c.masterKey), ("status", .string "ok"),
    ("subscriptions", .int b.registry.size)]))

/-- What the master has counted. -/
def metrics (b : Backend) : HttpAnswer :=
  .content "text/plain; version=0.0.4"
    (.ofString (String.join (b.ledger.lines.map (· ++ "\n"))))

/-- The answer to a request for what can be read at any time. -/
def read (method : String) (answer : HttpAnswer) : HttpAnswer :=
  if method = "GET" then answer
  else if method = "HEAD" then answer.withoutBody
  else .status 405

/-- The key that a query asks a control stream for; it has to be given once and not be empty. -/
def subscriptionKey? (query : List Char) : Option String :=
  match Form.values "node_key" query with
  | [key] => if key = "" then none else some key
  | _ => none

/-- The answer to a request for a stream that opens no socket. -/
def refuseStream (r : StreamRoute) (method : String) (query : List Char) : HttpAnswer :=
  let isAmbiguous := r = .control && 1 < (Form.values "node_key" query).length
  if method = "GET" then .status 400
  else if method = "HEAD" then .status (if isAmbiguous then 400 else 405)
  else .status 405

/-- Answers a request. -/
def respond (c : RuntimeConfig) (r : HttpRequest) (b : Backend) : HttpAnswer × Backend :=
  let (path, query) := splitTarget r.target
  match Route.ofPath? path with
  | none => (.status 404, b)
  | some (.unary route) =>
      if r.method ≠ "POST" then (.status 405, b)
      else if c.maxFrameBytes < r.body.length then (.status 413, b)
      else
        let (response, b) := (route.serve r.body).run b
        (envelope response, b)
  | some (.stream route) => (refuseStream route r.method query, b)
  | some .health => (read r.method (health c b), b)
  | some .metrics => (read r.method (metrics b), b)

/-- What a socket for a target is opened for, or why it is not: the status of the answer. -/
def purpose (c : RuntimeConfig) (target : String) (b : Backend) : Except Nat Network.Purpose :=
  let (path, query) := splitTarget target
  match Route.ofPath? path with
  | some (.stream .messages) => .ok .messages
  | some (.stream .telemetry) => .ok .telemetry
  | some (.stream .control) =>
      match subscriptionKey? query with
      | some key => .ok (.control key)
      | none => .error 400
  | _ => .error (respond c ⟨"GET", target, []⟩ b).1.code

/-- Opens a socket for a target. -/
def upgrade (c : RuntimeConfig) (target : String) (n : Network) :
    Except Nat (SocketId × Network) :=
  (purpose c target n.backend).map fun p => n.openSocket p c.routing.streamBuffer

end Http
end ControlPlane
