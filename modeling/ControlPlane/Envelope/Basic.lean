import ControlPlane.Entity.Json
import ControlPlane.ErrorCode

/-!
# Envelopes

What peers exchange: a request and its response, the messages of streams, the delegate calls that
travel inside requests, and the batches of task output that travel inside stream messages. Codes
and methods are carried as plain numbers, so an unknown one survives reading and is answered
where it is looked at.
-/

set_option autoImplicit false

namespace ControlPlane

/-! ## Requests and responses -/

structure Request where
  nodeKey : String := ""
  data : Bytes := []
deriving DecidableEq

inductive ResponseCode where
  | ok
  | error
deriving DecidableEq, Repr

namespace ResponseCode

def all : List ResponseCode := [ok, error]

def title : ResponseCode → String
  | ok => "Ok"
  | error => "Error"

end ResponseCode

structure Response where
  code : ResponseCode := .ok
  errorCode : Int32 := 0
  message : String := ""
  data : Bytes := []
deriving DecidableEq

namespace Response

/-- The response to a call that succeeded, with its result. -/
def ok (data : Bytes) : Response := { data := data }

/-- The response to a call that failed. -/
def ofError {ε : Type} [Coded ε] (e : ε) : Response :=
  { code := .error, errorCode := .ofNat (Coded.code e).number, message := Coded.message e }

def isOk (r : Response) : Bool := r.code = .ok

/-- The code of a failure, when it is a known one. -/
def failure? (r : Response) : Option ErrorCode :=
  match r.code with
  | .ok => none
  | .error => ErrorCode.ofNumber? r.errorCode.toInt

end Response

/-! ## Streams -/

/-- What a stream message is about. -/
inductive StreamCode where
  | connect
  | disconnect
  | send
  | insertData
  | insertLogs
deriving DecidableEq, Repr

namespace StreamCode

def all : List StreamCode := [connect, disconnect, send, insertData, insertLogs]

def number : StreamCode → Nat
  | connect => 1
  | disconnect => 2
  | send => 3
  | insertData => 4
  | insertLogs => 5

def ofNumber? (n : Int) : Option StreamCode := all.find? fun c => (c.number : Int) == n

def title : StreamCode → String
  | connect => "Connect"
  | disconnect => "Disconnect"
  | send => "Send"
  | insertData => "InsertData"
  | insertLogs => "InsertLogs"

end StreamCode

structure StreamMessage where
  code : Int32 := 0
  nodeKey : String := ""
  key : String := ""
  sender : String := ""
  receiver : String := ""
  data : Bytes := []
deriving DecidableEq

/-- A batch of the output of a task: result rows and log lines. -/
structure TaskBatch where
  taskId : ObjectId := .zero
  records : List (List (String × Json.Value)) := []
  logs : List String := []

namespace TaskBatch

open Json.Format in
def layout : Layout TaskBatch where
  blank := {}
  isStrict := false
  fields := [
    field "task_id" objectId (·.taskId) fun a b => { b with taskId := a },
    field "records" (list members) (·.records) fun a b => { b with records := a },
    field "logs" (list string) (·.logs) fun a b => { b with logs := a }]

/-- The text of a batch. -/
def encode (b : TaskBatch) : Bytes := layout.format.toText b

/-- Reads a batch from a text. -/
def decode? (text : Bytes) : Option TaskBatch := layout.format.ofText? text

end TaskBatch

namespace StreamMessage

/-- The number of a code, as it is carried. -/
def carried (c : StreamCode) : Int32 := .ofNat c.number

/-- Announces the sender under a key. -/
def connect (key : String) : StreamMessage := { code := carried .connect, key := key }

/-- Takes the key back and ends the stream. -/
def disconnect (key : String) : StreamMessage := { code := carried .disconnect, key := key }

/-- A message from one key to another. -/
def send (sender receiver : String) (data : Bytes) : StreamMessage :=
  { code := carried .send, sender, receiver, data := data }

/-- Result rows of a task. -/
def insertData (nodeKey : String) (batch : TaskBatch) : StreamMessage :=
  { code := carried .insertData, nodeKey := nodeKey, data := batch.encode }

/-- Log lines of a task. -/
def insertLogs (nodeKey : String) (batch : TaskBatch) : StreamMessage :=
  { code := carried .insertLogs, nodeKey := nodeKey, data := batch.encode }

/-- What the message is about, when its code is a known one. -/
def code? (m : StreamMessage) : Option StreamCode := StreamCode.ofNumber? m.code.toInt

/-- The key a message speaks for: its own key, else the key of its node. -/
def sourceKey (m : StreamMessage) : String := if m.key = "" then m.nodeKey else m.key

end StreamMessage

/-! ## Delegate calls -/

/-- What a delegate call does with a record. -/
inductive DelegateMethod where
  | add
  | save
  | delete
  | refresh
  | getDerived
deriving DecidableEq, Repr

namespace DelegateMethod

def all : List DelegateMethod := [add, save, delete, refresh, getDerived]

def number : DelegateMethod → Nat
  | add => 1
  | save => 2
  | delete => 3
  | refresh => 4
  | getDerived => 5

def ofNumber? (n : Int) : Option DelegateMethod := all.find? fun c => (c.number : Int) == n

def label : DelegateMethod → String
  | add => "add"
  | save => "save"
  | delete => "delete"
  | refresh => "refresh"
  | getDerived => "get_derived"

def title : DelegateMethod → String
  | add => "Add"
  | save => "Save"
  | delete => "Delete"
  | refresh => "Refresh"
  | getDerived => "GetDerived"

end DelegateMethod

structure DelegateMessage where
  modelId : Int32 := 0
  method : Int32 := 0
  data : Bytes := []
deriving DecidableEq

namespace DelegateMessage

/-- The call of a method on a model. -/
def ofModel (method : DelegateMethod) (m : Model) : DelegateMessage :=
  { modelId := .ofNat m.kind.number, method := .ofNat method.number, data := m.encode }

/-- The kind of the model, when it is a known one. -/
def kind? (m : DelegateMessage) : Option Kind := Kind.ofNumber? m.modelId.toInt

/-- The method, when it is a known one. -/
def method? (m : DelegateMessage) : Option DelegateMethod := DelegateMethod.ofNumber? m.method.toInt

/-- The kind of the model in words. -/
def describe (m : DelegateMessage) : String :=
  match m.kind? with
  | some k => k.label
  | none => "model#" ++ toString m.modelId.toInt

end DelegateMessage
end ControlPlane
