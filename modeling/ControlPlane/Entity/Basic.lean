import ControlPlane.ObjectId
import ControlPlane.Time.Instant

/-!
# Entities

The records the cluster keeps: its nodes, the work they do, who may use it, and for every record
an audit artifact. Each entity has a kind, an optional id, and is otherwise plain data. `Model`
joins the nine kinds.
-/

set_option autoImplicit false

namespace ControlPlane

/-! ## Kinds -/

/-- The kinds of entities. -/
inductive Kind where
  | node
  | project
  | spider
  | task
  | taskStat
  | schedule
  | user
  | tag
  | artifact
deriving DecidableEq, Repr

namespace Kind

def all : List Kind := [node, project, spider, task, taskStat, schedule, user, tag, artifact]

/-- The number of a kind on the wire. -/
def number : Kind → Nat
  | node => 1
  | project => 2
  | spider => 3
  | task => 4
  | taskStat => 5
  | schedule => 6
  | user => 7
  | tag => 8
  | artifact => 9

/-- The kind with a given number. -/
def ofNumber? (n : Int) : Option Kind := all.find? fun k => (k.number : Int) == n

def label : Kind → String
  | node => "node"
  | project => "project"
  | spider => "spider"
  | task => "task"
  | taskStat => "task_stat"
  | schedule => "schedule"
  | user => "user"
  | tag => "tag"
  | artifact => "artifact"

/-- The name of a kind as JSON spells it. -/
def title : Kind → String
  | node => "Node"
  | project => "Project"
  | spider => "Spider"
  | task => "Task"
  | taskStat => "TaskStat"
  | schedule => "Schedule"
  | user => "User"
  | tag => "Tag"
  | artifact => "Artifact"

/-- The name of the collection that holds the entities of a kind. -/
def collection (k : Kind) : String := k.label ++ "s"

end Kind

/-! ## Membership -/

/-- The lifecycle of a node. -/
inductive NodeStatus where
  | unregistered
  | registered
  | online
  | offline
deriving DecidableEq, Repr, Inhabited

namespace NodeStatus

def all : List NodeStatus := [unregistered, registered, online, offline]

def label : NodeStatus → String
  | unregistered => "unregistered"
  | registered => "registered"
  | online => "online"
  | offline => "offline"

/-- The name as error texts spell it. -/
def title : NodeStatus → String
  | unregistered => "Unregistered"
  | registered => "Registered"
  | online => "Online"
  | offline => "Offline"

/-- Whether a node may go from one status to another: every node may register; only a registered
one may go online, or offline unless it is so already. -/
def canTransition : NodeStatus → NodeStatus → Bool
  | _, registered => true
  | unregistered, _ => false
  | _, online => true
  | registered, offline => true
  | online, offline => true
  | _, _ => false

end NodeStatus

/-- A member of the cluster. -/
structure Node where
  id : Option ObjectId := none
  key : String := ""
  name : String := ""
  ip : String := ""
  hostname : String := ""
  description : String := ""
  isMaster : Bool := false
  maxRunners : UInt32 := 0
  status : NodeStatus := .unregistered
  active : Bool := false
  enabled : Bool := false
  activeAt : Option Instant := none
deriving DecidableEq

/-- Sets the status of a node; without a new time of activity the old one stays. -/
def Node.setStatus (n : Node) (status : NodeStatus) (active : Bool) (at? : Option Instant) : Node :=
  { n with status := status, active := active, activeAt := at?.or n.activeAt }

/-- What a node says of itself when it registers. -/
structure NodeInfo where
  key : String := ""
  isMaster : Bool := false
  name : String := ""
  ip : String := ""
  hostname : String := ""
  description : String := ""
  maxRunners : UInt32 := 0
deriving DecidableEq

/-! ## Workload -/

structure Project where
  id : Option ObjectId := none
  name : String := ""
  description : String := ""
deriving DecidableEq

structure Spider where
  id : Option ObjectId := none
  name : String := ""
  colName : String := ""
  projectId : Option ObjectId := none
  cmd : String := ""
  param : String := ""
  description : String := ""
deriving DecidableEq

structure Task where
  id : Option ObjectId := none
  spiderId : Option ObjectId := none
  nodeId : Option ObjectId := none
  status : String := ""
  cmd : String := ""
  param : String := ""
  priority : UInt8 := 0
  error : String := ""
deriving DecidableEq

/-- The counters of a task; it has the id of its task. -/
structure TaskStat where
  id : Option ObjectId := none
  createdAt : Option Instant := none
  startedAt : Option Instant := none
  endedAt : Option Instant := none
  resultCount : UInt64 := 0
  logCount : UInt64 := 0
  errorLogCount : UInt64 := 0
deriving DecidableEq

structure Schedule where
  id : Option ObjectId := none
  name : String := ""
  cron : String := ""
  spiderId : Option ObjectId := none
  enabled : Bool := false
deriving DecidableEq

/-! ## Administration -/

structure User where
  id : Option ObjectId := none
  username : String := ""
  email : String := ""
  role : String := ""
deriving DecidableEq

structure Tag where
  id : Option ObjectId := none
  name : String := ""
  color : String := ""
  col : String := ""
deriving DecidableEq

/-! ## Audit -/

/-- The audit record of an entity: the collection it is in and when it was created, last changed
and deleted. -/
structure Artifact where
  id : Option ObjectId := none
  col : String := ""
  deleted : Bool := false
  createdAt : Option Instant := none
  updatedAt : Option Instant := none
  deletedAt : Option Instant := none
deriving DecidableEq

/-! ## Models -/

/-- An entity of any kind. -/
inductive Model where
  | node (m : Node)
  | project (m : Project)
  | spider (m : Spider)
  | task (m : Task)
  | taskStat (m : TaskStat)
  | schedule (m : Schedule)
  | user (m : User)
  | tag (m : Tag)
  | artifact (m : Artifact)
deriving DecidableEq

namespace Model

def kind : Model → Kind
  | node _ => .node
  | project _ => .project
  | spider _ => .spider
  | task _ => .task
  | taskStat _ => .taskStat
  | schedule _ => .schedule
  | user _ => .user
  | tag _ => .tag
  | artifact _ => .artifact

def id : Model → Option ObjectId
  | node m => m.id
  | project m => m.id
  | spider m => m.id
  | task m => m.id
  | taskStat m => m.id
  | schedule m => m.id
  | user m => m.id
  | tag m => m.id
  | artifact m => m.id

def setId (m : Model) (id : ObjectId) : Model :=
  match m with
  | node m => node { m with id := some id }
  | project m => project { m with id := some id }
  | spider m => spider { m with id := some id }
  | task m => task { m with id := some id }
  | taskStat m => taskStat { m with id := some id }
  | schedule m => schedule { m with id := some id }
  | user m => user { m with id := some id }
  | tag m => tag { m with id := some id }
  | artifact m => artifact { m with id := some id }

/-- The id of a model, unless it is absent or zero. -/
def storedId? (m : Model) : Option ObjectId := m.id.filter fun id => !id.isZero

/-- The entity of a kind that says nothing. -/
def blank : Kind → Model
  | .node => node {}
  | .project => project {}
  | .spider => spider {}
  | .task => task {}
  | .taskStat => taskStat {}
  | .schedule => schedule {}
  | .user => user {}
  | .tag => tag {}
  | .artifact => artifact {}

/-- The entity of a kind that has an id and says nothing else. -/
def identity (kind : Kind) (id : ObjectId) : Model := (blank kind).setId id

end Model
end ControlPlane
