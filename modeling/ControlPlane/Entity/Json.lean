import ControlPlane.Entity.Basic
import ControlPlane.Json.Format
import ControlPlane.Time.Timestamp

/-!
# JSON of entities

How each entity is written as a JSON object and read back: the fields in a fixed order, the id as
`_id` and left out when absent, other absent values as `null`. Reading is lenient, so an object
that names only the id is an entity.
-/

set_option autoImplicit false

namespace ControlPlane

open Json Json.Format

/-! ## Values -/

/-- An instant is written as its timestamp. -/
def Instant.format : Format Instant where
  read d t := (string.read d t).bind Timestamp.read?
  write t := .string (Timestamp.write t)

def NodeStatus.format : Format NodeStatus := cases all label

/-- The field that holds the id of an entity. -/
def idField {σ : Type} (get : σ → Option ObjectId) (set : Option ObjectId → σ → σ) : FieldFormat σ :=
  omittedField "_id" objectId get set

/-! ## Layouts -/

def Node.layout : Layout Node where
  blank := {}
  isStrict := false
  fields := [
    idField (·.id) fun a n => { n with id := a },
    field "key" string (·.key) fun a n => { n with key := a },
    field "name" string (·.name) fun a n => { n with name := a },
    field "ip" string (·.ip) fun a n => { n with ip := a },
    field "hostname" string (·.hostname) fun a n => { n with hostname := a },
    field "description" string (·.description) fun a n => { n with description := a },
    field "is_master" bool (·.isMaster) fun a n => { n with isMaster := a },
    field "max_runners" uint32 (·.maxRunners) fun a n => { n with maxRunners := a },
    field "status" NodeStatus.format (·.status) fun a n => { n with status := a },
    field "active" bool (·.active) fun a n => { n with active := a },
    field "enabled" bool (·.enabled) fun a n => { n with enabled := a },
    optionalField "active_ts" Instant.format (·.activeAt) fun a n => { n with activeAt := a }]

def NodeInfo.layout : Layout NodeInfo where
  blank := {}
  isStrict := false
  fields := [
    field "key" string (·.key) fun a n => { n with key := a },
    field "is_master" bool (·.isMaster) fun a n => { n with isMaster := a },
    field "name" string (·.name) fun a n => { n with name := a },
    field "ip" string (·.ip) fun a n => { n with ip := a },
    field "hostname" string (·.hostname) fun a n => { n with hostname := a },
    field "description" string (·.description) fun a n => { n with description := a },
    field "max_runners" uint32 (·.maxRunners) fun a n => { n with maxRunners := a }]

def NodeInfo.format : Format NodeInfo := layout.format

def Project.layout : Layout Project where
  blank := {}
  isStrict := false
  fields := [
    idField (·.id) fun a p => { p with id := a },
    field "name" string (·.name) fun a p => { p with name := a },
    field "description" string (·.description) fun a p => { p with description := a }]

def Spider.layout : Layout Spider where
  blank := {}
  isStrict := false
  fields := [
    idField (·.id) fun a s => { s with id := a },
    field "name" string (·.name) fun a s => { s with name := a },
    field "col_name" string (·.colName) fun a s => { s with colName := a },
    optionalField "project_id" objectId (·.projectId) fun a s => { s with projectId := a },
    field "cmd" string (·.cmd) fun a s => { s with cmd := a },
    field "param" string (·.param) fun a s => { s with param := a },
    field "description" string (·.description) fun a s => { s with description := a }]

def Task.layout : Layout Task where
  blank := {}
  isStrict := false
  fields := [
    idField (·.id) fun a t => { t with id := a },
    optionalField "spider_id" objectId (·.spiderId) fun a t => { t with spiderId := a },
    optionalField "node_id" objectId (·.nodeId) fun a t => { t with nodeId := a },
    field "status" string (·.status) fun a t => { t with status := a },
    field "cmd" string (·.cmd) fun a t => { t with cmd := a },
    field "param" string (·.param) fun a t => { t with param := a },
    field "priority" uint8 (·.priority) fun a t => { t with priority := a },
    field "error" string (·.error) fun a t => { t with error := a }]

def TaskStat.layout : Layout TaskStat where
  blank := {}
  isStrict := false
  fields := [
    idField (·.id) fun a s => { s with id := a },
    optionalField "create_ts" Instant.format (·.createdAt) fun a s => { s with createdAt := a },
    optionalField "start_ts" Instant.format (·.startedAt) fun a s => { s with startedAt := a },
    optionalField "end_ts" Instant.format (·.endedAt) fun a s => { s with endedAt := a },
    field "result_count" uint64 (·.resultCount) fun a s => { s with resultCount := a },
    field "log_count" uint64 (·.logCount) fun a s => { s with logCount := a },
    field "error_log_count" uint64 (·.errorLogCount) fun a s => { s with errorLogCount := a }]

def Schedule.layout : Layout Schedule where
  blank := {}
  isStrict := false
  fields := [
    idField (·.id) fun a s => { s with id := a },
    field "name" string (·.name) fun a s => { s with name := a },
    field "cron" string (·.cron) fun a s => { s with cron := a },
    optionalField "spider_id" objectId (·.spiderId) fun a s => { s with spiderId := a },
    field "enabled" bool (·.enabled) fun a s => { s with enabled := a }]

def User.layout : Layout User where
  blank := {}
  isStrict := false
  fields := [
    idField (·.id) fun a u => { u with id := a },
    field "username" string (·.username) fun a u => { u with username := a },
    field "email" string (·.email) fun a u => { u with email := a },
    field "role" string (·.role) fun a u => { u with role := a }]

def Tag.layout : Layout Tag where
  blank := {}
  isStrict := false
  fields := [
    idField (·.id) fun a t => { t with id := a },
    field "name" string (·.name) fun a t => { t with name := a },
    field "color" string (·.color) fun a t => { t with color := a },
    field "col" string (·.col) fun a t => { t with col := a }]

def Artifact.layout : Layout Artifact where
  blank := {}
  isStrict := false
  fields := [
    idField (·.id) fun a r => { r with id := a },
    field "col" string (·.col) fun a r => { r with col := a },
    field "deleted" bool (·.deleted) fun a r => { r with deleted := a },
    optionalField "create_ts" Instant.format (·.createdAt) fun a r => { r with createdAt := a },
    optionalField "update_ts" Instant.format (·.updatedAt) fun a r => { r with updatedAt := a },
    optionalField "delete_ts" Instant.format (·.deletedAt) fun a r => { r with deletedAt := a }]

/-! ## Models -/

namespace Model

/-- The JSON object of a model, as it is written and as queries see it. -/
def document : Model → Value
  | node m => Node.layout.format.write m
  | project m => Project.layout.format.write m
  | spider m => Spider.layout.format.write m
  | task m => Task.layout.format.write m
  | taskStat m => TaskStat.layout.format.write m
  | schedule m => Schedule.layout.format.write m
  | user m => User.layout.format.write m
  | tag m => Tag.layout.format.write m
  | artifact m => Artifact.layout.format.write m

/-- The text of a model. -/
def encode (m : Model) : Bytes := m.document.write

/-- Reads a model of a kind from a text. -/
def decode? (kind : Kind) (text : Bytes) : Option Model :=
  match kind with
  | .node => (Node.layout.format.ofText? text).map node
  | .project => (Project.layout.format.ofText? text).map project
  | .spider => (Spider.layout.format.ofText? text).map spider
  | .task => (Task.layout.format.ofText? text).map task
  | .taskStat => (TaskStat.layout.format.ofText? text).map taskStat
  | .schedule => (Schedule.layout.format.ofText? text).map schedule
  | .user => (User.layout.format.ofText? text).map user
  | .tag => (Tag.layout.format.ofText? text).map tag
  | .artifact => (Artifact.layout.format.ofText? text).map artifact

end Model

/-- The text of an audit record. -/
def Artifact.encode (a : Artifact) : Bytes := Artifact.layout.format.toText a

end ControlPlane
