import ControlPlane.Config.Environment

/-!
# Logging configuration

How the program names itself in its log and what it logs. In a container log lines are JSON
unless the environment says otherwise.
-/

set_option autoImplicit false

namespace ControlPlane

structure LoggingConfig where
  serviceName : String := "task-cluster"
  logLevel : String := "info"
  consoleOutput : Bool := true
  jsonLogs : Bool := false
deriving DecidableEq, Repr

namespace LoggingConfig

/-- The program runs in a container. -/
def isContainer (env : Environment) : Bool :=
  (env.get? "KUBERNETES_SERVICE_HOST").isSome || (env.get? "DOCKER_CONTAINER").isSome

/-- A flag; a value that is none of the known words counts as `fallback`. -/
def flag (env : Environment) (name : String) (fallback unset : Bool) : Bool :=
  match env.get? name with
  | some value => (Environment.flag? value).getD fallback
  | none => unset

def ofEnvironment (env : Environment) : LoggingConfig where
  serviceName := (env.get? "TC_SERVICE_NAME").getD "task-cluster"
  logLevel := ((env.get? "TC_LOG_LEVEL").or (env.get? "RUST_LOG")).getD "info"
  consoleOutput := flag env "TC_CONSOLE_OUTPUT" true true
  jsonLogs := flag env "TC_JSON_LOGS" false (isContainer env)

end LoggingConfig
end ControlPlane
