import ControlPlane.Master.Route
import ControlPlane.Node.Bootstrap
import ControlPlane.Node.Monitor
import ControlPlane.Time.Clock

/-!
# The master

A master is a network under one configuration, with a clock that its nodes are watched by and a
timer that its monitors run on. Serving means to write the record of the master first and then to
monitor until the master is shut down.
-/

set_option autoImplicit false

namespace ControlPlane

/-- A loop of the master that runs until shutdown. -/
inductive Watch where
  | running (m : Monitor)
  /-- A loop that ended; a failure is given by its texts. -/
  | ended (r : Except String Unit)

/-- A loop at shutdown. -/
def Watch.stop : Watch → Watch
  | .running _ => .ended (.ok ())
  | w => w

structure Master where
  config : RuntimeConfig
  network : Network
  clock : ManualClock
  hostname : String := ""
  /-- How many seconds have passed on the timer. -/
  timer : Nat := 0
  isShutDown : Bool := false
  /-- The loop that only monitors. -/
  monitor : Option Watch := none
  /-- The loop that serves. -/
  server : Option Watch := none

namespace Master

/-- A master that has done nothing yet. -/
def start (config : RuntimeConfig) (clock : ManualClock) (wall : Instant) (hostname : String) :
    Master where
  config := config
  clock := clock
  hostname := hostname
  network := {
    backend := { wall, clock := clock.reading, retention := config.retention }
    ingest := config.ingest
    frameLimit := config.maxFrameBytes }

/-- Runs a routine alone. -/
def run {α : Type} (m : Master) (r : Routine α) : α × Master :=
  let (a, n) := m.network.run r
  (a, { m with network := n })

def setBackend (m : Master) (b : Backend) : Master :=
  { m with network := { m.network with backend := b } }

/-- Lets the actors move until none can. -/
def settle (m : Master) : Master := { m with network := m.network.settle }

/-- Moves the clock that nodes are watched by. -/
def advance (m : Master) (millis : Int64) : Instant × Master :=
  let clock := m.clock.advance millis
  let now := clock.reading
  (now, { m with clock }.setBackend { m.network.backend with clock := now })

/-- Plans answers for a sort of call of the store. -/
def plan (m : Master) (c : StoreCall) (p : Plan) : Master :=
  let b := m.network.backend
  m.setBackend { b with script := b.script.plan c p }

/-- Writes the record of the master. -/
def bootstrap (m : Master) : Except String Node × Master :=
  m.run (Bootstrap.run m.config.masterKey m.hostname).run

def respond (m : Master) (r : HttpRequest) : HttpAnswer × Master :=
  let (answer, b) := Http.respond m.config r m.network.backend
  (answer, m.setBackend b)

/-! ## Loops -/

/-- Starts a monitor. -/
def watch (m : Master) : Watch × Master :=
  let (monitor, b) := Monitor.start m.config.monitor m.timer m.network.backend
  (if m.isShutDown then .ended (.ok ()) else .running monitor, m.setBackend b)

def startMonitor (m : Master) : Master :=
  let (w, m) := m.watch
  { m with monitor := some w }

/-- Writes the record of the master and starts to serve. -/
def serve (m : Master) : Master :=
  match m.bootstrap with
  | (.error e, m) => { m with server := some (.ended (.error e)) }
  | (.ok _, m) =>
      let (w, m) := m.watch
      { m with server := some w }

/-- Lets a loop sweep if that is due. -/
def tickOne (m : Master) : Option Watch → Option Watch × Master
  | some (.running monitor) =>
      let (monitor, b) := monitor.tick m.config.monitor m.timer m.network.backend
      (some (.running monitor), m.setBackend b)
  | w => (w, m)

/-- Lets time pass on the timer. -/
def tick (m : Master) (secs : Nat) : Master :=
  let m := { m with timer := m.timer + secs }
  let (monitor, m) := m.tickOne m.monitor
  let (server, m) := m.tickOne m.server
  { m with monitor, server }

/-- Ends all loops. -/
def shutDown (m : Master) : Master :=
  { m with
    isShutDown := true
    monitor := m.monitor.map Watch.stop
    server := m.server.map Watch.stop }

end Master
end ControlPlane
