import CamDriver.Lib.Budget
import Mathlib

/-!
# CamDriver.Supervisor

The supervisor of a sensor, `supervisor.py`: it spawns the core and the plugins, looks at each
of them in turn, restarts a plugin that has exited, and ends with the core.

A `World` is what the supervisor cannot know: how long each of its steps takes, what becomes of
every process it spawns, when it is told to stop.  The supervisor reads the clock when it
notices an exit, not when the exit happens.
-/

namespace CamDriver.Supervisor

/-! ## The services -/

/-- `PluginConfig`. -/
structure PluginConfig where
  name : String
  enabled : Bool
  command : Option (List String)
  restart : Bool
  isolation : String
  params : List (String × String)
deriving DecidableEq, Repr

/-- What the supervisor reads of its config. -/
structure Sensor where
  executable : String
  configPath : String
  cameraType : String
  socketPath : String
  plugins : List PluginConfig
deriving DecidableEq, Repr

/-- `_playback`. -/
def Sensor.playback (sensor : Sensor) : Bool := sensor.cameraType ∈ ["replay", "pcap"]

/-- `Popen`: when the process ends on its own, and with what status. -/
structure Process where
  ends : Option (Nat × Int)
deriving DecidableEq, Repr

/-- `poll`. -/
def Process.poll (p : Process) (now : Nat) : Option Int :=
  match p.ends with
  | some (at', rc) => if at' ≤ now then some rc else none
  | none => none

structure Service where
  name : String
  cmd : List String
  critical : Bool
  restart : Bool
  proc : Option Process := none
  restarts : Nat := 0
  startedAt : Nat := 0
  /-- how often it was spawned, failed attempts included; the supervisor does not keep it -/
  attempts : Nat := 0
  /-- the uptimes measured at its exits, nor these -/
  uptimes : List Nat := []
deriving DecidableEq, Repr

/-- `_ros2_bridge_command`. -/
def ros2BridgeCommand (params : List (String × String)) : List String :=
  ["ros2", "run", "cam_ros2_bridge", "cam_ros2_bridge", "--ros-args"] ++
    params.flatMap fun (k, v) => ["-p", k ++ ":=" ++ v]

/-- `_resolve`. -/
def Sensor.resolve (sensor : Sensor) (p : PluginConfig) : Option (List String) :=
  if p.name = "ros2-bridge" then
    some (ros2BridgeCommand
      (if (p.params.lookup "socket_path").isSome then p.params
      else p.params ++ [("socket_path", sensor.socketPath)]))
  else
    match p.command with
    | some (arg :: args) => some (arg :: args)
    | _ => none

def Sensor.core (sensor : Sensor) : Service :=
  { name := "core", cmd := [sensor.executable, "main.py", "-c", sensor.configPath]
    critical := true, restart := false }

/-- The service of a plugin, if it is the supervisor's to run. -/
def Sensor.service (sensor : Sensor) (p : PluginConfig) : Option Service :=
  if ¬ p.enabled then none
  else if p.isolation ≠ "process" then none
  else
    (sensor.resolve p).map fun cmd =>
      { name := p.name, cmd := cmd, critical := false, restart := p.restart }

/-- `_build_services`. -/
def Sensor.buildServices (sensor : Sensor) : List Service :=
  sensor.core :: sensor.plugins.filterMap sensor.service

/-! ## The world -/

/-- Nanoseconds in a second. -/
def second : Nat := 10 ^ 9

def restartBackoff : Nat := 2 * second
def restartMax : Nat := 5
def restartReset : Nat := 30 * second
def startupStagger : Nat := 2 * second
/-- `time.sleep(0.5)`. -/
def monitorPause : Nat := second / 2

/-- What becomes of a process: `OSError`, or it lives, for ever or for a time. -/
inductive Fate where
  | fails
  | runs (life : Option (Nat × Int))
deriving DecidableEq, Repr

structure World where
  /-- what the n-th step takes, on top of what it sleeps -/
  delay : Nat → Nat
  /-- what becomes of a service, by its place in the list and the attempt -/
  fate : Nat → Nat → Fate
  /-- when SIGTERM or SIGINT arrives, if it does -/
  stopAt : Option Nat

/-- `_stopping`, as long as the supervisor has not set it itself. -/
def World.stopping (w : World) (now : Nat) : Bool :=
  match w.stopAt with
  | some at' => at' ≤ now
  | none => false

/-- The clock of the supervisor, and the steps it has made. -/
structure Clock where
  now : Nat
  steps : Nat
deriving DecidableEq, Repr

/-- One step later, after a sleep. -/
def Clock.after (w : World) (c : Clock) (sleep : Nat) : Clock :=
  { now := c.now + sleep + w.delay c.steps, steps := c.steps + 1 }

/-! ## The supervisor -/

/-- `Service.spawn`, and whether it does not raise. -/
def Service.spawn (w : World) (i : Nat) (c : Clock) (s : Service) : Clock × Service × Bool :=
  let c := c.after w 0
  let tried := { s with attempts := s.attempts + 1 }
  match w.fate i s.attempts with
  | .fails => (c, tried, false)
  | .runs life =>
    let started := c.after w 0
    (started,
      { tried with
        proc := some { ends := life.map fun (age, rc) => (c.now + age, rc) }
        startedAt := started.now },
      true)

/-- The loop of `run`; `false`: the core cannot be spawned. -/
def startServices (w : World) : Nat → Clock → List Service → Clock × List Service × Bool
  | _, c, [] => (c, [], true)
  | i, c, s :: rest =>
    if w.stopping c.now then (c, s :: rest, true)
    else
      match s.spawn w i c with
      | (c, s, false) =>
        if s.critical then (c, s :: rest, false)
        else
          let (c, rest, ok) := startServices w (i + 1) c rest
          (c, s :: rest, ok)
      | (c, s, true) =>
        let c := if s.critical then c.after w startupStagger else c
        let (c, rest, ok) := startServices w (i + 1) c rest
        (c, s :: rest, ok)

/-- The exit is counted, from nought again if the plugin seems to have run for long. -/
def Service.noticeExit (s : Service) (now : Nat) : Service :=
  let uptime := now - s.startedAt
  { s with
    uptimes := s.uptimes ++ [uptime]
    restarts := if restartReset ≤ uptime then 0 else s.restarts }

/-- `s.proc = None`. -/
def Service.giveUp (s : Service) : Service := { s with proc := none }

/-- `s.spawn()`; the dead process stays where this raises. -/
def Service.respawn (w : World) (i : Nat) (c : Clock) (s : Service) : Clock × Service :=
  match s.spawn w i c with
  | (c, s, true) => (c, s)
  | (c, s, false) =>
    let c := c.after w 0
    (c, { s with startedAt := c.now })

/-- `_handle_plugin_exit`. -/
def handlePluginExit (w : World) (i : Nat) (c : Clock) (s : Service) : Clock × Service :=
  let c := c.after w 0
  let s := s.noticeExit c.now
  if s.restart = false then (c, s.giveUp)
  else if restartMax ≤ s.restarts then (c, s.giveUp)
  else
    let s := { s with restarts := s.restarts + 1 }
    let c := c.after w restartBackoff
    if w.stopping c.now then (c, s) else s.respawn w i c

/-- What a core that exits makes of the sensor's status. -/
def coreStatus (playback : Bool) (rc : Int) : Int :=
  if rc = 0 ∧ playback then 0 else if rc = 0 then 1 else rc

/-- `for s in self.services`, with the status if the core has exited. -/
def sweep (w : World) (playback : Bool) :
    Nat → Clock → List Service → Clock × List Service × Option Int
  | _, c, [] => (c, [], none)
  | i, c, s :: rest =>
    let c := c.after w 0
    match s.proc.bind (·.poll c.now) with
    | none =>
      let (c, rest, status) := sweep w playback (i + 1) c rest
      (c, s :: rest, status)
    | some rc =>
      if s.critical then (c, s :: rest, some (coreStatus playback rc))
      else
        let (c, s) := handlePluginExit w i c s
        let (c, rest, status) := sweep w playback (i + 1) c rest
        (c, s :: rest, status)

/-- The supervisor at the `while` of `_monitor`; `result`: it has left, with that status. -/
structure State where
  clock : Clock
  services : List Service
  result : Option Int
deriving DecidableEq, Repr

/-- One turn of the `while` loop. -/
def State.monitor (w : World) (playback : Bool) (s : State) : State :=
  match s.result with
  | some _ => s
  | none =>
    if w.stopping s.clock.now then { s with result := some 0 }
    else
      match sweep w playback 0 s.clock s.services with
      | (c, services, some status) => { clock := c, services, result := some status }
      | (c, services, none) => { clock := c.after w monitorPause, services, result := none }

/-- `run` up to the loop. -/
def start (w : World) (sensor : Sensor) : State :=
  let (c, services, ok) := startServices w 0 { now := 0, steps := 0 } sensor.buildServices
  { clock := c, services, result := if ok then none else some 1 }

/-- `run`, up to the `n`-th turn of the loop. -/
def run (w : World) (sensor : Sensor) (n : Nat) : State :=
  (State.monitor w sensor.playback)^[n] (start w sensor)

theorem run_succ (w : World) (sensor : Sensor) (n : Nat) :
    run w sensor (n + 1) = (run w sensor n).monitor w sensor.playback :=
  Function.iterate_succ_apply' ..

end CamDriver.Supervisor
