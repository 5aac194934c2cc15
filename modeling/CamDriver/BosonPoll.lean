import CamDriver.BosonPort
import CamDriver.GenicamPoll
import CamDriver.Lib.Machine
import CamDriver.Text

/-!
# CamDriver.BosonPoll

`health_boson.BosonProvider`: a poll over the command channel, and the opening and closing
of the port around it.

A port object lasts until it is closed; the next poll makes another one, with a sequence
number that starts again.  What the world does at each opening and each command is a
`BosonWorld`.
-/

namespace CamDriver

namespace Boson

/-! ## The provider's port -/

/-- What a provider is configured with, and how numbers are written; `timeout` is the text
of `timeout_s`. -/
structure BosonConfig where
  device : String
  timeout : String
  text : NumberText

/-- Whether the n-th port object can be opened, and the course of each command. -/
structure BosonWorld where
  opens : Nat → Bool
  course : Nat → Course

/-- `BosonProvider`, with the camera.  `port` is the last port object that was made; it is
`_port` where it is `held`, and else `_port` is none that is open. -/
structure BosonState where
  port : Port
  held : Bool
  hardwareId : String
  link : CameraLink

def BosonState.init : BosonState :=
  { port := ⟨0, 0, false⟩, held := false, hardwareId := "", link := .init }

abbrev BosonM := EStateM PortError BosonState

/-- `port.close`. -/
def BosonState.closePort (s : BosonState) : BosonState :=
  { s with port := { s.port with isOpen := false } }

/-- `_close`. -/
def BosonState.close (s : BosonState) : BosonState :=
  if s.held then { s.closePort with held := false } else s

/-- What is done about an `OSError`. -/
def onGone (f : BosonState → BosonState) : PortError → BosonState → BosonState
  | .gone, s => f s
  | .bad _, s => s

/-- `except BosonError`. -/
def PortError.caught : PortError → Option String
  | .bad message => some message
  | .gone => none

/-- A new port object. -/
def BosonState.makePort (s : BosonState) (isOpen : Bool) : BosonState :=
  { s with port := ⟨s.port.number + 1, 0, isOpen⟩, held := false }

section Poll

variable (cfg : BosonConfig) (world : BosonWorld)

/-- `port.command`. -/
def command (functionId : UInt32) : BosonM (List UInt8) := fun s =>
  match s.port.command cfg.timeout functionId (world.course s.link.calls) s.link with
  | (.ok payload, port, link) => .ok payload { s with port := port, link := link }
  | (.error e, port, link) => .error e { s with port := port, link := link }

/-- `_unpack`: the first bytes of a reply, as many as the format needs. -/
def unpack (need : Nat) (body : List UInt8) : BosonM (List UInt8) :=
  if body.length < need then
    throw (.bad ("reply too short (" ++ toString body.length ++ " < " ++ toString need ++
      " bytes)"))
  else return body.take need

/-- A byte of a text, with `decode("ascii", "replace")`. -/
def asciiChar (b : UInt8) : Char := if b < 0x80 then Char.ofNat b.toNat else '\ufffd'

/-- The part number of a reply: up to a zero byte, without the spaces around it. -/
def partNumber (body : List UInt8) : String :=
  String.ofList (strip ((body.takeWhile (· ≠ 0)).map asciiChar))

/-- `_identify`. -/
def identify : BosonM String := do
  let pn ← Effects.attempt PortError.caught (command cfg world fnPartNumber)
  let sn ← Effects.attempt PortError.caught (command cfg world fnCameraSn >>= unpack 4)
  let part := match pn with
    | .ok body => [partNumber body].filter (· ≠ "")
    | .error _ => []
  let serial := match sn with
    | .ok body => ["sn " ++ toString (Endian.big.decode body)]
    | .error _ => []
  return " ".intercalate ("FLIR Boson" :: part ++ serial)

/-- `_ensure_port`. -/
def ensurePort : BosonM PUnit := do
  let s ← get
  if s.held ∧ s.port.isOpen then return ()
  else
    let opened := world.opens (s.port.number + 1)
    set (s.makePort opened)
    if ¬ opened then throw .gone
    else
      let hw ← Effects.cleanup (onGone BosonState.closePort) (identify cfg world)
      modify fun s => { s with hardwareId := hw, held := true }

/-! ## A poll -/

/-- `FFC_STATES`. -/
def ffcState : Nat → String
  | 0 => "none"
  | 1 => "imminent"
  | 2 => "in_progress"
  | 3 => "complete"
  | _ => "unknown"

/-- The values of a poll, in the order they are read: the key, the command, the bytes its
reply needs and what they say. -/
def pollReads : List (String × UInt32 × Nat × (List UInt8 → HealthValue)) :=
  [ ("temp.sensor_c", fnFpaTemp, 2, fun b => .float (.finite (Endian.big.decodeInt b / 10))),
    ("ffc.state", fnFfcState, 4, fun b => .str (ffcState (Endian.big.decode b))),
    ("frame_count", fnFrameCount, 4, fun b => .int (Endian.big.decode b)),
    ("ffc.last_frame", fnLastFfcFrame, 4, fun b => .int (Endian.big.decode b)) ]

/-- One round of the loop of `poll`, with the values and the errors so far. -/
def readRound (r : HealthValues × List String)
    (item : String × UInt32 × Nat × (List UInt8 → HealthValue)) :
    BosonM (HealthValues × List String) := do
  let (key, functionId, need, parse) := item
  if (world.course (← get).link.calls).stopped then return r
  else
    match ← Effects.attempt PortError.caught (Effects.cleanup (onGone BosonState.close)
        (command cfg world functionId >>= unpack need)) with
    | .ok body => return (r.1.insert key (parse body), r.2)
    | .error e => return (r.1, r.2 ++ [e])

/-- The values a report has besides those that were read. -/
def derivedValues (values : HealthValues) (errors : List String) : HealthValues :=
  let values := match values.lookup "frame_count", values.lookup "ffc.last_frame" with
    | some (.int count), some (.int last) =>
      values.insert "ffc.frames_since" (HealthValue.int (count - last))
    | _, _ => values
  let values :=
    if errors = [] then values
    else values.insert "read_errors" (HealthValue.int errors.length)
  -- `validate_measurements`: the temperature is the one measurement of this provider
  match (values.lookup "temp.sensor_c").bind HealthValue.numeric with
  | some _ => values
  | none =>
    (values.insert "temp.sensor_c" HealthValue.null).insert (metricKey "temp.sensor_c")
      (HealthValue.str "unavailable")

/-- The report of a poll. -/
def bosonReport (hardwareId : String) (values : HealthValues) : HealthReport :=
  let temperature := match values.lookup "temp.sensor_c" with
    | some (.float x) => [cfg.text.general x ++ " C"]
    | _ => []
  let ffc := match values.lookup "ffc.state" with
    | some (.str "imminent") => ["FFC imminent"]
    | some (.str "in_progress") => ["FFC in progress"]
    | _ => []
  let level : HealthLevel :=
    if (values.lookup "temp.sensor_c").getD .null = .null then .warn else .ok
  let missing := if level = .warn then ["temperature unavailable"] else []
  let msgs := temperature ++ ffc ++ missing
  { component := "camera"
    level := level
    message := if msgs = [] then "OK" else "; ".intercalate msgs
    hardwareId := hardwareId
    values := values }

/-- `poll`. -/
def poll : BosonM (List HealthReport) := do
  ensurePort cfg world
  let r ← pollReads.foldlM (readRound cfg world) (∅, [])
  if pollReads.length ≤ r.2.length then
    modify BosonState.close
    throw (.bad ("camera not answering on " ++ cfg.device ++ " (" ++ r.2.headD "" ++ ")"))
  else
    return [bosonReport cfg (← get).hardwareId (derivedValues r.1 r.2)]

/-! ## Polls and closes -/

/-- What is asked of a provider. -/
inductive BosonAction where
  | poll
  | close
deriving DecidableEq, Repr

def bosonStep (s : BosonState) : BosonAction → BosonState × Except PortError (List HealthReport)
  | .poll =>
    match (poll cfg world).run s with
    | .ok reports s => (s, .ok reports)
    | .error e s => (s, .error e)
  | .close => (s.close, .ok [])

/-- The provider after some polls and closes. -/
def afterActions (actions : List BosonAction) : BosonState :=
  Machine.final (bosonStep cfg world) .init actions

end Poll

end Boson

end CamDriver
