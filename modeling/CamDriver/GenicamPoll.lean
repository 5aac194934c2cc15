import CamDriver.HealthReport
import CamDriver.Lib.Effects
import CamDriver.Lib.Rounding

/-!
# CamDriver.GenicamPoll

`health_genicam.GenicamProvider`: a poll of the camera's own health, as the series of
transactions with its device that it is.

A transaction holds the camera's `io_lock`; between two of them the camera may be
reconnected, and its device replaced by another object.  What the provider compares is
the identity of the object, `id(dev)`, which another object may get once the first one is
gone.  Each value is kept with the objects it was read from.
-/

namespace CamDriver

/-! ## The camera -/

/-- A device object: `ident` is its `id`, and `number` tells it from every other object. -/
structure DeviceObject where
  number : Nat
  ident : Nat
  hardwareId : String
deriving DecidableEq, Repr

/-- A value with the numbers of the objects it comes from. -/
structure Sourced (α : Type) where
  value : α
  sources : List Nat
deriving DecidableEq, Repr

/-- All of a value comes from the object `d`. -/
def Sourced.From {α : Type} (d : Nat) (v : Sourced α) : Prop := ∀ n ∈ v.sources, n = d

/-- What a poll reads off a `GigECamera`; `named`: the last `open` got to the names of its
device. -/
structure CameraHandle where
  device : Option DeviceObject
  controlLost : Bool
  hardwareId : Sourced String
  named : Bool
deriving DecidableEq, Repr

/-- A camera that was not opened yet. -/
def CameraHandle.init : CameraHandle :=
  { device := none, controlLost := false, hardwareId := ⟨"", []⟩, named := false }

/-- What happens to a camera while no transaction holds its lock: `_release`, `open` (which
may fail once the device is there and before its names are read), and the `control-lost`
signal. -/
inductive CameraEvent where
  | released
  | opened (dev : DeviceObject) (named : Bool)
  | controlLost
deriving DecidableEq, Repr

def CameraHandle.after (cam : CameraHandle) : CameraEvent → CameraHandle
  | .released => { cam with device := none }
  | .opened dev named =>
    { device := some dev
      controlLost := false
      hardwareId := if named then ⟨dev.hardwareId, [dev.number]⟩ else cam.hardwareId
      named := named }
  | .controlLost => { cam with controlLost := true }

/-! ## Transactions -/

/-- What a device answers: whether it has a feature, the text of one, a command, a
setting, and the entries of the temperature selector. -/
structure DeviceAnswers where
  has : String → Except String Bool
  text : String → Except String String
  command : String → Except String Unit
  select : String → String → Except String Unit
  entries : Except String (List String)

/-- The course of one transaction: what happened to the camera before it, what it finds
(`busyInside`: `busy()` once it has the lock), and what the device answers. -/
structure Transaction where
  events : List CameraEvent
  stopped : Bool
  busy : Bool
  connected : Bool
  locked : Bool
  busyInside : Bool
  answers : DeviceAnswers

/-- `ObservationUnavailable`, or another exception. -/
inductive PollError where
  | unavailable (message : String)
  | failed (message : String)
deriving DecidableEq, Repr

/-- `GenicamProvider`, as far as it changes. -/
structure GenicamState where
  deviceId : Option Nat
  selectorCache : Option Nat × List (Sourced String)
  measurements : List (Sourced String)
  statusValues : AList fun _ : String => Sourced HealthValue

def GenicamState.init : GenicamState :=
  { deviceId := none, selectorCache := (none, []), measurements := [], statusValues := ∅ }

/-- A poll under way: the provider, the camera, the transactions to come, and the numbers of
the objects that were read so far. -/
structure PollWorld where
  provider : GenicamState
  camera : CameraHandle
  script : List Transaction
  reads : List Nat

abbrev PollM := EStateM PollError PollWorld

/-- `_device_call` up to the device, with the camera as the transaction finds it. -/
def Transaction.device (t : Transaction) (cam : CameraHandle) : Except PollError DeviceObject :=
  if t.stopped then .error (.failed "health stopped")
  else if t.busy then .error (.unavailable "camera reconnecting")
  else if ¬ t.connected then .error (.unavailable "camera not connected")
  else if t.locked then .error (.failed "camera control busy")
  else if t.busyInside then .error (.unavailable "camera reconnecting")
  else match cam.device with
    | none => .error (.unavailable "camera not connected")
    | some dev =>
      if cam.controlLost then .error (.unavailable "camera not connected") else .ok dev

/-- What a poll of another device starts with. -/
def GenicamState.forDevice (p : GenicamState) (dev : DeviceObject) : GenicamState :=
  if p.deviceId = some dev.ident then p else { GenicamState.init with deviceId := some dev.ident }

/-- The camera goes on until the next transaction has its lock; `none`: there is no further
one, the health is stopped. -/
def PollWorld.next (w : PollWorld) : Option (Transaction × PollWorld) :=
  match w.script with
  | [] => none
  | t :: script =>
    some (t, { w with camera := t.events.foldl CameraHandle.after w.camera, script := script })

/-- `_device_call(fn, reset=...)`. -/
def deviceCall {α : Type} (reset : Bool)
    (fn : DeviceObject → CameraHandle → DeviceAnswers → Except String α) : PollM α := do
  match (← get).next with
  | none => throw (.failed "health stopped")
  | some (t, w) =>
    set w
    match t.device w.camera with
    | .error e => throw e
    | .ok dev =>
      if w.provider.deviceId ≠ some dev.ident ∧ ¬ reset then
        throw (.unavailable "camera changed during health poll")
      set { w with provider := w.provider.forDevice dev, reads := w.reads ++ [dev.number] }
      match fn dev w.camera t.answers with
      | .ok a => return a
      | .error e => throw (.failed e)

/-- `except ObservationUnavailable: raise`, and `except Exception`. -/
def PollError.caught : PollError → Option String
  | .unavailable _ => none
  | .failed message => some message

/-- `self._stop.is_set()`, between two transactions. -/
def stopping : PollM Bool := return (← get).script.head?.all (·.stopped)

/-! ## Features -/

/-- The features of one value, in the order they are tried, each with its scale; without
one the text is kept. -/
abbrev Candidates := List (String × Option ℚ)

/-- `DEFAULT_FEATURES`. -/
def defaultFeatures : List (String × Candidates) :=
  [ ("uptime_s", [("DeviceUptime", some 1)]),
    ("supply.voltage_v", [("PowerSupplyVoltage", some 1)]),
    ("supply.current_a", [("PowerSupplyCurrent", some 1)]),
    ("link.speed_mbps", [("GevLinkSpeed", some 1), ("DeviceLinkSpeed", some (8 / 1000000))]),
    ("ptp.state", [("PtpStatus", none), ("GevIEEE1588Status", none)]),
    ("ptp.offset_ns", [("PtpOffsetFromMaster", some 1)]),
    ("temp.state", [("TemperatureState", none)]) ]

/-- A configured name wins over the defaults. -/
def configureFeature (features : List (String × Candidates)) (item : String × String) :
    List (String × Candidates) :=
  if features.any (·.1 = item.1) then
    features.map fun f => if f.1 = item.1 then (f.1, [(item.2, some 1)]) else f
  else features ++ [(item.1, [(item.2, some 1)])]

/-- `TEMPERATURE`. -/
def temperature : String := "DeviceTemperature"
/-- `TEMPERATURE_SELECTOR`. -/
def temperatureSelector : String := "DeviceTemperatureSelector"
/-- `PTP_LATCH`. -/
def ptpLatch : String := "PtpDataSetLatch"

/-- The features that `PTP_LATCH` latches. -/
def latchedFeatures : List String := ["PtpStatus", "PtpOffsetFromMaster"]

/-- The values that are held where a read of them fails. -/
def heldKeys : List String := ["temp.state", "ptp.state"]

/-- An underscore where a capital follows a small letter or a digit. -/
def breakWords : List Char → List Char
  | a :: b :: rest =>
    if (a.isLower || a.isDigit) && b.isUpper then a :: '_' :: breakWords (b :: rest)
    else a :: breakWords (b :: rest)
  | rest => rest

/-- `snake`: the runs of small letters and digits, with an underscore between two. -/
def snake (s : String) : String :=
  let words := ((breakWords s.toList).map Char.toLower).splitOnP fun c =>
    !(c.isLower || c.isDigit)
  String.ofList (['_'].intercalate (words.filter (· ≠ [])))

example : snake "SensorBoard" = "sensor_board" ∧ snake "FPGA Core" = "fpga_core" := by decide

/-- `temp.<entry>_c`. -/
def temperatureKey (entry : String) : String := "temp." ++ snake entry ++ "_c"

/-- `health.metric.<key>.state`. -/
def metricKey (key : String) : String := "health.metric." ++ key ++ ".state"

/-- `k.startswith("health.metric.")`. -/
def isHealthMetric (key : String) : Bool := "health.metric.".toList.isPrefixOf key.toList

/-- `k.startswith("temp.") and k.endswith("_c")`. -/
def isTemperature (key : String) : Bool :=
  "temp.".toList.isPrefixOf key.toList && "_c".toList.isSuffixOf key.toList

/-- A temperature, or one of the supply's readings. -/
def isMeasurement (key : String) : Bool :=
  isTemperature key || key ∈ ["supply.voltage_v", "supply.current_a", "supply.power_w"]

/-! ## Values -/

/-- The values of a report, each with the objects it comes from. -/
abbrev SourcedValues := AList fun _ : String => Sourced HealthValue

/-- A text the provider puts itself. -/
def unavailable (sources : List Nat) : Sourced HealthValue := ⟨.str "unavailable", sources⟩

/-- The number under a key, if `_numeric`. -/
def SourcedValues.number (values : SourcedValues) (key : String) : Option ℚ :=
  (values.lookup key).bind fun v => v.value.numeric

/-- One round of `validate_measurements`. -/
def validateMeasurement (values : SourcedValues) (m : Sourced String) : SourcedValues :=
  match values.number m.value with
  | some _ => values
  | none =>
    (values.insert m.value ⟨.null, m.sources⟩).insert (metricKey m.value) (unavailable m.sources)

/-- The keys of the values that are measurements. -/
def measurementsOf (values : SourcedValues) : List (Sourced String) :=
  (values.entries.filter fun e => isMeasurement e.1).map fun e => ⟨e.1, e.2.sources⟩

/-- `validate_measurements`. -/
def validateMeasurements (values : SourcedValues) (expected : List (Sourced String)) :
    SourcedValues :=
  (expected ++ measurementsOf values).foldl validateMeasurement values

/-- The product of two readings, rounded to six digits. -/
def powerOf : HealthValue → HealthValue → Option HealthValue
  | .int a, .int b => some (.int (a * b))
  | a, b => a.numeric.bind fun x => b.numeric.map fun y =>
      .float (.finite (roundHalfEven (x * y * 1000000) / 1000000))

/-- `supply_power`. -/
def supplyPower (values : SourcedValues) : SourcedValues :=
  if "supply.power_w" ∈ values then values
  else
    match values.lookup "supply.voltage_v", values.lookup "supply.current_a" with
    | some voltage, some current =>
      match powerOf voltage.value current.value with
      | some power => values.insert "supply.power_w" ⟨power, voltage.sources ++ current.sources⟩
      | none => values
    | _, _ => values

/-! ## The poll -/

/-- What a provider is configured with (`configured`: the names of features), `parse_value`,
and how numbers are written. -/
structure GenicamConfig where
  configured : List (String × String)
  ptpExpected : Bool
  parse : String → Option ℚ → HealthValue
  text : NumberText

/-- `self._features`. -/
def GenicamConfig.features (cfg : GenicamConfig) : List (String × Candidates) :=
  cfg.configured.foldl configureFeature defaultFeatures

/-- A poll so far: its values, the errors of its reads, and how many of these there were. -/
structure Readings where
  values : SourcedValues
  errors : List String
  reads : Nat

def Readings.set (r : Readings) (key : String) (v : Sourced HealthValue) : Readings :=
  { r with values := r.values.insert key v }

/-- A read that failed. -/
def Readings.fail (r : Readings) (error : String) : Readings :=
  { r with errors := r.errors ++ [error] }

/-- One more read. -/
def Readings.count (r : Readings) : Readings := { r with reads := r.reads + 1 }

def providerNow {α : Type} (f : GenicamState → α) : PollM α := return f (← get).provider

def changeProvider (f : GenicamState → GenicamState) : PollM PUnit :=
  modify fun w => { w with provider := f w.provider }

/-- `_has`: the object that has the feature. -/
def hasFeature (feature : String) : PollM (Option Nat) :=
  deviceCall false fun dev _ answers =>
    (answers.has feature).map fun found => if found then some dev.number else none

/-- `any(self._has(feature) ...)`. -/
def anyHas : List String → PollM (Option Nat)
  | [] => return none
  | feature :: features => do
    match ← hasFeature feature with
    | some n => return some n
    | none => anyHas features

/-- The text of a feature, parsed. -/
def readFeature (cfg : GenicamConfig) (feature : String) (scale : Option ℚ) :
    PollM (Sourced HealthValue) :=
  deviceCall false fun dev _ answers =>
    (answers.text feature).map fun s => ⟨cfg.parse s scale, [dev.number]⟩

/-- The entries of the selector as the device has them. -/
def readEntries : PollM (List (Sourced String)) :=
  deviceCall false fun dev _ answers =>
    answers.entries.map fun entries => entries.map fun entry => ⟨entry, [dev.number]⟩

/-- The entries of the selector, where the device has one and they can be read. -/
def probeEntries : PollM (List (Sourced String)) := do
  match ← hasFeature temperatureSelector with
  | none => return []
  | some _ =>
    match ← Effects.attempt PollError.caught readEntries with
    | .ok entries => return entries
    | .error _ => return []

/-- `_selector_entries`. -/
def selectorEntries : PollM (List (Sourced String)) := do
  let (key, cache) ← providerNow fun p => (p.deviceId, p.selectorCache)
  if cache.1 = key then return cache.2
  else
    let entries ← probeEntries
    changeProvider fun p => { p with selectorCache := (key, entries) }
    return entries

/-- The selector is set to an entry where there are several. -/
def selectEntry (several : Bool) (answers : DeviceAnswers) :
    Option (Sourced String) → Except String Unit
  | some e => if several then answers.select temperatureSelector e.value else .ok ()
  | none => .ok ()

/-- A temperature, of the entry the selector is set to. -/
def readTemperature (cfg : GenicamConfig) (several : Bool) (entry : Option (Sourced String)) :
    PollM (Sourced HealthValue) :=
  deviceCall false fun dev _ answers =>
    (selectEntry several answers entry).bind fun _ => (answers.text temperature).map fun s =>
      ⟨cfg.parse s (some 1), dev.number :: (entry.map Sourced.sources).getD []⟩

/-- One round of `_temperatures`. -/
def temperatureRound (cfg : GenicamConfig) (several : Bool) (r : Readings)
    (entry : Option (Sourced String)) : PollM Readings := do
  if ← stopping then return r
  else
    let name := (entry.map Sourced.value).getD ""
    match ← Effects.attempt PollError.caught (readTemperature cfg several entry) with
    | .ok v =>
      let key := if entry.isSome then temperatureKey name else "temp.device_c"
      return r.count.set key v
    | .error e => return r.count.fail (temperature ++ "[" ++ name ++ "]: " ++ e)

/-- `_temperatures`, with what the poll makes of them. -/
def temperatures (cfg : GenicamConfig) (r : Readings) : PollM Readings := do
  match ← hasFeature temperature with
  | none => return r
  | some _ =>
    let entries ← selectorEntries
    let rounds := if entries = [] then [none] else entries.map some
    rounds.foldlM (temperatureRound cfg (1 < entries.length)) r

/-- The first candidate that the device has. -/
def firstFound : Candidates → PollM (Option (String × Option ℚ))
  | [] => return none
  | c :: cs => do
    match ← hasFeature c.1 with
    | some _ => return some c
    | none => firstFound cs

/-- One feature, which is not read where the latch before it failed. -/
def readLatched (cfg : GenicamConfig) (latchFailed : Bool) (c : String × Option ℚ) :
    PollM (Sourced HealthValue) :=
  if latchFailed ∧ c.1 ∈ latchedFeatures then throw (.failed "PTP latch failed")
  else readFeature cfg c.1 c.2

/-- One round of the loop over the features. -/
def featureRound (cfg : GenicamConfig) (latchFailed : Bool) (r : Readings)
    (item : String × Candidates) : PollM Readings := do
  if ← stopping then return r
  else
    match ← firstFound item.2 with
    | none => return r
    | some c =>
      match ← Effects.attempt PollError.caught (readLatched cfg latchFailed c) with
      | .ok v =>
        if item.1 ∈ heldKeys then
          changeProvider fun p => { p with statusValues := p.statusValues.insert item.1 v }
        return r.count.set item.1 v
      | .error e =>
        let failed := r.count.fail (c.1 ++ ": " ++ e)
        if item.1 ∈ heldKeys then
          let held ← providerNow fun p => p.statusValues.lookup item.1
          return (failed.set item.1 (held.getD ⟨.null, []⟩)).set (metricKey item.1) (unavailable [])
        else return failed

/-- The latch of the PTP values: whether it failed. -/
def latchPtp (r : Readings) : PollM (Readings × Bool) := do
  match ← hasFeature ptpLatch with
  | none => return (r, false)
  | some _ =>
    match ← anyHas latchedFeatures with
    | none => return (r, false)
    | some _ =>
      match ← Effects.attempt PollError.caught
          (deviceCall false fun _ _ answers => answers.command ptpLatch) with
      | .ok _ => return (r.count, false)
      | .error e => return (r.count.fail (ptpLatch ++ ": " ++ e), true)

def addMeasurements (names : List (Sourced String)) : PollM PUnit :=
  changeProvider fun p => { p with measurements := p.measurements ++ names }

/-- A feature that is a measurement, whether or not it could be read. -/
def noteMeasurement (_ : PUnit) (item : String × Candidates) : PollM PUnit := do
  if isMeasurement item.1 then
    match ← anyHas (item.2.map Prod.fst) with
    | some n => addMeasurements [⟨item.1, [n]⟩]
    | none => return ()
  else return ()

/-- The measurements of the device: those read, and those it has. -/
def noteMeasurements (cfg : GenicamConfig) (values : SourcedValues) : PollM PUnit := do
  addMeasurements (measurementsOf values)
  cfg.features.foldlM noteMeasurement ()
  match ← hasFeature temperature with
  | none => return ()
  | some n =>
    let entries ← selectorEntries
    addMeasurements (entries.map fun e => ⟨temperatureKey e.value, e.sources⟩)
    if (← selectorEntries) = [] then addMeasurements [⟨"temp.device_c", [n]⟩]

/-- The values of the report, of those read and the measurements of the device. -/
def reportValues (values : SourcedValues) (measurements : List (Sourced String)) :
    SourcedValues :=
  let values := supplyPower (validateMeasurements values measurements)
  let names := measurements.map Sourced.value
  if "supply.power_w" ∉ values ∧ "supply.voltage_v" ∈ names ∧ "supply.current_a" ∈ names then
    validateMeasurements values [⟨"supply.power_w", []⟩]
  else values

/-! ## The report -/

/-- The camera's `Report`. -/
structure CameraReport where
  level : HealthLevel
  message : String
  hardwareId : Sourced String
  values : SourcedValues

/-- `TEMP_STATE_LEVELS`. -/
def tempStateLevel (state : String) : HealthLevel :=
  if state.toLower = "critical" then .warn
  else if state.toLower = "error" then .error
  else .ok

/-- The temperature state, where it is one that is not OK. -/
def alarmingState (values : SourcedValues) : Option String :=
  ((values.lookup "temp.state").map Sourced.value).bind fun
    | .str state => if tempStateLevel state = .ok then none else some state
    | _ => none

/-- How a value reads in a message, with `str`. -/
def HealthValue.shown (text : NumberText) : HealthValue → String
  | .null => "None"
  | .bool b => if b then "True" else "False"
  | .int i => toString i
  | .float x => text.general x
  | .str s => s
  | .other s => s

/-- The PTP state, where it is expected to be locked and is not. -/
def unlockedPtp (cfg : GenicamConfig) (values : SourcedValues) : Option HealthValue :=
  ((values.lookup "ptp.state").map Sourced.value).filter fun v =>
    cfg.ptpExpected && v ≠ .null && v ∉ [HealthValue.str "Slave", .str "Master"]

/-- The hottest temperature. -/
def hottest (values : SourcedValues) : Option ℚ :=
  let temps := values.entries.filterMap fun e =>
    if isTemperature e.1 then e.2.value.numeric else none
  temps.foldl (fun best x => some ((best.map (max x)).getD x)) none

/-- `_camera_report`. -/
def cameraReport (cfg : GenicamConfig) (hw : Sourced String) (values : SourcedValues)
    (errors : List String) : CameraReport :=
  let state := alarmingState values
  let ptp := unlockedPtp cfg values
  let alarms := (state.map ("camera reports temperature " ++ ·)).toList ++
    (ptp.map fun v => "PTP not locked (" ++ v.shown cfg.text ++ ")").toList
  let calm := match hottest values with
    | some t => cfg.text.general (.finite t) ++ " C"
    | none => if values.entries = [] then "no health features on this camera" else "OK"
  let values :=
    if errors = [] then values
    else values.insert "read_errors" ⟨.int errors.length, []⟩
  let missing := values.entries.any fun e =>
    isHealthMetric e.1 && e.2.value == .str "unavailable"
  { level := max (max ((state.map tempStateLevel).getD .ok) (if ptp.isSome then .warn else .ok))
      (if missing then .warn else .ok)
    message := "; ".intercalate ((if alarms = [] then [calm] else alarms) ++
      if missing then ["measurement unavailable"] else [])
    hardwareId := hw
    values := values }

/-- `poll` behind its first transaction. -/
def pollDevice (cfg : GenicamConfig) (hw : Sourced String) : PollM CameraReport := do
  let (latched, latchFailed) ← latchPtp { values := ∅, errors := [], reads := 0 }
  let r ← temperatures cfg latched
  let r ← cfg.features.foldlM (featureRound cfg latchFailed) r
  if 0 < r.reads ∧ r.reads ≤ r.errors.length then
    throw (.failed ("all " ++ toString r.reads ++ " feature reads failed (" ++
      r.errors.headD "" ++ ")"))
  else
    noteMeasurements cfg r.values
    let measurements ← providerNow GenicamState.measurements
    return cameraReport cfg hw (reportValues r.values measurements) r.errors

/-- `poll`: the camera's report. -/
def poll (cfg : GenicamConfig) : PollM CameraReport := do
  let hw ← deviceCall true fun _ cam _ => .ok cam.hardwareId
  pollDevice cfg hw

/-! ## One poll after the other -/

/-- The provider and the camera between two polls. -/
structure Station where
  provider : GenicamState
  camera : CameraHandle

def Station.init : Station := { provider := .init, camera := .init }

/-- What a poll comes to: its report, the objects that were read in turn, and the entries of
the selector that the provider has cached. -/
structure Polled where
  report : CameraReport
  reads : List Nat
  entries : List (Sourced String)

/-- A poll, of the transactions that are to come. -/
def pollStep (cfg : GenicamConfig) (s : Station) (script : List Transaction) :
    Station × Except PollError Polled :=
  match (poll cfg).run ⟨s.provider, s.camera, script, []⟩ with
  | .ok report w => (⟨w.provider, w.camera⟩, .ok ⟨report, w.reads, w.provider.selectorCache.2⟩)
  | .error e w => (⟨w.provider, w.camera⟩, .error e)

end CamDriver
