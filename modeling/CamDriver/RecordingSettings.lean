import CamDriver.PlaybackRequest
import CamDriver.RecordedMosaic
import CamDriver.FailingClose

/-!
# CamDriver.RecordingSettings

`recording_settings` and the settings of `CapturePipeline`: a patch of the editable fields
with its checks, the plan of the patched config, and what `configure_recording` installs.

Whether the host has an encoder's elements, and what planning and parsing raise besides,
comes with the request.
-/

namespace CamDriver

/-! ## The config -/

/-- `RecordingConfig`; a number and its float are one value of `keyframeIntervalS`. -/
structure RecordingConfig extends EncodingConfig where
  enabled : Bool
  outputDir : String
  namePrefix : String
  segmentSeconds : Int
  keyframeIntervalS : PyFloat
  bframes : Int
  nvencPreset : Value
  nvencMaxperf : Bool
  videoconvertThreads : Int
deriving DecidableEq, Repr

/-- The fields a patch may not name. -/
structure DeploymentConfig where
  enabled : Bool
  outputDir : String
  namePrefix : String
  bayerPattern : Option String
deriving DecidableEq, Repr

def RecordingConfig.deployment (cfg : RecordingConfig) : DeploymentConfig :=
  { enabled := cfg.enabled, outputDir := cfg.outputDir, namePrefix := cfg.namePrefix,
    bayerPattern := cfg.bayerPattern }

/-- `EDITABLE`. -/
inductive EditableField where
  | encoder | x264Preset | bayerTile | nvencPreset
  | x264Crf | segmentSeconds | keyframeIntervalS | bframes | videoconvertThreads
  | nvencMaxperf
deriving DecidableEq, Repr

/-- What a field accepts: `CHOICES`, `BOUNDS`, or a boolean. -/
inductive FieldRule where
  | choices (values : List String)
  | bounds (lo hi : Int) (integer : Bool)
  | boolean
deriving DecidableEq, Repr

/-- `repr` of a tuple of plain texts. -/
def tupleRepr (values : List String) : String :=
  "(" ++ ", ".intercalate (values.map fun value => "'" ++ value ++ "'") ++ ")"

/-- `VALID_ENCODERS`. -/
def validEncoders : List String :=
  ["auto", "hw-hevc-lossless", "ffv1", "x265-lossless", "stream-copy", "x264"]

namespace EditableField

def all : List EditableField :=
  [encoder, x264Preset, bayerTile, nvencPreset, x264Crf, segmentSeconds, keyframeIntervalS,
   bframes, videoconvertThreads, nvencMaxperf]

def key : EditableField → String
  | encoder => "encoder"
  | x264Preset => "x264_preset"
  | bayerTile => "bayer_tile"
  | nvencPreset => "nvenc_preset"
  | x264Crf => "x264_crf"
  | segmentSeconds => "segment_seconds"
  | keyframeIntervalS => "keyframe_interval_s"
  | bframes => "bframes"
  | videoconvertThreads => "videoconvert_threads"
  | nvencMaxperf => "nvenc_maxperf"

def ofKey (key : String) : Option EditableField := all.find? fun field => field.key = key

/-- `CHOICES` and `BOUNDS`. -/
def rule : EditableField → FieldRule
  | encoder => .choices validEncoders
  | x264Preset => .choices x264Presets
  | bayerTile => .choices ["off", "plain", "green_diff", "rct"]
  | nvencPreset => .choices ["", "disable", "ultrafast", "fast", "medium", "slow"]
  | x264Crf => .bounds 1 50 true
  | segmentSeconds => .bounds 1 86400 true
  | keyframeIntervalS => .bounds 0 3600 false
  | bframes => .bounds 0 16 true
  | videoconvertThreads => .bounds 0 64 true
  | nvencMaxperf => .boolean

end EditableField

/-! ## A patch -/

/-- A finite number of the kind, within its bounds; `math.isfinite` raises for an integer that
no float holds. -/
def Value.within (py : Builtins) (lo hi : Int) (integer : Bool) : Value → Except String Bool
  | .int i =>
    match py.floatOfInt i with
    | none => .error "int too large to convert to float"
    | some (.finite _) => .ok (lo ≤ i && i ≤ hi)
    | some _ => .ok false
  | .float (.finite q) => .ok (!integer && (lo : ℚ) ≤ q && q ≤ (hi : ℚ))
  | _ => .ok false

/-- The check of one field. -/
def EditableField.check (py : Builtins) (field : EditableField) (value : Value) :
    Except String Unit :=
  match field.rule with
  | .choices values =>
    match value with
    | .str s =>
      if s ∈ values then .ok ()
      else .error (field.key ++ " must be one of " ++ tupleRepr values)
    | _ => .error (field.key ++ " must be one of " ++ tupleRepr values)
  | .bounds lo hi integer =>
    match value.within py lo hi integer with
    | .error error => .error error
    | .ok true => .ok ()
    | .ok false =>
      .error (field.key ++ " must be " ++ (if integer then "an integer" else "a number") ++
        " from " ++ toString lo ++ " to " ++ toString hi)
  | .boolean =>
    match value with
    | .bool _ => .ok ()
    | _ => .error (field.key ++ " must be a boolean")

/-- A checked value in its place. -/
def EditableField.set (cfg : RecordingConfig) : EditableField → Value → RecordingConfig
  | .encoder, .str s => { cfg with encoder := s }
  | .x264Preset, .str s => { cfg with x264Preset := s }
  | .bayerTile, .str s => { cfg with bayerTile := .str s }
  | .nvencPreset, value => { cfg with nvencPreset := value }
  | .x264Crf, .int i => { cfg with x264Crf := i }
  | .segmentSeconds, .int i => { cfg with segmentSeconds := i }
  | .keyframeIntervalS, .int i => { cfg with keyframeIntervalS := .finite i }
  | .keyframeIntervalS, .float x => { cfg with keyframeIntervalS := x }
  | .bframes, .int i => { cfg with bframes := i }
  | .videoconvertThreads, .int i => { cfg with videoconvertThreads := i }
  | .nvencMaxperf, .bool b => { cfg with nvencMaxperf := b }
  | _, _ => cfg

/-- The checks of a patch, in its order. -/
def checkPatch (py : Builtins) : List (String × Value) → Except String Unit
  | [] => .ok ()
  | (key, value) :: patch =>
    match EditableField.ofKey key with
    | none => checkPatch py patch
    | some field =>
      match field.check py value with
      | .error error => .error error
      | .ok () => checkPatch py patch

/-- `{**requested(cfg), **patch}`. -/
def patched (cfg : RecordingConfig) : List (String × Value) → RecordingConfig
  | [] => cfg
  | (key, value) :: patch =>
    patched ((EditableField.ofKey key).elim cfg fun field => field.set cfg value) patch

/-- `apply_patch`; `none`: the patch is no object. -/
def applyPatch (py : Builtins) (cfg : RecordingConfig) (patch : Option (List (String × Value))) :
    Except String RecordingConfig :=
  match patch with
  | none | some [] => .error "settings must be a non-empty JSON object"
  | some patch =>
    let unknown := (patch.map Prod.fst).filter fun key => (EditableField.ofKey key).isNone
    if unknown ≠ [] then
      .error ("settings are not editable: " ++
        ", ".intercalate (unknown.mergeSort fun a b => decide (a ≤ b)))
    else
      match checkPatch py patch with
      | .error error => .error error
      | .ok () => .ok (patched cfg patch)

/-! ## The view -/

/-- `_preset_level`. -/
def presetLevel : Value → Option Nat
  | .str s =>
    let word := stripLower s
    if word = "disable".toList then some 0
    else if word = "ultrafast".toList then some 1
    else if word = "fast".toList then some 2
    else if word = "medium".toList then some 3
    else if word = "slow".toList then some 4
    else if word ≠ [] ∧ word.all Char.isDigit then
      let level := word.foldl (fun n c => 10 * n + (c.toNat - '0'.toNat)) 0
      if level ≤ 4 then some level else none
    else none
  -- `value or ""`: zero is no level
  | .int i => if 1 ≤ i ∧ i ≤ 4 then some i.toNat else none
  | _ => none

/-- The published form of `bayer_tile`. -/
def canonicalTile : TileSetting → TileSetting
  | .bool true => .str "plain"
  | .bool false | .none => .str "off"
  | .int i => if i = 0 then .str "off" else .int i
  | setting => setting

/-- The published form of `nvenc_preset`. -/
def canonicalPreset (value : Value) : Value :=
  match presetLevel value with
  | some level => .str (["disable", "ultrafast", "fast", "medium", "slow"].getD level "")
  | none => .str ""

/-- `resolved` of the view; `x264`: the settings of that encoder. -/
structure ResolvedSettings where
  encoder : Encoder
  lossy : Option Bool
  bayerTile : TileMode
  x264 : Option (Int × String)
deriving DecidableEq, Repr

/-- `_settings_view`. -/
structure SettingsView where
  generation : String
  revision : Nat
  requested : RecordingConfig
  resolved : ResolvedSettings
  encoders : List String
  sourceModeFixed : Bool
deriving DecidableEq, Repr

/-- The settings of `CapturePipeline`; nothing is installed where recording is disabled. -/
structure RecordingSettings where
  config : RecordingConfig
  plan : Option RecordingPlan
  streamCopy : Bool
  view : Option SettingsView
deriving DecidableEq, Repr

/-- The encoders a source permits. -/
def permittedEncoders (camera : Camera) (streamCopy : Bool) : List String :=
  if camera.encoded then
    if streamCopy then ["auto", "stream-copy"]
    else validEncoders.filter (· ∉ ["auto", "stream-copy"])
  else validEncoders.erase "stream-copy"

/-- `_install_recording_plan`. -/
def installRecordingPlan (camera : Camera) (generation : String) (revision : Nat)
    (cfg : RecordingConfig) (plan : RecordingPlan) : RecordingSettings :=
  let streamCopy := plan.enc = .streamCopy
  { config := cfg
    plan := some plan
    streamCopy := streamCopy
    view := some
      { generation := generation
        revision := revision
        requested := { cfg with
          bayerTile := canonicalTile cfg.bayerTile, nvencPreset := canonicalPreset cfg.nvencPreset }
        resolved :=
          { encoder := plan.enc
            lossy := if plan.enc = .streamCopy then none else some (plan.enc = .x264)
            bayerTile := plan.mode
            x264 := if plan.enc = .x264 then some (cfg.x264Crf, cfg.x264Preset) else none }
        encoders := permittedEncoders camera streamCopy
        sourceModeFixed := camera.encoded } }

/-! ## A change -/

/-- What planning meets: the elements of the host, and what raises besides. -/
structure PlanEnv where
  host : Encoder → Bool
  plan : Option String
  parse : Option String

/-- `_recording_plan`, which may raise where the launch text is made. -/
def PlanEnv.recordingPlan (env : PlanEnv) (camera : Camera) (cfg : RecordingConfig) :
    Except String RecordingPlan :=
  match env.plan with
  | some error => .error error
  | none => CamDriver.recordingPlan env.host camera cfg.toEncodingConfig

/-- A request to change settings; `settings` is `none` where it is no object. -/
inductive SettingsRequest where
  /-- no object of the two keys -/
  | malformed
  | change (expected : ExpectedSettings) (settings : Option (List (String × Value)))
deriving DecidableEq, Repr

namespace RecordingSettings

/-- `check_recording_settings`. -/
def checkRecordingSettings (s : RecordingSettings) (expected : ExpectedSettings) :
    Except String Unit :=
  match s.view with
  | none => .error "recording settings changed; refresh and review before retrying"
  | some view =>
    if expected.isDict ∧ expected.generation = some view.generation ∧
        expected.revision = some (view.revision : Int) then .ok ()
    else .error "recording settings changed; refresh and review before retrying"

/-- `configure_recording` with a plan; `none`: nothing changes. -/
def compared (s : RecordingSettings) (env : PlanEnv) (cfg : RecordingConfig)
    (plan : RecordingPlan) : Except String (Option (RecordingConfig × RecordingPlan)) :=
  if decide (plan.enc = .streamCopy) ≠ s.streamCopy then
    .error "switching between source-copy and re-encoding requires a service restart"
  else
    match env.parse with
    | some error => .error error
    | none =>
      if cfg = s.config ∧ some plan.enc = s.plan.map RecordingPlan.enc ∧
          plan.mode = (s.plan.map RecordingPlan.mode).getD .off then .ok none
      else .ok (some (cfg, plan))

/-- `configure_recording` past the lock, before it installs anything. -/
def planned (py : Builtins) (camera : Camera) (s : RecordingSettings) (env : PlanEnv) :
    SettingsRequest → Except String (Option (RecordingConfig × RecordingPlan))
  | .malformed => .error "request must contain settings and expected generation/revision"
  | .change expected settings => do
    s.checkRecordingSettings expected
    let cfg ← applyPatch py s.config settings
    let plan ← env.recordingPlan camera cfg
    s.compared env cfg plan

end RecordingSettings

end CamDriver
