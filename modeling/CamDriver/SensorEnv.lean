import CamDriver.Lib.Csv
import CamDriver.Lib.FifoMap
import CamDriver.Lib.Shell
import CamDriver.Text
import Mathlib

/-!
# CamDriver.SensorEnv

`tools/sensor_env.py`: from the config of a sensor to the environment of its stack, and on
through `cam-up`, which evaluates what the tool prints.

Three kinds of names are written: the identity of the sensor (the keys that a plugin may not
set), what the plugins' sections derive, and the plugins' own uppercase parameters, which
override the sections.
-/

namespace CamDriver.SensorEnv

open Shell (Text)

/-! ## The config -/

/-- A value of the YAML file.  For a number with a fraction, a list or a map: its `str`,
whether it counts as true, and its `int`, if it has one.  An infinite number is not among
them: its `int` raises what the tool does not catch. -/
inductive Value where
  | null
  | bool (b : Bool)
  | int (i : Int)
  | text (t : Text)
  | other (str : Text) (truthy : Bool) (int? : Option Int)
deriving DecidableEq, Repr

/-- Python's `str`. -/
def Value.str : Value → Text
  | .null => "None".toList
  | .bool true => "True".toList
  | .bool false => "False".toList
  | .int i => Csv.intText i
  | .text t => t
  | .other str _ _ => str

/-- Whether it counts as true. -/
def Value.truthy : Value → Bool
  | .null => false
  | .bool b => b
  | .int i => i ≠ 0
  | .text t => t ≠ []
  | .other _ truthy _ => truthy

/-- Python's `int`, where it does not raise. -/
def Value.int? : Value → Option Int
  | .null => none
  | .bool b => some (if b then 1 else 0)
  | .int i => some i
  | .text t => intOf t
  | .other _ _ int? => int?

/-- A map of the file. -/
abbrev Block := FifoMap Text Value

/-- `str(block.get(key, default))`. -/
def strOr (block : Block) (key default : String) : Text :=
  ((block.get key.toList).getD (.text default.toList)).str

/-- `str(block.get(key) or default)`. -/
def orStr (block : Block) (key default : String) : Text :=
  match block.get key.toList with
  | some v => if v.truthy then v.str else default.toList
  | none => default.toList

/-- `block.get(key, False)`, as a condition. -/
def flag (block : Block) (key : String) : Bool :=
  ((block.get key.toList).getD (.bool false)).truthy

/-- An entry of the plugins list; a name that is missing or none is empty. -/
structure Plugin where
  name : Text
  enabled : Option Value
  isolation : Option Value
  params : Block

structure SensorConfig where
  /-- A name that is missing is null. -/
  name : Value
  /-- The maps at the top of the file: the camera's, the sources', and others. -/
  blocks : FifoMap Text Block
  plugins : List Plugin

/-- `cfg.get(key) or {}`. -/
def SensorConfig.block (cfg : SensorConfig) (key : Text) : Block :=
  (cfg.blocks.get key).getD .empty

/-- `os.environ.get`. -/
abbrev Environ := String → Option Text

/-- `os.environ.get(key) or default`. -/
def environOr (environ : Environ) (key default : String) : Text :=
  match environ key with
  | none | some [] => default.toList
  | some value => value

/-! ## The pixel format -/

/-- The `_BAYER` table. -/
def bayerLetters : List (String × String) :=
  [("RG", "rggb"), ("GR", "grbg"), ("GB", "gbrg"), ("BG", "bggr")]

def bayerPattern (pixelFormat : Text) : Text :=
  if ¬ "Bayer".toList <+: pixelFormat ∨ pixelFormat.length < 7 then []
  else
    let letters := ((pixelFormat.drop 5).take 2).map Char.toUpper
    ((bayerLetters.find? fun e => e.1.toList = letters).map fun e => e.2.toList).getD []

def rosBayerEncoding (pixelFormat : Text) : Text :=
  let pat := bayerPattern pixelFormat
  if pat = [] then []
  else
    let deep := ["16", "12", "10"].any fun t => isIn t (String.ofList pixelFormat)
    "bayer_".toList ++ pat ++ (if deep then "16".toList else "8".toList)

def liveBlocks : List String := ["gige", "usb", "rtsp"]
def playbackTypes : List String := ["pcap", "replay"]

def isPlayback (stype : Text) : Bool := playbackTypes.any fun t => t.toList = stype

/-- The format that the bridges are told; a playback source without one takes the first that
another source's block names. -/
def sourcePixelFormat (cfg : SensorConfig) (stype : Text) : Text :=
  let pf := orStr (cfg.block stype) "pixel_format" ""
  if pf ≠ [] ∨ ¬ isPlayback stype then pf
  else
    let others := (liveBlocks ++ playbackTypes).filter fun block => block.toList ≠ stype
    let found := others.map fun block => orStr (cfg.block block.toList) "pixel_format" ""
    (found.find? (· ≠ [])).getD []

/-! ## The identity of the sensor -/

def sensorName (cfg : SensorConfig) : Text :=
  if cfg.name.truthy then cfg.name.str else "camera".toList

def sourceType (cfg : SensorConfig) : Text := orStr (cfg.block "camera".toList) "type" "gige"

/-- The enabled plugins that are containers. -/
def plugins (cfg : SensorConfig) : List Plugin :=
  cfg.plugins.filter fun p =>
    p.name ≠ [] ∧ (p.enabled.getD (.bool true)).truthy ∧
      (p.isolation.getD (.text "process".toList)).str = "container".toList

abbrev Env := FifoMap Text Text

/-- An assignment to a key. -/
def put (key : String) (value : Text) : Text × Text := (key.toList, value)

def projectEntries (cfg : SensorConfig) (environ : Environ) : List (Text × Text) :=
  let name := sensorName cfg
  [put "COMPOSE_PROJECT_NAME"
      (environOr environ "COMPOSE_PROJECT_NAME" (String.ofList ("cam_".toList ++ name))),
    put "COMPOSE_PROFILES" ([','].intercalate ((plugins cfg).map Plugin.name)),
    put "CAM_INSTANCE" name,
    put "CAM_SOCK_VOLUME" ("cam_".toList ++ name ++ "_sock".toList),
    put "CAM_SOURCE_TYPE" (sourceType cfg)]

/-- The device of a real USB camera, and its command channel. -/
def usbEntries (cfg : SensorConfig) : List (Text × Text) :=
  let src := cfg.block (sourceType cfg)
  if sourceType cfg = "usb".toList ∧ ¬ flag src "fake" then
    let ctl := strip (orStr src "control_device" "")
    put "CAM_DEVICE" (strOr src "device" "/dev/video0") ::
      (if ctl ≠ [] then [put "CAM_CONTROL_DEVICE" ctl] else [])
  else []

/-- `path.rstrip("/")`. -/
def rstripSlash (path : Text) : Text := path.rdropWhile (· = '/')

def isAbs (path : Text) : Bool := "/".toList.isPrefixOf path

def dataRoot (environ : Environ) : Text :=
  rstripSlash (strip (environOr environ "RIG_DATA_DIR" "/data/recordings"))

/-- In the folder of recordings, which the stack has mounted already. -/
def inDataRoot (environ : Environ) (path : Text) : Bool :=
  path = dataRoot environ ∨ (dataRoot environ ++ ['/']).isPrefixOf path

/-- The mount of a playback source's input. -/
def inputEntries (cfg : SensorConfig) (environ : Environ) : List (Text × Text) :=
  if isPlayback (sourceType cfg) then
    let ipath := strip (orStr (cfg.block (sourceType cfg)) "path" "")
    if isAbs ipath then
      if inDataRoot environ ipath then []
      else [put "CAM_INPUT_SRC" ipath, put "CAM_INPUT_DST" ipath]
    else
      let idir := rstripSlash (strip (environOr environ "CAM_INPUT_DIR" ""))
      let root := if isAbs idir then idir else "/input".toList
      [put "CAM_INPUT_SRC" (if idir ≠ [] then idir else "./input".toList),
        put "CAM_INPUT_DST" root, put "CAM_INPUT_ROOT" root]
  else []

def identityEntries (cfg : SensorConfig) (environ : Environ) : List (Text × Text) :=
  projectEntries cfg environ ++ usbEntries cfg ++ inputEntries cfg environ

/-! ## The plugins' sections -/

/-- The parameters of the plugins by name: of two plugins with one name, the last. -/
def byName (cfg : SensorConfig) : FifoMap Text Block :=
  FifoMap.empty.update ((plugins cfg).map fun p => (p.name, p.params))

def param (cfg : SensorConfig) (plugin : String) : Option Block := (byName cfg).get plugin.toList

def boolText (b : Bool) : Text := if b then "true".toList else "false".toList

/-- `by_name.get(first) or by_name.get(second)`: no parameters count as no plugin. -/
def orPlugin (first second : Option Block) : Option Block :=
  match first with
  | some params => if params.entries = [] then second else some params
  | none => second

def rosEntries (cfg : SensorConfig) : List (Text × Text) :=
  match orPlugin (param cfg "ros2-bridge") (param cfg "ros1-bridge") with
  | none => []
  | some ros =>
    [put "CAM_ROS_TOPIC" (strOr ros "topic" "image_raw"),
      put "CAM_FRAME_ID" (strOr ros "frame_id" (String.ofList (sensorName cfg))),
      put "CAM_ROS_ENCODING" (rosBayerEncoding (sourcePixelFormat cfg (sourceType cfg))),
      put "CAM_DEBAYER" (boolText (flag ros "debayer"))] ++
    (match ros.get "publish_rate".toList with
      | none | some .null => []
      | some rate => [put "CAM_ROS_PUBLISH_RATE" rate.str])

/-- One of the zenoh knobs of the ROS 2 bridge. -/
def zenohEntry (ros2 : Block) (name key : String) : List (Text × Text) :=
  match ros2.get name.toList with
  | none | some .null => []
  | some (.bool b) => [put key (boolText b)]
  | some v => [put key v.str]

def zenohEntries (cfg : SensorConfig) : List (Text × Text) :=
  match param cfg "ros2-bridge" with
  | none => []
  | some ros2 =>
    zenohEntry ros2 "zenoh_shm" "CAM_ZENOH_SHM" ++
    zenohEntry ros2 "zenoh_shm_pool_size" "CAM_ZENOH_SHM_POOL_SIZE" ++
    zenohEntry ros2 "zenoh_shm_msg_threshold" "CAM_ZENOH_SHM_MSG_THRESHOLD" ++
    (match (ros2.get "zenoh_shm_pool_size".toList).bind Value.int? with
      | none => []
      | some pool => [put "CAM_ROS2_SHM_SIZE" (Csv.intText (pool + 64 * 2 ^ 20))])

def ros2SourceEntries (cfg : SensorConfig) : List (Text × Text) :=
  match param cfg "ros2-source" with
  | none => []
  | some rs =>
    let shm := cfg.block "shm".toList
    [put "CAM_SOURCE_TOPIC" (strOr rs "topic" "image_raw"),
      put "CAM_SOURCE_TRANSPORT" ((strip (strOr shm "framing" "raw")).map Char.toLower),
      put "CAM_SOURCE_SOCKET" (strOr shm "socket_path" "/tmp/cam/in"),
      put "CAM_SOURCE_FORMAT" (strOr shm "pixel_format" "RGB"),
      put "CAM_SOURCE_WIDTH" (strOr shm "width" "640"),
      put "CAM_SOURCE_HEIGHT" (strOr shm "height" "480"),
      put "CAM_SOURCE_FPS" (strOr (cfg.block "camera".toList) "frame_rate" "10"),
      put "CAM_SOURCE_COMPRESSED" (boolText (flag rs "compressed")),
      put "CAM_SOURCE_QOS" (strOr rs "qos" "sensor")]

def webrtcEntries (cfg : SensorConfig) : List (Text × Text) :=
  match param cfg "webrtc-bridge" with
  | none => []
  | some web =>
    [put "CAM_WIDTH" (strOr web "width" "512"),
      put "CAM_HEIGHT" (strOr web "height" "512"),
      put "CAM_FORMAT" (strOr web "format" "GRAY8"),
      put "CAM_FPS" (strOr web "fps" "25"),
      put "CAM_SIGNALLING_PORT" (strOr web "port" "8443"),
      put "CAM_STREAM_ROLE" (strOr web "role" (String.ofList (sensorName cfg))),
      put "CAM_BAYER" (bayerPattern (sourcePixelFormat cfg (sourceType cfg)))]

def sectionEntries (cfg : SensorConfig) : List (Text × Text) :=
  rosEntries cfg ++ zenohEntries cfg ++ ros2SourceEntries cfg ++ webrtcEntries cfg

/-! ## Parameters handed through -/

/-- `_ENV_KEY`.  A key that it matches is one that `isupper` holds of. -/
def isEnvKey : Text → Bool
  | [] => false
  | c :: cs => c.isUpper && cs.all fun c => c.isUpper || c.isDigit || c = '_'

def reservedKeys : List String :=
  ["COMPOSE_PROJECT_NAME", "COMPOSE_PROFILES", "CAM_INSTANCE", "CAM_SOCK_VOLUME",
    "CAM_SOURCE_TYPE", "CAM_DEVICE", "CAM_CONTROL_DEVICE", "CAM_CONFIG", "CAM_NETWORK",
    "CAM_PLATFORM",
    "CAM_INPUT_SRC", "CAM_INPUT_DST", "CAM_INPUT_ROOT", "CAM_INPUT_DIR",
    "PATH", "HOME", "SHELL", "IFS", "TMPDIR", "PYTHONPATH", "LD_LIBRARY_PATH", "LD_PRELOAD"]

def reservedPrefixes : List String := ["RIG_"]

/-- A key that no parameter may set. -/
def isReserved (key : Text) : Bool :=
  reservedKeys.any (fun k => k.toList = key) ||
    reservedPrefixes.any fun start => start.toList.isPrefixOf key

/-- The parameters that are handed through, plugin after plugin. -/
def passedEntries (cfg : SensorConfig) : List (Text × Text) :=
  (byName cfg).entries.flatMap fun plugin =>
    plugin.2.entries.filterMap fun entry =>
      if isEnvKey entry.1 && !isReserved entry.1 then some (entry.1, entry.2.str) else none

/-! ## What is printed -/

/-- `main`: the environment that it prints. -/
def mainEnv (cfg : SensorConfig) (environ : Environ) : Env :=
  FifoMap.empty.update (identityEntries cfg environ ++ sectionEntries cfg ++ passedEntries cfg)

/-- What `cam-up` exports: `eval "$(sensor_env.py | sed 's/^/export /')"`; `none`: what is
printed does more than to assign. -/
def exported (cfg : SensorConfig) (environ : Environ) : Option Env :=
  (Shell.evaluated (mainEnv cfg environ).entries).map FifoMap.mk

/-! ## The keys -/

/-- The reserved keys that the tool writes itself. -/
def identityKeys : List String :=
  ["COMPOSE_PROJECT_NAME", "COMPOSE_PROFILES", "CAM_INSTANCE", "CAM_SOCK_VOLUME",
    "CAM_SOURCE_TYPE", "CAM_DEVICE", "CAM_CONTROL_DEVICE",
    "CAM_INPUT_SRC", "CAM_INPUT_DST", "CAM_INPUT_ROOT"]

def sectionKeys : List String :=
  ["CAM_ROS_TOPIC", "CAM_FRAME_ID", "CAM_ROS_ENCODING", "CAM_DEBAYER", "CAM_ROS_PUBLISH_RATE",
    "CAM_ZENOH_SHM", "CAM_ZENOH_SHM_POOL_SIZE", "CAM_ZENOH_SHM_MSG_THRESHOLD",
    "CAM_ROS2_SHM_SIZE",
    "CAM_SOURCE_TOPIC", "CAM_SOURCE_TRANSPORT", "CAM_SOURCE_SOCKET", "CAM_SOURCE_FORMAT",
    "CAM_SOURCE_WIDTH", "CAM_SOURCE_HEIGHT", "CAM_SOURCE_FPS", "CAM_SOURCE_COMPRESSED",
    "CAM_SOURCE_QOS",
    "CAM_WIDTH", "CAM_HEIGHT", "CAM_FORMAT", "CAM_FPS", "CAM_SIGNALLING_PORT",
    "CAM_STREAM_ROLE", "CAM_BAYER"]

/-- Assignments to some of these keys only. -/
def KeysIn (keys : List String) (es : List (Text × Text)) : Prop :=
  ∀ e ∈ es, ∃ key ∈ keys, e.1 = key.toList

section KeysIn

variable {keys : List String} {es es' : List (Text × Text)}

@[simp] theorem keysIn_nil : KeysIn keys [] := by
  rintro e ⟨⟩

@[simp] theorem keysIn_cons {key : String} {value : Text} :
    KeysIn keys (put key value :: es) ↔ key ∈ keys ∧ KeysIn keys es := by
  simp [KeysIn, put, String.toList_inj]

@[simp] theorem keysIn_append :
    KeysIn keys (es ++ es') ↔ KeysIn keys es ∧ KeysIn keys es' := by
  simp only [KeysIn, List.mem_append, or_imp, forall_and]

/-- What holds of these keys holds of those assigned. -/
theorem KeysIn.all {p : Text → Bool} (h : KeysIn keys es)
    (hp : keys.all (fun key => p key.toList) = true) : ∀ e ∈ es, p e.1 = true := by
  intro e he
  obtain ⟨key, hkey, hfst⟩ := h e he
  rw [hfst]
  exact List.all_eq_true.1 hp key hkey

end KeysIn

/-- The identity writes its own keys only. -/
theorem keysIn_identity (cfg : SensorConfig) (environ : Environ) :
    KeysIn identityKeys (identityEntries cfg environ) := by
  have husb : KeysIn identityKeys (usbEntries cfg) := by
    unfold usbEntries
    dsimp only
    split_ifs <;> simp [identityKeys]
  have hinput : KeysIn identityKeys (inputEntries cfg environ) := by
    unfold inputEntries
    dsimp only
    split_ifs <;> simp [identityKeys]
  simp only [identityEntries, projectEntries, keysIn_append]
  exact ⟨⟨by simp [identityKeys], husb⟩, hinput⟩

theorem keysIn_sections (cfg : SensorConfig) : KeysIn sectionKeys (sectionEntries cfg) := by
  have hzenoh (ros2 : Block) (name : String) {key : String} (hkey : key ∈ sectionKeys) :
      KeysIn sectionKeys (zenohEntry ros2 name key) := by
    unfold zenohEntry
    split <;> simp [hkey]
  simp only [sectionEntries, keysIn_append]
  refine ⟨⟨⟨?ros, ?zenoh⟩, ?source⟩, ?web⟩
  case ros =>
    unfold rosEntries
    split
    · simp
    · rw [keysIn_append]
      refine ⟨by simp [sectionKeys], ?_⟩
      split <;> simp [sectionKeys]
  case zenoh =>
    unfold zenohEntries
    split
    · simp
    · simp only [keysIn_append]
      refine ⟨⟨⟨hzenoh _ _ ?_, hzenoh _ _ ?_⟩, hzenoh _ _ ?_⟩, ?_⟩
      · simp [sectionKeys]
      · simp [sectionKeys]
      · simp [sectionKeys]
      · split <;> simp [sectionKeys]
  case source =>
    unfold ros2SourceEntries
    split <;> simp [sectionKeys]
  case web =>
    unfold webrtcEntries
    split <;> simp [sectionKeys]

/-- A parameter that is handed through. -/
theorem passed_of_mem {cfg : SensorConfig} {e : Text × Text} (h : e ∈ passedEntries cfg) :
    isEnvKey e.1 = true ∧ isReserved e.1 = false := by
  simp only [passedEntries, List.mem_flatMap, List.mem_filterMap] at h
  obtain ⟨plugin, -, entry, -, hentry⟩ := h
  split at hentry
  case isTrue hpassed =>
    obtain rfl := Option.some.inj hentry
    simpa using hpassed
  case isFalse => cases hentry

/-- A key that is handed through is a name of the shell. -/
theorem isName_of_isEnvKey {key : Text} (h : isEnvKey key = true) : Shell.isName key = true := by
  cases key with
  | nil => cases h
  | cons c cs =>
      simp only [isEnvKey, Bool.and_eq_true, List.all_eq_true] at h
      obtain ⟨hfirst, hrest⟩ := h
      have hdigit : c.isDigit = false := by
        have hgap : '9'.val.toNat < 'A'.val.toNat := by decide
        refine Bool.eq_false_iff.2 fun hdigit => ?_
        simp only [Char.isUpper, Char.isDigit, decide_eq_true_eq, ge_iff_le, Bool.and_eq_true,
          UInt32.le_iff_toNat_le] at hfirst hdigit
        omega
      have hword (d : Char) (hd : (d.isUpper || d.isDigit || d = '_') = true) :
          (d.isAlphanum || d = '_') = true := by
        simp only [Char.isAlphanum, Char.isAlpha, Bool.or_eq_true] at hd ⊢
        tauto
      simp only [Shell.isName, Bool.and_eq_true, List.all_eq_true]
      refine ⟨?_, by simp [hdigit]⟩
      intro d hd
      refine hword d ?_
      rcases List.mem_cons.1 hd with rfl | hd
      · simp [hfirst]
      · exact hrest d hd

/-- Every key that is written is a name of the shell. -/
theorem isName_of_mem {cfg : SensorConfig} {environ : Environ} :
    ∀ e ∈ identityEntries cfg environ ++ sectionEntries cfg ++ passedEntries cfg,
      Shell.isName e.1 = true := by
  intro e he
  rcases List.mem_append.1 he with he | he
  · rcases List.mem_append.1 he with he | he
    · exact (keysIn_identity cfg environ).all (by decide) e he
    · exact (keysIn_sections cfg).all (by decide) e he
  · exact isName_of_isEnvKey (passed_of_mem he).1

/-- Each name is printed once. -/
theorem nodup_mainEnv (cfg : SensorConfig) (environ : Environ) :
    ((mainEnv cfg environ).entries.map Prod.fst).Nodup := by
  have hempty : ((FifoMap.empty : Env).entries.map Prod.fst).Nodup := List.nodup_nil
  exact FifoMap.nodup_keys_update hempty _

/-- A key of another kind is not written. -/
theorem get_eq_none {es : List (Text × Text)} {p : Text → Bool} {key : Text}
    (h : ∀ e ∈ es, p e.1 = true) (hkey : p key = false) :
    (FifoMap.empty.update es).get key = none := by
  refine FifoMap.get_update_eq_none fun hmem => ?_
  obtain ⟨e, he, rfl⟩ := List.mem_map.1 hmem
  rw [h e he] at hkey
  cases hkey

/-- A reserved key is what the identity has it. -/
theorem get_reserved (cfg : SensorConfig) (environ : Environ) {key : Text}
    (h : isReserved key = true) :
    (mainEnv cfg environ).get key =
      (FifoMap.empty.update (identityEntries cfg environ)).get key := by
  have hfree : (!isReserved key) = false := by rw [h]; rfl
  have hpassed : (FifoMap.empty.update (passedEntries cfg)).get key = none :=
    get_eq_none (p := fun key => !isReserved key)
      (fun e he => by rw [(passed_of_mem he).2]; rfl) hfree
  have hsection : (FifoMap.empty.update (sectionEntries cfg)).get key = none :=
    get_eq_none (p := fun key => !isReserved key)
      ((keysIn_sections cfg).all (p := fun key => !isReserved key) (by decide)) hfree
  rw [mainEnv, FifoMap.get_update_append, FifoMap.get_update_append, hpassed, hsection,
    Option.none_or, Option.none_or]

/-! ## What is exported -/

/-- The config with other parameters for its plugins. -/
def SensorConfig.withParams (cfg : SensorConfig) (params : Plugin → Block) : SensorConfig :=
  { cfg with plugins := cfg.plugins.map fun p => { p with params := params p } }

/-- The identity does not look at the parameters. -/
theorem identityEntries_withParams (cfg : SensorConfig) (params : Plugin → Block)
    (environ : Environ) :
    identityEntries (cfg.withParams params) environ = identityEntries cfg environ := by
  have hnames : (plugins (cfg.withParams params)).map Plugin.name =
      (plugins cfg).map Plugin.name := by
    rw [plugins, plugins, SensorConfig.withParams, List.filter_map, List.map_map]
    rfl
  simp only [identityEntries, projectEntries, hnames]
  rfl

/-- The playback path of the config. -/
def inputPath (cfg : SensorConfig) : Text :=
  strip (orStr (cfg.block (sourceType cfg)) "path" "")

/-- The parameters that are handed through; of two with one name, the last. -/
def handedThrough (cfg : SensorConfig) : Env := FifoMap.empty.update (passedEntries cfg)

/-- What `cam-up` relies on when it evaluates what the tool prints. -/
structure SafeExport (cfg : SensorConfig) (environ : Environ) (env : Env) : Prop where
  /-- The names are those of the environment, each once. -/
  names : env.entries.map Prod.fst = (mainEnv cfg environ).entries.map Prod.fst ∧
    (env.entries.map Prod.fst).Nodup
  /-- A value of one line is exported as it is, whatever its characters are to the shell. -/
  verbatim : ∀ e ∈ (mainEnv cfg environ).entries, '\n' ∉ e.2 → e ∈ env.entries
  /-- The other reserved names are left to the host. -/
  host : ∀ key, isReserved key = true → key ∉ identityKeys.map String.toList →
    env.get key = none
  /-- The identity of the sensor does not depend on any plugin's parameters. -/
  identity : ∀ params key, isReserved key = true →
    (exported (cfg.withParams params) environ).bind (·.get key) = env.get key
  /-- A parameter that is handed through counts before what the sections derive. -/
  passed : ∀ key value, (handedThrough cfg).get key = some value →
    env.get key = some (Shell.marked Shell.exportMark value)
  /-- A mount has an absolute target; an absolute path is its own, and the recordings are
  never mounted over. -/
  mount : ∀ dst, (mainEnv cfg environ).get "CAM_INPUT_DST".toList = some dst →
    isPlayback (sourceType cfg) = true ∧ isAbs dst = true ∧
      (isAbs (inputPath cfg) = true → dst = inputPath cfg ∧ inDataRoot environ dst = false ∧
        (mainEnv cfg environ).get "CAM_INPUT_SRC".toList = some dst)

/-- Evaluating what is printed gives it back, but for the marks. -/
theorem exported_eq (cfg : SensorConfig) (environ : Environ) :
    exported cfg environ =
      some ((mainEnv cfg environ).mapValues (Shell.marked Shell.exportMark)) := by
  have hnames : ∀ e ∈ (mainEnv cfg environ).entries, Shell.isName e.1 = true :=
    fun e he => isName_of_mem e (FifoMap.mem_update_empty he)
  rw [exported, Shell.evaluated_eq hnames]
  rfl

/-- A key of the mount is what the mount has it. -/
theorem get_input (cfg : SensorConfig) (environ : Environ) {key : String}
    (h : key ∈ ["CAM_INPUT_SRC", "CAM_INPUT_DST", "CAM_INPUT_ROOT"]) :
    (mainEnv cfg environ).get key.toList =
      (FifoMap.empty.update (inputEntries cfg environ)).get key.toList := by
  have hreserved : isReserved key.toList = true := by
    revert key
    decide
  have hothers : KeysIn (identityKeys.take 7)
      (projectEntries cfg environ ++ usbEntries cfg) := by
    rw [keysIn_append]
    refine ⟨by simp [projectEntries, identityKeys], ?_⟩
    unfold usbEntries
    dsimp only
    split_ifs <;> simp [identityKeys]
  have hnone : (FifoMap.empty.update (projectEntries cfg environ ++ usbEntries cfg)).get
      key.toList = none := by
    refine FifoMap.get_update_eq_none fun hmem => ?_
    obtain ⟨e, he, hfst⟩ := List.mem_map.1 hmem
    obtain ⟨other, hother, heq⟩ := hothers e he
    obtain rfl : other = key := String.toList_inj.1 (heq.symm.trans hfst)
    have hapart : ∀ k ∈ identityKeys.take 7,
        k ∉ ["CAM_INPUT_SRC", "CAM_INPUT_DST", "CAM_INPUT_ROOT"] := by decide
    exact hapart other hother h
  rw [get_reserved cfg environ hreserved, identityEntries, FifoMap.get_update_append, hnone,
    Option.or_none]

/-- What is mounted, and where. -/
theorem mount_of_get (cfg : SensorConfig) (environ : Environ) {dst : Text}
    (h : (mainEnv cfg environ).get "CAM_INPUT_DST".toList = some dst) :
    isPlayback (sourceType cfg) = true ∧ isAbs dst = true ∧
      (isAbs (inputPath cfg) = true → dst = inputPath cfg ∧ inDataRoot environ dst = false ∧
        (mainEnv cfg environ).get "CAM_INPUT_SRC".toList = some dst) := by
  rw [get_input cfg environ (by simp)] at h ⊢
  have hsrc : "CAM_INPUT_SRC".toList ≠ "CAM_INPUT_DST".toList := by decide
  have hroot : "CAM_INPUT_DST".toList ≠ "CAM_INPUT_ROOT".toList := by decide
  unfold inputEntries at h ⊢
  rw [← inputPath] at h ⊢
  by_cases hplay : isPlayback (sourceType cfg) = true
  swap
  · rw [if_neg hplay] at h
    cases h
  rw [if_pos hplay] at h ⊢
  dsimp only at h ⊢
  by_cases habs : isAbs (inputPath cfg) = true
  · rw [if_pos habs] at h ⊢
    by_cases hdata : inDataRoot environ (inputPath cfg) = true
    · rw [if_pos hdata] at h
      cases h
    · rw [if_neg hdata] at h ⊢
      simp only [FifoMap.update, List.foldl, put, FifoMap.get_set_self, Option.some.injEq] at h
      subst h
      refine ⟨hplay, habs, fun _ => ⟨rfl, by simpa using hdata, ?_⟩⟩
      simp only [FifoMap.update, List.foldl, put, FifoMap.get_set_of_ne hsrc,
        FifoMap.get_set_self]
  · rw [if_neg habs] at h ⊢
    simp only [FifoMap.update, List.foldl, put, FifoMap.get_set_of_ne hroot,
      FifoMap.get_set_self, Option.some.injEq] at h
    refine ⟨hplay, ?_, fun h' => absurd h' habs⟩
    rw [← h]
    split
    · assumption
    · decide

end CamDriver.SensorEnv
