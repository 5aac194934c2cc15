import Mathlib.Algebra.Order.Ring.Int
import CamDriver.GigeImage
import CamDriver.Lib.Machine
import CamDriver.Timestamps

/-!
# CamDriver.GigeSource

The GigE source: the time base that `TimestampExtractor` settles on when the camera is set up,
the stamp that it takes of each buffer, and what a reconnect brings anew.

The time base stays as it is settled; each frame falls back on its own where a reading is
missing.  `gigeHolds_run` says of every run which frames come out and with what stamps.
-/

namespace CamDriver

/-! ## The time base -/

/-- The ladder of a preference; `none`: there is none, and setting up raises. -/
def ladder : TimestampSource → Option (List TimestampSource)
  | .ptpChunk => some [.ptpChunk, .camera, .system]
  | .camera => some [.camera, .system]
  | .system => some [.system]
  | .sof | .rtpNtp => none

/-- `TimestampExtractor`; `parser`: it has a chunk parser. -/
structure TimestampExtractor where
  parser : Bool
  prefer : TimestampSource
  tickHz : Int
  active : Option TimestampSource
  ptpLocked : Bool
deriving DecidableEq, Repr

/-- What an Aravis buffer holds; a chunk that is missing or cannot be read is `none`. -/
structure ArvBuffer where
  success : Bool
  data : List UInt8
  systemTimestamp : Nat
  timestamp : Nat
  frameId : Nat
  chunkTimestamp : Option Int
  chunkFrameId : Option Int
deriving DecidableEq, Repr

namespace TimestampExtractor

/-- `resolve_active_source`. -/
def resolveActiveSource (ext : TimestampExtractor) (ptpLocked chunksEnabled : Bool) :
    Option TimestampExtractor :=
  (ladder ext.prefer).map fun cands =>
    let chosen := cands.find? fun cand => cand ≠ .ptpChunk || (chunksEnabled && ext.parser)
    { ext with ptpLocked, active := some (chosen.getD .system) }

/-- `set_chunk_parser`. -/
def setChunkParser (ext : TimestampExtractor) (parser : Bool) (tickHz : Int) :
    TimestampExtractor :=
  { ext with parser, tickHz }

/-- `_ticks_to_ns`. -/
def ticksToNs (ext : TimestampExtractor) (raw : Int) : Int :=
  if ext.tickHz ≠ 0 ∧ ext.tickHz ≠ 1000000000 then (raw * 1000000000).fdiv ext.tickHz else raw

/-- `active_source`. -/
def activeSource (ext : TimestampExtractor) : TimestampSource := ext.active.getD .system

/-- `extract`. -/
def extract (ext : TimestampExtractor) (buf : ArvBuffer) : FrameStamp :=
  let systemNs : Int := buf.systemTimestamp
  let cameraNs : Int := buf.timestamp
  let chunkNs := if ext.parser then buf.chunkTimestamp.map ext.ticksToNs else none
  let chunkFid := if ext.parser then buf.chunkFrameId else none
  let frameId := chunkFid.getD buf.frameId
  let stamp (timestampNs : Int) (source : TimestampSource) : FrameStamp :=
    { frameId, timestampNs, source, systemNs, cameraNs, chunkNs }
  match ext.activeSource, chunkNs with
  | .ptpChunk, some ns => stamp ns .ptpChunk
  | .ptpChunk, none | .camera, _ =>
    if 0 < cameraNs then stamp cameraNs .camera else stamp systemNs .system
  | _, _ => stamp systemNs .system

end TimestampExtractor

/-! ## The source -/

/-- The part of the `gige:` block that the source looks at. -/
structure GigeConfig where
  timestampSource : String
  ptpEnable : Bool
  pixelFormat : Option String
deriving DecidableEq, Repr

/-- What a camera that is set up turns out to do. -/
structure GigeDevice where
  chunks : Bool
  /-- `GevTimestampTickFrequency`, if it can be read -/
  tickFrequency : Option Int
  ptpLocks : Bool
  width : Nat
  height : Nat
deriving DecidableEq, Repr

namespace GigeConfig

/-- `want_ptp`. -/
def wantsPtp (cfg : GigeConfig) : Bool := cfg.timestampSource = "ptp_chunk"

/-- `enable_chunks`, where it is tried: there is a parser. -/
def parser (cfg : GigeConfig) (dev : GigeDevice) : Bool := cfg.wantsPtp && dev.chunks

/-- `enable_ptp`, where it is tried. -/
def ptpOk (cfg : GigeConfig) (dev : GigeDevice) : Bool :=
  cfg.wantsPtp && cfg.ptpEnable && dev.ptpLocks

/-- An invalid preference counts as `ptp_chunk`. -/
def prefer (cfg : GigeConfig) : TimestampSource :=
  (TimestampSource.ofValue cfg.timestampSource).getD .ptpChunk

end GigeConfig

/-- `tick_frequency_hz`. -/
def GigeDevice.tickHz (dev : GigeDevice) : Int := dev.tickFrequency.getD 0

/-- `GigeSource`; `streaming`: there is a stream whose buffers come, `popped` and `recycled`
count its buffers. -/
structure GigeSource where
  extractor : Option TimestampExtractor
  imageSize : Nat
  streaming : Bool
  popped : Nat
  recycled : Nat
  delivered : List (FrameStamp × List UInt8)
deriving DecidableEq, Repr

inductive GigeEvent where
  /-- `configure` and `start` -/
  | configure (dev : GigeDevice)
  | newBuffer (buf : ArvBuffer)
  /-- a lost camera is stopped, and `reopen` is tried; `none`: it raises -/
  | reopen (dev : Option GigeDevice)
deriving DecidableEq, Repr

namespace GigeSource

def init : GigeSource :=
  { extractor := none, imageSize := 0, streaming := false, popped := 0, recycled := 0,
    delivered := [] }

/-- `configure`, then `start`; `none`: it raises. -/
def configure (cfg : GigeConfig) (src : GigeSource) (dev : GigeDevice) : Option GigeSource :=
  let ext : TimestampExtractor :=
    { parser := cfg.parser dev, prefer := cfg.prefer, tickHz := dev.tickHz, active := none,
      ptpLocked := false }
  (ext.resolveActiveSource (cfg.ptpOk dev) (cfg.parser dev)).map fun ext =>
    { src with
      extractor := some ext
      imageSize := computeImageSize cfg.pixelFormat dev.width dev.height
      streaming := true }

/-- `reopen`, then `start`. -/
def reopen (cfg : GigeConfig) (src : GigeSource) (dev : Option GigeDevice) : GigeSource :=
  match dev with
  | none => { src with streaming := false }
  | some dev =>
    { src with
      extractor := src.extractor.map fun ext => ext.setChunkParser (cfg.parser dev) dev.tickHz
      streaming := true }

/-- `_on_new_buffer`: whatever becomes of the frame, the buffer goes back. -/
def onBuffer (src : GigeSource) (buf : ArvBuffer) : GigeSource :=
  let src := { src with popped := src.popped + 1 }
  let src :=
    match src.extractor, onNewBuffer src.imageSize buf.success buf.data with
    | some ext, some image => { src with delivered := src.delivered ++ [(ext.extract buf, image)] }
    | _, _ => src
  { src with recycled := src.recycled + 1 }

/-- One step; `none`: it cannot come now, or it raises at the start. -/
def next (cfg : GigeConfig) (src : GigeSource) : GigeEvent → Option GigeSource
  | .configure dev => if src.extractor.isSome then none else src.configure cfg dev
  | .newBuffer buf => if src.streaming then some (src.onBuffer buf) else none
  | .reopen dev => if src.extractor.isSome then some (src.reopen cfg dev) else none

/-! ## A run -/

/-- The buffers that came while there was a stream, each with the camera as it was set up. -/
def takenFrom (dev : Option GigeDevice) : List GigeEvent → List (GigeDevice × ArvBuffer)
  | [] => []
  | .configure dev :: events => takenFrom (some dev) events
  | .reopen dev :: events => takenFrom dev events
  | .newBuffer buf :: events => (dev.map (·, buf)).toList ++ takenFrom dev events

/-- The camera as it is set up after a run. -/
def deviceAfter (dev : Option GigeDevice) : List GigeEvent → Option GigeDevice
  | [] => dev
  | .configure dev :: events => deviceAfter (some dev) events
  | .reopen dev :: events => deviceAfter dev events
  | .newBuffer _ :: events => deviceAfter dev events

def isBuffer : GigeEvent → Bool
  | .newBuffer _ => true
  | .configure _ | .reopen _ => false

/-- The time base that a preference comes to with the first camera. -/
def timeBase (cfg : GigeConfig) (first : GigeDevice) : TimestampSource :=
  if cfg.prefer = .ptpChunk ∧ cfg.parser first = false then .camera else cfg.prefer

/-- The extractor, once the camera is set up again. -/
def extractorOf (cfg : GigeConfig) (first dev : GigeDevice) : TimestampExtractor :=
  { parser := cfg.parser dev, prefer := cfg.prefer, tickHz := dev.tickHz
    active := some (timeBase cfg first), ptpLocked := cfg.ptpOk first }

/-- The bytes of an image, by the first camera. -/
def imageBytes (cfg : GigeConfig) (first : GigeDevice) : Nat :=
  computeImageSize cfg.pixelFormat first.width first.height

/-- What becomes of a buffer. -/
def frameOf (cfg : GigeConfig) (first : GigeDevice) (r : GigeDevice × ArvBuffer) :
    Option (FrameStamp × List UInt8) :=
  (onNewBuffer (imageBytes cfg first) r.2.success r.2.data).map
    fun image => ((extractorOf cfg first r.1).extract r.2, image)

/-- The reading that a provenance names. -/
def reading (stamp : FrameStamp) : TimestampSource → Option Int
  | .ptpChunk => stamp.chunkNs
  | .camera => if 0 < stamp.cameraNs then some stamp.cameraNs else none
  | .system => some stamp.systemNs
  | .sof | .rtpNtp => none

/-- What comes out of a run with a camera that is first set up as `first`. -/
structure GigeHolds (cfg : GigeConfig) (first : GigeDevice) (events : List GigeEvent)
    (src : GigeSource) : Prop where
  /-- Each buffer with an image becomes a frame, in order, by the clock of the camera as it was
  set up when the buffer came. -/
  frames : src.delivered = (takenFrom (some first) events).filterMap (frameOf cfg first)
  /-- A timestamp is the reading that its provenance names, and the provenance is the first of
  the ladder from the time base on that has a reading. -/
  attested : ∀ f ∈ src.delivered, ∃ cands, ladder (timeBase cfg first) = some cands ∧
    cands.findSome? (fun cand => (reading f.1 cand).map (cand, ·)) =
      some (f.1.source, f.1.timestampNs)
  /-- A chunk reading is the ticks of the camera as it was set up, in whole nanoseconds. -/
  ticks : ∀ r ∈ takenFrom (some first) events, ∀ raw, cfg.parser r.1 = true →
    r.2.chunkTimestamp = some raw → 0 < r.1.tickHz →
      ∃ ns, ((extractorOf cfg first r.1).extract r.2).chunkNs = some ns ∧
        ns * r.1.tickHz ≤ raw * 1000000000 ∧ raw * 1000000000 < (ns + 1) * r.1.tickHz
  /-- Whatever the reconnects, the time base stays. -/
  settled : src.extractor.map TimestampExtractor.activeSource = some (timeBase cfg first)
  /-- Every buffer goes back to the stream. -/
  recycled : src.popped = events.countP isBuffer ∧ src.recycled = src.popped

/-- The extractor and the counts so far. -/
structure Inv (cfg : GigeConfig) (first : GigeDevice) (events : List GigeEvent)
    (src : GigeSource) : Prop where
  extractor : ∃ dev, src.extractor = some (extractorOf cfg first dev) ∧
    (src.streaming = true → deviceAfter (some first) events = some dev)
  imageSize : src.imageSize = imageBytes cfg first
  frames : src.delivered = (takenFrom (some first) events).filterMap (frameOf cfg first)
  popped : src.popped = events.countP isBuffer
  recycled : src.recycled = src.popped

/-- What is taken of a run, with one event more. -/
theorem takenFrom_concat (dev : Option GigeDevice) (events : List GigeEvent) (e : GigeEvent) :
    takenFrom dev (events ++ [e]) =
      takenFrom dev events ++ takenFrom (deviceAfter dev events) [e] := by
  induction events generalizing dev with
  | nil => rfl
  | cons e' events ih =>
      cases e' with
      | configure dev' => exact ih _
      | reopen dev' => exact ih _
      | newBuffer buf =>
          simp only [List.cons_append, takenFrom, deviceAfter, ih, List.append_assoc]

/-- The device behind it. -/
theorem deviceAfter_concat (dev : Option GigeDevice) (events : List GigeEvent) (e : GigeEvent) :
    deviceAfter dev (events ++ [e]) = deviceAfter (deviceAfter dev events) [e] := by
  induction events generalizing dev with
  | nil => rfl
  | cons e' events ih => cases e' <;> exact ih _

/-- The rung that `configure` fixes is the time base. -/
theorem find_ladder {cfg : GigeConfig} {first : GigeDevice} {cands : List TimestampSource}
    (h : ladder cfg.prefer = some cands) :
    (cands.find? fun cand => cand ≠ .ptpChunk ||
      (cfg.parser first && cfg.parser first)).getD .system = timeBase cfg first := by
  unfold timeBase
  cases hprefer : cfg.prefer <;> rw [hprefer] at h <;> cases h <;>
    cases hparser : cfg.parser first <;> simp

theorem configure_eq {cfg : GigeConfig} {src src' : GigeSource} {first : GigeDevice}
    (h : src.configure cfg first = some src') :
    src' = { src with
      extractor := some (extractorOf cfg first first), imageSize := imageBytes cfg first
      streaming := true } := by
  simp only [configure, TimestampExtractor.resolveActiveSource, Option.map_map,
    Option.map_eq_some_iff] at h
  obtain ⟨cands, hcands, rfl⟩ := h
  simp only [Function.comp, find_ladder hcands]
  rfl

/-- A camera that is opened again; the time base stays. -/
theorem inv_reopen {cfg : GigeConfig} {first : GigeDevice} {events : List GigeEvent}
    {src : GigeSource} (h : Inv cfg first events src) (dev : Option GigeDevice) :
    Inv cfg first (events ++ [.reopen dev]) (src.reopen cfg dev) := by
  obtain ⟨dev₀, hext, -⟩ := h.extractor
  have hframes : takenFrom (some first) (events ++ [GigeEvent.reopen dev]) =
      takenFrom (some first) events := by
    rw [takenFrom_concat]
    exact List.append_nil _
  have hcount : (events ++ [GigeEvent.reopen dev]).countP isBuffer = events.countP isBuffer := by
    rw [List.countP_append]
    rfl
  cases dev with
  | none =>
      exact
        { extractor := ⟨dev₀, hext, by rintro ⟨⟩⟩, imageSize := h.imageSize
          frames := by rw [hframes]; exact h.frames
          popped := by rw [hcount]; exact h.popped
          recycled := h.recycled }
  | some dev =>
      exact
        { extractor := ⟨dev, by simp only [reopen, hext]; rfl, fun _ => deviceAfter_concat _ _ _⟩
          imageSize := h.imageSize
          frames := by rw [hframes]; exact h.frames
          popped := by rw [hcount]; exact h.popped
          recycled := h.recycled }

/-- A buffer that is popped. -/
theorem inv_onBuffer {cfg : GigeConfig} {first : GigeDevice} {events : List GigeEvent}
    {src : GigeSource} (h : Inv cfg first events src) (hstreaming : src.streaming = true)
    (buf : ArvBuffer) : Inv cfg first (events ++ [.newBuffer buf]) (src.onBuffer buf) := by
  obtain ⟨dev, hext, hdev⟩ := h.extractor
  have hafter := hdev hstreaming
  have hafter' : deviceAfter (some first) (events ++ [.newBuffer buf]) = some dev := by
    rw [deviceAfter_concat, hafter]
    rfl
  have hframes : takenFrom (some first) (events ++ [.newBuffer buf]) =
      takenFrom (some first) events ++ [(dev, buf)] := by
    rw [takenFrom_concat, hafter]
    rfl
  have hcount : (events ++ [GigeEvent.newBuffer buf]).countP isBuffer =
      events.countP isBuffer + 1 := by
    rw [List.countP_append]
    rfl
  have hkept : (src.onBuffer buf).extractor = src.extractor ∧
      (src.onBuffer buf).imageSize = src.imageSize ∧
      (src.onBuffer buf).popped = src.popped + 1 ∧
      (src.onBuffer buf).recycled = src.recycled + 1 := by
    unfold onBuffer
    dsimp only
    split <;> exact ⟨rfl, rfl, rfl, rfl⟩
  obtain ⟨hext', hsize, hpopped, hrecycled⟩ := hkept
  constructor
  case extractor => exact ⟨dev, hext'.trans hext, fun _ => hafter'⟩
  case imageSize => rw [hsize, h.imageSize]
  case popped => rw [hpopped, hcount, h.popped]
  case recycled => rw [hrecycled, hpopped, h.recycled]
  case frames =>
    rw [hframes, List.filterMap_append, ← h.frames]
    unfold onBuffer
    simp only [hext, h.imageSize]
    cases himage : onNewBuffer (imageBytes cfg first) buf.success buf.data with
    | none => simp [frameOf, himage]
    | some image => simp [frameOf, himage]

theorem inv_next {cfg : GigeConfig} {first : GigeDevice} {events : List GigeEvent}
    {src src' : GigeSource} (h : Inv cfg first events src) {e : GigeEvent}
    (hnext : next cfg src e = some src') : Inv cfg first (events ++ [e]) src' := by
  obtain ⟨dev, hext, -⟩ := h.extractor
  cases e with
  | configure dev' => simp [next, hext] at hnext
  | reopen dev' =>
      simp only [next, hext, Option.isSome_some, if_true, Option.some.injEq] at hnext
      subst hnext
      exact inv_reopen h dev'
  | newBuffer buf =>
      rw [next] at hnext
      split at hnext
      case isTrue hstreaming =>
        obtain rfl := Option.some.inj hnext
        exact inv_onBuffer h hstreaming buf
      case isFalse => cases hnext

/-- A stamp is the first reading of the ladder from the time base on. -/
theorem attested_extract (ext : TimestampExtractor) (buf : ArvBuffer)
    {cands : List TimestampSource} (h : ladder ext.activeSource = some cands) :
    cands.findSome? (fun cand => (reading (ext.extract buf) cand).map (cand, ·)) =
      some ((ext.extract buf).source, (ext.extract buf).timestampNs) := by
  unfold TimestampExtractor.extract
  cases hactive : ext.activeSource <;> rw [hactive] at h <;> cases h
  case ptpChunk =>
    dsimp only
    cases (if ext.parser then buf.chunkTimestamp.map ext.ticksToNs else none) with
    | some ns => rfl
    | none =>
        dsimp only
        split
        case isTrue hcamera => simp [List.findSome?, reading, Int.natCast_pos.1 hcamera]
        case isFalse hcamera =>
          have hzero : buf.timestamp = 0 := by omega
          simp [List.findSome?, reading, hzero]
  case camera =>
    dsimp only
    split
    case isTrue hcamera => simp [List.findSome?, reading, Int.natCast_pos.1 hcamera]
    case isFalse hcamera =>
      have hzero : buf.timestamp = 0 := by omega
      simp [List.findSome?, reading, hzero]
  case system => rfl

/-- The chunk of a buffer, where there is a parser for it. -/
theorem chunkNs_extract (ext : TimestampExtractor) (buf : ArvBuffer) :
    (ext.extract buf).chunkNs =
      if ext.parser then buf.chunkTimestamp.map ext.ticksToNs else none := by
  unfold TimestampExtractor.extract
  dsimp only
  split
  · rfl
  · split <;> rfl
  · split <;> rfl
  · rfl

/-- Ticks are floored to nanoseconds. -/
theorem ticksToNs_spec (ext : TimestampExtractor) (h : 0 < ext.tickHz) (raw : Int) :
    ext.ticksToNs raw * ext.tickHz ≤ raw * 1000000000 ∧
      raw * 1000000000 < (ext.ticksToNs raw + 1) * ext.tickHz := by
  unfold TimestampExtractor.ticksToNs
  split
  case isTrue =>
    rw [Int.fdiv_eq_ediv_of_nonneg _ h.le]
    exact ⟨Int.ediv_mul_le _ h.ne', Int.lt_ediv_add_one_mul_self _ h⟩
  case isFalse hplain =>
    have hhz : ext.tickHz = 1000000000 := by omega
    rw [hhz]
    omega

/-- A time base is a rung of a ladder. -/
theorem ladder_timeBase {cfg : GigeConfig} {src src' : GigeSource} {first : GigeDevice}
    (h : src.configure cfg first = some src') : (ladder (timeBase cfg first)).isSome := by
  simp only [configure, TimestampExtractor.resolveActiveSource, Option.map_map,
    Option.map_eq_some_iff] at h
  obtain ⟨cands, hcands, -⟩ := h
  unfold timeBase
  split
  · rfl
  · exact Option.isSome_of_eq_some hcands

/-- **What the GigE source delivers**, from the first camera on and through every reconnect. -/
theorem gigeHolds_run {cfg : GigeConfig} {first : GigeDevice} {events : List GigeEvent}
    {src : GigeSource}
    (hrun : Machine.exec (next cfg) init (.configure first :: events) = some src) :
    GigeHolds cfg first events src := by
  rw [Machine.exec_cons, Option.bind_eq_some_iff] at hrun
  obtain ⟨src₀, hfirst, hrun⟩ := hrun
  change init.configure cfg first = some src₀ at hfirst
  obtain ⟨base, hbase⟩ := Option.isSome_iff_exists.1 (ladder_timeBase hfirst)
  have hsrc₀ := configure_eq hfirst
  have hinv : Inv cfg first [] src₀ := by
    rw [hsrc₀]
    exact
      { extractor := ⟨first, rfl, fun _ => rfl⟩, imageSize := rfl, frames := rfl, popped := rfl
        recycled := rfl }
  have h : Inv cfg first events src := Machine.exec_inv_history hinv
    (fun _ _ _ _ _ h hnext => inv_next h hnext) hrun
  obtain ⟨dev, hext, -⟩ := h.extractor
  constructor
  case frames => exact h.frames
  case attested =>
    intro f hf
    rw [h.frames, List.mem_filterMap] at hf
    obtain ⟨r, -, hr⟩ := hf
    obtain ⟨image, -, rfl⟩ := Option.map_eq_some_iff.1 hr
    exact ⟨base, hbase, attested_extract (extractorOf cfg first r.1) r.2 hbase⟩
  case ticks =>
    intro r _ raw hparser hraw hhz
    refine ⟨_, ?_, ticksToNs_spec (extractorOf cfg first r.1) hhz raw⟩
    rw [chunkNs_extract, hraw]
    exact if_pos hparser
  case settled => rw [hext]; rfl
  case recycled => exact ⟨h.popped, h.recycled⟩

/-- A camera whose ticks are 8 ns long, and the same one when it comes back without chunks. -/
def tickingDevice (chunks : Bool) : GigeDevice :=
  { chunks, tickFrequency := some 125000000, ptpLocks := true, width := 1, height := 1 }

def tickingBuffer (n : Nat) : ArvBuffer :=
  { success := true, data := [1, 2], systemTimestamp := n, timestamp := 8 * n, frameId := n
    chunkTimestamp := some n, chunkFrameId := none }

/-- A frame by the chunk clock, and one by the leader's clock after a reconnect. -/
theorem gigeHolds_reconnected :
    ∃ src, GigeHolds { timestampSource := "ptp_chunk", ptpEnable := true, pixelFormat := none }
        (tickingDevice true)
        [.newBuffer (tickingBuffer 3), .reopen none, .reopen (some (tickingDevice false)),
          .newBuffer (tickingBuffer 5)] src ∧
      src.delivered.map (fun f => (f.1.source, f.1.timestampNs, f.2)) =
        [(.ptpChunk, 24, [1]), (.camera, 40, [1])] := by
  obtain ⟨src, hsrc, hdelivered⟩ : ∃ src, Machine.exec
      (next { timestampSource := "ptp_chunk", ptpEnable := true, pixelFormat := none }) init
      [.configure (tickingDevice true), .newBuffer (tickingBuffer 3), .reopen none,
        .reopen (some (tickingDevice false)), .newBuffer (tickingBuffer 5)] = some src ∧
      src.delivered.map (fun f => (f.1.source, f.1.timestampNs, f.2)) =
        [(.ptpChunk, 24, [1]), (.camera, 40, [1])] := by
    refine Option.map_eq_some_iff.1 ?_
    decide +kernel
  exact ⟨src, gigeHolds_run hsrc, hdelivered⟩

end GigeSource

end CamDriver
