import CamDriver.GstStamps
import CamDriver.HeaderReaders

/-!
# CamDriver.ShmInput

The shared-memory source with all its framings: `ShmSource`, from a sample of the reader
pipeline to a delivered frame, and from a writer that is gone to a reopen.

A frame that does not fit the pinned format is latched: nothing is delivered after it, and a
reopen is refused.  `shmHolds_run` says so of every run.
-/

namespace CamDriver

inductive ShmFraming where
  | raw | header | unixfd
deriving DecidableEq, Repr

/-- The `shm:` block, as far as the source checks frames against it. -/
structure ShmConfig where
  pixelFormat : String
  width : Nat
  height : Nat
  framing : ShmFraming
  reconnect : Bool
deriving DecidableEq, Repr

namespace ShmConfig

def pinned (cfg : ShmConfig) : PinnedFormat :=
  { gstFormat := (parsePixelFormat cfg.pixelFormat).gstFormat, width := cfg.width,
    height := cfg.height }

/-- `_bayer`. -/
def bayer (cfg : ShmConfig) : Option CfaPattern := (parsePixelFormat cfg.pixelFormat).bayer

/-- `_expected`. -/
def expected (cfg : ShmConfig) : Nat := cfg.pinned.expected

end ShmConfig

/-- The first structure of a sample's caps; a field that is missing is `none`. -/
structure SampleCaps where
  name : String
  format : Option String
  width : Option Int
  height : Option Int
deriving DecidableEq, Repr

/-- `get_string("format") or "?"`. -/
def SampleCaps.formatName (caps : SampleCaps) : String :=
  match caps.format with
  | none | some "" => "?"
  | some format => format

/-- What the appsink hands over; `caps` is none where there are none. -/
structure ShmSample where
  caps : Option SampleCaps
  data : List UInt8
  offset : Nat
  offsetEnd : Nat
  pts : Option Int
deriving DecidableEq, Repr

/-- `_OFFSET_NONE`. -/
def offsetNone : Nat := 0xFFFFFFFFFFFFFFFF

/-- `_unixfd_mismatch`; `some ""`: no caps. -/
def unixfdMismatch (cfg : ShmConfig) (sample : ShmSample) : Option String :=
  match sample.caps with
  | none => some ""
  | some caps =>
    let fmt := caps.formatName
    let w := caps.width.getD 0
    let h := caps.height.getD 0
    let size := toString w ++ "x" ++ toString h
    let pinned := cfg.pixelFormat ++ " " ++ toString cfg.width ++ "x" ++ toString cfg.height
    let geometry :=
      if (w, h) ≠ ((cfg.width : Int), (cfg.height : Int)) then
        some ("the writer sends " ++ fmt ++ " " ++ size ++ ", config pins " ++ pinned)
      else none
    if caps.name = "video/x-bayer" then
      if cfg.bayer.map CfaPattern.name ≠ some fmt then
        some ("the writer sends video/x-bayer " ++ fmt ++ " " ++ size ++ ", config pins " ++ pinned)
      else geometry
    else if caps.name = "video/x-raw" then
      if cfg.bayer.isSome ∨ fmt ≠ cfg.pinned.gstFormat then
        some ("the writer sends video/x-raw " ++ fmt ++ " " ++ size ++ ", config pins " ++ pinned)
      else geometry
    else
      some ("the writer sends " ++ caps.name ++
        ", not video/x-raw or video/x-bayer (config pins " ++ pinned ++ ")")

/-- `ShmSource`; `delivered` are the frames it handed on. -/
structure ShmSource where
  mismatch : Option String
  errored : Bool
  started : Bool
  badHeaders : Nat
  lastSource : TimestampSource
  stamps : StampSource
  delivered : List (FrameStamp × List UInt8)
deriving DecidableEq, Repr

/-- What `reopen` raises. -/
inductive ReopenError where
  /-- `SourceConfigChanged` -/
  | configChanged (what : String)
  /-- `FileNotFoundError` -/
  | noSocket
deriving DecidableEq, Repr

namespace ShmSource

def init : ShmSource :=
  { mismatch := none, errored := false, started := false, badHeaders := 0, lastSource := .system,
    stamps := .init, delivered := [] }

/-- `_fail_config`: the first mismatch stays. -/
def failConfig (s : ShmSource) (what : String) : ShmSource :=
  if s.mismatch.isSome then s
  else
    { s with
      mismatch := some ("shm input does not match the pinned config: " ++ what ++
        " -- fix `shm:` (pixel_format/width/height) to what the writer sends") }

/-- The end of `_on_raw`. -/
def deliver (s : ShmSource) (stamp : FrameStamp) (pixels : List UInt8) : ShmSource :=
  { s with delivered := s.delivered ++ [(stamp, pixels)] }

/-- A frame that is stamped on arrival. -/
def arrive (s : ShmSource) (now : Int) (sample : ShmSample) : ShmSource :=
  let r := s.stamps.newStamp now { pts := sample.pts, capture := none }
  { s with stamps := r.2 }.deliver r.1 sample.data

/-- The text for a frame of the wrong size. -/
def wrongSize (cfg : ShmConfig) (article : String) (size : Nat) : String :=
  "a " ++ article ++ " frame is " ++ toString size ++ " bytes, " ++ cfg.pinned.gstFormat ++ " " ++
    toString cfg.width ++ "x" ++ toString cfg.height ++ " is " ++ toString cfg.expected

/-- `_on_raw`. -/
def onSample (cfg : ShmConfig) (s : ShmSource) (now : Int) (sample : ShmSample) : ShmSource :=
  if s.mismatch.isSome then s
  else
    match cfg.framing with
    | .header =>
      match onRaw cfg.pinned now sample.data with
      | .dropped _ => { s with badHeaders := s.badHeaders + 1 }
      | .mismatch what => s.failConfig what
      | .frame stamp pixels =>
        { s with
          lastSource := stamp.source, stamps := { s.stamps with lastDataNs := now } }.deliver stamp
            pixels
    | .unixfd =>
      match unixfdMismatch cfg sample with
      | some "" => { s with badHeaders := s.badHeaders + 1 }
      | some what => s.failConfig what
      | none =>
        if sample.data.length ≠ cfg.expected then
          s.failConfig (wrongSize cfg "unixfd" sample.data.length)
        else if sample.offset ≠ offsetNone ∧ sample.offsetEnd ∉ [0, offsetNone] then
          let stamp : FrameStamp :=
            { frameId := sample.offset, timestampNs := sample.offsetEnd, source := .camera,
              systemNs := now, cameraNs := sample.offsetEnd, chunkNs := none }
          { s with
            lastSource := .camera, stamps := { s.stamps with lastDataNs := now } }.deliver stamp
              sample.data
        else { s with lastSource := .system }.arrive now sample
    | .raw =>
      if sample.data.length ≠ cfg.expected then
        s.failConfig (wrongSize cfg "raw" sample.data.length)
      else s.arrive now sample

/-- `is_disconnected`; `stalled`: the answer of the base class. -/
def isDisconnected (s : ShmSource) (stalled : Bool) : Bool :=
  s.mismatch.isSome || (s.errored && s.started) || stalled

/-- `active_timestamp_source`. -/
def activeTimestampSource (cfg : ShmConfig) (s : ShmSource) : TimestampSource :=
  if cfg.framing = .header ∨ cfg.framing = .unixfd then s.lastSource else .system

/-- `reopen`. -/
def reopen (s : ShmSource) (present : Bool) : Except ReopenError ShmSource :=
  match s.mismatch with
  | some what => .error (.configChanged what)
  | none =>
    if ¬ present then .error .noSocket else .ok { s with errored := false, started := false }

/-- `start`. -/
def start (s : ShmSource) : ShmSource :=
  { s with started := true, stamps := { s.stamps with lastDataNs := 0 } }

end ShmSource

inductive ShmEvent where
  | sample (now : Int) (sample : ShmSample)
  /-- an error of the reader pipeline, or the end of its stream -/
  | lost
  | start
  | reopen (present : Bool)
  | stop
deriving DecidableEq, Repr

namespace ShmSource

/-- One event; a reopen that raises leaves the source stopped, and is tried again. -/
def step (cfg : ShmConfig) (s : ShmSource) : ShmEvent → ShmSource × Option ReopenError
  | .sample now sample => (s.onSample cfg now sample, none)
  | .lost => ({ s with errored := true }, none)
  | .start => (s.start, none)
  | .stop => ({ s with started := false }, none)
  | .reopen present =>
    match s.reopen present with
    | .ok s => (s, none)
    | .error e => (s, some e)

end ShmSource

/-! ## A sample against the config -/

/-- What a sample is to the config, whatever came before it. -/
inductive SampleVerdict where
  | faulty
  | misfit
  | fits (pixels : List UInt8)
deriving DecidableEq, Repr

namespace ShmConfig

/-- Caps of the format that is pinned. -/
def CapsFit (cfg : ShmConfig) (caps : SampleCaps) : Prop :=
  (match cfg.bayer with
    | some pattern => caps.name = "video/x-bayer" ∧ caps.format = some pattern.name
    | none => caps.name = "video/x-raw" ∧ caps.format = some cfg.pinned.gstFormat) ∧
  caps.width.getD 0 = cfg.width ∧ caps.height.getD 0 = cfg.height

instance (cfg : ShmConfig) (caps : SampleCaps) : Decidable (cfg.CapsFit caps) := by
  unfold CapsFit
  cases cfg.bayer <;> infer_instance

/-- The header is of the frame that is pinned. -/
def HeaderFits (cfg : ShmConfig) (hdr : FrameHeader) : Prop :=
  hdr.width = cfg.width ∧ hdr.height = cfg.height ∧ hdr.pixfmt = cfg.pinned.gstFormat

instance (cfg : ShmConfig) (hdr : FrameHeader) : Decidable (cfg.HeaderFits hdr) :=
  inferInstanceAs (Decidable (_ ∧ _ ∧ _))

def judge (cfg : ShmConfig) (sample : ShmSample) : SampleVerdict :=
  match cfg.framing with
  | .raw => if sample.data.length = cfg.expected then .fits sample.data else .misfit
  | .header =>
    match unpackHeader sample.data with
    | .error _ => .faulty
    | .ok hdr =>
      if cfg.HeaderFits hdr ∧ (sample.data.drop headerSize).length = cfg.expected then
        .fits (sample.data.drop headerSize)
      else .misfit
  | .unixfd =>
    match sample.caps with
    | none => .faulty
    | some caps =>
      if cfg.CapsFit caps ∧ sample.data.length = cfg.expected then .fits sample.data else .misfit

/-- Frame id, time and provenance, where the writer sends them. -/
def carried (cfg : ShmConfig) (sample : ShmSample) : Option (Int × Int × TimestampSource) :=
  match cfg.framing with
  | .raw => none
  | .header =>
    match unpackHeader sample.data with
    | .error _ => none
    | .ok hdr =>
      some (hdr.frameId, hdr.timestampNs, (TimestampSource.ofValue hdr.tsSource).getD .system)
  | .unixfd =>
    if sample.offset ≠ offsetNone ∧ sample.offsetEnd ∉ [0, offsetNone] then
      some (sample.offset, sample.offsetEnd, .camera)
    else none

/-- The stamp of a frame that came at `now`, when `minted` ids were given before. -/
def stampOf (cfg : ShmConfig) (minted now : Int) (sample : ShmSample) : FrameStamp :=
  match cfg.carried sample with
  | some (frameId, timestampNs, source) =>
    { frameId, timestampNs, source, systemNs := now, cameraNs := timestampNs, chunkNs := none }
  | none =>
    { frameId := minted, timestampNs := now, source := .system, systemNs := now,
      cameraNs := sample.pts.getD now, chunkNs := none }

end ShmConfig

/-- The names of the formats are none that a missing one could be taken for. -/
theorem gstFormat_ne (pixelFormat : String) :
    (parsePixelFormat pixelFormat).gstFormat ∉ ["", "?"] := by
  unfold parsePixelFormat
  generalize (if pixelFormat = "" then "Mono8" else pixelFormat) = pf
  dsimp only
  split
  case isTrue hraw =>
    have hnone : ∀ pf ∈ gstMono ++ gstColor, pf ∉ ["", "?"] := by decide
    exact hnone pf hraw
  case isFalse hmapped => split <;> simp

/-- A pattern has a name. -/
theorem CfaPattern.name_ne (pattern : CfaPattern) : pattern.name ∉ ["", "?"] := by
  cases pattern <;> decide

/-- The caps name a format just if it is theirs. -/
theorem SampleCaps.formatName_eq_iff (caps : SampleCaps) {format : String}
    (hformat : format ∉ ["", "?"]) : caps.formatName = format ↔ caps.format = some format := by
  simp only [List.mem_cons, List.not_mem_nil, or_false, not_or] at hformat
  unfold SampleCaps.formatName
  split
  case h_1 heq => simp [heq, Ne.symm hformat.2]
  case h_2 heq => simp [heq, Ne.symm hformat.1, Ne.symm hformat.2]
  case h_3 other _ heq => simp [heq]

namespace ShmSource

variable {cfg : ShmConfig}

theorem ite_some_eq_none {α : Type*} {c : Prop} [Decidable c] {a : α} {rest : Option α} :
    (if c then some a else rest) = none ↔ ¬ c ∧ rest = none := by
  split <;> simp [*]

/-- A sample shows no mismatch exactly if its caps fit. -/
theorem unixfdMismatch_eq_none_iff {sample : ShmSample} {caps : SampleCaps}
    (hcaps : sample.caps = some caps) :
    unixfdMismatch cfg sample = none ↔ cfg.CapsFit caps := by
  have hgst := SampleCaps.formatName_eq_iff caps (gstFormat_ne cfg.pixelFormat)
  have hplain : "video/x-raw" ≠ "video/x-bayer" := by decide
  unfold unixfdMismatch ShmConfig.CapsFit
  rw [hcaps]
  cases hbayer : cfg.bayer with
  | some pattern =>
      have hname := SampleCaps.formatName_eq_iff caps pattern.name_ne
      by_cases hmosaic : caps.name = "video/x-bayer"
      · dsimp only
        rw [if_pos hmosaic, ite_some_eq_none, ite_some_eq_none, ← hname]
        simp [hmosaic, eq_comm (a := pattern.name)]
      · simp [hmosaic, ite_some_eq_none]
  | none =>
      by_cases hmosaic : caps.name = "video/x-bayer"
      · simp [hmosaic]
      · by_cases hraw : caps.name = "video/x-raw"
        · dsimp only
          rw [if_neg hmosaic, if_pos hraw, ite_some_eq_none, ite_some_eq_none]
          simp [hraw, ← hgst, ShmConfig.pinned]
        · simp [hmosaic, hraw]

/-- A mismatch that is found has a text. -/
theorem unixfdMismatch_ne_empty {sample : ShmSample} {caps : SampleCaps}
    (hcaps : sample.caps = some caps) : unixfdMismatch cfg sample ≠ some "" := by
  unfold unixfdMismatch
  rw [hcaps]
  dsimp only
  split
  · split
    · simp
    · split <;> simp
  · split
    · split
      · simp
      · split <;> simp
    · simp

/-- `t` is `s` after it has delivered the sample. -/
structure Delivers (cfg : ShmConfig) (s t : ShmSource) (now : Int) (sample : ShmSample)
    (pixels : List UInt8) : Prop where
  delivered : t.delivered = s.delivered ++ [(cfg.stampOf s.stamps.frameId now sample, pixels)]
  mismatch : t.mismatch = none
  badHeaders : t.badHeaders = s.badHeaders
  minted : t.stamps.frameId = s.stamps.frameId + (if (cfg.carried sample).isNone then 1 else 0)
  active : t.activeTimestampSource cfg = (cfg.stampOf s.stamps.frameId now sample).source

/-- The first misfit latches. -/
theorem failConfig_of_none {s : ShmSource} (h : s.mismatch = none) (what : String) :
    ∃ text, s.failConfig what = { s with mismatch := some text } := by
  have hopen : ¬ s.mismatch.isSome = true := by simp [h]
  exact ⟨_, if_neg hopen⟩

/-- A frame with the stamp of its writer. -/
theorem delivers_of_carried {s : ShmSource} (h : s.mismatch = none) (hframing : cfg.framing ≠ .raw)
    {now frameId timestampNs : Int} {source : TimestampSource} {sample : ShmSample}
    (hcarried : cfg.carried sample = some (frameId, timestampNs, source)) (pixels : List UInt8) :
    Delivers cfg s
      ({ s with lastSource := source, stamps := { s.stamps with lastDataNs := now } }.deliver
        { frameId, timestampNs, source, systemNs := now, cameraNs := timestampNs, chunkNs := none }
        pixels) now sample pixels where
  delivered := by rw [ShmConfig.stampOf, hcarried]; rfl
  mismatch := h
  badHeaders := rfl
  minted := by simp [hcarried, deliver]
  active := by
    have hown : cfg.framing = .header ∨ cfg.framing = .unixfd := by
      cases hcase : cfg.framing <;> simp_all
    rw [ShmConfig.stampOf, hcarried, activeTimestampSource, if_pos hown]
    rfl

/-- A frame that is stamped on arrival. -/
theorem delivers_of_arrival {s : ShmSource} (h : s.mismatch = none) {now : Int}
    {sample : ShmSample} (hcarried : cfg.carried sample = none) {last : TimestampSource}
    (hlast : cfg.framing = .raw ∨ last = .system) :
    Delivers cfg s ({ s with lastSource := last }.arrive now sample) now sample sample.data where
  delivered := by rw [ShmConfig.stampOf, hcarried]; rfl
  mismatch := h
  badHeaders := rfl
  minted := by simp [hcarried, arrive, deliver, StampSource.newStamp]
  active := by
    rw [ShmConfig.stampOf, hcarried, activeTimestampSource]
    rcases hlast with hraw | rfl
    · simp [hraw]
    · exact ite_self _

/-- `t` is `s` after a sample of this verdict. -/
def Takes (cfg : ShmConfig) (s t : ShmSource) (now : Int) (sample : ShmSample) :
    SampleVerdict → Prop
  | .faulty => t = { s with badHeaders := s.badHeaders + 1 }
  | .misfit => ∃ text, t = { s with mismatch := some text }
  | .fits pixels => Delivers cfg s t now sample pixels

section Framings

variable {s : ShmSource} (h : s.mismatch = none) (now : Int) (sample : ShmSample)
include h

/-- A sample over raw shm. -/
theorem takes_raw (hframing : cfg.framing = .raw) :
    Takes cfg s (s.onSample cfg now sample) now sample (cfg.judge sample) := by
  have hopen : ¬ s.mismatch.isSome = true := by simp [h]
  unfold onSample ShmConfig.judge
  rw [if_neg hopen, hframing]
  dsimp only
  by_cases hsize : sample.data.length = cfg.expected
  · rw [if_pos hsize, if_neg (not_not.2 hsize)]
    exact delivers_of_arrival h (by rw [ShmConfig.carried, hframing]) (.inl hframing)
  · rw [if_neg hsize, if_pos hsize]
    exact failConfig_of_none h _

/-- A sample behind a header. -/
theorem takes_header (hframing : cfg.framing = .header) :
    Takes cfg s (s.onSample cfg now sample) now sample (cfg.judge sample) := by
  have hopen : ¬ s.mismatch.isSome = true := by simp [h]
  unfold onSample ShmConfig.judge onRaw
  rw [if_neg hopen, hframing]
  dsimp only
  cases hunpack : unpackHeader sample.data with
  | error fault => rfl
  | ok hdr =>
      have hcarried : cfg.carried sample = some (hdr.frameId, hdr.timestampNs,
          (TimestampSource.ofValue hdr.tsSource).getD .system) := by
        rw [ShmConfig.carried, hframing]
        simp only [hunpack]
      have hplace : ((hdr.width, hdr.height) ≠ ((cfg.pinned.width : Int), (cfg.pinned.height : Int))
          ∨ hdr.pixfmt ≠ cfg.pinned.gstFormat) ↔ ¬ cfg.HeaderFits hdr := by
        simp only [ShmConfig.HeaderFits, ShmConfig.pinned, ne_eq, Prod.mk.injEq, not_and_or,
          or_assoc]
      dsimp only
      by_cases hfits : cfg.HeaderFits hdr
      · rw [if_neg (hplace.not.2 (not_not.2 hfits))]
        by_cases hsize : (sample.data.drop headerSize).length = cfg.expected
        · rw [if_neg (c := _ ≠ cfg.pinned.expected) (not_not.2 hsize), if_pos ⟨hfits, hsize⟩]
          exact delivers_of_carried h (by simp [hframing]) hcarried _
        · rw [if_pos (c := _ ≠ cfg.pinned.expected) hsize, if_neg (fun hboth => hsize hboth.2)]
          exact failConfig_of_none h _
      · rw [if_pos (hplace.2 hfits), if_neg (fun hboth => hfits hboth.1)]
        exact failConfig_of_none h _

/-- A sample over unixfd. -/
theorem takes_unixfd (hframing : cfg.framing = .unixfd) :
    Takes cfg s (s.onSample cfg now sample) now sample (cfg.judge sample) := by
  have hopen : ¬ s.mismatch.isSome = true := by simp [h]
  unfold onSample
  rw [if_neg hopen, hframing]
  dsimp only
  cases hcaps : sample.caps with
  | none =>
      have hempty : unixfdMismatch cfg sample = some "" := by
        rw [unixfdMismatch, hcaps]
      have hjudge : cfg.judge sample = .faulty := by
        rw [ShmConfig.judge, hframing]
        simp only [hcaps]
      rw [hempty, hjudge]
      rfl
  | some caps =>
      have hnone : unixfdMismatch cfg sample = none ↔ cfg.CapsFit caps :=
        unixfdMismatch_eq_none_iff hcaps
      have hjudge : cfg.judge sample = if cfg.CapsFit caps ∧ sample.data.length = cfg.expected then
          .fits sample.data else .misfit := by
        rw [ShmConfig.judge, hframing]
        simp only [hcaps]
      by_cases hfits : cfg.CapsFit caps
      · rw [hnone.2 hfits]
        dsimp only
        by_cases hsize : sample.data.length = cfg.expected
        · rw [if_pos ⟨hfits, hsize⟩] at hjudge
          rw [hjudge, if_neg (not_not.2 hsize)]
          by_cases hset : sample.offset ≠ offsetNone ∧ sample.offsetEnd ∉ [0, offsetNone]
          · rw [if_pos hset]
            refine delivers_of_carried h (by simp [hframing]) ?_ _
            rw [ShmConfig.carried, hframing]
            exact if_pos hset
          · rw [if_neg hset]
            refine delivers_of_arrival h ?_ (.inr rfl)
            rw [ShmConfig.carried, hframing]
            exact if_neg hset
        · rw [if_neg (fun hboth => hsize hboth.2)] at hjudge
          rw [hjudge, if_pos hsize]
          exact failConfig_of_none h _
      · rw [if_neg (fun hboth => hfits hboth.1)] at hjudge
        have hne : unixfdMismatch cfg sample ≠ none := fun hwhat => hfits (hnone.1 hwhat)
        obtain ⟨what, hwhat⟩ := Option.ne_none_iff_exists'.1 hne
        have hnonempty : what ≠ "" := by
          rintro rfl
          exact unixfdMismatch_ne_empty hcaps hwhat
        rw [hjudge, hwhat]
        split
        case h_1 heq => exact absurd (Option.some.inj heq) hnonempty
        case h_2 heq => exact failConfig_of_none h _
        case h_3 heq => simp at heq

/-- What `_on_raw` makes of a sample, by what it is to the config. -/
theorem takes_onSample : Takes cfg s (s.onSample cfg now sample) now sample (cfg.judge sample) := by
  cases hframing : cfg.framing with
  | raw => exact takes_raw h now sample hframing
  | header => exact takes_header h now sample hframing
  | unixfd => exact takes_unixfd h now sample hframing

end Framings

end ShmSource

/-! ## Runs -/

namespace ShmConfig

/-- The samples that came before the first one that does not fit. -/
def admitted (cfg : ShmConfig) (samples : List (Int × ShmSample)) : List (Int × ShmSample) :=
  samples.takeWhile fun x => cfg.judge x.2 ≠ .misfit

/-- Those of them that are frames. -/
def fitting (cfg : ShmConfig) (samples : List (Int × ShmSample)) : List (Int × ShmSample) :=
  (cfg.admitted samples).filter fun x => cfg.judge x.2 ≠ .faulty

/-- Those of them that are none. -/
def faulty (cfg : ShmConfig) (samples : List (Int × ShmSample)) : List (Int × ShmSample) :=
  (cfg.admitted samples).filter fun x => cfg.judge x.2 = .faulty

end ShmConfig

/-- The samples of a run, and when they came. -/
def samplesOf (events : List ShmEvent) : List (Int × ShmSample) :=
  events.filterMap fun
    | .sample now sample => some (now, sample)
    | _ => none

/-- A frame that was delivered, and the sample that it came from. -/
structure CameFrom (cfg : ShmConfig) (x : Int × ShmSample) (f : FrameStamp × List UInt8) :
    Prop where
  pixels : cfg.judge x.2 = .fits f.2
  arrived : f.1.systemNs = x.1
  /-- what the writer sent, else the arrival -/
  told : (f.1.frameId, f.1.timestampNs, f.1.source) =
    (cfg.carried x.2).getD (f.1.frameId, x.1, .system)

/-- The frames that were stamped on arrival, unless the writer can say `system` itself. -/
def mintedIds (frames : List (FrameStamp × List UInt8)) : List Int :=
  (frames.filter fun f => f.1.source = .system).map fun f => f.1.frameId

namespace ShmSource

variable {cfg : ShmConfig}

/-- The invariant: the source after these samples, over any number of reopens. -/
structure Follows (cfg : ShmConfig) (samples : List (Int × ShmSample)) (s : ShmSource) :
    Prop where
  /-- every frame up to the first misfit, in order, and nothing else -/
  frames : List.Forall₂ (CameFrom cfg) (cfg.fitting samples) s.delivered
  latched : s.mismatch.isSome = true ↔ ∃ x ∈ samples, cfg.judge x.2 = .misfit
  badHeaders : s.badHeaders = (cfg.faulty samples).length
  active : s.activeTimestampSource cfg = (s.delivered.getLast?.map (·.1.source)).getD .system
  minted : cfg.framing ≠ .header →
    mintedIds s.delivered = (List.range (mintedIds s.delivered).length).map Int.ofNat ∧
      s.stamps.frameId = (mintedIds s.delivered).length

/-- The ids the source makes itself, with one frame more. -/
theorem mintedIds_concat (frames : List (FrameStamp × List UInt8))
    (f : FrameStamp × List UInt8) : mintedIds (frames ++ [f]) =
      mintedIds frames ++ (if f.1.source = .system then [f.1.frameId] else []) := by
  rw [mintedIds, List.filter_append, List.map_append]
  by_cases hsource : f.1.source = .system <;> simp [hsource, mintedIds]

/-- A source that has been opened. -/
theorem follows_init : Follows cfg [] .init where
  frames := .nil
  latched := by simp [init]
  badHeaders := rfl
  active := ite_self _
  minted _ := ⟨rfl, rfl⟩

/-- Behind a misfit nothing counts. -/
theorem admitted_concat_of_misfit {samples : List (Int × ShmSample)}
    (h : ∃ x ∈ samples, cfg.judge x.2 = .misfit) (x : Int × ShmSample) :
    cfg.admitted (samples ++ [x]) = cfg.admitted samples := by
  obtain ⟨y, hy, hmisfit⟩ := h
  obtain ⟨before, after, rfl⟩ := List.append_of_mem hy
  have hstop : ∀ rest, cfg.admitted (before ++ y :: rest) = cfg.admitted before := by
    intro rest
    have htail : (y :: rest).takeWhile (fun x => decide (cfg.judge x.2 ≠ .misfit)) = [] := by
      simp [hmisfit]
    rw [ShmConfig.admitted, List.takeWhile_append, htail, List.append_nil]
    split
    case isTrue hlength =>
      exact ((List.takeWhile_prefix _).eq_of_length hlength).symm
    case isFalse hlength => rfl
  rw [List.append_assoc, List.cons_append, hstop, hstop]

/-- Up to the first misfit every sample is admitted. -/
theorem admitted_concat {samples : List (Int × ShmSample)}
    (h : ¬ ∃ x ∈ samples, cfg.judge x.2 = .misfit) (x : Int × ShmSample) :
    cfg.admitted (samples ++ [x]) =
      cfg.admitted samples ++ (if cfg.judge x.2 = .misfit then [] else [x]) := by
  have hall : ∀ y ∈ samples, decide (cfg.judge y.2 ≠ .misfit) = true := by
    intro y hy
    exact decide_eq_true fun hmisfit => h ⟨y, hy, hmisfit⟩
  have hfirst : cfg.admitted samples = samples := List.takeWhile_eq_self_iff.2 hall
  rw [hfirst, ShmConfig.admitted, List.takeWhile_append_of_pos hall]
  by_cases hx : cfg.judge x.2 = .misfit <;> simp [hx]

/-- A frame with the stamp that is due came from its sample. -/
theorem cameFrom_stampOf {sample : ShmSample} {pixels : List UInt8}
    (hjudge : cfg.judge sample = .fits pixels) (minted now : Int) :
    CameFrom cfg (now, sample) (cfg.stampOf minted now sample, pixels) where
  pixels := hjudge
  arrived := by
    unfold ShmConfig.stampOf
    split <;> rfl
  told := by
    unfold ShmConfig.stampOf
    split
    case h_1 heq => simp [heq]
    case h_2 heq => simp [heq]

/-- Outside `header` the writer's stamps say `camera`. -/
theorem source_stampOf (hframing : cfg.framing ≠ .header) (minted now : Int) (sample : ShmSample) :
    (cfg.stampOf minted now sample).source = .system ↔ cfg.carried sample = none := by
  unfold ShmConfig.stampOf
  split
  case h_1 frameId timestampNs source heq =>
    have hcamera : source = .camera := by
      unfold ShmConfig.carried at heq
      cases hcase : cfg.framing <;> simp_all
    simp [heq, hcamera]
  case h_2 heq => simp [heq]

section OneSample

variable {samples : List (Int × ShmSample)} {s t : ShmSource} (h : Follows cfg samples s)
  {now : Int} {sample : ShmSample}
include h

/-- A latched source takes nothing. -/
theorem Follows.stays (hlatched : s.mismatch.isSome = true) :
    Follows cfg (samples ++ [(now, sample)]) s := by
  obtain ⟨x, hx, hmisfit⟩ := h.latched.1 hlatched
  have hsame := admitted_concat_of_misfit ⟨x, hx, hmisfit⟩ (now, sample)
  exact
    { frames := by rw [ShmConfig.fitting, hsame]; exact h.frames
      latched := ⟨fun _ => ⟨x, List.mem_append_left _ hx, hmisfit⟩, fun _ => hlatched⟩
      badHeaders := by rw [ShmConfig.faulty, hsame]; exact h.badHeaders
      active := h.active
      minted := h.minted }

variable (hmismatch : s.mismatch = none)
include hmismatch

/-- One that is not latched has seen no misfit. -/
theorem Follows.free : ¬ ∃ x ∈ samples, cfg.judge x.2 = .misfit := by
  rw [← h.latched, hmismatch]
  simp

theorem Follows.misfit (hjudge : cfg.judge sample = .misfit) (text : String) :
    Follows cfg (samples ++ [(now, sample)]) { s with mismatch := some text } := by
  have hnext := admitted_concat (h.free hmismatch) (now, sample)
  rw [if_pos hjudge, List.append_nil] at hnext
  exact
    { frames := by rw [ShmConfig.fitting, hnext]; exact h.frames
      latched := ⟨fun _ => ⟨(now, sample), by simp, hjudge⟩, fun _ => rfl⟩
      badHeaders := by rw [ShmConfig.faulty, hnext]; exact h.badHeaders
      active := h.active
      minted := h.minted }

/-- A header that cannot be read is counted. -/
theorem Follows.faulty (hjudge : cfg.judge sample = .faulty) :
    Follows cfg (samples ++ [(now, sample)]) { s with badHeaders := s.badHeaders + 1 } := by
  have hnext := admitted_concat (h.free hmismatch) (now, sample)
  rw [if_neg (by simp [hjudge])] at hnext
  exact
    { frames := by
        rw [ShmConfig.fitting, hnext, List.filter_append]
        simpa [hjudge, ShmConfig.fitting] using h.frames
      latched := by simp [hmismatch, hjudge, h.free hmismatch]
      badHeaders := by
        rw [ShmConfig.faulty, hnext, List.filter_append]
        simpa [hjudge, ShmConfig.faulty] using h.badHeaders
      active := h.active
      minted := h.minted }

/-- A frame that fits is delivered. -/
theorem Follows.fits {pixels : List UInt8} (hjudge : cfg.judge sample = .fits pixels)
    (hdelivers : Delivers cfg s t now sample pixels) :
    Follows cfg (samples ++ [(now, sample)]) t := by
  have hnext := admitted_concat (h.free hmismatch) (now, sample)
  rw [if_neg (by simp [hjudge])] at hnext
  refine
    { frames := ?_
      latched := by simp [hdelivers.mismatch, hjudge, h.free hmismatch]
      badHeaders := ?_
      active := by simp [hdelivers.active, hdelivers.delivered]
      minted := fun hframing => ?_ }
  · have hframe := cameFrom_stampOf hjudge s.stamps.frameId now
    rw [ShmConfig.fitting, hnext, List.filter_append, hdelivers.delivered]
    refine List.rel_append h.frames ?_
    simpa [hjudge] using hframe
  · rw [ShmConfig.faulty, hnext, List.filter_append, hdelivers.badHeaders]
    simpa [hjudge, ShmConfig.faulty] using h.badHeaders
  · obtain ⟨hids, hcount⟩ := h.minted hframing
    have hsource := source_stampOf hframing s.stamps.frameId now sample
    rw [hdelivers.delivered, hdelivers.minted, mintedIds_concat]
    cases hcarried : cfg.carried sample with
    | some told =>
        have hown : (cfg.stampOf s.stamps.frameId now sample).source ≠ .system := by
          rw [ne_eq, hsource, hcarried]
          simp
        rw [if_neg hown]
        simpa using ⟨hids, hcount⟩
    | none =>
        have hid : (cfg.stampOf s.stamps.frameId now sample).frameId = s.stamps.frameId := by
          rw [ShmConfig.stampOf, hcarried]
        rw [if_pos (hsource.2 hcarried), hid, List.length_append, List.length_singleton,
          List.range_succ, List.map_append, ← hids, hcount]
        simp

end OneSample

theorem follows_sample {samples : List (Int × ShmSample)} {s : ShmSource}
    (h : Follows cfg samples s) (now : Int) (sample : ShmSample) :
    Follows cfg (samples ++ [(now, sample)]) (s.onSample cfg now sample) := by
  cases hmismatch : s.mismatch with
  | some what =>
      have hlatched : s.mismatch.isSome = true := by simp [hmismatch]
      rw [onSample, if_pos hlatched]
      exact h.stays hlatched
  | none =>
      have htakes : Takes cfg s (s.onSample cfg now sample) now sample (cfg.judge sample) :=
        takes_onSample hmismatch now sample
      cases hjudge : cfg.judge sample with
      | faulty =>
          rw [hjudge] at htakes
          rw [htakes]
          exact h.faulty hmismatch hjudge
      | misfit =>
          rw [hjudge] at htakes
          obtain ⟨text, heq⟩ := htakes
          rw [heq]
          exact h.misfit hmismatch hjudge text
      | fits pixels =>
          rw [hjudge] at htakes
          exact h.fits hmismatch hjudge htakes

/-- The samples of a run, with one event more. -/
theorem samplesOf_concat (events : List ShmEvent) (event : ShmEvent) :
    samplesOf (events ++ [event]) = samplesOf events ++ samplesOf [event] :=
  List.filterMap_append

/-- What a source shows is all that the invariant is about. -/
theorem Follows.of_eq {samples : List (Int × ShmSample)} {s t : ShmSource}
    (h : Follows cfg samples s) (hmismatch : t.mismatch = s.mismatch)
    (hdelivered : t.delivered = s.delivered) (hbad : t.badHeaders = s.badHeaders)
    (hlast : t.lastSource = s.lastSource) (hids : t.stamps.frameId = s.stamps.frameId) :
    Follows cfg samples t where
  frames := hdelivered ▸ h.frames
  latched := hmismatch ▸ h.latched
  badHeaders := hbad ▸ h.badHeaders
  active := by
    have hactive := h.active
    unfold activeTimestampSource at hactive ⊢
    rw [hlast, hdelivered, hactive]
  minted hframing := by
    rw [hdelivered, hids]
    exact h.minted hframing

theorem follows_step {events : List ShmEvent} {s : ShmSource}
    (h : Follows cfg (samplesOf events) s) (event : ShmEvent) :
    Follows cfg (samplesOf (events ++ [event])) (s.step cfg event).1 := by
  rw [samplesOf_concat]
  have hsilent : Follows cfg (samplesOf events ++ []) s := by rwa [List.append_nil]
  cases event with
  | sample now sample => exact follows_sample h now sample
  | lost => exact hsilent.of_eq rfl rfl rfl rfl rfl
  | start => exact hsilent.of_eq rfl rfl rfl rfl rfl
  | stop => exact hsilent.of_eq rfl rfl rfl rfl rfl
  | reopen present =>
      unfold step reopen
      cases hmismatch : s.mismatch with
      | some what => exact hsilent
      | none =>
          cases present
          · exact hsilent
          · exact hsilent.of_eq hmismatch.symm rfl rfl rfl rfl

/-- A mismatch is there to stay. -/
theorem step_of_mismatch (cfg : ShmConfig) {s : ShmSource} {what : String}
    (h : s.mismatch = some what) (event : ShmEvent) : (s.step cfg event).1.mismatch = some what ∧
      (s.step cfg event).1.delivered = s.delivered := by
  cases event with
  | sample now sample =>
      have hstay : s.onSample cfg now sample = s := if_pos (by simp [h])
      rw [step, hstay]
      exact ⟨h, rfl⟩
  | lost => exact ⟨h, rfl⟩
  | start => exact ⟨h, rfl⟩
  | stop => exact ⟨h, rfl⟩
  | reopen present =>
      rw [step, reopen, h]
      exact ⟨h, rfl⟩

/-- Behind a misfit nothing changes any more. -/
theorem final_of_mismatch (cfg : ShmConfig) {s : ShmSource} {what : String}
    (h : s.mismatch = some what) (more : List ShmEvent) :
    (Machine.final (step cfg) s more).mismatch = some what ∧
      (Machine.final (step cfg) s more).delivered = s.delivered := by
  induction more generalizing s with
  | nil => exact ⟨h, rfl⟩
  | cons event more ih =>
      obtain ⟨hkept, hsame⟩ := step_of_mismatch cfg h event
      obtain ⟨hend, hdelivered⟩ := ih hkept
      exact ⟨hend, hdelivered.trans hsame⟩

/-- A frame that fits has the pinned length. -/
theorem length_of_fits {sample : ShmSample} {pixels : List UInt8}
    (h : cfg.judge sample = .fits pixels) : pixels.length = cfg.expected := by
  unfold ShmConfig.judge at h
  split at h
  · split at h
    case isTrue hsize =>
      cases h
      exact hsize
    case isFalse => cases h
  · split at h
    · cases h
    · split at h
      case isTrue hfits =>
        cases h
        exact hfits.2
      case isFalse => cases h
  · split at h
    · cases h
    · split at h
      case isTrue hfits =>
        cases h
        exact hfits.2
      case isFalse => cases h

theorem exists_left_of_forall₂ {α β : Type*} {R : α → β → Prop} {xs : List α} {ys : List β}
    (h : List.Forall₂ R xs ys) {y : β} (hy : y ∈ ys) : ∃ x ∈ xs, R x y := by
  obtain ⟨i, hi, rfl⟩ := List.getElem_of_mem hy
  have hlength := h.length_eq
  exact ⟨xs[i], List.getElem_mem _, h.get (hlength ▸ hi) hi⟩

/-- Where every sample fits, every sample counts. -/
theorem fitting_of_all {samples : List (Int × ShmSample)}
    (h : ∀ x ∈ samples, ∃ pixels, cfg.judge x.2 = .fits pixels) :
    cfg.fitting samples = samples ∧ cfg.faulty samples = [] := by
  have hadmitted : cfg.admitted samples = samples := by
    refine List.takeWhile_eq_self_iff.2 fun x hx => ?_
    obtain ⟨pixels, hjudge⟩ := h x hx
    simp [hjudge]
  constructor
  · rw [ShmConfig.fitting, hadmitted, List.filter_eq_self]
    intro x hx
    obtain ⟨pixels, hjudge⟩ := h x hx
    simp [hjudge]
  · rw [ShmConfig.faulty, hadmitted, List.filter_eq_nil_iff]
    intro x hx
    obtain ⟨pixels, hjudge⟩ := h x hx
    simp [hjudge]

/-- In every state of every run. -/
theorem follows_run (cfg : ShmConfig) (events : List ShmEvent) :
    Follows cfg (samplesOf events) (Machine.final (step cfg) init events) := by
  induction events using List.reverseRecOn with
  | nil => exact follows_init
  | append_singleton events event ih =>
      rw [Machine.final_append]
      exact follows_step ih event

/-- The source after a run. -/
structure ShmHolds (cfg : ShmConfig) (events : List ShmEvent) (s : ShmSource) : Prop where
  follows : Follows cfg (samplesOf events) s
  whole : ∀ f ∈ s.delivered, f.2.length = cfg.expected
  /-- behind a misfit: no frame, disconnected for good, and the first misfit is the reason -/
  ended : ∀ what, s.mismatch = some what → ∀ more,
    (Machine.final (step cfg) s more).delivered = s.delivered ∧
      (∀ stalled, (Machine.final (step cfg) s more).isDisconnected stalled = true) ∧
      ∀ present, (Machine.final (step cfg) s more).reopen present = .error (.configChanged what)
  /-- until then a reopen only waits for the socket -/
  reopens : s.mismatch = none → s.reopen false = .error .noSocket ∧
    ∃ t, s.reopen true = .ok t ∧ t.isDisconnected false = false

/-- **The pinned format holds**, in every run. -/
theorem shmHolds_run (cfg : ShmConfig) (events : List ShmEvent) :
    ShmHolds cfg events (Machine.final (step cfg) init events) := by
  have hfollows := follows_run cfg events
  refine ⟨hfollows, fun f hf => ?_, fun what hwhat more => ?_, fun hnone => ?_⟩
  · obtain ⟨x, -, hfrom⟩ := exists_left_of_forall₂ hfollows.frames hf
    exact length_of_fits hfrom.pixels
  · obtain ⟨hkept, hsame⟩ := final_of_mismatch cfg hwhat more
    refine ⟨hsame, fun stalled => ?_, fun present => ?_⟩
    · simp [isDisconnected, hkept]
    · rw [reopen, hkept]
  · generalize Machine.final (step cfg) init events = s at hnone
    refine ⟨?_, { s with errored := false, started := false }, ?_, ?_⟩
    · simp [reopen, hnone]
    · simp [reopen, hnone]
    · simp [isDisconnected, hnone]

end ShmSource

end CamDriver
