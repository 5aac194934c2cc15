import Mathlib.Data.Int.SuccPred
import Mathlib.Data.List.Induction
import CamDriver.Lib.Climb
import CamDriver.Transport

/-!
# CamDriver.HeaderPump

The header pump of the WebRTC bridge: `_on_hdr_sample` takes the header off a buffer, sets the
caps that the header tells, and pushes the pixels with the frame id, the capture time and a PTS
of its own.

`pumped_run` says what comes out of a run, whatever buffers come in, and what does of frames
that the core's `FrameHeader.pack` has been put in front of.
-/

namespace CamDriver

/-! ## The PTS -/

/-- `PtsTracker`. -/
structure PtsTracker where
  base : Option Int
  last : Option Int
  iv : Int
deriving DecidableEq, Repr

namespace PtsTracker

def init : PtsTracker := { base := none, last := none, iv := 40000000 }

/-- `pts_for`; `arrival` is what the arrival clock reads, where there is one. -/
def ptsFor (t : PtsTracker) (arrival : Option Int) (tsNs : Int) : PtsTracker × Int :=
  match arrival with
  | some now =>
    let base := t.base.getD now
    let pts := now - base
    let last := match t.last with
      | some last => max pts (last + 1)
      | none => pts
    ({ t with base := some base, last := some last }, last)
  | none =>
    let base := t.base.getD tsNs
    let pts := tsNs - base
    match t.last with
    | none => ({ t with base := some base, last := some pts }, pts)
    | some last =>
      if pts ≤ last then
        ({ t with base := some (tsNs - (last + t.iv)), last := some (last + t.iv) }, last + t.iv)
      else ({ base := some base, last := some pts, iv := pts - last }, pts)

end PtsTracker

/-! ## The pump -/

/-- The caps that `caps_for_frame` writes. -/
structure FrameCaps where
  /-- `video/x-bayer`, not `video/x-raw` -/
  isBayer : Bool
  format : String
  width : Nat
  height : Nat
  fps : Option Int
deriving DecidableEq, Repr

/-- The text of the caps. -/
def FrameCaps.text (caps : FrameCaps) : String :=
  let media := if caps.isBayer then "video/x-bayer" else "video/x-raw"
  let rate := match caps.fps with
    | some fps => ",framerate=" ++ toString fps ++ "/1"
    | none => ""
  media ++ ",format=" ++ caps.format ++ ",width=" ++ toString caps.width ++ ",height=" ++
    toString caps.height ++ rate

/-- What the pump takes from the environment: `CAM_BAYER`, `debayer_enabled`, and `CAM_FPS`
where that is a number other than 0. -/
structure PumpSetup where
  bayer : Option String
  debayer : Bool
  fps : Option Int
deriving DecidableEq, Repr

/-- `caps_for_frame`. -/
def capsForFrame (setup : PumpSetup) (info : FrameInfo) : FrameCaps :=
  match setup.bayer with
  | some pattern =>
    if info.pixfmt = "GRAY8" ∧ pattern ≠ "" ∧ setup.debayer then
      { isBayer := true, format := pattern, width := info.width, height := info.height,
        fps := setup.fps }
    else
      { isBayer := false, format := info.pixfmt, width := info.width, height := info.height,
        fps := setup.fps }
  | none =>
    { isBayer := false, format := info.pixfmt, width := info.width, height := info.height,
      fps := setup.fps }

/-- A buffer in `hdr_out`, with the caps that the element had when it came. -/
structure PumpedFrame where
  bytes : List UInt8
  offset : Nat
  offsetEnd : Nat
  caps : Option FrameCaps
  pts : Int
deriving DecidableEq, Repr

/-- The pump; `requests` counts the calls of `_advertise` that it asked the main loop for. -/
structure HeaderPump where
  tracker : PtsTracker
  capsKey : Option (Nat × Nat × String)
  caps : Option FrameCaps
  pushed : List PumpedFrame
  requests : Nat
deriving DecidableEq, Repr

/-- A sample: the bytes of its buffer, or none if it cannot be mapped, and what the clock reads
when a PTS is asked for. -/
structure PumpSample where
  data : Option (List UInt8)
  now : Int
deriving DecidableEq, Repr

namespace HeaderPump

def init : HeaderPump :=
  { tracker := .init, capsKey := none, caps := none, pushed := [], requests := 0 }

/-- The header and the pixels of a buffer; `none`: it is dropped. -/
def taken (data : List UInt8) : Option (FrameInfo × List UInt8) :=
  match parseHeader data with
  | .error _ => none
  | .ok info =>
    let pixels := data.drop info.headerLen
    if pixels = [] then none else some (info, pixels)

/-- What the caps of `hdr_out` depend on. -/
def key (info : FrameInfo) : Nat × Nat × String := (info.width, info.height, info.pixfmt)

/-- The caps are set again where the format changes; the first frame asks for `_advertise`. -/
def reformat (setup : PumpSetup) (advertised : Bool) (pump : HeaderPump) (info : FrameInfo) :
    HeaderPump :=
  if pump.capsKey = some (key info) then pump
  else
    { pump with
      caps := some (capsForFrame setup info)
      requests :=
        if pump.capsKey = none ∧ advertised = false then pump.requests + 1 else pump.requests
      capsKey := some (key info) }

/-- The rest of `_on_hdr_sample`: the pixels are pushed in the caps of the element. -/
def push (pump : HeaderPump) (now : Int) (info : FrameInfo) (pixels : List UInt8) : HeaderPump :=
  let (tracker, pts) := pump.tracker.ptsFor (some now) info.timestampNs
  { pump with
    tracker
    pushed := pump.pushed ++
      [{ bytes := pixels, offset := info.frameId, offsetEnd := info.timestampNs,
         caps := pump.caps, pts }] }

/-- `_on_hdr_sample`; `advertised` is the flag of the bridge. -/
def onHdrSample (setup : PumpSetup) (advertised : Bool) (pump : HeaderPump)
    (sample : PumpSample) : HeaderPump :=
  match sample.data.bind taken with
  | none => pump
  | some (info, pixels) => (pump.reformat setup advertised info).push sample.now info pixels

/-! ## A run -/

/-- A run of the streaming thread; each sample finds the flag of the bridge as it is then. -/
def run (setup : PumpSetup) (events : List (Bool × PumpSample)) : HeaderPump :=
  events.foldl (fun pump e => pump.onHdrSample setup e.1 e.2) init

/-- What is read of a sample. -/
def read (sample : PumpSample) : Option (FrameInfo × List UInt8) := sample.data.bind taken

/-- The samples that are not dropped, by the clock. -/
def arrivals (events : List (Bool × PumpSample)) : List Int :=
  (events.filter fun e => (read e.2).isSome).map (·.2.now)

/-- How long after the first of them each came. -/
def elapsed (events : List (Bool × PumpSample)) : List Int :=
  (arrivals events).map (· - (arrivals events).headD 0)

/-- What a buffer is pushed with, but for the PTS. -/
def PumpedFrame.view (f : PumpedFrame) : List UInt8 × Nat × Nat × Option FrameCaps :=
  (f.bytes, f.offset, f.offsetEnd, f.caps)

/-- What is pushed of a header and pixels. -/
def viewOf (setup : PumpSetup) (r : FrameInfo × List UInt8) :
    List UInt8 × Nat × Nat × Option FrameCaps :=
  (r.2, r.1.frameId, r.1.timestampNs, some (capsForFrame setup r.1))

/-- What comes out of a run. -/
structure Pumped (setup : PumpSetup) (events : List (Bool × PumpSample)) (pump : HeaderPump) :
    Prop where
  /-- Each frame with a header that can be read and with pixels, once and in order, with what
  its own header tells. -/
  frames : pump.pushed.map PumpedFrame.view =
    (events.filterMap fun e => read e.2).map (viewOf setup)
  /-- The PTS increase, whatever the clock does; -/
  increasing : (pump.pushed.map PumpedFrame.pts).Pairwise (· < ·)
  /-- none is before its frame came, -/
  paced : List.Forall₂ (· ≤ ·) (elapsed events) (pump.pushed.map PumpedFrame.pts)
  /-- and no other increasing PTS would be lower. -/
  least : ∀ pts : List Int, pts.Pairwise (· < ·) → List.Forall₂ (· ≤ ·) (elapsed events) pts →
    List.Forall₂ (· ≤ ·) (pump.pushed.map PumpedFrame.pts) pts
  /-- The main loop is asked for the advertisement once. -/
  requests : pump.requests ≤ 1

/-- What the pump has done so far, and what it remembers of it. -/
structure Inv (setup : PumpSetup) (events : List (Bool × PumpSample)) (pump : HeaderPump) :
    Prop where
  frames : pump.pushed.map PumpedFrame.view =
    (events.filterMap fun e => read e.2).map (viewOf setup)
  pts : pump.pushed.map PumpedFrame.pts = Climb.climb none (elapsed events)
  requests : pump.requests ≤ 1
  base : pump.tracker.base = (arrivals events).head?
  last : pump.tracker.last = (pump.pushed.map PumpedFrame.pts).getLast?
  caps : ∀ info, pump.capsKey = some (key info) → pump.caps = some (capsForFrame setup info)
  unasked : pump.capsKey = none → pump.requests = 0

/-- The caps depend on the key of the frame alone. -/
theorem capsForFrame_congr (setup : PumpSetup) {info info' : FrameInfo}
    (h : key info = key info') : capsForFrame setup info = capsForFrame setup info' := by
  simp only [key, Prod.mk.injEq] at h
  obtain ⟨hwidth, hheight, hpixfmt⟩ := h
  simp only [capsForFrame, hwidth, hheight, hpixfmt]

section Concat

variable {events : List (Bool × PumpSample)} {advertised : Bool} {sample : PumpSample}

/-- A sample that cannot be read does not arrive. -/
theorem arrivals_concat_none (h : read sample = none) :
    arrivals (events ++ [(advertised, sample)]) = arrivals events := by
  simp [arrivals, List.filter_append, h]

/-- One that can be read arrives when the pump takes it. -/
theorem arrivals_concat_some {r : FrameInfo × List UInt8} (h : read sample = some r) :
    arrivals (events ++ [(advertised, sample)]) = arrivals events ++ [sample.now] := by
  simp [arrivals, List.filter_append, h]

/-- Its time counts from the first arrival of the run. -/
theorem elapsed_concat_some {r : FrameInfo × List UInt8} (h : read sample = some r) :
    elapsed (events ++ [(advertised, sample)]) =
      elapsed events ++ [sample.now - (arrivals events).head?.getD sample.now] := by
  rw [elapsed, arrivals_concat_some h, elapsed]
  cases arrivals events with
  | nil => simp
  | cons first rest => simp

end Concat

/-- What a reformat leaves, and the caps it comes to. -/
theorem reformat_spec {setup : PumpSetup} {pump : HeaderPump}
    (hcaps : ∀ info, pump.capsKey = some (key info) → pump.caps = some (capsForFrame setup info))
    (hasked : pump.capsKey = none → pump.requests = 0) (hone : pump.requests ≤ 1)
    (advertised : Bool) (info : FrameInfo) :
    (pump.reformat setup advertised info).caps = some (capsForFrame setup info) ∧
      (pump.reformat setup advertised info).capsKey = some (key info) ∧
      (pump.reformat setup advertised info).requests ≤ 1 ∧
      (pump.reformat setup advertised info).tracker = pump.tracker ∧
      (pump.reformat setup advertised info).pushed = pump.pushed := by
  unfold reformat
  split
  case isTrue hsame => exact ⟨hcaps info hsame, hsame, hone, rfl, rfl⟩
  case isFalse =>
    refine ⟨rfl, rfl, ?_, rfl, rfl⟩
    dsimp only
    split
    case isTrue hfirst => rw [hasked hfirst.1]
    case isFalse => exact hone

/-- A mapping that anchors at arrivals takes the first one as its base. -/
theorem ptsFor_arrival {tracker : PtsTracker} (now tsNs : Int) :
    tracker.ptsFor (some now) tsNs =
      ({ tracker with
          base := some (tracker.base.getD now)
          last := some (Climb.lift tracker.last (now - tracker.base.getD now)) },
        Climb.lift tracker.last (now - tracker.base.getD now)) := by
  unfold PtsTracker.ptsFor Climb.lift
  cases tracker.last <;> rfl

/-- Nothing is remembered of a sample that is dropped. -/
theorem Inv.dropped {setup : PumpSetup} {events : List (Bool × PumpSample)} {pump : HeaderPump}
    (h : Inv setup events pump) (advertised : Bool) {sample : PumpSample}
    (hread : read sample = none) : Inv setup (events ++ [(advertised, sample)]) pump := by
  have hframes : (events ++ [(advertised, sample)]).filterMap (fun e => read e.2) =
      events.filterMap fun e => read e.2 := by
    simp [List.filterMap_append, hread]
  have harrivals : arrivals (events ++ [(advertised, sample)]) = arrivals events :=
    arrivals_concat_none hread
  exact
    { frames := by rw [hframes]; exact h.frames
      pts := by rw [elapsed, harrivals]; exact h.pts
      requests := h.requests
      base := by rw [harrivals]; exact h.base
      last := h.last, caps := h.caps, unasked := h.unasked }

/-- A reformat pushes nothing. -/
theorem Inv.reformat {setup : PumpSetup} {events : List (Bool × PumpSample)} {pump : HeaderPump}
    (h : Inv setup events pump) (advertised : Bool) (info : FrameInfo) :
    Inv setup events (pump.reformat setup advertised info) := by
  obtain ⟨hcaps, hkey, hone, htracker, hpushed⟩ :=
    reformat_spec h.caps h.unasked h.requests advertised info
  constructor
  case frames => rw [hpushed]; exact h.frames
  case pts => rw [hpushed]; exact h.pts
  case requests => exact hone
  case base => rw [htracker]; exact h.base
  case last => rw [htracker, hpushed]; exact h.last
  case caps =>
    intro info' hinfo
    rw [hkey, Option.some.injEq] at hinfo
    rw [hcaps, capsForFrame_congr setup hinfo]
  case unasked =>
    intro hnone
    cases hkey.symm.trans hnone

/-- A push, once the caps are those of the frame. -/
theorem Inv.push {setup : PumpSetup} {events : List (Bool × PumpSample)} {pump : HeaderPump}
    (h : Inv setup events pump) (advertised : Bool) {sample : PumpSample} {info : FrameInfo}
    {pixels : List UInt8} (hread : read sample = some (info, pixels))
    (hkey : pump.capsKey = some (key info)) :
    Inv setup (events ++ [(advertised, sample)]) (pump.push sample.now info pixels) := by
  have helapsed : elapsed (events ++ [(advertised, sample)]) =
      elapsed events ++ [sample.now - (arrivals events).head?.getD sample.now] :=
    elapsed_concat_some hread
  have harrivals : arrivals (events ++ [(advertised, sample)]) =
      arrivals events ++ [sample.now] := arrivals_concat_some hread
  simp only [HeaderPump.push, ptsFor_arrival, h.caps info hkey]
  constructor
  case frames =>
    rw [List.map_append, h.frames, List.filterMap_append, List.map_append]
    simp [hread, PumpedFrame.view, viewOf]
  case pts =>
    rw [helapsed, Climb.climb_concat, ← h.pts, List.map_append, h.last, h.base,
      Option.or_none]
    rfl
  case requests => exact h.requests
  case base =>
    rw [harrivals, List.head?_append, h.base]
    cases (arrivals events).head? <;> rfl
  case last => simp
  case caps =>
    intro info' hinfo
    rw [hkey, Option.some.injEq] at hinfo
    rw [capsForFrame_congr setup hinfo]
  case unasked =>
    intro hnone
    cases hkey.symm.trans hnone

/-- One sample keeps the invariant of the pump. -/
theorem inv_onHdrSample {setup : PumpSetup} {events : List (Bool × PumpSample)}
    {pump : HeaderPump} (h : Inv setup events pump) (advertised : Bool) (sample : PumpSample) :
    Inv setup (events ++ [(advertised, sample)]) (pump.onHdrSample setup advertised sample) := by
  unfold onHdrSample
  rw [← read]
  cases hread : read sample with
  | none => exact h.dropped advertised hread
  | some r =>
      obtain ⟨-, hkey, -⟩ := reformat_spec h.caps h.unasked h.requests advertised r.1
      exact (h.reformat advertised r.1).push advertised hread hkey

/-- The invariant holds behind any samples. -/
theorem inv_run (setup : PumpSetup) (events : List (Bool × PumpSample)) :
    Inv setup events (run setup events) := by
  induction events using List.reverseRecOn with
  | nil =>
      exact
        { frames := rfl, pts := rfl, requests := Nat.zero_le _, base := rfl, last := rfl
          caps := by rintro info ⟨⟩
          unasked := fun _ => rfl }
  | append_singleton events e ih =>
      rw [run, List.foldl_append]
      exact inv_onHdrSample ih e.1 e.2

/-- Nothing takes a request back. -/
theorem requests_le_reformat (setup : PumpSetup) (pump : HeaderPump) (advertised : Bool)
    (info : FrameInfo) : pump.requests ≤ (pump.reformat setup advertised info).requests := by
  unfold reformat
  split
  · exact le_rfl
  · dsimp only
    split
    · exact Nat.le_succ _
    · exact le_rfl

/-- What the invariant says of the frames that were pushed. -/
theorem pumped_of_inv {setup : PumpSetup} {events : List (Bool × PumpSample)}
    {pump : HeaderPump} (h : Inv setup events pump) : Pumped setup events pump := by
  constructor
  case frames => exact h.frames
  case increasing => exact h.pts ▸ Climb.pairwise_climb none _
  case paced => exact h.pts ▸ Climb.forall₂_climb none _
  case least =>
    intro pts hpts hpaced
    exact h.pts ▸ Climb.climb_le (by rintro l ⟨⟩) hpts hpaced
  case requests => exact h.requests

/-! ## From the core to the preview -/

/-- A frame as the core publishes it, in a format that its header has a code for. -/
structure CoreFrame where
  stamp : FrameStamp
  width : Nat
  height : Nat
  format : String
  pixels : List UInt8
  width_fits : 0 < width ∧ width < 65536
  height_fits : 0 < height ∧ height < 65536
  format_known : format ∈ codeToGst.map Prod.snd
  pixels_ne : pixels ≠ []

/-- The buffer of `_publish_transport`. -/
def CoreFrame.buffer (f : CoreFrame) : Except PackError (List UInt8) := do
  let header ← FrameHeader.pack
    { timestampNs := f.stamp.timestampNs, frameId := f.stamp.frameId, width := f.width,
      height := f.height, pixfmt := f.format, tsSource := f.stamp.source.value, flags := 0,
      version := 1 }
  return header ++ f.pixels

/-- What the bridge finds in the header. -/
def CoreFrame.info (f : CoreFrame) : FrameInfo :=
  { timestampNs := (f.stamp.timestampNs % 2 ^ 64).toNat
    frameId := (f.stamp.frameId % 2 ^ 64).toNat, width := f.width, height := f.height
    pixfmt := f.format, tsSource := wireProvenance f.stamp.source.value
    headerLen := headerSize }

/-- A frame that the core has packed is read by the pump as it was. -/
theorem CoreFrame.buffer_taken (f : CoreFrame) :
    ∃ data, f.buffer = .ok data ∧ taken data = some (f.info, f.pixels) := by
  obtain ⟨⟨code, format⟩, hentry, hformat⟩ := List.mem_map.1 f.format_known
  dsimp only at hformat
  subst hformat
  have hpack := pack_eq f.stamp.timestampNs f.stamp.frameId f.width_fits.2 f.height_fits.2
    hentry f.stamp.source.value
  have hparse := parseHeader_wireHeader f.stamp.timestampNs f.stamp.frameId f.width_fits.2
    f.height_fits.2 hentry f.stamp.source.value (by have := f.width_fits; omega)
    (by have := f.height_fits; omega) f.pixels
  refine ⟨_, by rw [buffer, hpack]; rfl, ?_⟩
  have hdrop : ((wireHeader f.stamp.timestampNs f.stamp.frameId f.width f.height code
      f.stamp.source.value).encode ++ f.pixels).drop headerSize = f.pixels :=
    List.drop_left' (WireHeader.length_encode rfl)
  rw [taken, hparse]
  dsimp only
  rw [hdrop, if_neg f.pixels_ne]
  rfl

/-- The samples of a run carry these frames, whichever got through, and nothing else that the
pump takes. -/
inductive Carries : List (Bool × PumpSample) → List CoreFrame → Prop
  | nil : Carries [] []
  | noise {advertised : Bool} {sample : PumpSample} {events : List (Bool × PumpSample)}
      {frames : List CoreFrame} (hread : read sample = none) (hrest : Carries events frames) :
      Carries ((advertised, sample) :: events) frames
  | frame {advertised : Bool} {f : CoreFrame} {data : List UInt8} {now : Int}
      {events : List (Bool × PumpSample)} {frames : List CoreFrame} (hdata : f.buffer = .ok data)
      (hrest : Carries events frames) :
      Carries ((advertised, { data := some data, now }) :: events) (f :: frames)

/-- The pump reads exactly the frames that the samples carry. -/
theorem Carries.read_eq {events : List (Bool × PumpSample)} {frames : List CoreFrame}
    (h : Carries events frames) :
    (events.filterMap fun e => read e.2) = frames.map fun f => (f.info, f.pixels) := by
  induction h with
  | nil => rfl
  | noise hread _ ih => simp only [List.filterMap_cons, hread, ih]
  | @frame _ f data _ _ _ hdata _ ih =>
      obtain ⟨data', hdata', htaken⟩ := f.buffer_taken
      obtain rfl : data' = data := Except.ok.inj (hdata'.symm.trans hdata)
      have hread (now : Int) : read { data := some data', now } = some (f.info, f.pixels) :=
        htaken
      simp only [List.filterMap_cons, hread, ih, List.map_cons]

/-- **From the core to the preview**: the frames that get through come out of the pump once
and in order, with their pixels, id and capture time, in caps of their own geometry; and the
PTS increase as the clock does. -/
theorem pumped_run (setup : PumpSetup) (events : List (Bool × PumpSample)) :
    Pumped setup events (run setup events) ∧
      ∀ frames, Carries events frames → (run setup events).pushed.map PumpedFrame.view =
        frames.map fun f => viewOf setup (f.info, f.pixels) := by
  have hpumped := pumped_of_inv (inv_run setup events)
  refine ⟨hpumped, fun frames hcarries => ?_⟩
  rw [hpumped.frames, hcarries.read_eq, List.map_map]
  rfl

/-- One pixel, with a frame id past the field of the header. -/
def onePixel : CoreFrame :=
  { stamp := { plainStamp 1000 with frameId := 2 ^ 64 + 7 }
    width := 1, height := 1, format := "GRAY8", pixels := [200], width_fits := by decide
    height_fits := by decide, format_known := by decide, pixels_ne := by decide }

/-- A buffer too short for a header, then a frame that is published twice, while the clock
goes back. -/
theorem pumped_run_onePixel :
    ∃ data, onePixel.buffer = .ok data ∧
      (run { bayer := some "rggb", debayer := true, fps := none }
        [(false, { data := some [1, 2, 3], now := 5 }), (false, { data := some data, now := 7 }),
          (true, { data := some data, now := 6 })]).pushed.map PumpedFrame.view =
        List.replicate 2 ([200], 7, 1000, some
          { isBayer := true, format := "rggb", width := 1, height := 1, fps := none }) := by
  obtain ⟨data, hdata, -⟩ := onePixel.buffer_taken
  exact ⟨data, hdata, (pumped_run { bayer := some "rggb", debayer := true, fps := none } _).2
    [onePixel, onePixel] (.noise rfl (.frame hdata (.frame hdata .nil)))⟩

end HeaderPump

end CamDriver
