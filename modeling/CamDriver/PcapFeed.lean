import CamDriver.Playback
import CamDriver.Uvc.Timing

/-!
# CamDriver.PcapFeed

`PcapSource._feed_loop` as a machine: the feeder thread, which reads the capture
pass by pass and delivers its frames, and the main loop's playback requests.

The feeder looks at the playback and at the two end flags at points of their
own, and each of these is a step.  A pass that ends shifts the next one by the
cycle length `span`, which is measured once, from as much of the capture as the
first pass has read.  The state remembers how many frames that were; no step
reads it.
-/

namespace CamDriver

/-! ## The source -/

/-- A pcap source: the pinned endpoint, the extractor's configuration, what
`iter_packets` yields for the file, and `retime: wall`. -/
structure PcapConfig where
  pin : Uvc.Endpoint
  uvc : Uvc.UvcConfig
  capture : Yielded
  wall : Bool

/-- The frames of one pass over the capture. -/
def PcapConfig.frames (cfg : PcapConfig) : List Uvc.UvcFrame :=
  Uvc.extractFrames cfg.pin cfg.uvc cfg.capture.1

/-- The stamp of frame `idx` of a pass. -/
def pcapStamp (idx : Nat) (ts : Int) : FrameStamp :=
  { frameId := idx, timestampNs := ts, source := .system, systemNs := ts, cameraNs := ts,
    chunkNs := none }

/-- The cycle length by what an extractor has read: from the first to the last
completion, and a mean frame interval. -/
def measureSpan (x : Uvc.Extractor) : Int :=
  let extent := x.walk.lastTs.getD 0 - x.walk.firstTs.getD 0
  let framesOk : Int := x.asm.stats.framesOk
  let interval := if 1 < framesOk then extent / max 1 (framesOk - 1) else defaultIntervalNs
  extent + interval

/-- Where the feeder is. -/
inductive FeedPc where
  /-- the `while` -/
  | starting
  /-- the `for` asks the extractor for a frame -/
  | pulling
  | stamping (idx : Nat) (frame : Uvc.UvcFrame)
  /-- before `take_preroll` -/
  | stamped (st : FrameStamp) (bytes : List UInt8)
  /-- the first `wait_if_paused` -/
  | holding (st : FrameStamp) (bytes : List UInt8)
  /-- before `take_restart` -/
  | polling (st : FrameStamp) (bytes : List UInt8)
  | pacing (st : FrameStamp) (bytes : List UInt8)
  /-- the second `wait_if_paused` -/
  | holdingAgain (st : FrameStamp) (bytes : List UInt8)
  | delivering (st : FrameStamp) (bytes : List UInt8)
  /-- the `for` is over -/
  | passed (restarted : Bool)
  /-- the `finally` -/
  | closing
  | done
deriving DecidableEq, Repr

/-- `PcapSource` and its feeder: the pass under way with its extractor, the
packets it has not read and the frames it has not yielded. -/
structure PcapFeed where
  cycle : Nat
  offset : Int
  span : Int
  retimeOffset : Int
  idx : Nat
  delivered : Nat
  failed : Bool
  stopEvt : Bool
  playback : PlaybackState
  ext : Uvc.Extractor
  rest : List Packet
  out : List Uvc.UvcFrame
  pc : FeedPc
  /-- the frames read when `span` was measured -/
  measured : Nat
  log : List (FrameStamp × List UInt8)

/-- A source that has just been started. -/
def PcapFeed.init (playback : PlaybackState) : PcapFeed :=
  { cycle := 0, offset := 0, span := 0, retimeOffset := 0, idx := 0, delivered := 0,
    failed := false, stopEvt := false, playback := playback, ext := .reset, rest := [], out := [],
    pc := .starting, measured := 0, log := [] }

namespace PcapFeed

/-! ## The feeder -/

/-- `st.last_ts_ns` is neither `None` nor zero, and no pass has measured the span. -/
def Measures (s : PcapFeed) : Prop := s.span = 0 ∧ s.ext.walk.lastTs.any (· ≠ 0) = true

instance (s : PcapFeed) : Decidable s.Measures := inferInstanceAs (Decidable (_ ∧ _))

/-- `if span == 0 and st.last_ts_ns`. -/
def measure (s : PcapFeed) : PcapFeed :=
  if s.Measures then
    { s with span := measureSpan s.ext, measured := s.ext.asm.stats.framesOk }
  else s

/-- The end of a pass. -/
def endPass (s : PcapFeed) (restarted : Bool) : PcapFeed :=
  if s.delivered = 0 ∧ ¬ restarted then { s with failed := true, pc := .closing }
  else if ¬ restarted ∧ ¬ s.playback.loop then { s with pc := .closing }
  else { s with cycle := s.cycle + 1, offset := (s.cycle + 1) * s.span, pc := .starting }

/-- The offset that `retime: wall` resolves with the first frame. -/
def retime (cfg : PcapConfig) (s : PcapFeed) (now ts : Int) : Int :=
  if s.retimeOffset = 0 ∧ s.cycle = 0 ∧ cfg.wall then now - ts else s.retimeOffset

/-- The next statement of the feeder, at wall time `now`; `none` while it is held
and after its end. -/
def feedStep (cfg : PcapConfig) (s : PcapFeed) (now : Int) : Option PcapFeed :=
  match s.pc with
  | .starting =>
    if s.stopEvt ∨ s.failed then some { s with pc := .closing }
    else some { s with
      pc := .pulling, ext := .reset, rest := cfg.capture.1, out := [], idx := 0, delivered := 0 }
  | .pulling =>
    match s.out, s.rest with
    | frame :: out, _ =>
      some { s with out := out, idx := s.idx + 1, pc := .stamping s.idx frame }
    | [], p :: rest =>
      let r := s.ext.step cfg.pin cfg.uvc p
      some { s with ext := r.1, out := r.2, rest := rest }
    | [], [] =>
      -- a broken file, or `_end_of_capture` without a frame
      if cfg.capture.2.isSome ∨ s.ext.asm.stats.framesOk = 0 then
        some { s with failed := true, pc := .closing }
      else some { s with pc := .passed false }
  | .stamping idx frame =>
    if s.stopEvt ∨ s.failed then some { s with pc := .closing }
    else
      let retimeOffset := s.retime cfg now frame.1
      some { s with
        retimeOffset := retimeOffset
        pc := .stamped (pcapStamp idx (frame.1 + (retimeOffset + s.offset))) frame.2 }
  | .stamped st bytes =>
    some { s with
      playback := s.playback.takePreroll
      pc := if s.playback.prerollPending then .delivering st bytes else .holding st bytes }
  | .holding st bytes =>
    (s.playback.waitIfPaused s.stopEvt).map fun r =>
      { s with playback := r.2, pc := match r.1 with
        | .stop => .closing
        | .restart => .passed true
        | .resume => .polling st bytes }
  | .polling st bytes =>
    some { s with
      playback := s.playback.takeRestart
      pc := if s.playback.restartPending then .passed true else .pacing st bytes }
  | .pacing st bytes =>
    some { s with pc := if s.stopEvt then .closing else .holdingAgain st bytes }
  | .holdingAgain st bytes =>
    (s.playback.waitIfPaused s.stopEvt).map fun r =>
      { s with playback := r.2, pc := match r.1 with
        | .stop => .closing
        | .restart => .passed true
        | .resume => .delivering st bytes }
  | .delivering st bytes =>
    some { s with log := s.log ++ [(st, bytes)], delivered := s.delivered + 1, pc := .pulling }
  | .passed restarted => some (s.measure.endPass restarted)
  | .closing => some { s with playback := s.playback.markFinished, pc := .done }
  | .done => none

end PcapFeed

/-! ## Steps -/

/-- One step of the feeder, or of what the main loop does meanwhile. -/
inductive FeedStep where
  | feed (now : Int)
  | pause
  | resume
  | setLoop (loop : Bool)
  | requestRestart
  | gate
  | gateResume
  /-- `_on_mini_error` -/
  | miniError
  | stop
deriving DecidableEq, Repr

/-- One step; `none` when it is not possible.  A finished pcap playback refuses a
restart. -/
def PcapFeed.step (cfg : PcapConfig) (s : PcapFeed) : FeedStep → Option PcapFeed
  | .feed now => s.feedStep cfg now
  | .pause => some { s with playback := s.playback.pause }
  | .resume => some { s with playback := s.playback.resume }
  | .setLoop loop => some { s with playback := s.playback.setLoop loop }
  | .requestRestart =>
    some { s with playback :=
      if s.playback.state = .finished then { s.playback with gateArmed := false }
      else s.playback.requestRestart }
  | .gate =>
    if s.playback.gateArmed then some { s with playback := s.playback.fireGate } else none
  | .gateResume =>
    if s.playback.gateFiring then some { s with playback := s.playback.gateResume } else none
  | .miniError => some { s with failed := true }
  | .stop => some { s with stopEvt := true }

end CamDriver
