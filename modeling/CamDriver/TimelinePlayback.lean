import CamDriver.Pacer
import CamDriver.Playback

/-!
# CamDriver.TimelinePlayback

A playback with a timeline zero, from boot to the end of a cycle: the boot hold
and its release, the lead-in before the first frame, and pauses at any instant,
against the clock.  Requests and the statements of the feeder, `_new_stamp`
between `take_preroll` and `note_frame`, come in any order.

Statements take no time, nor does the reader: the clock moves on only while the
feeder sleeps towards a frame or is held, or after the end.  Each frame that
counts as progress is recorded with what the timeline's law is about; no step
reads these records.
-/

namespace CamDriver

/-! ## The timeline -/

/-- One cycle of a source with a timeline zero: the timestamps of its frames in the
window, shifted as they are delivered. -/
structure TimedCycle where
  zeroNs : Int
  stampsNs : List Int
  speed : ℚ
  durationNs : Option Int
  speed_pos : 0 < speed
  increases : stampsNs.Pairwise (· < ·)
  zero_le : ∀ ts ∈ stampsNs, zeroNs ≤ ts
  /-- no frame lies behind the end of the timeline -/
  le_duration : ∀ duration ∈ durationNs, ∀ ts ∈ stampsNs, ts - zeroNs ≤ duration

/-- When a frame is to be delivered: its place on the timeline after the release, and
as much later as the playback was paused. -/
def TimedCycle.dueAt (c : TimedCycle) (releasedNs pausedNs tsNs : Int) : ℚ :=
  releasedNs + (tsNs - c.zeroNs) / c.speed + pausedNs

/-- How a playback comes up: playing, or held paused, with a start gate or without.
A gate in the past releases it at once, before or after the zero is known. -/
inductive Boot where
  | playing
  | held (gateArmed : Bool)
  | gatePast (zeroKnown : Bool)
deriving DecidableEq, Repr

/-- `PlaybackState.__init__`. -/
def Boot.playback : Boot → PlaybackState
  | .playing => .boot false false false
  | .held gateArmed => .boot true false gateArmed
  | .gatePast _ => { PlaybackState.boot true false false with state := .playing }

/-- The pacer of a source that comes up at `startNs`. -/
def Boot.pacer (c : TimedCycle) (startNs : Int) : Boot → Pacer ℚ
  | .gatePast true => (Pacer.start c.speed (some c.zeroNs)).anchorNow startNs
  | _ => .start c.speed (some c.zeroNs)

/-- A frame that counts as playback progress, with the instant it was noted at, the
release, the time paused since, and how often the playback was resumed since. -/
structure Noted where
  tsNs : Int
  atNs : Int
  releasedNs : Int
  pausedNs : Int
  resumes : Nat
deriving DecidableEq, Repr

/-- The law: a frame is noted when it is due, up to the part of a nanosecond that
`int` drops at each baseline of the pacer. -/
def Noted.OnTimeline (c : TimedCycle) (n : Noted) : Prop :=
  n.atNs ≤ c.dueAt n.releasedNs n.pausedNs n.tsNs ∧
    c.dueAt n.releasedNs n.pausedNs n.tsNs < n.atNs + (1 + n.resumes)

instance (c : TimedCycle) (n : Noted) : Decidable (n.OnTimeline c) :=
  inferInstanceAs (Decidable (_ ∧ _))

/-! ## The machine -/

/-- Where the feeder is in `_new_stamp`. -/
inductive StampPc where
  | idle
  /-- before `take_preroll` -/
  | entered (tsNs : Int)
  | holding (tsNs : Int)
  | pacing (tsNs : Int)
  | sleeping (tsNs wakeAt : Int)
  | holdingAgain (tsNs : Int)
  /-- before `note_frame` -/
  | noting (tsNs : Int)
deriving DecidableEq, Repr

/-- The frame in hand. -/
def StampPc.inHand : StampPc → List Int
  | .idle => []
  | .entered ts | .holding ts | .pacing ts | .sleeping ts _ | .holdingAgain ts | .noting ts => [ts]

/-- The frame in hand has passed the first look at the hold and is still to be noted. -/
def StampPc.paced : StampPc → Bool
  | .idle | .entered _ | .holding _ => false
  | .pacing _ | .sleeping _ _ | .holdingAgain _ | .noting _ => true

/-- The playback and its pacer, its feeder with the frames still to come, and the
clock.  `releasedNs` is the release, or now as long as it is to come. -/
structure TimelinePlayback where
  playback : PlaybackState
  pacer : Pacer ℚ
  frames : Nat
  positionNs : Int
  cycleBaseNs : Option Int
  pc : StampPc
  rest : List Int
  clock : Int
  released : Bool
  releasedNs : Int
  pausedNs : Int
  resumes : Nat
  noted : List Noted
deriving DecidableEq, Repr

/-- A statement of the feeder, a request, the timer of the start gate, or the passing
of time. -/
inductive TimedStep where
  | feed | pause | resume | gate | gateResume
  | tick (ns : Nat)
deriving DecidableEq, Repr

namespace TimelinePlayback

/-- A source that has just been started. -/
def init (c : TimedCycle) (boot : Boot) (startNs : Int) : TimelinePlayback :=
  { playback := boot.playback
    pacer := boot.pacer c startNs
    frames := 0, positionNs := 0, cycleBaseNs := none, pc := .idle, rest := c.stampsNs
    clock := startNs, released := boot.playback.state = .playing, releasedNs := startNs
    pausedNs := 0, resumes := 0, noted := [] }

/-- `_timeline_position_ns`. -/
def timelinePositionNs (c : TimedCycle) (s : TimelinePlayback) : Int :=
  match s.playback.state, s.pacer.t0Src with
  | .playing, some t0 =>
    if 0 < s.pacer.speed then
      let base := s.cycleBaseNs.getD t0
      let wall : ℚ := (s.clock - s.pacer.t0Wall : Int) * s.pacer.speed
      let pos := max s.positionNs (truncate wall + (t0 - base))
      max 0 (match c.durationNs with
        | some duration => min pos duration
        | none => pos)
    else max 0 s.positionNs
  | _, _ => max 0 s.positionNs

/-- `note_frame`. -/
def noteFrame (s : TimelinePlayback) (tsNs : Int) (cycleBaseNs : Int) : TimelinePlayback :=
  { s with
    cycleBaseNs := some cycleBaseNs
    positionNs := max 0 (tsNs - cycleBaseNs)
    frames := s.frames + 1 }

/-- The next statement of the feeder; the end of the data ends the playback. -/
def feedStep (c : TimedCycle) (s : TimelinePlayback) : Option TimelinePlayback :=
  match s.pc with
  | .idle =>
    match s.rest with
    | ts :: rest => some { s with pc := .entered ts, rest := rest }
    | [] =>
      if s.playback.state = .finished then none
      else some { s with playback := s.playback.markFinished }
  | .entered ts =>
    -- the first frame of a boot hold is shown, and is no progress
    some { s with
      playback := s.playback.takePreroll
      pc := if s.playback.prerollPending then .idle else .holding ts }
  | .holding ts =>
    (s.playback.waitIfPaused false).map fun r => { s with playback := r.2, pc := .pacing ts }
  | .pacing ts =>
    let (pacer, wakeAt) := s.pacer.wait ts s.clock
    some { s with pacer := pacer, pc := .sleeping ts wakeAt }
  | .sleeping ts wakeAt => if wakeAt ≤ s.clock then some { s with pc := .holdingAgain ts } else none
  | .holdingAgain ts =>
    (s.playback.waitIfPaused false).map fun r => { s with playback := r.2, pc := .noting ts }
  | .noting ts =>
    some { s.noteFrame ts c.zeroNs with
      pc := .idle
      noted := s.noted ++
        [{ tsNs := ts, atNs := s.clock, releasedNs := s.releasedNs, pausedNs := s.pausedNs,
           resumes := s.resumes }] }

/-- The pacer of a resume: from the boot hold the timeline starts now at its zero. -/
def resumedPacer (s : TimelinePlayback) : Pacer ℚ :=
  if s.frames = 0 ∧ s.pacer.anchorSrcNs.isSome then
    (s.pacer.reset s.pacer.anchorSrcNs).anchorNow s.clock
  else s.pacer.rebase s.clock

/-- `request("resume")`, which leaves these flags. -/
def resume (s : TimelinePlayback) (playback : PlaybackState) : TimelinePlayback :=
  if s.playback.state = .paused then
    { s with
      playback := playback
      pacer := s.resumedPacer
      released := true
      resumes := if s.released then s.resumes + 1 else s.resumes }
  else { s with playback := playback }

/-- `ns` can pass: nothing happens before. -/
def CanPass (s : TimelinePlayback) (ns : Nat) : Prop :=
  match s.pc with
  | .sleeping _ wakeAt => s.clock + ns ≤ wakeAt
  | .holding _ | .holdingAgain _ => s.playback.waitIfPaused false = none
  | .idle => s.playback.state = .finished
  | _ => False

instance (s : TimelinePlayback) (ns : Nat) : Decidable (s.CanPass ns) :=
  match h : s.pc with
  | .sleeping _ wakeAt => decidable_of_iff (s.clock + ns ≤ wakeAt) (by simp [CanPass, h])
  | .holding _ | .holdingAgain _ =>
    decidable_of_iff (s.playback.waitIfPaused false = none) (by simp [CanPass, h])
  | .idle => decidable_of_iff (s.playback.state = .finished) (by simp [CanPass, h])
  | .entered _ | .pacing _ | .noting _ => isFalse (by simp [CanPass, h])

/-- Time passes. -/
def pass (s : TimelinePlayback) (ns : Nat) : TimelinePlayback :=
  { s with
    clock := s.clock + ns
    releasedNs := if s.released then s.releasedNs else s.releasedNs + ns
    pausedNs :=
      if s.released ∧ s.playback.state = .paused then s.pausedNs + ns else s.pausedNs }

/-- One step; `none` when it is not possible. -/
def step (c : TimedCycle) (s : TimelinePlayback) : TimedStep → Option TimelinePlayback
  | .feed => s.feedStep c
  | .pause => some { s with playback := s.playback.pause }
  | .resume => some (s.resume s.playback.resume)
  | .gate =>
    if s.playback.gateArmed then some { s with playback := s.playback.fireGate } else none
  | .gateResume =>
    if s.playback.gateFiring then some (s.resume s.playback.gateResume) else none
  | .tick ns => if s.CanPass ns then some (s.pass ns) else none

end TimelinePlayback

end CamDriver
