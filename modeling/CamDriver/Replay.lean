import CamDriver.Lib.Machine
import CamDriver.Playback

/-!
# CamDriver.Replay

`ReplaySource` as a machine: the main loop (playback requests, the bus, idle
callbacks) and the streaming thread that runs the frame callbacks.

Each read or write of a field that the other thread also uses is a step of its
own.  The reader is GStreamer's: it delivers the frames of a session in order,
each in one callback, and posts EOS when none is left.  A flush seek, and a
transition to NULL, returns once no callback is running; frames then start
again at frame 0.

Frames carry the cycle, session and ordinal they were read for, and the log
says what was done for which of them.  No step reads either.
-/

namespace CamDriver

/-! ## The recording -/

/-- The sessions of a run, as their CSV rows, and how they are played. -/
structure ReplayConfig where
  sessionStamps : List (List FrameStamp)
  fromNs : Option Int
  toNs : Option Int
  retimeOffset : Int
  sessions_ne : sessionStamps ≠ []
  rows_ne : ∀ rows ∈ sessionStamps, rows ≠ []

namespace ReplayConfig

variable (cfg : ReplayConfig)

/-- The rows of a session (`_csv_stamps`). -/
def csvStamps (session : Nat) : List FrameStamp := cfg.sessionStamps.getD session []

/-- The timestamps of all sessions. -/
def allTs : List Int := cfg.sessionStamps.flatten.map FrameStamp.timestampNs

/-- `_span_ns`: the cycle length, one median interval past the last frame. -/
def spanNs : Int :=
  cfg.allTs.getLastD 0 - cfg.allTs.headD 0 +
    medianIntervalNs ((cfg.csvStamps 0).map FrameStamp.timestampNs)

/-- The shift of a cycle's stamps. -/
def offsetOf (cycle : Nat) : Int := cfg.retimeOffset + cycle * cfg.spanNs

/-- `_first_idx`: the first session that reaches into the window. -/
def firstIdx : Nat :=
  match cfg.fromNs with
  | none => 0
  | some fromNs =>
    (cfg.sessionStamps.findIdx? fun rows =>
      rows.getLast?.any fun last => fromNs ≤ last.timestampNs).getD 0

theorem firstIdx_lt (cfg : ReplayConfig) : cfg.firstIdx < cfg.sessionStamps.length := by
  have hpos : 0 < cfg.sessionStamps.length := List.length_pos_iff.mpr cfg.sessions_ne
  unfold firstIdx
  split
  · exact hpos
  · next fromNs _ =>
      generalize hfind : cfg.sessionStamps.findIdx? _ = found
      cases found with
      | none => exact hpos
      | some i => exact (List.findIdx?_eq_some_iff_getElem.mp hfind).1

end ReplayConfig

/-! ## The state -/

/-- A frame of the recording, as it is read in a cycle. -/
structure ReplayFrame where
  cycle : Nat
  session : Nat
  ordinal : Nat
deriving DecidableEq, Repr

/-- Where the streaming thread is. -/
inductive StreamPc where
  | outside
  /-- `_new_stamp`: `self._idx` is not read -/
  | entered (f : ReplayFrame)
  | indexed (f : ReplayFrame) (idx : Nat)
  /-- `self._idx += 1`, between its read and its write -/
  | loaded (f : ReplayFrame) (idx old : Nat)
  | counted (f : ReplayFrame) (idx : Nat)
  /-- the frame has no row -/
  | excess (f : ReplayFrame)
  | failing (f : ReplayFrame)
  /-- before `_finish`; at a window end the stamp is returned after it -/
  | finishing (f : ReplayFrame) (windowEnd : Option FrameStamp)
  | marking (f : ReplayFrame) (gen : Nat) (windowEnd : Option FrameStamp)
  | idling (f : ReplayFrame) (gen : Nat) (windowEnd : Option FrameStamp)
  /-- the callback contract still requires a stamp -/
  | lastRow (f : ReplayFrame)
  | excessOut (f : ReplayFrame) (st : FrameStamp)
  | shifted (f : ReplayFrame) (st : FrameStamp)
  | pastEnd (f : ReplayFrame) (st : FrameStamp)
  /-- inside the window, before `take_preroll` -/
  | inWindow (f : ReplayFrame) (st : FrameStamp)
  /-- the first `wait_if_paused` -/
  | holding (f : ReplayFrame) (st : FrameStamp)
  | pacing (f : ReplayFrame) (st : FrameStamp)
  /-- the second `wait_if_paused` -/
  | holdingAgain (f : ReplayFrame) (st : FrameStamp)
  /-- `_new_stamp` has returned -/
  | stamped (f : ReplayFrame) (st : FrameStamp)
deriving DecidableEq, Repr

/-- A call of `_restart`. -/
structure RestartCall where
  /-- the loop wrap, not an operator -/
  loop : Bool
  wasFinished : Bool
deriving DecidableEq, Repr

/-- Where the main loop is. -/
inductive LoopPc where
  | idle
  /-- `request("restart")` has set the flag -/
  | requested
  | entered (r : RestartCall)
  /-- the cycle and its offset have moved on -/
  | begun (r : RestartCall)
  /-- after `take_restart` -/
  | taken (r : RestartCall)
  /-- after `self._finished = False` -/
  | unfinished (r : RestartCall)
  /-- after `self._failed = False` -/
  | ready (r : RestartCall)
  /-- `self._idx = 0`, and the flush seek has not returned -/
  | seeking (r : RestartCall)
  /-- `_rebuild`, for a restart or for the next session -/
  | halting (session : Nat) (restart : Bool)
  /-- the transition to NULL has not returned -/
  | nulling (session : Nat) (restart : Bool)
deriving DecidableEq, Repr

/-- GStreamer's reader: what it delivers next. -/
structure Reader where
  gen : Nat
  cycle : Nat
  session : Nat
  pos : Nat
  ended : Bool
  paused : Bool
deriving DecidableEq, Repr

/-- An EOS message on the bus. -/
structure EosMessage where
  gen : Nat
  cycle : Nat
deriving DecidableEq, Repr

/-- What happened, for which cycle, and in which. -/
inductive ReplayEvent where
  | stamped (f : ReplayFrame) (st : FrameStamp)
  | delivered (f : ReplayFrame) (st : FrameStamp)
  | finished (cycle now : Nat)
  | failed (cycle now : Nat)
  /-- on to the next session -/
  | moved (cycle now : Nat)
deriving DecidableEq, Repr

/-- `ReplaySource` and its reader. -/
structure Replay where
  cycle : Nat
  offset : Int
  idx : Nat
  sessionIdx : Nat
  gen : Nat
  finished : Bool
  failed : Bool
  stopEvt : Bool
  playback : PlaybackState
  reader : Reader
  bus : List EosMessage
  idles : List Nat
  stream : StreamPc
  main : LoopPc
  log : List ReplayEvent
deriving DecidableEq, Repr

/-- A source that has just been started. -/
def Replay.init (cfg : ReplayConfig) (playback : PlaybackState) : Replay :=
  { cycle := 0, offset := cfg.retimeOffset, idx := 0, sessionIdx := cfg.firstIdx, gen := 1,
    finished := false, failed := false, stopEvt := false, playback := playback,
    reader := { gen := 1, cycle := 0, session := cfg.firstIdx, pos := 0, ended := false,
                paused := false },
    bus := [], idles := [], stream := .outside, main := .idle, log := [] }

/-! ## The streaming thread -/

namespace Replay

/-- `_deliverable`. -/
def deliverable (cfg : ReplayConfig) (s : Replay) (st : FrameStamp) : Bool :=
  let raw := st.timestampNs - s.offset
  !s.failed && !s.stopEvt && cfg.fromNs.all (· ≤ raw) && cfg.toNs.all (raw < ·)

/-- The consumer's callback, or not. -/
def deliver (cfg : ReplayConfig) (s : Replay) (f : ReplayFrame) (st : FrameStamp) : Replay :=
  { s with
    stream := .outside
    log := if s.deliverable cfg st then s.log ++ [.delivered f st] else s.log }

/-- The next statement of the streaming thread; `none` while it is held. -/
def streamStep (cfg : ReplayConfig) (s : Replay) : Option Replay :=
  match s.stream with
  | .outside => none
  | .entered f => some { s with stream := .indexed f s.idx }
  | .indexed f idx => some { s with stream := .loaded f idx s.idx }
  | .loaded f idx old => some { s with idx := old + 1, stream := .counted f idx }
  | .counted f idx =>
    match (cfg.csvStamps s.sessionIdx)[idx]? with
    | some row =>
      let st := shiftStamp row s.offset
      some { s with stream := .shifted f st, log := s.log ++ [.stamped f st] }
    | none => some { s with stream := .excess f }
  | .excess f => some { s with stream := if s.failed then .lastRow f else .failing f }
  | .failing f =>
    some { s with failed := true, stream := .finishing f none,
                  log := s.log ++ [.failed f.cycle s.cycle] }
  | .finishing f windowEnd =>
    some { s with finished := true, stream := .marking f s.gen windowEnd,
                  log := s.log ++ [.finished f.cycle s.cycle] }
  | .marking f gen windowEnd =>
    some { s with playback := s.playback.markFinished, stream := .idling f gen windowEnd }
  | .idling f gen windowEnd =>
    some { s with
      idles := s.idles ++ [gen]
      stream := match windowEnd with
        | some st => .stamped f st
        | none => .lastRow f }
  | .lastRow f =>
    match (cfg.csvStamps s.sessionIdx).getLast? with
    | some row => some { s with stream := .excessOut f (shiftStamp row s.offset) }
    | none => none
  | .excessOut f st => some (s.deliver cfg f st)
  | .shifted f st =>
    let raw := st.timestampNs - s.offset
    some { s with stream :=
      if cfg.fromNs.any (raw < ·) then .stamped f st
      else if cfg.toNs.any (· ≤ raw) then .pastEnd f st
      else .inWindow f st }
  | .pastEnd f st =>
    some { s with stream := if s.finished then .stamped f st else .finishing f (some st) }
  | .inWindow f st =>
    some { s with
      playback := s.playback.takePreroll
      stream := if s.playback.prerollPending then .stamped f st else .holding f st }
  | .holding f st =>
    (s.playback.waitIfPaused s.stopEvt).map fun r =>
      { s with playback := r.2, stream := if r.1 = .stop then .stamped f st else .pacing f st }
  | .pacing f st => some { s with stream := .holdingAgain f st }
  | .holdingAgain f st =>
    (s.playback.waitIfPaused s.stopEvt).map fun r =>
      { s with playback := r.2, stream := .stamped f st }
  | .stamped f st => some (s.deliver cfg f st)

/-! ## The main loop -/

/-- The restart can seek: one session, or the first one is the current one. -/
def single (cfg : ReplayConfig) (s : Replay) : Prop :=
  cfg.sessionStamps.length = 1 ∨ s.sessionIdx = cfg.firstIdx

instance (cfg : ReplayConfig) (s : Replay) : Decidable (s.single cfg) :=
  inferInstanceAs (Decidable (_ ∨ _))

/-- `_finish` from the main loop, on behalf of a reader's cycle. -/
def finish (s : Replay) (m : EosMessage) : Replay :=
  { s with
    finished := true
    playback := s.playback.markFinished
    idles := s.idles ++ [s.gen]
    log := s.log ++ [.finished m.cycle s.cycle] }

/-- The session after the current one, if the window reaches into it. -/
def nextSession (cfg : ReplayConfig) (s : Replay) : Option Nat :=
  match cfg.sessionStamps[s.sessionIdx + 1]? with
  | some (first :: _) =>
    if cfg.toNs.all (first.timestampNs < ·) then some (s.sessionIdx + 1) else none
  | _ => none

/-- `_on_eos`. -/
def onEos (cfg : ReplayConfig) (s : Replay) (m : EosMessage) : Replay :=
  if m.gen ≠ s.gen ∨ s.finished then s
  else if s.idx ≠ (cfg.csvStamps s.sessionIdx).length then
    finish { s with failed := true, log := s.log ++ [.failed m.cycle s.cycle] } m
  else match s.nextSession cfg with
    | some next => { s with main := .halting next false, log := s.log ++ [.moved m.cycle s.cycle] }
    | none =>
      if ¬ s.playback.loop then s.finish m
      else { s with main := .entered { loop := true, wasFinished := s.finished } }

/-- The next statement of a request, of `_restart`, or of `_rebuild`. -/
def mainStep (cfg : ReplayConfig) (s : Replay) : Option Replay :=
  match s.main with
  | .idle => none
  | .requested => some { s with main := .entered { loop := false, wasFinished := s.finished } }
  | .entered r =>
    some { s with cycle := s.cycle + 1, offset := cfg.offsetOf (s.cycle + 1), main := .begun r }
  | .begun r => some { s with playback := s.playback.takeRestart, main := .taken r }
  | .taken r => some { s with finished := false, main := .unfinished r }
  | .unfinished r => some { s with failed := false, main := .ready r }
  | .ready r =>
    if s.single cfg ∧ ¬ r.wasFinished then some { s with idx := 0, main := .seeking r }
    else some { s with main := .halting cfg.firstIdx true }
  | .seeking _ =>
    match s.stream with
    | .outside =>
      some { s with
        reader := { s.reader with cycle := s.cycle, session := s.sessionIdx, pos := 0,
                                  ended := false }
        main := .idle }
    | _ => none
  | .halting session restart =>
    some { s with gen := s.gen + 1, stopEvt := true, main := .nulling session restart }
  | .nulling session _ =>
    match s.stream with
    | .outside =>
      some { s with
        stopEvt := false
        sessionIdx := session
        idx := 0
        gen := s.gen + 1
        reader := { gen := s.gen + 1, cycle := s.cycle, session := session, pos := 0,
                    ended := false, paused := false }
        main := .idle }
    | _ => none

end Replay

/-- One step of the main loop, the streaming thread or the reader. -/
inductive ReplayStep where
  /-- the reader delivers its next frame -/
  | newSample
  | stream
  /-- the reader has delivered its last frame -/
  | postEos
  | pause
  | resume
  | setLoop (loop : Bool)
  | requestRestart
  | main
  /-- the flush seek returns `False` -/
  | seekFails
  /-- the main loop takes a message off the bus -/
  | dispatch
  /-- `_quiesce` -/
  | quiesce
  /-- the timer of the start gate -/
  | gate
  | gateResume
deriving DecidableEq, Repr

namespace Replay

/-- What the main loop starts only when it is idle. -/
def whenIdle (s : Replay) (s' : Replay) : Option Replay :=
  if s.main = .idle then some s' else none

/-- One step; `none` when it is not possible. -/
def step (cfg : ReplayConfig) (s : Replay) : ReplayStep → Option Replay
  | .newSample =>
    if s.stream = .outside ∧ ¬ s.reader.ended ∧ ¬ s.reader.paused then
      some { s with
        stream := .entered { cycle := s.reader.cycle, session := s.reader.session,
                             ordinal := s.reader.pos }
        reader := { s.reader with pos := s.reader.pos + 1 } }
    else none
  | .stream => s.streamStep cfg
  | .postEos =>
    if s.stream = .outside ∧ ¬ s.reader.ended ∧ ¬ s.reader.paused then
      some { s with
        reader := { s.reader with ended := true }
        bus := s.bus ++ [{ gen := s.reader.gen, cycle := s.reader.cycle }] }
    else none
  | .pause => s.whenIdle { s with playback := s.playback.pause }
  | .resume => s.whenIdle { s with playback := s.playback.resume }
  | .setLoop loop => s.whenIdle { s with playback := s.playback.setLoop loop }
  | .requestRestart =>
    s.whenIdle { s with playback := s.playback.requestRestart, main := .requested }
  | .main => s.mainStep cfg
  | .seekFails =>
    match s.main, s.stream with
    | .seeking _, .outside => some { s with main := .halting cfg.firstIdx true }
    | _, _ => none
  | .dispatch =>
    match s.bus with
    | m :: bus => s.whenIdle (onEos cfg { s with bus := bus } m)
    | [] => none
  | .quiesce =>
    match s.idles with
    | gen :: idles =>
      let paused := gen = s.gen ∧ s.finished ∧ ¬ s.stopEvt
      s.whenIdle { s with
        idles := idles
        reader := { s.reader with paused := s.reader.paused || paused } }
    | [] => none
  | .gate =>
    if s.playback.gateArmed then some { s with playback := s.playback.fireGate } else none
  | .gateResume =>
    if s.playback.gateFiring then some { s with playback := s.playback.gateResume } else none

theorem whenIdle_eq_some {s s' t : Replay} (h : s.whenIdle t = some s') :
    s.main = .idle ∧ t = s' := by
  unfold whenIdle at h
  split at h
  · next hpc => exact ⟨hpc, Option.some.inj h⟩
  · cases h

end Replay

end CamDriver
