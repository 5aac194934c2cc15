import CamDriver.Pacer
import CamDriver.ReplayHold

/-!
# CamDriver.ReplayPace

The replay source against the clock: `Replay` with its pacer, the sleeps of its
streaming thread, and what moves the pacer's baseline: speed requests, resumes,
restarts, and the jump over a capped gap between two sessions.

Statements and callbacks take no time, nor does the reader: the clock moves on
only while a callback sleeps towards a frame or is held, or when there is nothing
to read and nothing to handle.
-/

namespace CamDriver

/-- A replay with the zero of its timeline, and the cap on the silence between
sessions (0: none). -/
structure PacedReplayConfig where
  replay : ReplayConfig
  epochNs : Int
  capNs : Int

/-- The source, its pacer, and the instant its sleep is over.  `frames` counts the
frames noted in the cycle, and `resetDone` is set between the pacer's reset by a
restart and that restart's next statement. -/
structure PacedReplay where
  replay : Replay
  pacer : Pacer ℚ
  frames : Nat
  resetDone : Bool
  clock : Int
  wakeAt : Option Int
  playedNs : Int
deriving DecidableEq, Repr

/-- A step of the threads, a speed request, or the passing of time. -/
inductive PacedReplayStep where
  | replay (step : ReplayStep)
  | setSpeed (speed : ℚ)
  | tick (ns : Nat)
deriving DecidableEq, Repr

namespace PacedReplay

/-- A source that has just been started. -/
def init (cfg : PacedReplayConfig) (playback : PlaybackState) (speed : ℚ) : PacedReplay :=
  { replay := .init cfg.replay playback
    pacer := .start speed (some (cfg.epochNs + cfg.replay.retimeOffset))
    frames := 0, resetDone := false, clock := 0, wakeAt := none, playedNs := 0 }

/-- The zero of the timeline in the stamps' own, shifted domain. -/
def zero (cfg : PacedReplayConfig) (s : PacedReplay) : Int := cfg.epochNs + s.replay.offset

/-! ## Time -/

/-- The streaming thread is held in `wait_if_paused`, or the reader has nothing. -/
def Waits (s : PacedReplay) : Prop :=
  match s.replay.stream with
  | .holding _ _ | .holdingAgain _ _ => s.replay.playback.waitIfPaused s.replay.stopEvt = none
  | .outside => s.replay.reader.ended = true ∨ s.replay.reader.paused = true
  | _ => False

/-- The main loop has nothing to do, or waits for the streaming thread. -/
def MainWaits (cfg : PacedReplayConfig) (s : PacedReplay) : Prop :=
  s.replay.mainStep cfg.replay = none ∧
    (s.replay.main = .idle → s.replay.bus = [] ∧ s.replay.idles = [])

/-- `ns` can pass: nothing happens before. -/
def CanPass (cfg : PacedReplayConfig) (s : PacedReplay) (ns : Nat) : Prop :=
  s.MainWaits cfg ∧
    match s.wakeAt with
    | some t => s.clock + ns ≤ t ∧ s.replay.stopEvt = false
    | none => s.Waits

instance (s : PacedReplay) : Decidable s.Waits :=
  match h : s.replay.stream with
  | .holding _ _ | .holdingAgain _ _ =>
    decidable_of_iff (s.replay.playback.waitIfPaused s.replay.stopEvt = none) (by simp [Waits, h])
  | .outside =>
    decidable_of_iff (s.replay.reader.ended = true ∨ s.replay.reader.paused = true)
      (by simp [Waits, h])
  | .entered _ | .indexed _ _ | .loaded _ _ _ | .counted _ _ | .excess _ | .failing _
  | .finishing _ _ | .marking _ _ _ | .idling _ _ _ | .lastRow _ | .excessOut _ _ | .shifted _ _
  | .pastEnd _ _ | .inWindow _ _ | .pacing _ _ | .stamped _ _ => isFalse (by simp [Waits, h])

instance (cfg : PacedReplayConfig) (s : PacedReplay) : Decidable (s.MainWaits cfg) :=
  inferInstanceAs (Decidable (_ ∧ (_ → _ ∧ _)))

instance (cfg : PacedReplayConfig) (s : PacedReplay) (ns : Nat) : Decidable (s.CanPass cfg ns) :=
  match h : s.wakeAt with
  | some t =>
    decidable_of_iff (s.MainWaits cfg ∧ s.clock + ns ≤ t ∧ s.replay.stopEvt = false)
      (by simp [CanPass, h])
  | none => decidable_of_iff (s.MainWaits cfg ∧ s.Waits) (by simp [CanPass, h])

/-- Time passes. -/
def pass (s : PacedReplay) (ns : Nat) : PacedReplay :=
  { s with
    clock := s.clock + ns
    playedNs := if s.replay.playback.state = .paused then s.playedNs else s.playedNs + ns }

/-! ## The threads -/

/-- A step of `Replay` in which the pacer has no part. -/
def plain (cfg : PacedReplayConfig) (s : PacedReplay) (a : ReplayStep) : Option PacedReplay :=
  (Replay.step cfg.replay s.replay a).map fun replay => { s with replay := replay }

/-- The frame counts as playback progress: its last look at the hold was no stop. -/
def notes (s : PacedReplay) : Nat :=
  match s.replay.playback.waitIfPaused s.replay.stopEvt with
  | some (.stop, _) | none => s.frames
  | some _ => s.frames + 1

/-- The next statement of the streaming thread. -/
def streamStep (cfg : PacedReplayConfig) (s : PacedReplay) : Option PacedReplay :=
  match s.replay.stream, s.wakeAt with
  | .pacing _ st, none =>
    let (pacer, wakeAt) := s.pacer.wait st.timestampNs s.clock
    some { s with pacer := pacer, wakeAt := some wakeAt }
  | .pacing _ _, some t =>
    if t ≤ s.clock ∨ s.replay.stopEvt then plain cfg { s with wakeAt := none } .stream else none
  | .holdingAgain _ _, _ => plain cfg { s with frames := s.notes } .stream
  | _, _ => plain cfg s .stream

/-- The next statement of the main loop: a restart clears the cycle's count, and
resets the pacer after it has taken the flag. -/
def mainStep (cfg : PacedReplayConfig) (s : PacedReplay) : Option PacedReplay :=
  match s.replay.main, s.resetDone with
  | .entered _, _ => plain cfg { s with frames := 0 } .main
  | .taken _, false => some { s with pacer := s.pacer.reset (some (s.zero cfg)), resetDone := true }
  | .taken _, true => plain cfg { s with resetDone := false } .main
  | _, _ => plain cfg s .main

/-- `request("resume")`: from the boot hold, or from the start of a cycle, the
timeline starts now at its zero. -/
def resume (s : PacedReplay) : PacedReplay :=
  if s.replay.playback.state ≠ .paused then s
  else if s.frames = 0 ∧ s.pacer.anchorSrcNs.isSome then
    { s with pacer := (s.pacer.reset s.pacer.anchorSrcNs).anchorNow s.clock }
  else { s with pacer := s.pacer.rebase s.clock }

/-- A capped gap before session `next` leaves `cap` of data time to its first frame. -/
def skipGap (cfg : PacedReplayConfig) (s : PacedReplay) (next : Nat) : PacedReplay :=
  match (cfg.replay.csvStamps next).head?, (cfg.replay.csvStamps s.replay.sessionIdx).getLast? with
  | some first, some last =>
    if 0 < cfg.capNs ∧ cfg.capNs < first.timestampNs - last.timestampNs then
      { s with pacer := s.pacer.reset (some (first.timestampNs + s.replay.offset - cfg.capNs)) }
    else s
  | _, _ => s

/-- A message off the bus. -/
def dispatch (cfg : PacedReplayConfig) (s : PacedReplay) : Option PacedReplay :=
  match plain cfg s .dispatch with
  | some s' =>
    match s'.replay.main with
    | .halting next false => plain cfg (s.skipGap cfg next) .dispatch
    | _ => some s'
  | none => none

/-- `request("set_speed")`; the gate is disarmed as by any request. -/
def setSpeed (s : PacedReplay) (speed : ℚ) : PacedReplay :=
  let playback := { s.replay.playback with gateArmed := false }
  if s.replay.playback.state = .finished ∨ speed < 0 ∨ speed = s.pacer.speed then
    { s with replay := { s.replay with playback := playback } }
  else { s with
    replay := { s.replay with playback := playback }
    pacer := s.pacer.setSpeed speed s.clock }

/-- One step; `none` when it is not possible. -/
def step (cfg : PacedReplayConfig) (s : PacedReplay) : PacedReplayStep → Option PacedReplay
  | .tick ns => if s.CanPass cfg ns then some (s.pass ns) else none
  | .setSpeed speed => if s.replay.main = .idle then some (s.setSpeed speed) else none
  | .replay .stream => s.streamStep cfg
  | .replay .main => s.mainStep cfg
  | .replay .resume => plain cfg s.resume .resume
  | .replay .gateResume => plain cfg s.resume .gateResume
  | .replay .dispatch => s.dispatch cfg
  | .replay a => plain cfg s a

/-! ## The source without a clock -/

theorem plain_eq_some {cfg : PacedReplayConfig} {s s' : PacedReplay} {a : ReplayStep}
    (h : plain cfg s a = some s') :
    ∃ replay, Replay.step cfg.replay s.replay a = some replay ∧
      s' = { s with replay := replay } := by
  obtain ⟨replay, hreplay, rfl⟩ := Option.map_eq_some_iff.mp h
  exact ⟨replay, hreplay, rfl⟩

@[simp] theorem replay_resume (s : PacedReplay) : s.resume.replay = s.replay := by
  unfold resume
  split
  · rfl
  · split <;> rfl

theorem replay_skipGap (cfg : PacedReplayConfig) (s : PacedReplay) (next : Nat) :
    (s.skipGap cfg next).replay = s.replay := by
  unfold skipGap
  split
  · split <;> rfl
  · rfl

/-- A speed request touches the start gate, as any request does. -/
theorem replay_setSpeed (cfg : PacedReplayConfig) {s : PacedReplay} (h : s.replay.main = .idle)
    (speed : ℚ) :
    Replay.step cfg.replay s.replay (.setLoop s.replay.playback.loop) =
      some (s.setSpeed speed).replay := by
  have hreplay : (s.setSpeed speed).replay =
      { s.replay with playback := { s.replay.playback with gateArmed := false } } := by
    unfold setSpeed
    split <;> rfl
  rw [hreplay]
  simp [Replay.step, Replay.whenIdle, h, PlaybackState.setLoop]

/-- A step against the clock is a step of the source, or none. -/
theorem replay_step {cfg : PacedReplayConfig} {s s' : PacedReplay} {a : PacedReplayStep}
    (h : step cfg s a = some s') :
    s'.replay = s.replay ∨ ∃ b, Replay.step cfg.replay s.replay b = some s'.replay := by
  have hplain : ∀ {t : PacedReplay} {b : ReplayStep}, plain cfg t b = some s' →
      t.replay = s.replay → ∃ b, Replay.step cfg.replay s.replay b = some s'.replay := by
    intro t b hb ht
    obtain ⟨replay, hreplay, rfl⟩ := plain_eq_some hb
    exact ⟨b, ht ▸ hreplay⟩
  cases a with
  | tick ns =>
      simp only [step] at h
      split at h
      · exact .inl (Option.some.inj h ▸ rfl)
      · cases h
  | setSpeed speed =>
      simp only [step] at h
      split at h
      · next hidle => exact .inr ⟨_, Option.some.inj h ▸ replay_setSpeed cfg hidle speed⟩
      · cases h
  | replay a =>
      cases a with
      | stream =>
          simp only [step, streamStep] at h
          split at h
          · exact .inl (Option.some.inj h ▸ rfl)
          · split at h
            · exact .inr (hplain h rfl)
            · cases h
          · exact .inr (hplain h rfl)
          · exact .inr (hplain h rfl)
      | main =>
          simp only [step, mainStep] at h
          split at h
          · exact .inr (hplain h rfl)
          · exact .inl (Option.some.inj h ▸ rfl)
          · exact .inr (hplain h rfl)
          · exact .inr (hplain h rfl)
      | dispatch =>
          simp only [step, dispatch] at h
          split at h
          · next t ht =>
              split at h
              · exact .inr (hplain h (replay_skipGap cfg s _))
              · obtain rfl := Option.some.inj h
                exact .inr (hplain ht rfl)
          · cases h
      | resume | gateResume => exact .inr (hplain h (replay_resume s))
      | newSample | postEos | pause | setLoop loop | requestRestart | seekFails | quiesce
      | gate => exact .inr (hplain h rfl)

/-- **The clock adds no behaviour**: what the paced source reaches, the source does. -/
theorem reachable_replay {cfg : PacedReplayConfig} {playback : PlaybackState} {speed : ℚ}
    {s : PacedReplay} (h : Machine.Reachable (step cfg) (init cfg playback speed) s) :
    Machine.Reachable (Replay.step cfg.replay) (.init cfg.replay playback) s.replay := by
  refine h.inv (I := fun s =>
      Machine.Reachable (Replay.step cfg.replay) (.init cfg.replay playback) s.replay)
    (fun t a t' ht hstep => ?_) (.refl _)
  rcases replay_step hstep with hsame | ⟨b, hb⟩
  · exact hsame ▸ ht
  · exact ht.trans (.head hb (.refl _))

end PacedReplay

end CamDriver
