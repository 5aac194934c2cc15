import CamDriver.Lib.Machine
import CamDriver.ReplayDuration
import CamDriver.TimelinePlayback
import Mathlib

/-!
# CamDriver.TimelineKept

The law of a playback with a timeline zero: frame `k` is noted `(ts_k - zero)/speed`
after the release, and as much later as the playback was paused.

It rests on the pauses taking effect between two frames.  A sleep towards a frame
goes on through a pause, and what of it had gone by is lost on the timeline: a
resume ties the last frame waited for to its own instant, and before the first
noted frame it starts the timeline again.  The position is the last noted frame's
as soon as the playback is paused, wherever the timeline had got to.
-/

namespace CamDriver

/-! ## Arithmetic of the timeline -/

namespace TimedCycle

variable (c : TimedCycle)

/-- How far `atNs` lies before the instant at which `tsNs` is due. -/
def slack (releasedNs pausedNs tsNs atNs : Int) : ℚ := c.dueAt releasedNs pausedNs tsNs - atNs

/-- Between two frames the clock loses to the timeline what `int` drops. -/
theorem slack_scaled {releasedNs pausedNs t0 atNs ts : Int} (h : t0 ≤ ts) :
    c.slack releasedNs pausedNs t0 atNs ≤
        c.slack releasedNs pausedNs ts (atNs + scaled c.speed (ts - t0)) ∧
      c.slack releasedNs pausedNs ts (atNs + scaled c.speed (ts - t0)) <
        c.slack releasedNs pausedNs t0 atNs + 1 := by
  have hfloor := scaled_eq_floor c.speed_pos (d := ts - t0) (by omega)
  have hle := Int.floor_le (((ts - t0 : Int) : ℚ) / c.speed)
  have hlt := Int.lt_floor_add_one (((ts - t0 : Int) : ℚ) / c.speed)
  rw [← hfloor] at hle hlt
  have hdiv : ((ts - t0 : Int) : ℚ) / c.speed =
      (ts - c.zeroNs) / c.speed - (t0 - c.zeroNs) / c.speed := by
    push_cast
    ring
  rw [hdiv] at hle hlt
  simp only [slack, dueAt, Int.cast_add]
  constructor <;> linarith

/-- Time that passes in a pause, or before the release, passes on the timeline too. -/
theorem slack_released (releasedNs pausedNs tsNs atNs ns : Int) :
    c.slack (releasedNs + ns) pausedNs tsNs (atNs + ns) =
      c.slack releasedNs pausedNs tsNs atNs := by
  simp only [slack, dueAt, Int.cast_add]
  ring

theorem slack_paused (releasedNs pausedNs tsNs atNs ns : Int) :
    c.slack releasedNs (pausedNs + ns) tsNs (atNs + ns) =
      c.slack releasedNs pausedNs tsNs atNs := by
  simp only [slack, dueAt, Int.cast_add]
  ring

/-- The stretch that the clock has gone over reaches no further on the timeline. -/
theorem truncate_scaled_le {t0 ts : Int} (h : t0 ≤ ts) :
    truncate ((scaled c.speed (ts - t0) : Int) * c.speed) ≤ ts - t0 := by
  have hnn := scaled_nonneg c.speed_pos (d := ts - t0) (by omega)
  have hle := Int.floor_le (((ts - t0 : Int) : ℚ) / c.speed)
  rw [← scaled_eq_floor c.speed_pos (d := ts - t0) (by omega), le_div_iff₀ c.speed_pos] at hle
  have hpos : (0 : ℚ) ≤ (scaled c.speed (ts - t0) : Int) * c.speed :=
    mul_nonneg (by exact_mod_cast hnn) c.speed_pos.le
  rw [truncate, if_pos hpos]
  exact Int.floor_le_iff.mpr (by push_cast at hle ⊢; linarith)

end TimedCycle

namespace TimelinePlayback

/-! ## The law -/

/-- Pauses take effect only while no frame is being paced. -/
def PausesBetween (s : TimelinePlayback) : TimedStep → Prop
  | .pause => s.playback.state = .playing → s.pc.paced = false
  | _ => True

instance (s : TimelinePlayback) (a : TimedStep) : Decidable (s.PausesBetween a) :=
  match a with
  | .pause => inferInstanceAs (Decidable (_ → _))
  | .feed | .resume | .gate | .gateResume | .tick _ => isTrue trivial

/-- This pause does not move the reported position back. -/
def PauseKeeps (c : TimedCycle) (s : TimelinePlayback) : TimedStep → Prop
  | .pause => ∀ s', step c s .pause = some s' → s.timelinePositionNs c ≤ s'.timelinePositionNs c
  | _ => True

/-- This resume does not move the reported position back. -/
def ResumeKeeps (c : TimedCycle) (s : TimelinePlayback) : TimedStep → Prop
  | .resume =>
    ∀ s', step c s .resume = some s' → s.timelinePositionNs c ≤ s'.timelinePositionNs c
  | .gateResume =>
    ∀ s', step c s .gateResume = some s' → s.timelinePositionNs c ≤ s'.timelinePositionNs c
  | _ => True

/-- The place of the last noted frame on the timeline. -/
def lastPositionNs (c : TimedCycle) (s : TimelinePlayback) : Int :=
  (s.noted.getLast?.map fun n => n.tsNs - c.zeroNs).getD 0

/-! ## What the counters say -/

/-- What holds in every run. -/
structure Counted (c : TimedCycle) (s : TimelinePlayback) : Prop where
  speed : s.pacer.speed = c.speed
  anchor : s.pacer.anchorSrcNs = some c.zeroNs
  restart : s.playback.restartPending = false
  stamps : ∃ before, c.stampsNs = before ++ (s.pc.inHand ++ s.rest) ∧
    ∀ n ∈ s.noted, n.tsNs ∈ before
  frames : s.frames = s.noted.length
  position : s.positionNs = s.lastPositionNs c
  base : s.cycleBaseNs = s.noted.getLast?.map fun _ => c.zeroNs
  finished : s.playback.state = .finished → s.pc = .idle ∧ s.rest = []

@[simp] theorem speed_resumedPacer (s : TimelinePlayback) :
    s.resumedPacer.speed = s.pacer.speed := by
  unfold resumedPacer
  split
  · exact Pacer.speed_anchorNow _ _
  · exact Pacer.speed_rebase _ _

@[simp] theorem anchorSrcNs_resumedPacer (s : TimelinePlayback) :
    s.resumedPacer.anchorSrcNs = s.pacer.anchorSrcNs := by
  unfold resumedPacer
  split
  · exact Pacer.anchorSrcNs_anchorNow _ _
  · exact Pacer.anchorSrcNs_rebase _ _

namespace Counted

variable {c : TimedCycle} {s : TimelinePlayback}

theorem init (c : TimedCycle) (boot : Boot) (startNs : Int) :
    Counted c (.init c boot startNs) where
  speed := by
    cases boot with
    | playing | held => rfl
    | gatePast known => cases known <;> rfl
  anchor := by
    cases boot with
    | playing | held => rfl
    | gatePast known => cases known <;> rfl
  restart := by cases boot <;> rfl
  stamps := ⟨[], rfl, fun n hn => by cases hn⟩
  frames := rfl
  position := rfl
  base := rfl
  finished h := by cases boot <;> cases h

/-- Other flags, in a state that ends nothing. -/
theorem flags (h : s.Counted c) {playback : PlaybackState}
    (hrestart : playback.restartPending = s.playback.restartPending)
    (hfinished : playback.state = .finished → s.playback.state = .finished) :
    Counted c { s with playback := playback } :=
  { h with restart := hrestart.trans h.restart, finished := fun hf => h.finished (hfinished hf) }

/-- The frame in hand lies on the timeline, behind every noted one. -/
theorem inHand (h : s.Counted c) {ts : Int} {rest : List Int}
    (hs : s.pc.inHand ++ s.rest = ts :: rest) :
    c.zeroNs ≤ ts ∧ ∀ n ∈ s.noted, n.tsNs < ts := by
  obtain ⟨before, hsplit, hnoted⟩ := h.stamps
  rw [hs] at hsplit
  refine ⟨c.zero_le ts (by simp [hsplit]), fun n hn => ?_⟩
  have hinc := hsplit ▸ c.increases
  exact (List.pairwise_append.mp hinc).2.2 n.tsNs (hnoted n hn) ts List.mem_cons_self

theorem lastPositionNs_nonneg (h : s.Counted c) : 0 ≤ s.lastPositionNs c := by
  obtain ⟨before, hsplit, hnoted⟩ := h.stamps
  unfold lastPositionNs
  cases hlast : s.noted.getLast? with
  | none => exact le_refl _
  | some n =>
      have hle := c.zero_le n.tsNs (by simp [hsplit, hnoted n (List.mem_of_getLast? hlast)])
      simpa using hle

theorem lastPositionNs_le (h : s.Counted c) (hnoted : s.noted ≠ []) {duration : Int}
    (hd : duration ∈ c.durationNs) : s.lastPositionNs c ≤ duration := by
  obtain ⟨before, hsplit, hmem⟩ := h.stamps
  have hlast := List.getLast_mem hnoted
  simpa [lastPositionNs, List.getLast?_eq_some_getLast hnoted] using
    c.le_duration duration hd (s.noted.getLast hnoted).tsNs (by simp [hsplit, hmem _ hlast])

/-- A held playback reports its last noted frame. -/
theorem position_of_not_playing (h : s.Counted c) (hstate : s.playback.state ≠ .playing) :
    s.timelinePositionNs c = s.lastPositionNs c := by
  have hmax : max 0 s.positionNs = s.lastPositionNs c := by
    rw [h.position, max_eq_right h.lastPositionNs_nonneg]
  unfold timelinePositionNs
  split
  · next hplaying _ => exact absurd hplaying hstate
  · exact hmax

/-- What is reported never falls behind the last noted frame. -/
theorem lastPositionNs_le_position (h : s.Counted c) :
    s.lastPositionNs c ≤ s.timelinePositionNs c := by
  have hmax : max 0 s.positionNs = s.lastPositionNs c := by
    rw [h.position, max_eq_right h.lastPositionNs_nonneg]
  unfold timelinePositionNs
  split
  · next t0 _ _ =>
      split
      · cases hnoted : s.noted with
        | nil =>
            have hzero : s.lastPositionNs c = 0 := by simp [lastPositionNs, hnoted]
            rw [hzero]
            exact le_max_left _ _
        | cons n rest =>
            have hle : ∀ duration ∈ c.durationNs, s.lastPositionNs c ≤ duration :=
              fun duration hd => h.lastPositionNs_le (by simp [hnoted]) hd
            rw [← h.position] at hle ⊢
            refine le_max_of_le_right ?_
            cases hd : c.durationNs with
            | none => exact le_max_left _ _
            | some duration => exact le_min (le_max_left _ _) (hle duration hd)
      · exact hmax.ge
  · exact hmax.ge

/-- The feeder moves on with the frame in hand. -/
theorem moved (h : s.Counted c) {pc : StampPc} (hhand : pc.inHand = s.pc.inHand)
    (hbusy : s.pc ≠ .idle) : Counted c { s with pc := pc } :=
  { h with
    stamps := hhand ▸ h.stamps
    finished := fun hf => absurd (h.finished hf).1 hbusy }

/-- A look at the hold that lets the frame in hand go on. -/
theorem looked (h : s.Counted c) {pc : StampPc} (hhand : pc.inHand = s.pc.inHand)
    (hbusy : s.pc ≠ .idle) {v : Verdict × PlaybackState}
    (hv : s.playback.waitIfPaused false = some v) :
    v.2 = s.playback ∧ s.playback.state = .playing ∧
      Counted c { s with playback := v.2, pc := pc } := by
  obtain ⟨hsame, hverdict⟩ := waitIfPaused_of_not_pending h.restart hv
  refine ⟨hsame, ?_, ?_⟩
  · cases hstate : s.playback.state with
    | playing => rfl
    | paused => simp [PlaybackState.waitIfPaused, hstate, h.restart] at hv
    | finished => exact absurd (h.finished hstate).1 hbusy
  · rw [hsame]
    exact h.moved hhand hbusy

/-- The frame in hand is noted. -/
theorem noteFrame (h : s.Counted c) {ts : Int} (hpc : s.pc = .noting ts) {n : Noted}
    (hn : n.tsNs = ts) :
    Counted c { s.noteFrame ts c.zeroNs with pc := .idle, noted := s.noted ++ [n] } := by
  obtain ⟨before, hsplit, hnoted⟩ := h.stamps
  have hhand : s.pc.inHand ++ s.rest = ts :: s.rest := by simp [hpc, StampPc.inHand]
  have hzero := (h.inHand hhand).1
  refine ⟨h.speed, h.anchor, h.restart, ⟨before ++ [ts], ?_, ?_⟩, ?_, ?_, ?_, fun hf => ?_⟩
  · simpa [hpc, StampPc.inHand, TimelinePlayback.noteFrame] using hsplit
  · intro m hm
    rcases List.mem_append.mp hm with hm | hm
    · exact List.mem_append_left _ (hnoted m hm)
    · simp [List.mem_singleton.mp hm, hn]
  · simp [TimelinePlayback.noteFrame, h.frames]
  · simp only [TimelinePlayback.noteFrame, lastPositionNs, List.getLast?_concat, Option.map_some,
      Option.getD_some, hn]
    omega
  · simp [TimelinePlayback.noteFrame]
  · exact absurd (h.finished hf).1 (by simp [hpc])

theorem feed (h : s.Counted c) {s' : TimelinePlayback} (hs : s.feedStep c = some s') :
    s'.Counted c := by
  cases hpc : s.pc with
  | idle =>
      simp only [feedStep, hpc] at hs
      split at hs
      · next ts rest hrest =>
          obtain rfl := Option.some.inj hs
          obtain ⟨before, hsplit, hnoted⟩ := h.stamps
          refine { h with
            stamps := ⟨before, ?_, hnoted⟩
            finished := fun hf => ?_ }
          · simpa [hpc, hrest, StampPc.inHand] using hsplit
          · exact absurd (h.finished hf).2 (by simp [hrest])
      · next hrest =>
          split at hs
          · cases hs
          · obtain rfl := Option.some.inj hs
            exact { h with
              restart := h.restart
              stamps := by simpa [hpc] using h.stamps
              finished := fun _ => ⟨rfl, hrest⟩ }
  | entered ts =>
      simp only [feedStep, hpc, Option.some.injEq] at hs
      subst hs
      cases hpre : s.playback.prerollPending with
      | true =>
          obtain ⟨before, hsplit, hnoted⟩ := h.stamps
          refine { h with
            restart := h.restart
            stamps := ⟨before ++ [ts], ?_, fun n hn => List.mem_append_left _ (hnoted n hn)⟩
            finished := fun hf => absurd (h.finished hf).1 (by simp [hpc]) }
          simpa [hpc, StampPc.inHand] using hsplit
      | false =>
          have hmoved : Counted c { s with pc := .holding ts } :=
            h.moved (by rw [hpc]; rfl) (by simp [hpc])
          exact hmoved.flags rfl id
  | holding ts =>
      simp only [feedStep, hpc, Option.map_eq_some_iff] at hs
      obtain ⟨v, hv, rfl⟩ := hs
      exact (h.looked (by rw [hpc]; rfl) (by simp [hpc]) hv).2.2
  | pacing ts =>
      simp only [feedStep, hpc, Option.some.injEq] at hs
      subst hs
      have hmoved : Counted c { s with pc := .sleeping ts (s.pacer.wait ts s.clock).2 } :=
        h.moved (by rw [hpc]; rfl) (by simp [hpc])
      exact { hmoved with
        speed := (Pacer.speed_wait _ _ _).trans h.speed
        anchor := (Pacer.anchorSrcNs_wait _ _ _).trans h.anchor }
  | sleeping ts wakeAt =>
      simp only [feedStep, hpc, Option.ite_none_right_eq_some] at hs
      obtain ⟨-, hs⟩ := hs
      obtain rfl := Option.some.inj hs
      exact h.moved (by rw [hpc]; rfl) (by simp [hpc])
  | holdingAgain ts =>
      simp only [feedStep, hpc, Option.map_eq_some_iff] at hs
      obtain ⟨v, hv, rfl⟩ := hs
      exact (h.looked (by rw [hpc]; rfl) (by simp [hpc]) hv).2.2
  | noting ts =>
      simp only [feedStep, hpc, Option.some.injEq] at hs
      subst hs
      exact h.noteFrame hpc rfl

theorem resume (h : s.Counted c) {playback : PlaybackState}
    (hrestart : playback.restartPending = s.playback.restartPending)
    (hfinished : playback.state = .finished → s.playback.state = .finished) :
    Counted c (s.resume playback) := by
  have hflags := h.flags hrestart hfinished
  unfold TimelinePlayback.resume
  split
  · exact { hflags with
      speed := (speed_resumedPacer s).trans h.speed
      anchor := (anchorSrcNs_resumedPacer s).trans h.anchor }
  · exact hflags

/-- **Step lemma** of the counters. -/
theorem step {a : TimedStep} {s' : TimelinePlayback} (h : s.Counted c)
    (hs : TimelinePlayback.step c s a = some s') : s'.Counted c := by
  cases a with
  | feed => exact h.feed hs
  | pause =>
      obtain rfl := Option.some.inj hs
      exact h.flags rfl (by simp [PlaybackState.pause])
  | resume =>
      obtain rfl := Option.some.inj hs
      exact h.resume rfl (by simp [PlaybackState.resume])
  | gate =>
      simp only [TimelinePlayback.step, Option.ite_none_right_eq_some] at hs
      obtain ⟨-, hs⟩ := hs
      obtain rfl := Option.some.inj hs
      exact h.flags rfl id
  | gateResume =>
      simp only [TimelinePlayback.step, Option.ite_none_right_eq_some] at hs
      obtain ⟨-, hs⟩ := hs
      obtain rfl := Option.some.inj hs
      exact h.resume rfl (by simp [PlaybackState.gateResume, PlaybackState.resume])
  | tick ns =>
      simp only [TimelinePlayback.step, Option.ite_none_right_eq_some] at hs
      obtain ⟨-, hs⟩ := hs
      obtain rfl := Option.some.inj hs
      exact { h with speed := h.speed }

end Counted

end TimelinePlayback

/-! ## On the timeline -/

/-- A baseline of the pacer: `t0` was due at `t0Wall`, or later by what earlier
baselines have dropped. -/
structure TimedCycle.Baseline (c : TimedCycle) (releasedNs pausedNs : Int) (resumes : Nat)
    (t0 t0Wall : Int) : Prop where
  zero_le : c.zeroNs ≤ t0
  nonneg : 0 ≤ c.slack releasedNs pausedNs t0 t0Wall
  le : c.slack releasedNs pausedNs t0 t0Wall ≤ resumes

theorem TimedCycle.Baseline.due {c : TimedCycle} {releasedNs pausedNs : Int} {resumes : Nat}
    {t0 t0Wall ts : Int} (h : c.Baseline releasedNs pausedNs resumes t0 t0Wall) (hts : t0 ≤ ts) :
    0 ≤ c.slack releasedNs pausedNs ts (t0Wall + scaled c.speed (ts - t0)) ∧
      c.slack releasedNs pausedNs ts (t0Wall + scaled c.speed (ts - t0)) < 1 + resumes := by
  have hscaled := @slack_scaled c releasedNs pausedNs t0 t0Wall ts hts
  have hnonneg := h.nonneg
  have hle := h.le
  constructor <;> linarith

namespace TimelinePlayback

/-- Where the last noted frame lies, or the zero. -/
def lastNs (c : TimedCycle) (s : TimelinePlayback) : Int :=
  (s.noted.getLast?.map Noted.tsNs).getD c.zeroNs

/-- The playback is between two frames: the last one is just out, or the release is,
or it was just out when the playback was paused. -/
structure Between (c : TimedCycle) (s : TimelinePlayback) : Prop where
  last : s.pacer.lastSrc = s.noted.getLast?.map Noted.tsNs
  nonneg : 0 ≤ c.slack s.releasedNs s.pausedNs (s.lastNs c) s.clock
  lt : c.slack s.releasedNs s.pausedNs (s.lastNs c) s.clock < 1 + s.resumes
  fresh : s.noted = [] → c.slack s.releasedNs s.pausedNs c.zeroNs s.clock = 0
  held : s.released = false → s.playback.state = .paused ∧ s.noted = []
  base : s.playback.state = .playing → (s.pacer.t0Src = none ∧ s.noted = []) ∨
    ∃ t0, s.pacer.t0Src = some t0 ∧
      c.Baseline s.releasedNs s.pausedNs s.resumes t0 s.pacer.t0Wall ∧ t0 ≤ s.lastNs c ∧
      s.clock = s.pacer.t0Wall + scaled c.speed (s.lastNs c - t0)

/-- The frame `ts` is waited for until `wakeAt`. -/
structure Awaits (c : TimedCycle) (s : TimelinePlayback) (ts wakeAt : Int) : Prop where
  playing : s.playback.state = .playing
  released : s.released = true
  last : s.pacer.lastSrc = some ts
  base : ∃ t0, s.pacer.t0Src = some t0 ∧
    c.Baseline s.releasedNs s.pausedNs s.resumes t0 s.pacer.t0Wall ∧ t0 ≤ ts ∧
    wakeAt = s.pacer.t0Wall + scaled c.speed (ts - t0)

/-- What holds where the feeder is. -/
def KeptAt (c : TimedCycle) (s : TimelinePlayback) : StampPc → Prop
  | .idle => s.playback.state = .finished ∨ s.Between c
  | .entered _ | .holding _ => s.Between c
  | .pacing _ => s.playback.state = .playing ∧ s.Between c
  | .sleeping ts wakeAt => s.Awaits c ts wakeAt ∧ s.clock ≤ wakeAt
  | .holdingAgain ts | .noting ts => s.Awaits c ts s.clock

/-- The invariant of a run whose pauses fall between two frames. -/
structure Kept (c : TimedCycle) (s : TimelinePlayback) : Prop where
  counted : s.Counted c
  noted : ∀ n ∈ s.noted, n.OnTimeline c
  pc : s.KeptAt c s.pc

variable {c : TimedCycle} {s : TimelinePlayback}

theorem lastNs_eq (c : TimedCycle) (s : TimelinePlayback) :
    s.lastNs c = c.zeroNs + s.lastPositionNs c := by
  unfold lastNs lastPositionNs
  cases s.noted.getLast? with
  | none => simp
  | some n => simp

namespace Between

/-- Other flags, and another place of the feeder. -/
theorem moved (h : s.Between c) {playback : PlaybackState}
    (hstate : playback.state = s.playback.state) (pc : StampPc) (rest : List Int) :
    Between c { s with playback := playback, pc := pc, rest := rest } where
  last := h.last
  nonneg := h.nonneg
  lt := h.lt
  fresh := h.fresh
  held hr := ⟨hstate.trans (h.held hr).1, (h.held hr).2⟩
  base hp := h.base (hstate ▸ hp)

theorem paused (h : s.Between c) {playback : PlaybackState} (hstate : playback.state = .paused) :
    Between c { s with playback := playback } where
  last := h.last
  nonneg := h.nonneg
  lt := h.lt
  fresh := h.fresh
  held hr := ⟨hstate, (h.held hr).2⟩
  base hp := by simp [hstate] at hp

/-- Time passes in a hold. -/
theorem pass (h : s.Between c) (hpaused : s.playback.state = .paused) (ns : Nat) :
    Between c (s.pass ns) := by
  have hslack : ∀ ts, c.slack (s.pass ns).releasedNs (s.pass ns).pausedNs ts (s.pass ns).clock =
      c.slack s.releasedNs s.pausedNs ts s.clock := by
    intro ts
    cases hr : s.released with
    | true => simp [TimelinePlayback.pass, hr, hpaused, c.slack_paused]
    | false => simp [TimelinePlayback.pass, hr, c.slack_released]
  refine ⟨h.last, ?_, ?_, fun hn => ?_, h.held, fun hp => ?_⟩
  · rw [hslack]
    exact h.nonneg
  · rw [hslack]
    exact h.lt
  · rw [hslack]
    exact h.fresh hn
  · exact absurd (hpaused.symm.trans hp) (by simp)

/-- The frame in hand is waited for. -/
theorem wait (h : s.Between c) (hcounted : s.Counted c) (hplaying : s.playback.state = .playing)
    {ts : Int} (hpc : s.pc = .pacing ts) (pc : StampPc) :
    Awaits c { s with pacer := (s.pacer.wait ts s.clock).1, pc := pc } ts
        (s.pacer.wait ts s.clock).2 ∧
      s.clock ≤ (s.pacer.wait ts s.clock).2 := by
  refine ⟨⟨hplaying, ?_, Pacer.lastSrc_wait _ _ _, ?_⟩, Pacer.le_wait _ _ _⟩
  · cases hr : s.released with
    | true => rfl
    | false => exact absurd (hplaying.symm.trans (h.held hr).1) (by simp)
  · have hhand : s.pc.inHand ++ s.rest = ts :: s.rest := by simp [hpc, StampPc.inHand]
    obtain ⟨hzero, hlater⟩ := hcounted.inHand hhand
    have hspeed : ¬ c.speed ≤ 0 := not_le.mpr c.speed_pos
    rcases h.base hplaying with ⟨ht0, hnoted⟩ | ⟨t0, ht0, hbase, hle, hclock⟩
    · -- the first wait of a source that came up playing starts the timeline
      have hscaled := scaled_nonneg c.speed_pos (d := ts - c.zeroNs) (by omega)
      have hfresh := h.fresh hnoted
      refine ⟨c.zeroNs, ?_, ⟨le_refl _, ?_, ?_⟩, hzero, ?_⟩
      · simp [Pacer.wait, hcounted.speed, hspeed, ht0, hcounted.anchor]
      · simp [Pacer.wait, hcounted.speed, hspeed, ht0, hcounted.anchor, hfresh]
      · simp [Pacer.wait, hcounted.speed, hspeed, ht0, hcounted.anchor, hfresh]
      · simp only [Pacer.wait, hcounted.speed, if_neg hspeed, ht0, hcounted.anchor]
        omega
    · have hlast : s.lastNs c < ts ∨ s.lastNs c = c.zeroNs := by
        unfold lastNs
        cases hlast : s.noted.getLast? with
        | none => exact .inr rfl
        | some n => exact .inl (hlater n (List.mem_of_getLast? hlast))
      have hmono := scaled_add_le c.speed_pos (d := s.lastNs c - t0) (e := ts - s.lastNs c)
        (by omega) (by omega)
      have hgap := scaled_nonneg c.speed_pos (d := ts - s.lastNs c) (by omega)
      rw [show s.lastNs c - t0 + (ts - s.lastNs c) = ts - t0 by omega] at hmono
      refine ⟨t0, ?_, ?_, by omega, ?_⟩
      · simp [Pacer.wait, hcounted.speed, hspeed, ht0]
      · simpa [Pacer.wait, hcounted.speed, hspeed, ht0] using hbase
      · simp only [Pacer.wait, hcounted.speed, if_neg hspeed, ht0, Pacer.target]
        omega

/-- A resume starts the timeline at its zero, or goes on at the last noted frame. -/
theorem resume (h : s.Between c) (hcounted : s.Counted c)
    (hpaused : s.playback.state = .paused) (playback : PlaybackState) :
    Between c (s.resume playback) := by
  have hmore : (s.resumes : ℚ) ≤ (s.resume playback).resumes := by
    simp only [TimelinePlayback.resume, if_pos hpaused]
    split
    · push_cast
      linarith
    · exact le_refl _
  have hslack : ∀ ts at', c.slack (s.resume playback).releasedNs (s.resume playback).pausedNs ts
      at' = c.slack s.releasedNs s.pausedNs ts at' := by
    simp [TimelinePlayback.resume, hpaused]
  have hclock : (s.resume playback).clock = s.clock := by
    simp [TimelinePlayback.resume, hpaused]
  have hnoted : (s.resume playback).noted = s.noted := by
    simp [TimelinePlayback.resume, hpaused]
  have hlastNs : (s.resume playback).lastNs c = s.lastNs c := by rw [lastNs, hnoted, lastNs]
  have hpacer : (s.resume playback).pacer = s.resumedPacer := by
    simp [TimelinePlayback.resume, hpaused]
  have hlt := h.lt
  -- the pacer starts at the last noted frame, or at the zero
  have hanchored : s.resumedPacer.lastSrc = s.noted.getLast?.map Noted.tsNs ∧
      s.resumedPacer.t0Src = some (s.lastNs c) ∧ s.resumedPacer.t0Wall = s.clock := by
    cases hlast : s.noted.getLast? with
    | none =>
        have hnil := List.getLast?_eq_none_iff.mp hlast
        have hframes : s.frames = 0 := by rw [hcounted.frames, hnil]; rfl
        simp [resumedPacer, hframes, hcounted.anchor, Pacer.reset, Pacer.anchorNow, lastNs, hlast]
    | some n =>
        have hframes : s.frames ≠ 0 := by
          rw [hcounted.frames]
          exact List.length_pos_iff.mpr (fun hnil => by simp [hnil] at hlast) |>.ne'
        have hsrc : s.pacer.lastSrc = some n.tsNs := by rw [h.last, hlast]; rfl
        simp [resumedPacer, hframes, Pacer.rebase, hsrc, lastNs, hlast]
  obtain ⟨hsrc, ht0, ht0Wall⟩ := hanchored
  refine ⟨?_, ?_, ?_, fun hn => ?_, fun hr => ?_, fun _ => .inr ⟨s.lastNs c, ?_, ?_, ?_, ?_⟩⟩
  · rw [hpacer, hnoted]
    exact hsrc
  · rw [hslack, hlastNs, hclock]
    exact h.nonneg
  · rw [hslack, hlastNs, hclock]
    linarith
  · rw [hslack, hclock]
    exact h.fresh (hnoted ▸ hn)
  · simp [TimelinePlayback.resume, hpaused] at hr
  · rw [hpacer]
    exact ht0
  · rw [hpacer, ht0Wall]
    refine ⟨?_, ?_, ?_⟩
    · have hle := hcounted.lastPositionNs_nonneg
      rw [lastNs_eq]
      omega
    · rw [hslack]
      exact h.nonneg
    · rw [hslack]
      cases hn : s.noted with
      | nil =>
          have hzero : s.lastNs c = c.zeroNs := by simp [lastNs, hn]
          rw [hzero, h.fresh hn]
          exact_mod_cast Nat.zero_le _
      | cons n rest =>
          have hreleased : s.released = true := by
            cases hr : s.released with
            | true => rfl
            | false => simp [(h.held hr).2] at hn
          simp only [TimelinePlayback.resume, if_pos hpaused, hreleased, if_true]
          push_cast
          linarith
  · rw [hlastNs]
  · rw [hclock, hpacer, ht0Wall, hlastNs]
    simp

/-- While the timeline has got to the last noted frame, that frame is what is reported. -/
theorem position_le (h : s.Between c) (hcounted : s.Counted c) :
    s.timelinePositionNs c ≤ s.lastPositionNs c := by
  have hnonneg := hcounted.lastPositionNs_nonneg
  have hmax : max 0 s.positionNs = s.lastPositionNs c := by
    rw [hcounted.position, max_eq_right hnonneg]
  unfold timelinePositionNs
  split
  · next t0 hplaying ht0 =>
      split
      · rcases h.base hplaying with ⟨hnone, -⟩ | ⟨t0', ht0', hbase, hle, hclock⟩
        · simp [ht0] at hnone
        · obtain rfl : t0 = t0' := by simpa [ht0] using ht0'
          have hwall := c.truncate_scaled_le hle
          have hzero := hbase.zero_le
          have hback : s.clock - s.pacer.t0Wall = scaled c.speed (s.lastNs c - t0) := by omega
          rw [hback, hcounted.speed, hcounted.base, hcounted.position]
          have hover : truncate (((scaled c.speed (s.lastNs c - t0) : Int) : ℚ) * c.speed) +
              (t0 - (s.noted.getLast?.map fun _ => c.zeroNs).getD t0) ≤ s.lastPositionNs c := by
            rw [lastNs_eq] at hwall ⊢
            cases hlast : s.noted.getLast? with
            | none =>
                have hlastPos : s.lastPositionNs c = 0 := by simp [lastPositionNs, hlast]
                rw [hlastPos] at hwall ⊢
                simp only [Option.map_none, Option.getD_none]
                omega
            | some n =>
                simp only [Option.map_some, Option.getD_some]
                omega
          refine max_le hnonneg ?_
          have hpos := max_le (le_refl (s.lastPositionNs c)) hover
          cases c.durationNs with
          | none => exact hpos
          | some duration => exact (min_le_left _ _).trans hpos
      · exact hmax.le
  · exact hmax.le

end Between

/-- The frame that was waited for is noted, as far from its instant as the baselines say. -/
theorem Awaits.note {ts : Int} (h : s.Awaits c ts s.clock) (pc : StampPc) (n : Noted)
    (hn : n.tsNs = ts) :
    Between c { s.noteFrame ts c.zeroNs with pc := pc, noted := s.noted ++ [n] } := by
  obtain ⟨t0, ht0, hbase, hle, hclock⟩ := h.base
  have hdue := hbase.due hle
  rw [← hclock] at hdue
  have hlastNs :
      lastNs c { s.noteFrame ts c.zeroNs with pc := pc, noted := s.noted ++ [n] } = ts := by
    simp [lastNs, hn]
  refine ⟨?_, ?_, ?_, fun hnil => ?_, fun hr => ?_, fun _ => .inr ⟨t0, ht0, hbase, ?_, ?_⟩⟩
  · simpa [hn, noteFrame] using h.last
  · rw [hlastNs]
    exact hdue.1
  · rw [hlastNs]
    exact hdue.2
  · simp at hnil
  · exact absurd (h.released.symm.trans hr) (by simp)
  · rw [hlastNs]
    exact hle
  · rw [hlastNs]
    exact hclock

/-! ## Steps -/

namespace Kept

theorem init (c : TimedCycle) (boot : Boot) (startNs : Int) :
    Kept c (.init c boot startNs) := by
  refine ⟨.init c boot startNs, fun n hn => (by cases hn),
    .inr ⟨?_, ?_, ?_, fun _ => ?_, ?_, ?_⟩⟩
  · cases boot with
    | playing | held => rfl
    | gatePast known => cases known <;> rfl
  · simp [TimelinePlayback.init, lastNs, TimedCycle.slack, TimedCycle.dueAt]
  · simp [TimelinePlayback.init, lastNs, TimedCycle.slack, TimedCycle.dueAt]
  · simp [TimelinePlayback.init, TimedCycle.slack, TimedCycle.dueAt]
  · intro hr
    cases boot with
    | held gate => exact ⟨rfl, rfl⟩
    | playing | gatePast => cases hr
  · intro hp
    cases boot with
    | playing => exact .inl ⟨rfl, rfl⟩
    | held gate => cases hp
    | gatePast known =>
        cases known with
        | false => exact .inl ⟨rfl, rfl⟩
        | true =>
            refine .inr ⟨c.zeroNs, rfl, ⟨le_refl _, ?_, ?_⟩, le_refl _, ?_⟩
            · simp [TimelinePlayback.init, Boot.pacer, Pacer.start, Pacer.anchorNow,
                TimedCycle.slack, TimedCycle.dueAt]
            · simp [TimelinePlayback.init, Boot.pacer, Pacer.start, Pacer.anchorNow,
                TimedCycle.slack, TimedCycle.dueAt]
            · simp [TimelinePlayback.init, Boot.pacer, Pacer.start, Pacer.anchorNow, lastNs]

/-- A statement of the feeder. -/
theorem feed (h : s.Kept c) {s' : TimelinePlayback} (hs : s.feedStep c = some s') :
    s'.Kept c := by
  have hcounted := h.counted.feed hs
  have hat := h.pc
  cases hpc : s.pc with
  | idle =>
      rw [hpc] at hat
      simp only [feedStep, hpc] at hs
      split at hs
      · next ts rest hrest =>
          obtain rfl := Option.some.inj hs
          rcases hat with hfinished | hbetween
          · exact absurd (h.counted.finished hfinished).2 (by simp [hrest])
          · exact ⟨hcounted, h.noted, hbetween.moved rfl _ _⟩
      · split at hs
        · cases hs
        · obtain rfl := Option.some.inj hs
          exact ⟨hcounted, h.noted, .inl rfl⟩
  | entered ts =>
      rw [hpc] at hat
      simp only [feedStep, hpc, Option.some.injEq] at hs
      subst hs
      refine ⟨hcounted, h.noted, ?_⟩
      have hmoved : ∀ pc rest, Between c { s with
          playback := s.playback.takePreroll, pc := pc, rest := rest } :=
        fun pc rest => @Between.moved c s hat s.playback.takePreroll rfl pc rest
      split
      · exact .inr (hmoved _ _)
      · exact hmoved _ _
  | holding ts =>
      rw [hpc] at hat
      simp only [feedStep, hpc, Option.map_eq_some_iff] at hs
      obtain ⟨v, hv, rfl⟩ := hs
      obtain ⟨hsame, hplaying, -⟩ := h.counted.looked rfl (by simp [hpc]) hv
      exact ⟨hcounted, h.noted, by rw [hsame]; exact hplaying, hat.moved (by rw [hsame]) _ _⟩
  | pacing ts =>
      rw [hpc] at hat
      simp only [feedStep, hpc, Option.some.injEq] at hs
      subst hs
      exact ⟨hcounted, h.noted, hat.2.wait h.counted hat.1 hpc _⟩
  | sleeping ts wakeAt =>
      rw [hpc] at hat
      simp only [feedStep, hpc, Option.ite_none_right_eq_some] at hs
      obtain ⟨hle, hs⟩ := hs
      obtain rfl := Option.some.inj hs
      obtain ⟨hawaits, hge⟩ := hat
      obtain rfl : wakeAt = s.clock := by omega
      exact ⟨hcounted, h.noted, { hawaits with playing := hawaits.playing }⟩
  | holdingAgain ts =>
      rw [hpc] at hat
      simp only [feedStep, hpc, Option.map_eq_some_iff] at hs
      obtain ⟨v, hv, rfl⟩ := hs
      obtain ⟨hsame, -, -⟩ := h.counted.looked rfl (by simp [hpc]) hv
      refine ⟨hcounted, h.noted, { hat with playing := ?_ }⟩
      rw [hsame]
      exact hat.playing
  | noting ts =>
      rw [hpc] at hat
      simp only [feedStep, hpc, Option.some.injEq] at hs
      subst hs
      refine ⟨hcounted, fun n hn => ?_, .inr (hat.note _ _ rfl)⟩
      rcases List.mem_append.mp hn with hn | hn
      · exact h.noted n hn
      · obtain ⟨t0, -, hbase, hle, hclock⟩ := hat.base
        have hdue := hbase.due hle
        rw [← hclock] at hdue
        obtain rfl := List.mem_singleton.mp hn
        obtain ⟨hnonneg, hlt⟩ := hdue
        rw [TimedCycle.slack] at hnonneg hlt
        constructor
        · exact sub_nonneg.mp hnonneg
        · exact sub_lt_iff_lt_add'.mp hlt

/-- While no frame is being paced, a playback that has not ended is between two. -/
theorem between (h : s.Kept c) (hpaced : s.pc.paced = false)
    (hstate : s.playback.state ≠ .finished) : s.Between c := by
  have hat := h.pc
  cases hpc : s.pc with
  | idle =>
      rw [hpc] at hat
      exact hat.resolve_left hstate
  | entered ts | holding ts =>
      rw [hpc] at hat
      exact hat
  | pacing ts | sleeping ts wakeAt | holdingAgain ts | noting ts =>
      simp [hpc, StampPc.paced] at hpaced

/-- A frame is being paced by a playback that plays. -/
theorem playing_of_paced (h : s.Kept c) (hpaced : s.pc.paced = true) :
    s.playback.state = .playing := by
  have hat := h.pc
  cases hpc : s.pc with
  | idle | entered ts | holding ts => simp [hpc, StampPc.paced] at hpaced
  | pacing ts =>
      rw [hpc] at hat
      exact hat.1
  | sleeping ts wakeAt =>
      rw [hpc] at hat
      exact hat.1.playing
  | holdingAgain ts | noting ts =>
      rw [hpc] at hat
      exact hat.playing

/-- Between two frames only that, or the end, is to be shown. -/
theorem keptAt_of_between (hbetween : s.Between c) (hpaced : s.pc.paced = false) :
    s.KeptAt c s.pc := by
  cases hpc : s.pc with
  | idle => exact .inr hbetween
  | entered ts | holding ts => exact hbetween
  | pacing ts | sleeping ts wakeAt | holdingAgain ts | noting ts =>
      simp [hpc, StampPc.paced] at hpaced

/-- Other flags in the same state. -/
theorem flags (h : s.Kept c) {playback : PlaybackState}
    (hstate : playback.state = s.playback.state)
    (hrestart : playback.restartPending = s.playback.restartPending) :
    Kept c { s with playback := playback } := by
  refine ⟨h.counted.flags hrestart fun hf => hstate ▸ hf, h.noted, ?_⟩
  have hat := h.pc
  change KeptAt c _ s.pc
  cases hpc : s.pc with
  | idle =>
      rw [hpc] at hat
      exact hat.imp hstate.trans fun hbetween => hbetween.moved hstate _ _
  | entered ts | holding ts =>
      rw [hpc] at hat
      exact hat.moved hstate _ _
  | pacing ts =>
      rw [hpc] at hat
      exact ⟨hstate.trans hat.1, hat.2.moved hstate _ _⟩
  | sleeping ts wakeAt =>
      rw [hpc] at hat
      exact ⟨{ hat.1 with playing := hstate.trans hat.1.playing }, hat.2⟩
  | holdingAgain ts | noting ts =>
      rw [hpc] at hat
      exact { hat with playing := hstate.trans hat.playing }

theorem pause (h : s.Kept c) (hpauses : s.PausesBetween .pause) :
    Kept c { s with playback := s.playback.pause } := by
  cases hstate : s.playback.state with
  | playing =>
      have hpaced := hpauses hstate
      have hbetween := h.between hpaced (by simp [hstate])
      refine ⟨h.counted.flags rfl (by simp [PlaybackState.pause, hstate]), h.noted, ?_⟩
      exact keptAt_of_between (hbetween.paused (by simp [PlaybackState.pause, hstate])) hpaced
  | paused => exact h.flags (by simp [PlaybackState.pause, hstate]) rfl
  | finished => exact h.flags (by simp [PlaybackState.pause, hstate]) rfl

theorem resume (h : s.Kept c) {playback : PlaybackState}
    (hrestart : playback.restartPending = s.playback.restartPending)
    (hstate : playback.state = if s.playback.state = .finished then .finished else .playing) :
    Kept c (s.resume playback) := by
  have hcounted := h.counted.resume hrestart fun hf => by
    by_contra hn
    simp [hstate, hn] at hf
  cases hcur : s.playback.state with
  | paused =>
      have hpaced : s.pc.paced = false := by
        by_contra hp
        have hplaying := h.playing_of_paced (Bool.eq_true_of_not_eq_false hp)
        simp [hcur] at hplaying
      have hbetween := (h.between hpaced (by simp [hcur])).resume h.counted hcur playback
      have hpc : (s.resume playback).pc = s.pc := by simp [TimelinePlayback.resume, hcur]
      have hnoted : (s.resume playback).noted = s.noted := by
        simp [TimelinePlayback.resume, hcur]
      exact ⟨hcounted, hnoted ▸ h.noted, keptAt_of_between hbetween (hpc ▸ hpaced)⟩
  | playing | finished =>
      have hsame : s.resume playback = { s with playback := playback } := by
        simp [TimelinePlayback.resume, hcur]
      rw [hsame]
      exact h.flags (by simp [hstate, hcur]) hrestart

/-- Time passes. -/
theorem pass (h : s.Kept c) {ns : Nat} (hpass : s.CanPass ns) : Kept c (s.pass ns) := by
  refine ⟨{ h.counted with speed := h.counted.speed }, h.noted, ?_⟩
  have hat := h.pc
  unfold CanPass at hpass
  change KeptAt c _ s.pc
  cases hpc : s.pc with
  | idle =>
      rw [hpc] at hpass
      exact .inl hpass
  | holding ts =>
      rw [hpc] at hpass hat
      exact Between.pass hat (waitIfPaused_eq_none.mp hpass).1 ns
  | holdingAgain ts =>
      rw [hpc] at hpass hat
      have hpaused := (waitIfPaused_eq_none.mp hpass).1
      exact absurd (hat.playing.symm.trans hpaused) (by simp)
  | sleeping ts wakeAt =>
      rw [hpc] at hpass hat
      obtain ⟨hawaits, -⟩ := hat
      have hreleased : (s.pass ns).releasedNs = s.releasedNs := if_pos hawaits.released
      have hpaused : (s.pass ns).pausedNs = s.pausedNs :=
        if_neg fun hp => by simp [hawaits.playing] at hp
      refine ⟨{ playing := hawaits.playing, released := hawaits.released, last := hawaits.last,
                base := ?_ }, hpass⟩
      rw [hreleased, hpaused]
      exact hawaits.base
  | entered ts | pacing ts | noting ts =>
      rw [hpc] at hpass
      exact hpass.elim

/-- **Step lemma**: a step keeps the timeline, a pause between two frames. -/
theorem step {a : TimedStep} {s' : TimelinePlayback} (h : s.Kept c) (hpauses : s.PausesBetween a)
    (hs : TimelinePlayback.step c s a = some s') : s'.Kept c := by
  cases a with
  | feed => exact h.feed hs
  | pause =>
      obtain rfl := Option.some.inj hs
      exact h.pause hpauses
  | resume =>
      obtain rfl := Option.some.inj hs
      exact h.resume rfl rfl
  | gate =>
      simp only [TimelinePlayback.step, Option.ite_none_right_eq_some] at hs
      obtain ⟨-, hs⟩ := hs
      obtain rfl := Option.some.inj hs
      exact h.flags rfl rfl
  | gateResume =>
      simp only [TimelinePlayback.step, Option.ite_none_right_eq_some] at hs
      obtain ⟨-, hs⟩ := hs
      obtain rfl := Option.some.inj hs
      exact h.resume rfl rfl
  | tick ns =>
      simp only [TimelinePlayback.step, Option.ite_none_right_eq_some] at hs
      obtain ⟨hpass, hs⟩ := hs
      obtain rfl := Option.some.inj hs
      exact h.pass hpass

/-- A pause between two frames leaves the reported position where it is. -/
theorem pauseKeeps (h : s.Kept c) {a : TimedStep} (hpauses : s.PausesBetween a) :
    s.PauseKeeps c a := by
  cases a with
  | pause =>
      intro s' hs
      have hafter := (h.counted.step hs).position_of_not_playing
      obtain rfl := Option.some.inj hs
      have hstate : (s.playback.pause).state ≠ .playing := by
        simp only [PlaybackState.pause]
        split <;> simp
      rw [hafter hstate]
      cases hcur : s.playback.state with
      | playing => exact (h.between (hpauses hcur) (by simp [hcur])).position_le h.counted
      | paused | finished => exact (h.counted.position_of_not_playing (by simp [hcur])).le
  | feed | resume | gate | gateResume | tick ns => trivial

end Kept

/-- A resume never moves the reported position back: it goes on from the last noted frame. -/
theorem Counted.resumeKeeps (h : s.Counted c) (a : TimedStep) : s.ResumeKeeps c a := by
  have hkeeps : ∀ playback : PlaybackState, Counted c (s.resume playback) →
      (s.playback.state = .playing → playback.state = .playing) →
      s.timelinePositionNs c ≤ (s.resume playback).timelinePositionNs c := by
    intro playback hafter hplaying
    cases hcur : s.playback.state with
    | playing =>
        have hsame : s.resume playback = { s with playback := playback } := by
          simp [TimelinePlayback.resume, hcur]
        rw [hsame]
        simp [timelinePositionNs, hcur, hplaying hcur]
    | paused | finished =>
        rw [h.position_of_not_playing (by simp [hcur])]
        have hnoted : (s.resume playback).noted = s.noted := by
          simp [TimelinePlayback.resume, hcur]
        have hle := hafter.lastPositionNs_le_position
        rwa [lastPositionNs, hnoted] at hle
  cases a with
  | resume =>
      intro s' hs
      have hafter := h.step hs
      obtain rfl := Option.some.inj hs
      exact hkeeps _ hafter fun hp => by simp [PlaybackState.resume, hp]
  | gateResume =>
      intro s' hs
      have hafter := h.step hs
      simp only [TimelinePlayback.step, Option.ite_none_right_eq_some] at hs
      obtain ⟨-, hs⟩ := hs
      obtain rfl := Option.some.inj hs
      exact hkeeps _ hafter fun hp => by simp [PlaybackState.gateResume, PlaybackState.resume, hp]
  | feed | pause | gate | tick ns => trivial

/-! ## Runs -/

/-- In a run whose pauses fall between the frames, every frame is noted when it is due. -/
theorem noted_onTimeline {c : TimedCycle} {boot : Boot} {startNs : Int} {steps : List TimedStep}
    {s : TimelinePlayback}
    (hpauses : Machine.Along (step c) PausesBetween (init c boot startNs) steps)
    (h : Machine.exec (step c) (init c boot startNs) steps = some s) :
    ∀ n ∈ s.noted, n.OnTimeline c :=
  (Machine.exec_inv_along (fun _ _ _ hkept hbetween hs => hkept.step hbetween hs)
    (Kept.init c boot startNs) hpauses h).noted

/-- **The timeline of a playback**: in a run whose pauses fall between two frames every frame
is noted when it is due and no pause moves the reported position back; in every run a paused
playback reports its last noted frame, and no resume moves the position back. -/
theorem timeline_kept (c : TimedCycle) (boot : Boot) (startNs : Int) {steps : List TimedStep}
    {s : TimelinePlayback}
    (h : Machine.exec (step c) (init c boot startNs) steps = some s) :
    (Machine.Along (step c) PausesBetween (init c boot startNs) steps →
      (∀ n ∈ s.noted, n.OnTimeline c) ∧
        Machine.Along (step c) (PauseKeeps c) (init c boot startNs) steps) ∧
    (s.playback.state = .paused → s.timelinePositionNs c = s.lastPositionNs c) ∧
    Machine.Along (step c) (ResumeKeeps c) (init c boot startNs) steps := by
  have hkept : ∀ s a s', Kept c s → PausesBetween s a → step c s a = some s' → Kept c s' :=
    fun _ _ _ hkept hpauses hs => hkept.step hpauses hs
  have hcounted : ∀ s a s', Counted c s → step c s a = some s' → Counted c s' :=
    fun _ _ _ hcounted hs => hcounted.step hs
  refine ⟨fun hpauses => ⟨?_, ?_⟩, fun hpaused => ?_, ?_⟩
  · exact noted_onTimeline hpauses h
  · exact hpauses.of_inv hkept (fun _ _ hkept ha => hkept.pauseKeeps ha) (.init c boot startNs)
  · have hend := Machine.exec_inv hcounted (.init c boot startNs) h
    exact hend.position_of_not_playing (by simp [hpaused])
  · exact Machine.Along.of_inv_all hcounted (fun _ a hcounted => hcounted.resumeKeeps a)
      (.init c boot startNs) steps

/-- Frames at 0, 1000 and 2000 ns. -/
def threeFrames : TimedCycle :=
  { zeroNs := 0, stampsNs := [0, 1000, 2000], speed := 1, durationNs := some 3000,
    speed_pos := by decide +kernel, increases := by decide, zero_le := by decide,
    le_duration := by decide }

/-- Held on the first frame, released after 300 ns, and paused as soon as the second
frame is out. -/
def pausedBetween : List TimedStep :=
  [.feed, .feed, .feed, .feed, .tick 300, .resume, .feed, .feed, .tick 1000, .feed, .feed, .feed,
    .pause, .feed, .feed, .tick 700, .resume, .feed, .feed, .tick 1000, .feed, .feed, .feed]

theorem timeline_kept_pausedBetween :
    ∃ s, Machine.exec (step threeFrames) (init threeFrames (.held false) 0) pausedBetween = some s ∧
      s.noted.map Noted.tsNs = [1000, 2000] ∧ ∀ n ∈ s.noted, n.OnTimeline threeFrames := by
  have hend : (Machine.exec (step threeFrames) (init threeFrames (.held false) 0)
      pausedBetween).any (fun s => s.noted.map Noted.tsNs = [1000, 2000]) = true := by
    decide +kernel
  obtain ⟨s, hs, hnoted⟩ := (Option.any_eq_true _ _).mp hend
  have hkept := timeline_kept threeFrames (.held false) 0 hs
  exact ⟨s, hs, of_decide_eq_true hnoted, (hkept.1 (by decide +kernel)).1⟩

/-- Held on the first frame, released, and paused from 400 ns to 600 ns into the lead-in. -/
def pausedInLeadIn : List TimedStep :=
  [.feed, .feed, .feed, .feed, .resume, .feed, .feed, .tick 400, .pause, .tick 200, .resume,
    .tick 400, .feed, .feed, .feed]

/-- The claimed law, for every run.  The second frame is noted at 1000 ns, not at 1200,
and the pause takes the position from 400 ns back to 0. -/
theorem not_timeline_kept :
    (¬ ∀ (c : TimedCycle) (boot : Boot) (startNs : Int) (steps : List TimedStep)
        (s : TimelinePlayback), Machine.exec (step c) (init c boot startNs) steps = some s →
        ∀ n ∈ s.noted, n.OnTimeline c) ∧
      ¬ ∀ (c : TimedCycle) (boot : Boot) (startNs : Int) (steps : List TimedStep),
        Machine.Along (step c) (PauseKeeps c) (init c boot startNs) steps := by
  constructor
  · intro h
    have hend : (Machine.exec (step threeFrames) (init threeFrames (.held false) 0)
        pausedInLeadIn).any (fun s => s.noted.any fun n => ¬ n.OnTimeline threeFrames) = true := by
      decide +kernel
    obtain ⟨s, hs, hlate⟩ := (Option.any_eq_true _ _).mp hend
    obtain ⟨n, hn, hlate⟩ := List.any_eq_true.mp hlate
    exact of_decide_eq_true hlate (h _ _ _ _ s hs n hn)
  · intro h
    have hback : (Machine.exec (step threeFrames) (init threeFrames (.held false) 0)
        (pausedInLeadIn.take 8)).any (fun s =>
          { s with playback := s.playback.pause }.timelinePositionNs threeFrames <
            s.timelinePositionNs threeFrames) = true := by
      decide +kernel
    obtain ⟨s, hs, hlt⟩ := (Option.any_eq_true _ _).mp hback
    have hkeeps := Machine.along_iff.mp (h threeFrames (.held false) 0 pausedInLeadIn)
      (pausedInLeadIn.take 8) .pause (pausedInLeadIn.drop 9) s rfl hs
    exact absurd (hkeeps _ rfl) (not_le.mpr (of_decide_eq_true hlt))

end TimelinePlayback

/-! ## The cycles of a replay -/

namespace ReplayTimeline

/-- No frame of the window lies before the zero. -/
theorem epochNs_le_of_window {r : ReplayRequest} {tl : ReplayTimeline} (hopen : Opened r tl)
    (hinc : tl.Increasing) (hfrom : ∀ fromOffsetNs ∈ r.fromOffsetNs, 0 ≤ fromOffsetNs)
    {row : FrameStamp} (hrow : row ∈ tl.window) : tl.epochNs ≤ row.timestampNs := by
  obtain ⟨hmem, hin⟩ := List.mem_filter.mp hrow
  rw [hopen.epoch_eq]
  cases hepoch : r.epochUnixNs with
  | some epoch =>
      have hoff : 0 ≤ r.fromOffsetNs.getD 0 := by
        cases hf : r.fromOffsetNs with
        | none => exact le_refl _
        | some off => exact hfrom off hf
      have hwindow : r.epochNs + r.fromOffsetNs.getD 0 ≤ row.timestampNs := by
        simpa [hopen.from_eq, ReplayRequest.fromNs, hepoch] using (Bool.and_eq_true_iff.mp hin).1
      omega
  | none =>
      have hhead := List.head?_eq_some_head (List.ne_nil_of_mem hmem)
      have hle := Increases.head_le hinc hhead hmem
      rw [ReplayRequest.epochNs, hepoch, ← hopen.sessions_eq, List.headD_eq_head?_getD,
        List.head?_map, hhead]
      exact hle

/-- The frames of the window, shifted by the offset of a cycle. -/
theorem increases_shifted {tl : ReplayTimeline} (hinc : tl.Increasing) (cycle : Nat) :
    (tl.window.map fun row => row.timestampNs + tl.offsetOf cycle).Pairwise (· < ·) := by
  refine List.pairwise_map.mpr ((hinc.sublist List.filter_sublist).imp fun h => ?_)
  exact Int.add_lt_add_right h _

theorem zero_le_shifted {r : ReplayRequest} {tl : ReplayTimeline} (hopen : Opened r tl)
    (hinc : tl.Increasing) (hfrom : ∀ fromOffsetNs ∈ r.fromOffsetNs, 0 ≤ fromOffsetNs)
    (cycle : Nat) :
    ∀ ts ∈ tl.window.map fun row => row.timestampNs + tl.offsetOf cycle,
      tl.epochNs + tl.offsetOf cycle ≤ ts := by
  intro ts hts
  obtain ⟨row, hrow, rfl⟩ := List.mem_map.mp hts
  exact Int.add_le_add_right (epochNs_le_of_window hopen hinc hfrom hrow) _

/-- Where rounding keeps the time of a cycle, no frame lies past the rounded duration. -/
theorem shifted_le_duration {tl : ReplayTimeline} (hcap : tl.capNs = 0) {seconds : PyFloat}
    {ns : Int} (hkeeps : KeepsTime tl seconds ns) (cycle : Nat) :
    ∀ duration ∈ some ns,
      ∀ ts ∈ tl.window.map fun row => row.timestampNs + tl.offsetOf cycle,
        ts - (tl.epochNs + tl.offsetOf cycle) ≤ duration := by
  intro duration hd ts hts
  obtain ⟨row, hrow, rfl⟩ := List.mem_map.mp hts
  obtain rfl := Option.some.inj hd
  have hroom := hkeeps.room row hrow
  rw [tl.effectiveNs_of_uncapped hcap] at hroom
  omega

/-- A cycle of a replay that caps no silence, as its playback meets it: the frames of the
window, shifted by the cycle's offset, and the duration as it was rounded. -/
def timedCycle {r : ReplayRequest} {tl : ReplayTimeline} (hopen : Opened r tl)
    (hinc : tl.Increasing) (hfrom : ∀ fromOffsetNs ∈ r.fromOffsetNs, 0 ≤ fromOffsetNs)
    (hcap : tl.capNs = 0) {seconds : PyFloat} {ns : Int} (hkeeps : KeepsTime tl seconds ns)
    {speed : ℚ} (hspeed : 0 < speed) (cycle : Nat) : TimedCycle where
  zeroNs := tl.epochNs + tl.offsetOf cycle
  stampsNs := tl.window.map fun row => row.timestampNs + tl.offsetOf cycle
  speed := speed
  durationNs := some ns
  speed_pos := hspeed
  increases := increases_shifted hinc cycle
  zero_le := zero_le_shifted hopen hinc hfrom cycle
  le_duration := shifted_le_duration hcap hkeeps cycle

/-- So in every cycle of such a replay each frame is noted when its own stamp is due. -/
theorem noted_onTimeline {r : ReplayRequest} {tl : ReplayTimeline} (hopen : Opened r tl)
    (hinc : tl.Increasing) (hfrom : ∀ fromOffsetNs ∈ r.fromOffsetNs, 0 ≤ fromOffsetNs)
    (hcap : tl.capNs = 0) {seconds : PyFloat} {ns : Int} (hkeeps : KeepsTime tl seconds ns)
    {speed : ℚ} (hspeed : 0 < speed) (cycle : Nat) {boot : Boot} {startNs : Int}
    {steps : List TimedStep} {s : TimelinePlayback}
    (hpauses : Machine.Along
      (TimelinePlayback.step (timedCycle hopen hinc hfrom hcap hkeeps hspeed cycle))
      TimelinePlayback.PausesBetween
      (.init (timedCycle hopen hinc hfrom hcap hkeeps hspeed cycle) boot startNs) steps)
    (h : Machine.exec
      (TimelinePlayback.step (timedCycle hopen hinc hfrom hcap hkeeps hspeed cycle))
      (.init (timedCycle hopen hinc hfrom hcap hkeeps hspeed cycle) boot startNs) steps = some s) :
    ∀ n ∈ s.noted, n.OnTimeline (timedCycle hopen hinc hfrom hcap hkeeps hspeed cycle) :=
  TimelinePlayback.noted_onTimeline hpauses h

end ReplayTimeline

end CamDriver
