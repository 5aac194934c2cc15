import CamDriver.PaceLaw
import CamDriver.PcapRestart
import CamDriver.ReplayPace

/-!
# CamDriver.RestartPace

When the first frame after a restart is due, for both playback sources.

A replay resets its pacer with every restart.  A pcap feeder does not: the stamps
of the new cycle are shifted past the old one while the baseline stays, so the
first frame is due only after all that was skipped.
-/

namespace CamDriver

/-! ## The law -/

namespace Pacer

/-- The instant by which `wait` says that `tsNs` is due; it may have gone by. -/
def due (p : Pacer ℚ) (tsNs now : Int) : Int :=
  (p.wait tsNs now).1.target ((p.wait tsNs now).1.t0Src.getD tsNs) tsNs

/-- `tsNs`, on a timeline with this zero, is due its own distance after the restart;
`restartNs` and `playedNs` are un-paused wall times, of the restart and of `now`. -/
def OnSchedule (p : Pacer ℚ) (restartNs playedNs now zeroNs tsNs : Int) : Prop :=
  p.due tsNs now - now = restartNs + scaled p.speed (tsNs - zeroNs) - playedNs

instance (p : Pacer ℚ) (restartNs playedNs now zeroNs tsNs : Int) :
    Decidable (p.OnSchedule restartNs playedNs now zeroNs tsNs) :=
  inferInstanceAs (Decidable (_ = _))

/-- By a baseline. -/
theorem due_of_baseline {p : Pacer ℚ} (hspeed : 0 < p.speed) {t0 : Int} (h : p.t0Src = some t0)
    (tsNs now : Int) : p.due tsNs now = p.target t0 tsNs := by
  simp [due, wait, not_le.mpr hspeed, h, target]

/-- Without a baseline: from now, and from the anchor if there is one. -/
theorem due_of_fresh {p : Pacer ℚ} (hspeed : 0 < p.speed) (h : p.t0Src = none) (tsNs now : Int) :
    p.due tsNs now = now + scaled p.speed (tsNs - p.anchorSrcNs.getD tsNs) := by
  cases ha : p.anchorSrcNs with
  | none => simp [due, wait, not_le.mpr hspeed, h, ha, target]
  | some anchor => simp [due, wait, not_le.mpr hspeed, h, ha, target]

end Pacer

/-! ## Pcap -/

namespace PacedFeed

/-- The step is not a wait of the pacer. -/
def NoWait (s : PacedFeed) : PacedStep → Prop
  | .feed (.feed _) => s.feed.pc.paced = none
  | _ => True

instance (s : PacedFeed) (a : PacedStep) : Decidable (s.NoWait a) :=
  match a with
  | .feed (.feed _) => inferInstanceAs (Decidable (_ = _))
  | .tick _ | .setSpeed _ | .feed .pause | .feed .resume | .feed (.setLoop _)
  | .feed .requestRestart | .feed .gate | .feed .gateResume | .feed .miniError | .feed .stop =>
    isTrue trivial

/-- What a statement of the feeder leaves alone. -/
structure FeedFrame (s s' : PacedFeed) : Prop where
  pacer : s'.pacer = s.pacer
  playedNs : s'.playedNs = s.playedNs
  wakeAt : s'.wakeAt = if s.feed.pc.paced = none then s.wakeAt else none

/-- A statement of the feeder: a wait, or a step in which the pacer has no part. -/
theorem feedStep_cases {cfg : PcapConfig} {s s' : PacedFeed} {now : Int}
    (h : s.feedStep cfg now = some s') :
    (∃ st bytes, s.feed.pc = .pacing st bytes ∧ s.wakeAt = none ∧
      s' = { s with
        pacer := (s.pacer.wait st.timestampNs s.clock).1
        wakeAt := some (s.pacer.wait st.timestampNs s.clock).2 }) ∨
    s.feed.feedStep cfg now = some s'.feed ∧ FeedFrame s s' := by
  unfold feedStep at h
  split at h
  · next st bytes hpc hwake => exact .inl ⟨st, bytes, hpc, hwake, (Option.some.inj h).symm⟩
  · next st bytes t hpc hwake =>
      split at h
      · obtain ⟨feed, hfeed, rfl⟩ := plain_eq_some h
        exact .inr ⟨hfeed, rfl, rfl, by simp [hpc, FeedPc.paced]⟩
      · cases h
  · next st bytes hpc =>
      obtain ⟨feed, hfeed, rfl⟩ := plain_eq_some h
      exact .inr ⟨hfeed, rfl, rfl, by simp [hpc, FeedPc.paced]⟩
  · next hdeliver hwait hsleep =>
      obtain ⟨feed, hfeed, rfl⟩ := plain_eq_some h
      refine .inr ⟨hfeed, rfl, rfl, (if_pos ?_).symm⟩
      cases hpc : s.feed.pc with
      | pacing st bytes =>
          cases hwake : s.wakeAt with
          | none => exact (hwait _ _ hpc hwake).elim
          | some t => exact (hsleep _ _ t hpc hwake).elim
      | _ => rfl

/-- A request, a timer or a flag: the feeder stays where it is, and a resume rebases
the pacer. -/
theorem request_cases {cfg : PcapConfig} {s s' : PacedFeed} {a : FeedStep}
    (ha : ∀ now, a ≠ .feed now) (h : step cfg s (.feed a) = some s') :
    s'.feed.pc = s.feed.pc ∧ (s'.pacer = s.pacer ∨ s'.pacer = s.pacer.rebase s.clock) ∧
      s'.playedNs = s.playedNs ∧ s'.wakeAt = s.wakeAt := by
  have hplain : ∀ {t : PacedFeed}, plain cfg t a = some s' → t.feed = s.feed →
      s'.feed.pc = s.feed.pc ∧ s'.pacer = t.pacer ∧ s'.playedNs = t.playedNs ∧
        s'.wakeAt = t.wakeAt := by
    intro t ht hfeed
    obtain ⟨feed, hstep, rfl⟩ := plain_eq_some ht
    refine ⟨?_, rfl, rfl, rfl⟩
    rw [← hfeed]
    cases a with
    | feed now => exact absurd rfl (ha now)
    | pause | resume | setLoop loop | requestRestart | miniError | stop =>
        exact Option.some.inj hstep ▸ rfl
    | gate | gateResume =>
        simp only [PcapFeed.step] at hstep
        split at hstep
        · exact Option.some.inj hstep ▸ rfl
        · cases hstep
  have hrebase : plain cfg s.rebase a = some s' →
      s'.feed.pc = s.feed.pc ∧ (s'.pacer = s.pacer ∨ s'.pacer = s.pacer.rebase s.clock) ∧
        s'.playedNs = s.playedNs ∧ s'.wakeAt = s.wakeAt := by
    intro ht
    obtain ⟨hpc, hpacer, hplayed, hwake⟩ := hplain ht (feed_rebase s)
    rw [hpacer, hplayed, hwake]
    unfold rebase
    split
    · exact ⟨hpc, .inr rfl, rfl, rfl⟩
    · exact ⟨hpc, .inl rfl, rfl, rfl⟩
  have hsame : plain cfg s a = some s' →
      s'.feed.pc = s.feed.pc ∧ (s'.pacer = s.pacer ∨ s'.pacer = s.pacer.rebase s.clock) ∧
        s'.playedNs = s.playedNs ∧ s'.wakeAt = s.wakeAt := by
    intro ht
    obtain ⟨hpc, hpacer, hplayed, hwake⟩ := hplain ht rfl
    exact ⟨hpc, .inl hpacer, hplayed, hwake⟩
  cases a with
  | feed now => exact absurd rfl (ha now)
  | resume | gateResume => exact hrebase h
  | pause | setLoop loop | requestRestart | gate | miniError | stop => exact hsame h

/-- A pcap has no anchor, and sleeps only for a frame in hand. -/
structure SleepInv (s : PacedFeed) : Prop where
  anchor : s.pacer.anchorSrcNs = none
  asleep : s.feed.pc.paced = none → s.wakeAt = none

theorem sleepInv_step {cfg : PcapConfig} (s : PacedFeed) (a : PacedStep) (s' : PacedFeed)
    (h : s.SleepInv) (hs : step cfg s a = some s') : s'.SleepInv := by
  cases a with
  | tick ns =>
      simp only [step] at hs
      split at hs
      · exact Option.some.inj hs ▸ ⟨h.anchor, h.asleep⟩
      · cases hs
  | setSpeed speed =>
      obtain rfl := Option.some.inj hs
      unfold setSpeed
      split
      · exact ⟨h.anchor, h.asleep⟩
      · exact ⟨(Pacer.anchorSrcNs_setSpeed _ _ _).trans h.anchor, h.asleep⟩
  | feed a =>
      by_cases ha : ∃ now, a = .feed now
      · obtain ⟨now, rfl⟩ := ha
        rcases feedStep_cases hs with ⟨st, bytes, hpc, -, rfl⟩ | ⟨-, hframe⟩
        · refine ⟨(Pacer.anchorSrcNs_wait _ _ _).trans h.anchor, fun hnone => ?_⟩
          rw [show _ = FeedPc.pacing st bytes from hpc] at hnone
          cases hnone
        · refine ⟨hframe.pacer ▸ h.anchor, fun _ => ?_⟩
          rw [hframe.wakeAt]
          split
          · next hnone => exact h.asleep hnone
          · rfl
      · obtain ⟨hpc, hpacer, -, hwake⟩ := request_cases (fun now hnow => ha ⟨now, hnow⟩) hs
        refine ⟨?_, fun hnone => hwake ▸ h.asleep (hpc ▸ hnone)⟩
        rcases hpacer with heq | heq
        · exact heq ▸ h.anchor
        · rw [heq, Pacer.anchorSrcNs_rebase]
          exact h.anchor

/-- Up to the next wait no un-paused time passes, unless the feeder has ended. -/
structure NoTimeSince (restartNs : Int) (s : PacedFeed) : Prop where
  awake : s.wakeAt = none
  now : s.feed.pc.over = false → s.playedNs = restartNs

theorem noTimeSince_step {cfg : PcapConfig} {restartNs : Int} (s : PacedFeed) (a : PacedStep)
    (s' : PacedFeed) (h : s.NoTimeSince restartNs) (hc : s.NoWait a)
    (hs : step cfg s a = some s') : s'.NoTimeSince restartNs := by
  cases a with
  | tick ns =>
      simp only [step] at hs
      split at hs
      · next hpass =>
          obtain rfl := Option.some.inj hs
          refine ⟨h.awake, fun hover => ?_⟩
          have hheld : s.Held := by simpa only [CanPass, h.awake] using hpass
          have hpaused : s.feed.playback.state = .paused := by
            unfold Held at hheld
            split at hheld
            · exact (waitIfPaused_eq_none.mp hheld).1
            · exact (waitIfPaused_eq_none.mp hheld).1
            · next hpc => rw [show (s.pass ns).feed.pc = .done from hpc] at hover; cases hover
            · exact hheld.elim
          rw [pass, if_pos hpaused]
          exact h.now hover
      · cases hs
  | setSpeed speed =>
      obtain rfl := Option.some.inj hs
      unfold setSpeed
      split
      · exact ⟨h.awake, h.now⟩
      · exact ⟨h.awake, h.now⟩
  | feed a =>
      by_cases ha : ∃ now, a = .feed now
      · obtain ⟨now, rfl⟩ := ha
        have hpaced : s.feed.pc.paced = none := hc
        rcases feedStep_cases hs with ⟨st, bytes, hpc, -, -⟩ | ⟨hfeed, hframe⟩
        · rw [hpc] at hpaced
          cases hpaced
        · refine ⟨by rw [hframe.wakeAt, if_pos hpaced, h.awake], fun hover => ?_⟩
          rw [hframe.playedNs]
          refine h.now (Bool.eq_false_iff.mpr fun hbefore => ?_)
          rw [PcapFeed.over_feedStep hfeed hbefore] at hover
          cases hover
      · obtain ⟨hpc, -, hplayed, hwake⟩ := request_cases (fun now hnow => ha ⟨now, hnow⟩) hs
        exact ⟨hwake ▸ h.awake, fun hover => hplayed ▸ h.now (hpc ▸ hover)⟩

/-- **A pcap restart**: the first frame of the new cycle is on schedule if and only if
the pacer has no baseline yet, or the old one has that frame due at that instant. -/
theorem pcap_onSchedule_iff {cfg : PcapConfig} {playback : PlaybackState} {speed : ℚ}
    {s s' : PacedFeed} (hs : Machine.Reachable (step cfg) (init playback speed) s)
    (hpc : s.feed.pc = .passed true) {steps : List PacedStep}
    (hwait : Machine.Along (step cfg) NoWait s steps)
    (h : Machine.exec (step cfg) s steps = some s') {st : FrameStamp} {bytes : List UInt8}
    (hpc' : s'.feed.pc = .pacing st bytes) (hspeed : 0 < s'.pacer.speed) :
    s'.pacer.OnSchedule s.playedNs s'.playedNs s'.clock st.timestampNs st.timestampNs ↔
      ∀ t0 ∈ s'.pacer.t0Src, s'.pacer.target t0 st.timestampNs = s'.clock := by
  have hinit : (init playback speed).SleepInv := ⟨rfl, fun _ => rfl⟩
  have hsleep : s.SleepInv := hs.inv sleepInv_step hinit
  have hanchor : s'.pacer.anchorSrcNs = none :=
    (Machine.exec_inv sleepInv_step hsleep h).anchor
  have hstart : s.NoTimeSince s.playedNs := ⟨hsleep.asleep (by rw [hpc]; rfl), fun _ => rfl⟩
  have hnow := (Machine.exec_inv_along noTimeSince_step hstart hwait h).now (by rw [hpc']; rfl)
  unfold Pacer.OnSchedule
  rw [hnow, Int.sub_self, scaled_zero]
  cases ht0 : s'.pacer.t0Src with
  | none => simp [Pacer.due_of_fresh hspeed ht0, hanchor]
  | some t0 =>
      rw [Pacer.due_of_baseline hspeed ht0]
      constructor
      · intro heq t hmem
        obtain rfl := Option.some.inj hmem
        omega
      · intro hall
        have := hall t0 rfl
        omega

end PacedFeed

/-! ## Replay -/

/-- Another restart is under way, and the offset has not moved on. -/
def LoopPc.restarting : LoopPc → Bool
  | .requested | .entered _ | .begun _ => true
  | _ => false

/-- The callback is about to mark the playback as finished. -/
def StreamPc.isMarking : StreamPc → Bool
  | .marking _ _ _ => true
  | _ => false

/-- The frame that a callback paces. -/
def StreamPc.paced : StreamPc → Option FrameStamp
  | .pacing _ st => some st
  | _ => none

namespace PacedReplay

/-- The time up to the first frame of the new cycle: no other restart, no end of a
session, speeds above zero. -/
def InCycle (s : PacedReplay) : PacedReplayStep → Prop
  | .replay .requestRestart => False
  | .replay .dispatch => s.replay.bus.head?.all (·.gen ≠ s.replay.gen) = true
  | .replay .stream => s.replay.stream.isMarking = false
  | .setSpeed speed => 0 < speed
  | _ => True

instance (s : PacedReplay) (a : PacedReplayStep) : Decidable (s.InCycle a) :=
  match a with
  | .replay .requestRestart => isFalse id
  | .replay .dispatch | .replay .stream => inferInstanceAs (Decidable (_ = _))
  | .setSpeed speed => inferInstanceAs (Decidable (0 < speed))
  | .tick _ | .replay .newSample | .replay .postEos | .replay .pause | .replay .resume
  | .replay (.setLoop _) | .replay .main | .replay .seekFails | .replay .quiesce | .replay .gate
  | .replay .gateResume => isTrue trivial

/-- Wall time passes in a pause only (no callback is inside a sleep that the seek has
to wait for), and no frame of the old cycle has been waited for when the pacer is
rebased. -/
def Clean (s : PacedReplay) : PacedReplayStep → Prop
  | .tick _ => s.replay.playback.state = .paused
  | .setSpeed speed => speed ≠ s.pacer.speed → s.pacer.lastSrc = none
  | .replay .resume | .replay .gateResume =>
    s.replay.playback.state = .paused → s.frames = 0 ∨ s.pacer.t0Src = none
  | _ => True

instance (s : PacedReplay) (a : PacedReplayStep) : Decidable (s.Clean a) :=
  match a with
  | .tick _ => inferInstanceAs (Decidable (_ = _))
  | .setSpeed _ => inferInstanceAs (Decidable (_ ≠ _ → _ = _))
  | .replay .resume | .replay .gateResume => inferInstanceAs (Decidable (_ = _ → _ ∨ _))
  | .replay .newSample | .replay .stream | .replay .postEos | .replay .pause
  | .replay (.setLoop _) | .replay .requestRestart | .replay .main | .replay .seekFails
  | .replay .dispatch | .replay .quiesce | .replay .gate => isTrue trivial

/-- The pacer since a restart: it has no baseline, or one that puts the new zero at the
present instant, or that the next resume replaces. -/
structure Afresh (restartNs zeroNs : Int) (cfg : PacedReplayConfig) (s : PacedReplay) : Prop where
  now : s.playedNs = restartNs
  zero : s.zero cfg = zeroNs
  anchor : s.pacer.anchorSrcNs = some zeroNs
  speed : 0 < s.pacer.speed
  calm : s.replay.main.restarting = false
  flag : s.replay.playback.restartPending = false
  fresh : s.pacer.t0Src = none → s.pacer.lastSrc = none
  base : ∀ t0 ∈ s.pacer.t0Src, t0 = zeroNs ∧ (s.pacer.t0Wall = s.clock ∨
    s.replay.playback.state = .paused ∧ (s.replay.stream.paced ≠ none → s.wakeAt ≠ none))

/-- What a statement of the streaming thread leaves alone, outside the end of playback. -/
structure StreamKeeps (s s' : Replay) : Prop where
  offset : s'.offset = s.offset
  main : s'.main = s.main
  state : s'.playback.state = s.playback.state
  flag : s'.playback.restartPending = false
  paced : s'.stream.paced ≠ none → s.playback.state ≠ .paused

theorem streamKeeps {cfg : ReplayConfig} {s s' : Replay} (hflag : s.playback.restartPending = false)
    (hmark : s.stream.isMarking = false) (h : s.streamStep cfg = some s') : StreamKeeps s s' := by
  cases hpc : s.stream with
  | marking => rw [hpc] at hmark; cases hmark
  | holding f st =>
      simp only [Replay.streamStep, hpc, Option.map_eq_some_iff] at h
      obtain ⟨⟨v, pb⟩, hlook, rfl⟩ := h
      obtain ⟨rfl, rfl | ⟨rfl, hplaying⟩⟩ := waitIfPaused_of_not_pending hflag hlook
      · exact ⟨rfl, rfl, rfl, hflag, fun hp => absurd rfl hp⟩
      · exact ⟨rfl, rfl, rfl, hflag, fun _ => hplaying⟩
  | holdingAgain f st =>
      simp only [Replay.streamStep, hpc, Option.map_eq_some_iff] at h
      obtain ⟨⟨v, pb⟩, hlook, rfl⟩ := h
      obtain ⟨rfl, -⟩ := waitIfPaused_of_not_pending hflag hlook
      exact ⟨rfl, rfl, rfl, hflag, fun hp => absurd rfl hp⟩
  | outside => simp [Replay.streamStep, hpc] at h
  | entered | indexed | loaded | excess | failing | finishing | excessOut | stamped | pacing =>
      simp only [Replay.streamStep, hpc, Option.some.injEq] at h
      subst h
      refine ⟨rfl, rfl, rfl, hflag, ?_⟩
      grind [StreamPc.paced, Replay.deliver]
  | counted | lastRow | idling | shifted | pastEnd | inWindow =>
      simp only [Replay.streamStep, hpc] at h
      constructor <;> grind [StreamPc.paced, PlaybackState.takePreroll]

section Afresh

variable {restartNs zeroNs : Int} {cfg : PacedReplayConfig} {s s' : PacedReplay}

/-- The source moves on, and the pacer does not. -/
theorem Afresh.moved (h : Afresh restartNs zeroNs cfg s) {replay : Replay} {frames : Nat}
    {resetDone : Bool} {wakeAt : Option Int} (hoffset : replay.offset = s.replay.offset)
    (hcalm : replay.main.restarting = false) (hflag : replay.playback.restartPending = false)
    (hpaused : s.replay.playback.state = .paused →
      (s.replay.stream.paced ≠ none → s.wakeAt ≠ none) →
        replay.playback.state = .paused ∧ (replay.stream.paced ≠ none → wakeAt ≠ none)) :
    Afresh restartNs zeroNs cfg { s with replay, frames, resetDone, wakeAt } where
  now := h.now
  zero := by
    show cfg.epochNs + replay.offset = zeroNs
    rw [hoffset]
    exact h.zero
  anchor := h.anchor
  speed := h.speed
  calm := hcalm
  flag := hflag
  fresh := h.fresh
  base t0 ht0 := by
    obtain ⟨hzero, hnow | ⟨hp, hw⟩⟩ := h.base t0 ht0
    · exact ⟨hzero, .inl hnow⟩
    · exact ⟨hzero, .inr (hpaused hp hw)⟩

theorem afresh_tick (h : Afresh restartNs zeroNs cfg s) {ns : Nat}
    (hpaused : s.replay.playback.state = .paused) (hpass : s.CanPass cfg ns) :
    Afresh restartNs zeroNs cfg (s.pass ns) := by
  have hplayed : (s.pass ns).playedNs = s.playedNs := by rw [pass, if_pos hpaused]
  refine ⟨hplayed.trans h.now, h.zero, h.anchor, h.speed, h.calm, h.flag, h.fresh,
    fun t0 ht0 => ⟨(h.base t0 ht0).1, .inr ⟨hpaused, fun hpaced hwake => ?_⟩⟩⟩
  -- a thread that is about to wait is not held, and lets no time pass
  obtain ⟨-, hstill⟩ := hpass
  rw [show s.wakeAt = none from hwake] at hstill
  have hwaits : s.Waits := hstill
  unfold Waits at hwaits
  split at hwaits
  · next hpc => exact hpaced (by rw [show (s.pass ns).replay.stream = _ from hpc]; rfl)
  · next hpc => exact hpaced (by rw [show (s.pass ns).replay.stream = _ from hpc]; rfl)
  · next hpc => exact hpaced (by rw [show (s.pass ns).replay.stream = _ from hpc]; rfl)
  · exact hwaits

theorem afresh_setSpeed (h : Afresh restartNs zeroNs cfg s) {speed : ℚ} (hpos : 0 < speed)
    (hclean : speed ≠ s.pacer.speed → s.pacer.lastSrc = none) :
    Afresh restartNs zeroNs cfg (s.setSpeed speed) := by
  unfold setSpeed
  split
  · exact h.moved rfl h.calm h.flag fun hp hw => ⟨hp, hw⟩
  · next hgo =>
      rw [not_or, not_or] at hgo
      have hlast := hclean hgo.2.2
      have hpacer : s.pacer.setSpeed speed s.clock = { s.pacer with speed := speed } := by
        simp [Pacer.setSpeed, Pacer.rebase, hlast]
      rw [hpacer]
      exact ⟨h.now, h.zero, h.anchor, hpos, h.calm, h.flag, h.fresh, h.base⟩

/-- A wait of the streaming thread. -/
theorem afresh_wait (h : Afresh restartNs zeroNs cfg s) {f : ReplayFrame} {st : FrameStamp}
    (hpc : s.replay.stream = .pacing f st) (hwake : s.wakeAt = none) :
    Afresh restartNs zeroNs cfg { s with
      pacer := (s.pacer.wait st.timestampNs s.clock).1
      wakeAt := some (s.pacer.wait st.timestampNs s.clock).2 } := by
  have hspeed : ¬ s.pacer.speed ≤ 0 := not_le.mpr h.speed
  have hbase : ∀ t0 ∈ (s.pacer.wait st.timestampNs s.clock).1.t0Src,
      t0 = zeroNs ∧ (s.pacer.wait st.timestampNs s.clock).1.t0Wall = s.clock := by
    intro t0 ht0
    cases hsrc : s.pacer.t0Src with
    | none =>
        simp only [Pacer.wait, if_neg hspeed, hsrc, h.anchor, Option.mem_some_iff] at ht0 ⊢
        exact ⟨ht0.symm, trivial⟩
    | some src =>
        simp only [Pacer.wait, if_neg hspeed, hsrc, Option.mem_some_iff] at ht0 ⊢
        obtain ⟨hzero, hnow | ⟨-, hwait⟩⟩ := h.base src hsrc
        · exact ⟨ht0 ▸ hzero, hnow⟩
        · exact absurd hwake (hwait (by rw [hpc]; exact Option.some_ne_none st))
  refine ⟨h.now, h.zero, ?_, ?_, h.calm, h.flag, fun hnone => ?_,
    fun t0 ht0 => ⟨(hbase t0 ht0).1, .inl (hbase t0 ht0).2⟩⟩
  · rw [Pacer.anchorSrcNs_wait]
    exact h.anchor
  · rw [Pacer.speed_wait]
    exact h.speed
  · cases hsrc : s.pacer.t0Src with
    | none => simp [Pacer.wait, hspeed, hsrc, h.anchor] at hnone
    | some src => simp [Pacer.wait, hspeed, hsrc] at hnone

theorem afresh_streamStep (h : Afresh restartNs zeroNs cfg s)
    (hmark : s.replay.stream.isMarking = false) (hs : s.streamStep cfg = some s') :
    Afresh restartNs zeroNs cfg s' := by
  have hplain : ∀ {frames : Nat} {wakeAt : Option Int},
      plain cfg { s with frames := frames, wakeAt := wakeAt } .stream = some s' →
        Afresh restartNs zeroNs cfg s' := by
    intro frames wakeAt ht
    obtain ⟨replay, hreplay, rfl⟩ := plain_eq_some ht
    have hkeeps := streamKeeps h.flag hmark hreplay
    refine h.moved hkeeps.offset (hkeeps.main ▸ h.calm) hkeeps.flag fun hp _ => ?_
    exact ⟨hkeeps.state ▸ hp, fun hpaced => absurd hp (hkeeps.paced hpaced)⟩
  unfold streamStep at hs
  split at hs
  · next f st hpc hwake => exact Option.some.inj hs ▸ afresh_wait h hpc hwake
  · split at hs
    · exact hplain hs
    · cases hs
  · exact hplain hs
  · exact hplain hs

/-- A resume starts the timeline at its zero, or finds no baseline to move. -/
theorem afresh_resume (h : Afresh restartNs zeroNs cfg s)
    (hclean : s.replay.playback.state = .paused → s.frames = 0 ∨ s.pacer.t0Src = none)
    {playback : PlaybackState} (hflag : playback.restartPending = false) :
    Afresh restartNs zeroNs cfg
      { s.resume with replay := { s.replay with playback := playback } } := by
  by_cases hpaused : s.replay.playback.state = .paused
  · by_cases hrelease : s.frames = 0
    · have hresume : s.resume =
          { s with pacer := (s.pacer.reset s.pacer.anchorSrcNs).anchorNow s.clock } := by
        rw [resume, if_neg (not_not.mpr hpaused), if_pos ⟨hrelease, by rw [h.anchor]; rfl⟩]
      have hpacer : (s.pacer.reset s.pacer.anchorSrcNs).anchorNow s.clock =
          { s.pacer with t0Src := some zeroNs, t0Wall := s.clock, lastSrc := none } := by
        simp [Pacer.reset, Pacer.anchorNow, h.anchor]
      rw [hresume, hpacer]
      refine ⟨h.now, h.zero, h.anchor, h.speed, h.calm, hflag, nofun, fun t0 ht0 => ?_⟩
      exact ⟨(Option.some.inj ht0).symm, .inl rfl⟩
    · have hnone := (hclean hpaused).resolve_left hrelease
      have hresume : s.resume = s := by
        rw [resume, if_neg (not_not.mpr hpaused), if_neg fun hr => hrelease hr.1, Pacer.rebase,
          h.fresh hnone]
      rw [hresume]
      refine ⟨h.now, h.zero, h.anchor, h.speed, h.calm, hflag, h.fresh, fun t0 ht0 => ?_⟩
      rw [show s.pacer.t0Src = none from hnone] at ht0
      cases ht0
  · have hresume : s.resume = s := by rw [resume, if_pos hpaused]
    rw [hresume]
    refine ⟨h.now, h.zero, h.anchor, h.speed, h.calm, hflag, h.fresh, fun t0 ht0 => ?_⟩
    obtain ⟨hzero, hnow⟩ := h.base t0 ht0
    exact ⟨hzero, .inl (hnow.resolve_right fun hp => hpaused hp.1)⟩

/-- The rest of a restart leaves the offset and the playback alone. -/
theorem mainKeeps {cfg : ReplayConfig} {s s' : Replay} (hcalm : s.main.restarting = false)
    (h : s.mainStep cfg = some s') : s'.offset = s.offset ∧ s'.playback = s.playback ∧
      s'.stream = s.stream ∧ s'.main.restarting = false := by
  unfold Replay.mainStep at h
  split at h <;> grind [LoopPc.restarting]

theorem afresh_mainStep (h : Afresh restartNs zeroNs cfg s) (hs : s.mainStep cfg = some s') :
    Afresh restartNs zeroNs cfg s' := by
  have hplain : ∀ {resetDone : Bool},
      plain cfg { s with resetDone := resetDone } .main = some s' →
        Afresh restartNs zeroNs cfg s' := by
    intro resetDone ht
    obtain ⟨replay, hreplay, rfl⟩ := plain_eq_some ht
    obtain ⟨hoffset, hplayback, hstream, hcalm⟩ := mainKeeps h.calm hreplay
    refine h.moved hoffset hcalm (hplayback ▸ h.flag) fun hp hw => ⟨hplayback ▸ hp, ?_⟩
    rw [hstream]
    exact hw
  have hcalm := h.calm
  unfold mainStep at hs
  split at hs
  · next hmain => rw [hmain] at hcalm; cases hcalm
  · obtain rfl := Option.some.inj hs
    exact ⟨h.now, h.zero, congrArg some h.zero, h.speed, h.calm, h.flag, fun _ => rfl, nofun⟩
  · exact hplain hs
  · exact hplain hs

/-- A message of a reader that has been replaced is dropped. -/
theorem afresh_dispatch (h : Afresh restartNs zeroNs cfg s)
    (hstale : s.replay.bus.head?.all (·.gen ≠ s.replay.gen) = true)
    (hs : s.dispatch cfg = some s') : Afresh restartNs zeroNs cfg s' := by
  unfold dispatch at hs
  split at hs
  · next t ht =>
      obtain ⟨replay, hreplay, rfl⟩ := plain_eq_some ht
      simp only [Replay.step] at hreplay
      split at hreplay
      · next m bus hbus =>
          rw [hbus, List.head?_cons, Option.all_some, decide_eq_true_eq] at hstale
          obtain ⟨hidle, hold⟩ := Replay.whenIdle_eq_some hreplay
          have hreplay' : replay = { s.replay with bus := bus } := by
            rw [← hold, Replay.onEos, if_pos (.inl hstale)]
          subst hreplay'
          have hmain : s.replay.main = .idle := hidle
          simp only [hmain, Option.some.injEq] at hs
          subst hs
          exact h.moved rfl rfl h.flag fun hp hw => ⟨hp, hw⟩
      · cases hreplay
  · cases hs

/-- **Step lemma**: the pacer stays fresh up to the first frame. -/
theorem afresh_step (s : PacedReplay) (a : PacedReplayStep) (s' : PacedReplay)
    (h : Afresh restartNs zeroNs cfg s) (hc : s.InCycle a ∧ s.Clean a)
    (hs : step cfg s a = some s') : Afresh restartNs zeroNs cfg s' := by
  have hplain : ∀ {b : ReplayStep}, plain cfg s b = some s' →
      (∀ replay, Replay.step cfg.replay s.replay b = some replay →
        replay.offset = s.replay.offset ∧ replay.main.restarting = false ∧
        replay.playback.restartPending = false ∧
        (s.replay.playback.state = .paused → replay.playback.state = .paused) ∧
        (replay.stream.paced ≠ none → s.replay.stream.paced ≠ none)) →
      Afresh restartNs zeroNs cfg s' := by
    intro b hb hkeeps
    obtain ⟨replay, hreplay, rfl⟩ := plain_eq_some hb
    obtain ⟨hoffset, hcalm, hflag, hstate, hpaced⟩ := hkeeps replay hreplay
    exact h.moved hoffset hcalm hflag fun hp hw => ⟨hstate hp, fun hn => hw (hpaced hn)⟩
  have hresume : ∀ {b : ReplayStep} (playback : PlaybackState),
      plain cfg s.resume b = some s' → playback.restartPending = false →
      (s.replay.playback.state = .paused → s.frames = 0 ∨ s.pacer.t0Src = none) →
      (∀ replay, Replay.step cfg.replay s.replay b = some replay →
        replay = { s.replay with playback := playback }) → Afresh restartNs zeroNs cfg s' := by
    intro b playback hb hflag hclean hto
    obtain ⟨replay, hreplay, rfl⟩ := plain_eq_some hb
    rw [replay_resume] at hreplay
    obtain rfl := hto replay hreplay
    exact afresh_resume h hclean hflag
  cases a with
  | tick ns =>
      simp only [step] at hs
      split at hs
      · next hpass => exact Option.some.inj hs ▸ afresh_tick h hc.2 hpass
      · cases hs
  | setSpeed speed =>
      simp only [step] at hs
      split at hs
      · exact Option.some.inj hs ▸ afresh_setSpeed h hc.1 hc.2
      · cases hs
  | replay a =>
      cases a with
      | stream => exact afresh_streamStep h hc.1 hs
      | main => exact afresh_mainStep h hs
      | dispatch => exact afresh_dispatch h hc.1 hs
      | requestRestart => exact hc.1.elim
      | resume =>
          refine hresume s.replay.playback.resume hs h.flag hc.2 fun t ht => ?_
          exact (Replay.whenIdle_eq_some ht).2.symm
      | gateResume =>
          refine hresume s.replay.playback.gateResume hs h.flag hc.2 fun t ht => ?_
          simp only [Replay.step] at ht
          split at ht
          · exact (Option.some.inj ht).symm
          · cases ht
      | newSample | postEos =>
          refine hplain hs fun t ht => ?_
          simp only [Replay.step] at ht
          split at ht
          · obtain rfl := Option.some.inj ht
            exact ⟨rfl, h.calm, h.flag, id, by simp [StreamPc.paced]⟩
          · cases ht
      | pause =>
          refine hplain hs fun t ht => ?_
          obtain ⟨-, rfl⟩ := Replay.whenIdle_eq_some ht
          exact ⟨rfl, h.calm, h.flag, fun hp => if_neg (by simp [hp]), id⟩
      | setLoop loop =>
          refine hplain hs fun t ht => ?_
          obtain ⟨-, rfl⟩ := Replay.whenIdle_eq_some ht
          exact ⟨rfl, h.calm, h.flag, id, id⟩
      | seekFails =>
          refine hplain hs fun t ht => ?_
          simp only [Replay.step] at ht
          split at ht
          · obtain rfl := Option.some.inj ht
            exact ⟨rfl, rfl, h.flag, id, id⟩
          · cases ht
      | quiesce =>
          refine hplain hs fun t ht => ?_
          simp only [Replay.step] at ht
          split at ht
          · obtain ⟨-, rfl⟩ := Replay.whenIdle_eq_some ht
            exact ⟨rfl, h.calm, h.flag, id, id⟩
          · cases ht
      | gate =>
          refine hplain hs fun t ht => ?_
          simp only [Replay.step] at ht
          split at ht
          · obtain rfl := Option.some.inj ht
            exact ⟨rfl, h.calm, h.flag, id, id⟩
          · cases ht

end Afresh

/-- Between `take_restart` and the next statement no restart is pending. -/
def FlagTaken (s : Replay) : Prop := ∀ r, s.main = .taken r → s.playback.restartPending = false

theorem flagTaken_step {cfg : ReplayConfig} (s : Replay) (a : ReplayStep) (s' : Replay)
    (h : FlagTaken s) (hs : Replay.step cfg s a = some s') : FlagTaken s' := by
  intro r hr
  cases a with
  | stream =>
      have hframe := streamFrame_of_streamStep cfg hs
      exact hframe.flag (h r (hframe.main ▸ hr))
  | main =>
      simp only [Replay.step, Replay.mainStep] at hs
      split at hs <;> grind [PlaybackState.takeRestart]
  | dispatch =>
      simp only [Replay.step] at hs
      split at hs
      · obtain ⟨hidle, rfl⟩ := Replay.whenIdle_eq_some hs
        have hidle' : s.main = .idle := hidle
        grind [Replay.onEos, Replay.finish]
      · cases hs
  | pause | resume | setLoop loop | requestRestart =>
      obtain ⟨hidle, rfl⟩ := Replay.whenIdle_eq_some hs
      grind
  | quiesce =>
      simp only [Replay.step] at hs
      split at hs
      · obtain ⟨hidle, rfl⟩ := Replay.whenIdle_eq_some hs
        grind
      · cases hs
  | newSample | postEos | seekFails | gate | gateResume =>
      simp only [Replay.step] at hs
      grind [FlagTaken, PlaybackState.fireGate, PlaybackState.gateResume, PlaybackState.resume]

/-- **A replay restart**: as long as wall time passes in a pause only and no frame of
the old cycle has been waited for when the pacer is rebased, the first frame waited
for is on schedule. -/
theorem replay_onSchedule {cfg : PacedReplayConfig} {playback : PlaybackState} {speed : ℚ}
    {s s' : PacedReplay} (hs : Machine.Reachable (step cfg) (init cfg playback speed) s)
    {r : RestartCall} (hmain : s.replay.main = .taken r) (hreset : s.resetDone = false)
    (hspeed : 0 < s.pacer.speed) {steps : List PacedReplayStep}
    (hcycle : Machine.Along (step cfg) InCycle s (.replay .main :: steps))
    (hclean : Machine.Along (step cfg) Clean s (.replay .main :: steps))
    (h : Machine.exec (step cfg) s (.replay .main :: steps) = some s')
    {f : ReplayFrame} {st : FrameStamp} (hpc : s'.replay.stream = .pacing f st)
    (hwake : s'.wakeAt = none) :
    s'.pacer.OnSchedule s.playedNs s'.playedNs s'.clock (s'.zero cfg) st.timestampNs := by
  have hflag : FlagTaken s.replay :=
    (reachable_replay hs).inv flagTaken_step fun r hr => by cases hr
  -- the reset
  have hfirst : step cfg s (.replay .main) =
      some { s with pacer := s.pacer.reset (some (s.zero cfg)), resetDone := true } := by
    simp only [step, mainStep, hmain, hreset]
  have hstart : Afresh s.playedNs (s.zero cfg) cfg
      { s with pacer := s.pacer.reset (some (s.zero cfg)), resetDone := true } :=
    ⟨rfl, rfl, rfl, hspeed, by rw [hmain]; rfl, hflag r hmain, fun _ => rfl,
      fun _ ht0 => by cases ht0⟩
  rw [Machine.exec_cons, hfirst] at h
  have hrest := (hcycle.and hclean).2
  simp only [hfirst] at hrest
  have hend := Machine.exec_inv_along afresh_step hstart hrest h
  unfold Pacer.OnSchedule
  rw [hend.now, hend.zero]
  cases ht0 : s'.pacer.t0Src with
  | none =>
      rw [Pacer.due_of_fresh hend.speed ht0, hend.anchor, Option.getD_some]
      omega
  | some t0 =>
      obtain ⟨hzero, hnow | ⟨-, hwait⟩⟩ := hend.base t0 ht0
      · rw [Pacer.due_of_baseline hend.speed ht0, Pacer.target, hnow, hzero]
        omega
      · exact absurd hwake (hwait (by rw [hpc]; exact Option.some_ne_none st))

end PacedReplay

/-! ## Both sources -/

/-- **A restart starts a fresh pace**: a pcap's does if and only if the pacer has no
baseline, or the old one has the first frame due at that instant; a replay's does as
long as no sleep stands between it and its first frame, and no rebase onto a frame of
the old cycle. -/
theorem restart_paces_afresh (playback : PlaybackState) (speed : ℚ) :
    (∀ (cfg : PcapConfig) (s s' : PacedFeed) (steps : List PacedStep) (st : FrameStamp)
        (bytes : List UInt8),
      Machine.Reachable (PacedFeed.step cfg) (.init playback speed) s →
      s.feed.pc = .passed true →
      Machine.Along (PacedFeed.step cfg) PacedFeed.NoWait s steps →
      Machine.exec (PacedFeed.step cfg) s steps = some s' →
      s'.feed.pc = .pacing st bytes → 0 < s'.pacer.speed →
        (s'.pacer.OnSchedule s.playedNs s'.playedNs s'.clock st.timestampNs st.timestampNs ↔
          ∀ t0 ∈ s'.pacer.t0Src, s'.pacer.target t0 st.timestampNs = s'.clock)) ∧
    (∀ (cfg : PacedReplayConfig) (s s' : PacedReplay) (r : RestartCall)
        (steps : List PacedReplayStep) (f : ReplayFrame) (st : FrameStamp),
      Machine.Reachable (PacedReplay.step cfg) (.init cfg playback speed) s →
      s.replay.main = .taken r → s.resetDone = false → 0 < s.pacer.speed →
      Machine.Along (PacedReplay.step cfg) PacedReplay.InCycle s (.replay .main :: steps) →
      Machine.Along (PacedReplay.step cfg) PacedReplay.Clean s (.replay .main :: steps) →
      Machine.exec (PacedReplay.step cfg) s (.replay .main :: steps) = some s' →
      s'.replay.stream = .pacing f st → s'.wakeAt = none →
        s'.pacer.OnSchedule s.playedNs s'.playedNs s'.clock (s'.zero cfg) st.timestampNs) :=
  ⟨fun _ _ _ _ _ _ hs hpc hwait h hpc' hspeed =>
      PacedFeed.pcap_onSchedule_iff hs hpc hwait h hpc' hspeed,
    fun _ _ _ _ _ _ _ hs hmain hreset hspeed hcycle hclean h hpc hwake =>
      PacedReplay.replay_onSchedule hs hmain hreset hspeed hcycle hclean h hpc hwake⟩

/-- The two frames, on their own timeline. -/
def pacedFrames : PacedReplayConfig := { replay := twoFrames, epochNs := 10, capNs := 0 }

/-- Statements of the streaming thread, and of the main loop. -/
def callback (n : Nat) : List PacedReplayStep := List.replicate n (.replay .stream)

def mainLoop (n : Nat) : List PacedReplayStep := List.replicate n (.replay .main)

/-- A pcap restart before the first frame is paced, and a replay restart between two
frames. -/
theorem restart_paces_afresh_runs :
    (∃ s s' : PacedFeed,
      Machine.exec (PacedFeed.step threeShots) (.init (.boot false true false) 1)
        (PacedFeed.statements 5 ++ .feed .requestRestart :: PacedFeed.statements 1) = some s ∧
      Machine.exec (PacedFeed.step threeShots) s (PacedFeed.statements 8) = some s' ∧
      s'.pacer.OnSchedule s.playedNs s'.playedNs s'.clock 33333343 33333343) ∧
    ∃ s s' : PacedReplay,
      Machine.exec (PacedReplay.step pacedFrames) (.init pacedFrames (.boot false true false) 1)
        (.replay .newSample :: callback 11 ++ .replay .requestRestart :: mainLoop 3) = some s ∧
      Machine.exec (PacedReplay.step pacedFrames) s
        (.replay .main :: (mainLoop 4 ++ .replay .newSample :: callback 7)) = some s' ∧
      s'.pacer.OnSchedule s.playedNs s'.playedNs s'.clock (s'.zero pacedFrames) 30 := by
  constructor
  · have hrun : ((Machine.exec (PacedFeed.step threeShots) (.init (.boot false true false) 1)
        (PacedFeed.statements 5 ++ .feed .requestRestart :: PacedFeed.statements 1)).bind fun s =>
          (Machine.exec (PacedFeed.step threeShots) s (PacedFeed.statements 8)).map fun s' =>
            (s.feed.pc, s'.feed.pc, s'.pacer,
              decide (Machine.Along (PacedFeed.step threeShots) PacedFeed.NoWait s
                (PacedFeed.statements 8)))) =
        some (.passed true, .pacing (pcapStamp 0 33333343) [0xff, 0xd8, 0xff, 0xd9],
          .start 1 none, true) := by
      decide +kernel
    obtain ⟨s, hs, hrest⟩ := Option.bind_eq_some_iff.mp hrun
    obtain ⟨s', hs', hfacts⟩ := Option.map_eq_some_iff.mp hrest
    simp only [Prod.mk.injEq, decide_eq_true_eq] at hfacts
    obtain ⟨hpc, hpc', hpacer, hwait⟩ := hfacts
    refine ⟨s, s', hs, hs', ?_⟩
    refine ((restart_paces_afresh (.boot false true false) 1).1 threeShots s s' _ _ _ ⟨_, hs⟩ hpc
      hwait hs' hpc' (by rw [hpacer]; decide)).mpr ?_
    rw [hpacer]
    nofun
  · have hrun : ((Machine.exec (PacedReplay.step pacedFrames)
        (.init pacedFrames (.boot false true false) 1)
        (.replay .newSample :: callback 11 ++ .replay .requestRestart :: mainLoop 3)).bind fun s =>
          (Machine.exec (PacedReplay.step pacedFrames) s
            (.replay .main :: (mainLoop 4 ++ .replay .newSample :: callback 7))).map fun s' =>
              ((s.replay.main, s.resetDone, s.pacer.speed), s'.replay.stream, s'.wakeAt,
                decide (Machine.Along (PacedReplay.step pacedFrames) PacedReplay.InCycle s
                  (.replay .main :: (mainLoop 4 ++ .replay .newSample :: callback 7))),
                decide (Machine.Along (PacedReplay.step pacedFrames) PacedReplay.Clean s
                  (.replay .main :: (mainLoop 4 ++ .replay .newSample :: callback 7))))) =
        some ((.taken ⟨false, false⟩, false, 1),
          .pacing ⟨1, 0, 0⟩ (shiftStamp (plainStamp 10) 20), none, true, true) := by
      decide +kernel
    obtain ⟨s, hs, hrest⟩ := Option.bind_eq_some_iff.mp hrun
    obtain ⟨s', hs', hfacts⟩ := Option.map_eq_some_iff.mp hrest
    simp only [Prod.mk.injEq, decide_eq_true_eq] at hfacts
    obtain ⟨⟨hmain, hreset, hspeed⟩, hpc, hwake, hcycle, hclean⟩ := hfacts
    exact ⟨s, s', hs, hs', (restart_paces_afresh (.boot false true false) 1).2 pacedFrames s s'
      ⟨false, false⟩ (mainLoop 4 ++ .replay .newSample :: callback 7) ⟨1, 0, 0⟩
      (shiftStamp (plainStamp 10) 20) ⟨_, hs⟩ hmain hreset (by rw [hspeed]; decide) hcycle hclean
      hs' hpc hwake⟩

/-- A pcap restart with the second frame in hand: the first frame of the new cycle is
due 20 ns late.  A replay restart 4 ns into the sleep for its second frame: the first
frame of the new cycle is due 6 ns late. -/
theorem not_restart_paces_afresh :
    (¬ ∀ (playback : PlaybackState) (speed : ℚ) (cfg : PcapConfig) (s s' : PacedFeed)
        (steps : List PacedStep) (st : FrameStamp) (bytes : List UInt8),
      Machine.Reachable (PacedFeed.step cfg) (.init playback speed) s →
      s.feed.pc = .passed true →
      Machine.Along (PacedFeed.step cfg) PacedFeed.NoWait s steps →
      Machine.exec (PacedFeed.step cfg) s steps = some s' →
      s'.feed.pc = .pacing st bytes → 0 < s'.pacer.speed →
        s'.pacer.OnSchedule s.playedNs s'.playedNs s'.clock st.timestampNs st.timestampNs) ∧
    ¬ ∀ (playback : PlaybackState) (speed : ℚ) (cfg : PacedReplayConfig) (s s' : PacedReplay)
        (r : RestartCall) (steps : List PacedReplayStep) (f : ReplayFrame) (st : FrameStamp),
      Machine.Reachable (PacedReplay.step cfg) (.init cfg playback speed) s →
      s.replay.main = .taken r → s.resetDone = false → 0 < s.pacer.speed →
      Machine.Along (PacedReplay.step cfg) PacedReplay.InCycle s (.replay .main :: steps) →
      Machine.exec (PacedReplay.step cfg) s (.replay .main :: steps) = some s' →
      s'.replay.stream = .pacing f st → s'.wakeAt = none →
        s'.pacer.OnSchedule s.playedNs s'.playedNs s'.clock (s'.zero cfg) st.timestampNs := by
  constructor
  · intro h
    have hrun : ((Machine.exec (PacedFeed.step threeShots) (.init (.boot false true false) 1)
        (PacedFeed.statements 14 ++ .feed .requestRestart :: PacedFeed.statements 2)).bind fun s =>
          (Machine.exec (PacedFeed.step threeShots) s (PacedFeed.statements 8)).map fun s' =>
            (s.feed.pc, s'.feed.pc, s'.pacer.speed,
              decide (Machine.Along (PacedFeed.step threeShots) PacedFeed.NoWait s
                (PacedFeed.statements 8)),
              decide (s'.pacer.OnSchedule s.playedNs s'.playedNs s'.clock 30 30))) =
        some (.passed true, .pacing (pcapStamp 0 30) [0xff, 0xd8, 0xff, 0xd9], 1, true, false) := by
      decide +kernel
    obtain ⟨s, hs, hrest⟩ := Option.bind_eq_some_iff.mp hrun
    obtain ⟨s', hs', hfacts⟩ := Option.map_eq_some_iff.mp hrest
    simp only [Prod.mk.injEq, decide_eq_true_eq, decide_eq_false_iff_not] at hfacts
    obtain ⟨hpc, hpc', hspeed, hwait, hlate⟩ := hfacts
    exact hlate (h (.boot false true false) 1 threeShots s s' (PacedFeed.statements 8)
      (pcapStamp 0 30) [0xff, 0xd8, 0xff, 0xd9] ⟨_, hs⟩ hpc hwait hs' hpc'
      (by rw [hspeed]; decide))
  · intro h
    have hrun : ((Machine.exec (PacedReplay.step pacedFrames)
        (.init pacedFrames (.boot false true false) 1)
        (.replay .newSample :: callback 11 ++ .replay .newSample :: callback 8 ++
          [.tick 4, .replay .requestRestart] ++ mainLoop 3)).bind fun s =>
          (Machine.exec (PacedReplay.step pacedFrames) s
            (.replay .main :: (mainLoop 3 ++ .tick 6 :: callback 3 ++ mainLoop 1 ++
              .replay .newSample :: callback 7))).map fun s' =>
              ((s.replay.main, s.resetDone, s.pacer.speed), s'.replay.stream, s'.wakeAt,
                decide (Machine.Along (PacedReplay.step pacedFrames) PacedReplay.InCycle s
                  (.replay .main :: (mainLoop 3 ++ .tick 6 :: callback 3 ++ mainLoop 1 ++
                    .replay .newSample :: callback 7))),
                decide (s'.pacer.OnSchedule s.playedNs s'.playedNs s'.clock
                  (s'.zero pacedFrames) 30))) =
        some ((.taken ⟨false, false⟩, false, 1), .pacing ⟨1, 0, 0⟩ (shiftStamp (plainStamp 10) 20),
          none, true, false) := by
      decide +kernel
    obtain ⟨s, hs, hrest⟩ := Option.bind_eq_some_iff.mp hrun
    obtain ⟨s', hs', hfacts⟩ := Option.map_eq_some_iff.mp hrest
    simp only [Prod.mk.injEq, decide_eq_true_eq, decide_eq_false_iff_not] at hfacts
    obtain ⟨⟨hmain, hreset, hspeed⟩, hpc, hwake, hcycle, hlate⟩ := hfacts
    exact hlate (h (.boot false true false) 1 pacedFrames s s' ⟨false, false⟩
      (mainLoop 3 ++ .tick 6 :: callback 3 ++ mainLoop 1 ++ .replay .newSample :: callback 7)
      ⟨1, 0, 0⟩ (shiftStamp (plainStamp 10) 20) ⟨_, hs⟩ hmain hreset (by rw [hspeed]; decide)
      hcycle hs' hpc hwake)

end CamDriver
