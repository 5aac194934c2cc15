import Mathlib.Data.List.Chain
import CamDriver.PcapPace

/-!
# CamDriver.PaceLaw

The pacing law of the pcap feeder: between two deliveries there is as much
un-paused wall time as their data takes at the fastest speed in force.

It rests on the baseline being moved at instants only at which the last waited
frame is out.  A rebase during a sleep ties that frame to the instant of the
request instead of its delivery, and a pause during a sleep does not stop the
sleep.
-/

namespace CamDriver

/-! ## The law -/

/-- Two neighbouring deliveries are far enough apart. -/
def FarApart (a b : Delivery) : Prop :=
  scaled b.fastest (b.tsNs - a.tsNs) ≤ b.playedNs - a.playedNs

instance (a b : Delivery) : Decidable (FarApart a b) := inferInstanceAs (Decidable (_ ≤ _))

/-- The frame about to be waited for. -/
def FeedPc.paced : FeedPc → Option FrameStamp
  | .pacing st _ => some st
  | _ => none

/-- A stamped frame that `take_preroll` has not been asked about. -/
def FeedPc.isStamped : FeedPc → Bool
  | .stamped _ _ => true
  | _ => false

namespace PacedFeed

/-- The frame about to be waited for is later than the one before. -/
def Increases (s : PacedFeed) : Prop :=
  s.wakeAt = none → ∀ st ∈ s.feed.pc.paced, ∀ last ∈ s.pacer.lastSrc, last < st.timestampNs

instance (s : PacedFeed) : Decidable s.Increases := inferInstanceAs (Decidable (_ → _))

/-- The runs the law is about: set_speed, pause and resume requests, speeds above
zero, and data timestamps that strictly increase. -/
def InScope (s : PacedFeed) : PacedStep → Prop
  | .feed .requestRestart => False
  | .feed (.feed _) => s.Increases
  | .setSpeed speed => 0 < speed
  | _ => True

instance (s : PacedFeed) (a : PacedStep) : Decidable (s.InScope a) :=
  match a with
  | .feed .requestRestart => isFalse id
  | .feed (.feed _) => inferInstanceAs (Decidable s.Increases)
  | .setSpeed speed => inferInstanceAs (Decidable (0 < speed))
  | .tick _ | .feed .pause | .feed .resume | .feed (.setLoop _) | .feed .gate
  | .feed .gateResume | .feed .miniError | .feed .stop => isTrue trivial

/-- A request for this speed changes it. -/
def Changes (s : PacedFeed) (speed : ℚ) : Prop :=
  s.feed.playback.state ≠ .finished ∧ speed ≠ s.pacer.speed

instance (s : PacedFeed) (speed : ℚ) : Decidable (s.Changes speed) :=
  inferInstanceAs (Decidable (_ ∧ _))

/-- No frame is let through by a boot hold, and during a sleep the playback is not
paused and no speed change takes effect. -/
def Undisturbed (s : PacedFeed) : PacedStep → Prop
  | .feed (.feed _) => s.feed.pc.isStamped = true → s.feed.playback.prerollPending = false
  | .feed .resume | .feed .gateResume | .tick _ => s.Sleeping → s.feed.playback.state ≠ .paused
  | .setSpeed speed => s.Sleeping → ¬ s.Changes speed
  | _ => True

instance (s : PacedFeed) (a : PacedStep) : Decidable (s.Undisturbed a) :=
  match a with
  | .feed (.feed _) => inferInstanceAs (Decidable (_ = _ → _ = _))
  | .feed .resume | .feed .gateResume | .tick _ =>
    inferInstanceAs (Decidable (s.Sleeping → s.feed.playback.state ≠ .paused))
  | .setSpeed speed => inferInstanceAs (Decidable (s.Sleeping → ¬ s.Changes speed))
  | .feed .requestRestart | .feed .pause | .feed (.setLoop _) | .feed .gate | .feed .miniError
  | .feed .stop => isTrue trivial

/-! ## The invariant -/

/-- The last delivery happened now, in un-paused time, and was the last frame waited
for. -/
structure JustOut (s : PacedFeed) : Prop where
  awake : s.wakeAt = none
  src : s.pacer.lastSrc = s.deliveries.getLast?.map Delivery.tsNs
  now : ∀ d ∈ s.deliveries.getLast?, d.playedNs = s.playedNs

/-- `ns` from now the frame `tsNs` is far enough from the last delivery. -/
structure Soon (s : PacedFeed) (tsNs ns : Int) : Prop where
  src : s.pacer.lastSrc = some tsNs
  far : ∀ d ∈ s.deliveries.getLast?, scaled s.fastest (tsNs - d.tsNs) ≤ s.playedNs + ns - d.playedNs
  later : ∀ d ∈ s.deliveries.getLast?, d.tsNs < tsNs

/-- The pacer is on time, or a resume will rebase it. -/
def Ready (s : PacedFeed) : Prop :=
  s.feed.playback.state = .paused ∨ s.pacer.OnTime s.clock

/-- What holds where the feeder is. -/
def PaceAt (s : PacedFeed) : FeedPc → Prop
  | .polling _ _ => s.JustOut ∧ s.pacer.OnTime s.clock
  | .pacing st _ =>
    match s.wakeAt with
    | none => s.JustOut ∧ s.pacer.OnTime s.clock
    | some t => s.Soon st.timestampNs (t - s.clock) ∧ s.pacer.OnTime t ∧ s.clock ≤ t
  | .holdingAgain st _ | .delivering st _ =>
    s.wakeAt = none ∧ s.Soon st.timestampNs 0 ∧ s.Ready
  | .closing | .done => s.wakeAt = none
  | _ => s.JustOut ∧ s.Ready

/-- The invariant of an undisturbed run. -/
structure Pace (s : PacedFeed) : Prop where
  speed : 0 < s.pacer.speed
  fastest : s.pacer.speed ≤ s.fastest
  anchor : s.pacer.anchorSrcNs = none
  fresh : s.pacer.lastSrc = none → s.pacer.t0Src = none
  restart : s.feed.playback.restartPending = false
  log : s.deliveries.IsChain FarApart
  pc : s.PaceAt s.feed.pc

/-! ## Steps -/

/-- A feed that has moved on, and nothing of the pacing with it. -/
theorem Pace.moved {s : PacedFeed} (h : s.Pace) {feed : PcapFeed}
    (hrestart : feed.playback.restartPending = false)
    (hpc : PaceAt { s with feed := feed } feed.pc) : Pace { s with feed := feed } :=
  { h with restart := hrestart, pc := hpc }

theorem pace_init (playback : PlaybackState) (hrestart : playback.restartPending = false)
    {speed : ℚ} (hspeed : 0 < speed) : (init playback speed).Pace where
  speed := hspeed
  fastest := le_refl _
  anchor := rfl
  fresh _ := rfl
  restart := hrestart
  log := List.isChain_nil
  pc := ⟨⟨rfl, rfl, nofun⟩, .inr ⟨nofun⟩⟩

/-- The frame in hand is waited for. -/
theorem pace_wait {s : PacedFeed} (h : s.Pace) {st : FrameStamp} {bytes : List UInt8}
    (hpc : s.feed.pc = .pacing st bytes) (hout : s.JustOut) (htime : s.pacer.OnTime s.clock)
    (hinc : ∀ last ∈ s.pacer.lastSrc, last < st.timestampNs) :
    Pace { s with
      pacer := (s.pacer.wait st.timestampNs s.clock).1
      wakeAt := some (s.pacer.wait st.timestampNs s.clock).2 } := by
  obtain ⟨hwait, hgap⟩ := htime.wait h.speed h.anchor h.fresh hinc
  have hwake := s.pacer.le_wait st.timestampNs s.clock
  have hlast : ∀ d ∈ s.deliveries.getLast?, d.tsNs ∈ s.pacer.lastSrc := by
    intro d hd
    rw [hout.src, Option.mem_def.mp hd]
    rfl
  refine ⟨?_, ?_, ?_, ?_, h.restart, h.log, ?_⟩
  · rw [Pacer.speed_wait]
    exact h.speed
  · rw [Pacer.speed_wait]
    exact h.fastest
  · rw [Pacer.anchorSrcNs_wait]
    exact h.anchor
  · rw [Pacer.lastSrc_wait]
    nofun
  · show PaceAt _ s.feed.pc
    rw [hpc]
    refine ⟨⟨Pacer.lastSrc_wait _ _ _, fun d hd => ?_, fun d hd => hinc _ (hlast d hd)⟩,
      hwait, hwake⟩
    have hlt := hinc _ (hlast d hd)
    have hslow := scaled_le_of_le h.speed h.fastest (d := st.timestampNs - d.tsNs) (by omega)
    have hgap' := hgap _ (hlast d hd)
    have hnow := hout.now d hd
    show scaled s.fastest (st.timestampNs - d.tsNs) ≤
      s.playedNs + ((s.pacer.wait st.timestampNs s.clock).2 - s.clock) - d.playedNs
    omega

/-- The frame in hand is delivered. -/
theorem pace_deliver {s : PacedFeed} (h : s.Pace) {st : FrameStamp}
    (hawake : s.wakeAt = none) (hsoon : s.Soon st.timestampNs 0) (hready : s.Ready)
    {feed : PcapFeed} (hplayback : feed.playback = s.feed.playback) (hpc : feed.pc = .pulling) :
    Pace { s with
      feed := feed
      fastest := s.pacer.speed
      deliveries := s.deliveries ++
        [{ tsNs := st.timestampNs, playedNs := s.playedNs, fastest := s.fastest }] } := by
  refine ⟨h.speed, le_refl _, h.anchor, h.fresh, hplayback ▸ h.restart, ?_, ?_⟩
  · refine List.isChain_append.mpr ⟨h.log, List.isChain_singleton _, fun d hd d' hd' => ?_⟩
    obtain rfl := Option.some.inj hd'
    have hfar := hsoon.far d hd
    show scaled s.fastest (st.timestampNs - d.tsNs) ≤ s.playedNs - d.playedNs
    omega
  · show PaceAt _ feed.pc
    rw [hpc]
    refine ⟨⟨hawake, ?_, ?_⟩, ?_⟩
    · simpa using hsoon.src
    · simp
    · unfold Ready at hready ⊢
      rw [hplayback]
      exact hready

/-- A statement of the feeder before it waits for a frame. -/
theorem pace_before {cfg : PcapConfig} {s s' : PacedFeed} (h : s.Pace) {now : Int}
    (hout : s.JustOut) (hready : s.Ready)
    (hpc : match s.feed.pc with
      | .polling _ _ | .pacing _ _ | .holdingAgain _ _ | .delivering _ _ | .closing | .done => False
      | .stamped _ _ => s.feed.playback.prerollPending = false
      | _ => True)
    (hs : plain cfg s (.feed now) = some s') : s'.Pace := by
  obtain ⟨feed, hfeed, rfl⟩ := plain_eq_some hs
  simp only [PcapFeed.step] at hfeed
  cases hat : s.feed.pc with
  | starting =>
      simp only [PcapFeed.feedStep, hat] at hfeed
      split at hfeed
      · obtain rfl := Option.some.inj hfeed
        exact h.moved h.restart hout.awake
      · obtain rfl := Option.some.inj hfeed
        exact h.moved h.restart ⟨⟨hout.awake, hout.src, hout.now⟩, hready⟩
  | pulling =>
      have hnext : feed.playback = s.feed.playback ∧
          (feed.pc = .closing ∨ feed.pc = .pulling ∨ feed.pc = .passed false ∨
            ∃ idx frame, feed.pc = .stamping idx frame) := by
        simp only [PcapFeed.feedStep, hat] at hfeed
        grind
      obtain ⟨hplayback, hcases⟩ := hnext
      refine h.moved (hplayback ▸ h.restart) ?_
      have hready' : Ready { s with feed := feed } := by
        unfold Ready at hready ⊢
        rw [hplayback]
        exact hready
      rcases hcases with hc | hc | hc | ⟨idx, frame, hc⟩
      · rw [hc]
        exact hout.awake
      all_goals
        rw [hc]
        exact ⟨⟨hout.awake, hout.src, hout.now⟩, hready'⟩
  | stamping idx frame =>
      simp only [PcapFeed.feedStep, hat] at hfeed
      split at hfeed
      · obtain rfl := Option.some.inj hfeed
        exact h.moved h.restart hout.awake
      · obtain rfl := Option.some.inj hfeed
        exact h.moved h.restart ⟨⟨hout.awake, hout.src, hout.now⟩, hready⟩
  | stamped st bytes =>
      rw [hat] at hpc
      simp only [PcapFeed.feedStep, hat, hpc, Bool.false_eq_true, if_false,
        Option.some.injEq] at hfeed
      subst hfeed
      exact h.moved h.restart ⟨⟨hout.awake, hout.src, hout.now⟩, hready⟩
  | holding st bytes =>
      simp only [PcapFeed.feedStep, hat, Option.map_eq_some_iff] at hfeed
      obtain ⟨⟨verdict, pb⟩, hlook, rfl⟩ := hfeed
      obtain ⟨rfl, rfl | ⟨rfl, hplaying⟩⟩ := waitIfPaused_of_not_pending h.restart hlook
      · exact h.moved h.restart hout.awake
      · refine h.moved h.restart ⟨⟨hout.awake, hout.src, hout.now⟩, ?_⟩
        exact hready.resolve_left hplaying
  | passed restarted =>
      have hnext : feed.playback = s.feed.playback ∧
          (feed.pc = .closing ∨ feed.pc = .starting) := by
        simp only [PcapFeed.feedStep, hat, PcapFeed.endPass, PcapFeed.measure] at hfeed
        grind
      obtain ⟨hplayback, hc | hc⟩ := hnext
      · refine h.moved (hplayback ▸ h.restart) ?_
        rw [hc]
        exact hout.awake
      · refine h.moved (hplayback ▸ h.restart) ?_
        rw [hc]
        refine ⟨⟨hout.awake, hout.src, hout.now⟩, ?_⟩
        unfold Ready at hready ⊢
        rw [hplayback]
        exact hready
  | polling | pacing | holdingAgain | delivering | closing | done => rw [hat] at hpc; exact hpc.elim

/-- **A step of the feeder** keeps the invariant. -/
theorem pace_feedStep {cfg : PcapConfig} {s s' : PacedFeed} (h : s.Pace) {now : Int}
    (hscope : s.InScope (.feed (.feed now))) (hcalm : s.Undisturbed (.feed (.feed now)))
    (hs : s.feedStep cfg now = some s') : s'.Pace := by
  have hat := h.pc
  cases hpc : s.feed.pc with
  | polling st bytes =>
      rw [hpc] at hat
      obtain ⟨hout, htime⟩ := hat
      simp only [feedStep, hpc] at hs
      obtain ⟨feed, hfeed, rfl⟩ := plain_eq_some hs
      simp only [PcapFeed.step, PcapFeed.feedStep, hpc, h.restart, Bool.false_eq_true, if_false,
        Option.some.injEq] at hfeed
      subst hfeed
      refine h.moved rfl ?_
      show PaceAt _ (.pacing st bytes)
      simp only [PaceAt, hout.awake]
      exact ⟨⟨rfl, hout.src, hout.now⟩, htime⟩
  | pacing st bytes =>
      rw [hpc] at hat
      cases hwake : s.wakeAt with
      | none =>
          simp only [PaceAt, hwake] at hat
          simp only [feedStep, hpc, hwake, Option.some.injEq] at hs
          subst hs
          have hinc : s.Increases := hscope
          rw [Increases, hpc] at hinc
          exact pace_wait h hpc hat.1 hat.2 (hinc hwake st rfl)
      | some t =>
          simp only [PaceAt, hwake] at hat
          obtain ⟨hsoon, htime, hle⟩ := hat
          simp only [feedStep, hpc, hwake] at hs
          split at hs
          · next hdue =>
              obtain ⟨feed, hfeed, rfl⟩ := plain_eq_some hs
              simp only [PcapFeed.step, PcapFeed.feedStep, hpc, Option.some.injEq] at hfeed
              subst hfeed
              refine ⟨h.speed, h.fastest, h.anchor, h.fresh, h.restart, h.log, ?_⟩
              cases hstop : s.feed.stopEvt with
              | true => exact rfl
              | false =>
                  -- the sleep is over, not cancelled
                  have hnow : t = s.clock := by simp [hstop] at hdue; omega
                  refine ⟨rfl, ⟨hsoon.src, fun d hd => ?_, hsoon.later⟩, .inr (hnow ▸ htime)⟩
                  have hfar := hsoon.far d hd
                  show scaled s.fastest (st.timestampNs - d.tsNs) ≤ s.playedNs + 0 - d.playedNs
                  omega
          · cases hs
  | holdingAgain st bytes =>
      rw [hpc] at hat
      obtain ⟨hawake, hsoon, hready⟩ := hat
      simp only [feedStep, hpc] at hs
      obtain ⟨feed, hfeed, rfl⟩ := plain_eq_some hs
      simp only [PcapFeed.step, PcapFeed.feedStep, hpc, Option.map_eq_some_iff] at hfeed
      obtain ⟨⟨verdict, pb⟩, hlook, rfl⟩ := hfeed
      obtain ⟨rfl, rfl | ⟨rfl, -⟩⟩ := waitIfPaused_of_not_pending h.restart hlook
      · exact h.moved h.restart hawake
      · exact h.moved h.restart ⟨hawake, ⟨hsoon.src, hsoon.far, hsoon.later⟩, hready⟩
  | delivering st bytes =>
      rw [hpc] at hat
      obtain ⟨hawake, hsoon, hready⟩ := hat
      simp only [feedStep, hpc] at hs
      obtain ⟨feed, hfeed, rfl⟩ := plain_eq_some hs
      simp only [PcapFeed.step, PcapFeed.feedStep, hpc, Option.some.injEq] at hfeed
      subst hfeed
      exact pace_deliver h hawake hsoon hready rfl rfl
  | closing =>
      rw [hpc] at hat
      simp only [feedStep, hpc] at hs
      obtain ⟨feed, hfeed, rfl⟩ := plain_eq_some hs
      simp only [PcapFeed.step, PcapFeed.feedStep, hpc, Option.some.injEq] at hfeed
      subst hfeed
      exact h.moved h.restart hat
  | done =>
      simp only [feedStep, hpc] at hs
      obtain ⟨feed, hfeed, rfl⟩ := plain_eq_some hs
      simp [PcapFeed.step, PcapFeed.feedStep, hpc] at hfeed
  | stamped st bytes =>
      rw [hpc] at hat
      have hpreroll := hcalm (by rw [hpc]; rfl)
      simp only [feedStep, hpc] at hs
      exact pace_before h hat.1 hat.2 (by rw [hpc]; exact hpreroll) hs
  | starting | pulling | stamping idx frame | holding st bytes | passed restarted =>
      rw [hpc] at hat
      simp only [feedStep, hpc] at hs
      exact pace_before h hat.1 hat.2 (by rw [hpc]; trivial) hs

/-- Time passes. -/
theorem pace_tick {s : PacedFeed} (h : s.Pace) {ns : Nat} (hcalm : s.Undisturbed (.tick ns))
    (hpass : s.CanPass ns) : (s.pass ns).Pace := by
  refine ⟨h.speed, h.fastest, h.anchor, h.fresh, h.restart, h.log, ?_⟩
  have hat := h.pc
  show PaceAt _ s.feed.pc
  cases hpc : s.feed.pc with
  | pacing st bytes =>
      rw [hpc] at hat
      cases hwake : s.wakeAt with
      | none => simp [CanPass, hwake, Held, hpc] at hpass
      | some t =>
          simp only [PaceAt, hwake] at hat
          simp only [CanPass, hwake] at hpass
          obtain ⟨hsoon, htime, hle⟩ := hat
          -- during a sleep all time that passes is un-paused
          have hplayed : (s.pass ns).playedNs = s.playedNs + ns := by
            rcases Nat.eq_zero_or_pos ns with rfl | hns
            · simp [pass]
            · refine if_neg (hcalm ?_)
              simp only [Sleeping, hwake, Option.any_some, decide_eq_true_eq]
              omega
          have hwake' : (s.pass ns).wakeAt = some t := hwake
          simp only [PaceAt, hwake']
          refine ⟨⟨hsoon.src, fun d hd => ?_, hsoon.later⟩, htime, ?_⟩
          · have hfar := hsoon.far d hd
            rw [hplayed]
            show scaled s.fastest (st.timestampNs - d.tsNs) ≤
              s.playedNs + ns + (t - (s.clock + ns)) - d.playedNs
            omega
          · show s.clock + ns ≤ t
            omega
  | holding st bytes =>
      rw [hpc] at hat
      simp only [CanPass, hat.1.awake, Held, hpc] at hpass
      have hpaused := (waitIfPaused_eq_none.mp hpass).1
      refine ⟨⟨hat.1.awake, hat.1.src, fun d hd => ?_⟩, .inl hpaused⟩
      rw [pass, if_pos hpaused]
      exact hat.1.now d hd
  | holdingAgain st bytes =>
      rw [hpc] at hat
      simp only [CanPass, hat.1, Held, hpc] at hpass
      have hpaused := (waitIfPaused_eq_none.mp hpass).1
      refine ⟨hat.1, ⟨hat.2.1.src, fun d hd => ?_, hat.2.1.later⟩, .inl hpaused⟩
      rw [pass, if_pos hpaused]
      exact hat.2.1.far d hd
  | done =>
      rw [hpc] at hat
      exact hat
  | closing | delivering st bytes =>
      rw [hpc] at hat
      simp_all [CanPass, Held, PaceAt]
  | starting | pulling | stamping idx frame | stamped st bytes | polling st bytes
  | passed restarted =>
      rw [hpc] at hat
      simp [CanPass, hat.1.awake, Held, hpc] at hpass

/-- The playback or a flag changes. -/
theorem pace_flags {s : PacedFeed} (h : s.Pace) (feed : PcapFeed) (hpc : feed.pc = s.feed.pc)
    (hrestart : feed.playback.restartPending = false)
    (hready : s.Ready → Ready { s with feed := feed }) : Pace { s with feed := feed } := by
  refine h.moved hrestart ?_
  have hat := h.pc
  rw [hpc]
  cases hcase : s.feed.pc with
  | pacing st bytes =>
      rw [hcase] at hat
      cases hwake : s.wakeAt with
      | none =>
          simp only [PaceAt, hwake] at hat ⊢
          exact ⟨⟨rfl, hat.1.src, hat.1.now⟩, hat.2⟩
      | some t =>
          simp only [PaceAt, hwake] at hat ⊢
          exact ⟨⟨hat.1.src, hat.1.far, hat.1.later⟩, hat.2⟩
  | polling st bytes =>
      rw [hcase] at hat
      exact ⟨⟨hat.1.awake, hat.1.src, hat.1.now⟩, hat.2⟩
  | holdingAgain st bytes | delivering st bytes =>
      rw [hcase] at hat
      exact ⟨hat.1, ⟨hat.2.1.src, hat.2.1.far, hat.2.1.later⟩, hready hat.2.2⟩
  | closing | done =>
      rw [hcase] at hat
      exact hat
  | starting | pulling | stamping idx frame | stamped st bytes | holding st bytes
  | passed restarted =>
      rw [hcase] at hat
      exact ⟨⟨hat.1.awake, hat.1.src, hat.1.now⟩, hready hat.2⟩

/-- The baseline is moved to now, outside a sleep. -/
theorem pace_rebased {s : PacedFeed} (h : s.Pace) (hawake : ¬ s.Sleeping) {pacer : Pacer ℚ}
    {fastest : ℚ} (hspeed : 0 < pacer.speed) (hfast : pacer.speed ≤ fastest)
    (hgrow : s.fastest ≤ fastest) (hanchor : pacer.anchorSrcNs = none)
    (hsrc : pacer.lastSrc = s.pacer.lastSrc) (hfresh : pacer.lastSrc = none → pacer.t0Src = none)
    (htime : pacer.OnTime s.clock) : Pace { s with pacer := pacer, fastest := fastest } := by
  refine ⟨hspeed, hfast, hanchor, hfresh, h.restart, h.log, ?_⟩
  have hat := h.pc
  have hout : s.JustOut → JustOut { s with pacer := pacer, fastest := fastest } :=
    fun ho => ⟨ho.awake, hsrc.trans ho.src, ho.now⟩
  have hsoon : ∀ tsNs ns, s.Soon tsNs ns →
      Soon { s with pacer := pacer, fastest := fastest } tsNs ns := by
    refine fun tsNs ns hs => ⟨hsrc.trans hs.src, fun d hd => ?_, hs.later⟩
    have hlt := hs.later d hd
    have hslow := scaled_le_of_le (h.speed.trans_le h.fastest) hgrow (d := tsNs - d.tsNs) (by omega)
    exact hslow.trans (hs.far d hd)
  show PaceAt _ s.feed.pc
  cases hcase : s.feed.pc with
  | pacing st bytes =>
      rw [hcase] at hat
      cases hwake : s.wakeAt with
      | none =>
          simp only [PaceAt, hwake] at hat ⊢
          exact ⟨⟨rfl, hsrc.trans hat.1.src, hat.1.now⟩, htime⟩
      | some t =>
          simp only [PaceAt, hwake] at hat ⊢
          have hnow : s.clock = t := by
            simp only [Sleeping, hwake, Option.any_some, decide_eq_true_eq] at hawake
            omega
          have hsoon' := hsoon _ _ hat.1
          exact ⟨⟨hsoon'.src, hsoon'.far, hsoon'.later⟩, hnow ▸ htime, hat.2.2⟩
  | polling st bytes =>
      rw [hcase] at hat
      exact ⟨hout hat.1, htime⟩
  | holdingAgain st bytes | delivering st bytes =>
      rw [hcase] at hat
      exact ⟨hat.1, hsoon _ _ hat.2.1, .inr htime⟩
  | closing | done =>
      rw [hcase] at hat
      exact hat
  | starting | pulling | stamping idx frame | stamped st bytes | holding st bytes
  | passed restarted =>
      rw [hcase] at hat
      exact ⟨hout hat.1, .inr htime⟩

theorem pace_setSpeed {s : PacedFeed} (h : s.Pace) {speed : ℚ} (hpos : 0 < speed)
    (hcalm : s.Undisturbed (.setSpeed speed)) : (s.setSpeed speed).Pace := by
  have hdisarm : s.disarm.Pace := pace_flags h _ rfl h.restart id
  unfold setSpeed
  split
  · exact hdisarm
  · next hgo =>
      rw [not_or, not_or] at hgo
      have hawake : ¬ s.Sleeping := fun hsleep => hcalm hsleep ⟨hgo.1, hgo.2.2⟩
      refine pace_rebased hdisarm hawake ?_ ?_ (le_max_left _ _) ?_ ?_ ?_ (Pacer.onTime_rebase _)
      · rw [Pacer.speed_setSpeed]
        exact hpos
      · rw [Pacer.speed_setSpeed]
        exact le_max_right _ _
      · rw [Pacer.anchorSrcNs_setSpeed]
        exact h.anchor
      · exact Pacer.lastSrc_setSpeed _ _ _
      · intro hnone
        rw [Pacer.lastSrc_setSpeed] at hnone
        simp only [Pacer.setSpeed, Pacer.rebase, hnone]
        exact h.fresh hnone

theorem pace_rebase {s : PacedFeed} (h : s.Pace)
    (hcalm : s.Sleeping → s.feed.playback.state ≠ .paused) : s.rebase.Pace := by
  unfold rebase
  split
  · next hpaused =>
      refine pace_rebased h (fun hsleep => hcalm hsleep hpaused) ?_ ?_ (le_refl _) ?_ ?_ ?_
        (Pacer.onTime_rebase _)
      · rw [Pacer.speed_rebase]
        exact h.speed
      · rw [Pacer.speed_rebase]
        exact h.fastest
      · rw [Pacer.anchorSrcNs_rebase]
        exact h.anchor
      · exact Pacer.lastSrc_rebase _ _
      · intro hnone
        rw [Pacer.lastSrc_rebase] at hnone
        simp only [Pacer.rebase, hnone]
        exact h.fresh hnone
  · exact h

/-- A resume: the pacer is rebased, and then the playback goes on. -/
theorem pace_resume {s : PacedFeed} (h : s.Pace)
    (hcalm : s.Sleeping → s.feed.playback.state ≠ .paused) {playback : PlaybackState}
    (hrestart : playback.restartPending = false) :
    Pace { s.rebase with feed := { s.feed with playback := playback } } := by
  have hfeed := feed_rebase s
  refine pace_flags (pace_rebase h hcalm) { s.feed with playback := playback }
    (by rw [hfeed]) hrestart fun hready => .inr ?_
  by_cases hpaused : s.feed.playback.state = .paused
  · show Pacer.OnTime s.rebase.pacer s.rebase.clock
    simp only [rebase, if_pos hpaused]
    exact Pacer.onTime_rebase _
  · exact hready.resolve_left (by rw [hfeed]; exact hpaused)

/-- **Step lemma**: an undisturbed step keeps the invariant. -/
theorem pace_step {cfg : PcapConfig} (s : PacedFeed) (a : PacedStep) (s' : PacedFeed)
    (h : s.Pace) (hc : s.InScope a ∧ s.Undisturbed a) (hs : PacedFeed.step cfg s a = some s') :
    s'.Pace := by
  cases a with
  | tick ns =>
      simp only [step] at hs
      split at hs
      · next hpass => exact Option.some.inj hs ▸ pace_tick h hc.2 hpass
      · cases hs
  | setSpeed speed => exact Option.some.inj hs ▸ pace_setSpeed h hc.1 hc.2
  | feed a =>
      cases a with
      | feed now => exact pace_feedStep h hc.1 hc.2 hs
      | resume =>
          obtain ⟨feed, hfeed, rfl⟩ := plain_eq_some hs
          rw [feed_rebase] at hfeed
          obtain rfl := Option.some.inj hfeed
          exact pace_resume h hc.2 h.restart
      | gateResume =>
          obtain ⟨feed, hfeed, rfl⟩ := plain_eq_some hs
          rw [feed_rebase] at hfeed
          simp only [PcapFeed.step] at hfeed
          split at hfeed
          · obtain rfl := Option.some.inj hfeed
            exact pace_resume h hc.2 h.restart
          · cases hfeed
      | requestRestart => exact hc.1.elim
      | pause =>
          obtain ⟨feed, hfeed, rfl⟩ := plain_eq_some hs
          obtain rfl := Option.some.inj hfeed
          refine pace_flags h _ rfl h.restart fun hready => hready.imp (fun hp => ?_) id
          show (if _ then _ else _) = PlayState.paused
          rw [if_neg (by simp [hp])]
      | setLoop loop | miniError | stop =>
          obtain ⟨feed, hfeed, rfl⟩ := plain_eq_some hs
          obtain rfl := Option.some.inj hfeed
          exact pace_flags h _ rfl h.restart id
      | gate =>
          obtain ⟨feed, hfeed, rfl⟩ := plain_eq_some hs
          simp only [PcapFeed.step] at hfeed
          split at hfeed
          · obtain rfl := Option.some.inj hfeed
            exact pace_flags h _ rfl h.restart id
          · cases hfeed

/-! ## Runs -/

/-- **Pacing law**: in a run without a boot hold, whose sleeps no pause and no speed
change falls into, two neighbouring deliveries have as much un-paused wall time
between them as their data takes at the fastest speed in force. -/
theorem deliveries_farApart (cfg : PcapConfig) (paused loop gateArmed : Bool) (speed : ℚ)
    (steps : List PacedStep) (s : PacedFeed) (hspeed : 0 < speed)
    (hscope : Machine.Along (step cfg) InScope (init (.boot paused loop gateArmed) speed) steps)
    (hcalm : Machine.Along (step cfg) Undisturbed (init (.boot paused loop gateArmed) speed) steps)
    (h : Machine.exec (step cfg) (init (.boot paused loop gateArmed) speed) steps = some s) :
    s.deliveries.IsChain FarApart :=
  (Machine.exec_inv_along pace_step (pace_init _ rfl hspeed) (hscope.and hcalm) h).log

/-- The feeder's next statements. -/
def statements (n : Nat) : List PacedStep := List.replicate n (.feed (.feed 0))

/-- Three frames at single speed, the last of them at double speed after a pause. -/
def calmRun : List PacedStep :=
  statements 18 ++ .tick 10 :: statements 2 ++ .feed .pause :: statements 5 ++
    [.tick 100, .setSpeed 2, .tick 100, .feed .resume] ++ statements 3 ++ .tick 5 :: statements 3

/-- A pause and a speed change outside the sleeps. -/
theorem deliveries_farApart_calmRun :
    ∃ s, Machine.exec (step threeShots) (init (.boot false false false) 1) calmRun = some s ∧
      s.deliveries.map (fun d => (d.tsNs, d.playedNs)) = [(10, 0), (20, 10), (30, 15)] ∧
      s.deliveries.IsChain FarApart := by
  have hrun : (Machine.exec (step threeShots) (init (.boot false false false) 1) calmRun).map
      (fun s => s.deliveries.map fun d => (d.tsNs, d.playedNs)) =
        some [(10, 0), (20, 10), (30, 15)] := by
    decide +kernel
  obtain ⟨s, hs, hdeliveries⟩ := Option.map_eq_some_iff.mp hrun
  exact ⟨s, hs, hdeliveries, deliveries_farApart threeShots false false false 1 calmRun s
    (by decide) (by decide +kernel) (by decide +kernel) hs⟩

/-- The speed is doubled halfway through the sleep for the second frame. -/
def midSleep : List PacedStep :=
  statements 18 ++ [.tick 5, .setSpeed 2, .tick 5] ++ statements 13

/-- After a speed change in a sleep two frames go out at the same instant. -/
theorem not_deliveries_farApart :
    ¬ ∀ (cfg : PcapConfig) (paused loop gateArmed : Bool) (speed : ℚ) (steps : List PacedStep)
        (s : PacedFeed), 0 < speed →
      Machine.Along (step cfg) InScope (init (.boot paused loop gateArmed) speed) steps →
      Machine.exec (step cfg) (init (.boot paused loop gateArmed) speed) steps = some s →
        s.deliveries.IsChain FarApart := by
  intro h
  have hrun : (Machine.exec (step threeShots) (init (.boot false false false) 1) midSleep).map
      PacedFeed.deliveries = some [⟨10, 0, 1⟩, ⟨20, 10, 2⟩, ⟨30, 10, 2⟩] := by
    decide +kernel
  obtain ⟨s, hs, hdeliveries⟩ := Option.map_eq_some_iff.mp hrun
  have hchain := h threeShots false false false 1 midSleep s (by decide) (by decide +kernel) hs
  rw [hdeliveries] at hchain
  exact absurd hchain (by decide +kernel)

/-! ## The baseline after a sleep -/

/-- **Why**: a rebase at `now`, in a sleep until `t`, has the frame after the one that
is slept for due a whole distance after `now`, not after `t`. -/
theorem wait_after_rebase {p : Pacer ℚ} {last now t tsNs : Int} (hlast : p.lastSrc = some last)
    (hspeed : 0 < p.speed) :
    ((p.rebase now).wait tsNs t).2 = max t (now + scaled p.speed (tsNs - last)) := by
  simp [Pacer.wait, Pacer.rebase, hlast, not_le.mpr hspeed, Pacer.target]

end PacedFeed

end CamDriver
