import CamDriver.PcapOrder

/-!
# CamDriver.PcapRestart

Restarts requested of a pcap playback.

A request sets a flag, and the feeder takes it at its next hold.  Past the last
frame there is none: a flag that is set there stays set, the feeder leaves its
loop, and the request has been accepted all the same.

A restart is honoured within `statementsLeft` statements of the feeder, or the
feeder leaves its loop with the flag set.
-/

namespace CamDriver

/-- The feeder has left its loop. -/
def FeedPc.over : FeedPc → Bool
  | .closing | .done => true
  | _ => false

/-- A statement of the feeder. -/
def FeedStep.isFeed : FeedStep → Bool
  | .feed _ => true
  | _ => false

namespace PcapFeed

/-! ## The condition -/

/-- The next statement leads out of the loop. -/
def Leaves (cfg : PcapConfig) (s : PcapFeed) : Prop :=
  match s.pc with
  | .starting | .stamping _ _ => s.stopEvt = true ∨ s.failed = true
  | .pulling => s.out = [] ∧ s.rest = [] ∧
      (cfg.capture.2.isSome = true ∨ s.ext.asm.stats.framesOk = 0)
  | .holding _ _ | .pacing _ _ | .holdingAgain _ _ => s.stopEvt = true
  | .passed restarted => restarted = false ∧ (s.delivered = 0 ∨ s.playback.loop = false)
  | _ => False

/-- The feeder does not leave its loop with a restart pending, and none is accepted
after it has. -/
def Heeds (cfg : PcapConfig) (s : PcapFeed) : FeedStep → Prop
  | .feed _ => s.playback.restartPending = true → ¬ s.Leaves cfg
  | .requestRestart => s.playback.state ≠ .finished → s.pc.over = false
  | _ => True

instance (cfg : PcapConfig) (s : PcapFeed) : Decidable (s.Leaves cfg) :=
  match h : s.pc with
  | .starting | .stamping _ _ =>
    decidable_of_iff (s.stopEvt = true ∨ s.failed = true) (by simp [Leaves, h])
  | .pulling =>
    decidable_of_iff (s.out = [] ∧ s.rest = [] ∧
      (cfg.capture.2.isSome = true ∨ s.ext.asm.stats.framesOk = 0)) (by simp [Leaves, h])
  | .holding _ _ | .pacing _ _ | .holdingAgain _ _ =>
    decidable_of_iff (s.stopEvt = true) (by simp [Leaves, h])
  | .passed restarted =>
    decidable_of_iff (restarted = false ∧ (s.delivered = 0 ∨ s.playback.loop = false))
      (by simp [Leaves, h])
  | .stamped _ _ | .polling _ _ | .delivering _ _ | .closing | .done =>
    isFalse (by simp [Leaves, h])

instance (cfg : PcapConfig) (s : PcapFeed) (a : FeedStep) : Decidable (s.Heeds cfg a) :=
  match a with
  | .feed _ => inferInstanceAs (Decidable (_ → ¬ _))
  | .requestRestart => inferInstanceAs (Decidable (_ ≠ _ → _ = _))
  | .pause | .resume | .setLoop _ | .gate | .gateResume | .miniError | .stop => isTrue trivial

/-! ## The statements of a pass -/

/-- A bound on the statements until the pass under way is over; the feeder needs at
most eight for a frame, and one for a packet. -/
def statementsLeft (cfg : PcapConfig) (s : PcapFeed) : Nat :=
  let reading := s.rest.length + 8 * (s.out ++ framesFrom cfg s.ext s.rest).length + 2
  match s.pc with
  | .starting => cfg.capture.1.length + 8 * cfg.frames.length + 3
  | .pulling => reading
  | .stamping _ _ => reading + 7
  | .stamped _ _ => reading + 6
  | .holding _ _ => reading + 5
  | .polling _ _ => reading + 4
  | .pacing _ _ => reading + 3
  | .holdingAgain _ _ => reading + 2
  | .delivering _ _ => reading + 1
  | .passed _ => 1
  | .closing | .done => 0

/-- A restart accepted in cycle `c` is on its way: the cycle is over, or it is not
forgotten and at most `n` statements remain. -/
def UnderWay (cfg : PcapConfig) (c n : Nat) (s : PcapFeed) : Prop :=
  c < s.cycle ∨
    s.cycle = c ∧ s.pc.over = false ∧ s.statementsLeft cfg ≤ n ∧
      (s.playback.restartPending = true ∨ s.pc = .passed true)

/-- A feed that is over stays over. -/
theorem over_feedStep {cfg : PcapConfig} {s s' : PcapFeed} {now : Int}
    (h : s.feedStep cfg now = some s') (hover : s.pc.over = true) : s'.pc.over = true := by
  cases hpc : s.pc with
  | closing => exact Option.some.inj (by simpa [PcapFeed.feedStep, hpc] using h) ▸ rfl
  | done => simp [PcapFeed.feedStep, hpc] at h
  | starting | pulling | stamping | stamped | holding | polling | pacing | holdingAgain
  | delivering | passed => rw [hpc] at hover; cases hover

/-- The cycle of a feed never goes back. -/
theorem cycle_le_feedStep {cfg : PcapConfig} {s s' : PcapFeed} {now : Int}
    (h : s.feedStep cfg now = some s') : s.cycle ≤ s'.cycle := by
  unfold feedStep at h
  split at h <;> grind [endPass, measure, Option.map_eq_some_iff]

/-- A statement of the feeder brings a restart on its way nearer. -/
theorem underWay_feedStep {cfg : PcapConfig} {c n : Nat} {s s' : PcapFeed} {now : Int}
    (h : s.UnderWay cfg c (n + 1)) (hc : s.Heeds cfg (.feed now))
    (hs : s.feedStep cfg now = some s') : s'.UnderWay cfg c n := by
  rcases h with hnew | ⟨hcycle, hover, hleft, hflag⟩
  · exact .inl (hnew.trans_le (cycle_le_feedStep hs))
  have hstay : ∀ {t : PcapFeed}, t.cycle = s.cycle → t.pc.over = false →
      t.statementsLeft cfg + 1 ≤ s.statementsLeft cfg →
      (t.playback.restartPending = true ∨ t.pc = .passed true) → t.UnderWay cfg c n :=
    fun h1 h2 h3 h4 => .inr ⟨h1.trans hcycle, h2, by omega, h4⟩
  have hpending : s.pc ≠ .passed true → s.playback.restartPending = true ∧ ¬ s.Leaves cfg :=
    fun hne => ⟨hflag.resolve_right hne, hc (hflag.resolve_right hne)⟩
  cases hpc : s.pc with
  | starting =>
      obtain ⟨hp, hleaves⟩ := hpending (by simp [hpc])
      simp only [Leaves, hpc] at hleaves
      simp only [feedStep, hpc, if_neg hleaves, Option.some.injEq] at hs
      subst hs
      refine hstay rfl rfl ?_ (.inl hp)
      have hframes : framesFrom cfg .reset cfg.capture.1 = cfg.frames := rfl
      simp [statementsLeft, hpc, hframes]
  | pulling =>
      obtain ⟨hp, hleaves⟩ := hpending (by simp [hpc])
      simp only [feedStep, hpc] at hs
      cases hout : s.out with
      | cons frame out =>
          simp only [hout, Option.some.injEq] at hs
          subst hs
          refine hstay rfl rfl ?_ (.inl hp)
          simp only [statementsLeft, hpc, hout, List.cons_append, List.length_cons]
          omega
      | nil =>
          cases hrest : s.rest with
          | cons p rest =>
              simp only [hout, hrest, Option.some.injEq] at hs
              subst hs
              refine hstay rfl (by rw [← hover, hpc]) ?_ (.inl hp)
              simp only [statementsLeft, hpc, hout, hrest, framesFrom_cons, List.nil_append,
                List.length_cons]
              omega
          | nil =>
              simp only [Leaves, hpc, hout, hrest, true_and] at hleaves
              simp only [hout, hrest, if_neg hleaves, Option.some.injEq] at hs
              subst hs
              refine hstay rfl rfl ?_ (.inl hp)
              simp [statementsLeft, hpc, hout, hrest, framesFrom, Machine.history]
  | stamping idx frame =>
      obtain ⟨hp, hleaves⟩ := hpending (by simp [hpc])
      simp only [Leaves, hpc] at hleaves
      simp only [feedStep, hpc, if_neg hleaves, Option.some.injEq] at hs
      subst hs
      refine hstay rfl rfl ?_ (.inl hp)
      simp only [statementsLeft, hpc]
      omega
  | stamped st bytes =>
      obtain ⟨hp, -⟩ := hpending (by simp [hpc])
      simp only [feedStep, hpc, Option.some.injEq] at hs
      subst hs
      cases hpre : s.playback.prerollPending with
      | true =>
          refine hstay rfl rfl ?_ (.inl hp)
          simp [statementsLeft, hpc]
      | false =>
          refine hstay rfl rfl ?_ (.inl hp)
          simp [statementsLeft, hpc]
  | holding st bytes | holdingAgain st bytes =>
      obtain ⟨hp, hleaves⟩ := hpending (by simp [hpc])
      simp only [Leaves, hpc, Bool.not_eq_true] at hleaves
      simp only [feedStep, hpc, hleaves, PlaybackState.waitIfPaused, hp] at hs
      simp only [not_true_eq_false, and_false, Bool.false_eq_true, if_false, if_true,
        Option.map_some, Option.some.injEq] at hs
      subst hs
      refine hstay rfl rfl ?_ (.inr rfl)
      simp only [statementsLeft, hpc]
      omega
  | polling st bytes =>
      obtain ⟨hp, -⟩ := hpending (by simp [hpc])
      simp only [feedStep, hpc, hp, if_true, Option.some.injEq] at hs
      subst hs
      refine hstay rfl rfl ?_ (.inr rfl)
      simp only [statementsLeft, hpc]
      omega
  | pacing st bytes =>
      obtain ⟨hp, hleaves⟩ := hpending (by simp [hpc])
      simp only [Leaves, hpc, Bool.not_eq_true] at hleaves
      simp only [feedStep, hpc, hleaves, Option.some.injEq] at hs
      subst hs
      refine hstay rfl rfl ?_ (.inl hp)
      simp [statementsLeft, hpc]
  | delivering st bytes =>
      obtain ⟨hp, -⟩ := hpending (by simp [hpc])
      simp only [feedStep, hpc, Option.some.injEq] at hs
      subst hs
      refine hstay rfl rfl ?_ (.inl hp)
      simp [statementsLeft, hpc]
  | passed restarted =>
      have hgo : restarted = true ∨ s.delivered ≠ 0 ∧ s.playback.loop = true := by
        cases hr : restarted with
        | true => exact .inl rfl
        | false =>
            obtain ⟨-, hleaves⟩ := hpending (by simp [hpc, hr])
            simp only [Leaves, hpc, hr, true_and, not_or, Bool.not_eq_false] at hleaves
            exact .inr hleaves
      simp only [feedStep, hpc, Option.some.injEq] at hs
      have hnext : s'.cycle = s.cycle + 1 := by
        subst hs
        unfold endPass measure
        grind
      exact .inl (by omega)
  | closing | done => rw [hpc] at hover; cases hover

/-- A step of the main loop, of a timer, or of the mini-pipeline. -/
structure RequestFrame (s s' : PcapFeed) : Prop where
  cycle : s'.cycle = s.cycle
  pc : s'.pc = s.pc
  reading : s'.rest = s.rest ∧ s'.out = s.out ∧ s'.ext = s.ext
  finished : s'.playback.state = .finished ↔ s.playback.state = .finished
  pending : s.playback.restartPending = true → s'.playback.restartPending = true

/-- What a step of another thread leaves alone. -/
theorem requestFrame {cfg : PcapConfig} {s s' : PcapFeed} {a : FeedStep}
    (ha : ∀ now, a ≠ .feed now) (h : PcapFeed.step cfg s a = some s') : RequestFrame s s' := by
  cases a with
  | feed now => exact absurd rfl (ha now)
  | pause | resume | setLoop loop =>
      obtain rfl := Option.some.inj h
      refine ⟨rfl, rfl, ⟨rfl, rfl, rfl⟩, ?_, id⟩
      grind [PlaybackState.pause, PlaybackState.resume, PlaybackState.setLoop]
  | requestRestart =>
      obtain rfl := Option.some.inj h
      refine ⟨rfl, rfl, ⟨rfl, rfl, rfl⟩, ?_, ?_⟩
      · grind [PlaybackState.requestRestart]
      · grind [PlaybackState.requestRestart]
  | miniError | stop => exact Option.some.inj h ▸ ⟨rfl, rfl, ⟨rfl, rfl, rfl⟩, .rfl, id⟩
  | gate =>
      simp only [PcapFeed.step] at h
      split at h
      · exact Option.some.inj h ▸ ⟨rfl, rfl, ⟨rfl, rfl, rfl⟩, .rfl, id⟩
      · cases h
  | gateResume =>
      simp only [PcapFeed.step] at h
      split at h
      · obtain rfl := Option.some.inj h
        refine ⟨rfl, rfl, ⟨rfl, rfl, rfl⟩, ?_, id⟩
        grind [PlaybackState.gateResume, PlaybackState.resume]
      · cases h

/-- Such a step leaves a restart on its way. -/
theorem underWay_request {cfg : PcapConfig} {c n : Nat} {s s' : PcapFeed}
    (hframe : RequestFrame s s') (h : s.UnderWay cfg c n) : s'.UnderWay cfg c n := by
  obtain ⟨hrest, hout, hext⟩ := hframe.reading
  have hleft : s'.statementsLeft cfg = s.statementsLeft cfg := by
    unfold statementsLeft
    rw [hframe.pc, hrest, hout, hext]
  unfold UnderWay at h ⊢
  rw [hframe.cycle, hframe.pc, hleft]
  exact h.imp id fun ⟨h1, h2, h3, h4⟩ => ⟨h1, h2, h3, h4.imp hframe.pending id⟩

/-- With no statement left the cycle is over. -/
theorem lt_cycle_of_underWay_zero {cfg : PcapConfig} {c : Nat} {s : PcapFeed}
    (h : s.UnderWay cfg c 0) : c < s.cycle := by
  rcases h with hnew | ⟨-, hover, hleft, -⟩
  · exact hnew
  · cases hpc : s.pc <;> simp_all [statementsLeft, FeedPc.over]

/-! ## Runs -/

/-- **Run lemma**: a restart on its way stays so, and every statement of the feeder
brings it nearer. -/
theorem underWay_run {cfg : PcapConfig} {c n : Nat} {s s' : PcapFeed} {steps : List FeedStep}
    (h : s.UnderWay cfg c n) (hc : Machine.Along (PcapFeed.step cfg) (Heeds cfg) s steps)
    (hs : Machine.exec (PcapFeed.step cfg) s steps = some s') :
    s'.UnderWay cfg c (n - steps.countP FeedStep.isFeed) := by
  induction steps generalizing s n with
  | nil => simpa [← Option.some.inj hs] using h
  | cons a steps ih =>
      rw [Machine.exec_cons, Option.bind_eq_some_iff] at hs
      obtain ⟨t, ht, hrest⟩ := hs
      have hct : Machine.Along (PcapFeed.step cfg) (Heeds cfg) t steps := by
        simpa only [Machine.Along, ht] using hc.2
      by_cases ha : ∃ now, a = .feed now
      · obtain ⟨now, rfl⟩ := ha
        rw [List.countP_cons_of_pos rfl]
        cases n with
        | zero =>
            have hnew : c < t.cycle := (lt_cycle_of_underWay_zero h).trans_le (cycle_le_feedStep ht)
            simpa using ih (n := 0) (.inl hnew) hct hrest
        | succ n =>
            have hnear := ih (underWay_feedStep h hc.1 ht) hct hrest
            rwa [show n + 1 - (steps.countP FeedStep.isFeed + 1) =
              n - steps.countP FeedStep.isFeed by omega]
      · have hnot : FeedStep.isFeed a = false := by
          cases a with
          | feed now => exact absurd ⟨now, rfl⟩ ha
          | _ => rfl
        rw [List.countP_cons_of_neg (by simp [hnot])]
        exact ih (underWay_request (requestFrame (fun now hnow => ha ⟨now, hnow⟩) ht) h) hct hrest

/-- An accepted restart is on its way. -/
theorem underWay_of_accepted {cfg : PcapConfig} {s s' : PcapFeed}
    (hstate : s.playback.state ≠ .finished) (hc : s.Heeds cfg .requestRestart)
    (hs : PcapFeed.step cfg s .requestRestart = some s') :
    s'.UnderWay cfg s.cycle (s.statementsLeft cfg) := by
  obtain rfl := Option.some.inj hs
  refine .inr ⟨rfl, hc hstate, Nat.le_refl _, .inl ?_⟩
  simp [hstate, PlaybackState.requestRestart]

/-- A finished playback has no feeder. -/
def Finishes (s : PcapFeed) : Prop := s.playback.state = .finished → s.pc = .done

/-- Every step keeps it. -/
theorem finishes_step {cfg : PcapConfig} (s : PcapFeed) (a : FeedStep) (s' : PcapFeed)
    (h : s.Finishes) (hs : PcapFeed.step cfg s a = some s') : s'.Finishes := by
  intro hfin
  by_cases ha : ∃ now, a = .feed now
  · obtain ⟨now, rfl⟩ := ha
    simp only [PcapFeed.step] at hs
    cases hpc : s.pc with
    | closing =>
        obtain rfl := Option.some.inj (by simpa only [feedStep, hpc] using hs)
        rfl
    | done => simp [feedStep, hpc] at hs
    | holding st bytes | holdingAgain st bytes =>
        simp only [feedStep, hpc, Option.map_eq_some_iff] at hs
        obtain ⟨⟨v, pb⟩, hlook, rfl⟩ := hs
        have hsame : s.playback.state = .finished := by
          rcases waitIfPaused_eq_some hlook with rfl | rfl
          · exact hfin
          · exact hfin
        rw [h hsame] at hpc
        cases hpc
    | starting | pulling | stamping | stamped | polling | pacing | delivering | passed =>
        have hsame : s.playback.state = .finished := by
          simp only [feedStep, hpc] at hs
          grind [endPass, measure, PlaybackState.takePreroll, PlaybackState.takeRestart]
        rw [h hsame] at hpc
        cases hpc
  · have hframe := requestFrame (fun now hnow => ha ⟨now, hnow⟩) hs
    rw [hframe.pc]
    exact h (hframe.finished.mp hfin)

/-- The feeder has left its loop with a restart pending. -/
structure Forgotten (s : PcapFeed) : Prop where
  ended : s.pc.over = true
  pending : s.playback.restartPending = true

/-- A request that is forgotten stays forgotten. -/
theorem forgotten_step {cfg : PcapConfig} (s : PcapFeed) (a : FeedStep) (s' : PcapFeed)
    (h : Forgotten s) (hs : PcapFeed.step cfg s a = some s') : Forgotten s' := by
  by_cases ha : ∃ now, a = .feed now
  · obtain ⟨now, rfl⟩ := ha
    refine ⟨over_feedStep hs h.ended, ?_⟩
    have hover := h.ended
    cases hpc : s.pc with
    | closing =>
        obtain rfl := Option.some.inj (by simpa only [PcapFeed.step, feedStep, hpc] using hs)
        exact h.pending
    | done => simp [PcapFeed.step, feedStep, hpc] at hs
    | _ => rw [hpc] at hover; cases hover
  · have hframe := requestFrame (fun now hnow => ha ⟨now, hnow⟩) hs
    exact ⟨hframe.pc ▸ h.ended, hframe.pending h.pending⟩

/-- A statement leads out of the loop exactly where `Leaves` says so, and drops no
flag there. -/
theorem over_iff_leaves {cfg : PcapConfig} {s s' : PcapFeed} {now : Int}
    (hs : s.feedStep cfg now = some s') (hbefore : s.pc.over = false) :
    (s'.pc.over = true ↔ s.Leaves cfg) ∧
      (s.Leaves cfg → s'.playback.restartPending = s.playback.restartPending) := by
  cases hpc : s.pc with
  | starting | stamping idx frame =>
      simp only [feedStep, hpc] at hs
      simp only [Leaves, hpc]
      grind [FeedPc.over]
  | pulling =>
      simp only [feedStep, hpc] at hs
      simp only [Leaves, hpc]
      cases hout : s.out with
      | cons frame out =>
          simp only [hout, Option.some.injEq] at hs
          subst hs
          simp [FeedPc.over]
      | nil =>
          cases hrest : s.rest with
          | cons p rest =>
              simp only [hout, hrest, Option.some.injEq] at hs
              subst hs
              simp [FeedPc.over]
          | nil =>
              simp only [hout, hrest] at hs
              grind [FeedPc.over]
  | holding st bytes | holdingAgain st bytes =>
      simp only [feedStep, hpc, Option.map_eq_some_iff] at hs
      obtain ⟨⟨v, pb⟩, hlook, rfl⟩ := hs
      simp only [Leaves, hpc]
      unfold PlaybackState.waitIfPaused at hlook
      grind [FeedPc.over]
  | passed restarted =>
      simp only [feedStep, hpc, Option.some.injEq] at hs
      subst hs
      simp only [Leaves, hpc, endPass, measure]
      grind [FeedPc.over]
  | stamped st bytes | polling st bytes | pacing st bytes | delivering st bytes =>
      simp only [feedStep, hpc, Option.some.injEq] at hs
      subst hs
      simp only [Leaves, hpc]
      grind [FeedPc.over, PlaybackState.takePreroll]
  | closing | done => rw [hpc] at hbefore; cases hbefore

/-- A step that does not heed a restart forgets it. -/
theorem forgotten_of_not_heeds {cfg : PcapConfig} (s : PcapFeed) (a : FeedStep) (s' : PcapFeed)
    (hc : ¬ s.Heeds cfg a) (hs : PcapFeed.step cfg s a = some s') : Forgotten s' := by
  cases a with
  | feed now =>
      rw [Heeds, Classical.not_imp, not_not] at hc
      have hbefore : s.pc.over = false := by
        have hleaves := hc.2
        cases hpc : s.pc <;> simp_all [Leaves, FeedPc.over]
      obtain ⟨hover, hkeep⟩ := over_iff_leaves hs hbefore
      exact ⟨hover.mpr hc.2, (hkeep hc.2).trans hc.1⟩
  | requestRestart =>
      rw [Heeds, Classical.not_imp, Bool.not_eq_false] at hc
      obtain rfl := Option.some.inj hs
      refine ⟨hc.2, ?_⟩
      simp [hc.1, PlaybackState.requestRestart]
  | _ => exact absurd trivial hc

/-- Where every restart is heeded, none is left outside the loop. -/
def NoneLeft (s : PcapFeed) : Prop := s.pc.over = true → s.playback.restartPending = false

/-- A step that heeds the restarts keeps it. -/
theorem noneLeft_step {cfg : PcapConfig} (s : PcapFeed) (a : FeedStep) (s' : PcapFeed)
    (h : s.NoneLeft) (hc : s.Heeds cfg a) (hs : PcapFeed.step cfg s a = some s') :
    s'.NoneLeft := by
  intro hover
  cases a with
  | feed now =>
      cases hbefore : s.pc.over with
      | true =>
          have hflag := h hbefore
          cases hpc : s.pc with
          | closing =>
              obtain rfl := Option.some.inj (by simpa only [PcapFeed.step, feedStep, hpc] using hs)
              exact hflag
          | done => simp [PcapFeed.step, feedStep, hpc] at hs
          | _ => rw [hpc] at hbefore; cases hbefore
      | false =>
          obtain ⟨hiff, hkeep⟩ := over_iff_leaves hs hbefore
          have hleaves := hiff.mp hover
          rw [hkeep hleaves, ← Bool.not_eq_true]
          exact fun hp => hc hp hleaves
  | requestRestart =>
      obtain rfl := Option.some.inj hs
      have hflag := h hover
      have hfinished : s.playback.state = .finished := by
        by_contra hne
        have hbefore : s.pc.over = false := hc hne
        rw [show s.pc.over = true from hover] at hbefore
        cases hbefore
      simpa [hfinished] using hflag
  | pause | resume | setLoop loop | miniError | stop =>
      obtain rfl := Option.some.inj hs
      exact h hover
  | gate | gateResume =>
      simp only [PcapFeed.step] at hs
      split at hs
      · obtain rfl := Option.some.inj hs
        exact h hover
      · cases hs

/-! ## Every accepted restart -/

/-- No accepted restart is left, and each was followed by a new cycle. -/
def Honoured (cfg : PcapConfig) (s₀ : PcapFeed) (steps : List FeedStep) (s : PcapFeed) : Prop :=
  s.playback.restartPending = false ∧
    ∀ as bs s₁, steps = as ++ .requestRestart :: bs →
      Machine.exec (PcapFeed.step cfg) s₀ as = some s₁ → s₁.playback.state ≠ .finished →
        s₁.cycle < s.cycle

/-- **Accepted restarts**: a run that reaches the end has honoured every accepted
restart if and only if the feeder heeded each of them; and a restart that is heeded
begins a new cycle within the statements left of the pass. -/
theorem restarts_honoured_iff (cfg : PcapConfig) (paused loop gateArmed : Bool)
    (steps : List FeedStep) (s : PcapFeed)
    (h : Machine.exec (PcapFeed.step cfg) (init (.boot paused loop gateArmed)) steps = some s) :
    (s.playback.state = .finished →
      (Honoured cfg (init (.boot paused loop gateArmed)) steps s ↔
        Machine.Along (PcapFeed.step cfg) (Heeds cfg) (init (.boot paused loop gateArmed)) steps)) ∧
    (Machine.Along (PcapFeed.step cfg) (Heeds cfg) (init (.boot paused loop gateArmed)) steps →
      ∀ as bs s₁, steps = as ++ .requestRestart :: bs →
        Machine.exec (PcapFeed.step cfg) (init (.boot paused loop gateArmed)) as = some s₁ →
        s₁.playback.state ≠ .finished →
        s₁.statementsLeft cfg ≤ bs.countP FeedStep.isFeed → s₁.cycle < s.cycle) := by
  -- a heeded restart stays on its way
  have hway : Machine.Along (PcapFeed.step cfg) (Heeds cfg) (init (.boot paused loop gateArmed))
      steps → ∀ as bs s₁, steps = as ++ .requestRestart :: bs →
        Machine.exec (PcapFeed.step cfg) (init (.boot paused loop gateArmed)) as = some s₁ →
        s₁.playback.state ≠ .finished →
        s.UnderWay cfg s₁.cycle (s₁.statementsLeft cfg - bs.countP FeedStep.isFeed) := by
    rintro hc as bs s₁ rfl has hstate
    have hrest := hc.of_append has
    rw [Machine.exec_append, has, Option.bind_some, Machine.exec_cons,
      Option.bind_eq_some_iff] at h
    obtain ⟨s₂, hs₂, hbs⟩ := h
    have hc₂ : Machine.Along (PcapFeed.step cfg) (Heeds cfg) s₂ bs := by
      simpa only [Machine.Along, hs₂] using hrest.2
    exact underWay_run (underWay_of_accepted hstate hrest.1 hs₂) hc₂ hbs
  refine ⟨fun hfin => ⟨fun hhon => ?_, fun hc => ⟨?_, fun as bs s₁ hsplit has hstate => ?_⟩⟩,
    fun hc as bs s₁ hsplit has hstate hcount => ?_⟩
  · by_contra hc
    have hlost := Machine.exec_of_not_along (I := fun _ => True) (D := Forgotten)
      (fun _ _ _ _ _ => trivial) (fun t a t' _ => forgotten_of_not_heeds t a t') forgotten_step
      trivial hc h
    have hpending := hlost.pending
    rw [hhon.1] at hpending
    cases hpending
  · have hdone := Machine.exec_inv finishes_step (by cases paused <;> (intro h; cases h)) h hfin
    exact Machine.exec_inv_along noneLeft_step (fun h => by cases h) hc h (by rw [hdone]; rfl)
  · have hdone := Machine.exec_inv finishes_step (by cases paused <;> (intro h; cases h)) h hfin
    rcases hway hc as bs s₁ hsplit has hstate with hnew | ⟨-, hover, -⟩
    · exact hnew
    · rw [hdone] at hover
      cases hover
  · have hnow := hway hc as bs s₁ hsplit has hstate
    rw [Nat.sub_eq_zero_of_le hcount] at hnow
    exact lt_cycle_of_underWay_zero hnow

/-- A restart requested with the second frame in hand. -/
def heededRestart : List FeedStep :=
  feedFor 12 ++ .requestRestart :: feedFor 35

/-- A restart requested after the last frame of a playback that does not loop. -/
def forgottenRestart : List FeedStep := feedFor 29 ++ .requestRestart :: feedFor 2

/-- The restart is taken, and the playback ends after a second cycle. -/
theorem restarts_honoured_heededRestart :
    ∃ s, Machine.exec (PcapFeed.step threeShots) (init (.boot false false false)) heededRestart =
        some s ∧ s.playback.state = .finished ∧
      Honoured threeShots (init (.boot false false false)) heededRestart s := by
  have hrun : (Machine.exec (PcapFeed.step threeShots) (init (.boot false false false))
      heededRestart).map (fun s => s.playback.state) = some .finished := by
    decide +kernel
  obtain ⟨s, hs, hfin⟩ := Option.map_eq_some_iff.mp hrun
  exact ⟨s, hs, hfin, ((restarts_honoured_iff threeShots false false false heededRestart s hs).1
    hfin).mpr (by decide +kernel)⟩

/-- A playback ends with an accepted restart that was never taken. -/
theorem not_restarts_honoured :
    ¬ ∀ (cfg : PcapConfig) (paused loop gateArmed : Bool) (steps : List FeedStep) (s : PcapFeed),
      Machine.exec (PcapFeed.step cfg) (init (.boot paused loop gateArmed)) steps = some s →
      s.playback.state = .finished →
        Honoured cfg (init (.boot paused loop gateArmed)) steps s := by
  intro h
  have hrun : (Machine.exec (PcapFeed.step threeShots) (init (.boot false false false))
      forgottenRestart).map (fun s => (s.playback.state, s.playback.restartPending, s.cycle)) =
        some (.finished, true, 0) := by
    decide +kernel
  obtain ⟨s, hs, hend⟩ := Option.map_eq_some_iff.mp hrun
  simp only [Prod.mk.injEq] at hend
  have hhon := (h threeShots false false false forgottenRestart s hs hend.1).1
  rw [hend.2.1] at hhon
  cases hhon

end PcapFeed

end CamDriver
