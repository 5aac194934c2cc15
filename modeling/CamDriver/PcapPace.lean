import CamDriver.Pacer
import CamDriver.PcapOrder

/-!
# CamDriver.PcapPace

The pcap feeder against the clock: `PcapFeed` with its pacer, its sleeps and the
requests that move the pacer's baseline.

Statements and callbacks take no time: the clock moves on only while the feeder
sleeps towards a frame, is held, or has ended.  Each delivery is recorded with
the un-paused wall time at which it happened and the fastest speed since the
delivery before; no step reads these.
-/

namespace CamDriver

/-! ## The machine -/

/-- A delivered frame. -/
structure Delivery where
  tsNs : Int
  playedNs : Int
  fastest : ℚ
deriving DecidableEq, Repr

/-- The feeder, its pacer, and the instant its sleep is over. -/
structure PacedFeed where
  feed : PcapFeed
  pacer : Pacer ℚ
  clock : Int
  wakeAt : Option Int
  playedNs : Int
  fastest : ℚ
  deliveries : List Delivery

/-- A step of the threads, a speed request, or the passing of time. -/
inductive PacedStep where
  | feed (step : FeedStep)
  | setSpeed (speed : ℚ)
  | tick (ns : Nat)
deriving DecidableEq, Repr

namespace PacedFeed

/-- A source that has just been started. -/
def init (playback : PlaybackState) (speed : ℚ) : PacedFeed :=
  { feed := .init playback, pacer := .start speed none, clock := 0, wakeAt := none,
    playedNs := 0, fastest := speed, deliveries := [] }

/-- The feeder is inside a sleep that is not over. -/
def Sleeping (s : PacedFeed) : Prop := s.wakeAt.any (s.clock < ·) = true

instance (s : PacedFeed) : Decidable s.Sleeping := inferInstanceAs (Decidable (_ = _))

/-- The thread is held in `wait_if_paused`, or has ended. -/
def Held (s : PacedFeed) : Prop :=
  match s.feed.pc with
  | .holding _ _ | .holdingAgain _ _ => s.feed.playback.waitIfPaused s.feed.stopEvt = none
  | .done => True
  | _ => False

instance (s : PacedFeed) : Decidable s.Held :=
  match h : s.feed.pc with
  | .holding _ _ | .holdingAgain _ _ =>
    decidable_of_iff (s.feed.playback.waitIfPaused s.feed.stopEvt = none) (by simp [Held, h])
  | .done => isTrue (by simp [Held, h])
  | .starting | .pulling | .stamping _ _ | .stamped _ _ | .polling _ _ | .pacing _ _
  | .delivering _ _ | .passed _ | .closing => isFalse (by simp [Held, h])

/-- `ns` can pass: nothing happens before. -/
def CanPass (s : PacedFeed) (ns : Nat) : Prop :=
  match s.wakeAt with
  | some t => s.clock + ns ≤ t ∧ ¬ s.feed.stopEvt
  | none => s.Held

instance (s : PacedFeed) (ns : Nat) : Decidable (s.CanPass ns) :=
  match h : s.wakeAt with
  | some t => decidable_of_iff (s.clock + ns ≤ t ∧ ¬ s.feed.stopEvt) (by simp [CanPass, h])
  | none => decidable_of_iff s.Held (by simp [CanPass, h])

/-- Time passes. -/
def pass (s : PacedFeed) (ns : Nat) : PacedFeed :=
  { s with
    clock := s.clock + ns
    playedNs := if s.feed.playback.state = .paused then s.playedNs else s.playedNs + ns }

/-- `self._gate_armed = False`. -/
def disarm (s : PacedFeed) : PacedFeed :=
  { s with feed := { s.feed with playback := { s.feed.playback with gateArmed := false } } }

/-- `request("set_speed")`. -/
def setSpeed (s : PacedFeed) (speed : ℚ) : PacedFeed :=
  if s.feed.playback.state = .finished ∨ speed < 0 ∨ speed = s.pacer.speed then s.disarm
  else { s.disarm with
    pacer := s.pacer.setSpeed speed s.clock
    fastest := max s.fastest speed }

/-- A step of `PcapFeed` in which the pacer has no part. -/
def plain (cfg : PcapConfig) (s : PacedFeed) (a : FeedStep) : Option PacedFeed :=
  (PcapFeed.step cfg s.feed a).map fun feed => { s with feed := feed }

/-- The next statement of the feeder. -/
def feedStep (cfg : PcapConfig) (s : PacedFeed) (now : Int) : Option PacedFeed :=
  match s.feed.pc, s.wakeAt with
  | .pacing st _, none =>
    let (pacer, wakeAt) := s.pacer.wait st.timestampNs s.clock
    some { s with pacer := pacer, wakeAt := some wakeAt }
  | .pacing _ _, some t =>
    if t ≤ s.clock ∨ s.feed.stopEvt then plain cfg { s with wakeAt := none } (.feed now) else none
  | .delivering st _, _ =>
    plain cfg { s with
      fastest := s.pacer.speed
      deliveries := s.deliveries ++
        [{ tsNs := st.timestampNs, playedNs := s.playedNs, fastest := s.fastest }] } (.feed now)
  | _, _ => plain cfg s (.feed now)

/-- `self.pacer.rebase()` of a resume, from a pause only. -/
def rebase (s : PacedFeed) : PacedFeed :=
  if s.feed.playback.state = .paused then { s with pacer := s.pacer.rebase s.clock } else s

/-- One step; `none` when it is not possible. -/
def step (cfg : PcapConfig) (s : PacedFeed) : PacedStep → Option PacedFeed
  | .tick ns => if s.CanPass ns then some (s.pass ns) else none
  | .setSpeed speed => some (s.setSpeed speed)
  | .feed (.feed now) => s.feedStep cfg now
  | .feed .resume => plain cfg s.rebase .resume
  | .feed .gateResume => plain cfg s.rebase .gateResume
  | .feed a => plain cfg s a

/-! ## The feeder without a clock -/

theorem plain_eq_some {cfg : PcapConfig} {s s' : PacedFeed} {a : FeedStep}
    (h : plain cfg s a = some s') :
    ∃ feed, PcapFeed.step cfg s.feed a = some feed ∧ s' = { s with feed := feed } := by
  obtain ⟨feed, hfeed, rfl⟩ := Option.map_eq_some_iff.mp h
  exact ⟨feed, hfeed, rfl⟩

@[simp] theorem feed_rebase (s : PacedFeed) : s.rebase.feed = s.feed := by
  unfold rebase
  split <;> rfl

/-- A speed request touches the start gate, as any request does. -/
theorem feed_setSpeed (cfg : PcapConfig) (s : PacedFeed) (speed : ℚ) :
    PcapFeed.step cfg s.feed (.setLoop s.feed.playback.loop) = some (s.setSpeed speed).feed := by
  have hfeed : (s.setSpeed speed).feed = s.disarm.feed := by
    unfold setSpeed
    split <;> rfl
  rw [hfeed]
  simp [PcapFeed.step, PlaybackState.setLoop, disarm]

/-- A step against the clock is a step of the feeder, or none. -/
theorem feed_step {cfg : PcapConfig} {s s' : PacedFeed} {a : PacedStep}
    (h : step cfg s a = some s') :
    s'.feed = s.feed ∨ ∃ b, PcapFeed.step cfg s.feed b = some s'.feed := by
  have hplain : ∀ {t : PacedFeed} {b : FeedStep}, plain cfg t b = some s' → t.feed = s.feed →
      ∃ b, PcapFeed.step cfg s.feed b = some s'.feed := by
    intro t b hb ht
    obtain ⟨feed, hfeed, rfl⟩ := plain_eq_some hb
    exact ⟨b, ht ▸ hfeed⟩
  cases a with
  | tick ns =>
      simp only [step] at h
      split at h
      · exact .inl (Option.some.inj h ▸ rfl)
      · cases h
  | setSpeed speed => exact .inr ⟨_, Option.some.inj h ▸ feed_setSpeed cfg s speed⟩
  | feed a =>
      cases a with
      | feed now =>
          simp only [step, feedStep] at h
          split at h
          · exact .inl (Option.some.inj h ▸ rfl)
          · split at h
            · exact .inr (hplain h rfl)
            · cases h
          · exact .inr (hplain h rfl)
          · exact .inr (hplain h rfl)
      | resume | gateResume => exact .inr (hplain h (feed_rebase s))
      | pause | setLoop loop | requestRestart | gate | miniError | stop =>
          exact .inr (hplain h rfl)

/-- **The clock adds no behaviour**: what the paced feeder reaches, the feeder does. -/
theorem reachable_feed {cfg : PcapConfig} {playback : PlaybackState} {speed : ℚ} {s : PacedFeed}
    (h : Machine.Reachable (step cfg) (init playback speed) s) :
    Machine.Reachable (PcapFeed.step cfg) (.init playback) s.feed := by
  refine h.inv (I := fun s => Machine.Reachable (PcapFeed.step cfg) (.init playback) s.feed)
    (fun t a t' ht hstep => ?_) (.refl _)
  rcases feed_step hstep with hsame | ⟨b, hb⟩
  · exact hsame ▸ ht
  · exact ht.trans (.head hb (.refl _))

end PacedFeed

end CamDriver
