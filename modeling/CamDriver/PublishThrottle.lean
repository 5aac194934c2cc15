import CamDriver.Lib.Machine
import Mathlib.Tactic.Linarith
import Mathlib.Tactic.Ring

/-!
# CamDriver.PublishThrottle

`throttle_drop`: which frames the ROS bridge lets through to hold `publish_rate`.

A frame is let through once the deadline has come, and the next deadline is a period behind
this one, or behind the frame where a period or more has gone by.  Either way it lies behind
the frame and no more than a period behind it (`throttleDrop_passed`).  The first makes the
frames sparse, and the second makes none wait for longer than a period (`published_paced`).
-/

namespace CamDriver

/-- What `throttle_drop` keeps, in nanoseconds of the steady clock. -/
structure PublishThrottle where
  minPeriodNs : Int
  nextPubNs : Int
deriving DecidableEq, Repr

/-- The state of a bridge with no frame yet. -/
def PublishThrottle.init (minPeriodNs : Int) : PublishThrottle := ⟨minPeriodNs, 0⟩

/-- `throttle_drop`: whether the frame is dropped.  An `int64_t` holds every deadline that is
set as long as it holds the clock and a period (`nextPubNs_le`). -/
def throttleDrop (s : PublishThrottle) (now : Int) : PublishThrottle × Bool :=
  if s.minPeriodNs = 0 then (s, false)
  else if now < s.nextPubNs then (s, true)
  else
    -- a full period past the deadline anchors it again
    ({ s with nextPubNs :=
        if s.minPeriodNs ≤ now - s.nextPubNs then now + s.minPeriodNs
        else s.nextPubNs + s.minPeriodNs }, false)

/-- The arrival times of the frames that are let through. -/
def published (s : PublishThrottle) (arrivals : List Int) : List Int :=
  ((Machine.history throttleDrop s arrivals).filter fun e => !e.2).map Prod.fst

theorem published_dropped {s : PublishThrottle} {now : Int} (arrivals : List Int)
    (h : (throttleDrop s now).2 = true) :
    published s (now :: arrivals) = published (throttleDrop s now).1 arrivals := by
  simp [published, Machine.history, h]

theorem published_passed {s : PublishThrottle} {now : Int} (arrivals : List Int)
    (h : (throttleDrop s now).2 = false) :
    published s (now :: arrivals) = now :: published (throttleDrop s now).1 arrivals := by
  simp [published, Machine.history, h]

section Period

variable {s : PublishThrottle} {now : Int}

theorem minPeriodNs_throttleDrop : (throttleDrop s now).1.minPeriodNs = s.minPeriodNs := by
  rw [throttleDrop]
  split
  · rfl
  · split <;> rfl

theorem throttleDrop_dropped (h : (throttleDrop s now).2 = true) :
    (throttleDrop s now).1 = s ∧ now < s.nextPubNs := by
  rw [throttleDrop] at h ⊢
  split at h
  · cases h
  · next hperiod =>
      split at h
      · next hearly => exact ⟨by rw [if_neg hperiod, if_pos hearly], hearly⟩
      · cases h

/-- The deadline a frame leaves is a period or more behind the one it met, and behind the
frame by a period at most. -/
theorem throttleDrop_passed (hperiod : 0 < s.minPeriodNs) (h : (throttleDrop s now).2 = false) :
    s.nextPubNs ≤ now ∧ s.nextPubNs + s.minPeriodNs ≤ (throttleDrop s now).1.nextPubNs ∧
      now < (throttleDrop s now).1.nextPubNs ∧
      (throttleDrop s now).1.nextPubNs ≤ now + s.minPeriodNs := by
  rw [throttleDrop, if_neg hperiod.ne'] at h ⊢
  split at h
  · cases h
  · next hlate =>
      rw [if_neg hlate]
      dsimp only
      split <;> omega

end Period

/-- The frames let through are a period apart, from the deadline on. -/
theorem le_published {s : PublishThrottle} (hperiod : 0 < s.minPeriodNs) {arrivals : List Int}
    {n : Nat} {ts : Int} (h : (published s arrivals)[n]? = some ts) :
    s.nextPubNs + n * s.minPeriodNs ≤ ts := by
  induction arrivals generalizing s n with
  | nil => cases h
  | cons now arrivals ih =>
      have hsame : (throttleDrop s now).1.minPeriodNs = s.minPeriodNs := minPeriodNs_throttleDrop
      cases hdrop : (throttleDrop s now).2 with
      | true =>
          rw [published_dropped arrivals hdrop, (throttleDrop_dropped hdrop).1] at h
          exact ih hperiod h
      | false =>
          obtain ⟨hcome, hnext, -, -⟩ := throttleDrop_passed hperiod hdrop
          rw [published_passed arrivals hdrop] at h
          cases n with
          | zero =>
              obtain rfl := Option.some.inj h
              simpa using hcome
          | succ n =>
              have hrest := ih (hsame ▸ hperiod) h
              rw [hsame] at hrest
              push_cast
              linarith

/-- Any `n + 1` frames in a row span more than `n - 1` periods. -/
theorem published_spaced {s : PublishThrottle} (hperiod : 0 < s.minPeriodNs)
    {arrivals : List Int} {i n : Nat} {first last : Int}
    (hfirst : (published s arrivals)[i]? = some first)
    (hlast : (published s arrivals)[i + n]? = some last) :
    ((n : Int) - 1) * s.minPeriodNs < last - first := by
  induction arrivals generalizing s i with
  | nil => cases hfirst
  | cons now arrivals ih =>
      have hsame : (throttleDrop s now).1.minPeriodNs = s.minPeriodNs := minPeriodNs_throttleDrop
      cases hdrop : (throttleDrop s now).2 with
      | true =>
          rw [published_dropped arrivals hdrop, (throttleDrop_dropped hdrop).1] at hfirst hlast
          exact ih hperiod hfirst hlast
      | false =>
          obtain ⟨-, -, hbehind, -⟩ := throttleDrop_passed hperiod hdrop
          rw [published_passed arrivals hdrop] at hfirst hlast
          cases i with
          | zero =>
              obtain rfl := Option.some.inj hfirst
              cases n with
              | zero =>
                  obtain rfl := Option.some.inj hlast
                  simpa using hperiod
              | succ n =>
                  -- the rest is a period apart, from a deadline behind `now`
                  rw [Nat.zero_add, List.getElem?_cons_succ] at hlast
                  have hafter := le_published (hsame ▸ hperiod) hlast
                  rw [hsame] at hafter
                  push_cast
                  linarith
          | succ i =>
              rw [Nat.succ_add] at hlast
              rw [← hsame]
              exact ih (hsame ▸ hperiod) hfirst hlast

/-- The deadline is a period at most behind the last frame let through. -/
theorem nextPubNs_le {s : PublishThrottle} (hperiod : 0 < s.minPeriodNs) (arrivals : List Int) :
    (Machine.final throttleDrop s arrivals).minPeriodNs = s.minPeriodNs ∧
      ∀ last ∈ (published s arrivals).getLast?,
        (Machine.final throttleDrop s arrivals).nextPubNs ≤ last + s.minPeriodNs := by
  refine Machine.inv_history
    (I := fun (t : PublishThrottle) h => t.minPeriodNs = s.minPeriodNs ∧
      ∀ last ∈ ((h.filter fun e => !e.2).map Prod.fst).getLast?,
        t.nextPubNs ≤ last + s.minPeriodNs) ⟨rfl, ?_⟩ ?_ arrivals
  · intro last hlast
    cases hlast
  · rintro t h now ⟨hsame, hlast⟩
    refine ⟨minPeriodNs_throttleDrop.trans hsame, ?_⟩
    cases hdrop : (throttleDrop t now).2 with
    | true =>
        rw [(throttleDrop_dropped hdrop).1]
        simpa using hlast
    | false =>
        obtain ⟨-, -, -, hnear⟩ := throttleDrop_passed (hsame ▸ hperiod) hdrop
        rw [hsame] at hnear
        simpa using hnear

/-- Of the frames let through, any `n + 1` in a row span more than `n - 1` periods; and a frame
that arrives a period or more behind the last one let through is not dropped. -/
theorem published_paced {minPeriodNs : Int} (hperiod : 0 < minPeriodNs) (arrivals : List Int) :
    (∀ (i n : Nat) (first last : Int),
      (published (.init minPeriodNs) arrivals)[i]? = some first →
      (published (.init minPeriodNs) arrivals)[i + n]? = some last →
      ((n : Int) - 1) * minPeriodNs < last - first) ∧
      ∀ before now after, arrivals = before ++ now :: after →
        ∀ last ∈ (published (.init minPeriodNs) before).getLast?, last + minPeriodNs ≤ now →
          (throttleDrop (Machine.final throttleDrop (.init minPeriodNs) before) now).2 = false := by
  have hinit : 0 < (PublishThrottle.init minPeriodNs).minPeriodNs := hperiod
  constructor
  · intro i n first last hfirst hlast
    exact published_spaced hinit hfirst hlast
  · intro before now after _ last hlast hbehind
    obtain ⟨-, hnear⟩ := nextPubNs_le hinit before
    have hcome := (hnear last hlast).trans hbehind
    cases hdrop : (throttleDrop (Machine.final throttleDrop (.init minPeriodNs) before) now).2 with
    | true => exact absurd hcome (throttleDrop_dropped hdrop).2.not_ge
    | false => rfl

/-- 25 frames a second, capped to 10. -/
theorem published_paced_capped :
    published (.init 100) [1000, 1040, 1080, 1120, 1160, 1200, 1240] = [1000, 1120, 1200] ∧
      ((2 : Nat) - 1 : Int) * 100 < 1200 - 1000 :=
  ⟨by decide, (published_paced (by decide) [1000, 1040, 1080, 1120, 1160, 1200, 1240]).1 0 2
    1000 1200 (by decide) (by decide)⟩

end CamDriver
