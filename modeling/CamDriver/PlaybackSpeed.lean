import CamDriver.PlaybackNumbers

/-!
# CamDriver.PlaybackSpeed

When a playback can do with its speed.

A run whose config and requests are accepted has a speed that is not negative
(`notNegative_next`), which leaves an infinity and a nan.  A finite speed still fails where
it is too small for the wait that the data asks for, or too large for the time since the
baseline (`Playable`).
-/

namespace CamDriver

/-- The number does not overflow as a float. -/
def InRange (q : ℚ) : Prop := |q| < Binary64.limit

open Binary64 (nearest)

/-! ## Numbers -/

section Numbers

variable {i : Int} {q b : ℚ}

/-- A number in range is rounded to the nearest double. -/
theorem InRange.round (h : InRange q) : Binary64.round q = some (nearest q) :=
  Binary64.round_eq_some h

theorem round_of_not_inRange (h : ¬ InRange q) : Binary64.round q = none :=
  Binary64.round_eq_none h

/-- So for an integer. -/
theorem intToFloat_of_inRange (h : InRange i) : intToFloat i = .ok (nearest i) := by
  rw [intToFloat, h.round]

/-- It raises out of range. -/
theorem intToFloat_of_not_inRange (h : ¬ InRange i) : intToFloat i = .error .overflow := by
  rw [intToFloat, round_of_not_inRange h]

/-- An integer divided by a double. -/
theorem divideInt_of_inRange (h : InRange i) :
    divideInt i (.finite b) = .ok (.ofRat (nearest i / b)) := by
  rw [divideInt, intToFloat_of_inRange h]
  rfl

/-- It raises before it divides. -/
theorem divideInt_of_not_inRange (h : ¬ InRange i) (x : PyFloat) :
    divideInt i x = .error .overflow := by
  rw [divideInt, intToFloat_of_not_inRange h]
  rfl

/-- An integer times a double. -/
theorem timesInt_of_inRange (h : InRange i) :
    timesInt i (.finite b) = .ok (.ofRat (nearest i * b)) := by
  rw [timesInt, intToFloat_of_inRange h]
  rfl

/-- It raises before it multiplies. -/
theorem timesInt_of_not_inRange (h : ¬ InRange i) (x : PyFloat) :
    timesInt i x = .error .overflow := by
  rw [timesInt, intToFloat_of_not_inRange h]
  rfl

namespace PyFloat

/-- The double of a quotient or product. -/
theorem ofRat_of_inRange (h : InRange q) : ofRat q = .finite (nearest q) := by
  rw [ofRat, h.round]

theorem toInt_ofRat (h : InRange q) : (ofRat q).toInt = .ok (truncate (nearest q)) := by
  rw [ofRat_of_inRange h, toInt]

/-- An infinity has none. -/
theorem toInt_ofRat_of_not_inRange (h : ¬ InRange q) : (ofRat q).toInt = .error .overflow := by
  rw [ofRat, round_of_not_inRange h]
  dsimp only
  split <;> rfl

end PyFloat

/-- The numbers that occur in practice are in range. -/
theorem inRange_of_abs_le (h : |q| ≤ 2 ^ 53) : InRange q := h.trans_lt Binary64.lt_limit

/-- What an integer comes to in units of 10^9 is a number. -/
theorem inRange_billionth (h : InRange i) : InRange (nearest i / 1000000000) := by
  have bound : |(i : ℚ)| < Binary64.limit := h
  have rounded := Binary64.abs_nearest_le (i : ℚ)
  have large := Binary64.lt_limit
  rw [InRange, abs_div, abs_of_pos (by norm_num : (0 : ℚ) < 1000000000), div_lt_iff₀ (by norm_num)]
  linarith

/-- So is what is left of it when it is rounded to three digits. -/
theorem isFinite_round3_billionth (h : InRange i) :
    (PyFloat.ofRat (nearest i / 1000000000)).round3.isFinite = true := by
  have bound : |(i : ℚ)| < Binary64.limit := h
  have rounded := Binary64.abs_nearest_le (i : ℚ)
  have large := Binary64.lt_limit
  rw [PyFloat.ofRat_of_inRange (inRange_billionth h), PyFloat.round3]
  generalize hx : nearest (nearest (i : ℚ) / 1000000000) = x
  have small : |x| ≤ 2 * ((2 * |(i : ℚ)| + 1) / 1000000000) + 1 := by
    have again := Binary64.abs_nearest_le (nearest (i : ℚ) / 1000000000)
    rw [hx, abs_div, abs_of_pos (by norm_num : (0 : ℚ) < 1000000000)] at again
    have := div_le_div_of_nonneg_right rounded (by norm_num : (0 : ℚ) ≤ 1000000000)
    linarith
  have digits : |(roundHalfEven (x * 1000) : ℚ) / 1000| ≤ |x| + 1 := by
    have off := abs_roundHalfEven_sub_le (x * 1000)
    have triangle := abs_sub_abs_le_abs_sub (roundHalfEven (x * 1000) : ℚ) (x * 1000)
    rw [abs_mul, abs_of_pos (by norm_num : (0 : ℚ) < 1000)] at triangle
    rw [abs_div, abs_of_pos (by norm_num : (0 : ℚ) < 1000), div_le_iff₀ (by norm_num)]
    linarith
  have range : InRange ((roundHalfEven (x * 1000) : ℚ) / 1000) := by
    rw [InRange]
    have : (2 * |(i : ℚ)| + 1) / 1000000000 ≤ Binary64.limit / 8 := by
      rw [div_le_div_iff₀ (by norm_num) (by norm_num)]
      linarith
    linarith
  rw [PyFloat.ofRat_of_inRange range]
  rfl

/-- Nanoseconds that are a number are one of seconds, too. -/
theorem secondsOf_eq (h : InRange i) : secondsOf i =
    .ok (.finite (nearest (roundHalfEven (nearest (nearest i / 1000000000) * 1000) / 1000))) := by
  have hfinite := isFinite_round3_billionth h
  rw [PyFloat.ofRat_of_inRange (inRange_billionth h), PyFloat.round3] at hfinite
  have hrange : InRange
      ((roundHalfEven (nearest (nearest (i : ℚ) / 1000000000) * 1000) : ℚ) / 1000) := by
    by_contra hnot
    rw [PyFloat.ofRat, round_of_not_inRange hnot] at hfinite
    dsimp only at hfinite
    split at hfinite <;> cases hfinite
  rw [secondsOf, divideInt_of_inRange h, PyFloat.ofRat_of_inRange (inRange_billionth h)]
  change Except.ok (PyFloat.round3 _) = _
  rw [PyFloat.round3, PyFloat.ofRat_of_inRange hrange]

theorem toNs_eq (h : InRange (q * 1000000000)) :
    (PyFloat.finite q).toNs = .ok (truncate (nearest (q * 1000000000))) :=
  PyFloat.toInt_ofRat h

/-- A positive number of seconds is no negative number of nanoseconds. -/
theorem toNs_nonneg {x : PyFloat} {ns : Int} (hpos : x.isPositive = true) (h : x.toNs = .ok ns) :
    0 ≤ ns := by
  cases x with
  | finite q =>
      have hq : 0 < q := of_decide_eq_true hpos
      by_cases range : InRange (q * 1000000000)
      · obtain rfl := Except.ok.inj ((toNs_eq range).symm.trans h)
        have hnearest : 0 ≤ nearest (q * 1000000000) := by
          have hzero : roundHalfEven 0 ≤ roundHalfEven (q * 1000000000 /
              Binary64.step (q * 1000000000)) :=
            roundHalfEven_le (div_nonneg (by positivity) (Binary64.step_pos _).le)
          rw [show (0 : ℚ) = ((0 : Int) : ℚ) from rfl, roundHalfEven_int] at hzero
          exact mul_nonneg (by exact_mod_cast hzero) (Binary64.step_pos _).le
        rw [truncate, if_pos hnearest]
        exact Int.floor_nonneg.mpr hnearest
      · rw [PyFloat.toNs, PyFloat.toInt_ofRat_of_not_inRange range] at h
        cases h
  | posInf | negInf | nan => cases h

end Numbers

/-! ## A wait -/

/-- How far behind `now` a timestamp is due, at a speed and from a baseline. -/
def aheadNs (q : ℚ) (t0 wall tsNs now : Int) : Int :=
  wall + truncate (nearest (nearest (tsNs - t0 : Int) / q)) - now

/-- The time to the timestamp can be computed, and it is no longer than a sleep can be. -/
structure Due (maxSleep q : ℚ) (t0 wall tsNs now : Int) : Prop where
  data : InRange (tsNs - t0 : Int)
  quotient : InRange (nearest (tsNs - t0 : Int) / q)
  sleep : 0 < aheadNs q t0 wall tsNs now → InRange (aheadNs q t0 wall tsNs now) ∧
    nearest (nearest (aheadNs q t0 wall tsNs now) / 1000000000) ≤ maxSleep

/-- A sleep that is over is one that `time.sleep` accepts. -/
theorem sleepUntil_iff {maxSleep : ℚ} {target now : Int} :
    (∃ slept, Pacer.sleepUntil maxSleep target now = .ok slept) ↔
      (0 < target - now → InRange (target - now : Int) ∧
        nearest (nearest (target - now : Int) / 1000000000) ≤ maxSleep) := by
  rw [Pacer.sleepUntil]
  split
  · next hdue => exact iff_of_true ⟨none, rfl⟩ fun h => absurd h (by omega)
  · next hahead =>
      rw [forall_prop_of_true (by omega : 0 < target - now)]
      by_cases range : InRange (target - now : Int)
      · rw [divideInt_of_inRange range, PyFloat.ofRat_of_inRange (inRange_billionth range),
          and_iff_right range]
        dsimp only [bind, Except.bind]
        split
        · next hle => exact iff_of_true ⟨_, rfl⟩ hle
        · next hnot => exact iff_of_false (fun ⟨_, h⟩ => by cases h) hnot
      · rw [divideInt_of_not_inRange range]
        exact iff_of_false (fun ⟨_, h⟩ => by cases h) fun h => range h.1

section Wait

variable {maxSleep q : ℚ} {p : Pacer PyFloat}

/-- The instant a timestamp is due, where it can be computed. -/
theorem dueAt_eq (hspeed : p.speed = .finite q) {t0 tsNs : Int}
    (data : InRange (tsNs - t0 : Int)) (quotient : InRange (nearest (tsNs - t0 : Int) / q)) :
    p.dueAt t0 tsNs = .ok (p.t0Wall + truncate (nearest (nearest (tsNs - t0 : Int) / q))) := by
  rw [Pacer.dueAt, hspeed, divideInt_of_inRange data]
  dsimp only [bind, Except.bind]
  rw [PyFloat.toInt_ofRat quotient]
  rfl

/-- A frame whose due time overflows. -/
theorem dueAt_eq_error (hspeed : p.speed = .finite q) {t0 tsNs : Int}
    (h : ¬ (InRange (tsNs - t0 : Int) ∧ InRange (nearest (tsNs - t0 : Int) / q))) :
    p.dueAt t0 tsNs = .error .overflow := by
  rw [Pacer.dueAt, hspeed]
  by_cases data : InRange (tsNs - t0 : Int)
  · rw [divideInt_of_inRange data]
    dsimp only [bind, Except.bind]
    rw [PyFloat.toInt_ofRat_of_not_inRange fun quotient => h ⟨data, quotient⟩]
  · rw [divideInt_of_not_inRange data]
    rfl

/-- A frame that is slept for. -/
theorem sleep_iff (hspeed : p.speed = .finite q) (t0 tsNs now : Int) :
    (∃ slept, p.sleep maxSleep t0 tsNs now = .ok slept) ↔
      Due maxSleep q t0 p.t0Wall tsNs now := by
  rw [Pacer.sleep]
  by_cases h : InRange (tsNs - t0 : Int) ∧ InRange (nearest (tsNs - t0 : Int) / q)
  · rw [dueAt_eq hspeed h.1 h.2]
    exact sleepUntil_iff.trans ⟨fun hsleep => ⟨h.1, h.2, hsleep⟩, Due.sleep⟩
  · rw [dueAt_eq_error hspeed h]
    exact iff_of_false (fun ⟨_, h⟩ => by cases h) fun hdue => h ⟨hdue.data, hdue.quotient⟩

/-- `int` does not go away from 0. -/
theorem truncate_le_abs (x : ℚ) : (truncate x : ℚ) ≤ |x| := by
  unfold truncate
  split
  · exact (Int.floor_le x).trans (le_abs_self x)
  · next hneg =>
      have ceil : ⌈x⌉ ≤ 0 := Int.ceil_le.2 (by exact_mod_cast (not_le.1 hneg).le)
      have zero : ((⌈x⌉ : Int) : ℚ) ≤ 0 := by exact_mod_cast ceil
      exact zero.trans (abs_nonneg x)

/-- A timestamp up to eighteen minutes off is due within a sleep at every speed from a
thousandth on. -/
theorem due_of_ordinary {maxSleep q : ℚ} {t0 wall tsNs now : Int} (hq : 1 / 1024 ≤ q)
    (hdata : |tsNs - t0| ≤ 2 ^ 40) (hwall : wall ≤ now) (hsleep : 2 ^ 26 ≤ maxSleep) :
    Due maxSleep q t0 wall tsNs now := by
  have small : |((tsNs - t0 : Int) : ℚ)| ≤ 2 ^ 40 := by exact_mod_cast hdata
  have exact_data : nearest (tsNs - t0 : Int) = (tsNs - t0 : Int) :=
    Binary64.nearest_int (hdata.trans_lt (by norm_num))
  have quotient : |((tsNs - t0 : Int) : ℚ) / q| ≤ 2 ^ 50 := by
    have pos : 0 < q := by linarith
    rw [abs_div, abs_of_pos pos, div_le_iff₀ pos]
    linarith
  have ahead : (aheadNs q t0 wall tsNs now : ℚ) ≤ 2 ^ 52 := by
    have rounded := Binary64.abs_nearest_le (((tsNs - t0 : Int) : ℚ) / q)
    have whole := truncate_le_abs (nearest (((tsNs - t0 : Int) : ℚ) / q))
    have wallLe : (wall : ℚ) ≤ now := by exact_mod_cast hwall
    rw [aheadNs, exact_data]
    push_cast at rounded whole quotient ⊢
    linarith
  refine ⟨inRange_of_abs_le (small.trans (by norm_num)), ?_, ?_⟩
  · rw [exact_data]
    exact inRange_of_abs_le (quotient.trans (by norm_num))
  · intro hpos
    have positive : (0 : ℚ) ≤ aheadNs q t0 wall tsNs now := by exact_mod_cast hpos.le
    rw [← abs_of_nonneg positive] at ahead
    refine ⟨inRange_of_abs_le (ahead.trans (by norm_num)), ?_⟩
    have first := Binary64.abs_nearest_le (aheadNs q t0 wall tsNs now : ℚ)
    have second := Binary64.abs_nearest_le (nearest (aheadNs q t0 wall tsNs now) / 1000000000)
    rw [abs_div, abs_of_pos (by norm_num : (0 : ℚ) < 1000000000)] at second
    have scaled := div_le_div_of_nonneg_right first (by norm_num : (0 : ℚ) ≤ 1000000000)
    have upper := le_abs_self (nearest (nearest (aheadNs q t0 wall tsNs now) / 1000000000))
    linarith

/-- The baseline a wait at `now` counts from. -/
def Pacer.baseline (p : Pacer PyFloat) (now : Int) : Option (Int × Int) :=
  match p.t0Src, p.anchorSrcNs with
  | some t0, _ => some (t0, p.t0Wall)
  | none, some anchor => some (anchor, now)
  | none, none => none

/-- A wait returns where it does not sleep, or can. -/
theorem waitFloat_iff (hspeed : p.speed = .finite q) (tsNs now : Int) :
    (∃ slept, (p.waitFloat maxSleep tsNs now).2 = .ok slept) ↔
      (0 < q → ∀ base ∈ p.baseline now, Due maxSleep q base.1 base.2 tsNs now) := by
  have rest : p.speed.isAtMostZero = decide (q ≤ 0) := by rw [hspeed, PyFloat.isAtMostZero]
  unfold Pacer.waitFloat
  dsimp only
  rw [rest]
  split
  · next hq =>
      exact iff_of_true ⟨none, rfl⟩ fun hpos => absurd hpos (not_lt.2 (of_decide_eq_true hq))
  · next hq =>
      rw [forall_prop_of_true (not_le.1 fun h => hq (decide_eq_true h))]
      cases ht0 : p.t0Src with
      | some t0 =>
          have base : p.baseline now = some (t0, p.t0Wall) := by rw [Pacer.baseline, ht0]
          rw [base]
          simpa using sleep_iff (p := { p with t0Src := some t0, lastSrc := some tsNs }) hspeed
            t0 tsNs now
      | none =>
          cases hanchor : p.anchorSrcNs with
          | none =>
              have base : p.baseline now = none := by rw [Pacer.baseline, ht0, hanchor]
              rw [base]
              exact iff_of_true ⟨none, rfl⟩ (by simp)
          | some anchor =>
              have base : p.baseline now = some (anchor, now) := by
                rw [Pacer.baseline, ht0, hanchor]
              rw [base]
              simpa using sleep_iff (p := ⟨p.speed, some anchor, some anchor, now, some tsNs⟩)
                hspeed anchor tsNs now

end Wait

/-! ## The descriptor -/

namespace PlaybackControl

/-- How far the timeline has got on since the baseline, in nanoseconds. -/
def wallNs (c : PlaybackControl) (q : ℚ) (now : Int) : Int :=
  truncate (nearest (nearest (now - c.pacer.t0Wall : Int) * q))

/-- The baseline that the position moves on from, where it does. -/
def moving (c : PlaybackControl) (q : ℚ) : Option Int :=
  if c.state = .playing ∧ 0 < q then c.pacer.t0Src else none

/-- The position, at a finite speed. -/
def positionNow (c : PlaybackControl) (durationNs : Option Int) (q : ℚ) (now : Int) : Int :=
  match c.moving q with
  | some t0 => c.positionAt durationNs t0 (c.wallNs q now)
  | none => max 0 c.positionNs

/-- The time since the baseline can be scaled, and the position is a number. -/
structure Located (c : PlaybackControl) (durationNs : Option Int) (q : ℚ) (now : Int) : Prop where
  elapsed : ∀ t0 ∈ c.moving q, InRange (now - c.pacer.t0Wall : Int) ∧
    InRange (nearest (now - c.pacer.t0Wall : Int) * q)
  position : InRange (c.positionNow durationNs q now)

variable {c : PlaybackControl} {durationNs : Option Int} {q : ℚ}

/-- The position moves only while playing, at a positive speed. -/
theorem moving_eq (h : ∃ t0, c.moving q = some t0) :
    c.state = .playing ∧ 0 < q ∧ c.moving q = c.pacer.t0Src := by
  obtain ⟨t0, ht0⟩ := h
  unfold moving at ht0 ⊢
  split at ht0
  · next hmoves => exact ⟨hmoves.1, hmoves.2, if_pos hmoves⟩
  · cases ht0

/-- Where the timeline moves, the position is that of the time since the baseline. -/
theorem timelinePositionNs_of_some (hspeed : c.pacer.speed = .finite q) {t0 : Int}
    (h : c.moving q = some t0) (now : Int) :
    c.timelinePositionNs durationNs now = do
      let wall ← timesInt (now - c.pacer.t0Wall) (.finite q)
      return c.positionAt durationNs t0 (← wall.toInt) := by
  obtain ⟨hplaying, hpos, hsrc⟩ := moving_eq ⟨t0, h⟩
  have positive : c.pacer.speed.isPositive = true := by
    rw [hspeed]
    exact decide_eq_true hpos
  rw [timelinePositionNs, ← hsrc, h]
  dsimp only
  rw [if_pos ⟨hplaying, positive⟩, hspeed]

/-- Where it does not, it is that of the last frame. -/
theorem timelinePositionNs_of_none (hspeed : c.pacer.speed = .finite q)
    (h : c.moving q = none) (now : Int) :
    c.timelinePositionNs durationNs now = .ok (max 0 c.positionNs) := by
  rw [timelinePositionNs]
  split
  · rfl
  · next t0 ht0 =>
      have rest : ¬ (c.state = .playing ∧ c.pacer.speed.isPositive) := by
        rintro ⟨hplaying, hpos⟩
        rw [hspeed] at hpos
        rw [moving, if_pos ⟨hplaying, of_decide_eq_true hpos⟩, ht0] at h
        cases h
      rw [if_neg rest]

/-- Where it does, it has moved on with the clock. -/
theorem timelinePositionNs_eq (hspeed : c.pacer.speed = .finite q) {now : Int}
    (h : ∀ t0 ∈ c.moving q, InRange (now - c.pacer.t0Wall : Int) ∧
      InRange (nearest (now - c.pacer.t0Wall : Int) * q)) :
    c.timelinePositionNs durationNs now = .ok (c.positionNow durationNs q now) := by
  cases hmoving : c.moving q with
  | none => rw [timelinePositionNs_of_none hspeed hmoving, positionNow, hmoving]
  | some t0 =>
      obtain ⟨elapsed, scaled⟩ := h t0 hmoving
      rw [timelinePositionNs_of_some hspeed hmoving, timesInt_of_inRange elapsed, positionNow,
        hmoving]
      dsimp only [bind, Except.bind]
      rw [PyFloat.toInt_ofRat scaled]
      rfl

/-- It raises where that overflows. -/
theorem timelinePositionNs_eq_error (hspeed : c.pacer.speed = .finite q) {now : Int}
    (h : ¬ ∀ t0 ∈ c.moving q, InRange (now - c.pacer.t0Wall : Int) ∧
      InRange (nearest (now - c.pacer.t0Wall : Int) * q)) :
    c.timelinePositionNs durationNs now = .error .overflow := by
  simp only [not_forall] at h
  obtain ⟨t0, hmoving, hout⟩ := h
  rw [timelinePositionNs_of_some hspeed hmoving]
  by_cases elapsed : InRange (now - c.pacer.t0Wall : Int)
  · rw [timesInt_of_inRange elapsed]
    dsimp only [bind, Except.bind]
    rw [PyFloat.toInt_ofRat_of_not_inRange fun scaled => hout ⟨elapsed, scaled⟩]
  · rw [timesInt_of_not_inRange elapsed]
    rfl

/-- The descriptor's numbers are numbers where the position is. -/
theorem describe_iff (hspeed : c.pacer.speed = .finite q) (now : Int) :
    (∃ d, c.describe durationNs now = .ok d ∧ d.speed.isFinite = true ∧
        d.positionS.isFinite = true) ↔ c.Located durationNs q now := by
  rw [describe]
  by_cases h : ∀ t0 ∈ c.moving q, InRange (now - c.pacer.t0Wall : Int) ∧
      InRange (nearest (now - c.pacer.t0Wall : Int) * q)
  · rw [timelinePositionNs_eq hspeed h]
    by_cases position : InRange (c.positionNow durationNs q now)
    · dsimp only [bind, Except.bind]
      rw [divideInt_of_inRange position]
      refine iff_of_true ⟨_, rfl, ?_, isFinite_round3_billionth position⟩ ⟨h, position⟩
      rw [hspeed]
      rfl
    · dsimp only [bind, Except.bind]
      rw [divideInt_of_not_inRange position]
      exact iff_of_false (fun ⟨_, h, _⟩ => by cases h) fun hlocated => position hlocated.position
  · rw [timelinePositionNs_eq_error hspeed h]
    exact iff_of_false (fun ⟨_, h, _⟩ => by cases h) fun hlocated => h hlocated.elapsed

end PlaybackControl

/-! ## The speed of a run -/

/-- The speed is not less than zero. -/
def NotNegative (s : PlaybackControl × PlaybackSource) : Prop :=
  s.1.pacer.speed.isNegative = false

/-- The sign of the speed is that of the pacer's. -/
theorem notNegative_of_speed_eq {c c' : PlaybackControl} {src src' : PlaybackSource}
    (h : NotNegative (c, src)) (hspeed : c'.pacer.speed = c.pacer.speed) :
    NotNegative (c', src') := by
  rw [NotNegative, hspeed]
  exact h

/-- No operation makes it negative. -/
theorem notNegative_apply (py : Builtins) (env : RequestEnv) (params : PlaybackParams)
    (cur : PlayState) {c : PlaybackControl} (op : PlaybackOp)
    (h : c.pacer.speed.isNegative = false) :
    (c.apply py env params cur op).1.pacer.speed.isNegative = false := by
  cases op with
  | pause =>
      simp only [PlaybackControl.apply]
      split <;> exact h
  | resume =>
      simp only [PlaybackControl.apply]
      split
      · exact h
      · split
        · simp only [PlaybackControl.changed, PlaybackControl.release, Pacer.speed_anchorNow]
          exact h
        · simp only [PlaybackControl.changed, Pacer.speed_rebase]
          exact h
  | setSpeed =>
      simp only [PlaybackControl.apply]
      split
      · exact h
      · exact h
      · split
        · exact h
        · next hnot =>
            split
            · exact h
            · simpa only [PlaybackControl.changed, Pacer.speed_setSpeed, Bool.not_eq_true]
                using hnot
  | setLoop =>
      simp only [PlaybackControl.apply]
      split
      · split <;> exact h
      · exact h
  | restart => exact h

/-- Nor does a request under the lock. -/
theorem notNegative_locked (py : Builtins) (env : RequestEnv) (op : String)
    (params : PlaybackParams) {c : PlaybackControl} (h : c.pacer.speed.isNegative = false) :
    (c.locked py env op params).1.pacer.speed.isNegative = false := by
  simp only [PlaybackControl.locked]
  split
  · exact h
  · split
    · split
      · exact notNegative_apply py env params _ _ h
      · exact h
    · exact notNegative_apply py env params _ _ h

/-- The restart hook keeps the speed. -/
theorem speed_restart (cfg : PacedReplayConfig) (renv : RestartEnv) (c : PlaybackControl)
    (side : ReplaySide) : (side.restart cfg renv c).1.1.pacer.speed = c.pacer.speed := by
  simp only [ReplaySide.restart]
  split
  · split <;> rfl
  · rfl

/-- Nor does one that rebuilds the source. -/
theorem notNegative_request (py : Builtins) (env : RequestEnv) (renv : RestartEnv) (op : String)
    (params : PlaybackParams) {c : PlaybackControl} {src : PlaybackSource}
    (h : NotNegative (c, src)) : NotNegative (request py env renv op params c src).1 := by
  have locked := notNegative_locked py env op params (c := c) h
  unfold request
  split
  · next heq =>
      rw [heq] at locked
      exact locked
  · next heq =>
      rw [heq] at locked
      exact locked
  · next c' heq =>
      rw [heq] at locked
      split
      · cases src with
        | pcap finished failed => exact locked
        | replay cfg side =>
            have kept := speed_restart cfg renv c' side
            dsimp only
            split
            · next hr =>
                rw [hr] at kept
                exact @notNegative_of_speed_eq c' _ (.replay cfg side) _ locked kept
            · next hr =>
                rw [hr] at kept
                exact @notNegative_of_speed_eq c' _ (.replay cfg side) _ locked kept
      · exact locked

theorem notNegative_nextCycle (renv : RestartEnv) {c : PlaybackControl} {src : PlaybackSource}
    (h : NotNegative (c, src)) : NotNegative (nextCycle renv c src) := by
  unfold nextCycle
  split
  · exact h
  · next cfg side =>
      have kept := speed_restart cfg renv c side
      split
      · next hr =>
          rw [hr] at kept
          exact notNegative_of_speed_eq h kept
      · next hr =>
          rw [hr] at kept
          exact notNegative_of_speed_eq h kept

/-- No event makes the speed negative. -/
theorem notNegative_next (py : Builtins) (s : PlaybackControl × PlaybackSource)
    (e : PlaybackEvent) (s' : PlaybackControl × PlaybackSource) (h : NotNegative s)
    (hs : e.next py s = some s') : NotNegative s' := by
  obtain ⟨c, src⟩ := s
  cases e with
  | request op params env renv =>
      cases hs
      exact notNegative_request _ _ _ _ _ h
  | fireGate =>
      simp only [PlaybackEvent.next, Option.ite_none_right_eq_some] at hs
      cases hs.2
      exact h
  | gateResume env renv =>
      simp only [PlaybackEvent.next, Option.ite_none_right_eq_some] at hs
      cases hs.2
      exact notNegative_request _ _ _ _ _ (notNegative_of_speed_eq h rfl)
  | nextCycle renv =>
      cases hs
      exact notNegative_nextCycle renv h
  | waitIfPaused cancel =>
      simp only [PlaybackEvent.next, Option.map_eq_some_iff] at hs
      obtain ⟨r, -, rfl⟩ := hs
      exact h
  | markFinished clock error =>
      simp only [PlaybackEvent.next] at hs
      split at hs
      · cases hs
        exact h
      · cases hs
        exact h
  | pacerMoves pacer =>
      simp only [PlaybackEvent.next, Option.ite_none_right_eq_some] at hs
      cases hs.2
      exact notNegative_of_speed_eq h hs.1
  | pcapMoves finished failed =>
      cases src with
      | pcap _ _ =>
          cases hs
          exact h
      | replay _ _ => cases hs
  | replayMoves side =>
      cases src with
      | pcap _ _ => cases hs
      | replay cfg old =>
          simp only [PlaybackEvent.next, Option.ite_none_right_eq_some] at hs
          cases hs.2
          exact h
  | cancelGate | noteFrame _ _ | takePreroll | takeRestart =>
      cases hs
      exact h

/-- The config does not either. -/
theorem notNegative_start {setup : PlaybackSetup} (h : configAccepts setup.speed = true) :
    NotNegative setup.start := by
  have accepted : setup.speed.isNegative = false := by simpa [configAccepts] using h
  unfold PlaybackSetup.start
  split <;> exact accepted

/-! ## What a speed breaks -/

/-- The speed is a finite number and not negative, a wait for `tsNs` at `now` returns, and
the numbers of the descriptor at `now'` are there and are numbers of JSON. -/
structure InOrder (maxSleep : ℚ) (durationNs : Option Int) (c : PlaybackControl)
    (tsNs now now' : Int) : Prop where
  speed : ∃ q, c.pacer.speed = .finite q ∧ 0 ≤ q
  waits : ∃ slept, (c.pacer.waitFloat maxSleep tsNs now).2 = .ok slept
  described : ∃ d, c.describe durationNs now' = .ok d ∧ d.speed.isFinite = true ∧
    d.positionS.isFinite = true

/-- The speed is a finite number; where it is not zero, the timestamp is due within a sleep;
and the position is a number. -/
def Playable (maxSleep : ℚ) (durationNs : Option Int) (c : PlaybackControl)
    (tsNs now now' : Int) : Prop :=
  ∃ q, c.pacer.speed = .finite q ∧
    (0 < q → ∀ base ∈ c.pacer.baseline now, Due maxSleep q base.1 base.2 tsNs now) ∧
    c.Located durationNs q now'

/-- Whatever was accepted, all is in order exactly where it is playable. -/
theorem inOrder_iff (py : Builtins) (maxSleep : ℚ) (durationNs : Option Int)
    (setup : PlaybackSetup) (hconfig : configAccepts setup.speed = true)
    (events : List PlaybackEvent) {s : PlaybackControl × PlaybackSource}
    (hrun : Machine.exec (fun s (e : PlaybackEvent) => e.next py s) setup.start events = some s)
    (tsNs now now' : Int) :
    InOrder maxSleep durationNs s.1 tsNs now now' ↔
      Playable maxSleep durationNs s.1 tsNs now now' := by
  have notNegative : NotNegative s :=
    Machine.exec_inv (notNegative_next py) (notNegative_start hconfig) hrun
  constructor
  · rintro ⟨⟨q, hspeed, -⟩, waits, described⟩
    exact ⟨q, hspeed, (waitFloat_iff hspeed tsNs now).1 waits,
      (PlaybackControl.describe_iff hspeed now').1 described⟩
  · rintro ⟨q, hspeed, due, located⟩
    refine ⟨⟨q, hspeed, ?_⟩, (waitFloat_iff hspeed tsNs now).2 due,
      (PlaybackControl.describe_iff hspeed now').2 located⟩
    have sign : decide (q < 0) = false := by
      rw [NotNegative, hspeed] at notNegative
      exact notNegative
    exact not_lt.1 (of_decide_eq_false sign)

/-- Two requests for a speed, the first one refused. -/
theorem inOrder_iff_doubled :
    ∃ s, Machine.exec (fun s (e : PlaybackEvent) => e.next plainBuiltins s) replaySetup.start
        [.request "set_speed" (.ofSpeed (.int (-1))) quietEnv brokenReader,
          .request "set_speed" (.ofSpeed (.int 2)) quietEnv brokenReader] = some s ∧
      (InOrder 9223372036 none s.1 1000 0 0 ↔ Playable 9223372036 none s.1 1000 0 0) :=
  ⟨_, rfl, inOrder_iff plainBuiltins 9223372036 none replaySetup rfl
    [.request "set_speed" (.ofSpeed (.int (-1))) quietEnv brokenReader,
      .request "set_speed" (.ofSpeed (.int 2)) quietEnv brokenReader] rfl 1000 0 0⟩

/-- A query for a speed is accepted. -/
def AcceptsSpeed (py : Builtins) (query : ControlQuery) (env : RequestEnv) (renv : RestartEnv)
    (s after : PlaybackControl × PlaybackSource) : Prop :=
  ∃ params reply, parsePlaybackRequest py query = .ok ("set_speed", params) ∧
    request py env renv "set_speed" params s.1 s.2 = (after, some reply) ∧ reply.ok = true

/-- The payload that asks for a nan, which the language reads as JSON. -/
def nanQuery : ControlQuery :=
  { payload := some (.ok (some [("op", .str "set_speed"), ("speed", .float .nan)]))
    parameters := "" }

/-- A nan is accepted as a speed. -/
theorem not_inOrder :
    ¬ ∀ (py : Builtins) (maxSleep : ℚ) (durationNs : Option Int) (setup : PlaybackSetup),
      configAccepts setup.speed = true → ∀ (query : ControlQuery) (env : RequestEnv)
        (renv : RestartEnv) (after : PlaybackControl × PlaybackSource),
        AcceptsSpeed py query env renv setup.start after →
          ∀ tsNs now now', InOrder maxSleep durationNs after.1 tsNs now now' := by
  intro inOrder
  have accepted : AcceptsSpeed plainBuiltins nanQuery quietEnv brokenReader replaySetup.start
      (request plainBuiltins quietEnv brokenReader "set_speed" (.ofSpeed (.float .nan))
        replaySetup.start.1 replaySetup.start.2).1 := ⟨.ofSpeed (.float .nan), _, rfl, rfl, rfl⟩
  obtain ⟨q, hspeed, -⟩ :=
    (inOrder plainBuiltins 0 none replaySetup rfl nanQuery quietEnv brokenReader _ accepted
      0 0 0).speed
  cases hspeed

end CamDriver
