import Mathlib.Data.Rat.Floor

/-!
# CamDriver.Pacer

`playback.Pacer`: the wall instant at which a data timestamp is due, and the
calls that move its baseline.

A speed is a positive rational here and the division is exact; `int` then drops
what is below a nanosecond.  `wait` is split at its sleep: it answers the instant
it returns at.
-/

namespace CamDriver

/-! ## Data time to wall time -/

/-- `int`: towards zero. -/
def truncate (q : ℚ) : Int := if 0 ≤ q then ⌊q⌋ else ⌈q⌉

/-- The wall time a stretch of data time takes: `int(data_ns / speed)`. -/
def scaled (speed : ℚ) (dataNs : Int) : Int := truncate (dataNs / speed)

/-- A distance in the stream, at a speed, rounded down. -/
theorem scaled_eq_floor {speed : ℚ} (hs : 0 < speed) {d : Int} (hd : 0 ≤ d) :
    scaled speed d = ⌊(d : ℚ) / speed⌋ := by
  have hq : (0 : ℚ) ≤ d / speed := div_nonneg (by exact_mod_cast hd) hs.le
  rw [scaled, truncate, if_pos hq]

/-- No time at all is none at any speed. -/
@[simp] theorem scaled_zero (speed : ℚ) : scaled speed 0 = 0 := by
  simp [scaled, truncate]

/-- It does not go back. -/
theorem scaled_nonneg {speed : ℚ} (hs : 0 < speed) {d : Int} (hd : 0 ≤ d) :
    0 ≤ scaled speed d := by
  rw [scaled_eq_floor hs hd]
  exact Int.floor_nonneg.mpr (div_nonneg (by exact_mod_cast hd) hs.le)

/-- Two stretches, each cut to whole nanoseconds, take no longer than both at once. -/
theorem scaled_add_le {speed : ℚ} (hs : 0 < speed) {d e : Int} (hd : 0 ≤ d) (he : 0 ≤ e) :
    scaled speed d + scaled speed e ≤ scaled speed (d + e) := by
  rw [scaled_eq_floor hs hd, scaled_eq_floor hs he, scaled_eq_floor hs (Int.add_nonneg hd he),
    Int.cast_add, add_div]
  exact Int.le_floor_add _ _

/-- A faster playback takes less time. -/
theorem scaled_le_of_le {slow fast : ℚ} (hs : 0 < slow) (h : slow ≤ fast) {d : Int} (hd : 0 ≤ d) :
    scaled fast d ≤ scaled slow d := by
  have hd' : (0 : ℚ) ≤ d := by exact_mod_cast hd
  rw [scaled_eq_floor (hs.trans_le h) hd, scaled_eq_floor hs hd]
  exact Int.floor_le_floor (div_le_div_of_nonneg_left hd' hs h)

/-! ## The pacer -/

/-- `Pacer`: the baseline says that `_t0_src` is due at `_t0_wall`.  `F` is the type
of its speeds. -/
structure Pacer (F : Type) where
  speed : F
  anchorSrcNs : Option Int
  t0Src : Option Int
  t0Wall : Int
  lastSrc : Option Int
deriving DecidableEq, Repr

namespace Pacer

variable {F : Type}

/-- A new pacer. -/
def start (speed : F) (anchorSrcNs : Option Int) : Pacer F :=
  { speed := speed, anchorSrcNs := anchorSrcNs, t0Src := none, t0Wall := 0, lastSrc := none }

/-- `reset`. -/
def reset (p : Pacer F) (anchorSrcNs : Option Int) : Pacer F :=
  { p with anchorSrcNs := anchorSrcNs, t0Src := none, lastSrc := none }

/-- `anchor_now`. -/
def anchorNow (p : Pacer F) (now : Int) : Pacer F :=
  match p.anchorSrcNs with
  | some anchor => { p with t0Src := some anchor, t0Wall := now }
  | none => p

/-- `rebase`. -/
def rebase (p : Pacer F) (now : Int) : Pacer F :=
  match p.lastSrc with
  | some last => { p with t0Src := some last, t0Wall := now }
  | none => p

/-- `set_speed`. -/
def setSpeed (p : Pacer F) (speed : F) (now : Int) : Pacer F :=
  { p with speed := speed }.rebase now

/-- The instant at which `tsNs` is due by the baseline `t0`. -/
def target (p : Pacer ℚ) (t0 tsNs : Int) : Int := p.t0Wall + scaled p.speed (tsNs - t0)

/-- `wait`, called at `now`: the pacer during the sleep, and the instant the sleep
is over. -/
def wait (p : Pacer ℚ) (tsNs now : Int) : Pacer ℚ × Int :=
  if p.speed ≤ 0 then ({ p with lastSrc := some tsNs }, now)
  else match p.t0Src, p.anchorSrcNs with
    | some t0, _ => ({ p with lastSrc := some tsNs }, max now (p.target t0 tsNs))
    | none, none => ({ p with lastSrc := some tsNs, t0Src := some tsNs, t0Wall := now }, now)
    | none, some anchor =>
      ({ p with lastSrc := some tsNs, t0Src := some anchor, t0Wall := now },
        max now (now + scaled p.speed (tsNs - anchor)))

/-- A pacer that has waited has a baseline at or before its last timestamp, and
that timestamp is not due before `now`. -/
structure OnTime (p : Pacer ℚ) (now : Int) : Prop where
  base : ∀ last ∈ p.lastSrc, ∃ t0 ∈ p.t0Src, t0 ≤ last ∧ now ≤ p.target t0 last

/-- A rebase is on time. -/
theorem onTime_rebase {p : Pacer ℚ} (now : Int) : (p.rebase now).OnTime now := by
  cases h : p.lastSrc with
  | none =>
      refine ⟨fun last hl => ?_⟩
      simp [rebase, h] at hl
  | some src =>
      refine ⟨fun last hl => ?_⟩
      obtain rfl : src = last := by simpa [rebase, h] using hl
      exact ⟨src, by simp [rebase, h], le_refl _, by simp [rebase, h, target]⟩

@[simp] theorem lastSrc_rebase (p : Pacer F) (now : Int) : (p.rebase now).lastSrc = p.lastSrc := by
  unfold rebase
  split <;> simp_all

@[simp] theorem speed_rebase (p : Pacer F) (now : Int) : (p.rebase now).speed = p.speed := by
  unfold rebase
  split <;> rfl

@[simp] theorem anchorSrcNs_rebase (p : Pacer F) (now : Int) :
    (p.rebase now).anchorSrcNs = p.anchorSrcNs := by
  unfold rebase
  split <;> rfl

/-- Anchoring keeps the speed. -/
theorem speed_anchorNow (p : Pacer F) (now : Int) : (p.anchorNow now).speed = p.speed := by
  unfold anchorNow
  split <;> rfl

/-- Nor does it move the anchor in the stream. -/
theorem anchorSrcNs_anchorNow (p : Pacer F) (now : Int) :
    (p.anchorNow now).anchorSrcNs = p.anchorSrcNs := by
  unfold anchorNow
  split <;> rfl

@[simp] theorem lastSrc_setSpeed (p : Pacer F) (speed : F) (now : Int) :
    (p.setSpeed speed now).lastSrc = p.lastSrc := lastSrc_rebase _ _

@[simp] theorem speed_setSpeed (p : Pacer F) (speed : F) (now : Int) :
    (p.setSpeed speed now).speed = speed := speed_rebase _ _

@[simp] theorem anchorSrcNs_setSpeed (p : Pacer F) (speed : F) (now : Int) :
    (p.setSpeed speed now).anchorSrcNs = p.anchorSrcNs := anchorSrcNs_rebase _ _

@[simp] theorem lastSrc_wait (p : Pacer ℚ) (tsNs now : Int) :
    (p.wait tsNs now).1.lastSrc = some tsNs := by
  unfold wait
  split
  · rfl
  · split <;> rfl

@[simp] theorem speed_wait (p : Pacer ℚ) (tsNs now : Int) :
    (p.wait tsNs now).1.speed = p.speed := by
  unfold wait
  split
  · rfl
  · split <;> rfl

@[simp] theorem anchorSrcNs_wait (p : Pacer ℚ) (tsNs now : Int) :
    (p.wait tsNs now).1.anchorSrcNs = p.anchorSrcNs := by
  unfold wait
  split
  · rfl
  · split <;> simp_all

/-- A wait returns at `now` at the earliest. -/
theorem le_wait (p : Pacer ℚ) (tsNs now : Int) : now ≤ (p.wait tsNs now).2 := by
  unfold wait
  split
  · exact le_refl _
  · split
    · exact le_max_left _ _
    · exact le_refl _
    · exact le_max_left _ _

/-- **The law of one wait**: after it the pacer is on time again, and it has taken
as long as the data since the last wait. -/
theorem OnTime.wait {p : Pacer ℚ} {now : Int} (h : p.OnTime now) (hspeed : 0 < p.speed)
    (hanchor : p.anchorSrcNs = none) (hfresh : p.lastSrc = none → p.t0Src = none) {tsNs : Int}
    (hinc : ∀ last ∈ p.lastSrc, last < tsNs) :
    (p.wait tsNs now).1.OnTime (p.wait tsNs now).2 ∧
      ∀ last ∈ p.lastSrc, scaled p.speed (tsNs - last) ≤ (p.wait tsNs now).2 - now := by
  have hpos : ¬ p.speed ≤ 0 := not_le.mpr hspeed
  cases hlast : p.lastSrc with
  | none =>
      have ht0 := hfresh hlast
      refine ⟨⟨fun last hl => ?_⟩, nofun⟩
      simp only [Pacer.wait, if_neg hpos, ht0, hanchor, Option.mem_some_iff] at hl ⊢
      subst hl
      exact ⟨tsNs, rfl, le_refl _, by simp [target]⟩
  | some src =>
      obtain ⟨t0, ht0, hle, hdue⟩ := h.base src hlast
      have hlt := hinc src hlast
      rw [Option.mem_def] at ht0
      -- from one baseline the later timestamp is due later, by the data time at least
      have hstep : p.target t0 src + scaled p.speed (tsNs - src) ≤ p.target t0 tsNs := by
        have hadd := scaled_add_le hspeed (d := src - t0) (e := tsNs - src) (by omega) (by omega)
        rw [show src - t0 + (tsNs - src) = tsNs - t0 by omega] at hadd
        unfold target
        omega
      have hgap := scaled_nonneg hspeed (d := tsNs - src) (by omega)
      simp only [Pacer.wait, if_neg hpos, ht0]
      constructor
      · refine ⟨fun last hl => ⟨t0, rfl, ?_, ?_⟩⟩
        · obtain rfl := Option.some.inj hl
          omega
        · obtain rfl := Option.some.inj hl
          show max now (p.target t0 tsNs) ≤ p.target t0 tsNs
          omega
      · intro last hl
        obtain rfl := Option.some.inj hl
        omega

end Pacer

end CamDriver
