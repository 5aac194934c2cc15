import Mathlib.Algebra.Order.Floor.Semifield
import Mathlib.Data.Rat.Floor
import Mathlib.Tactic.FieldSimp

/-!
# CamDriver.ScalePlan

`scale_plan.fit_within`: the size a preview is scaled down to.

The side that binds lands on its bound, the other one is scaled along and floored; both
are made even, and neither is less than 2.  So the plan is the exact size, each side
floored to an even one (`fitWithin_eq_evenSide`), except that a side shorter than 2
pixels becomes one of 2.
-/

namespace CamDriver

/-! ## The plan -/

/-- A size in pixels. -/
structure FrameSize where
  width : Nat
  height : Nat
deriving DecidableEq, Repr

/-- `max(2, side // 2 * 2)`. -/
def evenSide (side : Nat) : Nat := max 2 (side / 2 * 2)

/-- The width is the binding axis. -/
def widthBinds (frame box : FrameSize) : Prop :=
  box.width * frame.height ≤ box.height * frame.width

instance (frame box : FrameSize) : Decidable (widthBinds frame box) :=
  inferInstanceAs (Decidable (_ ≤ _))

/-- The frame is inside the box as it is. -/
def FrameSize.fits (frame box : FrameSize) : Prop :=
  frame.width ≤ box.width ∧ frame.height ≤ box.height

instance (frame box : FrameSize) : Decidable (frame.fits box) :=
  inferInstanceAs (Decidable (_ ∧ _))

/-- `fit_within`, for a frame with pixels; `none`: it fits already. -/
def fitWithin (frame box : FrameSize) : Option FrameSize :=
  if frame.fits box then none
  else
    let scaled : FrameSize :=
      if widthBinds frame box then ⟨box.width, frame.height * box.width / frame.width⟩
      else ⟨frame.width * box.height / frame.height, box.height⟩
    some ⟨evenSide scaled.width, evenSide scaled.height⟩

/-- A frame that fits is not scaled. -/
@[simp]
theorem fitWithin_eq_none {frame box : FrameSize} :
    fitWithin frame box = none ↔ frame.fits box := by
  simp [fitWithin]

/-! ## Even sides -/

/-- A side is made even. -/
theorem even_evenSide (side : Nat) : Even (evenSide side) := by
  unfold evenSide
  grind

/-- It is lifted to 2. -/
theorem two_le_evenSide (side : Nat) : 2 ≤ evenSide side := le_max_left _ _

theorem evenSide_le {side bound : Nat} (hbound : 2 ≤ bound) (hle : side ≤ bound) :
    evenSide side ≤ bound := by
  unfold evenSide
  omega

/-- It is 2 if there was less. -/
theorem evenSide_of_lt_two {side : Nat} (h : side < 2) : evenSide side = 2 := by
  unfold evenSide
  omega

/-- It loses less than 2. -/
theorem lt_evenSide_add_two (side : Nat) : side + 1 ≤ evenSide side + 1 + 1 := by
  unfold evenSide
  omega

/-- A side of the plan, of its exact length and the side and bound it comes from. -/
structure SideKept (side bound : Nat) (exact : ℚ) (planned : Nat) : Prop where
  isEven : Even planned
  atLeast : 2 ≤ planned
  inBox : planned ≤ bound
  notUp : 2 ≤ side → planned ≤ side
  below : 2 ≤ exact → planned ≤ exact ∧ exact < planned + 2
  lifted : exact < 2 → planned = 2

/-- Flooring an exact length that is in the box and no longer than the side. -/
theorem sideKept_evenSide {side bound : Nat} {exact : ℚ} (hpos : 0 ≤ exact)
    (hbound : 2 ≤ bound) (hbox : exact ≤ bound) (hside : exact ≤ side) :
    SideKept side bound exact (evenSide ⌊exact⌋₊) := by
  have floorLe : (⌊exact⌋₊ : ℚ) ≤ exact := Nat.floor_le hpos
  have ltFloor : exact < ⌊exact⌋₊ + 1 := Nat.lt_floor_add_one exact
  exact {
    isEven := even_evenSide _
    atLeast := two_le_evenSide _
    inBox := evenSide_le hbound (Nat.floor_le_of_le hbox)
    notUp := fun h => evenSide_le h (Nat.floor_le_of_le hside)
    below := by
      intro h
      have two : 2 ≤ ⌊exact⌋₊ := Nat.le_floor (by exact_mod_cast h)
      have le : evenSide ⌊exact⌋₊ ≤ ⌊exact⌋₊ := evenSide_le two le_rfl
      have lt : ⌊exact⌋₊ + 1 ≤ evenSide ⌊exact⌋₊ + 1 + 1 := lt_evenSide_add_two _
      have le' : (evenSide ⌊exact⌋₊ : ℚ) ≤ ⌊exact⌋₊ := by exact_mod_cast le
      have lt' : (⌊exact⌋₊ : ℚ) + 1 ≤ evenSide ⌊exact⌋₊ + 1 + 1 := by exact_mod_cast lt
      constructor
      · linarith
      · linarith
    lifted := fun h => evenSide_of_lt_two ((Nat.floor_lt hpos).2 (by exact_mod_cast h)) }

/-! ## The exact size -/

/-- How far a frame is scaled to land on the box: by the side that binds. -/
def scaleOf (frame box : FrameSize) : ℚ :=
  min ((box.width : ℚ) / frame.width) ((box.height : ℚ) / frame.height)

/-- A scale is not negative. -/
theorem scaleOf_nonneg (frame box : FrameSize) : 0 ≤ scaleOf frame box :=
  le_min (by positivity) (by positivity)

section Exact

variable {frame box : FrameSize} (hw : 0 < frame.width) (hh : 0 < frame.height)

include hw in
/-- It brings a frame into the width of the box. -/
theorem mul_scaleOf_le_width : frame.width * scaleOf frame box ≤ box.width := by
  have pos : (0 : ℚ) < frame.width := by exact_mod_cast hw
  calc frame.width * scaleOf frame box
      ≤ frame.width * ((box.width : ℚ) / frame.width) :=
        mul_le_mul_of_nonneg_left (min_le_left _ _) pos.le
    _ = box.width := mul_div_cancel₀ _ pos.ne'

include hh in
theorem mul_scaleOf_le_height : frame.height * scaleOf frame box ≤ box.height := by
  have pos : (0 : ℚ) < frame.height := by exact_mod_cast hh
  calc frame.height * scaleOf frame box
      ≤ frame.height * ((box.height : ℚ) / frame.height) :=
        mul_le_mul_of_nonneg_left (min_le_right _ _) pos.le
    _ = box.height := mul_div_cancel₀ _ pos.ne'

include hw hh

/-- Where the width binds, it is that of the widths. -/
theorem scaleOf_of_widthBinds (h : widthBinds frame box) :
    scaleOf frame box = (box.width : ℚ) / frame.width := by
  refine min_eq_left ?_
  rw [div_le_div_iff₀ (by exact_mod_cast hw) (by exact_mod_cast hh)]
  exact_mod_cast h

/-- Otherwise it is that of the heights. -/
theorem scaleOf_of_not_widthBinds (h : ¬ widthBinds frame box) :
    scaleOf frame box = (box.height : ℚ) / frame.height := by
  refine min_eq_right ?_
  rw [div_le_div_iff₀ (by exact_mod_cast hh) (by exact_mod_cast hw)]
  exact_mod_cast (Nat.lt_of_not_le h).le

/-- A frame that does not fit is made smaller. -/
theorem scaleOf_le_one (h : ¬ frame.fits box) : scaleOf frame box ≤ 1 := by
  have wpos : (0 : ℚ) < frame.width := by exact_mod_cast hw
  have hpos : (0 : ℚ) < frame.height := by exact_mod_cast hh
  rw [scaleOf, min_le_iff, div_le_one wpos, div_le_one hpos, Nat.cast_le, Nat.cast_le]
  unfold FrameSize.fits at h
  omega

/-- The plan is the exact size, its sides floored to even ones. -/
theorem fitWithin_eq_evenSide (h : ¬ frame.fits box) :
    fitWithin frame box = some ⟨evenSide ⌊frame.width * scaleOf frame box⌋₊,
      evenSide ⌊frame.height * scaleOf frame box⌋₊⟩ := by
  have wpos : (frame.width : ℚ) ≠ 0 := by exact_mod_cast hw.ne'
  have hpos : (frame.height : ℚ) ≠ 0 := by exact_mod_cast hh.ne'
  by_cases binds : widthBinds frame box
  · have exactHeight : frame.height * ((box.width : ℚ) / frame.width)
        = ((frame.height * box.width : Nat) : ℚ) / (frame.width : ℚ) := by
      push_cast
      ring
    rw [scaleOf_of_widthBinds hw hh binds, mul_div_cancel₀ _ wpos, exactHeight,
      Nat.floor_div_eq_div, Nat.floor_natCast]
    simp [fitWithin, h, binds]
  · have exactWidth : frame.width * ((box.height : ℚ) / frame.height)
        = ((frame.width * box.height : Nat) : ℚ) / (frame.height : ℚ) := by
      push_cast
      ring
    rw [scaleOf_of_not_widthBinds hw hh binds, mul_div_cancel₀ _ hpos, exactWidth,
      Nat.floor_div_eq_div, Nat.floor_natCast]
    simp [fitWithin, h, binds]

end Exact

/-! ## What a plan keeps -/

/-- Each side of a plan, of the exact size. -/
structure PlanKept (frame box planned : FrameSize) : Prop where
  width : SideKept frame.width box.width (frame.width * scaleOf frame box) planned.width
  height : SideKept frame.height box.height (frame.height * scaleOf frame box) planned.height

/-- What a plan keeps, whichever side binds. -/
theorem planKept {frame box planned : FrameSize} (hw : 0 < frame.width) (hh : 0 < frame.height)
    (hbw : 2 ≤ box.width) (hbh : 2 ≤ box.height) (h : fitWithin frame box = some planned) :
    PlanKept frame box planned := by
  have outside : ¬ frame.fits box := by
    intro fits
    rw [fitWithin_eq_none.2 fits] at h
    cases h
  rw [fitWithin_eq_evenSide hw hh outside] at h
  cases h
  have scale0 : 0 ≤ scaleOf frame box := scaleOf_nonneg frame box
  have scale1 : scaleOf frame box ≤ 1 := scaleOf_le_one hw hh outside
  constructor
  · exact sideKept_evenSide (by positivity) hbw (mul_scaleOf_le_width hw)
      (mul_le_of_le_one_right (by positivity) scale1)
  · exact sideKept_evenSide (by positivity) hbh (mul_scaleOf_le_height hh)
      (mul_le_of_le_one_right (by positivity) scale1)

/-- Nothing is planned for a frame that fits, and otherwise one plan, of even sides at the
exact size, that is left as it is the next time. -/
theorem fitWithin_plans {frame box : FrameSize} (hw : 0 < frame.width)
    (hh : 0 < frame.height) (hbw : 2 ≤ box.width) (hbh : 2 ≤ box.height) :
    (fitWithin frame box = none ↔ frame.width ≤ box.width ∧ frame.height ≤ box.height) ∧
      ∀ planned, fitWithin frame box = some planned →
        PlanKept frame box planned ∧ fitWithin planned box = none := by
  refine ⟨fitWithin_eq_none, ?_⟩
  intro planned h
  have kept : PlanKept frame box planned := planKept hw hh hbw hbh h
  exact ⟨kept, fitWithin_eq_none.2 ⟨kept.width.inBox, kept.height.inBox⟩⟩

/-- Full HD in the box of 720p. -/
theorem fitWithin_plans_wide :
    (fitWithin ⟨1920, 1080⟩ ⟨1280, 720⟩ = none ↔ 1920 ≤ 1280 ∧ 1080 ≤ 720) ∧
      ∀ planned, fitWithin ⟨1920, 1080⟩ ⟨1280, 720⟩ = some planned →
        PlanKept ⟨1920, 1080⟩ ⟨1280, 720⟩ planned ∧ fitWithin planned ⟨1280, 720⟩ = none :=
  fitWithin_plans (by decide) (by decide) (by decide) (by decide)

/-- A frame of one row gets two, which is more than it has and more than the exact size. -/
theorem not_fitWithin_exact :
    ¬ ∀ frame box : FrameSize, 0 < frame.width → 0 < frame.height →
      2 ≤ box.width → 2 ≤ box.height →
      (fitWithin frame box = none ↔ frame.width ≤ box.width ∧ frame.height ≤ box.height) ∧
      ∀ planned, fitWithin frame box = some planned →
        (Even planned.width ∧ 2 ≤ planned.width ∧ planned.width ≤ box.width ∧
          planned.width ≤ frame.width ∧ planned.width ≤ frame.width * scaleOf frame box ∧
          frame.width * scaleOf frame box < planned.width + 2) ∧
        (Even planned.height ∧ 2 ≤ planned.height ∧ planned.height ≤ box.height ∧
          planned.height ≤ frame.height ∧ planned.height ≤ frame.height * scaleOf frame box ∧
          frame.height * scaleOf frame box < planned.height + 2) ∧
        fitWithin planned box = none := by
  intro plans
  have planned : fitWithin ⟨400, 1⟩ ⟨100, 100⟩ = some ⟨100, 2⟩ := by decide
  have kept := (plans ⟨400, 1⟩ ⟨100, 100⟩ (by decide) (by decide) (by decide) (by decide)).2 _
    planned
  exact absurd kept.2.1.2.2.2.1 (by decide)

end CamDriver
