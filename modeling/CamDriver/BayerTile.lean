import Mathlib.Data.Fintype.Prod
import CamDriver.Lib.Grid
import CamDriver.Text

/-!
# CamDriver.BayerTile

`bayer_tile`: a Bayer mosaic cut into its four colour phases, laid out as the four
quadrants of a frame of the same size, with a reversible colour transform over
them, and the way back.

The array views of the source are `Grid.unshuffle` (the phases of a mosaic) and
`Grid.disassemble` (the quadrants of a tiled frame).
-/

namespace CamDriver

open Grid

/-! ## Modes and patterns -/

/-- `MODES`. -/
inductive TileMode where
  | off | plain | greenDiff | rct
deriving DecidableEq, Repr

def TileMode.name : TileMode → String
  | .off => "off"
  | .plain => "plain"
  | .greenDiff => "green_diff"
  | .rct => "rct"

/-- A value of `recording.bayer_tile` as the config file gives it. -/
inductive TileSetting where
  | none
  | bool (b : Bool)
  | int (i : Int)
  | str (s : String)
  | other
deriving DecidableEq, Repr

/-- `normalize_mode` of a stripped lower-case text. -/
def TileMode.ofWord (word : List Char) : TileMode :=
  if word ∈ ["1".toList, "true".toList, "on".toList, "yes".toList] then .plain
  else if word = "plain".toList then .plain
  else if word = "green_diff".toList then .greenDiff
  else if word = "rct".toList then .rct
  else .off

/-- `normalize_mode`. -/
def normalizeMode : TileSetting → TileMode
  | .bool true => .plain
  | .bool false | .none | .other => .off
  -- `0` equals `False`
  | .int i => if i = 0 then .off else .ofWord (toString i).toList
  | .str s => .ofWord (stripLower s)

/-- The four Bayer patterns. -/
inductive CfaPattern where
  | rggb | grbg | gbrg | bggr
deriving DecidableEq, Repr

/-- Where the colours are in a two by two block: `_PHASES`. -/
structure Phases where
  r : Quarter
  g1 : Quarter
  g2 : Quarter
  b : Quarter
deriving DecidableEq, Repr

namespace CfaPattern

def name : CfaPattern → String
  | rggb => "rggb"
  | grbg => "grbg"
  | gbrg => "gbrg"
  | bggr => "bggr"

/-- `_PHASES`. -/
def phases : CfaPattern → Phases
  | rggb => { r := (0, 0), g1 := (0, 1), g2 := (1, 0), b := (1, 1) }
  | grbg => { r := (0, 1), g1 := (0, 0), g2 := (1, 1), b := (1, 0) }
  | gbrg => { r := (1, 0), g1 := (0, 0), g2 := (1, 1), b := (0, 1) }
  | bggr => { r := (1, 1), g1 := (0, 1), g2 := (1, 0), b := (0, 0) }

/-- The pattern `_phases` looks up: `rggb` for a text it does not know. -/
def ofText (pattern : Option String) : CfaPattern :=
  match pattern with
  | none => rggb
  | some text =>
    let word := text.toList.map Char.toLower
    if word = "grbg".toList then grbg
    else if word = "gbrg".toList then gbrg
    else if word = "bggr".toList then bggr
    else rggb

@[simp] theorem ofText_name (p : CfaPattern) : ofText (some p.name) = p := by
  cases p <;> rfl

end CfaPattern

/-! ## The colour transform -/

/-- The quadrants that a mode stores as differences. -/
def TileMode.targets (mode : TileMode) (ph : Phases) : List Quarter :=
  match mode with
  | .off | .plain => []
  | .greenDiff => [ph.g2]
  | .rct => [ph.g2, ph.r, ph.b]

/-- The loop over the target slices: each is replaced by `f` of its value and that of
the reference green. -/
def transform (f : UInt8 → UInt8 → UInt8) (mode : TileMode) (ph : Phases) (t : Quarters UInt8) :
    Quarters UInt8 :=
  let g1 := t ph.g1
  (mode.targets ph).foldl (fun t p => Function.update t p fun i k => f (t p i k) (g1 i k)) t

/-- The difference to the reference green, centred. -/
def residual (x g1 : UInt8) : UInt8 := x - g1 + 128

/-- The way back. -/
def restored (x g1 : UInt8) : UInt8 := x - 128 + g1

@[simp] theorem restored_residual (x g1 : UInt8) : restored (residual x g1) g1 = x := by
  unfold restored residual
  grind

@[simp] theorem residual_restored (x g1 : UInt8) : residual (restored x g1) g1 = x := by
  unfold restored residual
  grind

/-- A loop that updates each of some places once, from its own value. -/
theorem foldl_update_apply {ι β : Type*} [DecidableEq ι] (g : ι → β → β) {l : List ι}
    (hl : l.Nodup) (t : ι → β) (q : ι) :
    l.foldl (fun t p => Function.update t p (g p (t p))) t q =
      if q ∈ l then g q (t q) else t q := by
  induction l generalizing t with
  | nil => rfl
  | cons p l ih =>
      obtain ⟨hp, hl⟩ := List.nodup_cons.mp hl
      rw [List.foldl_cons, ih hl]
      by_cases hq : q = p
      · subst hq
        simp [hp]
      · simp [hq]

theorem nodup_targets (mode : TileMode) (pattern : CfaPattern) :
    (mode.targets pattern.phases).Nodup := by
  cases mode <;> cases pattern <;> decide

/-- The reference green is never a target. -/
theorem g1_notMem_targets (mode : TileMode) (pattern : CfaPattern) :
    pattern.phases.g1 ∉ mode.targets pattern.phases := by
  cases mode <;> cases pattern <;> decide

/-- One pixel of a transformed frame. -/
theorem transform_apply (f : UInt8 → UInt8 → UInt8) (mode : TileMode) (pattern : CfaPattern)
    (t : Quarters UInt8) (q : Quarter) (i k : Nat) :
    transform f mode pattern.phases t q i k =
      if q ∈ mode.targets pattern.phases then f (t q i k) (t pattern.phases.g1 i k)
      else t q i k := by
  unfold transform
  rw [foldl_update_apply (fun _ v i k => f (v i k) (t pattern.phases.g1 i k))
    (nodup_targets mode pattern)]
  split <;> rfl

theorem transform_congr (f : UInt8 → UInt8 → UInt8) (mode : TileMode) (pattern : CfaPattern)
    {h w : Nat} {t t' : Quarters UInt8} (ht : SameQuarters h w t t') :
    SameQuarters h w (transform f mode pattern.phases t) (transform f mode pattern.phases t') := by
  intro q i hi k hk
  rw [transform_apply, transform_apply, ht q i hi k hk, ht _ i hi k hk]

/-- Undone by its own inverse, with the pattern it was made with. -/
theorem transform_transform {f g : UInt8 → UInt8 → UInt8} (hgf : ∀ x g1, g (f x g1) g1 = x)
    (mode : TileMode) (pattern : CfaPattern) (t : Quarters UInt8) :
    transform g mode pattern.phases (transform f mode pattern.phases t) = t := by
  funext q i k
  rw [transform_apply, transform_apply, transform_apply, if_neg (g1_notMem_targets mode pattern)]
  split
  · exact hgf _ _
  · rfl

theorem residual_eq_self_iff {x g1 : UInt8} : residual x g1 = x ↔ g1 = 128 := by
  unfold residual
  grind

theorem restored_eq_self_iff {x g1 : UInt8} : restored x g1 = x ↔ g1 = 128 := by
  unfold restored
  grind

/-- Patterns with different reference greens differ in a quadrant that only the first
one stores as a difference. -/
theorem exists_target {mode : TileMode} (hmode : mode = .greenDiff ∨ mode = .rct)
    {p q : CfaPattern} (hne : p.phases.g1 ≠ q.phases.g1) :
    ∃ c ∈ mode.targets p.phases, c ∉ mode.targets q.phases := by
  rcases hmode with rfl | rfl
  · refine ⟨p.phases.g2, List.mem_singleton_self _, ?_⟩
    cases p <;> cases q <;> first | exact absurd rfl hne | decide
  · refine ⟨q.phases.g1, ?_, g1_notMem_targets .rct q⟩
    cases p <;> cases q <;> first | exact absurd rfl hne | decide

/-- Undone with a pattern whose reference green lies elsewhere, a pixel survives exactly
where both greens are at the centre. -/
theorem transform_mismatch_iff {mode : TileMode} (hmode : mode = .greenDiff ∨ mode = .rct)
    {p q : CfaPattern} (hne : p.phases.g1 ≠ q.phases.g1) (t : Quarters UInt8) (i k : Nat) :
    (∀ c, transform restored mode q.phases (transform residual mode p.phases t) c i k = t c i k) ↔
      t p.phases.g1 i k = 128 ∧ t q.phases.g1 i k = 128 := by
  -- at a centred reference green the first transform does nothing
  have hsame : t p.phases.g1 i k = 128 →
      ∀ c, transform residual mode p.phases t c i k = t c i k := by
    intro hp c
    rw [transform_apply]
    split
    · exact residual_eq_self_iff.mpr hp
    · rfl
  constructor
  · intro h
    have hp : t p.phases.g1 i k = 128 := by
      obtain ⟨c, hcp, hcq⟩ := exists_target hmode hne
      have hc := h c
      rw [transform_apply, if_neg hcq, transform_apply, if_pos hcp] at hc
      exact residual_eq_self_iff.mp hc
    have hmem : q.phases.g2 ∈ mode.targets q.phases := by
      rcases hmode with rfl | rfl <;> simp [TileMode.targets]
    have hq := h q.phases.g2
    rw [transform_apply, if_pos hmem, hsame hp, hsame hp] at hq
    exact ⟨hp, restored_eq_self_iff.mp hq⟩
  · rintro ⟨hp, hq⟩ c
    rw [transform_apply, hsame hp, hsame hp]
    split
    · exact restored_eq_self_iff.mpr hq
    · rfl

/-- Two patterns with the same reference green transform alike. -/
theorem transform_eq_of_g1_eq (f : UInt8 → UInt8 → UInt8) (mode : TileMode) {p q : CfaPattern}
    (heq : p.phases.g1 = q.phases.g1) : transform f mode p.phases = transform f mode q.phases := by
  have htargets : ∀ c, c ∈ mode.targets p.phases ↔ c ∈ mode.targets q.phases := by
    cases mode <;> cases p <;> cases q <;> first | contradiction | decide
  funext t c i k
  rw [transform_apply, transform_apply, heq]
  simp only [htargets]

/-- The way back by any pattern `q`: it restores exactly the frames in which that makes
no difference. -/
theorem sameQuarters_transform_iff {mode : TileMode} (hmode : mode ≠ .off) (p q : CfaPattern)
    (h w : Nat) (t : Quarters UInt8) :
    SameQuarters h w
        (transform restored mode q.phases (transform residual mode p.phases t)) t ↔
      mode = .plain ∨ p.phases.g1 = q.phases.g1 ∨
        ∀ i < h / 2, ∀ k < w / 2, t p.phases.g1 i k = 128 ∧ t q.phases.g1 i k = 128 := by
  by_cases hplain : mode = .plain
  · subst hplain
    exact iff_of_true (fun _ _ _ _ _ => rfl) (.inl rfl)
  · have hcolour : mode = .greenDiff ∨ mode = .rct := by
      cases mode <;> simp_all
    by_cases hg1 : p.phases.g1 = q.phases.g1
    · rw [transform_eq_of_g1_eq residual mode hg1, transform_transform restored_residual]
      exact iff_of_true (fun _ _ _ _ _ => rfl) (.inr (.inl hg1))
    · simp only [hplain, hg1, false_or]
      constructor
      · intro hsame i hi k hk
        exact (transform_mismatch_iff hcolour hg1 t i k).mp fun c => hsame c i hi k hk
      · intro hflat c i hi k hk
        exact (transform_mismatch_iff hcolour hg1 t i k).mpr (hflat i hi k hk) c

/-! ## Tiling -/

/-- The reshapes of `tile_cfa` and `untile_cfa` succeed. -/
def Reshapes (frame : List UInt8) (w h : Nat) : Prop :=
  frame.length = h * w ∧ h / 2 * 2 * (w / 2 * 2) = h * w

instance (frame : List UInt8) (w h : Nat) : Decidable (Reshapes frame w h) :=
  inferInstanceAs (Decidable (_ ∧ _))

/-- `tile_cfa`; `none`: a reshape raises. -/
def tileCfa (mosaic : List UInt8) (w h : Nat) (mode : TileMode) (pattern : Option String) :
    Option (List UInt8) :=
  if Reshapes mosaic w h then
    some (assemble h w
      (transform residual mode (CfaPattern.ofText pattern).phases (unshuffle mosaic w)))
  else none

/-- `untile_cfa`; `none`: a reshape raises. -/
def untileCfa (tiled : List UInt8) (w h : Nat) (mode : TileMode) (pattern : Option String) :
    Option (List UInt8) :=
  if Reshapes tiled w h then
    some (shuffle h w
      (transform restored mode (CfaPattern.ofText pattern).phases (disassemble tiled h w)))
  else none

theorem reshapes_iff_of_even {frame : List UInt8} {w h : Nat} (hw : w % 2 = 0) (hh : h % 2 = 0) :
    Reshapes frame w h ↔ frame.length = h * w := by
  have hw' : w / 2 * 2 = w := by omega
  have hh' : h / 2 * 2 = h := by omega
  simp [Reshapes, hw', hh']

/-- The way back from a tiled mosaic, with whatever pattern. -/
theorem untileCfa_tileCfa_eq {mosaic : List UInt8} {w h : Nat} (hw : w % 2 = 0) (hh : h % 2 = 0)
    (hlen : mosaic.length = h * w) (mode : TileMode) (pattern pattern' : Option String) :
    ((tileCfa mosaic w h mode pattern).bind fun tiled => untileCfa tiled w h mode pattern') =
      some (shuffle h w (transform restored mode (CfaPattern.ofText pattern').phases
        (transform residual mode (CfaPattern.ofText pattern).phases (unshuffle mosaic w)))) := by
  have hreshape : Reshapes mosaic w h := (reshapes_iff_of_even hw hh).mpr hlen
  simp only [tileCfa, if_pos hreshape, Option.bind_some, untileCfa]
  rw [if_pos ((reshapes_iff_of_even hw hh).mpr (length_assemble _ _ _)), Option.some.injEq,
    shuffle_inj hh hw]
  exact transform_congr _ _ _ (disassemble_assemble hh hw _)

/-! ## Round trips -/

section Even

variable {frame : List UInt8} {w h : Nat} (hw : w % 2 = 0) (hh : h % 2 = 0)
  (hlen : frame.length = h * w)
include hw hh hlen

/-- A mosaic comes back from its tiled frame. -/
theorem untileCfa_tileCfa (mode : TileMode) (pattern : Option String) :
    ((tileCfa frame w h mode pattern).bind fun tiled => untileCfa tiled w h mode pattern) =
      some frame := by
  rw [untileCfa_tileCfa_eq hw hh hlen, transform_transform restored_residual,
    shuffle_unshuffle hlen]

/-- A tiled frame comes back from its mosaic. -/
theorem tileCfa_untileCfa (mode : TileMode) (pattern : Option String) :
    ((untileCfa frame w h mode pattern).bind fun mosaic => tileCfa mosaic w h mode pattern) =
      some frame := by
  have hreshape : Reshapes frame w h := (reshapes_iff_of_even hw hh).mpr hlen
  simp only [untileCfa, if_pos hreshape, Option.bind_some, tileCfa]
  rw [if_pos ((reshapes_iff_of_even hw hh).mpr (length_shuffle _ _ _)), Option.some.injEq]
  calc assemble h w (transform residual mode (CfaPattern.ofText pattern).phases
        (unshuffle (shuffle h w (transform restored mode (CfaPattern.ofText pattern).phases
          (disassemble frame h w))) w))
      = assemble h w (transform residual mode (CfaPattern.ofText pattern).phases
          (transform restored mode (CfaPattern.ofText pattern).phases
            (disassemble frame h w))) :=
        assemble_congr hh hw (transform_congr _ _ _ (unshuffle_shuffle hh hw _))
    _ = assemble h w (disassemble frame h w) := by rw [transform_transform residual_restored]
    _ = frame := assemble_disassemble hh hw hlen

/-- Where a pixel of the mosaic goes, without a colour transform. -/
theorem tileCfa_plain (pattern : Option String) (r c : Fin 2) {i k : Nat} (hi : i < h / 2)
    (hk : k < w / 2) :
    ((tileCfa frame w h .plain pattern).bind fun tiled =>
        tiled[(r * (h / 2) + i) * w + (c * (w / 2) + k)]?) =
      frame[(2 * i + r) * w + (2 * k + c)]? := by
  have hreshape : Reshapes frame w h := (reshapes_iff_of_even hw hh).mpr hlen
  have hy : r * (h / 2) + i < h := (index_lt r.isLt hi).trans_le (by omega)
  have hx : c * (w / 2) + k < w := (index_lt c.isLt hk).trans_le (by omega)
  simp only [tileCfa, if_pos hreshape, Option.bind_some]
  rw [getElem?_eq_some_cell (length_assemble h w _) hy hx,
    getElem?_eq_some_cell hlen (by omega) (by omega)]
  have hcell := disassemble_assemble hh hw (transform residual .plain
    (CfaPattern.ofText pattern).phases (unshuffle frame w)) (r, c) i hi k hk
  simp only [disassemble] at hcell
  rw [hcell, Nat.mul_comm 2 i, Nat.mul_comm 2 k]
  rfl

end Even

/-- Tiling loses nothing and puts every phase in its quadrant. -/
structure TilesExactly (frame : List UInt8) (w h : Nat) : Prop where
  untiles : ∀ (mode : TileMode) (pattern : Option String),
    ((tileCfa frame w h mode pattern).bind fun tiled => untileCfa tiled w h mode pattern) =
      some frame
  tiles : ∀ (mode : TileMode) (pattern : Option String),
    ((untileCfa frame w h mode pattern).bind fun mosaic => tileCfa mosaic w h mode pattern) =
      some frame
  plain : ∀ (pattern : Option String) (r c : Fin 2), ∀ i < h / 2, ∀ k < w / 2,
    ((tileCfa frame w h .plain pattern).bind fun tiled =>
        tiled[(r * (h / 2) + i) * w + (c * (w / 2) + k)]?) =
      frame[(2 * i + r) * w + (2 * k + c)]?

/-- **Tiling** and its way back are inverse to each other, for every frame of even sides. -/
theorem tilesExactly {frame : List UInt8} {w h : Nat} (hw : w % 2 = 0) (hh : h % 2 = 0)
    (hlen : frame.length = h * w) : TilesExactly frame w h where
  untiles := untileCfa_tileCfa hw hh hlen
  tiles := tileCfa_untileCfa hw hh hlen
  plain pattern r c _ hi _ hk := tileCfa_plain hw hh hlen pattern r c hi hk

/-- Four pixels in two rows. -/
theorem tilesExactly_square : TilesExactly [0, 255, 17, 200] 2 2 :=
  tilesExactly rfl rfl rfl

end CamDriver
