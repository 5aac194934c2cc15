import CamDriver.Lib.Binary64
import Mathlib

/-!
# CamDriver.H264Level

`h264_level`: the level a bridge advertises for a stream, by its size and frame rate.

A level covers a stream whose macroblocks a frame and macroblocks a second are within its
limits.  The rows of the table only grow in these two columns (`levels_grow`), so the
rows that cover a stream are the last ones, and the first of them is told by which
rows do (`covers_iff`).  The bridge asks for a whole number of frames a second, the one
nearest to the rate of the stream.
-/

namespace CamDriver

/-! ## The table -/

/-- A row of `_LEVELS`. -/
structure LevelRow where
  level : String
  maxFs : Int
  maxMbps : Int
  maxBr : Int
deriving DecidableEq, Repr

/-- `_LEVELS`. -/
def levels : List LevelRow :=
  [ ⟨"1", 99, 1485, 64⟩,
    ⟨"1b", 99, 1485, 128⟩,
    ⟨"1.1", 396, 3000, 192⟩,
    ⟨"1.2", 396, 6000, 384⟩,
    ⟨"1.3", 396, 11880, 768⟩,
    ⟨"2", 396, 11880, 2000⟩,
    ⟨"2.1", 792, 19800, 4000⟩,
    ⟨"2.2", 1620, 20250, 4000⟩,
    ⟨"3", 1620, 40500, 10000⟩,
    ⟨"3.1", 3600, 108000, 14000⟩,
    ⟨"3.2", 5120, 216000, 20000⟩,
    ⟨"4", 8192, 245760, 20000⟩,
    ⟨"4.1", 8192, 245760, 50000⟩,
    ⟨"4.2", 8704, 522240, 50000⟩,
    ⟨"5", 22080, 589824, 135000⟩,
    ⟨"5.1", 36864, 983040, 240000⟩,
    ⟨"5.2", 36864, 2073600, 240000⟩ ]

/-- `_INDEX`. -/
def levelIndex (level : String) : Option Nat := levels.findIdx? fun row => row.level = level

/-- `_LEVELS[i][0]`. -/
def levelAt (i : Nat) : String := (levels.map LevelRow.level).getD i ""

/-- The limits only grow down the table. -/
theorem levels_grow : levels.Pairwise fun low high =>
    low.maxFs ≤ high.maxFs ∧ low.maxMbps ≤ high.maxMbps := by decide

theorem levelAt_inj {i j : Nat} (hi : i < levels.length) (hj : j < levels.length) :
    levelAt i = levelAt j ↔ i = j := by
  have names : (levels.map LevelRow.level).Nodup := by decide
  rw [levelAt, levelAt, List.getD_eq_getElem _ _ (by simpa using hi),
    List.getD_eq_getElem _ _ (by simpa using hj), names.getElem_inj_iff]

/-! ## The level of a stream -/

/-- `math.ceil(side / 16)`. -/
def blocks (side : Int) : Int := (side + 15) / 16

/-- `_macroblocks`. -/
def macroblocks (width height : Int) : Int := blocks width * blocks height

/-- What is wrong with the arguments. -/
inductive LevelError where
  /-- `width/height/fps must be positive` -/
  | notPositive (width height fps : Int)
  /-- `unknown max_level` -/
  | unknownMaxLevel (level : String)
deriving DecidableEq, Repr

/-- The row has room for the bitrate, if one is given. -/
def LevelRow.hasBitrate (row : LevelRow) (bitrateKbps : Option Int) : Bool :=
  bitrateKbps.all (· ≤ row.maxBr)

/-- `h264_level_for`. -/
def h264LevelFor (width height fps : Int) (bitrateKbps : Option Int) (maxLevel : String) :
    Except LevelError String :=
  if min width (min height fps) ≤ 0 then .error (.notPositive width height fps)
  else
    match levelIndex maxLevel with
    | none => .error (.unknownMaxLevel maxLevel)
    | some cap =>
      let fs := macroblocks width height
      let mbps := fs * fps
      -- where no row fits, the index is past the end of the table
      let fit := levels.findIdx fun row =>
        fs ≤ row.maxFs && mbps ≤ row.maxMbps && row.hasBitrate bitrateKbps
      .ok (levelAt (min fit cap))

/-- `level_covers`. -/
def levelCovers (level : String) (width height fps : Int) (bitrateKbps : Option Int) : Bool :=
  match levels.find? (·.level = level) with
  | none => false
  | some row =>
    let fs := macroblocks width height
    fs ≤ row.maxFs && fs * fps ≤ row.maxMbps && row.hasBitrate bitrateKbps

/-! ## The bridge -/

/-- What `get_int` and `get_fraction` read off the caps of a raw stream. -/
structure RawCaps where
  width : Option Int
  height : Option Int
  framerate : Option (Int × Int)
deriving DecidableEq, Repr

/-- `max(1, round(num / den))`.  The two have 32 bits, where the quotient is as good as
exact (`wholeFps_eq_rounded`). -/
def wholeFps (num den : Int) : Int := max 1 (roundHalfEven (num / den))

/-- `_wh_fps`. -/
def whFps (caps : RawCaps) : Option (Int × Int × Int) :=
  match caps.width, caps.height with
  | some width, some height =>
    let fps :=
      match caps.framerate with
      | some (num, den) => if den ≠ 0 ∧ num ≠ 0 then wholeFps num den else 30
      | none => 30
    some (width, height, fps)
  | _, _ => none

/-- `webrtc_max_level`, of the stripped setting. -/
def webrtcMaxLevel (setting : String) : String :=
  if (levelIndex setting).isSome then setting else "5.2"

/-- The level of `_h264_output_caps`, by the caps that are fed to the encoder; `none`: the
defaults are left alone. -/
def outputLevel (caps : RawCaps) (setting : String) : Option String :=
  (whFps caps).bind fun whf =>
    match h264LevelFor whf.1 whf.2.1 whf.2.2 none (webrtcMaxLevel setting) with
    | .ok level => some level
    | .error _ => none

theorem levelIndex_lt {level : String} {cap : Nat} (h : levelIndex level = some cap) :
    cap < levels.length := (List.findIdx?_eq_some_iff_getElem.1 h).1

/-- The clamp is always in the table. -/
theorem webrtcMaxLevel_known (setting : String) :
    ∃ cap, levelIndex (webrtcMaxLevel setting) = some cap := by
  rw [webrtcMaxLevel]
  split
  · next h => exact Option.isSome_iff_exists.1 h
  · exact ⟨16, by decide⟩

/-! ## Rows that cover -/

/-- The row has room for `fs` macroblocks a frame and `mbps` a second. -/
def LevelRow.covers (fs : Int) (mbps : ℚ) (row : LevelRow) : Bool :=
  fs ≤ row.maxFs && mbps ≤ row.maxMbps

/-- The first row that covers a stream; past the end of the table if none does. -/
def lowestCovering (fs : Int) (mbps : ℚ) : Nat := levels.findIdx (LevelRow.covers fs mbps)

theorem covers_iff {fs : Int} {mbps : ℚ} {i : Nat} (hi : i < levels.length) :
    (levels[i]).covers fs mbps = true ↔ lowestCovering fs mbps ≤ i := by
  constructor
  · intro covers
    by_contra hlt
    have first := List.not_of_lt_findIdx (Nat.lt_of_not_le hlt)
    rw [covers] at first
    cases first
  · intro hle
    have first : (levels[lowestCovering fs mbps]).covers fs mbps = true := List.findIdx_getElem
    rcases hle.eq_or_lt with heq | hlt
    · simpa only [heq] using first
    · have grow := List.pairwise_iff_getElem.1 levels_grow _ i (hle.trans_lt hi) hi hlt
      simp only [LevelRow.covers, Bool.and_eq_true, decide_eq_true_eq] at first ⊢
      exact ⟨first.1.trans grow.1, first.2.trans (by exact_mod_cast grow.2)⟩

/-- A stream that asks for less is covered earlier. -/
theorem lowestCovering_le {fs fs' : Int} {mbps mbps' : ℚ} (hfs : fs ≤ fs')
    (hmbps : mbps ≤ mbps') : lowestCovering fs mbps ≤ lowestCovering fs' mbps' := by
  refine List.findIdx_le_findIdx ?_
  intro row _ covers
  simp only [LevelRow.covers, Bool.and_eq_true, decide_eq_true_eq] at covers ⊢
  exact ⟨hfs.trans covers.1, hmbps.trans covers.2⟩

/-- Two streams get the same level, clamped, exactly if the same rows below the clamp cover
them. -/
theorem min_lowestCovering_eq_iff {fs fs' : Int} {mbps mbps' : ℚ} {cap : Nat}
    (hcap : cap ≤ levels.length) :
    min (lowestCovering fs mbps) cap = min (lowestCovering fs' mbps') cap ↔
      ∀ row ∈ levels.take cap, row.covers fs mbps = row.covers fs' mbps' := by
  constructor
  · intro heq row hrow
    obtain ⟨i, hi, rfl⟩ := List.mem_take_iff_getElem.1 hrow
    have hcapped : i < cap := by omega
    rw [Bool.eq_iff_iff, covers_iff, covers_iff]
    omega
  · intro hrows
    have taken (fs : Int) (mbps : ℚ) : min (lowestCovering fs mbps) cap =
        (levels.take cap).findIdx (LevelRow.covers fs mbps) := by
      rw [List.findIdx_take, min_comm]
      rfl
    rw [taken, taken]
    refine le_antisymm (List.findIdx_le_findIdx ?_) (List.findIdx_le_findIdx ?_)
    · intro row hrow covers
      rw [hrows row hrow, covers]
    · intro row hrow covers
      rw [← hrows row hrow, covers]

/-! ## The advertised level -/

/-- Python's quotient, the number nearest to the exact one, rounds to the same integer. -/
theorem wholeFps_eq_rounded {num den : Int} (hnum : |num| < 2 ^ 51) (hden0 : den ≠ 0)
    (hden : |den| < 2 ^ 51) :
    ∃ q, Binary64.round (num / den) = some q ∧ wholeFps num den = max 1 (roundHalfEven q) := by
  have one_le_den : (1 : ℚ) ≤ |(den : ℚ)| := by exact_mod_cast Int.one_le_abs hden0
  have num_lt : |(num : ℚ)| < 2 ^ 51 := by exact_mod_cast hnum
  have small : |(num : ℚ) / den| < Binary64.limit :=
    calc |(num : ℚ) / den|
        = |(num : ℚ)| / |(den : ℚ)| := abs_div _ _
      _ ≤ |(num : ℚ)| := div_le_self (abs_nonneg _) one_le_den
      _ < 2 ^ 53 := by linarith
      _ < Binary64.limit := Binary64.lt_limit
  refine ⟨_, Binary64.round_eq_some small, ?_⟩
  rw [wholeFps, Binary64.roundHalfEven_nearest_div hnum hden0 hden]

theorem one_le_wholeFps (num den : Int) : 1 ≤ wholeFps num den := le_max_left _ _

theorem macroblocks_le {width width' height height' : Int} (hw : 0 < width) (hh : 0 < height)
    (hwidth : width ≤ width') (hheight : height ≤ height') :
    0 < macroblocks width height ∧
      macroblocks width height ≤ macroblocks width' height' := by
  have w0 : 0 < blocks width := by unfold blocks; omega
  have h0 : 0 < blocks height := by unfold blocks; omega
  have w : blocks width ≤ blocks width' := by unfold blocks; omega
  have h : blocks height ≤ blocks height' := by unfold blocks; omega
  exact ⟨mul_pos w0 h0, mul_le_mul w h h0.le (w0.le.trans w)⟩

/-- The level for a whole number of frames a second. -/
theorem h264LevelFor_eq {width height fps : Int} (hw : 0 < width) (hh : 0 < height)
    (hfps : 0 < fps) {maxLevel : String} {cap : Nat} (hcap : levelIndex maxLevel = some cap) :
    h264LevelFor width height fps none maxLevel =
      .ok (levelAt (min (lowestCovering (macroblocks width height)
        (macroblocks width height * fps)) cap)) := by
  have positive : ¬ min width (min height fps) ≤ 0 := by
    simp only [min_le_iff]
    omega
  rw [h264LevelFor, if_neg positive, hcap]
  simp only [LevelRow.hasBitrate, Option.all_none, Bool.and_true, lowestCovering]
  congr 4
  funext row
  rw [LevelRow.covers]
  congr 2
  rw [eq_iff_iff]
  exact_mod_cast Iff.rfl

theorem find_levelAt : ∀ i (hi : i < levels.length),
    levels.find? (·.level = levelAt i) = some levels[i] := by decide

/-- The bridge warns, of a level that does not cover the stream, exactly where it is
clamped. -/
theorem levelCovers_clamped_iff {width height fps : Int} {cap : Nat} (hcap : cap < levels.length) :
    levelCovers (levelAt (min (lowestCovering (macroblocks width height)
        (macroblocks width height * fps)) cap)) width height fps none = true ↔
      lowestCovering (macroblocks width height) (macroblocks width height * fps) ≤ cap := by
  have hi : min (lowestCovering (macroblocks width height)
      (macroblocks width height * fps)) cap < levels.length := by omega
  have row := @covers_iff (macroblocks width height) (macroblocks width height * fps) _ hi
  rw [le_min_iff, and_iff_right le_rfl] at row
  rw [← row, levelCovers, find_levelAt _ hi, LevelRow.covers]
  simp only [LevelRow.hasBitrate, Option.all_none, Bool.and_true, Bool.and_eq_true,
    decide_eq_true_eq]
  exact_mod_cast Iff.rfl

/-- The level of a stream, by the whole number of frames the bridge asks for. -/
theorem outputLevel_eq {width height num den : Int} (hw : 0 < width) (hh : 0 < height)
    {setting : String} {cap : Nat} (hcap : levelIndex (webrtcMaxLevel setting) = some cap)
    (hnum : 0 < num) (hden : 0 < den) :
    outputLevel ⟨some width, some height, some (num, den)⟩ setting =
      some (levelAt (min (lowestCovering (macroblocks width height)
        (macroblocks width height * wholeFps num den)) cap)) := by
  have fraction : whFps ⟨some width, some height, some (num, den)⟩ =
      some (width, height, wholeFps num den) := by
    simp [whFps, hnum.ne', hden.ne']
  rw [outputLevel, fraction, Option.bind_some]
  dsimp only
  rw [h264LevelFor_eq hw hh (one_le_wholeFps num den) hcap]

/-- The rounded rate and the rate itself give the same level exactly if they are on the
same side of every limit that counts. -/
theorem min_lowestCovering_rounded_iff {fs : Int} {num den : Int} {cap : Nat}
    (hcap : cap ≤ levels.length) :
    min (lowestCovering fs (fs * wholeFps num den)) cap =
        min (lowestCovering fs (fs * (num / den))) cap ↔
      ∀ row ∈ levels.take cap, fs ≤ row.maxFs →
        (fs * wholeFps num den ≤ row.maxMbps ↔ fs * ((num : ℚ) / den) ≤ row.maxMbps) := by
  rw [min_lowestCovering_eq_iff hcap]
  refine forall₂_congr fun row _ => ?_
  rw [LevelRow.covers, LevelRow.covers, Bool.eq_iff_iff]
  simp only [Bool.and_eq_true, decide_eq_true_eq, and_congr_right_iff]
  refine imp_congr_right fun _ => iff_congr ?_ Iff.rfl
  exact_mod_cast Iff.rfl

theorem wholeFps_le {num den num' den' : Int} (h : (num : ℚ) / den ≤ num' / den') :
    wholeFps num den ≤ wholeFps num' den' :=
  max_le_max le_rfl (roundHalfEven_le h)

/-- The level the bridge asks for is the lowest that covers the stream, clamped, exactly if
rounding the rate takes the stream across no limit of a row below the clamp; and it only
grows with the stream. -/
theorem outputLevel_lowest_iff {setting : String} {cap : Nat}
    (hcap : levelIndex (webrtcMaxLevel setting) = some cap) :
    (∀ width height num den : Int, 0 < width → 0 < height → 0 < num → 0 < den →
      (outputLevel ⟨some width, some height, some (num, den)⟩ setting =
          some (levelAt (min (lowestCovering (macroblocks width height)
            (macroblocks width height * (num / den))) cap)) ↔
        ∀ row ∈ levels.take cap, macroblocks width height ≤ row.maxFs →
          (macroblocks width height * wholeFps num den ≤ row.maxMbps ↔
            macroblocks width height * ((num : ℚ) / den) ≤ row.maxMbps))) ∧
      ∀ width width' height height' num den num' den' : Int, 0 < width → 0 < height →
        0 < num → 0 < den → 0 < num' → 0 < den' → width ≤ width' → height ≤ height' →
        (num : ℚ) / den ≤ num' / den' →
        ∃ i j, outputLevel ⟨some width, some height, some (num, den)⟩ setting =
            some (levelAt i) ∧
          outputLevel ⟨some width', some height', some (num', den')⟩ setting =
            some (levelAt j) ∧ i ≤ j ∧ j ≤ cap := by
  have hcap' := levelIndex_lt hcap
  constructor
  · intro width height num den hw hh hnum hden
    rw [outputLevel_eq hw hh hcap hnum hden, Option.some.injEq,
      levelAt_inj (by omega) (by omega)]
    exact min_lowestCovering_rounded_iff hcap'.le
  · intro width width' height height' num den num' den' hw hh hnum hden hnum' hden' hwidth
      hheight hrate
    refine ⟨_, _, outputLevel_eq hw hh hcap hnum hden,
      outputLevel_eq (hw.trans_le hwidth) (hh.trans_le hheight) hcap hnum' hden', ?_,
      min_le_right _ _⟩
    obtain ⟨hpos, hfs⟩ := macroblocks_le hw hh hwidth hheight
    have hmbps : macroblocks width height * wholeFps num den ≤
        macroblocks width' height' * wholeFps num' den' :=
      mul_le_mul hfs (wholeFps_le hrate) (by linarith [one_le_wholeFps num den])
        (hpos.le.trans hfs)
    exact min_le_min_right cap (lowestCovering_le hfs (by exact_mod_cast hmbps))

theorem outputLevel_lowest_iff_unclamped :
    (∀ width height num den : Int, 0 < width → 0 < height → 0 < num → 0 < den →
      (outputLevel ⟨some width, some height, some (num, den)⟩ "5.2" =
          some (levelAt (min (lowestCovering (macroblocks width height)
            (macroblocks width height * (num / den))) 16)) ↔
        ∀ row ∈ levels.take 16, macroblocks width height ≤ row.maxFs →
          (macroblocks width height * wholeFps num den ≤ row.maxMbps ↔
            macroblocks width height * ((num : ℚ) / den) ≤ row.maxMbps))) ∧
      ∀ width width' height height' num den num' den' : Int, 0 < width → 0 < height →
        0 < num → 0 < den → 0 < num' → 0 < den' → width ≤ width' → height ≤ height' →
        (num : ℚ) / den ≤ num' / den' →
        ∃ i j, outputLevel ⟨some width, some height, some (num, den)⟩ "5.2" =
            some (levelAt i) ∧
          outputLevel ⟨some width', some height', some (num', den')⟩ "5.2" =
            some (levelAt j) ∧ i ≤ j ∧ j ≤ 16 :=
  outputLevel_lowest_iff (by decide)

/-- At 30.5 frames a second, 1280x720 is advertised a level that has room for 30. -/
theorem not_outputLevel_lowest :
    ¬ ∀ (setting : String) (cap : Nat), levelIndex (webrtcMaxLevel setting) = some cap →
      ∀ width height num den : Int, 0 < width → 0 < height → 0 < num → 0 < den →
        outputLevel ⟨some width, some height, some (num, den)⟩ setting =
          some (levelAt (min (lowestCovering (macroblocks width height)
            (macroblocks width height * (num / den))) cap)) := by
  intro lowest
  have advertised := lowest "5.2" 16 (by decide) 1280 720 61 2
    (by decide) (by decide) (by decide) (by decide)
  exact absurd advertised (by decide +kernel)

end CamDriver
