import CamDriver.Formats
import CamDriver.Lib.Grid
import Mathlib

/-!
# CamDriver.YuvToRgb

The colour conversion of the ROS 2 bridges, `yuv_to_rgb8`, down to the bytes it reads.

A read past the source, or an index that overflows `int`, has no meaning in C++: the conversion
is then `none`.  What it is depends on the source alone and never on the buffer that it writes to
(`yuvToRgb8Into_eq`), so that the bridges read it as `Yuv.convert`.

`Yuv.layout` lays the planes out apart from the code, with chroma for every block;
`converts_iff` says when the code goes by it.
-/

namespace CamDriver

open Grid

/-! ## Colours -/

/-- The layouts that the bridges convert. -/
inductive Yuv where
  | i420 | nv12 | yuy2 | uyvy | yv12 | nv24
deriving DecidableEq, Repr

/-- `clamp8`. -/
def clamp8 (v : Int) : UInt8 := UInt8.ofNat (max 0 (min v 255)).toNat

/-- `yuv2rgb`. -/
def yuv2rgb (y u v : UInt8) : List UInt8 :=
  let d := (u.toNat : Int) - 128
  let e := (v.toNat : Int) - 128
  [clamp8 (y.toNat + 359 * e / 256), clamp8 (y.toNat - (88 * d + 183 * e) / 256),
    clamp8 (y.toNat + 454 * d / 256)]

/-- The bytes `yuv_to_rgb8` needs. -/
def Yuv.need (fmt : Yuv) (w h : Nat) : Nat :=
  match fmt with
  | .yuy2 | .uyvy => w * h * 2
  | .nv12 => w * h + w * h / 2
  | .nv24 => w * h * 3
  | .i420 | .yv12 => w * h + 2 * (w / 2) * (h / 2)

theorem length_yuv2rgb (y u v : UInt8) : (yuv2rgb y u v).length = 3 := rfl

/-! ## What the code reads -/

/-- Where the luma and the chroma of a pixel lie in the source. -/
structure Samples where
  luma : Nat
  u : Nat
  v : Nat
deriving DecidableEq, Repr

namespace Samples

def Inside (s : Samples) (size : Nat) : Prop := s.luma < size ∧ s.u < size ∧ s.v < size

/-- The colour of a pixel; `none`: a sample is past the end of the source. -/
def read (s : Samples) (src : List UInt8) : Option (List UInt8) := do
  let y ← src[s.luma]?
  let u ← src[s.u]?
  let v ← src[s.v]?
  return yuv2rgb y u v

theorem read_of_inside {s : Samples} {src : List UInt8} (h : s.Inside src.length) :
    s.read src = some (yuv2rgb (src.getD s.luma 0) (src.getD s.u 0) (src.getD s.v 0)) := by
  obtain ⟨hluma, hu, hv⟩ := h
  simp [read, hluma, hu, hv]

theorem read_eq_none {s : Samples} {src : List UInt8} (h : ¬ s.Inside src.length) :
    s.read src = none := by
  simp only [Inside, not_and_or, not_lt] at h
  unfold read
  rcases h with hluma | hu | hv
  · rw [List.getElem?_eq_none hluma]
    rfl
  · rw [List.getElem?_eq_none hu]
    cases src[s.luma]? <;> rfl
  · rw [List.getElem?_eq_none hv]
    cases src[s.luma]? <;> cases src[s.u]? <;> rfl

end Samples

namespace Yuv

/-- Packed 4:2:2: `yo` and `co` are the offsets of Y in a pixel and of U in a pair.  Inside a row
the code counts in `int`. -/
def packedIndices (yo co w y x : Nat) : Option Samples :=
  let row := y * w * 2
  let pair := x / 2 * 4
  if x * 2 + yo < 2 ^ 31 ∧ pair + co + 2 < 2 ^ 31 then
    some { luma := row + (x * 2 + yo), u := row + (pair + co), v := row + (pair + co + 2) }
  else none

/-- The indices that the code computes for a pixel. -/
def sampleIndices (fmt : Yuv) (w h y x : Nat) : Option Samples :=
  let wh := w * h
  let cw := w / 2
  let ch := h / 2
  match fmt with
  | yuy2 => packedIndices 0 1 w y x
  | uyvy => packedIndices 1 0 w y x
  | nv12 =>
      let i := y / 2 * w + x / 2 * 2
      some { luma := y * w + x, u := wh + i, v := wh + (i + 1) }
  | nv24 =>
      let i := 2 * (y * w + x)
      some { luma := y * w + x, u := wh + i, v := wh + (i + 1) }
  | i420 =>
      let i := y / 2 * cw + x / 2
      some { luma := y * w + x, u := wh + i, v := wh + (cw * ch + i) }
  | yv12 =>
      let i := y / 2 * cw + x / 2
      some { luma := y * w + x, u := wh + (cw * ch + i), v := wh + i }

/-- The colour that the code computes for a pixel; `none`: it reads past the source. -/
def readColour (fmt : Yuv) (src : List UInt8) (w h y x : Nat) : Option (List UInt8) :=
  (fmt.sampleIndices w h y x).bind (·.read src)

end Yuv

/-! ## The loops -/

/-- `out.resize(n)`. -/
def resize (out : List UInt8) (n : Nat) : List UInt8 :=
  out.take n ++ List.replicate (n - out.length) 0

/-- `dst[0] = ..; dst[1] = ..`, from `i` on. -/
def writeAt (out : List UInt8) (i : Nat) : List UInt8 → List UInt8
  | [] => out
  | b :: bs => writeAt (out.set i b) (i + 1) bs

/-- The body of the inner loop. -/
def convertPixel (fmt : Yuv) (src : List UInt8) (w h : Nat) (out : List UInt8)
    (pixel : Nat × Nat) : Option (List UInt8) := do
  let s ← fmt.sampleIndices w h pixel.1 pixel.2
  let rgb ← s.read src
  return writeAt out (3 * (pixel.1 * w + pixel.2)) rgb

/-- `yuv_to_rgb8`: what it returns and what it leaves in `out`. -/
def yuvToRgb8Into (fmt : Option Yuv) (src : List UInt8) (w h : Int) (out : List UInt8) :
    Option (Bool × List UInt8) :=
  match fmt with
  | none => some (false, out)
  | some fmt =>
    if w ≤ 0 ∨ h ≤ 0 then some (false, out)
    else if src.length < fmt.need w.toNat h.toNat then some (false, out)
    else do
      let out' ← (cells h.toNat w.toNat).foldlM (convertPixel fmt src w.toNat h.toNat)
        (resize out (w.toNat * h.toNat * 3))
      return (true, out')

theorem length_resize (out : List UInt8) (n : Nat) : (resize out n).length = n := by
  simp only [resize, List.length_append, List.length_take, List.length_replicate]
  omega

theorem writeAt_append (done : List UInt8) {bytes rest : List UInt8}
    (hrest : bytes.length ≤ rest.length) :
    writeAt (done ++ rest) done.length bytes = done ++ bytes ++ rest.drop bytes.length := by
  induction bytes generalizing done rest with
  | nil => simp [writeAt]
  | cons b bytes ih =>
      cases rest with
      | nil => simp at hrest
      | cons a rest =>
          have hlen : (done ++ [b]).length = done.length + 1 := by simp
          have hset : (done ++ a :: rest).set done.length b = done ++ [b] ++ rest := by simp
          rw [writeAt, hset, ← hlen, ih (done ++ [b]) (Nat.le_of_succ_le_succ hrest)]
          simp

/-- The pixels that are done stand in front of what `out` held. -/
theorem foldlM_writeAt {f : List UInt8 → Nat → Option (List UInt8)} {p : Nat → List UInt8}
    {n : Nat} (hp : ∀ j < n, (p j).length = 3)
    (hf : ∀ j < n, ∀ out, f out j = some (writeAt out (3 * j) (p j))) (out : List UInt8)
    (hlen : 3 * n ≤ out.length) :
    (List.range n).foldlM f out = some ((List.range n).flatMap p ++ out.drop (3 * n)) := by
  induction n with
  | zero => simp
  | succ n ih =>
      have hdone : ((List.range n).flatMap p).length = 3 * n := by
        rw [List.length_flatMap, List.map_congr_left fun j hj =>
          hp j (Nat.lt_succ_of_lt (List.mem_range.1 hj))]
        simp [Nat.mul_comm]
      have hrest : (p n).length ≤ (out.drop (3 * n)).length := by
        rw [hp n (Nat.lt_succ_self n), List.length_drop]
        omega
      have hwrite := writeAt_append ((List.range n).flatMap p) hrest
      rw [hdone, hp n (Nat.lt_succ_self n), List.drop_drop] at hwrite
      rw [List.range_succ, List.foldlM_append, ih (fun j hj => hp j (by omega))
        (fun j hj => hf j (by omega)) (by omega)]
      simp only [List.foldlM_cons, List.foldlM_nil, Option.bind_eq_bind, Option.bind_some,
        hf n (Nat.lt_succ_self n), hwrite, List.flatMap_append, List.flatMap_singleton]
      rfl

/-- Every sample that the code reads is inside the source. -/
def ReadsInside (fmt : Yuv) (size w h : Nat) : Prop :=
  ∀ y < h, ∀ x < w, ∃ s, fmt.sampleIndices w h y x = some s ∧ s.Inside size

/-- Then the code writes the colour of every pixel, whatever `out` held. -/
theorem yuvToRgb8Into_of_inside {fmt : Yuv} {src : List UInt8} {w h : Nat} (hw : 0 < w) (hh : 0 < h)
    (hneed : fmt.need w h ≤ src.length) (hinside : ReadsInside fmt src.length w h)
    (out : List UInt8) :
    yuvToRgb8Into (some fmt) src w h out =
      some (true, (grid h w fun y x => (fmt.readColour src w h y x).getD []).flatten) := by
  set p : Nat → Nat → List UInt8 := fun y x => (fmt.readColour src w h y x).getD [] with hpdef
  have hread : ∀ j < h * w, ∃ s, fmt.sampleIndices w h (j / w) (j % w) = some s ∧
      s.Inside src.length :=
    fun j hj => hinside (j / w) (Nat.div_lt_of_lt_mul (by rwa [Nat.mul_comm])) (j % w)
      (Nat.mod_lt j hw)
  have hstep : ∀ j < h * w, ∀ out, convertPixel fmt src w h out (j / w, j % w) =
      some (writeAt out (3 * j) (p (j / w) (j % w))) := by
    intro j hj out
    obtain ⟨s, hs, hin⟩ := hread j hj
    have hj : j / w * w + j % w = j := Nat.div_add_mod' j w
    simp only [convertPixel, hs, Option.bind_eq_bind, Option.bind_some, Samples.read_of_inside hin,
      hj, hpdef, Yuv.readColour, Option.getD_some]
    rfl
  have hthree : ∀ j < h * w, (p (j / w) (j % w)).length = 3 := by
    intro j hj
    obtain ⟨s, hs, hin⟩ := hread j hj
    simp [hpdef, Yuv.readColour, hs, Samples.read_of_inside hin, length_yuv2rgb]
  have hlen : (resize out (w * h * 3)).length = 3 * (h * w) := by
    rw [length_resize]
    ring
  have hloop := foldlM_writeAt (p := fun j => p (j / w) (j % w)) hthree hstep
    (resize out (w * h * 3)) hlen.ge
  rw [← hlen, List.drop_length, List.append_nil] at hloop
  rw [yuvToRgb8Into, if_neg (by omega), Int.toNat_natCast, Int.toNat_natCast,
    if_neg hneed.not_gt, cells_eq, grid, List.foldlM_map, hloop, grid, List.flatMap_def]
  rfl

/-- A loop whose body has no meaning at one of its places has none. -/
theorem foldlM_eq_none {α β : Type*} {f : β → α → Option β} {l : List α} {a : α} (ha : a ∈ l)
    (hf : ∀ b, f b a = none) (b : β) : l.foldlM f b = none := by
  induction l generalizing b with
  | nil => cases ha
  | cons c l ih =>
      rw [List.foldlM_cons]
      rcases List.mem_cons.1 ha with rfl | ha
      · rw [hf]
        rfl
      · cases f b c with
        | none => rfl
        | some b' => exact ih ha b'

/-- And where it does not, it reads past the source. -/
theorem yuvToRgb8Into_of_past {fmt : Yuv} {src : List UInt8} {w h : Nat} (hw : 0 < w) (hh : 0 < h)
    (hneed : fmt.need w h ≤ src.length) (hpast : ¬ ReadsInside fmt src.length w h)
    (out : List UInt8) : yuvToRgb8Into (some fmt) src w h out = none := by
  simp only [ReadsInside, not_forall, not_exists, not_and] at hpast
  obtain ⟨y, hy, x, hx, hpast⟩ := hpast
  have hmem : (y, x) ∈ cells h w := by simp [cells, hy, hx]
  have hnone : ∀ out, convertPixel fmt src w h out (y, x) = none := by
    intro out
    cases hs : fmt.sampleIndices w h y x with
    | none => simp [convertPixel, hs]
    | some s => simp [convertPixel, hs, Samples.read_eq_none (hpast s hs)]
  rw [yuvToRgb8Into, if_neg (by omega), Int.toNat_natCast, Int.toNat_natCast,
    if_neg hneed.not_gt, foldlM_eq_none hmem hnone]
  rfl

/-! ## What the bridges read it as -/

/-- What `yuv_to_rgb8` makes of a source: `none` where it reads past it, `some none` where it
refuses it. -/
def Yuv.convert (fmt : Yuv) (src : List UInt8) (w h : Nat) : Option (Option (List UInt8)) :=
  (yuvToRgb8Into (some fmt) src w h []).map fun (done, rgb) => if done then some rgb else none

section Convert

variable {fmt : Yuv} {src : List UInt8} {w h : Nat}

theorem yuvToRgb8Into_of_refused (hrefused : w = 0 ∨ h = 0 ∨ src.length < fmt.need w h)
    (out : List UInt8) : yuvToRgb8Into (some fmt) src w h out = some (false, out) := by
  by_cases hgeometry : (w : Int) ≤ 0 ∨ (h : Int) ≤ 0
  · rw [yuvToRgb8Into, if_pos hgeometry]
  · rw [yuvToRgb8Into, if_neg hgeometry, Int.toNat_natCast, Int.toNat_natCast,
      if_pos (by omega)]

/-- The buffer that the code writes to is no part of what it makes of the source: it is left as
it is, or written over from end to end. -/
theorem yuvToRgb8Into_eq (out : List UInt8) : yuvToRgb8Into (some fmt) src w h out =
    (fmt.convert src w h).map fun rgb => (rgb.isSome, rgb.getD out) := by
  unfold Yuv.convert
  by_cases hrefused : w = 0 ∨ h = 0 ∨ src.length < fmt.need w h
  · rw [yuvToRgb8Into_of_refused hrefused, yuvToRgb8Into_of_refused hrefused]
    rfl
  · simp only [not_or, not_lt] at hrefused
    obtain ⟨hw, hh, hneed⟩ := hrefused
    by_cases hinside : ReadsInside fmt src.length w h
    · rw [yuvToRgb8Into_of_inside (by omega) (by omega) hneed hinside,
        yuvToRgb8Into_of_inside (by omega) (by omega) hneed hinside]
      rfl
    · rw [yuvToRgb8Into_of_past (by omega) (by omega) hneed hinside,
        yuvToRgb8Into_of_past (by omega) (by omega) hneed hinside]
      rfl

/-- A source that is read inside is converted. -/
theorem convert_of_inside (hw : 0 < w) (hh : 0 < h) (hneed : fmt.need w h ≤ src.length)
    (hinside : ReadsInside fmt src.length w h) : fmt.convert src w h =
      some (some (grid h w fun y x => (fmt.readColour src w h y x).getD []).flatten) := by
  rw [Yuv.convert, yuvToRgb8Into_of_inside hw hh hneed hinside]
  rfl

/-- An image has three bytes for every pixel. -/
theorem length_convert {rgb : List UInt8} (hrgb : fmt.convert src w h = some (some rgb)) :
    rgb.length = 3 * (h * w) := by
  by_cases hrefused : w = 0 ∨ h = 0 ∨ src.length < fmt.need w h
  · rw [Yuv.convert, yuvToRgb8Into_of_refused hrefused] at hrgb
    cases hrgb
  · simp only [not_or, not_lt] at hrefused
    obtain ⟨hw, hh, hneed⟩ := hrefused
    by_cases hinside : ReadsInside fmt src.length w h
    · rw [convert_of_inside (by omega) (by omega) hneed hinside] at hrgb
      obtain rfl := Option.some.inj (Option.some.inj hrgb)
      have hthree : ∀ n ∈ (grid h w fun y x =>
          (fmt.readColour src w h y x).getD []).map List.length, n = 3 := by
        intro n hn
        obtain ⟨px, hpx, rfl⟩ := List.mem_map.1 hn
        obtain ⟨j, hj, rfl⟩ := List.mem_map.1 hpx
        have hj := List.mem_range.1 hj
        obtain ⟨s, hs, hin⟩ := hinside (j / w) (Nat.div_lt_of_lt_mul (by rwa [Nat.mul_comm]))
          (j % w) (Nat.mod_lt j (by omega))
        simp [Yuv.readColour, hs, Samples.read_of_inside hin, length_yuv2rgb]
      rw [List.length_flatten, List.eq_replicate_of_mem hthree]
      simp
      ring
    · rw [Yuv.convert, yuvToRgb8Into_of_past (by omega) (by omega) hneed hinside] at hrgb
      cases hrgb

end Convert

/-! ## Where the samples are -/

namespace Yuv

/-- The planes one behind the other.  Each block (4:2:0), pair (4:2:2) or pixel (4:4:4) has
chroma of its own, also where the image cuts it in half. -/
def layout (fmt : Yuv) (w h y x : Nat) : Samples :=
  let wh := w * h
  let cw := (w + 1) / 2
  let ch := (h + 1) / 2
  let pixel := y * w + x
  let block := y / 2 * cw + x / 2
  let pair := y * cw + x / 2
  match fmt with
  | i420 => ⟨pixel, wh + block, wh + (cw * ch + block)⟩
  | yv12 => ⟨pixel, wh + (cw * ch + block), wh + block⟩
  | nv12 => ⟨pixel, wh + 2 * block, wh + (2 * block + 1)⟩
  | nv24 => ⟨pixel, wh + 2 * pixel, wh + (2 * pixel + 1)⟩
  | yuy2 => ⟨4 * (y * cw) + 2 * x, 4 * pair + 1, 4 * pair + 3⟩
  | uyvy => ⟨4 * (y * cw) + 2 * x + 1, 4 * pair, 4 * pair + 2⟩

/-- The colour of a pixel, from its own samples. -/
def pixelColour (fmt : Yuv) (src : List UInt8) (w h y x : Nat) : List UInt8 :=
  let s := fmt.layout w h y x
  yuv2rgb (src.getD s.luma 0) (src.getD s.u 0) (src.getD s.v 0)

end Yuv

/-- The samples of every pixel are read from where they are, inside the source. -/
def ReadsLayout (fmt : Yuv) (size w h : Nat) : Prop :=
  ∀ y < h, ∀ x < w, fmt.sampleIndices w h y x = some (fmt.layout w h y x) ∧
    (fmt.layout w h y x).Inside size

/-- The conversion refuses the source, or reads inside it and writes three bytes for every
pixel, its colour. -/
def Converts (fmt : Yuv) (src : List UInt8) (w h : Nat) (out : List UInt8) : Prop :=
  yuvToRgb8Into (some fmt) src w h out = some (false, out) ∨
    ReadsLayout fmt src.length w h ∧
      ∃ rgb, yuvToRgb8Into (some fmt) src w h out = some (true, rgb) ∧
        rgb.length = 3 * w * h ∧ rgb = (grid h w (fmt.pixelColour src w h)).flatten

/-- The code lays out a sample for every block, and a source of that size holds them. -/
def Yuv.Covers (fmt : Yuv) (size w h : Nat) : Prop :=
  match fmt with
  | .i420 | .yv12 => Even w ∧ Even h
  | .nv12 => (Even w ∨ h ≤ 2) ∧ w * h + 2 * ((h + 1) / 2 * ((w + 1) / 2)) ≤ size
  | .nv24 => True
  | .yuy2 => w ≤ 2 ^ 30 ∧ (Even w ∨ h = 1 ∧ 2 * w + 2 ≤ size)
  | .uyvy => w ≤ 2 ^ 30 ∧ (Even w ∨ h = 1 ∧ 2 * w + 1 ≤ size)

/-- An even geometry has whole blocks only. -/
theorem Yuv.covers_of_even {fmt : Yuv} {size w h : Nat} (hw : Even w) (hh : Even h)
    (hint : w ≤ 2 ^ 30) (hneed : fmt.need w h ≤ size) : fmt.Covers size w h := by
  cases fmt
  case i420 | yv12 => exact ⟨hw, hh⟩
  case nv12 =>
    refine ⟨.inl hw, ?_⟩
    obtain ⟨a, rfl⟩ := hw
    obtain ⟨b, rfl⟩ := hh
    have hblocks : (a + a) * (b + b) = 4 * (b * a) := by ring
    have hrows : (b + b + 1) / 2 = b := by omega
    have hcols : (a + a + 1) / 2 = a := by omega
    rw [Yuv.need, hblocks] at hneed
    rw [hrows, hcols, hblocks]
    omega
  case nv24 => trivial
  case yuy2 | uyvy => exact ⟨hint, .inl hw⟩

section Layout

variable {size w h : Nat} (hw : 0 < w) (hh : 0 < h)
include hw hh

/-- The last block of the last row of blocks. -/
theorem last_block :
    (h - 1) / 2 * ((w + 1) / 2) + (w - 1) / 2 + 1 = (h + 1) / 2 * ((w + 1) / 2) := by
  have hrow : (h + 1) / 2 = (h - 1) / 2 + 1 := by omega
  have hcol : (w - 1) / 2 + 1 = (w + 1) / 2 := by omega
  rw [Nat.add_assoc, hcol, hrow, Nat.succ_mul]

omit hw hh in
theorem block_lt {y x : Nat} (hy : y < h) (hx : x < w) :
    y / 2 * ((w + 1) / 2) + x / 2 < (h + 1) / 2 * ((w + 1) / 2) :=
  index_lt (by omega) (by omega)

/-- Halves rounded down make as many blocks as halves rounded up only of even sides. -/
theorem even_of_half_mul_eq (heq : w / 2 * (h / 2) = (w + 1) / 2 * ((h + 1) / 2)) :
    Even w ∧ Even h := by
  have hchroma : w / 2 * (h / 2) ≤ (w + 1) / 2 * (h / 2) := Nat.mul_le_mul_right _ (by omega)
  have hrows : (h + 1) / 2 ≤ h / 2 :=
    Nat.le_of_mul_le_mul_left (heq.symm.le.trans hchroma) (by omega)
  have hh' : (h + 1) / 2 = h / 2 := by omega
  rw [hh'] at heq
  have hcols := Nat.eq_of_mul_eq_mul_right (by omega) heq
  exact ⟨Nat.even_iff.mpr (by omega), Nat.even_iff.mpr (by omega)⟩

/-- The planes of I420 and YV12. -/
theorem readsLayout_planar {fmt : Yuv} (hfmt : fmt = .i420 ∨ fmt = .yv12)
    (hneed : fmt.need w h ≤ size) : ReadsLayout fmt size w h ↔ Even w ∧ Even h := by
  constructor
  · -- the second plane starts where the first one ends
    intro hreads
    obtain ⟨hfirst, -⟩ := hreads 0 hh 0 hw
    refine even_of_half_mul_eq hw hh ?_
    rcases hfmt with rfl | rfl <;> simpa [Yuv.sampleIndices, Yuv.layout] using hfirst
  · rintro ⟨hweven, hheven⟩ y hy x hx
    have hcw : (w + 1) / 2 = w / 2 := by have := Nat.even_iff.mp hweven; omega
    have hch : (h + 1) / 2 = h / 2 := by have := Nat.even_iff.mp hheven; omega
    have hblock := block_lt hy hx
    have hluma := index_lt hy hx
    rw [hcw, hch, Nat.mul_comm (h / 2)] at hblock
    rw [Nat.mul_comm h] at hluma
    have hneed : w * h + 2 * (w / 2 * (h / 2)) ≤ size := by
      rw [← Nat.mul_assoc]
      rcases hfmt with rfl | rfl <;> exact hneed
    rcases hfmt with rfl | rfl <;>
      simp only [Yuv.sampleIndices, Yuv.layout, hcw, hch, Samples.Inside, true_and] <;> omega

theorem readsLayout_nv12 (hneed : Yuv.nv12.need w h ≤ size) :
    ReadsLayout .nv12 size w h ↔
      (Even w ∨ h ≤ 2) ∧ w * h + 2 * ((h + 1) / 2 * ((w + 1) / 2)) ≤ size := by
  have hluma : ∀ y < h, ∀ x < w, y * w + x < w * h := fun y hy x hx => by
    rw [Nat.mul_comm w]
    exact index_lt hy hx
  constructor
  · intro hreads
    constructor
    · -- the third row is the first to read the second row of blocks
      by_contra hodd
      rw [not_or, Nat.even_iff, not_le] at hodd
      obtain ⟨hthird, -⟩ := hreads 2 hodd.2 0 hw
      simp only [Yuv.sampleIndices, Yuv.layout, Option.some.injEq, Samples.mk.injEq] at hthird
      omega
    · obtain ⟨-, -, -, hlast⟩ := hreads (h - 1) (by omega) (w - 1) (by omega)
      have hblock := last_block hw hh
      simp only [Yuv.layout] at hlast
      omega
  · rintro ⟨hrows, hsize⟩ y hy x hx
    have hstride : y / 2 * w + x / 2 * 2 = 2 * (y / 2 * ((w + 1) / 2) + x / 2) := by
      rcases hrows with heven | hlow
      · obtain ⟨a, rfl⟩ := heven
        rw [show (a + a + 1) / 2 = a by omega]
        ring
      · rw [show y / 2 = 0 by omega]
        ring
    have hblock := block_lt hy hx
    have hluma := hluma y hy x hx
    simp only [Yuv.sampleIndices, Yuv.layout, hstride, Samples.Inside, true_and]
    omega

omit hw hh in
theorem readsLayout_nv24 (hneed : Yuv.nv24.need w h ≤ size) : ReadsLayout .nv24 size w h := by
  intro y hy x hx
  have hluma := index_lt hy hx
  have hneed : w * h * 3 ≤ size := hneed
  rw [Nat.mul_comm h] at hluma
  simp only [Yuv.sampleIndices, Yuv.layout, Samples.Inside, true_and]
  omega

/-- `ReadsLayout` of the packed formats. -/
def ReadsPacked (yo co size w h : Nat) : Prop :=
  ∀ y < h, ∀ x < w,
    let cw := (w + 1) / 2
    let pair := y * cw + x / 2
    let s : Samples := ⟨4 * (y * cw) + (2 * x + yo), 4 * pair + co, 4 * pair + (co + 2)⟩
    Yuv.packedIndices yo co w y x = some s ∧ s.Inside size

theorem readsPacked_iff {yo co : Nat} (hyo : yo ≤ 1) (hco : co ≤ 1) (hneed : w * h * 2 ≤ size) :
    ReadsPacked yo co size w h ↔ w ≤ 2 ^ 30 ∧ (Even w ∨ h = 1 ∧ 2 * w + co + 1 ≤ size) := by
  constructor
  · intro hreads
    constructor
    · -- column 2^30 is the first whose index is no `int`
      by_contra hlarge
      obtain ⟨hover, -⟩ := hreads 0 hh (2 ^ 30) (not_le.mp hlarge)
      rw [Yuv.packedIndices, if_neg (by omega)] at hover
      cases hover
    · by_cases heven : Even w
      · exact .inl heven
      rw [Nat.even_iff] at heven
      have hone : h = 1 := by
        by_contra hmore
        obtain ⟨hsecond, -⟩ := hreads 1 (by omega) 0 hw
        simp only [Yuv.packedIndices, Option.ite_none_right_eq_some, Option.some.injEq,
          Samples.mk.injEq] at hsecond
        omega
      obtain ⟨-, -, -, hlast⟩ := hreads 0 hh (w - 1) (by omega)
      dsimp only at hlast
      exact .inr ⟨hone, by omega⟩
  · rintro ⟨hint, hcols⟩ y hy x hx
    rw [Yuv.packedIndices, if_pos (by omega)]
    have hluma := index_lt hy hx
    rcases hcols with heven | ⟨rfl, hsize⟩
    · obtain ⟨a, rfl⟩ := heven
      have hpair : y * a + x / 2 < h * a := index_lt hy (by omega)
      have hrow : y * (a + a) * 2 = 4 * (y * a) := by ring
      have hhalf : y * (a + a) = 2 * (y * a) := by ring
      have htotal : h * (a + a) = 2 * (h * a) := by ring
      rw [Nat.mul_comm _ h, htotal] at hneed
      simp only [show (a + a + 1) / 2 = a by omega, hrow, Samples.Inside, Option.some.injEq,
        Samples.mk.injEq]
      omega
    · obtain rfl : y = 0 := by omega
      simp only [Nat.zero_mul, Samples.Inside, Option.some.injEq, Samples.mk.injEq]
      omega

/-- The code reads by the layout just where it covers it. -/
theorem readsLayout_iff {fmt : Yuv} (hneed : fmt.need w h ≤ size) :
    ReadsLayout fmt size w h ↔ fmt.Covers size w h := by
  cases fmt
  case i420 => exact readsLayout_planar hw hh (.inl rfl) hneed
  case yv12 => exact readsLayout_planar hw hh (.inr rfl) hneed
  case nv12 => exact readsLayout_nv12 hw hh hneed
  case nv24 => exact iff_of_true (readsLayout_nv24 hneed) trivial
  case yuy2 => exact readsPacked_iff hw hh (Nat.zero_le 1) le_rfl hneed
  case uyvy => exact readsPacked_iff hw hh le_rfl (Nat.zero_le 1) hneed

end Layout

/-! ## When the code converts -/

/-- A source that is long enough is not refused. -/
theorem yuvToRgb8Into_ne_false {fmt : Yuv} {src : List UInt8} {w h : Nat} (hw : 0 < w) (hh : 0 < h)
    (hneed : fmt.need w h ≤ src.length) (out : List UInt8) :
    yuvToRgb8Into (some fmt) src w h out ≠ some (false, out) := by
  rw [yuvToRgb8Into, if_neg (by omega), Int.toNat_natCast, Int.toNat_natCast,
    if_neg hneed.not_gt, Option.bind_eq_bind, ne_eq, Option.bind_eq_some_iff]
  rintro ⟨rgb, -, heq⟩
  cases heq

/-- A source that the layout covers is read inside. -/
theorem readsInside_of_covers {fmt : Yuv} {size w h : Nat} (hw : 0 < w) (hh : 0 < h)
    (hneed : fmt.need w h ≤ size) (hcovers : fmt.Covers size w h) : ReadsInside fmt size w h :=
  fun y hy x hx => ⟨_, (readsLayout_iff hw hh hneed).mpr hcovers y hy x hx⟩

/-- And every pixel of it gets its own colour. -/
theorem convert_of_covers {fmt : Yuv} {src : List UInt8} {w h : Nat} (hw : 0 < w) (hh : 0 < h)
    (hneed : fmt.need w h ≤ src.length) (hcovers : fmt.Covers src.length w h) :
    fmt.convert src w h = some (some (grid h w (fmt.pixelColour src w h)).flatten) := by
  have hpixels : (grid h w fun y x => (fmt.readColour src w h y x).getD []).flatten =
      (grid h w (fmt.pixelColour src w h)).flatten := by
    congr 1
    refine grid_congr fun y hy x hx => ?_
    obtain ⟨hindices, hin⟩ := (readsLayout_iff hw hh hneed).mpr hcovers y hy x hx
    simp [Yuv.readColour, hindices, Samples.read_of_inside hin, Yuv.pixelColour]
  rw [convert_of_inside hw hh hneed (readsInside_of_covers hw hh hneed hcovers), hpixels]

/-- The conversion refuses a source that is too short, and does what it should of a longer one
if and only if the layout is covered. -/
theorem converts_iff (fmt : Yuv) (src out : List UInt8) {w h : Nat} (hw : 0 < w) (hh : 0 < h) :
    Converts fmt src w h out ↔ src.length < fmt.need w h ∨ fmt.Covers src.length w h := by
  by_cases hneed : src.length < fmt.need w h
  · exact iff_of_true (.inl (yuvToRgb8Into_of_refused (.inr (.inr hneed)) out)) (.inl hneed)
  rw [or_iff_right hneed]
  have hneed : fmt.need w h ≤ src.length := not_lt.mp hneed
  rw [← readsLayout_iff hw hh hneed, Converts,
    or_iff_right (yuvToRgb8Into_ne_false hw hh hneed out)]
  refine ⟨And.left, fun hreads => ⟨hreads, ?_⟩⟩
  have hconvert := convert_of_covers hw hh hneed ((readsLayout_iff hw hh hneed).mp hreads)
  refine ⟨_, by rw [yuvToRgb8Into_eq, hconvert]; rfl, ?_, rfl⟩
  rw [length_convert hconvert]
  ring

/-- Four grey pixels over one block. -/
theorem converts_greyBlock : Converts .nv12 [10, 20, 30, 40, 128, 128] 2 2 [] :=
  (converts_iff .nv12 [10, 20, 30, 40, 128, 128] [] (by decide) (by decide)).mpr
    (.inr ⟨.inl ⟨1, rfl⟩, by decide⟩)

/-- A frame of nine pixels, as long as the core takes one to be: the last of them is read past
its end. -/
theorem not_converts :
    bytesPerFrame "NV12" 3 3 = 13 ∧
      yuvToRgb8Into (some .nv12) (List.replicate 13 128) 3 3 [] = none ∧
      ¬ ∀ (fmt : Yuv) (src out : List UInt8) (w h : Nat), 0 < w → 0 < h →
        Converts fmt src w h out := by
  have hpast : yuvToRgb8Into (some .nv12) (List.replicate 13 128) 3 3 [] = none := by decide
  refine ⟨by decide, hpast, fun hall => ?_⟩
  rcases hall .nv12 (List.replicate 13 128) [] 3 3 (by decide) (by decide) with
    hrefused | ⟨-, rgb, hinto, -⟩
  · rw [show ((3 : Nat) : Int) = 3 from rfl, hpast] at hrefused
    cases hrefused
  · rw [show ((3 : Nat) : Int) = 3 from rfl, hpast] at hinto
    cases hinto

end CamDriver
