import CamDriver.Formats
import Mathlib

/-!
# CamDriver.GigeImage

How much of a GigE buffer is handed to the pipeline as the image, and how much the pipeline
takes a frame to be.

The two are sized apart.  The source goes by the configured pixel format, the pipeline by the
one the device reports; both look for a bit depth in the text (`isWide`).  `handsImage_iff`
says when they agree with each other and with what the camera sends.
-/

namespace CamDriver

/-! ## The source -/

/-- `any(tok in pf for tok in ("16", "12", "10"))`. -/
def isWide (pf : String) : Bool := isIn "16" pf || isIn "12" pf || isIn "10" pf

/-- The bytes of a pixel, by the text of its format. -/
def wordBytes (pf : String) : Nat := if isWide pf then 2 else 1

/-- `cfg.pixel_format or "Mono8"`. -/
def configuredFormat (cfg : Option String) : String :=
  match cfg with
  | some pf => if pf = "" then "Mono8" else pf
  | none => "Mono8"

/-- `_compute_image_size`. -/
def computeImageSize (cfg : Option String) (width height : Nat) : Nat :=
  width * height * wordBytes (configuredFormat cfg)

/-- `_on_new_buffer`: the bytes a buffer hands to the pipeline, if any. -/
def onNewBuffer (imageSize : Nat) (success : Bool) (data : List UInt8) : Option (List UInt8) :=
  if ¬ success then none
  else if data = [] then none
  else some (if imageSize ≠ 0 then data.take imageSize else data)

/-! ## The device -/

/-- The format a device has once it is configured: the configured one, unless this is unset or
rejected. -/
def configurePixelFormat (cfg : Option String) (accepts : String → Bool) (format : String) :
    String :=
  match cfg with
  | some pf => if pf ≠ "" ∧ accepts pf then pf else format
  | none => format

/-- `pixel_format_string`; `none`: the device does not tell. -/
def pixelFormatString (cfg reported : Option String) : String :=
  match reported with
  | some s => if s = "" then configuredFormat cfg else s
  | none => configuredFormat cfg

/-- The size of a frame with the caps of `build`. -/
def captureImageSize (cfg reported : Option String) (width height : Nat) : Nat :=
  bytesPerFrame (parsePixelFormat (pixelFormatString cfg reported)).gstFormat width height

/-! ## Unpacked formats -/

/-- An unpacked `Mono*` or `Bayer*` format: each pixel has bytes of its own. -/
structure UnpackedFormat where
  name : String
  pixelBytes : Nat
  named : "Mono".toList <+: name.toList ∨ "Bayer".toList <+: name.toList
  pixelBytes_pos : 0 < pixelBytes

/-- What an image is made of. -/
inductive PixelFamily where
  | mono | bayerRG | bayerGR | bayerGB | bayerBG
deriving DecidableEq, Repr

def PixelFamily.text : PixelFamily → String
  | mono => "Mono"
  | bayerRG => "BayerRG"
  | bayerGR => "BayerGR"
  | bayerGB => "BayerGB"
  | bayerBG => "BayerBG"

/-- The depths that come unpacked. -/
inductive BitDepth where
  | bits8 | bits10 | bits12 | bits14 | bits16
deriving DecidableEq, Repr

def BitDepth.bits : BitDepth → Nat
  | bits8 => 8
  | bits10 => 10
  | bits12 => 12
  | bits14 => 14
  | bits16 => 16

/-- The format as the GenICam standard names it: a pixel takes as many bytes as its bits
need. -/
def PixelFamily.unpacked (family : PixelFamily) (depth : BitDepth) : UnpackedFormat where
  name := family.text ++ toString depth.bits
  pixelBytes := (depth.bits + 7) / 8
  named := by cases family <;> simp [PixelFamily.text]
  pixelBytes_pos := by cases depth <;> decide

/-- A GStreamer format is no such name. -/
theorem UnpackedFormat.name_notMem (fmt : UnpackedFormat) : fmt.name ∉ gstMono ++ gstColor := by
  intro h
  have named : ∀ pf ∈ gstMono ++ gstColor,
      ¬ ("Mono".toList <+: pf.toList ∨ "Bayer".toList <+: pf.toList) := by decide
  exact named _ h fmt.named

theorem UnpackedFormat.name_ne_empty (fmt : UnpackedFormat) : fmt.name ≠ "" := by
  intro h
  have named := fmt.named
  rw [h] at named
  exact absurd named (by decide)

/-- The pipeline sizes a frame by the format that is reported. -/
theorem captureImageSize_unpacked (cfg : Option String) (fmt : UnpackedFormat)
    (width height : Nat) :
    captureImageSize cfg (some fmt.name) width height = width * height * wordBytes fmt.name := by
  rw [captureImageSize, pixelFormatString, if_neg fmt.name_ne_empty, parsePixelFormat]
  simp only [if_neg fmt.name_ne_empty, if_neg fmt.name_notMem]
  rw [wordBytes, isWide]
  cases isIn "16" fmt.name || isIn "12" fmt.name || isIn "10" fmt.name <;> simp [bytesPerFrame]

/-- The name tells the bytes of every depth but 14. -/
theorem wordBytes_unpacked_iff (family : PixelFamily) (depth : BitDepth) :
    wordBytes (family.unpacked depth).name = (family.unpacked depth).pixelBytes ↔
      depth ≠ .bits14 := by
  cases family <;> cases depth <;> decide +kernel

/-! ## One frame -/

/-- The bytes that are handed over are the image, of the size the pipeline gives a frame. -/
def HandsImage (cfg : Option String) (fmt : UnpackedFormat) (width height : Nat)
    (image chunks : List UInt8) : Prop :=
  onNewBuffer (computeImageSize cfg width height) true (image ++ chunks) =
      (if image ++ chunks = [] then none else some image) ∧
    image.length = captureImageSize cfg (some fmt.name) width height

theorem take_append_eq_iff {α : Type} {xs ys : List α} {n : Nat} :
    (xs ++ ys).take n = xs ↔ n = xs.length ∨ xs.length < n ∧ ys = [] := by
  rcases lt_trichotomy n xs.length with hlt | rfl | hgt
  · refine iff_of_false (fun h => ?_) (by omega)
    have hlen := congrArg List.length h
    rw [List.length_take, List.length_append] at hlen
    omega
  · simp
  · have hmore : n - xs.length ≠ 0 := Nat.sub_ne_zero_of_lt hgt
    rw [List.take_append, List.take_of_length_le hgt.le, List.append_right_eq_self,
      List.take_eq_nil_iff]
    simp [hmore, hgt, hgt.ne']

/-- What is handed over of a buffer with an image in it. -/
theorem onNewBuffer_eq_iff {imageSize : Nat} {image chunks : List UInt8} (hsize : 0 < imageSize)
    (himage : image ≠ []) :
    onNewBuffer imageSize true (image ++ chunks) =
        (if image ++ chunks = [] then none else some image) ↔
      imageSize = image.length ∨ image.length < imageSize ∧ chunks = [] := by
  have hdata : image ++ chunks ≠ [] := by simp [himage]
  rw [onNewBuffer, if_neg (by simp), if_neg hdata, if_neg hdata, if_pos hsize.ne',
    Option.some.injEq, take_append_eq_iff]

/-- An empty image hands over what is behind it. -/
theorem onNewBuffer_empty_iff (chunks : List UInt8) :
    onNewBuffer 0 true ([] ++ chunks) = (if [] ++ chunks = [] then none else some []) ↔
      chunks = [] := by
  cases chunks <;> simp [onNewBuffer]

theorem wordBytes_pos (pf : String) : 0 < wordBytes pf := by
  rw [wordBytes]
  split <;> decide

/-- A buffer hands over its image, as one frame of the caps, exactly if the reported and the
configured format both tell the bytes of a pixel; where no chunks follow, too many of the
configured one do no harm. -/
theorem handsImage_iff {cfg : Option String} {fmt : UnpackedFormat} {width height : Nat}
    {image chunks : List UInt8} (himage : image.length = width * height * fmt.pixelBytes) :
    HandsImage cfg fmt width height image chunks ↔
      (width * height = 0 ∧ chunks = []) ∨
        (0 < width * height ∧ wordBytes fmt.name = fmt.pixelBytes ∧
          (wordBytes (configuredFormat cfg) = fmt.pixelBytes ∨
            fmt.pixelBytes < wordBytes (configuredFormat cfg) ∧ chunks = [])) := by
  rw [HandsImage, captureImageSize_unpacked, computeImageSize, himage]
  obtain hzero | hpos := Nat.eq_zero_or_pos (width * height)
  · obtain rfl : image = [] := List.eq_nil_of_length_eq_zero (by rw [himage, hzero, Nat.zero_mul])
    rw [hzero, Nat.zero_mul, onNewBuffer_empty_iff]
    simp
  · have hsize : 0 < width * height * wordBytes (configuredFormat cfg) :=
      Nat.mul_pos hpos (wordBytes_pos _)
    have hne : image ≠ [] := by
      rw [← List.length_pos_iff, himage]
      exact Nat.mul_pos hpos fmt.pixelBytes_pos
    rw [onNewBuffer_eq_iff hsize hne, himage, Nat.mul_right_inj hpos.ne',
      Nat.mul_right_inj hpos.ne', Nat.mul_lt_mul_left hpos, eq_comm (a := fmt.pixelBytes)]
    simp only [hpos.ne', hpos, false_and, true_and, false_or]
    exact and_comm

/-- A device that takes the configured format is read right, if the name tells the depth. -/
theorem handsImage_accepted {accepts : String → Bool} {format : String} {fmt : UnpackedFormat}
    (haccepts : accepts fmt.name = true) (hdepth : wordBytes fmt.name = fmt.pixelBytes)
    {width height : Nat} (hpos : 0 < width * height) {image chunks : List UInt8}
    (himage : image.length = width * height * fmt.pixelBytes) :
    configurePixelFormat (some fmt.name) accepts format = fmt.name ∧
      HandsImage (some fmt.name) fmt width height image chunks := by
  have hname : configuredFormat (some fmt.name) = fmt.name := if_neg fmt.name_ne_empty
  refine ⟨if_pos ⟨fmt.name_ne_empty, haccepts⟩, (handsImage_iff himage).2 (.inr ⟨hpos, hdepth, ?_⟩)⟩
  rw [hname]
  exact .inl hdepth

/-- Mono16 of a camera that is configured to it, with a chunk behind the image. -/
theorem handsImage_mono16 :
    HandsImage (some "Mono16") (PixelFamily.mono.unpacked .bits16) 1 1 [1, 2] [3] :=
  (handsImage_iff (by decide)).2 (.inr ⟨by decide, by decide +kernel, .inl (by decide +kernel)⟩)

/-- Nothing is configured, and the camera has Mono16: half of the image is handed over. -/
theorem not_handsImage :
    ¬ ∀ (cfg : Option String) (fmt : UnpackedFormat) (width height : Nat)
      (image chunks : List UInt8), image.length = width * height * fmt.pixelBytes →
      HandsImage cfg fmt width height image chunks := by
  intro hands
  have half := (hands none (PixelFamily.mono.unpacked .bits16) 1 1 [1, 2] [] (by decide)).1
  exact absurd half (by decide +kernel)

end CamDriver
