import CamDriver.BayerTile

/-!
# CamDriver.Formats

Pixel formats and recording encoders: `parse_pixel_format`, `select_encoder`, and how
`build_recorder_description` settles on the encoder a recording gets.
-/

namespace CamDriver

/-! ## Pixel formats -/

/-- A pixel format as the pipeline uses it. -/
structure PixelFormat where
  gstFormat : String
  bits : Nat
  bayer : Option CfaPattern
  packed : Bool
  isColor : Bool
deriving DecidableEq, Repr

/-- `_GST_MONO`. -/
def gstMono : List String := ["GRAY8", "GRAY16_LE", "GRAY16_BE"]

/-- `_GST_COLOR`. -/
def gstColor : List String :=
  ["I420", "NV12", "NV24", "YV12", "YUY2", "UYVY", "RGB", "BGR", "RGBA", "BGRA", "RGBx", "BGRx"]

/-- `_BAYER_MAP`, by the two letters in upper case. -/
def bayerMap (letters : List Char) : Option CfaPattern :=
  if letters = ['R', 'G'] then some .rggb
  else if letters = ['G', 'R'] then some .grbg
  else if letters = ['G', 'B'] then some .gbrg
  else if letters = ['B', 'G'] then some .bggr
  else none

/-- `parse_pixel_format`. -/
def parsePixelFormat (pixelFormat : String) : PixelFormat :=
  let pf := if pixelFormat = "" then "Mono8" else pixelFormat
  if pf ∈ gstMono ++ gstColor then
    { gstFormat := pf, bits := if isIn "16" pf then 16 else 8, bayer := none, packed := false,
      isColor := pf ∈ gstColor }
  else
    let bits := if isIn "16" pf || isIn "12" pf || isIn "10" pf then 16 else 8
    let isBayer := "Bayer".toList <+: pf.toList
    { gstFormat := if 8 < bits then "GRAY16_LE" else "GRAY8"
      bits := bits
      bayer :=
        if isBayer ∧ 7 ≤ pf.toList.length then
          bayerMap (((pf.toList.drop 5).take 2).map Char.toUpper)
        else none
      packed := "p".toList <:+ pf.toList || isIn "Packed" pf
      isColor := false }

/-- `bytes_per_frame`. -/
def bytesPerFrame (gstFormat : String) (width height : Nat) : Nat :=
  let px := width * height
  if gstFormat ∈ ["GRAY16_LE", "GRAY16_BE"] then px * 2
  else if gstFormat ∈ ["I420", "NV12", "YV12"] then px * 3 / 2
  else if gstFormat ∈ ["YUY2", "UYVY"] then px * 2
  else if gstFormat = "NV24" then px * 3
  else if gstFormat ∈ ["RGB", "BGR"] then px * 3
  else if gstFormat ∈ ["RGBA", "BGRA", "RGBx", "BGRx"] then px * 4
  else px

/-! ## Encoders -/

/-- `VALID_ENCODERS`, without `auto`. -/
inductive Encoder where
  | hwHevcLossless | ffv1 | x265Lossless | streamCopy | x264
deriving DecidableEq, Repr

def Encoder.name : Encoder → String
  | .hwHevcLossless => "hw-hevc-lossless"
  | .ffv1 => "ffv1"
  | .x265Lossless => "x265-lossless"
  | .streamCopy => "stream-copy"
  | .x264 => "x264"

/-- The encoder a text names; `none`: `auto`, or an unknown one, which counts as `auto`. -/
def Encoder.ofName : String → Option Encoder
  | "hw-hevc-lossless" => some .hwHevcLossless
  | "ffv1" => some .ffv1
  | "x265-lossless" => some .x265Lossless
  | "stream-copy" => some .streamCopy
  | "x264" => some .x264
  | _ => none

/-- The fields of `RecordingConfig` that choose the encoder and the tiling. -/
structure EncodingConfig where
  encoder : String
  x264Crf : Int
  x264Preset : String
  bayerPattern : Option String
  bayerTile : TileSetting
deriving DecidableEq, Repr

/-- `select_encoder`. -/
def selectEncoder (encoder : String) (bits : Nat) (isColor encoded : Bool) : Encoder :=
  match Encoder.ofName encoder with
  | some enc => enc
  | none =>
    if encoded then .streamCopy
    else if isColor then .ffv1
    else if bits ≤ 8 then .hwHevcLossless
    else .ffv1

/-- `X264_PRESETS`. -/
def x264Presets : List String :=
  ["ultrafast", "superfast", "veryfast", "faster", "fast", "medium", "slow", "slower", "veryslow",
   "placebo"]

/-- `x264_settings`, as a check. -/
def x264Settings (cfg : EncodingConfig) : Except String Unit :=
  if ¬ (1 ≤ cfg.x264Crf ∧ cfg.x264Crf ≤ 50) then
    .error "recording.x264_crf must be an integer from 1 to 50"
  else if cfg.x264Preset ∉ x264Presets then
    .error ("recording.x264_preset must be one of " ++ ", ".intercalate x264Presets)
  else .ok ()

/-- `_resolve_available`; `host` says whose elements exist. -/
def resolveAvailable (host : Encoder → Bool) (enc : Encoder) : Except String Encoder :=
  if host enc then .ok enc
  else if host .ffv1 then .ok .ffv1
  else .error ("recorder: no usable lossless encoder: ffv1 needs avenc_ffv1 " ++
    "(gstreamer1.0-libav); missing element(s): avenc_ffv1")

/-- The encoder `build_recorder_description` resolves to. -/
def recorderEncoder (host : Encoder → Bool) (cfg : EncodingConfig) (bits : Nat)
    (isColor encoded : Bool) : Except String Encoder := do
  let enc := selectEncoder cfg.encoder bits isColor encoded
  if enc = .x264 then x264Settings cfg
  if enc = .streamCopy ∧ encoded then return .streamCopy
  let enc := if enc = .streamCopy then .ffv1 else enc
  let enc :=
    if enc ∈ [Encoder.x265Lossless, .hwHevcLossless, .x264] ∧ 8 < bits then .ffv1 else enc
  resolveAvailable host enc

end CamDriver
