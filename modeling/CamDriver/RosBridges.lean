import CamDriver.Ros2Relay

/-!
# CamDriver.RosBridges

The three ROS bridges: the ROS 2 bridge over the header transport, the one over unixfd, and the
ROS 1 bridge, which is a copy of the first.

`bridges_agree` is that a subscriber cannot tell them apart.
-/

namespace CamDriver

open HeaderPump (CoreFrame)

/-! ## The ROS 1 bridge: `cam_ros1_bridge.cpp` -/

/-- `CamRos1Bridge::publish`; `hint` is its encoding, `toMsg` splits a time.  Its `yuv_to_rgb8` is
the one of the ROS 2 bridges, copied.  `none`: it reads past the buffer; `some none`: it publishes
nothing. -/
def ros1Publish (toMsg : Int → Int × Int) (hint : String) (data : List UInt8) :
    Option (Option RosImage) :=
  if data.length < headerSize then some none
  else
    let hdr := WireHeader.decode data
    if hdr.magic ≠ headerMagic ∨ hdr.version ≠ 1 then some none
    else if hdr.headerLen.toNat < headerSize ∨ data.length < hdr.headerLen.toNat then some none
    else
      match pixfmtInfo hdr.pixfmt.toNat with
      | none => some none
      | some pix =>
        let width := hdr.width.toNat
        let height := hdr.height.toNat
        let pixels := data.drop hdr.headerLen.toNat
        let time := toMsg hdr.timestampNs.toNat
        let msg : RosImage :=
          { encoding := "", width, height, isBigendian := pix.bigEndian, step := 0, data := []
            stamp := stampNs time.1 time.2 }
        match pix.yuv with
        | some fmt =>
          (fmt.convert pixels width height).map (Option.map fun rgb =>
            { msg with encoding := "rgb8", step := width * 3, data := rgb })
        | none =>
          let expected := width * height * pix.bytesPerPx
          if data.length < hdr.headerLen.toNat + expected then some none
          else
            let encoding := if hint ≠ "" ∧ pix.bytesPerPx = 1 then hint else pix.encoding
            some (some
              { msg with
                encoding, step := width * pix.bytesPerPx, data := pixels.take expected })

/-! ## The ROS 2 bridge over unixfd: `cam_unixfd_bridge.cpp` -/

/-- The encodings of `caps_to_meta` for a mosaic. -/
def bayerEncodings : List (String × String) :=
  [("rggb", "bayer_rggb8"), ("grbg", "bayer_grbg8"), ("gbrg", "bayer_gbrg8"),
    ("bggr", "bayer_bggr8")]

/-- And for a plane: the encoding, the byte order, and the layout that is converted. -/
def rawEncodings : List (String × String × Bool × Option Yuv) :=
  [("GRAY8", "mono8", false, none), ("GRAY16_LE", "mono16", false, none),
    ("GRAY16_BE", "mono16", true, none), ("RGB", "rgb8", false, none),
    ("BGR", "bgr8", false, none), ("I420", "rgb8", false, some .i420),
    ("NV12", "rgb8", false, some .nv12), ("YUY2", "rgb8", false, some .yuy2),
    ("YV12", "rgb8", false, some .yv12), ("UYVY", "rgb8", false, some .uyvy),
    ("NV24", "rgb8", false, some .nv24), ("RGBA", "rgba8", false, none),
    ("RGBx", "rgba8", false, none), ("BGRA", "bgra8", false, none),
    ("BGRx", "bgra8", false, none)]

/-- What a format is published as. -/
def encodingOf (name format : String) : Option (String × Bool × Option Yuv) :=
  if name = "video/x-bayer" then
    (bayerEncodings.lookup format).map fun encoding => (encoding, false, none)
  else if name = "video/x-raw" then rawEncodings.lookup format
  else none

/-- `caps_to_meta`. -/
def capsToMeta (caps : Option SampleCaps) :
    Option ((String × Bool × Option Yuv) × Nat × Nat) := do
  let caps ← caps
  let format ← caps.format
  let width ← caps.width
  let height ← caps.height
  if width ≤ 0 ∨ height ≤ 0 then none
  else
    let found ← encodingOf caps.name format
    some (found, width.toNat, height.toNat)

/-- `CamUnixfdBridge::extract`; `none` and `some none` as in `extract`. -/
def unixfdExtract (sample : ShmSample) : Option (Option FrameMeta) :=
  match capsToMeta sample.caps with
  | none => some none
  | some ((encoding, bigEndian, yuv), width, height) =>
    let out := fun data =>
      ({ data, width, height, encoding, bigEndian
         stampNs :=
           if sample.offsetEnd = offsetNone then 0
           else (UInt64.ofNat sample.offsetEnd).toInt64.toInt
         frameId := if sample.offset = offsetNone then 0 else sample.offset } : FrameMeta)
    match yuv with
    | some fmt => (fmt.convert sample.data width height).map (Option.map out)
    | none => some (some (out sample.data))

/-- What `_publish_transport` sends over unixfd; `none`: a field of the buffer has no room for the
id or the time, and the frame is dropped. -/
def unixfdBuffer (pixelFormat : String) (tpts : Int) (f : CoreFrame) : Option ShmSample :=
  let pf := parsePixelFormat pixelFormat
  let fits := fun n : Int => 0 ≤ n ∧ n < 2 ^ 64
  if fits f.stamp.frameId ∧ fits f.stamp.timestampNs then
    let (name, format) :=
      match pf.bayer with
      | some pattern =>
        if pf.bits ≤ 8 then ("video/x-bayer", pattern.name) else ("video/x-raw", pf.gstFormat)
      | none => ("video/x-raw", pf.gstFormat)
    some
      { caps := some { name, format := some format, width := some f.width, height := some f.height }
        data := f.pixels, offset := f.stamp.frameId.toNat, offsetEnd := f.stamp.timestampNs.toNat
        pts := some tpts }
  else none

/-! ## The two bridges that read the header -/

theorem pixfmtInfo_spec {code : Nat} {pix : PixInfo} (h : pixfmtInfo code = some pix) :
    bytesPerPixel pix.encoding = pix.bytesPerPx ∧ (pix.bytesPerPx = 1 → code = 1) := by
  unfold pixfmtInfo at h
  split at h <;> cases h <;> exact ⟨by decide +kernel, by decide⟩

/-- A hint that is no wider than the plane it is for. -/
def HintFits (hint : String) (data : List UInt8) : Prop :=
  (WireHeader.decode data).pixfmt.toNat = 1 → hint ≠ "" → bytesPerPixel hint = 1

/-- A time that both kinds of message can say. -/
def TimeFits (data : List UInt8) : Prop :=
  (WireHeader.decode data).timestampNs.toNat < 2 ^ 31 * 1000000000

theorem toInt_of_lt {n : UInt64} (h : n.toNat < 2 ^ 63) : n.toInt64.toInt = n.toNat := by
  have heq : n = UInt64.ofNat n.toNat := UInt64.ofNat_toNat.symm
  calc n.toInt64.toInt = (UInt64.ofNat n.toNat).toInt64.toInt := by rw [← heq]
    _ = n.toNat := Int64.toInt_ofNat_of_lt h

/-- Whatever gets into the buffer, they publish the same of it, and one reads past it where the
other does. -/
theorem ros1Publish_eq {toMsg toMsg₁ : Int → Int × Int} (htime : SplitsTime toMsg)
    (htime₁ : SplitsTime toMsg₁) {hint : String} {data : List UInt8} (hhint : HintFits hint data)
    (hfits : TimeFits data) :
    ros1Publish toMsg₁ hint data = onSample toMsg hint data := by
  have hstamp : toMsg (WireHeader.decode data).timestampNs.toInt64.toInt =
      toMsg₁ (WireHeader.decode data).timestampNs.toNat := by
    unfold TimeFits at hfits
    rw [toInt_of_lt (by omega), htime _ (by omega) (by omega), htime₁ _ (by omega) (by omega)]
  unfold ros1Publish onSample extract
  split
  case isTrue => rfl
  case isFalse =>
    dsimp only
    split
    case isTrue => rfl
    case isFalse =>
      split
      case isTrue => rfl
      case isFalse hlen =>
        cases hpix : pixfmtInfo (WireHeader.decode data).pixfmt.toNat with
        | none => rfl
        | some pix =>
            obtain ⟨hbytes, hone⟩ := pixfmtInfo_spec hpix
            dsimp only
            cases pix.yuv with
            | some fmt =>
                dsimp only
                rcases hrgb : fmt.convert (data.drop (WireHeader.decode data).headerLen.toNat)
                    (WireHeader.decode data).width.toNat
                    (WireHeader.decode data).height.toNat with _ | (_ | rgb)
                · rfl
                · rfl
                · have hrgb8 : bytesPerPixel "rgb8" = 3 := by decide
                  have hwhole : rgb.length = (WireHeader.decode data).width.toNat * 3 *
                      (WireHeader.decode data).height.toNat := by
                    rw [length_convert hrgb]
                    ring
                  simp only [Option.map_some, Option.bind_some, publish, hrgb8, hstamp]
                  rw [if_neg hwhole.ge.not_gt, List.take_of_length_le hwhole.le]
            | none =>
                have hlabel : bytesPerPixel
                    (if hint ≠ "" ∧ pix.bytesPerPx = 1 then hint else pix.encoding) =
                      pix.bytesPerPx := by
                  split
                  case isTrue hgrey => rw [hhint (hone hgrey.2) hgrey.1, hgrey.2]
                  case isFalse => exact hbytes
                have hneed : (WireHeader.decode data).width.toNat *
                    (WireHeader.decode data).height.toNat * pix.bytesPerPx =
                      (WireHeader.decode data).width.toNat * pix.bytesPerPx *
                        (WireHeader.decode data).height.toNat := by ring
                have hshort : (data.drop (WireHeader.decode data).headerLen.toNat).length <
                    (WireHeader.decode data).width.toNat * pix.bytesPerPx *
                      (WireHeader.decode data).height.toNat ↔
                    data.length < (WireHeader.decode data).headerLen.toNat +
                      (WireHeader.decode data).width.toNat * pix.bytesPerPx *
                        (WireHeader.decode data).height.toNat := by
                  rw [List.length_drop]
                  omega
                simp only [Option.map_some, Option.bind_some, publish, hlabel, hneed, hshort,
                  hstamp]
                split <;> rfl

/-! ## The two transports -/

/-- A format under its own name, on unixfd and in the header. -/
theorem rawEncodings_lookup : ∀ entry ∈ codeToGst, rawEncodings.lookup entry.2 =
    some ((rosEncoding entry.2).1, (rosEncoding entry.2).2, yuvLayout entry.2) := by
  decide

/-- What the bridge reads off the caps of the core. -/
theorem unixfdExtract_eq {sample : ShmSample} {encoding : String} {bigEndian : Bool}
    {yuv : Option Yuv} {width height : Nat}
    (hmeta : capsToMeta sample.caps = some ((encoding, bigEndian, yuv), width, height))
    (hstamp : sample.offsetEnd ≠ offsetNone) :
    unixfdExtract sample =
      (match yuv with
        | some fmt => fmt.convert sample.data width height
        | none => some (some sample.data)).map (Option.map fun data =>
          { data, width, height, encoding, bigEndian
            stampNs := (UInt64.ofNat sample.offsetEnd).toInt64.toInt
            frameId := if sample.offset = offsetNone then 0 else sample.offset }) := by
  rw [unixfdExtract, hmeta]
  simp only [if_neg hstamp]
  cases yuv <;> rfl

/-- The caps of the core, of a geometry. -/
theorem capsToMeta_eq {name format : String} {width height : Nat} (hwidth : 0 < width)
    (hheight : 0 < height) {found : String × Bool × Option Yuv}
    (hfound : encodingOf name format = some found) :
    capsToMeta (some { name, format := some format, width := some (width : Int),
                       height := some (height : Int) }) = some (found, width, height) := by
  unfold capsToMeta
  simp only [Option.bind_eq_bind, Option.bind_some]
  rw [if_neg (by omega), hfound]
  simp

section Frame

variable {pf : String} {f : CoreFrame} (hformat : f.format = (parsePixelFormat pf).gstFormat)
include hformat

/-- The caps say of a frame what the header and the hint do. -/
theorem capsToMeta_buffer {tpts : Int} {sample : ShmSample}
    (hsample : unixfdBuffer pf tpts f = some sample) :
    capsToMeta sample.caps =
      some ((rosLabel (rosHint pf) f.format, (rosEncoding f.format).2, yuvLayout f.format),
        f.width, f.height) := by
  obtain ⟨code, hentry, -⟩ := buffer_eq f
  have hraw := rawEncodings_lookup _ hentry
  dsimp only at hraw
  simp only [unixfdBuffer, Option.ite_none_right_eq_some, Option.some.injEq] at hsample
  obtain ⟨-, rfl⟩ := hsample
  refine capsToMeta_eq f.width_fits.1 f.height_fits.1 ?_
  rcases parsePixelFormat_hint pf with ⟨hbayer, hhint⟩ | ⟨pattern, hbayer, hgrey | hdeep⟩
  · have hlabel : rosLabel (rosHint pf) f.format = (rosEncoding f.format).1 := by
      rw [rosLabel, if_neg fun h => h.1 hhint]
    simp only [hbayer, ← hformat, encodingOf, hraw, hlabel]
    simp
  · obtain ⟨hbits, hgst, hhint⟩ := hgrey
    have hne : rosHint pf ≠ "" := by
      rw [hhint]
      cases pattern <;> decide
    have hlabel : rosLabel (rosHint pf) f.format = "bayer_" ++ pattern.name ++ "8" := by
      rw [rosLabel, if_pos ⟨hne, hformat.trans hgst⟩, hhint]
    have hlookup : bayerEncodings.lookup pattern.name =
        some ("bayer_" ++ pattern.name ++ "8") := by
      cases pattern <;> decide
    have hplane : yuvLayout "GRAY8" = none := by decide
    have hendian : (rosEncoding "GRAY8").2 = false := by decide
    rw [hlabel, hformat, hgst]
    simp [hbayer, hbits, encodingOf, hlookup, hplane, hendian]
  · obtain ⟨hbits, hgst⟩ := hdeep
    have hlabel : rosLabel (rosHint pf) f.format = (rosEncoding f.format).1 := by
      rw [rosLabel, if_neg]
      rintro ⟨-, hgrey⟩
      exact absurd (hgrey.symm.trans (hformat.trans hgst)) (by decide)
    simp only [hbayer, if_neg hbits.not_ge, ← hformat, encodingOf, hraw, hlabel]
    simp

/-- Over unixfd or behind a header, the message is the same. -/
theorem unixfd_eq (toMsg : Int → Int × Int) {tpts : Int} {sample : ShmSample}
    (hsample : unixfdBuffer pf tpts f = some sample) (hset : f.stamp.timestampNs ≠ 2 ^ 64 - 1) :
    (unixfdExtract sample).map (fun taken => taken.bind (publish toMsg)) =
      bridged toMsg (rosHint pf) f := by
  obtain ⟨code, hentry, hbuffer⟩ := buffer_eq f
  have hmeta := capsToMeta_buffer hformat hsample
  simp only [unixfdBuffer, Option.ite_none_right_eq_some, Option.some.injEq] at hsample
  obtain ⟨⟨-, hnonneg, hlt⟩, rfl⟩ := hsample
  have hstamp : f.stamp.timestampNs.toNat ≠ offsetNone := by
    unfold offsetNone
    omega
  have hmask : maskU64 f.stamp.timestampNs = UInt64.ofNat f.stamp.timestampNs.toNat := by
    rw [maskU64, Int.emod_eq_of_lt hnonneg hlt]
  rw [unixfdExtract_eq hmeta hstamp, bridged, hbuffer]
  simp only [Except.toOption, Option.bind_some, onSample]
  rw [extract_wireHeader _ _ f.width_fits.2 f.height_fits.2 hentry, hmask]
  -- the two differ in the frame id, which a message does not carry
  simp only [Option.map_map, Function.comp_def, Option.bind_map]
  rfl

end Frame

/-- A frame with an id and a time that every transport and both kinds of message can say. -/
structure Sayable (f : CoreFrame) : Prop where
  id : 0 ≤ f.stamp.frameId ∧ f.stamp.frameId < 2 ^ 64
  time : 0 ≤ f.stamp.timestampNs ∧ f.stamp.timestampNs < 2 ^ 31 * 1000000000

/-- The bridges of one sensor, whose pixel format is `pf`. -/
structure BridgesAgree (toMsg toMsg₁ : Int → Int × Int) (pf : String) : Prop where
  /-- of any buffer at all, the two that read the header publish the same, unless both read past
  it -/
  buffers : ∀ hint data, HintFits hint data → TimeFits data →
    ros1Publish toMsg₁ hint data = onSample toMsg hint data
  /-- of a frame of the core, so do all three -/
  frames : ∀ (f : CoreFrame) (tpts : Int), f.format = (parsePixelFormat pf).gstFormat →
    Sayable f → ∃ data sample msg, f.buffer = .ok data ∧ unixfdBuffer pf tpts f = some sample ∧
      onSample toMsg (rosHint pf) data = msg ∧
      (unixfdExtract sample).map (fun taken => taken.bind (publish toMsg)) = msg ∧
      ros1Publish toMsg₁ (rosHint pf) data = msg ∧
      -- and they do publish it, if it is as long as its format and holds the chroma they look for
      (f.pixels.length = bytesPerFrame f.format f.width f.height → f.ReadInside →
        ∃ image, msg = some (some image))

/-- The header of a frame is one that they agree on. -/
theorem hintFits_buffer {pf : String} {f : CoreFrame}
    (hformat : f.format = (parsePixelFormat pf).gstFormat) (hsayable : Sayable f)
    {data : List UInt8} (hdata : f.buffer = .ok data) :
    HintFits (rosHint pf) data ∧ TimeFits data := by
  obtain ⟨code, hentry, hbuffer⟩ := buffer_eq f
  obtain rfl := Except.ok.inj (hbuffer.symm.trans hdata)
  have hdecode := WireHeader.decode_encode (f := wireHeader f.stamp.timestampNs f.stamp.frameId
    f.width f.height code f.stamp.source.value) rfl f.pixels
  obtain ⟨-, -, hcode, -⟩ := toNat_wireHeader f.stamp.timestampNs f.stamp.frameId f.width_fits.2
    f.height_fits.2 hentry f.stamp.source.value
  constructor
  · intro hone hne
    rw [hdecode, hcode] at hone
    subst hone
    have hgrey : f.format = "GRAY8" := by simpa [codeToGst] using hentry
    exact bytesPerPixel_rosHint hne (hformat.symm.trans hgrey)
  · have htime := toNat_maskU64 f.stamp.timestampNs
    obtain ⟨hnonneg, hlt⟩ := hsayable.time
    rw [Int.emod_eq_of_lt hnonneg (by omega)] at htime
    unfold TimeFits
    rw [hdecode]
    change (maskU64 f.stamp.timestampNs).toNat < _
    omega

end CamDriver
