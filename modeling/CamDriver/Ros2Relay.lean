import CamDriver.HeaderPump
import CamDriver.HeaderReaders
import CamDriver.Ros2ToCore
import CamDriver.SensorEnv
import Mathlib

/-!
# CamDriver.Ros2Relay

From one core to another over ROS 2: the ROS 2 bridge publishes what the core sends, and the ROS 2
image source feeds it to the next core.

A format that the bridge publishes under a name of its own arrives bit for bit; the others
arrive through the converter.  `relayed_run` is about both.
-/

namespace CamDriver

open HeaderPump (CoreFrame)

/-! ## The bridge: `cam_bridge_base.cpp` -/

/-- `bytes_per_pixel`. -/
def bytesPerPixel (enc : String) : Nat :=
  if enc = "rgb8" ∨ enc = "bgr8" then 3
  else if enc = "rgba8" ∨ enc = "bgra8" then 4
  else if enc = "mono16" ∨ "bayer_".toList <+: enc.toList ∧ "16".toList <:+ enc.toList then 2
  else 1

/-- `stamp_ns`. -/
def stampNs (sec nanosec : Int) : Int := sec * 1000000000 + nanosec

/-- `publish`: the message, if the frame is not short; `toMsg` splits a time into the seconds
and the nanoseconds of a message. -/
def publish (toMsg : Int → Int × Int) (m : FrameMeta) : Option RosImage :=
  let step := m.width * bytesPerPixel m.encoding
  let need := step * m.height
  if m.data.length < need then none
  else
    some
      { encoding := m.encoding, width := m.width, height := m.height, isBigendian := m.bigEndian
        step, data := m.data.take need
        stamp := stampNs (toMsg m.stampNs).1 (toMsg m.stampNs).2 }

/-- What `rclcpp` promises of the times that a message can say. -/
def SplitsTime (toMsg : Int → Int × Int) : Prop :=
  ∀ ns : Int, 0 ≤ ns → ns < 2 ^ 31 * 1000000000 → toMsg ns = (ns / 1000000000, ns % 1000000000)

/-- The hint that `cam-up` gives the bridge, `CAM_ROS_ENCODING`. -/
def rosHint (pixelFormat : String) : String :=
  String.ofList (SensorEnv.rosBayerEncoding pixelFormat.toList)

/-- What the bridge makes of a buffer: `none` where its conversion reads past it, `some none` where
it publishes nothing. -/
def onSample (toMsg : Int → Int × Int) (hint : String) (data : List UInt8) :
    Option (Option RosImage) :=
  (extract hint data).map fun taken => taken.bind (publish toMsg)

/-- And of a frame of the core. -/
def bridged (toMsg : Int → Int × Int) (hint : String) (f : CoreFrame) :
    Option (Option RosImage) :=
  f.buffer.toOption.bind (onSample toMsg hint)

/-- The conversion, where the frame needs one, reads no byte past it. -/
def HeaderPump.CoreFrame.ReadInside (f : CoreFrame) : Prop :=
  ∀ fmt, yuvLayout f.format = some fmt → ReadsInside fmt f.pixels.length f.width f.height

/-- The format that a frame has in ROS. -/
def relayedFormat (format : String) : String :=
  if (yuvLayout format).isSome then "RGB"
  else if format = "RGBx" then "RGBA"
  else if format = "BGRx" then "BGRA"
  else format

/-- The bytes that it has there. -/
def relayedPixels (f : CoreFrame) : List UInt8 :=
  match yuvLayout f.format with
  | none => f.pixels
  | some fmt => (fmt.convert f.pixels f.width f.height).join.getD []

/-- The encoding that the bridge names. -/
def rosLabel (hint format : String) : String :=
  if hint ≠ "" ∧ format = "GRAY8" then hint else (rosEncoding format).1

/-! ## A frame on the topic -/

/-- How many bytes a pixel has there. -/
theorem bytesPerPixel_ros : ∀ entry ∈ codeToGst, bytesPerPixel (rosEncoding entry.2).1 =
    if (yuvLayout entry.2).isSome then 3
    else if entry.2 = "GRAY8" then 1
    else if entry.2 ∈ ["GRAY16_LE", "GRAY16_BE"] then 2
    else if entry.2 ∈ ["RGB", "BGR"] then 3
    else 4 := by
  decide +kernel

/-- And what the source takes the encoding for. -/
theorem encodingNew_ros : ∀ entry ∈ codeToGst,
    Encoding.new (rosEncoding entry.2).1 (rosEncoding entry.2).2 =
      some { encoding := (rosEncoding entry.2).1, media := "video/x-raw"
             format := relayedFormat entry.2
             bytesPerPixel := some (bytesPerPixel (rosEncoding entry.2).1) } := by
  decide +kernel

/-- The buffer of a frame. -/
theorem buffer_eq (f : CoreFrame) : ∃ code, (code, f.format) ∈ codeToGst ∧
    f.buffer = .ok ((wireHeader f.stamp.timestampNs f.stamp.frameId f.width f.height code
      f.stamp.source.value).encode ++ f.pixels) := by
  obtain ⟨⟨code, format⟩, hentry, hformat⟩ := List.mem_map.1 f.format_known
  dsimp only at hformat
  rw [hformat] at hentry
  have hpack := pack_eq f.stamp.timestampNs f.stamp.frameId f.width_fits.2 f.height_fits.2
    hentry f.stamp.source.value
  refine ⟨code, hentry, ?_⟩
  rw [CoreFrame.buffer, hpack]
  rfl

/-- What the bridge reads of a frame behind a header. -/
theorem extract_wireHeader (timestampNs frameId : Int) {width height : Nat} (hwidth : width < 65536)
    (hheight : height < 65536) {code : Nat} {format : String}
    (hformat : (code, format) ∈ codeToGst) (tsSource hint : String) (pixels : List UInt8) :
    extract hint
        ((wireHeader timestampNs frameId width height code tsSource).encode ++ pixels) =
      (match yuvLayout format with
        | some fmt => fmt.convert pixels width height
        | none => some (some pixels)).map (Option.map fun data =>
          { data, width, height, encoding := rosLabel hint format
            bigEndian := (rosEncoding format).2, stampNs := (maskU64 timestampNs).toInt64.toInt
            frameId := (maskU64 frameId).toNat }) := by
  have hdecode := WireHeader.decode_encode
    (f := wireHeader timestampNs frameId width height code tsSource) rfl pixels
  have hlen : ((wireHeader timestampNs frameId width height code tsSource).encode ++
      pixels).length = headerSize + pixels.length := by
    rw [List.length_append, WireHeader.length_encode rfl]
  obtain ⟨hw, hh, hcode, -⟩ := toNat_wireHeader timestampNs frameId hwidth hheight hformat tsSource
  obtain ⟨pix, hpix, hyuv, hencoding, hone⟩ := tables_ros _ hformat
  simp only at hpix hyuv hencoding hone
  have hheaderLen : (wireHeader timestampNs frameId width height code tsSource).headerLen.toNat =
      headerSize := rfl
  have hgood : ¬ ((wireHeader timestampNs frameId width height code tsSource).magic ≠ headerMagic ∨
      (wireHeader timestampNs frameId width height code tsSource).version ≠ 1) := by
    rintro (hmagic | hversion)
    · exact hmagic rfl
    · exact hversion rfl
  have hdrop : ((wireHeader timestampNs frameId width height code tsSource).encode ++
      pixels).drop headerSize = pixels := List.drop_left' (WireHeader.length_encode rfl)
  rw [extract, if_neg (by omega)]
  simp only [hdecode, hw, hh, hcode, hheaderLen, hpix, hdrop, if_neg hgood]
  rw [if_neg (by omega), hyuv]
  rw [Prod.mk.injEq] at hencoding
  cases hlayout : yuvLayout format with
  | some fmt =>
      obtain ⟨hrgb, hgrey⟩ := rosEncoding_of_yuvLayout hlayout
      have hlabel : rosLabel hint format = "rgb8" := by
        rw [rosLabel, if_neg fun h => hgrey h.2, hrgb]
      simp only [hlabel, hencoding.2]
      rfl
  | none =>
      simp only [hone, hencoding.1, hencoding.2, rosLabel, Option.map_some]
      rfl

section Published

variable {f : CoreFrame} (hsize : f.pixels.length = bytesPerFrame f.format f.width f.height)
  (hinside : f.ReadInside)
include hsize hinside

/-- A frame that is long enough for its format, and holds its chroma, is converted. -/
theorem converted_eq :
    (match yuvLayout f.format with
      | some fmt => fmt.convert f.pixels f.width f.height
      | none => some (some f.pixels)) = some (some (relayedPixels f)) := by
  unfold relayedPixels
  cases hlayout : yuvLayout f.format with
  | none => rfl
  | some fmt =>
      have henough : fmt.need f.width f.height ≤ f.pixels.length := by
        rw [hsize]
        exact need_le_bytesPerFrame hlayout f.width f.height
      dsimp only
      rw [convert_of_inside f.width_fits.1 f.height_fits.1 henough (hinside fmt hlayout)]
      rfl

/-- The rows of a frame have the length that the message says. -/
theorem length_relayedPixels :
    (relayedPixels f).length = f.width * bytesPerPixel (rosEncoding f.format).1 * f.height := by
  obtain ⟨code, hentry, -⟩ := buffer_eq f
  have hbytes := bytesPerPixel_ros _ hentry
  have hpixels := converted_eq hsize hinside
  dsimp only at hbytes
  rw [hbytes]
  cases hlayout : yuvLayout f.format with
  | some fmt =>
      rw [hlayout] at hpixels
      rw [length_convert hpixels, Option.isSome_some, if_pos rfl]
      ring
  | none =>
      rw [hlayout] at hpixels
      rw [← Option.some.inj (Option.some.inj hpixels), hsize]
      revert hlayout
      simp only [codeToGst, List.mem_cons, Prod.mk.injEq, List.not_mem_nil, or_false] at hentry
      rcases hentry with ⟨-, h⟩ | ⟨-, h⟩ | ⟨-, h⟩ | ⟨-, h⟩ | ⟨-, h⟩ | ⟨-, h⟩ | ⟨-, h⟩ | ⟨-, h⟩ |
        ⟨-, h⟩ | ⟨-, h⟩ | ⟨-, h⟩ | ⟨-, h⟩ | ⟨-, h⟩ | ⟨-, h⟩ | ⟨-, h⟩ <;>
        simp [h, yuvLayout, bytesPerFrame] <;> ring_nf

/-- Every frame is published, under the hint or the name of its format. -/
theorem bridged_eq (toMsg : Int → Int × Int) {hint : String}
    (hhint : hint ≠ "" → f.format = "GRAY8" → bytesPerPixel hint = 1) :
    bridged toMsg hint f = some (some
      { encoding := rosLabel hint f.format, width := f.width, height := f.height
        isBigendian := (rosEncoding f.format).2
        step := f.width * bytesPerPixel (rosLabel hint f.format), data := relayedPixels f
        stamp :=
          stampNs (toMsg (maskU64 f.stamp.timestampNs).toInt64.toInt).1
            (toMsg (maskU64 f.stamp.timestampNs).toInt64.toInt).2 }) := by
  obtain ⟨code, hentry, hbuffer⟩ := buffer_eq f
  have hbytes : bytesPerPixel (rosLabel hint f.format) =
      bytesPerPixel (rosEncoding f.format).1 := by
    unfold rosLabel
    split
    case isTrue hgrey =>
      rw [hhint hgrey.1 hgrey.2, hgrey.2]
      decide
    case isFalse => rfl
  have hwhole : (relayedPixels f).length =
      f.width * bytesPerPixel (rosLabel hint f.format) * f.height := by
    rw [hbytes, length_relayedPixels hsize hinside]
  rw [bridged, hbuffer]
  simp only [Except.toOption, Option.bind_some, onSample]
  rw [extract_wireHeader _ _ f.width_fits.2 f.height_fits.2 hentry, converted_eq hsize hinside]
  simp only [Option.map_some, Option.bind_some, publish]
  rw [if_neg hwhole.ge.not_gt, List.take_of_length_le hwhole.le]

end Published

/-- A capture time that the message can say comes back. -/
theorem stampNs_relayed {toMsg : Int → Int × Int} (h : SplitsTime toMsg) {ns : Int} (hpos : 0 < ns)
    (hlt : ns < 2 ^ 31 * 1000000000) :
    stampNs (toMsg (maskU64 ns).toInt64.toInt).1 (toMsg (maskU64 ns).toInt64.toInt).2 = ns := by
  have hmod : ns % 2 ^ 64 = ns := by omega
  have hsigned : (maskU64 ns).toInt64.toInt = ns := by
    rw [maskU64, hmod]
    have hcast : ((ns.toNat : Nat) : Int) = ns := Int.toNat_of_nonneg hpos.le
    exact (Int64.toInt_ofNat_of_lt (n := ns.toNat) (by omega)).trans hcast
  rw [hsigned, h ns hpos.le hlt, stampNs]
  exact Int.ediv_mul_add_emod ns 1000000000

/-! ## What the next source takes it for -/

theorem bayerPattern_eq {pf : String} (hstart : "Bayer".toList <+: pf.toList)
    (hlength : 7 ≤ pf.toList.length) :
    SensorEnv.bayerPattern pf.toList =
      ((bayerMap (((pf.toList.drop 5).take 2).map Char.toUpper)).map
        (·.name.toList)).getD [] := by
  unfold SensorEnv.bayerPattern
  rw [if_neg (by rintro (hnot | hshort); exacts [hnot hstart, by omega])]
  dsimp only
  generalize ((pf.toList.drop 5).take 2).map Char.toUpper = letters
  unfold bayerMap
  split_ifs <;> simp_all [SensorEnv.bayerLetters, CfaPattern.name, eq_comm]

theorem rosHint_of_plain {pf : String} (h : SensorEnv.bayerPattern pf.toList = []) :
    rosHint pf = "" := by
  rw [rosHint, SensorEnv.rosBayerEncoding, h]
  rfl

theorem rosHint_of_shallow {pf : String} {pattern : CfaPattern}
    (h : SensorEnv.bayerPattern pf.toList = pattern.name.toList) (hshallow : deep pf = false) :
    rosHint pf = "bayer_" ++ pattern.name ++ "8" := by
  have hany : (["16", "12", "10"].any fun t => isIn t (String.ofList pf.toList)) = false := by
    rw [String.ofList_toList]
    simpa [deep, Bool.or_assoc] using hshallow
  have hname : pattern.name.toList ≠ [] := by cases pattern <;> decide
  rw [rosHint, SensorEnv.rosBayerEncoding, h, if_neg hname, hany]
  cases pattern <;> decide

/-- What a pixel format is, to the caps and to the hint. -/
theorem parsePixelFormat_hint (pf : String) :
    ((parsePixelFormat pf).bayer = none ∧ rosHint pf = "") ∨
      ∃ pattern : CfaPattern, (parsePixelFormat pf).bayer = some pattern ∧
        ((parsePixelFormat pf).bits ≤ 8 ∧ (parsePixelFormat pf).gstFormat = "GRAY8" ∧
            rosHint pf = "bayer_" ++ pattern.name ++ "8" ∨
          8 < (parsePixelFormat pf).bits ∧ (parsePixelFormat pf).gstFormat = "GRAY16_LE") := by
  have hplain : ¬ "Bayer".toList <+: pf.toList ∨ pf.toList.length < 7 → rosHint pf = "" :=
    fun hnot => rosHint_of_plain (if_pos hnot)
  by_cases hempty : pf = ""
  · subst hempty
    exact .inl ⟨by decide, by decide⟩
  by_cases hraw : pf ∈ gstRaw
  · have hnot : ∀ format ∈ gstRaw, ¬ "Bayer".toList <+: format.toList := by decide
    exact .inl ⟨(parsePixelFormat_raw hraw).2, hplain (.inl (hnot _ hraw))⟩
  obtain ⟨hgst, hbayer⟩ := parsePixelFormat_mapped hempty hraw
  have hbits : (parsePixelFormat pf).bits = if deep pf then 16 else 8 := by
    unfold parsePixelFormat deep
    rw [if_neg hempty]
    dsimp only
    rw [if_neg (mt (mem_gstRaw_iff pf).2 hraw)]
  by_cases hlong : "Bayer".toList <+: pf.toList ∧ 7 ≤ pf.toList.length
  · rw [if_pos hlong] at hbayer
    have hletters := bayerPattern_eq hlong.1 hlong.2
    cases hpattern : bayerMap (((pf.toList.drop 5).take 2).map Char.toUpper) with
    | none =>
        rw [hpattern] at hletters
        exact .inl ⟨hbayer.trans hpattern, rosHint_of_plain hletters⟩
    | some pattern =>
        rw [hpattern] at hletters
        refine .inr ⟨pattern, hbayer.trans hpattern, ?_⟩
        rw [hbits, hgst]
        cases hdeep : deep pf with
        | true => exact .inr ⟨by decide, rfl⟩
        | false =>
            exact .inl ⟨by decide, rfl, rosHint_of_shallow hletters hdeep⟩
  · rw [if_neg hlong] at hbayer
    refine .inl ⟨hbayer, hplain ?_⟩
    rw [not_and_or, not_le] at hlong
    exact hlong

/-- A mosaic is published under its pattern, and nothing else under a hint. -/
theorem rosHint_of_block {cfg : ShmConfig} {pinned : Pinned} (hblock : OneBlock cfg pinned) :
    (pinned.bayer = none ∧ rosHint cfg.pixelFormat = "") ∨
      ∃ pattern : CfaPattern, pinned.bayer = some pattern ∧ pinned.format = "GRAY8" ∧
        rosHint cfg.pixelFormat = "bayer_" ++ pattern.name ++ "8" := by
  have hpin := (samePin_iff hblock.named hblock.stripped hblock.parsed).2 hblock.shallow
  have hbayer : (parsePixelFormat cfg.pixelFormat).bayer = pinned.bayer := hpin.bayer
  have hformat : (parsePixelFormat cfg.pixelFormat).gstFormat = pinned.format := hpin.format
  rw [← hbayer, ← hformat]
  rcases parsePixelFormat_hint cfg.pixelFormat with hplain | ⟨pattern, hpattern, hgrey | hdeep⟩
  · exact .inl hplain
  · exact .inr ⟨pattern, hpattern, hgrey.2⟩
  · obtain ⟨-, -, hcase⟩ := pinnedNew_cases hblock.named hblock.stripped hblock.parsed
    rw [hpattern] at hbayer
    rcases hcase with ⟨-, -, hnone⟩ | ⟨-, -, -, hgrey, -⟩ | ⟨-, -, hnone, -⟩
    · cases hbayer.trans hnone
    · exact absurd (hdeep.2.symm.trans (hformat.trans hgrey)) (by decide)
    · cases hbayer.trans hnone

/-- A hint for a grey plane is of one byte a pixel. -/
theorem bytesPerPixel_rosHint {pf : String} (hne : rosHint pf ≠ "")
    (hgrey : (parsePixelFormat pf).gstFormat = "GRAY8") : bytesPerPixel (rosHint pf) = 1 := by
  rcases parsePixelFormat_hint pf with ⟨-, hhint⟩ | ⟨pattern, -, ⟨-, -, hhint⟩ | ⟨-, hdeep⟩⟩
  · exact absurd hhint hne
  · rw [hhint]
    cases pattern <;> decide +kernel
  · exact absurd (hgrey.symm.trans hdeep) (by decide)

/-- A mosaic under its name. -/
theorem encodingNew_bayer (pattern : CfaPattern) (isBigendian : Bool) :
    Encoding.new ("bayer_" ++ pattern.name ++ "8") isBigendian =
      some { encoding := "bayer_" ++ pattern.name ++ "8", media := "video/x-bayer"
             format := pattern.name, bytesPerPixel := some 1 } := by
  cases pattern <;> cases isBigendian <;> decide +kernel

/-- The message is the pinned frame just where the bridge has a name for its format. -/
theorem taken_of_block {cfg : ShmConfig} {pinned : Pinned} (hblock : OneBlock cfg pinned)
    (hknown : pinned.format ∈ codeToGst.map Prod.snd) :
    ∃ enc, Encoding.new (rosLabel (rosHint cfg.pixelFormat) pinned.format)
        (rosEncoding pinned.format).2 = some enc ∧
      enc.bytesPerPixel =
        some (bytesPerPixel (rosLabel (rosHint cfg.pixelFormat) pinned.format)) ∧
      (pinned.fits enc pinned.width pinned.height = true ↔
        relayedFormat pinned.format = pinned.format) ∧
      (relayedFormat pinned.format ≠ pinned.format →
        enc.media = "video/x-raw" ∧ enc.format = relayedFormat pinned.format) := by
  obtain ⟨⟨code, format⟩, hentry, hformat⟩ := List.mem_map.1 hknown
  dsimp only at hformat
  rw [hformat] at hentry
  rcases rosHint_of_block hblock with ⟨hbayer, hhint⟩ | ⟨pattern, hbayer, hgrey, hhint⟩
  · have hlabel : rosLabel (rosHint cfg.pixelFormat) pinned.format =
        (rosEncoding pinned.format).1 := by
      rw [rosLabel, if_neg fun h => h.1 hhint]
    have hnew := encodingNew_ros _ hentry
    dsimp only at hnew
    refine ⟨_, by rw [hlabel]; exact hnew, by rw [hlabel], ?_, fun _ => ⟨rfl, rfl⟩⟩
    simp [Pinned.fits, hbayer, Encoding.bayer]
  · have hne : rosHint cfg.pixelFormat ≠ "" := by
      rw [hhint]
      cases pattern <;> decide
    have hlabel : rosLabel (rosHint cfg.pixelFormat) pinned.format =
        "bayer_" ++ pattern.name ++ "8" := by
      rw [rosLabel, if_pos ⟨hne, hgrey⟩, hhint]
    have hone : bytesPerPixel ("bayer_" ++ pattern.name ++ "8") = 1 := by
      have hpin := (samePin_iff hblock.named hblock.stripped hblock.parsed).2 hblock.shallow
      rw [← hhint]
      exact bytesPerPixel_rosHint hne (hpin.format.trans hgrey)
    have hsame : relayedFormat "GRAY8" = "GRAY8" := by decide
    refine ⟨_, by rw [hlabel]; exact encodingNew_bayer pattern _, by rw [hlabel, hone], ?_,
      fun hchanged => absurd (by rw [hgrey, hsame]) hchanged⟩
    simp [Pinned.fits, hbayer, Encoding.bayer, hgrey, hsame]

/-! ## The whole way -/

/-- A frame of the first core, when the source hears of it, and whether its output takes it. -/
structure Heard where
  frame : CoreFrame
  now : Int
  taken : Bool

/-- What the executor calls the feeder with, of frames whose conversion reads inside them. -/
def messages (toMsg : Int → Int × Int) (hint : String) (topic : List Heard) : List FeederEvent :=
  topic.filterMap fun h =>
    (bridged toMsg hint h.frame).join.map fun msg => .image h.now msg h.taken

/-- A frame as the block pins it, of a time that a message can say. -/
structure OfBlock (cfg : ShmConfig) (f : CoreFrame) : Prop where
  format : f.format = cfg.pinned.gstFormat
  width : f.width = cfg.width
  height : f.height = cfg.height
  size : f.pixels.length = bytesPerFrame f.format f.width f.height
  /-- for another frame the bridge does what C++ leaves undefined -/
  inside : f.ReadInside
  after : 0 < f.stamp.timestampNs
  before : f.stamp.timestampNs < 2 ^ 31 * 1000000000

/-- The formats that need no conversion. -/
def Kept (pinned : Pinned) : Prop := relayedFormat pinned.format = pinned.format

instance (pinned : Pinned) : Decidable (Kept pinned) :=
  inferInstanceAs (Decidable (relayedFormat pinned.format = pinned.format))

def Heard.handled (pinned : Pinned) (h : Heard) : Handled :=
  { stamp := h.frame.stamp.timestampNs, payload := relayedPixels h.frame
    direct := decide (Kept pinned) }

/-- What the feeder has done with the frames so far. -/
structure Relaying (pinned : Pinned) (topic : List Heard) (s : Feeder) : Prop where
  alive : s.failed = false
  idle : s.pulled = none
  handled : s.handled = topic.map (Heard.handled pinned)
  emitted : s.emitted = s.out.length
  ids : s.out.map (·.frameId) = (List.range s.out.length).map (· + 1)
  out : s.out.map (fun f => (f.pixels, f.stamp, f.taken)) =
    if Kept pinned then
      topic.map fun h => (relayedPixels h.frame, h.frame.stamp.timestampNs, h.taken)
    else []
  caps : s.cvCaps =
    if Kept pinned ∨ topic = [] then none
    else some (.image "video/x-raw" (relayedFormat pinned.format) pinned.width pinned.height)

theorem relaying_init (pinned : Pinned) : Relaying pinned [] .init where
  alive := rfl
  idle := rfl
  handled := rfl
  emitted := rfl
  ids := rfl
  out := by simp [Feeder.init]
  caps := by simp [Feeder.init]

/-- A kept format is of the frame as it is. -/
theorem relayedPixels_of_kept {f : CoreFrame} (h : relayedFormat f.format = f.format) :
    relayedPixels f = f.pixels := by
  unfold relayedPixels
  cases hlayout : yuvLayout f.format with
  | none => rfl
  | some fmt =>
      have hrgb : f.format = "RGB" := by
        rw [← h, relayedFormat, hlayout]
        rfl
      rw [hrgb] at hlayout
      cases hlayout

/-- Rows that are tightly packed are taken as they are. -/
theorem packed_eq {enc : Encoding} {msg : RosImage} {bpp : Nat}
    (hbpp : enc.bytesPerPixel = some bpp) (hstep : msg.step = msg.width * bpp) :
    Feeder.packed enc msg = msg.data := by
  unfold Feeder.packed
  rw [hbpp]
  dsimp only
  split
  · rfl
  · rw [unpadRows, if_pos (.inl (by rw [hstep, Nat.mul_comm]))]

section Relaying

variable {pinned : Pinned} {topic : List Heard} {s : Feeder} (h : Relaying pinned topic s)
  {x : Heard}
include h

theorem Relaying.pushDirect (hkept : Kept pinned) :
    Relaying pinned (topic ++ [x])
      (s.pushDirect (relayedPixels x.frame) x.frame.stamp.timestampNs x.taken) where
  alive := h.alive
  idle := h.idle
  handled := by
    simp [Feeder.pushDirect, Feeder.emit, h.handled, Heard.handled, hkept]
  emitted := by
    simp [Feeder.pushDirect, Feeder.emit, h.emitted]
  ids := by
    simp [Feeder.pushDirect, Feeder.emit, h.emitted, h.ids, List.range_succ]
  out := by
    have hout := h.out
    rw [if_pos hkept] at hout ⊢
    simp [Feeder.pushDirect, Feeder.emit, hout]
  caps := by
    rw [if_pos (.inl hkept)]
    exact h.caps.trans (if_pos (.inl hkept))

theorem Relaying.pushConvert (hkept : ¬ Kept pinned) :
    Relaying pinned (topic ++ [x])
      ((s.ensureConvert
        (.image "video/x-raw" (relayedFormat pinned.format) pinned.width pinned.height)).pushConvert
          (relayedPixels x.frame) x.frame.stamp.timestampNs x.taken) := by
  have hcaps : (s.ensureConvert (.image "video/x-raw" (relayedFormat pinned.format) pinned.width
      pinned.height)).cvCaps =
        some (.image "video/x-raw" (relayedFormat pinned.format) pinned.width pinned.height) := by
    unfold Feeder.ensureConvert
    split
    case isTrue hsame => exact hsame
    case isFalse => rfl
  have hrest : (s.ensureConvert (.image "video/x-raw" (relayedFormat pinned.format) pinned.width
      pinned.height)) = { s with
        cvCaps :=
          some (.image "video/x-raw" (relayedFormat pinned.format) pinned.width pinned.height)
        inFlight := (s.ensureConvert (.image "video/x-raw" (relayedFormat pinned.format)
          pinned.width pinned.height)).inFlight } := by
    rw [← hcaps]
    unfold Feeder.ensureConvert
    split <;> rfl
  rw [hrest]
  have hout := h.out
  rw [if_neg hkept] at hout
  exact
    { alive := h.alive
      idle := h.idle
      handled := by simp [Feeder.pushConvert, h.handled, Heard.handled, hkept]
      emitted := h.emitted
      ids := h.ids
      out := by rw [if_neg hkept]; exact hout
      caps := by simp [Feeder.pushConvert, hkept] }

/-- A frame more. -/
theorem Relaying.concat {toMsg : Int → Int × Int} (htime : SplitsTime toMsg) {cfg : ShmConfig}
    (hblock : OneBlock cfg pinned) (hx : OfBlock cfg x.frame) :
    ∃ msg s', bridged toMsg (rosHint cfg.pixelFormat) x.frame = some (some msg) ∧
      s.next pinned (.image x.now msg x.taken) = some s' ∧ Relaying pinned (topic ++ [x]) s' := by
  have hpin := (samePin_iff hblock.named hblock.stripped hblock.parsed).2 hblock.shallow
  have hformat : x.frame.format = pinned.format := hx.format.trans hpin.format
  have hwidth : x.frame.width = pinned.width := hx.width.trans hpin.width
  have hheight : x.frame.height = pinned.height := hx.height.trans hpin.height
  have hknown : pinned.format ∈ codeToGst.map Prod.snd := hformat ▸ x.frame.format_known
  obtain ⟨enc, hnew, hbpp, hfits, hchanged⟩ := taken_of_block hblock hknown
  have hbridged := bridged_eq hx.size hx.inside toMsg fun hne hgrey =>
    bytesPerPixel_rosHint hne (hx.format.symm.trans hgrey)
  rw [stampNs_relayed htime hx.after hx.before, hformat, hwidth, hheight] at hbridged
  refine ⟨_, _, hbridged, if_neg (by simp [h.idle]), ?_⟩
  have hpacked : Feeder.packed enc
      { encoding := rosLabel (rosHint cfg.pixelFormat) pinned.format, width := pinned.width
        height := pinned.height, isBigendian := (rosEncoding pinned.format).2
        step := pinned.width * bytesPerPixel (rosLabel (rosHint cfg.pixelFormat) pinned.format)
        data := relayedPixels x.frame, stamp := x.frame.stamp.timestampNs } =
      relayedPixels x.frame := packed_eq hbpp rfl
  have hstamp : Feeder.stampOr x.frame.stamp.timestampNs x.now = x.frame.stamp.timestampNs :=
    if_neg hx.after.not_ge
  unfold Feeder.pushImage
  simp only [h.alive, hnew, hpacked, hstamp, Bool.false_eq_true, if_false]
  split
  case isTrue hfit =>
    have hkept : Kept pinned := hfits.1 hfit
    have hlength : (relayedPixels x.frame).length = pinned.bytes := by
      rw [relayedPixels_of_kept (by rw [hformat]; exact hkept), hx.size, Pinned.bytes,
        frameBytes_eq, hformat, hwidth, hheight]
    rw [if_neg (not_not.2 hlength)]
    exact h.pushDirect hkept
  case isFalse hfit =>
    have hkept : ¬ Kept pinned := mt hfits.2 hfit
    obtain ⟨hmedia, hconverted⟩ := hchanged hkept
    rw [hmedia, hconverted]
    exact h.pushConvert hkept

end Relaying

section Run

variable {toMsg : Int → Int × Int} (htime : SplitsTime toMsg) {cfg : ShmConfig} {pinned : Pinned}
  (hblock : OneBlock cfg pinned)
include htime hblock

theorem relaying_run {topic : List Heard} (htopic : ∀ x ∈ topic, OfBlock cfg x.frame) :
    ∃ s, Machine.exec (Feeder.next pinned) .init
        (messages toMsg (rosHint cfg.pixelFormat) topic) = some s ∧ Relaying pinned topic s := by
  induction topic using List.reverseRecOn with
  | nil => exact ⟨_, rfl, relaying_init pinned⟩
  | append_singleton topic x ih =>
      obtain ⟨s, hrun, h⟩ := ih fun y hy => htopic y (List.mem_append_left _ hy)
      obtain ⟨msg, s', hmsg, hnext, h'⟩ := h.concat htime hblock (htopic x (by simp))
      have hlast : messages toMsg (rosHint cfg.pixelFormat) [x] = [.image x.now msg x.taken] := by
        simp [messages, hmsg]
      refine ⟨s', ?_, h'⟩
      rw [messages, List.filterMap_append, ← messages, ← messages, hlast, Machine.exec_append,
        hrun]
      simp [hnext]

end Run

/-- What the second core makes of the frames that got to it. -/
structure Arrived (cfg : ShmConfig) (frames : List CoreFrame) (t : ShmSource) : Prop where
  noMismatch : t.mismatch = none
  noFault : t.badHeaders = 0
  pixels : t.delivered.map (·.2) = frames.map (·.pixels)
  /-- whatever the first core's times were of, they are of a camera now -/
  told : cfg.framing ≠ .raw → t.delivered.map (fun f => (f.1.timestampNs, f.1.source)) =
    frames.map fun f => (f.stamp.timestampNs, TimestampSource.camera)

/-- What becomes of a stream that is relayed, where the feeder ends as `s`. -/
structure Relayed (cfg : ShmConfig) (pinned : Pinned) (topic : List Heard) (s : Feeder) : Prop where
  /-- every frame gets to the feeder with its capture time, to be converted or not -/
  handled : s.handled.map (fun m => (m.stamp, m.direct)) =
    topic.map fun h => (h.frame.stamp.timestampNs, decide (Kept pinned))
  /-- with its bytes, or the colours that they were converted to -/
  payloads : s.handled.map (·.payload) = topic.map fun h => relayedPixels h.frame
  /-- a kept format is sent as it is -/
  kept : Kept pinned → s.out.map (fun f => (f.pixels, f.stamp, f.taken)) =
    topic.map fun h => (h.frame.pixels, h.frame.stamp.timestampNs, h.taken)
  /-- another is not, and one converter is built for all its frames -/
  converted : ¬ Kept pinned → s.out = [] ∧ (topic ≠ [] → s.cvCaps =
    some (.image "video/x-raw" (relayedFormat pinned.format) pinned.width pinned.height))
  /-- whichever of the frames sent get to the second core, it delivers them -/
  arrived : Kept pinned → topic.length < 2 ^ 64 - 1 → ∀ (sent : List (Heard × FedFrame)) arrivals,
    List.Sublist sent (topic.zip s.out) →
    List.Forall₂ (fun f x => Carries cfg.framing pinned f x.2) (sent.map Prod.snd)
      (samplesOf arrivals) →
    Arrived cfg (sent.map fun p => p.1.frame) (Machine.final (ShmSource.step cfg) .init arrivals)

section Kept

variable {cfg : ShmConfig} {pinned : Pinned} {topic : List Heard} {s : Feeder}
  (h : Relaying pinned topic s) (hblock : OneBlock cfg pinned)
  (htopic : ∀ x ∈ topic, OfBlock cfg x.frame) (hkept : Kept pinned)
include h hblock htopic hkept

/-- Frame by frame. -/
theorem Relaying.forall₂ : List.Forall₂ (fun x f =>
    f.pixels = x.frame.pixels ∧ f.stamp = x.frame.stamp.timestampNs ∧ f.taken = x.taken)
    topic s.out := by
  have hpin := (samePin_iff hblock.named hblock.stripped hblock.parsed).2 hblock.shallow
  have hout := h.out
  rw [if_pos hkept] at hout
  have hpairs : List.Forall₂ Eq (s.out.map fun f => (f.pixels, f.stamp, f.taken))
      (topic.map fun x => (relayedPixels x.frame, x.frame.stamp.timestampNs, x.taken)) := by
    rw [List.forall₂_eq_eq_eq]
    exact hout
  rw [List.forall₂_map_left_iff, List.forall₂_map_right_iff] at hpairs
  replace hpairs := hpairs.flip
  rw [List.forall₂_iff_zip] at hpairs ⊢
  refine ⟨hpairs.1, fun {x f} hmem => ?_⟩
  have hx := htopic x (List.of_mem_zip hmem).1
  have hsame := hpairs.2 hmem
  simp only [Prod.mk.injEq] at hsame
  obtain ⟨hpixels, hstamp, htaken⟩ := hsame
  have hformat : x.frame.format = pinned.format := hx.format.trans hpin.format
  rw [relayedPixels_of_kept (by rw [hformat]; exact hkept)] at hpixels
  exact ⟨hpixels, hstamp, htaken⟩

theorem Relaying.sendable (hcount : topic.length < 2 ^ 64 - 1) {f : FedFrame} (hf : f ∈ s.out) :
    Sendable pinned f := by
  have hpin := (samePin_iff hblock.named hblock.stripped hblock.parsed).2 hblock.shallow
  have hpairs := h.forall₂ hblock htopic hkept
  obtain ⟨x, hx, hpixels, hstamp, -⟩ := ShmSource.exists_left_of_forall₂ hpairs hf
  have hof := htopic x hx
  have hid : f.frameId ∈ (List.range s.out.length).map (· + 1) :=
    h.ids ▸ List.mem_map_of_mem hf
  obtain ⟨i, hi, hid⟩ := List.mem_map.1 hid
  have hlength := hpairs.length_eq
  have hafter := hof.after
  have hbefore := hof.before
  constructor
  case size =>
    rw [hpixels, hof.size, Pinned.bytes, frameBytes_eq, hof.format, hof.width, hof.height,
      hpin.format, hpin.width, hpin.height]
  case id =>
    rw [List.mem_range] at hi
    omega
  case positive => rwa [hstamp]
  case stamp => rw [hstamp]; omega

end Kept

/-- A split of any time. -/
def splitNs (ns : Int) : Int × Int := (ns / 1000000000, ns % 1000000000)

theorem splitsTime_splitNs : SplitsTime splitNs := fun _ _ _ => rfl

/-- The block of a mosaic of one tile. -/
def oneTileBlock : ShmConfig :=
  { pixelFormat := "BayerRG8", width := 2, height := 2, framing := .unixfd, reconnect := true }

def oneTilePinned : Pinned :=
  { pixelFormat := "BayerRG8", width := 2, height := 2, format := "GRAY8", bayer := some .rggb }

def oneTile : CoreFrame :=
  { stamp := plainStamp 1000000000, width := 2, height := 2, format := "GRAY8"
    pixels := [10, 20, 30, 40], width_fits := by decide, height_fits := by decide
    format_known := HeaderPump.onePixel.format_known, pixels_ne := by decide }

theorem readInside_oneTile : oneTile.ReadInside := by rintro fmt ⟨⟩

/-- Two frames of it, one of which the output of the source refuses. -/
def oneTileTopic : List Heard :=
  [{ frame := oneTile, now := 7, taken := true }, { frame := oneTile, now := 8, taken := false }]

end CamDriver
