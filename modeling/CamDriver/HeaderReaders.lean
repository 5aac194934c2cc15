import CamDriver.Transport
import CamDriver.YuvToRgb

/-!
# CamDriver.HeaderReaders

The three readers of a headered frame: the core's shared-memory source, the WebRTC bridge,
and the ROS 2 bridge.

The bridges take the pixels from `header_len`, the core from the size it knows.  The ROS 2
bridge converts the formats ROS has no name for, and reads the timestamp as a signed number.
-/

namespace CamDriver

/-! ## The core: `ShmSource` -/

/-- What the `shm:` block of the config pins. -/
structure PinnedFormat where
  gstFormat : String
  width : Nat
  height : Nat
deriving DecidableEq, Repr

/-- `_expected`. -/
def PinnedFormat.expected (pinned : PinnedFormat) : Nat :=
  bytesPerFrame pinned.gstFormat pinned.width pinned.height

/-- What becomes of a buffer. -/
inductive ShmTaken where
  | dropped (fault : HeaderFault)
  /-- the config does not fit, which ends the source -/
  | mismatch (what : String)
  | frame (stamp : FrameStamp) (pixels : List UInt8)
deriving DecidableEq, Repr

/-- `_on_raw`, with `framing: header`. -/
def onRaw (pinned : PinnedFormat) (now : Int) (data : List UInt8) : ShmTaken :=
  match unpackHeader data with
  | .error fault => .dropped fault
  | .ok hdr =>
    let geometry := toString pinned.width ++ "x" ++ toString pinned.height
    if (hdr.width, hdr.height) ≠ ((pinned.width : Int), (pinned.height : Int)) ∨
        hdr.pixfmt ≠ pinned.gstFormat then
      .mismatch ("the writer sends " ++ hdr.pixfmt ++ " " ++ toString hdr.width ++ "x" ++
        toString hdr.height ++ ", config pins " ++ pinned.gstFormat ++ " " ++ geometry)
    else
      let pixels := data.drop headerSize
      if pixels.length ≠ pinned.expected then
        .mismatch ("a header frame carries " ++ toString pixels.length ++ " pixel bytes, " ++
          pinned.gstFormat ++ " " ++ geometry ++ " is " ++ toString pinned.expected)
      else
        .frame
          { frameId := hdr.frameId, timestampNs := hdr.timestampNs
            source := (TimestampSource.ofValue hdr.tsSource).getD .system, systemNs := now
            cameraNs := hdr.timestampNs, chunkNs := none }
          pixels

/-! ## The ROS 2 bridge: `CamHeaderBridge` -/

structure PixInfo where
  encoding : String
  bytesPerPx : Nat
  bigEndian : Bool
  yuv : Option Yuv
deriving DecidableEq, Repr

/-- `pixfmt_info`. -/
def pixfmtInfo : Nat → Option PixInfo
  | 1 => some ⟨"mono8", 1, false, none⟩
  | 2 => some ⟨"mono16", 2, false, none⟩
  | 3 => some ⟨"mono16", 2, true, none⟩
  | 4 => some ⟨"rgb8", 3, false, some .i420⟩
  | 5 => some ⟨"rgb8", 3, false, some .nv12⟩
  | 6 => some ⟨"rgb8", 3, false, some .yuy2⟩
  | 7 => some ⟨"rgb8", 3, false, none⟩
  | 8 => some ⟨"bgr8", 3, false, none⟩
  | 9 => some ⟨"rgb8", 3, false, some .nv24⟩
  | 10 => some ⟨"rgb8", 3, false, some .yv12⟩
  | 11 => some ⟨"rgb8", 3, false, some .uyvy⟩
  | 12 | 14 => some ⟨"rgba8", 4, false, none⟩
  | 13 | 15 => some ⟨"bgra8", 4, false, none⟩
  | _ => none

/-- What the bridge publishes of a frame. -/
structure FrameMeta where
  data : List UInt8
  width : Nat
  height : Nat
  encoding : String
  bigEndian : Bool
  stampNs : Int
  frameId : Nat
deriving DecidableEq, Repr

/-- `CamHeaderBridge::extract`; `encoding` is the hint of the bridge's config.  `none`: the
conversion reads past the buffer; `some none`: the buffer is dropped. -/
def extract (encoding : String) (data : List UInt8) : Option (Option FrameMeta) :=
  if data.length < headerSize then some none
  else
    let hdr := WireHeader.decode data
    if hdr.magic ≠ headerMagic ∨ hdr.version ≠ 1 then some none
    else if hdr.headerLen.toNat < headerSize ∨ data.length < hdr.headerLen.toNat then some none
    else
      match pixfmtInfo hdr.pixfmt.toNat with
      | none => some none
      | some pix =>
        let src := data.drop hdr.headerLen.toNat
        let out := fun data encoding =>
          ({ data, width := hdr.width.toNat, height := hdr.height.toNat, encoding
             bigEndian := pix.bigEndian, stampNs := hdr.timestampNs.toInt64.toInt
             frameId := hdr.frameId.toNat } : FrameMeta)
        match pix.yuv with
        | some fmt =>
          (fmt.convert src hdr.width.toNat hdr.height.toNat).map
            (Option.map fun rgb => out rgb "rgb8")
        | none =>
          let label := if encoding ≠ "" ∧ pix.bytesPerPx = 1 then encoding else pix.encoding
          some (some (out src label))

/-! ## One format, three tables -/

/-- The `sensor_msgs` encoding that a format is published under, and its byte order. -/
def rosEncoding (format : String) : String × Bool :=
  if format = "GRAY8" then ("mono8", false)
  else if format = "GRAY16_LE" then ("mono16", false)
  else if format = "GRAY16_BE" then ("mono16", true)
  else if format = "BGR" then ("bgr8", false)
  else if format ∈ ["RGBA", "RGBx"] then ("rgba8", false)
  else if format ∈ ["BGRA", "BGRx"] then ("bgra8", false)
  else ("rgb8", false)

/-- The layout of a format that is converted. -/
def yuvLayout (format : String) : Option Yuv :=
  [("I420", Yuv.i420), ("NV12", .nv12), ("YUY2", .yuy2), ("UYVY", .uyvy), ("YV12", .yv12),
    ("NV24", .nv24)].lookup format

/-- What the switch of the bridge says of a format the core knows. -/
theorem tables_ros : ∀ entry ∈ codeToGst, ∃ pix, pixfmtInfo entry.1 = some pix ∧
    pix.yuv = yuvLayout entry.2 ∧ (pix.encoding, pix.bigEndian) = rosEncoding entry.2 ∧
      (pix.bytesPerPx = 1 ↔ entry.2 = "GRAY8") := by
  intro entry hentry
  simp only [codeToGst, List.mem_cons, List.not_mem_nil, or_false] at hentry
  rcases hentry with rfl | rfl | rfl | rfl | rfl | rfl | rfl | rfl | rfl | rfl | rfl | rfl | rfl |
    rfl | rfl <;>
    exact ⟨_, rfl, by decide, by decide, by decide⟩

theorem mem_codeToGst {code : Nat} {format : String} (h : codeToGst.lookup code = some format) :
    (code, format) ∈ codeToGst := by
  obtain ⟨before, after, heq, -⟩ := List.lookup_eq_some_iff.mp h
  rw [heq]
  exact List.mem_append_right before List.mem_cons_self

/-- The layouts that are converted, one by one. -/
theorem yuvLayout_cases {format : String} {fmt : Yuv} (h : yuvLayout format = some fmt) :
    (format, fmt) ∈ [("I420", Yuv.i420), ("NV12", .nv12), ("YUY2", .yuy2), ("UYVY", .uyvy),
      ("YV12", .yv12), ("NV24", .nv24)] := by
  obtain ⟨before, after, heq, -⟩ := List.lookup_eq_some_iff.mp h
  rw [heq]
  exact List.mem_append_right before List.mem_cons_self

/-- All of them are published as RGB. -/
theorem rosEncoding_of_yuvLayout {format : String} {fmt : Yuv} (h : yuvLayout format = some fmt) :
    (rosEncoding format).1 = "rgb8" ∧ format ≠ "GRAY8" := by
  have hall : ∀ entry ∈ [("I420", Yuv.i420), ("NV12", .nv12), ("YUY2", .yuy2), ("UYVY", .uyvy),
      ("YV12", .yv12), ("NV24", .nv24)],
      (rosEncoding entry.1).1 = "rgb8" ∧ entry.1 ≠ "GRAY8" := by
    decide
  exact hall _ (yuvLayout_cases h)

/-- A packed frame is enough for the conversion. -/
theorem need_le_bytesPerFrame {format : String} {fmt : Yuv} (h : yuvLayout format = some fmt)
    (w hgt : Nat) : fmt.need w hgt ≤ bytesPerFrame format w hgt := by
  have hchroma : 4 * (w / 2 * (hgt / 2)) ≤ w * hgt := by
    calc 4 * (w / 2 * (hgt / 2)) = (w / 2 * 2) * (hgt / 2 * 2) := by ring
      _ ≤ w * hgt := Nat.mul_le_mul (Nat.div_mul_le_self w 2) (Nat.div_mul_le_self hgt 2)
  have hmem := yuvLayout_cases h
  simp only [List.mem_cons, Prod.mk.injEq, List.not_mem_nil, or_false] at hmem
  have hassoc : 2 * (w / 2) * (hgt / 2) = 2 * (w / 2 * (hgt / 2)) := Nat.mul_assoc ..
  rcases hmem with ⟨rfl, rfl⟩ | ⟨rfl, rfl⟩ | ⟨rfl, rfl⟩ | ⟨rfl, rfl⟩ | ⟨rfl, rfl⟩ | ⟨rfl, rfl⟩ <;>
    simp [Yuv.need, bytesPerFrame, hassoc] <;> omega

/-! ## The same frame -/

/-- Of a frame that the ROS 2 bridge converts, the conversion reads no byte past the end: of every
even geometry, and of some odd ones. -/
def PinnedFormat.ReadInside (pinned : PinnedFormat) : Prop :=
  ∀ fmt, yuvLayout pinned.gstFormat = some fmt →
    ReadsInside fmt pinned.expected pinned.width pinned.height

theorem readInside_of_even {pinned : PinnedFormat} (hw : 0 < pinned.width) (hh : 0 < pinned.height)
    (hweven : Even pinned.width) (hheven : Even pinned.height) (hint : pinned.width ≤ 2 ^ 30) :
    pinned.ReadInside := by
  intro fmt hlayout
  have hneed := need_le_bytesPerFrame hlayout pinned.width pinned.height
  exact readsInside_of_covers hw hh hneed (Yuv.covers_of_even hweven hheven hint hneed)

/-- A buffer of the pinned format, as long as its header says. -/
structure FramedFor (pinned : PinnedFormat) (data : List UInt8) : Prop where
  format : codeToGst.lookup (WireHeader.decode data).pixfmt.toNat = some pinned.gstFormat
  width : (WireHeader.decode data).width.toNat = pinned.width
  height : (WireHeader.decode data).height.toNat = pinned.height
  size : data.length = (WireHeader.decode data).headerLen.toNat + pinned.expected

/-- What the readers make of a frame: the core a stamp and pixels, the WebRTC bridge a
description, the ROS 2 bridge an image. -/
structure SameFrame (pinned : PinnedFormat) (encoding : String) (data : List UInt8)
    (stamp : FrameStamp) (pixels : List UInt8) (info : FrameInfo) (ros : FrameMeta) : Prop where
  timestamp : stamp.timestampNs = info.timestampNs
  /-- the ROS 2 bridge reads the same 64 bits as a signed number -/
  rosTimestamp : ros.stampNs = (UInt64.ofNat info.timestampNs).toInt64.toInt
  frameId : stamp.frameId = info.frameId ∧ ros.frameId = info.frameId
  geometry : (info.width, info.height) = (pinned.width, pinned.height) ∧
    (ros.width, ros.height) = (pinned.width, pinned.height)
  format : info.pixfmt = pinned.gstFormat
  /-- a grey plane takes the encoding of the config, where it has one -/
  rosFormat : ros.bigEndian = (rosEncoding info.pixfmt).2 ∧
    ros.encoding =
      if encoding ≠ "" ∧ info.pixfmt = "GRAY8" then encoding else (rosEncoding info.pixfmt).1
  bridgePixels : data.drop info.headerLen = pixels
  /-- a layout without an encoding is converted, from the same bytes; where it has chroma for
  every block, each pixel has its own colour -/
  rosPixels : match yuvLayout info.pixfmt with
    | none => ros.data = pixels
    | some fmt => fmt.convert pixels info.width info.height = some (some ros.data) ∧
        (fmt.Covers pixels.length info.width info.height →
          ros.data =
            (Grid.grid info.height info.width
              (fmt.pixelColour pixels info.width info.height)).flatten)

/-- No reader takes the buffer, or all three take it, and for the same frame. -/
def ReadersAgree (pinned : PinnedFormat) (now : Int) (encoding : String) (data : List UInt8) :
    Prop :=
  (¬ ∃ stamp pixels, onRaw pinned now data = .frame stamp pixels) ∧
      (∃ fault, parseHeader data = .error fault) ∧ extract encoding data = some none ∨
    ∃ stamp pixels info ros, onRaw pinned now data = .frame stamp pixels ∧
      parseHeader data = .ok info ∧ extract encoding data = some (some ros) ∧
        SameFrame pinned encoding data stamp pixels info ros

/-- A buffer that fails a check all three make. -/
theorem readersAgree_of_rejected (pinned : PinnedFormat) (now : Int) (encoding : String)
    {data : List UInt8}
    (h : data.length < headerSize ∨ (WireHeader.decode data).magic ≠ headerMagic ∨
      (WireHeader.decode data).version ≠ 1) : ReadersAgree pinned now encoding data := by
  left
  by_cases hshort : data.length < headerSize
  · refine ⟨?_, ⟨.tooSmall data.length, by rw [parseHeader, if_pos hshort]⟩,
      by rw [extract, if_pos hshort]⟩
    rintro ⟨stamp, pixels, htaken⟩
    rw [onRaw, unpackHeader, if_pos hshort] at htaken
    cases htaken
  · by_cases hmagic : (WireHeader.decode data).magic ≠ headerMagic
    · refine ⟨?_, ⟨.magic (WireHeader.decode data).magic, ?_⟩, ?_⟩
      · rintro ⟨stamp, pixels, htaken⟩
        rw [onRaw, unpackHeader, if_neg hshort] at htaken
        simp only [if_pos hmagic] at htaken
        cases htaken
      · rw [parseHeader, if_neg hshort]
        simp only [if_pos hmagic]
      · rw [extract, if_neg hshort]
        simp only [if_pos (Or.inl hmagic)]
    · have hversion := (h.resolve_left hshort).resolve_left hmagic
      refine ⟨?_, ⟨.version (WireHeader.decode data).version.toNat, ?_⟩, ?_⟩
      · rintro ⟨stamp, pixels, htaken⟩
        rw [onRaw, unpackHeader, if_neg hshort] at htaken
        simp only [if_neg hmagic, if_pos hversion] at htaken
        cases htaken
      · rw [parseHeader, if_neg hshort]
        simp only [if_neg hmagic, if_pos hversion]
      · rw [extract, if_neg hshort]
        simp only [if_pos (Or.inr hversion)]

section Accepted

variable {pinned : PinnedFormat} {data : List UInt8} (hfits : FramedFor pinned data)
  (hlong : ¬ data.length < headerSize)
  (hmagic : (WireHeader.decode data).magic = headerMagic)
  (hversion : (WireHeader.decode data).version = 1)
include hfits hlong hmagic hversion

/-- The core goes by the size of the frame. -/
theorem onRaw_of_framed (now : Int) :
    if (WireHeader.decode data).headerLen.toNat = headerSize then
      onRaw pinned now data = .frame
        { frameId := (WireHeader.decode data).frameId.toNat
          timestampNs := (WireHeader.decode data).timestampNs.toNat
          source := (TimestampSource.ofValue ((tsSourceName.lookup
            (WireHeader.decode data).tsSource.toNat).getD "camera")).getD .system
          systemNs := now, cameraNs := (WireHeader.decode data).timestampNs.toNat
          chunkNs := none }
        (data.drop headerSize)
    else ¬ ∃ stamp pixels, onRaw pinned now data = .frame stamp pixels := by
  have hsize : (data.drop headerSize).length = pinned.expected ↔
      (WireHeader.decode data).headerLen.toNat = headerSize := by
    rw [List.length_drop, hfits.size]
    have hsize := hfits.size
    omega
  have hunpack : unpackHeader data =
      .ok { timestampNs := (WireHeader.decode data).timestampNs.toNat
            frameId := (WireHeader.decode data).frameId.toNat
            width := pinned.width, height := pinned.height, pixfmt := pinned.gstFormat
            tsSource := (tsSourceName.lookup
              (WireHeader.decode data).tsSource.toNat).getD "camera"
            flags := (WireHeader.decode data).flags.toNat
            version := (WireHeader.decode data).version.toNat } := by
    rw [unpackHeader, if_neg hlong]
    simp only [hfits.format, hfits.width, hfits.height]
    rw [if_neg (not_not.mpr hmagic), if_neg (not_not.mpr hversion)]
  rw [onRaw, hunpack]
  simp only [ne_eq, not_true_eq_false, or_self, if_false]
  split
  · next heq => rw [if_neg (not_not.mpr (hsize.mpr heq))]
  · next hne =>
      rintro ⟨stamp, pixels, htaken⟩
      rw [if_pos (mt hsize.mp hne)] at htaken
      cases htaken

/-- The WebRTC bridge goes by the header. -/
theorem parseHeader_of_framed (hw : pinned.width ≠ 0) (hh : pinned.height ≠ 0) :
    if headerSize ≤ (WireHeader.decode data).headerLen.toNat then
      parseHeader data =
        .ok { timestampNs := (WireHeader.decode data).timestampNs.toNat
              frameId := (WireHeader.decode data).frameId.toNat
              width := pinned.width, height := pinned.height, pixfmt := pinned.gstFormat
              tsSource := (bridgeTsSourceName.lookup (WireHeader.decode data).tsSource.toNat).getD
                (toString (WireHeader.decode data).tsSource.toNat)
              headerLen := (WireHeader.decode data).headerLen.toNat }
    else ∃ fault, parseHeader data = .error fault := by
  have hsize := hfits.size
  have hgeometry : ¬ ((WireHeader.decode data).width = 0 ∨
      (WireHeader.decode data).height = 0) := by
    rintro (hzero | hzero)
    · exact hw (by rw [← hfits.width, hzero]; rfl)
    · exact hh (by rw [← hfits.height, hzero]; rfl)
  have hformat : bridgeCodeToGst.lookup (WireHeader.decode data).pixfmt.toNat =
      some pinned.gstFormat := hfits.format
  rw [parseHeader, if_neg hlong]
  simp only [hformat, hfits.width, hfits.height]
  rw [if_neg (not_not.mpr hmagic), if_neg (not_not.mpr hversion), if_neg hgeometry]
  split
  · next hle => rw [if_neg (by omega)]
  · next hlt => exact ⟨_, if_pos (.inl (Nat.not_le.mp hlt))⟩

/-- So does the ROS 2 bridge, where its conversion finds the chroma in the frame. -/
theorem extract_of_framed (hw : pinned.width ≠ 0) (hh : pinned.height ≠ 0)
    (hinside : pinned.ReadInside) (encoding : String) :
    if headerSize ≤ (WireHeader.decode data).headerLen.toNat then
      ∃ ros, extract encoding data = some (some ros) ∧
        ros.stampNs = (WireHeader.decode data).timestampNs.toInt64.toInt ∧
        ros.frameId = (WireHeader.decode data).frameId.toNat ∧
        (ros.width, ros.height) = (pinned.width, pinned.height) ∧
        ros.bigEndian = (rosEncoding pinned.gstFormat).2 ∧
        (ros.encoding = if encoding ≠ "" ∧ pinned.gstFormat = "GRAY8" then encoding
          else (rosEncoding pinned.gstFormat).1) ∧
        match yuvLayout pinned.gstFormat with
        | none => ros.data = data.drop (WireHeader.decode data).headerLen.toNat
        | some fmt => fmt.convert (data.drop (WireHeader.decode data).headerLen.toNat)
            pinned.width pinned.height = some (some ros.data)
    else extract encoding data = some none := by
  have hsize := hfits.size
  obtain ⟨pix, hpix, hyuv, hencoding, hbytes⟩ := tables_ros _ (mem_codeToGst hfits.format)
  simp only at hyuv hencoding hbytes
  have hgood : ¬ ((WireHeader.decode data).magic ≠ headerMagic ∨
      (WireHeader.decode data).version ≠ 1) := by
    rintro (hbad | hbad)
    · exact hbad hmagic
    · exact hbad hversion
  rw [extract, if_neg hlong]
  simp only [hpix, hfits.width, hfits.height, if_neg hgood]
  split
  · next hle =>
      rw [if_neg (by omega)]
      cases hlayout : yuvLayout pinned.gstFormat with
      | none =>
          rw [hlayout] at hyuv
          simp only [hyuv, hbytes]
          refine ⟨_, rfl, rfl, rfl, rfl, congrArg Prod.snd hencoding, ?_, rfl⟩
          rw [← congrArg Prod.fst hencoding]
      | some fmt =>
          rw [hlayout] at hyuv
          obtain ⟨hrgb, hgrey⟩ := rosEncoding_of_yuvLayout hlayout
          have hpixels : (data.drop (WireHeader.decode data).headerLen.toNat).length =
              pinned.expected := by
            rw [List.length_drop, hsize, Nat.add_sub_cancel_left]
          have hneed : fmt.need pinned.width pinned.height ≤
              (data.drop (WireHeader.decode data).headerLen.toNat).length := by
            rw [hpixels]
            exact need_le_bytesPerFrame hlayout pinned.width pinned.height
          have hconverts := convert_of_inside (Nat.pos_of_ne_zero hw) (Nat.pos_of_ne_zero hh)
            hneed (by rw [hpixels]; exact hinside fmt hlayout)
          simp only [hyuv, hconverts, Option.map_some]
          refine ⟨_, rfl, rfl, rfl, rfl, congrArg Prod.snd hencoding, ?_, rfl⟩
          rw [if_neg fun hhint => hgrey hhint.2, hrgb]
  · next hlt => rw [if_pos (.inl (Nat.not_le.mp hlt))]

end Accepted

/-- **The readers agree** on every buffer whose header is no longer than the core's and names a
geometry of which the conversion of the ROS 2 bridge reads no byte past the frame. -/
theorem readers_agree {pinned : PinnedFormat} {data : List UInt8} (hfits : FramedFor pinned data)
    (hlen : (WireHeader.decode data).headerLen.toNat ≤ headerSize) (hw : pinned.width ≠ 0)
    (hh : pinned.height ≠ 0) (hinside : pinned.ReadInside) (now : Int) (encoding : String) :
    ReadersAgree pinned now encoding data := by
  by_cases hbad : data.length < headerSize ∨ (WireHeader.decode data).magic ≠ headerMagic ∨
      (WireHeader.decode data).version ≠ 1
  · exact readersAgree_of_rejected pinned now encoding hbad
  · have hlong : ¬ data.length < headerSize := fun hshort => hbad (.inl hshort)
    have hmagic : (WireHeader.decode data).magic = headerMagic := by
      by_contra hmagic
      exact hbad (.inr (.inl hmagic))
    have hversion : (WireHeader.decode data).version = 1 := by
      by_contra hversion
      exact hbad (.inr (.inr hversion))
    have hcore := onRaw_of_framed hfits hlong hmagic hversion now
    have hbridge := parseHeader_of_framed hfits hlong hmagic hversion hw hh
    have hros := extract_of_framed hfits hlong hmagic hversion hw hh hinside encoding
    by_cases heq : (WireHeader.decode data).headerLen.toNat = headerSize
    · rw [if_pos heq] at hcore
      rw [if_pos heq.ge] at hbridge hros
      obtain ⟨ros, htaken, hstamp, hid, hgeometry, hendian, hencoding, hpixels⟩ := hros
      rw [heq] at hpixels
      have hsize : (data.drop headerSize).length = pinned.expected := by
        rw [List.length_drop, hfits.size, heq, Nat.add_sub_cancel_left]
      right
      refine ⟨_, _, _, ros, hcore, hbridge, htaken, ?_⟩
      exact {
        timestamp := rfl
        rosTimestamp := by rw [hstamp, UInt64.ofNat_toNat]
        frameId := ⟨rfl, hid⟩
        geometry := ⟨rfl, hgeometry⟩
        format := rfl
        rosFormat := ⟨hendian, hencoding⟩
        bridgePixels := by rw [heq]
        rosPixels := by
          dsimp only
          cases hlayout : yuvLayout pinned.gstFormat with
          | none =>
              rw [hlayout] at hpixels
              exact hpixels
          | some fmt =>
              rw [hlayout] at hpixels
              refine ⟨hpixels, fun hcovers => ?_⟩
              have hneed := need_le_bytesPerFrame hlayout pinned.width pinned.height
              have hcolours := convert_of_covers (Nat.pos_of_ne_zero hw) (Nat.pos_of_ne_zero hh)
                (by rw [hsize]; exact hneed) hcovers
              exact Option.some.inj (Option.some.inj (hpixels.symm.trans hcolours)) }
    · rw [if_neg heq] at hcore
      rw [if_neg (by omega)] at hbridge hros
      exact .inl ⟨hcore, hbridge, hros⟩

/-- The claim without its conditions: no reader takes the buffer, or all three take the same
number and the same bytes. -/
def ReadersAgreeExactly (pinned : PinnedFormat) (now : Int) (encoding : String)
    (data : List UInt8) : Prop :=
  (¬ ∃ stamp pixels, onRaw pinned now data = .frame stamp pixels) ∧
      (∃ fault, parseHeader data = .error fault) ∧ extract encoding data = some none ∨
    ∃ stamp pixels info ros, onRaw pinned now data = .frame stamp pixels ∧
      parseHeader data = .ok info ∧ extract encoding data = some (some ros) ∧
        ros.stampNs = info.timestampNs ∧ ros.data = pixels

/-- A header of the core, as a writer of another version might lengthen it. -/
def headerOf (timestampNs : Int) (width height code headerLen : Nat) : List UInt8 :=
  WireHeader.encode
    { wireHeader timestampNs 7 width height code "camera" with
      headerLen := UInt16.ofNat headerLen }

/-- Two grey pixels, and a block in colour. -/
theorem readers_agree_greyFrame :
    ReadersAgree ⟨"GRAY8", 2, 1⟩ 0 "bayer_rggb8" (headerOf 5 2 1 1 36 ++ [10, 20]) ∧
      ReadersAgree ⟨"NV12", 2, 2⟩ 0 ""
        (headerOf 5 2 2 5 36 ++ [10, 20, 30, 40, 128, 128]) :=
  ⟨readers_agree ⟨by decide, by decide, by decide, by decide⟩ (by decide) (by decide) (by decide)
      (by rintro fmt ⟨⟩) 0 "bayer_rggb8",
    readers_agree ⟨by decide, by decide, by decide, by decide⟩ (by decide) (by decide) (by decide)
      (readInside_of_even (by decide) (by decide) (by decide) (by decide) (by decide)) 0 ""⟩

/-- The readers do not agree: on a longer header, on an empty geometry, on a timestamp that
fills its 64 bits, on the bytes of a layout that one of them converts, and on an odd geometry of
which the conversion reads past the frame. -/
theorem not_readersAgreeExactly :
    FramedFor ⟨"GRAY8", 1, 1⟩ (headerOf 5 1 1 1 37 ++ [0, 10]) ∧
      ¬ ReadersAgreeExactly ⟨"GRAY8", 1, 1⟩ 0 "" (headerOf 5 1 1 1 37 ++ [0, 10]) ∧
    FramedFor ⟨"GRAY8", 0, 1⟩ (headerOf 5 0 1 1 36) ∧
      ¬ ReadersAgreeExactly ⟨"GRAY8", 0, 1⟩ 0 "" (headerOf 5 0 1 1 36) ∧
    FramedFor ⟨"GRAY8", 1, 1⟩ (headerOf (-1) 1 1 1 36 ++ [10]) ∧
      ¬ ReadersAgreeExactly ⟨"GRAY8", 1, 1⟩ 0 "" (headerOf (-1) 1 1 1 36 ++ [10]) ∧
    FramedFor ⟨"NV24", 1, 1⟩ (headerOf 5 1 1 9 36 ++ [10, 128, 128]) ∧
      ¬ ReadersAgreeExactly ⟨"NV24", 1, 1⟩ 0 "" (headerOf 5 1 1 9 36 ++ [10, 128, 128]) ∧
    FramedFor ⟨"NV12", 3, 3⟩ (headerOf 5 3 3 5 36 ++ List.replicate 13 128) ∧
      extract "" (headerOf 5 3 3 5 36 ++ List.replicate 13 128) = none ∧
      ¬ ReadersAgreeExactly ⟨"NV12", 3, 3⟩ 0 ""
        (headerOf 5 3 3 5 36 ++ List.replicate 13 128) := by
  have hpast : extract "" (headerOf 5 3 3 5 36 ++ List.replicate 13 128) = none := by rfl
  refine ⟨⟨by decide, by decide, by decide, by decide⟩, ?_,
    ⟨by decide, by decide, by decide, by decide⟩, ?_,
    ⟨by decide, by decide, by decide, by decide⟩, ?_,
    ⟨by decide, by decide, by decide, by decide⟩, ?_,
    ⟨by decide, by decide, by decide, by decide⟩, hpast, ?_⟩
  · rintro (⟨-, ⟨fault, hfault⟩, -⟩ | ⟨stamp, pixels, info, ros, hcore, -⟩)
    · have htaken : ∃ info, parseHeader (headerOf 5 1 1 1 37 ++ [0, 10]) = .ok info := ⟨_, rfl⟩
      obtain ⟨info, htaken⟩ := htaken
      rw [htaken] at hfault
      cases hfault
    · have hmismatch : ∃ what, onRaw ⟨"GRAY8", 1, 1⟩ 0 (headerOf 5 1 1 1 37 ++ [0, 10]) =
          .mismatch what := ⟨_, rfl⟩
      obtain ⟨what, hmismatch⟩ := hmismatch
      rw [hmismatch] at hcore
      cases hcore
  · rintro (⟨hcore, -⟩ | ⟨stamp, pixels, info, ros, -, hparse, -⟩)
    · exact hcore ⟨_, _, rfl⟩
    · have hfault : parseHeader (headerOf 5 0 1 1 36) = .error (.geometry 0 1) := rfl
      rw [hfault] at hparse
      cases hparse
  · rintro (⟨hcore, -⟩ | ⟨stamp, pixels, info, ros, -, hparse, hextract, hstamp, -⟩)
    · exact hcore ⟨_, _, rfl⟩
    · have hbridge : (parseHeader (headerOf (-1) 1 1 1 36 ++ [10])).map FrameInfo.timestampNs =
          .ok (2 ^ 64 - 1) := rfl
      have hros : (extract "" (headerOf (-1) 1 1 1 36 ++ [10])).map (Option.map FrameMeta.stampNs) =
          some (some (-1)) := rfl
      rw [hparse] at hbridge
      have hbridge : info.timestampNs = 2 ^ 64 - 1 := Except.ok.inj hbridge
      rw [hextract, Option.map_some, Option.map_some, Option.some.injEq, Option.some.injEq, hstamp,
        hbridge] at hros
      cases hros
  · rintro (⟨hcore, -⟩ | ⟨stamp, pixels, info, ros, hcore, -, hextract, -, hpixels⟩)
    · exact hcore ⟨_, _, rfl⟩
    · have hros : (extract "" (headerOf 5 1 1 9 36 ++ [10, 128, 128])).map
          (Option.map FrameMeta.data) = some (some [10, 10, 10]) := rfl
      have htaken : ∃ stamp, onRaw ⟨"NV24", 1, 1⟩ 0 (headerOf 5 1 1 9 36 ++ [10, 128, 128]) =
          .frame stamp [10, 128, 128] := ⟨_, rfl⟩
      obtain ⟨stamp', htaken⟩ := htaken
      rw [htaken, ShmTaken.frame.injEq] at hcore
      rw [hextract, Option.map_some, Option.map_some, Option.some.injEq, Option.some.injEq, hpixels,
        ← hcore.2] at hros
      revert hros
      decide
  · rintro (⟨-, -, hdropped⟩ | ⟨stamp, pixels, info, ros, -, -, htaken, -⟩)
    · rw [hpast] at hdropped
      cases hdropped
    · rw [hpast] at htaken
      cases htaken

end CamDriver
