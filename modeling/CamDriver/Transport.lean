import CamDriver.Lib.Bytes
import CamDriver.Timestamps

/-!
# CamDriver.Transport

The header in front of every frame on the same-host transport: the core packs it
(`FrameHeader.pack`) and reads it (`unpack_header`), the ROS 2 source packs it again
(`pack_header`), and the WebRTC bridge reads it again (`parse_header`).

The four files keep tables of their own.  `header_roundTrip` says that they fit.
-/

namespace CamDriver

open Bytes (field field_head field_append_right)

/-! ## The 36 bytes -/

/-- `HEADER_SIZE`. -/
def headerSize : Nat := 36

/-- `MAGIC`. -/
def headerMagic : List UInt8 := [0x43, 0x41, 0x4d, 0x46]

/-- The fields of `<4sHHQQHHIBBH`. -/
structure WireHeader where
  magic : List UInt8
  version : UInt16
  headerLen : UInt16
  timestampNs : UInt64
  frameId : UInt64
  width : UInt16
  height : UInt16
  pixfmt : UInt32
  tsSource : UInt8
  flags : UInt8
  reserved : UInt16
deriving DecidableEq, Repr

namespace WireHeader

/-- `struct.pack`. -/
def encode (f : WireHeader) : List UInt8 :=
  let e := Endian.little
  f.magic ++ (e.encode 2 f.version.toNat ++ (e.encode 2 f.headerLen.toNat ++
    (e.encode 8 f.timestampNs.toNat ++ (e.encode 8 f.frameId.toNat ++
    (e.encode 2 f.width.toNat ++ (e.encode 2 f.height.toNat ++ (e.encode 4 f.pixfmt.toNat ++
    (e.encode 1 f.tsSource.toNat ++ (e.encode 1 f.flags.toNat ++
    e.encode 2 f.reserved.toNat)))))))))

/-- `struct.unpack` of the first 36 bytes. -/
def decode (data : List UInt8) : WireHeader :=
  let e := Endian.little
  { magic := field data 0 4
    version := UInt16.ofNat (e.decode (field data 4 2))
    headerLen := UInt16.ofNat (e.decode (field data 6 2))
    timestampNs := UInt64.ofNat (e.decode (field data 8 8))
    frameId := UInt64.ofNat (e.decode (field data 16 8))
    width := UInt16.ofNat (e.decode (field data 24 2))
    height := UInt16.ofNat (e.decode (field data 26 2))
    pixfmt := UInt32.ofNat (e.decode (field data 28 4))
    tsSource := UInt8.ofNat (e.decode (field data 32 1))
    flags := UInt8.ofNat (e.decode (field data 33 1))
    reserved := UInt16.ofNat (e.decode (field data 34 2)) }

/-- A header is as long as its format says. -/
theorem length_encode {f : WireHeader} (hmagic : f.magic.length = 4) :
    f.encode.length = headerSize := by
  simp [encode, hmagic, headerSize]

/-- **Wire round trip**: the fields are read back, whatever follows the header. -/
theorem decode_encode {f : WireHeader} (hmagic : f.magic.length = 4) (rest : List UInt8) :
    decode (f.encode ++ rest) = f := by
  have h8 (x : UInt8) : Endian.little.decode (Endian.little.encode 1 x.toNat) = x.toNat :=
    Endian.decode_encode _ x.toNat_lt
  have h16 (x : UInt16) : Endian.little.decode (Endian.little.encode 2 x.toNat) = x.toNat :=
    Endian.decode_encode _ x.toNat_lt
  have h32 (x : UInt32) : Endian.little.decode (Endian.little.encode 4 x.toNat) = x.toNat :=
    Endian.decode_encode _ x.toNat_lt
  have h64 (x : UInt64) : Endian.little.decode (Endian.little.encode 8 x.toNat) = x.toNat :=
    Endian.decode_encode _ x.toNat_lt
  simp [encode, decode, field_head, field_append_right, hmagic, h8, h16, h32, h64]

end WireHeader

/-! ## The core: `transport.py` -/

/-- `_CODE_TO_GST`. -/
def codeToGst : List (Nat × String) :=
  [(1, "GRAY8"), (2, "GRAY16_LE"), (3, "GRAY16_BE"), (4, "I420"), (5, "NV12"), (6, "YUY2"),
   (7, "RGB"), (8, "BGR"), (9, "NV24"), (10, "YV12"), (11, "UYVY"), (12, "RGBA"), (13, "BGRA"),
   (14, "RGBx"), (15, "BGRx")]

/-- `_GST_TO_CODE`. -/
def gstToCode : List (String × Nat) := codeToGst.map Prod.swap

/-- `TS_SOURCE_CODE`. -/
def tsSourceCode : List (String × Nat) :=
  [("ptp_chunk", 0), ("camera", 1), ("system", 2), ("sof", 3), ("rtp_ntp", 4)]

/-- `TS_SOURCE_NAME`. -/
def tsSourceName : List (Nat × String) := tsSourceCode.map Prod.swap

/-- What packing a header raises. -/
inductive PackError where
  /-- a pixel format without a code -/
  | noPixfmt (format : String)
  /-- `struct.error`: a value that does not fit its field -/
  | range
deriving DecidableEq, Repr

/-- A number for an `H` field. -/
def packU16 (n : Int) : Except PackError UInt16 :=
  if 0 ≤ n ∧ n < 65536 then .ok (UInt16.ofNat n.toNat) else .error .range

/-- `n & _U64`, for a `Q` field. -/
def maskU64 (n : Int) : UInt64 := UInt64.ofNat (n % 2 ^ 64).toNat

structure FrameHeader where
  timestampNs : Int
  frameId : Int
  width : Int
  height : Int
  pixfmt : String
  tsSource : String
  flags : Int
  version : Int
deriving DecidableEq, Repr

/-- `gst_format_to_code`. -/
def gstFormatToCode (format : String) : Except PackError Nat :=
  match gstToCode.lookup format with
  | some code => .ok code
  | none => .error (.noPixfmt format)

/-- `FrameHeader.pack`. -/
def FrameHeader.pack (h : FrameHeader) : Except PackError (List UInt8) := do
  let code ← gstFormatToCode h.pixfmt
  let version ← packU16 h.version
  let width ← packU16 h.width
  let height ← packU16 h.height
  let wire : WireHeader :=
    { magic := headerMagic, version, headerLen := UInt16.ofNat headerSize
      timestampNs := maskU64 h.timestampNs, frameId := maskU64 h.frameId, width, height
      pixfmt := UInt32.ofNat code
      tsSource := UInt8.ofNat ((tsSourceCode.lookup h.tsSource).getD 1)
      flags := UInt8.ofNat (h.flags % 256).toNat, reserved := 0 }
  return wire.encode

/-- Why a reader does not take a buffer. -/
inductive HeaderFault where
  | tooSmall (size : Nat)
  | magic (magic : List UInt8)
  | version (version : Nat)
  | headerLen (headerLen size : Nat)
  | pixfmt (code : Nat)
  | geometry (width height : Nat)
deriving DecidableEq, Repr

/-- `unpack_header`. -/
def unpackHeader (data : List UInt8) : Except HeaderFault FrameHeader :=
  if data.length < headerSize then .error (.tooSmall data.length)
  else
    let f := WireHeader.decode data
    if f.magic ≠ headerMagic then .error (.magic f.magic)
    else if f.version ≠ 1 then .error (.version f.version.toNat)
    else
      match codeToGst.lookup f.pixfmt.toNat with
      | none => .error (.pixfmt f.pixfmt.toNat)
      | some format =>
        .ok { timestampNs := f.timestampNs.toNat, frameId := f.frameId.toNat
              width := f.width.toNat, height := f.height.toNat, pixfmt := format
              tsSource := (tsSourceName.lookup f.tsSource.toNat).getD "camera"
              flags := f.flags.toNat, version := f.version.toNat }

/-! ## The ROS 2 source: `framing.py` -/

/-- `PIXFMT_CODE`. -/
def pixfmtCode : List (String × Nat) :=
  [("GRAY8", 1), ("GRAY16_LE", 2), ("GRAY16_BE", 3), ("I420", 4), ("NV12", 5), ("YUY2", 6),
   ("RGB", 7), ("BGR", 8), ("NV24", 9), ("YV12", 10), ("UYVY", 11), ("RGBA", 12), ("BGRA", 13),
   ("RGBx", 14), ("BGRx", 15)]

/-- `TS_SOURCE_CODE`. -/
def framingTsSourceCode : List (String × Nat) :=
  [("ptp_chunk", 0), ("camera", 1), ("system", 2), ("sof", 3), ("rtp_ntp", 4)]

/-- `pack_header`. -/
def packHeader (timestampNs frameId width height : Int) (gstFormat tsSource : String) :
    Except PackError (List UInt8) := do
  let code ←
    match pixfmtCode.lookup gstFormat with
    | some code => pure code
    | none => throw (.noPixfmt gstFormat)
  let width ← packU16 width
  let height ← packU16 height
  let wire : WireHeader :=
    { magic := headerMagic, version := 1, headerLen := UInt16.ofNat headerSize
      timestampNs := maskU64 timestampNs, frameId := maskU64 frameId, width, height
      pixfmt := UInt32.ofNat code
      tsSource := UInt8.ofNat ((framingTsSourceCode.lookup tsSource).getD 1)
      flags := 0, reserved := 0 }
  return wire.encode

/-! ## The WebRTC bridge: `header_transport.py` -/

/-- `CODE_TO_GST`. -/
def bridgeCodeToGst : List (Nat × String) :=
  [(1, "GRAY8"), (2, "GRAY16_LE"), (3, "GRAY16_BE"), (4, "I420"), (5, "NV12"), (6, "YUY2"),
   (7, "RGB"), (8, "BGR"), (9, "NV24"), (10, "YV12"), (11, "UYVY"), (12, "RGBA"), (13, "BGRA"),
   (14, "RGBx"), (15, "BGRx")]

/-- `TS_SOURCE_NAME`. -/
def bridgeTsSourceName : List (Nat × String) :=
  [(0, "ptp_chunk"), (1, "camera"), (2, "system"), (3, "sof"), (4, "rtp_ntp")]

structure FrameInfo where
  timestampNs : Nat
  frameId : Nat
  width : Nat
  height : Nat
  pixfmt : String
  tsSource : String
  headerLen : Nat
deriving DecidableEq, Repr

/-- `parse_header`. -/
def parseHeader (data : List UInt8) : Except HeaderFault FrameInfo :=
  if data.length < headerSize then .error (.tooSmall data.length)
  else
    let f := WireHeader.decode data
    if f.magic ≠ headerMagic then .error (.magic f.magic)
    else if f.version ≠ 1 then .error (.version f.version.toNat)
    else if f.headerLen.toNat < headerSize ∨ data.length < f.headerLen.toNat then
      .error (.headerLen f.headerLen.toNat data.length)
    else
      match bridgeCodeToGst.lookup f.pixfmt.toNat with
      | none => .error (.pixfmt f.pixfmt.toNat)
      | some format =>
        if f.width = 0 ∨ f.height = 0 then .error (.geometry f.width.toNat f.height.toNat)
        else
          .ok { timestampNs := f.timestampNs.toNat, frameId := f.frameId.toNat
                width := f.width.toNat, height := f.height.toNat, pixfmt := format
                tsSource :=
                  (bridgeTsSourceName.lookup f.tsSource.toNat).getD (toString f.tsSource.toNat)
                headerLen := f.headerLen.toNat }

/-! ## What goes out comes back -/

/-- The tables agree on every format the core knows. -/
theorem tables_format : ∀ entry ∈ codeToGst,
    gstToCode.lookup entry.2 = some entry.1 ∧ pixfmtCode.lookup entry.2 = some entry.1 ∧
      codeToGst.lookup entry.1 = some entry.2 ∧ bridgeCodeToGst.lookup entry.1 = some entry.2 ∧
      entry.1 < 2 ^ 32 := by
  decide

/-- The name a provenance has behind the wire. -/
def wireProvenance (tsSource : String) : String :=
  if tsSource ∈ tsSourceCode.map Prod.fst then tsSource else "camera"

/-- The tables agree on every provenance, and take an unknown one for `camera`. -/
theorem tables_provenance (tsSource : String) :
    framingTsSourceCode.lookup tsSource = tsSourceCode.lookup tsSource ∧
      (tsSourceCode.lookup tsSource).getD 1 < 256 ∧
      tsSourceName.lookup ((tsSourceCode.lookup tsSource).getD 1) =
        some (wireProvenance tsSource) ∧
      bridgeTsSourceName.lookup ((tsSourceCode.lookup tsSource).getD 1) =
        some (wireProvenance tsSource) := by
  refine ⟨rfl, ?_⟩
  by_cases hknown : tsSource ∈ tsSourceCode.map Prod.fst
  · have hall : ∀ name ∈ tsSourceCode.map Prod.fst, (tsSourceCode.lookup name).getD 1 < 256 ∧
        tsSourceName.lookup ((tsSourceCode.lookup name).getD 1) = some name ∧
          bridgeTsSourceName.lookup ((tsSourceCode.lookup name).getD 1) = some name := by
      decide
    rw [wireProvenance, if_pos hknown]
    exact hall tsSource hknown
  · have hnone : tsSourceCode.lookup tsSource = none := by
      rw [List.lookup_eq_none_iff]
      intro entry hentry
      rw [bne_iff_ne]
      rintro rfl
      exact hknown (List.mem_map_of_mem hentry)
    rw [wireProvenance, if_neg hknown, hnone]
    exact ⟨by decide, rfl, rfl⟩

/-- A number that fits is packed as it is. -/
theorem packU16_of_lt {n : Nat} (h : n < 65536) : packU16 n = .ok (UInt16.ofNat n) := by
  rw [packU16, if_pos (by omega), Int.toNat_natCast]

/-- A masked stamp is the stamp modulo 2^64. -/
theorem toNat_maskU64 (n : Int) : ((maskU64 n).toNat : Int) = n % 2 ^ 64 := by
  have hpos := Int.emod_nonneg n (b := 2 ^ 64) (by decide)
  have hlt := Int.emod_lt_of_pos n (b := 2 ^ 64) (by decide)
  rw [maskU64, UInt64.toNat_ofNat']
  omega

/-- What both sides put on the wire. -/
def wireHeader (timestampNs frameId : Int) (width height code : Nat) (tsSource : String) :
    WireHeader :=
  { magic := headerMagic, version := 1, headerLen := UInt16.ofNat headerSize
    timestampNs := maskU64 timestampNs, frameId := maskU64 frameId
    width := UInt16.ofNat width, height := UInt16.ofNat height, pixfmt := UInt32.ofNat code
    tsSource := UInt8.ofNat ((tsSourceCode.lookup tsSource).getD 1), flags := 0, reserved := 0 }

section RoundTrip

variable (timestampNs frameId : Int) {width height : Nat} (hwidth : width < 65536)
  (hheight : height < 65536) {code : Nat} {format : String}
  (hformat : (code, format) ∈ codeToGst) (tsSource : String)
include hwidth hheight hformat

/-- What the C header packs, as the bytes of the format. -/
theorem pack_eq :
    FrameHeader.pack { timestampNs, frameId, width, height, pixfmt := format, tsSource,
                       flags := 0, version := 1 } =
      .ok (wireHeader timestampNs frameId width height code tsSource).encode := by
  have hcode : gstToCode.lookup format = some code := (tables_format _ hformat).1
  have hversion : packU16 1 = .ok 1 := by decide
  simp only [FrameHeader.pack, gstFormatToCode, hcode, hversion, packU16_of_lt hwidth,
    packU16_of_lt hheight]
  rfl

/-- The Python twin packs the same bytes. -/
theorem packHeader_eq :
    packHeader timestampNs frameId width height format tsSource =
      .ok (wireHeader timestampNs frameId width height code tsSource).encode := by
  have hcode : pixfmtCode.lookup format = some code := (tables_format _ hformat).2.1
  simp only [packHeader, hcode, packU16_of_lt hwidth, packU16_of_lt hheight,
    (tables_provenance tsSource).1]
  rfl

/-- The fields a reader finds behind the wire. -/
theorem toNat_wireHeader :
    (wireHeader timestampNs frameId width height code tsSource).width.toNat = width ∧
      (wireHeader timestampNs frameId width height code tsSource).height.toNat = height ∧
      (wireHeader timestampNs frameId width height code tsSource).pixfmt.toNat = code ∧
      (wireHeader timestampNs frameId width height code tsSource).tsSource.toNat =
        (tsSourceCode.lookup tsSource).getD 1 := by
  obtain ⟨-, -, -, -, hcode⟩ := tables_format _ hformat
  obtain ⟨-, hsource, -, -⟩ := tables_provenance tsSource
  refine ⟨?_, ?_, ?_, ?_⟩
  · exact UInt16.toNat_ofNat_of_lt' hwidth
  · exact UInt16.toNat_ofNat_of_lt' hheight
  · exact UInt32.toNat_ofNat_of_lt' hcode
  · exact UInt8.toNat_ofNat_of_lt' hsource

/-- Those bytes are unpacked again, the stamp modulo 2^64. -/
theorem unpackHeader_wireHeader (pixels : List UInt8) :
    unpackHeader ((wireHeader timestampNs frameId width height code tsSource).encode ++ pixels) =
      .ok { timestampNs := timestampNs % 2 ^ 64, frameId := frameId % 2 ^ 64, width, height
            pixfmt := format, tsSource := wireProvenance tsSource, flags := 0, version := 1 } := by
  have hdecode := WireHeader.decode_encode
    (f := wireHeader timestampNs frameId width height code tsSource) rfl pixels
  have hshort : ¬ ((wireHeader timestampNs frameId width height code tsSource).encode ++
      pixels).length < headerSize := by
    rw [List.length_append, WireHeader.length_encode rfl]
    omega
  obtain ⟨hw, hh, hpix, hsrc⟩ :=
    toNat_wireHeader timestampNs frameId hwidth hheight hformat tsSource
  obtain ⟨-, -, hlookup, -, -⟩ := tables_format _ hformat
  obtain ⟨-, -, hname, -⟩ := tables_provenance tsSource
  have hmagic : (wireHeader timestampNs frameId width height code tsSource).magic = headerMagic :=
    rfl
  have hversion : (wireHeader timestampNs frameId width height code tsSource).version = 1 := rfl
  rw [unpackHeader, if_neg hshort]
  simp only [hdecode, hpix, hlookup, hw, hh, hsrc, hname]
  rw [if_neg (not_not.mpr hmagic), if_neg (not_not.mpr hversion)]
  rw [show ((wireHeader timestampNs frameId width height code tsSource).timestampNs.toNat : Int) =
      timestampNs % 2 ^ 64 from toNat_maskU64 timestampNs,
    show ((wireHeader timestampNs frameId width height code tsSource).frameId.toNat : Int) =
      frameId % 2 ^ 64 from toNat_maskU64 frameId]
  rfl

/-- The C parser reads them the same way. -/
theorem parseHeader_wireHeader (hw0 : width ≠ 0) (hh0 : height ≠ 0) (pixels : List UInt8) :
    parseHeader ((wireHeader timestampNs frameId width height code tsSource).encode ++ pixels) =
      .ok { timestampNs := (timestampNs % 2 ^ 64).toNat, frameId := (frameId % 2 ^ 64).toNat
            width, height, pixfmt := format, tsSource := wireProvenance tsSource
            headerLen := headerSize } := by
  have hdecode := WireHeader.decode_encode
    (f := wireHeader timestampNs frameId width height code tsSource) rfl pixels
  have hlen : headerSize ≤ ((wireHeader timestampNs frameId width height code tsSource).encode ++
      pixels).length := by
    rw [List.length_append, WireHeader.length_encode rfl]
    omega
  obtain ⟨hw, hh, hpix, hsrc⟩ :=
    toNat_wireHeader timestampNs frameId hwidth hheight hformat tsSource
  obtain ⟨-, -, -, hlookup, -⟩ := tables_format _ hformat
  obtain ⟨-, -, -, hname⟩ := tables_provenance tsSource
  have hgeometry : ¬ ((wireHeader timestampNs frameId width height code tsSource).width = 0 ∨
      (wireHeader timestampNs frameId width height code tsSource).height = 0) := by
    rintro (hzero | hzero)
    · rw [hzero] at hw
      exact hw0 hw.symm
    · rw [hzero] at hh
      exact hh0 hh.symm
  have hheaderLen : (wireHeader timestampNs frameId width height code tsSource).headerLen.toNat =
      headerSize := rfl
  have hmagic : (wireHeader timestampNs frameId width height code tsSource).magic = headerMagic :=
    rfl
  have hversion : (wireHeader timestampNs frameId width height code tsSource).version = 1 := rfl
  rw [parseHeader, if_neg (Nat.not_lt.mpr hlen)]
  simp only [hdecode, hpix, hlookup, hw, hh, hsrc, hname, hheaderLen]
  rw [if_neg (not_not.mpr hmagic), if_neg (not_not.mpr hversion), if_neg (by omega),
    if_neg hgeometry]
  have hts : (wireHeader timestampNs frameId width height code tsSource).timestampNs.toNat =
      (timestampNs % 2 ^ 64).toNat := by
    have hmask := toNat_maskU64 timestampNs
    rw [← hmask, Int.toNat_natCast]
    rfl
  have hid : (wireHeader timestampNs frameId width height code tsSource).frameId.toNat =
      (frameId % 2 ^ 64).toNat := by
    have hmask := toNat_maskU64 frameId
    rw [← hmask, Int.toNat_natCast]
    rfl
  rw [hts, hid]
  rfl

end RoundTrip

/-- What the two packers write, and what the two readers make of it with pixels behind. -/
structure HeaderRoundTrip (timestampNs frameId : Int) (width height : Nat)
    (format tsSource : String)
    (pixels header : List UInt8) : Prop where
  pack : FrameHeader.pack { timestampNs, frameId, width, height, pixfmt := format, tsSource,
                            flags := 0, version := 1 } = .ok header
  packHeader : packHeader timestampNs frameId width height format tsSource = .ok header
  unpackHeader : unpackHeader (header ++ pixels) =
    .ok { timestampNs := timestampNs % 2 ^ 64, frameId := frameId % 2 ^ 64, width, height
          pixfmt := format, tsSource := wireProvenance tsSource, flags := 0, version := 1 }
  /-- the core takes the pixels from there -/
  corePixels : (header ++ pixels).drop headerSize = pixels
  parseHeader : ∃ info, CamDriver.parseHeader (header ++ pixels) = .ok info ∧
    info.timestampNs = timestampNs % 2 ^ 64 ∧ info.frameId = frameId % 2 ^ 64 ∧
    info.width = width ∧ info.height = height ∧ info.pixfmt = format ∧
    info.tsSource = wireProvenance tsSource ∧ (header ++ pixels).drop info.headerLen = pixels

/-- **Header round trip**: both packers write the same bytes, and both readers give back
what went in. -/
theorem header_roundTrip (timestampNs frameId : Int) {width height : Nat}
    (hwidth : 0 < width ∧ width < 65536) (hheight : 0 < height ∧ height < 65536)
    {format : String} (hformat : format ∈ codeToGst.map Prod.snd) (tsSource : String)
    (pixels : List UInt8) :
    ∃ header, HeaderRoundTrip timestampNs frameId width height format tsSource pixels header := by
  obtain ⟨⟨code, format⟩, hentry, rfl⟩ := List.mem_map.mp hformat
  have hdrop : ((wireHeader timestampNs frameId width height code tsSource).encode ++
      pixels).drop headerSize = pixels :=
    List.drop_left' (WireHeader.length_encode rfl)
  have hnonneg (n : Int) : 0 ≤ n % 2 ^ 64 := Int.emod_nonneg n (by decide)
  exact ⟨_, {
    pack := pack_eq timestampNs frameId hwidth.2 hheight.2 hentry tsSource
    packHeader := packHeader_eq timestampNs frameId hwidth.2 hheight.2 hentry tsSource
    unpackHeader :=
      unpackHeader_wireHeader timestampNs frameId hwidth.2 hheight.2 hentry tsSource pixels
    corePixels := hdrop
    parseHeader := ⟨_, parseHeader_wireHeader timestampNs frameId hwidth.2 hheight.2 hentry
      tsSource (by omega) (by omega) pixels, Int.toNat_of_nonneg (hnonneg timestampNs),
      Int.toNat_of_nonneg (hnonneg frameId), rfl, rfl, rfl, rfl, hdrop⟩ }⟩

/-- A negative timestamp, a frame id past the field, and a provenance nobody knows. -/
theorem header_roundTrip_oddFrame :
    ∃ header, HeaderRoundTrip (-1) (2 ^ 64 + 7) 2 1 "GRAY8" "gps" [10, 20] header :=
  header_roundTrip (-1) (2 ^ 64 + 7) (by decide) (by decide) (by decide) "gps" [10, 20]

end CamDriver
