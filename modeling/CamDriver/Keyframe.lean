import CamDriver.Text

/-!
# CamDriver.Keyframe

`keyframe`: whether a delivered encoded frame can start a recording, from its bytes and
the caps they came with.

`annexbNalHeaders` and `lengthPrefixedNalHeaders` list the header bytes of the units of
a frame in the two forms it can have.
-/

namespace CamDriver

/-! ## Caps -/

/-- What `parse_caps_kind` reads off a caps string. -/
structure CapsKind where
  mediaType : Option String
  streamFormat : Option String
  nalLengthSize : Nat
deriving DecidableEq, Repr

/-- The kind of no caps. -/
def CapsKind.unknown : CapsKind := { mediaType := none, streamFormat := none, nalLengthSize := 4 }

/-- `[A-Za-z0-9-]`. -/
def isWordChar (c : Char) : Bool := c.isAlphanum || c == '-'

/-- `[0-9A-Fa-f]`. -/
def isHexDigit (c : Char) : Bool :=
  c.isDigit || ('a' ≤ c && c ≤ 'f') || ('A' ≤ c && c ≤ 'F')

/-- The value of a hexadecimal digit. -/
def hexDigit (c : Char) : Nat :=
  if c.isDigit then c.toNat - '0'.toNat
  else if 'a' ≤ c then c.toNat - 'a'.toNat + 10
  else c.toNat - 'A'.toNat + 10

/-- `_MEDIA_RE`: `^\s*([A-Za-z0-9-]+/[A-Za-z0-9.+-]+)`. -/
def mediaOf (caps : List Char) : Option String :=
  let text := caps.dropWhile isSpace
  match runOf isWordChar text with
  | none => none
  | some major =>
    match text.drop major.length with
    | '/' :: rest =>
      (runOf (fun c => isWordChar c || c == '.' || c == '+') rest).map fun minor =>
        String.ofList (major ++ '/' :: minor)
    | _ => none

/-- A field of the caps: its name, then maybe a type in brackets, then its value. -/
def fieldOf (name type : String) (p : Char → Bool) (caps : List Char) : Option (List Char) :=
  searchFirst (fun text =>
    (afterToken name text).bind fun rest => runOf p ((afterToken type rest).getD rest)) caps

/-- `(int(digits, 16) & 0x3) + 1` of the two digits at `i`. -/
def lengthSizeAt (blob : List Char) (i : Nat) : Nat :=
  (16 * hexDigit (blob.getD i '0') + hexDigit (blob.getD (i + 1) '0')) % 4 + 1

/-- `parse_caps_kind`. -/
def parseCapsKind (caps : String) : CapsKind :=
  let text := caps.toList
  let media := mediaOf text
  { mediaType := media
    streamFormat := (fieldOf "stream-format=" "(string)" isWordChar text).map String.ofList
    nalLengthSize :=
      match fieldOf "codec_data=" "(buffer)" isHexDigit text with
      | none => 4
      | some blob =>
        -- byte 4 of an avcC, byte 21 of an hvcC
        if media = some "video/x-h264" ∧ 10 ≤ blob.length then lengthSizeAt blob 8
        else if media = some "video/x-h265" ∧ 44 ≤ blob.length then lengthSizeAt blob 42
        else 4 }

/-! ## Units -/

/-- `_annexb_nal_headers`: the byte after each start code. -/
def annexbNalHeaders : List UInt8 → List UInt8
  | 0 :: 0 :: 1 :: rest => rest.take 1 ++ annexbNalHeaders rest
  | _ :: rest => annexbNalHeaders rest
  | [] => []

/-- A big-endian number. -/
def bigEndian (bytes : List UInt8) : Nat := bytes.foldl (fun n b => n * 256 + b.toNat) 0

/-- `_length_prefixed_nal_headers` with as many steps as the data has bytes: the first
byte of each unit whose size fits. -/
def prefixedNalHeaders (nalLen : Nat) : Nat → List UInt8 → List UInt8
  | 0, _ => []
  | fuel + 1, data =>
    if nalLen < data.length then
      let size := bigEndian (data.take nalLen)
      if size = 0 ∨ data.length < nalLen + size then []
      else (data.drop nalLen).take 1 ++ prefixedNalHeaders nalLen fuel (data.drop (nalLen + size))
    else []

/-- `_length_prefixed_nal_headers`. -/
def lengthPrefixedNalHeaders (nalLen : Nat) (data : List UInt8) : List UInt8 :=
  prefixedNalHeaders nalLen data.length data

/-- `_H264_IDR`. -/
def isIdr (header : UInt8) : Bool := header &&& 0x1f == 5

/-- `_H265_IRAP`. -/
def isIrap (header : UInt8) : Bool :=
  let nalType := (header >>> 1) &&& 0x3f
  16 ≤ nalType && nalType < 22

/-- `is_sync_point`, by the kind of the caps. -/
def isSyncPoint (kind : CapsKind) (data : List UInt8) : Bool :=
  let isPrefixed := kind.streamFormat ∈ [some "avc", some "avc3", some "hvc1", some "hev1"]
  let headers :=
    if isPrefixed then lengthPrefixedNalHeaders kind.nalLengthSize data else annexbNalHeaders data
  match kind.mediaType with
  | some "video/x-h264" => headers.any isIdr
  | some "video/x-h265" => headers.any isIrap
  | _ => true

end CamDriver
