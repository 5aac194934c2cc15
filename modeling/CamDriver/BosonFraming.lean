import CamDriver.Lib.Bytes
import CamDriver.Lib.Framing

/-!
# CamDriver.BosonFraming

`health_boson`, the framing of the camera's command channel: `encode_frame`,
`decode_frame` and the splitter between them.

The bytes between the markers of a frame are escaped, so they hold no marker
(`start_notMem_escape`, `end_notMem_escape`), and unescaping gives them back
(`unescape_escape`).  So the frames of a stream come out of the splitter as they went
in, however the stream is cut (`splitter_frames`).
-/

namespace CamDriver

/-! ## Escaping -/

namespace Boson

/-- `START`. -/
def startByte : UInt8 := 0x8e
/-- `END`. -/
def endByte : UInt8 := 0xae
/-- `ESC`. -/
def escByte : UInt8 := 0x9e

/-- `_ESCAPES`. -/
def escapes (b : UInt8) : Option UInt8 :=
  if b = 0x8e then some 0x81
  else if b = 0x9e then some 0x91
  else if b = 0xae then some 0xa1
  else none

/-- A byte as it stands in a frame. -/
def escapeByte (b : UInt8) : List UInt8 :=
  match escapes b with
  | some e => [escByte, e]
  | none => [b]

/-- `escape`. -/
def escape (body : List UInt8) : List UInt8 := body.flatMap escapeByte

/-- `unescape`. -/
def unescape : List UInt8 → Except String (List UInt8)
  | [] => .ok []
  | b :: body =>
    if b = escByte then
      match body with
      | [] => .error "frame ends inside an escape"
      | next :: body => (unescape body).map ((next + 0x0d) :: ·)
    else (unescape body).map (b :: ·)

/-- A byte that is no escape stands for itself. -/
theorem unescape_cons {b : UInt8} (h : b ≠ escByte) (body : List UInt8) :
    unescape (b :: body) = (unescape body).map (b :: ·) := by
  rw [unescape.eq_def]
  simp [h]

/-- What stands for a byte in a frame: not a marker, and read as the byte. -/
theorem escapeByte_spec (b : UInt8) :
    startByte ∉ escapeByte b ∧ endByte ∉ escapeByte b ∧
      ∀ rest, unescape (escapeByte b ++ rest) = (unescape rest).map (b :: ·) := by
  by_cases hstart : b = 0x8e
  · subst hstart
    exact ⟨by decide, by decide, fun rest => rfl⟩
  by_cases hesc : b = 0x9e
  · subst hesc
    exact ⟨by decide, by decide, fun rest => rfl⟩
  by_cases hend : b = 0xae
  · subst hend
    exact ⟨by decide, by decide, fun rest => rfl⟩
  have plain : escapeByte b = [b] := by simp [escapeByte, escapes, hstart, hesc, hend]
  rw [plain]
  refine ⟨?_, ?_, unescape_cons hesc⟩
  · simpa [startByte] using Ne.symm hstart
  · simpa [endByte] using Ne.symm hend

/-- An escaped body has no start marker inside. -/
theorem start_notMem_escape (body : List UInt8) : startByte ∉ escape body := by
  rw [escape, List.mem_flatMap]
  rintro ⟨b, -, h⟩
  exact (escapeByte_spec b).1 h

theorem end_notMem_escape (body : List UInt8) : endByte ∉ escape body := by
  rw [escape, List.mem_flatMap]
  rintro ⟨b, -, h⟩
  exact (escapeByte_spec b).2.1 h

/-- Unescaping undoes the escape. -/
theorem unescape_escape (body : List UInt8) : unescape (escape body) = .ok body := by
  induction body with
  | nil => rfl
  | cons b body ih =>
      rw [escape, List.flatMap_cons, ← escape, (escapeByte_spec b).2.2, ih]
      rfl

/-! ## The checksum -/

/-- One bit of `binascii.crc_hqx`. -/
def crcShift (crc : UInt16) : UInt16 :=
  if crc &&& 0x8000 = 0 then crc <<< 1 else (crc <<< 1) ^^^ 0x1021

/-- One byte of it. -/
def crcByte (crc : UInt16) (b : UInt8) : UInt16 := crcShift^[8] (crc ^^^ (b.toUInt16 <<< 8))

/-- `crc16`. -/
def crc16 (data : List UInt8) : UInt16 := data.foldl crcByte 0x1d0f

example : crc16 [0x31, 0x32, 0x33, 0x34, 0x35, 0x36, 0x37, 0x38, 0x39] = 0xe5cc := by decide +kernel

/-! ## Frames -/

/-- The fields of a frame: `seq`, `function_id`, `status` and the payload. -/
structure Fields where
  seq : UInt32
  functionId : UInt32
  status : UInt32
  payload : List UInt8
deriving DecidableEq, Repr

/-- The bytes in front of the checksum: the channel and the fields. -/
def Fields.pack (f : Fields) : List UInt8 :=
  Endian.big.encode 1 0 ++ Endian.big.encode 4 f.seq.toNat ++
    Endian.big.encode 4 f.functionId.toNat ++ Endian.big.encode 4 f.status.toNat ++ f.payload

/-- The bytes of a frame between its markers, before they are escaped. -/
def Fields.body (f : Fields) : List UInt8 :=
  f.pack ++ Endian.big.encode 2 (crc16 f.pack).toNat

/-- The sequence number of a frame: `seq & 0xFFFFFFFF`. -/
def seqOf (seq : Int) : UInt32 := UInt32.ofNat (seq % 2 ^ 32).toNat

/-- A sequence number wraps at 2^32. -/
theorem toNat_seqOf (seq : Int) : ((seqOf seq).toNat : Int) = seq % 2 ^ 32 := by
  rw [seqOf, UInt32.toNat_ofNat']
  omega

/-- `encode_frame`. -/
def encodeFrame (seq : Int) (functionId status : UInt32) (payload : List UInt8) : List UInt8 :=
  startByte :: escape (Fields.body ⟨seqOf seq, functionId, status, payload⟩) ++ [endByte]

/-- `decode_frame`, from the body on. -/
def decodeBody (body : List UInt8) : Except String Fields :=
  let data := body.take (body.length - 2)
  if body.length < 15 then .error ("short frame (" ++ toString body.length ++ " bytes)")
  else if Endian.big.decode (body.drop (body.length - 2)) ≠ (crc16 data).toNat then
    .error "CRC mismatch"
  else
    .ok {
      seq := UInt32.ofNat (Endian.big.decode (Bytes.field data 1 4))
      functionId := UInt32.ofNat (Endian.big.decode (Bytes.field data 5 4))
      status := UInt32.ofNat (Endian.big.decode (Bytes.field data 9 4))
      payload := data.drop 13 }

/-- `decode_frame`. -/
def decodeFrame (frame : List UInt8) : Except String Fields :=
  if frame.length < 2 ∨ frame.head? ≠ some startByte ∨ frame.getLast? ≠ some endByte then
    .error "not a frame"
  else (unescape frame.tail.dropLast).bind decodeBody

/-- A frame is what stands between its markers. -/
theorem decodeFrame_markers (inner : List UInt8) :
    decodeFrame (startByte :: inner ++ [endByte]) = (unescape inner).bind decodeBody := by
  have isFrame : ¬ ((startByte :: inner ++ [endByte]).length < 2 ∨
      (startByte :: inner ++ [endByte]).head? ≠ some startByte ∨
      (startByte :: inner ++ [endByte]).getLast? ≠ some endByte) := by
    rw [List.getLast?_concat]
    simp
  rw [decodeFrame, if_neg isFrame, List.cons_append, List.tail_cons, List.dropLast_concat]

section Fields

variable (f : Fields)

/-- The fields of a frame, with its payload. -/
theorem Fields.length_pack : f.pack.length = 13 + f.payload.length := by
  simp only [pack, List.length_append, Endian.length_encode]

theorem Fields.length_body : f.body.length = 15 + f.payload.length := by
  rw [body, List.length_append, length_pack, Endian.length_encode]
  omega

/-- A word in the order of the wire. -/
theorem decode_encode_uint32 (n : UInt32) :
    UInt32.ofNat (Endian.big.decode (Endian.big.encode 4 n.toNat)) = n := by
  rw [Endian.decode_encode _ n.toNat_lt, UInt32.ofNat_toNat]

/-- The fields are where they are read. -/
theorem Fields.field_pack :
    Bytes.field f.pack 1 4 = Endian.big.encode 4 f.seq.toNat ∧
      Bytes.field f.pack 5 4 = Endian.big.encode 4 f.functionId.toNat ∧
      Bytes.field f.pack 9 4 = Endian.big.encode 4 f.status.toNat ∧
      f.pack.drop 13 = f.payload := by
  simp (disch := simp) [Bytes.field, pack, List.drop_append, List.drop_of_length_le]

/-- A body decodes to its fields. -/
theorem decodeBody_body : decodeBody f.body = .ok f := by
  have split : f.body.length - 2 = f.pack.length := by
    rw [f.length_body, f.length_pack]
    omega
  have data : f.body.take (f.body.length - 2) = f.pack := by
    rw [split, Fields.body, List.take_left]
  have crc : f.body.drop (f.body.length - 2) = Endian.big.encode 2 (crc16 f.pack).toNat := by
    rw [split, Fields.body, List.drop_left]
  obtain ⟨seq, functionId, status, payload⟩ := f.field_pack
  rw [decodeBody, data, crc, Endian.decode_encode _ (crc16 f.pack).toNat_lt, if_neg (by
    rw [f.length_body]; omega), if_neg (by simp), seq, functionId, status, payload,
    decode_encode_uint32, decode_encode_uint32, decode_encode_uint32]

end Fields

/-- A frame decodes to what it was encoded of. -/
theorem decodeFrame_encodeFrame (seq : Int) (functionId status : UInt32)
    (payload : List UInt8) :
    decodeFrame (encodeFrame seq functionId status payload) =
      .ok ⟨seqOf seq, functionId, status, payload⟩ := by
  rw [encodeFrame, decodeFrame_markers, unescape_escape]
  exact decodeBody_body _

/-! ## The splitter -/

/-- `FrameSplitter.feed`, from the buffer before to the one after and the frames. -/
def FrameSplitter.feed (buf data : List UInt8) : List UInt8 × List (List UInt8) :=
  Framing.feed startByte endByte buf data

/-- The frames a fresh splitter yields, chunk by chunk. -/
def FrameSplitter.feedAll (chunks : List (List UInt8)) : List (List UInt8) :=
  (Machine.history FrameSplitter.feed [] chunks).flatMap Prod.snd

/-- However a stream is cut into chunks, the splitter finds the frames of the whole. -/
theorem FrameSplitter.feedAll_eq (chunks : List (List UInt8)) :
    feedAll chunks = Framing.frames startByte endByte [] chunks.flatten :=
  Framing.feedAll_eq chunks

/-- The arguments of one `encode_frame`. -/
structure Command where
  seq : Int
  functionId : UInt32
  status : UInt32
  payload : List UInt8
deriving DecidableEq, Repr

def Command.frame (c : Command) : List UInt8 :=
  encodeFrame c.seq c.functionId c.status c.payload

/-- What a frame says of the command it was encoded from. -/
structure Command.Means (c : Command) (fields : Fields) : Prop where
  seq : (fields.seq.toNat : Int) = c.seq % 2 ^ 32
  functionId : fields.functionId = c.functionId
  status : fields.status = c.status
  payload : fields.payload = c.payload

/-- A command decodes to what it means. -/
theorem Command.decodeFrame_frame (c : Command) :
    ∃ fields, decodeFrame c.frame = .ok fields ∧ c.Means fields :=
  ⟨_, decodeFrame_encodeFrame .., ⟨toNat_seqOf c.seq, rfl, rfl, rfl⟩⟩

/-- The frames of a stream come out as they were encoded, however it is cut, and say what
was encoded; no marker stands inside of one. -/
theorem splitter_frames {commands : List Command} {chunks : List (List UInt8)}
    (h : chunks.flatten = commands.flatMap Command.frame) :
    FrameSplitter.feedAll chunks = commands.map Command.frame ∧
      ∀ c ∈ commands, (∃ fields, decodeFrame c.frame = .ok fields ∧ c.Means fields) ∧
        ∃ inner, c.frame = startByte :: inner ++ [endByte] ∧
          startByte ∉ inner ∧ endByte ∉ inner := by
  constructor
  · have inners : commands.flatMap Command.frame =
        (commands.map fun c => escape (Fields.body ⟨seqOf c.seq, c.functionId, c.status,
          c.payload⟩)).flatMap fun inner => startByte :: inner ++ [endByte] := by
      rw [List.flatMap_map]
      rfl
    rw [FrameSplitter.feedAll_eq, h, inners, Framing.frames_flatten, List.map_map]
    · rfl
    · intro inner hinner
      obtain ⟨c, -, rfl⟩ := List.mem_map.1 hinner
      exact end_notMem_escape _
  · intro c _
    exact ⟨c.decodeFrame_frame, _, rfl, start_notMem_escape _, end_notMem_escape _⟩

/-- A payload of markers, cut inside of an escape. -/
theorem splitter_frames_markers :
    FrameSplitter.feedAll [(encodeFrame 7 0x00050002 0 [0x8e, 0x9e, 0xae]).take 15,
        (encodeFrame 7 0x00050002 0 [0x8e, 0x9e, 0xae]).drop 15] =
        [(⟨7, 0x00050002, 0, [0x8e, 0x9e, 0xae]⟩ : Command)].map Command.frame ∧
      ∀ c ∈ [(⟨7, 0x00050002, 0, [0x8e, 0x9e, 0xae]⟩ : Command)],
        (∃ fields, decodeFrame c.frame = .ok fields ∧ c.Means fields) ∧
        ∃ inner, c.frame = startByte :: inner ++ [endByte] ∧
          startByte ∉ inner ∧ endByte ∉ inner :=
  splitter_frames (by simp [Command.frame])

end Boson

end CamDriver
