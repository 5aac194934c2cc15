import CamDriver.PcapFile

/-!
# CamDriver.NgFile

pcapng files as a writer produces them, and what `iter_packets` makes of every
prefix of one.

A file is a sequence of blocks.  A Section Header Block sets the byte order of
the blocks behind it and forgets the interfaces declared before; an Interface
Description Block declares one, with the resolution its options tell; an
Enhanced Packet Block refers to one.  All other blocks, Simple Packet Blocks
among them, are skipped.
-/

namespace CamDriver

open Bytes (field field_head field_append_right field_take length_field_lt)

/-! ## Options -/

/-- An interface option other than `opt_endofopt` and `if_tsresol`. -/
structure IfOption where
  code : Nat
  value : List UInt8
  pad : List UInt8
  code_lt : code < 256 ^ 2
  code_ne : code ≠ 0 ∧ code ≠ 9
  length_lt : value.length < 256 ^ 2
  length_pad : value.length + pad.length = (value.length + 3) / 4 * 4

def IfOption.encode (e : Endian) (o : IfOption) : List UInt8 :=
  e.encode 2 o.code ++ (e.encode 2 o.value.length ++ (o.value ++ o.pad))

/-- The `if_tsresol` option. -/
def encodeTsresol (e : Endian) (v : UInt8) : List UInt8 :=
  e.encode 2 9 ++ (e.encode 2 1 ++ [v, 0, 0, 0])

/-- `opt_endofopt`. -/
def encodeEndOfOpt (e : Endian) : List UInt8 := e.encode 2 0 ++ e.encode 2 0

/-- The option list of an interface: any options around an optional resolution,
with or without an end mark. -/
structure IfOptions where
  before : List IfOption
  tsresol : Option UInt8
  after : List IfOption
  endOfOpt : Bool

namespace IfOptions

def encode (e : Endian) (os : IfOptions) : List UInt8 :=
  os.before.flatMap (IfOption.encode e) ++ ((os.tsresol.map (encodeTsresol e)).getD [] ++
    (os.after.flatMap (IfOption.encode e) ++ if os.endOfOpt then encodeEndOfOpt e else []))

/-- The resolution of the interface's stamps, `if_tsresol`'s default being 6. -/
def resolution (os : IfOptions) : Nat := (os.tsresol.map UInt8.toNat).getD 6

end IfOptions

theorem IfOption.length_encode (e : Endian) (o : IfOption) :
    (o.encode e).length = 4 + (o.value.length + 3) / 4 * 4 := by
  have hpad := o.length_pad
  simp only [encode, List.length_append, Endian.length_encode]
  omega

/-- An option without meaning here is passed over. -/
theorem readTsresol_option (e : Endian) (tsresol : Nat) (o : IfOption) (rest : List UInt8) :
    readTsresol e tsresol (o.encode e ++ rest) = readTsresol e tsresol rest := by
  have hlen := o.length_encode e
  have hshort : ¬ (o.encode e ++ rest).length < 4 := by
    rw [List.length_append, hlen]
    omega
  have hcode : e.decode (field (o.encode e ++ rest) 0 2) = o.code := by
    rw [IfOption.encode, List.append_assoc, field_head (Endian.length_encode ..),
      e.decode_encode o.code_lt]
  have holen : e.decode (field (o.encode e ++ rest) 2 2) = o.value.length := by
    rw [IfOption.encode]
    simp [field_append_right, field_head, e.decode_encode o.length_lt]
  rw [readTsresol, if_neg hshort]
  simp only [hcode, holen, o.code_ne.1, o.code_ne.2, if_false, false_and]
  rw [List.drop_left' hlen]

theorem readTsresol_options (e : Endian) (tsresol : Nat) (os : List IfOption)
    (rest : List UInt8) :
    readTsresol e tsresol (os.flatMap (IfOption.encode e) ++ rest) =
      readTsresol e tsresol rest := by
  induction os with
  | nil => rfl
  | cons o os ih => rw [List.flatMap_cons, List.append_assoc, readTsresol_option, ih]

theorem readTsresol_tsresol (e : Endian) (tsresol : Nat) (v : UInt8) (rest : List UInt8) :
    readTsresol e tsresol (encodeTsresol e v ++ rest) = readTsresol e v.toNat rest := by
  have hcode : e.decode (field (encodeTsresol e v ++ rest) 0 2) = 9 := by
    rw [encodeTsresol, List.append_assoc, field_head (Endian.length_encode ..),
      e.decode_encode (by decide)]
  have holen : e.decode (field (encodeTsresol e v ++ rest) 2 2) = 1 := by
    rw [encodeTsresol]
    simp [field_append_right, field_head]
  have hvalue : (encodeTsresol e v ++ rest)[4]? = some v := by
    simp [encodeTsresol, List.getElem?_append]
  have hlen : (encodeTsresol e v).length = 8 := by simp [encodeTsresol]
  rw [readTsresol, if_neg (by rw [List.length_append, hlen]; omega)]
  simp only [hcode, holen, hvalue]
  rw [if_neg (by decide), if_pos (by decide), List.drop_left' hlen]

theorem readTsresol_end (e : Endian) (tsresol : Nat) (endOfOpt : Bool) :
    readTsresol e tsresol (if endOfOpt then encodeEndOfOpt e else []) = .ok tsresol := by
  cases endOfOpt with
  | false =>
      rw [readTsresol]
      rfl
  | true =>
      have hlen : ¬ (encodeEndOfOpt e).length < 4 := by simp [encodeEndOfOpt]
      have hcode : e.decode (field (encodeEndOfOpt e) 0 2) = 0 := by
        rw [encodeEndOfOpt, field_head (Endian.length_encode ..), e.decode_encode (by decide)]
      rw [if_pos rfl, readTsresol, if_neg hlen]
      simp only [hcode, if_true]

/-- **Options**: the resolution is found among any options. -/
theorem readTsresol_encode (e : Endian) (os : IfOptions) :
    readTsresol e 6 (os.encode e) = .ok os.resolution := by
  rw [IfOptions.encode, readTsresol_options]
  cases hv : os.tsresol with
  | none =>
      rw [Option.map_none, Option.getD_none, List.nil_append, readTsresol_options,
        readTsresol_end, IfOptions.resolution, hv]
      rfl
  | some v =>
      rw [Option.map_some, Option.getD_some, readTsresol_tsresol, readTsresol_options,
        readTsresol_end, IfOptions.resolution, hv]
      rfl

/-! ## Time stamps -/

/-- Ticks in nanoseconds, rounded down.  A resolution with its top bit set tells
ticks of `1 / 2^v` seconds, any other one ticks of `1 / 10^v`. -/
def ticksToNs (resolution ticks : Nat) : Nat :=
  ticks * 10 ^ 9 / (if 128 ≤ resolution then 2 ^ (resolution % 128) else 10 ^ resolution)

theorem tsresolToNs_eq (resolution ticks : Nat) :
    tsresolToNs resolution ticks = ticksToNs resolution ticks := by
  simp only [tsresolToNs, ticksToNs]
  by_cases hbin : 128 ≤ resolution
  · rw [if_pos hbin, if_pos hbin]
    rfl
  · rw [if_neg hbin, if_neg hbin]
    by_cases hle : resolution ≤ 9
    · have hpow : (10 : Nat) ^ 9 = 10 ^ (9 - resolution) * 10 ^ resolution := by
        rw [← pow_add, Nat.sub_add_cancel hle]
      rw [if_pos hle, hpow, ← Nat.mul_assoc, Nat.mul_div_cancel _ (Nat.pow_pos (by decide))]
    · have hpow : (10 : Nat) ^ resolution = 10 ^ (resolution - 9) * 10 ^ 9 := by
        rw [← pow_add, Nat.sub_add_cancel (by omega)]
      rw [if_neg hle, hpow, Nat.mul_div_mul_right _ _ (Nat.pow_pos (by decide))]

/-! ## Blocks -/

/-- A Section Header Block; `body` is what follows the byte-order magic. -/
structure SectionBlock where
  order : Endian
  body : List UInt8

/-- An Interface Description Block. -/
structure InterfaceBlock where
  linkType : Nat
  reserved : Nat
  snaplen : Nat
  options : IfOptions
  linkType_lt : linkType < 256 ^ 2

/-- An Enhanced Packet Block of `ticks` ticks; `tail` is the padding and any
options. -/
structure PacketBlock where
  ifId : Nat
  ticks : Nat
  origLen : Nat
  data : List UInt8
  tail : List UInt8
  ticks_lt : ticks < 2 ^ 64

/-- A block of another type. -/
structure OtherBlock where
  btype : Nat
  body : List UInt8
  btype_lt : btype < 256 ^ 4
  btype_ne : btype ≠ 0x0a0d0d0a ∧ btype ≠ btypeIdb ∧ btype ≠ btypeEpb

inductive NgBlock where
  | sect (b : SectionBlock)
  | interface (b : InterfaceBlock)
  | packet (b : PacketBlock)
  | other (b : OtherBlock)

/-- Byte order and interfaces of the current section. -/
abbrev NgState := Option (Endian × List Interface)

/-- Type, total length, body, total length. -/
def frameBlock (e : Endian) (btype : Nat) (body : List UInt8) : List UInt8 :=
  e.encode 4 btype ++ (e.encode 4 (12 + body.length) ++ (body ++ e.encode 4 (12 + body.length)))

def InterfaceBlock.body (e : Endian) (b : InterfaceBlock) : List UInt8 :=
  e.encode 2 b.linkType ++ (e.encode 2 b.reserved ++ (e.encode 4 b.snaplen ++ b.options.encode e))

def PacketBlock.body (e : Endian) (b : PacketBlock) : List UInt8 :=
  e.encode 4 b.ifId ++ (e.encode 4 (b.ticks / 2 ^ 32) ++ (e.encode 4 (b.ticks % 2 ^ 32) ++
    (e.encode 4 b.data.length ++ (e.encode 4 b.origLen ++ (b.data ++ b.tail)))))

namespace NgBlock

/-- The bytes of a block behind its first twelve, in the byte order `e`. -/
def body (e : Endian) : NgBlock → List UInt8
  | sect b => byteOrderMagic b.order ++ b.body
  | interface b => b.body e
  | packet b => b.body e
  | other b => b.body

def totalLength (e : Endian) (b : NgBlock) : Nat := 12 + (b.body e).length

/-- The byte order of the current section. -/
def orderIn (s : NgState) : Endian := (s.map Prod.fst).getD .little

def encode (s : NgState) : NgBlock → List UInt8
  | sect b => frameBlock b.order 0x0a0d0d0a (byteOrderMagic b.order ++ b.body)
  | interface b => frameBlock (orderIn s) btypeIdb (b.body (orderIn s))
  | packet b => frameBlock (orderIn s) btypeEpb (b.body (orderIn s))
  | other b => frameBlock (orderIn s) b.btype b.body

/-- The section state behind a block. -/
def next (s : NgState) : NgBlock → NgState
  | sect b => some (b.order, [])
  | interface b =>
    s.map fun (e, interfaces) =>
      (e, interfaces ++ [{ linkType := b.linkType, tsresol := b.options.resolution }])
  | packet _ => s
  | other _ => s

/-- The packet of a block: link type and resolution are its interface's. -/
def packets (s : NgState) : NgBlock → List Packet
  | packet b =>
    ((s.bind fun (_, interfaces) => interfaces[b.ifId]?).map fun i =>
      { linktype := i.linkType, ts := ticksToNs i.tsresol b.ticks, record := b.data }).toList
  | _ => []

/-- Blocks other than a section header stand in a section, lengths are multiples
of four that fit their fields, and packets refer to a declared interface. -/
def WellFormed (s : NgState) (b : NgBlock) : Prop :=
  (b.totalLength (orderIn s) % 4 = 0 ∧ b.totalLength (orderIn s) < 256 ^ 4) ∧
    match b with
    | sect _ => True
    | interface _ => s.isSome = true
    | packet p => ∃ i ∈ s, p.ifId < i.2.length ∧ p.ifId < 256 ^ 4
    | other _ => s.isSome = true

/-- The block is not longer than `_MAX_RECORD`. -/
def Bounded (s : NgState) (b : NgBlock) : Prop := b.totalLength (orderIn s) ≤ maxRecord

instance (s : NgState) (b : NgBlock) : Decidable (b.Bounded s) :=
  inferInstanceAs (Decidable (_ ≤ _))

end NgBlock

/-! ## Reading one block -/

theorem length_frameBlock (e : Endian) (btype : Nat) (body : List UInt8) :
    (frameBlock e btype body).length = 12 + body.length := by
  simp only [frameBlock, List.length_append, Endian.length_encode]
  omega

theorem fields_frameBlock (e : Endian) {btype : Nat} {body : List UInt8}
    (hb : btype < 256 ^ 4) (hlen : 12 + body.length < 256 ^ 4) (rest : List UInt8) :
    field (frameBlock e btype body ++ rest) 0 4 = e.encode 4 btype ∧
    e.decode (field (frameBlock e btype body ++ rest) 0 4) = btype ∧
    e.decode (field (frameBlock e btype body ++ rest) 4 4) = 12 + body.length ∧
    field (frameBlock e btype body ++ rest) 8 body.length = body := by
  have htype : field (frameBlock e btype body ++ rest) 0 4 = e.encode 4 btype := by
    rw [frameBlock, List.append_assoc, field_head (Endian.length_encode ..)]
  refine ⟨htype, by rw [htype, e.decode_encode hb], ?_, ?_⟩
  · simp [frameBlock, field_append_right, field_head, e.decode_encode hlen]
  · simp [frameBlock, field_append_right, field_head]

/-- The section header's type reads the same in both byte orders. -/
theorem encode_eq_magic (e : Endian) {btype : Nat} (hb : btype < 256 ^ 4) :
    e.encode 4 btype = pcapngMagic ↔ btype = 0x0a0d0d0a := by
  have hmagic : e.decode pcapngMagic = 0x0a0d0d0a := by cases e <;> decide
  constructor
  · intro h
    rw [← e.decode_encode hb, h, hmagic]
  · rintro rfl
    cases e <;> decide

theorem orderOf_byteOrderMagic (e : Endian) : orderOf (byteOrderMagic e) = some e := by
  cases e <;> decide

/-- What the reader does with a complete block of a section. -/
def handleBlock (e : Endian) (interfaces : List Interface) (btype : Nat) (body : List UInt8)
    (off : Nat) (rest : List UInt8) : Yielded :=
  if btype = btypeIdb then
    match readIdb e body with
    | .error err => ([], some err)
    | .ok i => readBlocks (some (e, interfaces ++ [i])) off rest
  else if btype = btypeEpb then
    match readEpb e interfaces body with
    | .error err => ([], some err)
    | .ok packet =>
      let r := readBlocks (some (e, interfaces)) off rest
      (packet :: r.1, r.2)
  else readBlocks (some (e, interfaces)) off rest

/-- A whole block of a section. -/
theorem readBlocks_frame (e : Endian) (interfaces : List Interface) (off btype : Nat)
    {body : List UInt8} (rest : List UInt8) (hb : btype < 256 ^ 4) (hne : btype ≠ 0x0a0d0d0a)
    (hmod : (12 + body.length) % 4 = 0) (hle : 12 + body.length ≤ maxRecord) :
    readBlocks (some (e, interfaces)) off (frameBlock e btype body ++ rest) =
      handleBlock e interfaces btype body (off + (12 + body.length)) rest := by
  have hlt : 12 + body.length < 256 ^ 4 := Nat.lt_of_le_of_lt hle (by decide)
  obtain ⟨htype, hbtype, htotal, hbody⟩ := fields_frameBlock e hb hlt rest
  have hmagic : ¬ field (frameBlock e btype body ++ rest) 0 4 = pcapngMagic := by
    rwa [htype, encode_eq_magic e hb]
  have hlen := length_frameBlock e btype body
  have hall : (frameBlock e btype body ++ rest).length = 12 + body.length + rest.length := by
    rw [List.length_append, hlen]
  have hlenb : ¬ (field (frameBlock e btype body ++ rest) 4 4).length < 4 := by
    rw [length_field_lt, hall]
    omega
  have htrailer : ¬ (field (frameBlock e btype body ++ rest) (8 + body.length) 4).length < 4 := by
    rw [length_field_lt, hall]
    omega
  have hsub : 12 + body.length - 12 = body.length := by omega
  rw [readBlocks, if_neg (by rw [hall]; omega), if_neg hmagic]
  simp only [hbtype, htotal, hsub, hbody, if_neg hlenb]
  rw [if_neg (by omega), if_neg (by simpa using htrailer), List.drop_left' hlen]
  rfl

/-- A block of a section that is cut off. -/
theorem readBlocks_frame_cut (e : Endian) (interfaces : List Interface) (off btype : Nat)
    {body : List UInt8} {n : Nat} (hb : btype < 256 ^ 4) (hne : btype ≠ 0x0a0d0d0a)
    (hmod : (12 + body.length) % 4 = 0) (hle : 12 + body.length ≤ maxRecord)
    (hn : n < 12 + body.length) :
    readBlocks (some (e, interfaces)) off ((frameBlock e btype body).take n) = ([], none) := by
  have hlt : 12 + body.length < 256 ^ 4 := Nat.lt_of_le_of_lt hle (by decide)
  obtain ⟨htype, -, htotal, -⟩ := fields_frameBlock e hb hlt []
  rw [List.append_nil] at htype htotal
  have htake : ((frameBlock e btype body).take n).length = n := by
    rw [List.length_take, length_frameBlock]
    omega
  rw [readBlocks, htake]
  by_cases h4 : n < 4
  · rw [if_pos h4]
  · have hmagic : ¬ field ((frameBlock e btype body).take n) 0 4 = pcapngMagic := by
      rwa [field_take (by omega), htype, encode_eq_magic e hb]
    rw [if_neg h4, if_neg hmagic]
    simp only
    by_cases h8 : n < 8
    · rw [if_pos (by rw [length_field_lt, htake]; omega)]
    · have hlenb : ¬ (field ((frameBlock e btype body).take n) 4 4).length < 4 := by
        rw [length_field_lt, htake]
        omega
      have hshort : (field ((frameBlock e btype body).take n) 8 body.length).length <
          body.length ∨
          (field ((frameBlock e btype body).take n) (8 + body.length) 4).length < 4 := by
        rw [length_field_lt, length_field_lt, htake]
        omega
      have hsub : 12 + body.length - 12 = body.length := by omega
      have hfield : e.decode (field ((frameBlock e btype body).take n) 4 4) =
          12 + body.length := by
        rw [field_take (by omega), htotal]
      rw [if_neg hlenb]
      simp only [hfield, hsub]
      rw [if_neg (by omega), if_pos hshort]

theorem readIdb_body (e : Endian) (b : InterfaceBlock) :
    readIdb e (b.body e) =
      .ok { linkType := b.linkType, tsresol := b.options.resolution } := by
  have hlen : ¬ (b.body e).length < 8 := by
    simp only [InterfaceBlock.body, List.length_append, Endian.length_encode]
    omega
  have hlink : e.decode (field (b.body e) 0 2) = b.linkType := by
    rw [InterfaceBlock.body, field_head (Endian.length_encode ..), e.decode_encode b.linkType_lt]
  have hdrop : (b.body e).drop 8 = b.options.encode e := by
    rw [InterfaceBlock.body, ← List.append_assoc, ← List.append_assoc,
      List.drop_left' (by simp)]
  rw [readIdb, if_neg hlen, hdrop, readTsresol_encode, hlink]
  rfl

theorem readEpb_body (e : Endian) {interfaces : List Interface} {i : Interface}
    (b : PacketBlock) (hi : interfaces[b.ifId]? = some i) (hid : b.ifId < 256 ^ 4)
    (hlen : (b.body e).length < 256 ^ 4) :
    readEpb e interfaces (b.body e) =
      .ok { linktype := i.linkType, ts := ticksToNs i.tsresol b.ticks, record := b.data } := by
  have hall : (b.body e).length = 20 + b.data.length + b.tail.length := by
    simp only [PacketBlock.body, List.length_append, Endian.length_encode]
    omega
  have hhi : b.ticks / 2 ^ 32 < 256 ^ 4 := Nat.div_lt_of_lt_mul b.ticks_lt
  have hlo : b.ticks % 2 ^ 32 < 256 ^ 4 := Nat.mod_lt _ (by decide)
  have hid' : e.decode (field (b.body e) 0 4) = b.ifId := by
    rw [PacketBlock.body, field_head (Endian.length_encode ..), e.decode_encode hid]
  have hraw : e.decode (field (b.body e) 4 4) * 2 ^ 32 + e.decode (field (b.body e) 8 4) =
      b.ticks := by
    have h4 : e.decode (field (b.body e) 4 4) = b.ticks / 2 ^ 32 := by
      simpa [PacketBlock.body, field_append_right, field_head] using e.decode_encode hhi
    have h8 : e.decode (field (b.body e) 8 4) = b.ticks % 2 ^ 32 := by
      simpa [PacketBlock.body, field_append_right, field_head] using e.decode_encode hlo
    rw [h4, h8, Nat.div_add_mod']
  have hcap : e.decode (field (b.body e) 12 4) = b.data.length := by
    simp [PacketBlock.body, field_append_right, field_head,
      e.decode_encode (show b.data.length < 256 ^ 4 by omega)]
  have hdata : field (b.body e) 20 b.data.length = b.data := by
    simp [PacketBlock.body, field_append_right, field_head]
  rw [readEpb, if_neg (by omega)]
  simp only [hid', hraw, hcap, hdata, hi, tsresolToNs_eq]
  rw [if_neg (by omega)]

/-- A section header, whole. -/
theorem readBlocks_section (s : NgState) (off : Nat) (b : SectionBlock) (rest : List UInt8)
    (hle : 16 + b.body.length ≤ maxRecord) :
    readBlocks s off (NgBlock.encode s (.sect b) ++ rest) =
      readBlocks (some (b.order, [])) (off + (16 + b.body.length)) rest := by
  have hbom : (byteOrderMagic b.order ++ b.body).length = 4 + b.body.length := by
    simp [byteOrderMagic]
  have hlt : 12 + (byteOrderMagic b.order ++ b.body).length < 256 ^ 4 :=
    Nat.lt_of_le_of_lt (by omega : _ ≤ maxRecord) (by decide)
  obtain ⟨htype, -, htotal, hbody⟩ :=
    fields_frameBlock b.order (show 0x0a0d0d0a < 256 ^ 4 by decide) hlt rest
  have hlen := length_frameBlock b.order 0x0a0d0d0a (byteOrderMagic b.order ++ b.body)
  rw [NgBlock.encode]
  have hmagic := (encode_eq_magic b.order (show 0x0a0d0d0a < 256 ^ 4 by decide)).mpr rfl
  generalize hfile : frameBlock b.order 0x0a0d0d0a (byteOrderMagic b.order ++ b.body) = file at *
  have hall : (file ++ rest).length = 16 + b.body.length + rest.length := by
    rw [List.length_append, hlen]
    omega
  have hmark : field (file ++ rest) 8 4 = byteOrderMagic b.order := by
    rw [← hfile, frameBlock]
    simp [field_append_right, field_head, byteOrderMagic]
  have htot : 12 + (byteOrderMagic b.order ++ b.body).length = 16 + b.body.length := by omega
  conv_lhs => rw [readBlocks.eq_def]
  rw [if_neg (by omega), htype, if_pos hmagic,
    if_neg (by rw [length_field_lt, hall]; omega), hmark, orderOf_byteOrderMagic]
  simp only [htotal, htot]
  rw [if_neg (by omega), if_neg (by rw [length_field_lt, hall]; omega),
    List.drop_left' (hlen.trans htot)]

/-- A section header that is cut off. -/
theorem readBlocks_section_cut (s : NgState) (off : Nat) (b : SectionBlock) {n : Nat}
    (hle : 16 + b.body.length ≤ maxRecord) (hn : n < 16 + b.body.length) :
    readBlocks s off ((NgBlock.encode s (.sect b)).take n) = ([], none) := by
  have hbom : (byteOrderMagic b.order ++ b.body).length = 4 + b.body.length := by
    simp [byteOrderMagic]
  have hlt : 12 + (byteOrderMagic b.order ++ b.body).length < 256 ^ 4 :=
    Nat.lt_of_le_of_lt (by omega : _ ≤ maxRecord) (by decide)
  obtain ⟨htype, -, htotal, -⟩ :=
    fields_frameBlock b.order (show 0x0a0d0d0a < 256 ^ 4 by decide) hlt []
  have hlen := length_frameBlock b.order 0x0a0d0d0a (byteOrderMagic b.order ++ b.body)
  have hmagic := (encode_eq_magic b.order (show 0x0a0d0d0a < 256 ^ 4 by decide)).mpr rfl
  have hmark : field (NgBlock.encode s (.sect b)) 8 4 = byteOrderMagic b.order := by
    rw [NgBlock.encode, frameBlock]
    simp [field_append_right, field_head, byteOrderMagic]
  rw [List.append_nil] at htype htotal
  rw [NgBlock.encode] at hmark ⊢
  generalize frameBlock b.order 0x0a0d0d0a (byteOrderMagic b.order ++ b.body) = file at *
  have htake : (file.take n).length = n := by
    rw [List.length_take]
    omega
  have htot : 12 + (byteOrderMagic b.order ++ b.body).length = 16 + b.body.length := by omega
  rw [readBlocks.eq_def, htake]
  by_cases h4 : n < 4
  · rw [if_pos h4]
  · rw [if_neg h4, field_take (by omega), htype, if_pos hmagic]
    by_cases h12 : n < 12
    · rw [if_pos (by rw [length_field_lt, htake]; omega)]
    · rw [if_neg (by rw [length_field_lt, htake]; omega), field_take (by omega), hmark,
        orderOf_byteOrderMagic]
      simp only [field_take (show 4 + 4 ≤ n by omega), htotal, htot]
      rw [if_neg (by omega), if_pos (by rw [length_field_lt, htake]; omega)]

/-! ## Whole files -/

/-- **One block**: read whole, or cut off anywhere. -/
theorem reads_block :
    Stream.Reads NgBlock.encode NgBlock.next NgBlock.packets
      (fun s b => b.WellFormed s ∧ b.Bounded s) readBlocks where
  nil s off := by rw [readBlocks.eq_def]; rfl
  whole s off b rest h := by
    obtain ⟨⟨⟨hmod, hlt⟩, hwf⟩, hle⟩ := h
    simp only [NgBlock.Bounded, NgBlock.totalLength] at hmod hlt hle
    cases b with
    | sect b =>
        have hlen : (NgBlock.encode s (.sect b)).length = 16 + b.body.length := by
          rw [NgBlock.encode, length_frameBlock]
          simp [byteOrderMagic]
          omega
        have hle' : 16 + b.body.length ≤ maxRecord := by
          simpa [NgBlock.body, byteOrderMagic, ← Nat.add_assoc] using hle
        rw [readBlocks_section s off b rest hle', hlen]
        rfl
    | interface b =>
        obtain ⟨⟨e, interfaces⟩, rfl⟩ := Option.isSome_iff_exists.mp hwf
        have hstep := readBlocks_frame e interfaces off btypeIdb rest (by decide) (by decide)
          hmod hle
        rw [handleBlock, if_pos rfl] at hstep
        simp only [NgBlock.body, NgBlock.orderIn, Option.map_some, Option.getD_some,
          readIdb_body] at hstep
        simp only [NgBlock.encode, NgBlock.orderIn, Option.map_some, Option.getD_some,
          length_frameBlock, hstep]
        rfl
    | packet b =>
        obtain ⟨⟨e, interfaces⟩, rfl, hid, hid'⟩ := hwf
        have hi : interfaces[b.ifId]? = some interfaces[b.ifId] := List.getElem?_eq_getElem hid
        have hbody : (b.body e).length < 256 ^ 4 := by
          simp only [NgBlock.body, NgBlock.orderIn, Option.map_some, Option.getD_some] at hlt
          omega
        have hstep := readBlocks_frame e interfaces off btypeEpb rest (by decide) (by decide)
          hmod hle
        rw [handleBlock, if_neg (by decide), if_pos rfl] at hstep
        simp only [NgBlock.body, NgBlock.orderIn, Option.map_some, Option.getD_some,
          readEpb_body e b hi hid' hbody] at hstep
        simp only [NgBlock.encode, NgBlock.orderIn, Option.map_some, Option.getD_some,
          length_frameBlock, hstep]
        simp [NgBlock.packets, NgBlock.next, hi]
    | other b =>
        obtain ⟨⟨e, interfaces⟩, rfl⟩ := Option.isSome_iff_exists.mp hwf
        obtain ⟨hsect, hidb, hepb⟩ := b.btype_ne
        have hstep := readBlocks_frame e interfaces off b.btype rest b.btype_lt hsect hmod hle
        rw [handleBlock, if_neg hidb, if_neg hepb] at hstep
        simp only [NgBlock.encode, length_frameBlock]
        exact hstep
  cut s off b n h hn := by
    obtain ⟨⟨⟨hmod, hlt⟩, hwf⟩, hle⟩ := h
    simp only [NgBlock.Bounded, NgBlock.totalLength] at hmod hlt hle
    cases b with
    | sect b =>
        have hle' : 16 + b.body.length ≤ maxRecord := by
          simpa [NgBlock.body, byteOrderMagic, ← Nat.add_assoc] using hle
        refine readBlocks_section_cut s off b hle' ?_
        simpa [NgBlock.encode, length_frameBlock, byteOrderMagic, ← Nat.add_assoc] using hn
    | interface b =>
        obtain ⟨⟨e, interfaces⟩, rfl⟩ := Option.isSome_iff_exists.mp hwf
        simp only [NgBlock.encode, length_frameBlock] at hn
        exact readBlocks_frame_cut e interfaces off _ (by decide) (by decide) hmod hle hn
    | packet b =>
        obtain ⟨⟨e, interfaces⟩, rfl, -, -⟩ := hwf
        simp only [NgBlock.encode, length_frameBlock] at hn
        exact readBlocks_frame_cut e interfaces off _ (by decide) (by decide) hmod hle hn
    | other b =>
        obtain ⟨⟨e, interfaces⟩, rfl⟩ := Option.isSome_iff_exists.mp hwf
        simp only [NgBlock.encode, length_frameBlock] at hn
        exact readBlocks_frame_cut e interfaces off _ b.btype_lt b.btype_ne.1 hmod hle hn

/-- A pcapng file: well-formed blocks, a section header first. -/
structure NgFile where
  blocks : List NgBlock
  nonempty : blocks ≠ []
  wellFormed : Stream.Valid NgBlock.next (fun s b => b.WellFormed s) none blocks

namespace NgFile

/-- The bytes of the file. -/
def encode (f : NgFile) : List UInt8 := Stream.encode NgBlock.encode NgBlock.next none f.blocks

/-- The packets whose block ends within the first `n` bytes. -/
def packetsWithin (f : NgFile) (n : Nat) : List Packet :=
  Stream.within NgBlock.encode NgBlock.next NgBlock.packets none f.blocks n

/-- No block is longer than `_MAX_RECORD`. -/
def Bounded (f : NgFile) : Prop :=
  Stream.Valid NgBlock.next (fun s b => b.Bounded s) none f.blocks

instance (f : NgFile) : Decidable f.Bounded :=
  inferInstanceAs (Decidable (Stream.Valid _ _ _ _))

/-- A file starts with the type of a section header. -/
theorem take_encode (f : NgFile) : ∃ rest, f.encode = pcapngMagic ++ rest := by
  obtain ⟨blocks, hne, hwf⟩ := f
  cases blocks with
  | nil => exact absurd rfl hne
  | cons b bs =>
      have hmagic (e : Endian) : e.encode 4 0x0a0d0d0a = pcapngMagic := by cases e <;> decide
      cases b with
      | sect b =>
          simp only [encode, Stream.encode, NgBlock.encode, frameBlock, hmagic,
            List.append_assoc]
          exact ⟨_, rfl⟩
      | interface b => simp [Stream.Valid, NgBlock.WellFormed] at hwf
      | packet b => simp [Stream.Valid, NgBlock.WellFormed] at hwf
      | other b => simp [Stream.Valid, NgBlock.WellFormed] at hwf

/-- **pcapng at every cut**: the packets whose block is complete, and no error. -/
theorem iterPackets_take (f : NgFile) (hf : f.Bounded) {n : Nat} (hn : 4 ≤ n) :
    iterPackets (f.encode.take n) = (f.packetsWithin n, none) := by
  obtain ⟨rest, hrest⟩ := f.take_encode
  have hmagic : (f.encode.take n).take 4 = pcapngMagic := by
    rw [List.take_take, Nat.min_eq_left hn, hrest]
    rfl
  rw [iterPackets]
  simp only [hmagic, if_true]
  have hread := reads_block.take (f.wellFormed.and hf) 0 n
  rwa [Nat.zero_add] at hread

end NgFile

/-! ## Both formats -/

/-- **Decoding undoes encoding, at every cut**: the packets whose record or
block lies within the first `n` bytes, each with its interface's link type, its
bytes and its time, and then a clean stop. -/
theorem captureFile_take :
    (∀ (f : PcapFile) (n : Nat), f.Bounded → 24 ≤ n →
      iterPackets (f.encode.take n) = (f.packetsWithin n, none)) ∧
    (∀ (f : NgFile) (n : Nat), f.Bounded → 4 ≤ n →
      iterPackets (f.encode.take n) = (f.packetsWithin n, none)) :=
  ⟨fun f _ hf hn => f.iterPackets_take hf hn, fun f _ hf hn => f.iterPackets_take hf hn⟩

/-- A big-endian nanosecond pcap file with two records. -/
def twoRecords : PcapFile :=
  { order := .big, nanos := true, head := List.replicate 16 0, linktype := 220,
    length_head := rfl, linktype_lt := by decide,
    records :=
      [{ tsSec := 1, tsFrac := 5, origLen := 3, data := [1, 2, 3], tsSec_lt := by decide,
         tsFrac_lt := by decide, length_lt := by decide },
       { tsSec := 2, tsFrac := 0, origLen := 1, data := [4], tsSec_lt := by decide,
         tsFrac_lt := by decide, length_lt := by decide }] }

/-- A little-endian section with a named interface of nanosecond stamps, a
packet and a Simple Packet Block, then a big-endian one with a packet of an
interface whose stamps tick 1024 times a second. -/
def twoSections : NgFile :=
  { blocks :=
      [.sect { order := .little, body := List.replicate 12 0 },
       .interface
        { linkType := 220, reserved := 0, snaplen := 0, linkType_lt := by decide,
          options :=
            { before :=
                [{ code := 2, value := [101, 116, 104], pad := [0], code_lt := by decide,
                   code_ne := by decide, length_lt := by decide, length_pad := rfl }],
              tsresol := some 9, after := [], endOfOpt := true } },
       .packet { ifId := 0, ticks := 7, origLen := 2, data := [1, 2], tail := [0, 0],
                 ticks_lt := by decide },
       .other { btype := 3, body := List.replicate 8 0, btype_lt := by decide,
                btype_ne := by decide },
       .sect { order := .big, body := List.replicate 12 0 },
       .interface
        { linkType := 1, reserved := 0, snaplen := 0, linkType_lt := by decide,
          options := { before := [], tsresol := some 0x8a, after := [], endOfOpt := false } },
       .packet { ifId := 0, ticks := 2 ^ 33 + 512, origLen := 0, data := [], tail := [],
                 ticks_lt := by decide }],
    nonempty := by decide,
    wellFormed := by
      refine ⟨⟨⟨by decide, by decide⟩, trivial⟩, ⟨⟨by decide, by decide⟩, rfl⟩,
        ⟨⟨by decide, by decide⟩, _, rfl, by decide, by decide⟩, ⟨⟨by decide, by decide⟩, rfl⟩,
        ⟨⟨by decide, by decide⟩, trivial⟩, ⟨⟨by decide, by decide⟩, rfl⟩,
        ⟨⟨by decide, by decide⟩, _, rfl, by decide, by decide⟩, trivial⟩ }

theorem captureFile_take_examples :
    iterPackets (twoRecords.encode.take 59) =
        ([{ linktype := 220, ts := 1000000005, record := [1, 2, 3] }], none) ∧
      iterPackets (twoSections.encode.take 211) =
        ([{ linktype := 220, ts := 7, record := [1, 2] }], none) ∧
      iterPackets (twoSections.encode.take 212) =
        ([{ linktype := 220, ts := 7, record := [1, 2] },
          { linktype := 1, ts := 8388608500000000, record := [] }], none) :=
  ⟨(captureFile_take.1 twoRecords 59 (by decide) (by decide)).trans (by decide),
    (captureFile_take.2 twoSections 211 (by decide) (by decide)).trans (by decide),
    (captureFile_take.2 twoSections 212 (by decide) (by decide)).trans (by decide)⟩

/-- A record of one byte more than `_MAX_RECORD`. -/
def longRecord : PcapRecord :=
  { tsSec := 0, tsFrac := 0, origLen := 0, data := List.replicate (maxRecord + 1) 0,
    tsSec_lt := by decide, tsFrac_lt := by decide,
    length_lt := by rw [List.length_replicate]; decide }

/-- A little-endian microsecond file with that record. -/
def longFile : PcapFile :=
  { order := .little, nanos := false, head := List.replicate 16 0, linktype := 220,
    records := [longRecord], length_head := rfl, linktype_lt := by decide }

/-- The claimed law, without a bound on records and blocks: cut behind the
record's header, the file makes the reader raise. -/
theorem not_captureFile_take :
    ¬ ((∀ (f : PcapFile) (n : Nat), 24 ≤ n →
        iterPackets (f.encode.take n) = (f.packetsWithin n, none)) ∧
      (∀ (f : NgFile) (n : Nat), 4 ≤ n →
        iterPackets (f.encode.take n) = (f.packetsWithin n, none))) := by
  intro h
  have hlong : maxRecord < longRecord.data.length := by
    rw [longRecord, List.length_replicate]
    exact Nat.lt_succ_self _
  have hcut := h.1 longFile (24 + 16) (by decide)
  have hraise := readRecords_long .little 1000 220 24 longRecord [] (Nat.le_refl 16) hlong
  rw [PcapFile.iterPackets_header] at hcut
  exact absurd (congrArg Prod.snd (hraise.symm.trans hcut)) nofun

end CamDriver
