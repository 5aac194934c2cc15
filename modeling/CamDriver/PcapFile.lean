import CamDriver.Lib.Stream
import CamDriver.PcapIo

/-!
# CamDriver.PcapFile

Capture files as a writer produces them, and what `iter_packets` makes of every
prefix of one.

`PcapFile` is a classic pcap file, `NgFile` a pcapng one: sections with their
own byte order, interfaces with any options, packets, and blocks that are
skipped.  Both are streams of chunks in the sense of `CamDriver.Lib.Stream`; the
work is in one whole chunk and in a chunk that is cut off.
-/

namespace CamDriver

open Bytes (field field_head field_append_right field_take length_field_lt)

/-! ## Classic pcap -/

/-- A record. -/
structure PcapRecord where
  tsSec : Nat
  tsFrac : Nat
  origLen : Nat
  data : List UInt8
  tsSec_lt : tsSec < 256 ^ 4
  tsFrac_lt : tsFrac < 256 ^ 4
  length_lt : data.length < 256 ^ 4

/-- A classic pcap file; `head` is version, zone, accuracy and snaplen. -/
structure PcapFile where
  order : Endian
  nanos : Bool
  head : List UInt8
  linktype : Nat
  records : List PcapRecord
  length_head : head.length = 16
  linktype_lt : linktype < 256 ^ 4

namespace PcapRecord

def encode (e : Endian) (r : PcapRecord) : List UInt8 :=
  e.encode 4 r.tsSec ++ (e.encode 4 r.tsFrac ++ (e.encode 4 r.data.length ++
    (e.encode 4 r.origLen ++ r.data)))

/-- The packet of a record; `fracNs` is the unit of its fraction. -/
def packet (fracNs linktype : Nat) (r : PcapRecord) : Packet :=
  { linktype, ts := (r.tsSec * 1000000000 + r.tsFrac * fracNs : Nat), record := r.data }

theorem length_encode (e : Endian) (r : PcapRecord) :
    (r.encode e).length = 16 + r.data.length := by
  simp only [encode, List.length_append, Endian.length_encode]
  omega

/-- The fields of a record, whatever follows it. -/
theorem fields_encode (e : Endian) (r : PcapRecord) (rest : List UInt8) :
    e.decode (field (r.encode e ++ rest) 0 4) = r.tsSec ∧
    e.decode (field (r.encode e ++ rest) 4 4) = r.tsFrac ∧
    e.decode (field (r.encode e ++ rest) 8 4) = r.data.length ∧
    field (r.encode e ++ rest) 16 r.data.length = r.data := by
  have hlen := r.length_lt
  simp only [encode, List.append_assoc]
  refine ⟨?_, ?_, ?_, ?_⟩
  · rw [field_head (by simp), e.decode_encode r.tsSec_lt]
  · rw [field_append_right (by simp)]
    simp [field_head, e.decode_encode r.tsFrac_lt]
  · simp [field_append_right, field_head, e.decode_encode hlen]
  · simp [field_append_right, field_head]

end PcapRecord

/-- **One record**: read whole, or cut off anywhere. -/
theorem reads_record (e : Endian) (fracNs linktype : Nat) :
    Stream.Reads (fun (_ : Unit) r => PcapRecord.encode e r) (fun s _ => s)
      (fun _ r => [r.packet fracNs linktype]) (fun _ r => r.data.length ≤ maxRecord)
      (fun _ => readRecords e fracNs linktype) where
  nil _ off := by rw [readRecords]; rfl
  whole _ off r rest hle := by
    obtain ⟨hsec, hfrac, hlen, hdata⟩ := r.fields_encode e rest
    have hshort : ¬ (r.encode e ++ rest).length < 16 := by
      rw [List.length_append, r.length_encode]
      omega
    rw [readRecords, if_neg hshort]
    simp only [hsec, hfrac, hlen, hdata]
    rw [if_neg (Nat.not_lt.mpr hle), if_neg (Nat.lt_irrefl _), ← r.length_encode e,
      List.drop_left]
    rfl
  cut _ off r n hle hn := by
    obtain ⟨-, -, hlen, -⟩ := r.fields_encode e []
    rw [List.append_nil] at hlen
    rw [r.length_encode] at hn
    have htake : ((r.encode e).take n).length = n := by
      rw [List.length_take, r.length_encode]
      omega
    rw [readRecords, htake]
    by_cases h16 : n < 16
    · rw [if_pos h16]
    · have hfield : field ((r.encode e).take n) 8 4 = field (r.encode e) 8 4 :=
        field_take (by omega)
      have hdata : (field ((r.encode e).take n) 16 r.data.length).length < r.data.length := by
        rw [length_field_lt, htake]
        omega
      rw [if_neg h16]
      simp only [hfield, hlen]
      rw [if_neg (Nat.not_lt.mpr hle), if_pos hdata]

/-- A record above the bound makes the reader raise as soon as its header is read. -/
theorem readRecords_long (e : Endian) (fracNs linktype off : Nat) (r : PcapRecord)
    (rest : List UInt8) {m : Nat} (hm : 16 ≤ m) (hr : maxRecord < r.data.length) :
    readRecords e fracNs linktype off ((r.encode e ++ rest).take m) =
      ([], some (.recordLength off r.data.length)) := by
  obtain ⟨-, -, hlen, -⟩ := r.fields_encode e rest
  have hfield : e.decode (field ((r.encode e ++ rest).take m) 8 4) = r.data.length := by
    rw [field_take (by omega), hlen]
  have hshort : ¬ ((r.encode e ++ rest).take m).length < 16 := by
    rw [List.length_take, List.length_append, r.length_encode]
    omega
  rw [readRecords, if_neg hshort]
  simp only [hfield, if_pos hr]

namespace PcapFile

def fracNs (f : PcapFile) : Nat := if f.nanos then 1 else 1000

/-- The records as they follow the 24-byte header. -/
def body (f : PcapFile) : List UInt8 :=
  Stream.encode (fun (_ : Unit) r => PcapRecord.encode f.order r) (fun s _ => s) () f.records

/-- The bytes of the file. -/
def encode (f : PcapFile) : List UInt8 :=
  pcapMagic f.order f.nanos ++ (f.head ++ (f.order.encode 4 f.linktype ++ f.body))

/-- The packets whose record ends within the first `n` bytes: a record ends
behind the header, the records before it and its own bytes. -/
def packetsWithin (f : PcapFile) (n : Nat) : List Packet :=
  ((Stream.layout (fun (_ : Unit) r => PcapRecord.encode f.order r) (fun s _ => s)
    (fun _ r => [r.packet f.fracNs f.linktype]) () 24 f.records).filter (·.1 ≤ n)).map Prod.snd

/-- No record is longer than `_MAX_RECORD`. -/
def Bounded (f : PcapFile) : Prop := ∀ r ∈ f.records, r.data.length ≤ maxRecord

instance (f : PcapFile) : Decidable f.Bounded :=
  inferInstanceAs (Decidable (∀ r ∈ f.records, r.data.length ≤ maxRecord))

theorem lookup_pcapMagic (e : Endian) (nanos : Bool) :
    pcapMagic e nanos ≠ pcapngMagic ∧
      pcapMagics.lookup (pcapMagic e nanos) = some (e, if nanos then 1 else 1000) := by
  cases e <;> cases nanos <;> decide

/-- Behind the 24-byte header the record loop reads what is left of the body. -/
theorem iterPackets_header (f : PcapFile) (m : Nat) :
    iterPackets (f.encode.take (24 + m)) =
      readRecords f.order f.fracNs f.linktype 24 (f.body.take m) := by
  have hmagic : (pcapMagic f.order f.nanos).length = 4 := by simp [pcapMagic]
  obtain ⟨hng, hlookup⟩ := lookup_pcapMagic f.order f.nanos
  have hcut : f.encode.take (24 + m) = pcapMagic f.order f.nanos ++
      (f.head ++ (f.order.encode 4 f.linktype ++ f.body.take m)) := by
    simp only [encode, List.take_append, hmagic, f.length_head, Endian.length_encode]
    rw [List.take_of_length_le (by omega), List.take_of_length_le (by rw [f.length_head]; omega),
      List.take_of_length_le (by rw [Endian.length_encode]; omega)]
    congr 4
    omega
  have hlen : ¬ (f.head ++ (f.order.encode 4 f.linktype ++ f.body.take m)).length < 20 := by
    simp only [List.length_append, f.length_head, Endian.length_encode]
    omega
  have hlinktype : f.order.decode (field (f.head ++ (f.order.encode 4 f.linktype ++
      f.body.take m)) 16 4) = f.linktype := by
    rw [field_append_right f.length_head.le, f.length_head,
      field_head (Endian.length_encode ..), f.order.decode_encode f.linktype_lt]
  have hdrop : (f.head ++ (f.order.encode 4 f.linktype ++ f.body.take m)).drop 20 =
      f.body.take m := by
    rw [← List.append_assoc, List.drop_left' (by simp [f.length_head])]
  rw [iterPackets, hcut, List.take_left' hmagic, List.drop_left' hmagic, if_neg hng, hlookup]
  simp only [iterPcap, if_neg hlen, hlinktype, hdrop]
  rfl

/-- **pcap at every cut**: the packets whose record is complete, and no error. -/
theorem iterPackets_take (f : PcapFile) (hf : f.Bounded) {n : Nat} (hn : 24 ≤ n) :
    iterPackets (f.encode.take n) = (f.packetsWithin n, none) := by
  obtain ⟨m, rfl⟩ := Nat.exists_eq_add_of_le hn
  have hvalid : Stream.Valid (fun (s : Unit) (_ : PcapRecord) => s)
      (fun _ r => r.data.length ≤ maxRecord) () f.records := Stream.valid_of_forall hf
  rw [iterPackets_header]
  exact (reads_record f.order f.fracNs f.linktype).take hvalid 24 m

end PcapFile

end CamDriver
