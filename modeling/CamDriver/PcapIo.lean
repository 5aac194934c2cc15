import CamDriver.Lib.Bytes

/-!
# CamDriver.PcapIo

Capture-file readers: classic pcap and pcapng to `(link_type, ts_ns, record)`.

A reader yields packets until it returns or raises; here it answers with the
packets and the error, if any.  The file is a list of bytes, and each
`f.read(n)` is the next field of it, shorter than `n` where the file ends.
A file that ends inside a record or block makes the reader return.
-/

namespace CamDriver

open Bytes (field)

/-- One packet of a capture file. -/
structure Packet where
  linktype : Nat
  ts : Int
  record : List UInt8
deriving DecidableEq, Repr

/-- What `iter_packets` raises.  All but the last are a `PcapFormatError`. -/
inductive PcapError where
  | notCapture (magic : List UInt8)
  | truncatedGlobalHeader
  | recordLength (off inclLen : Nat)
  | byteOrderMagic (bom : List UInt8)
  | sectionLength (totalLen : Nat)
  | noSection
  | blockLength (btype off totalLen : Nat)
  | shortIdb
  | shortEpb
  | unknownInterface (ifId declared : Nat)
  | capturedLength (capLen held : Nat)
  /-- `IndexError`: an `if_tsresol` option without its value -/
  | index
deriving DecidableEq, Repr

namespace PcapError

/-- At least `width` hex digits. -/
def hex (width n : Nat) : String := String.ofList (List.leftpad width '0' (Nat.toDigits 16 n))

/-- `bytes.hex()`. -/
def hexBytes (bs : List UInt8) : String := String.join (bs.map fun b => hex 2 b.toNat)

/-- The text of the exception, without the path in front of it. -/
def message : PcapError → String
  | notCapture magic =>
    "not a pcap or pcapng file (first bytes " ++
      (if magic = [] then "<empty>" else hexBytes magic) ++ ")"
  | truncatedGlobalHeader => "truncated pcap global header"
  | recordLength off inclLen =>
    "record at offset " ++ toString off ++ " claims " ++ toString inclLen ++
      " bytes -- corrupt file"
  | byteOrderMagic bom => "SHB with bad byte-order magic " ++ hexBytes bom
  | sectionLength totalLen => "SHB with absurd length " ++ toString totalLen
  | noSection => "pcapng file does not start with a Section Header Block"
  | blockLength btype off totalLen =>
    "block type 0x" ++ hex 8 btype ++ " at offset " ++ toString off ++ " with bad length " ++
      toString totalLen
  | shortIdb => "IDB shorter than its fixed fields"
  | shortEpb => "EPB shorter than its fixed fields"
  | unknownInterface ifId declared =>
    "EPB references interface " ++ toString ifId ++ " but only " ++ toString declared ++
      " declared"
  | capturedLength capLen held =>
    "EPB claims " ++ toString capLen ++ " captured bytes but the block holds " ++ toString held
  | index => "index out of range"

end PcapError

/-- The packets a reader yielded, and what it raised in the end. -/
abbrev Yielded := List Packet × Option PcapError

/-- `_MAX_RECORD`. -/
def maxRecord : Nat := 256 * 1024 * 1024

/-! ## Classic pcap -/

/-- A magic of classic pcap: byte order and nanosecond (or microsecond) stamps. -/
def pcapMagic (e : Endian) (nanos : Bool) : List UInt8 :=
  e.encode 4 (if nanos then 0xa1b23c4d else 0xa1b2c3d4)

/-- `_PCAP_MAGICS`. -/
def pcapMagics : List (List UInt8 × Endian × Nat) :=
  [(pcapMagic .little false, .little, 1000), (pcapMagic .big false, .big, 1000),
    (pcapMagic .little true, .little, 1), (pcapMagic .big true, .big, 1)]

/-- The record loop of `_iter_pcap`, at offset `off` of the file. -/
def readRecords (e : Endian) (fracNs linktype off : Nat) (rest : List UInt8) : Yielded :=
  if rest.length < 16 then ([], none)
  else
    let inclLen := e.decode (field rest 8 4)
    if maxRecord < inclLen then ([], some (.recordLength off inclLen))
    else
      let data := field rest 16 inclLen
      if data.length < inclLen then ([], none)
      else
        let ts := e.decode (field rest 0 4) * 1000000000 + e.decode (field rest 4 4) * fracNs
        let r := readRecords e fracNs linktype (off + (16 + inclLen)) (rest.drop (16 + inclLen))
        ({ linktype, ts, record := data } :: r.1, r.2)
termination_by rest.length
decreasing_by
  rw [List.length_drop]
  omega

/-- `_iter_pcap`, behind the magic. -/
def iterPcap (e : Endian) (fracNs : Nat) (rest : List UInt8) : Yielded :=
  if rest.length < 20 then ([], some .truncatedGlobalHeader)
  else readRecords e fracNs (e.decode (field rest 16 4)) 24 (rest.drop 20)

/-! ## pcapng -/

/-- `_PCAPNG_MAGIC`: the type of a Section Header Block, the same both ways. -/
def pcapngMagic : List UInt8 := [0x0a, 0x0d, 0x0d, 0x0a]

/-- `_IDB`. -/
def btypeIdb : Nat := 1

/-- `_EPB`. -/
def btypeEpb : Nat := 6

/-- The byte-order magic as a writer stored it. -/
def byteOrderMagic (e : Endian) : List UInt8 := e.encode 4 0x1a2b3c4d

/-- `_tsresol_to_ns`. -/
def tsresolToNs (tsresol raw : Nat) : Nat :=
  if 128 ≤ tsresol then raw * 1000000000 / 2 ^ (tsresol % 128)
  else if tsresol ≤ 9 then raw * 10 ^ (9 - tsresol)
  else raw / 10 ^ (tsresol - 9)

/-- A declared interface: its link type and the resolution of its stamps. -/
structure Interface where
  linkType : Nat
  tsresol : Nat
deriving DecidableEq, Repr

/-- The option loop of an IDB: the last `if_tsresol` before `opt_endofopt`. -/
def readTsresol (e : Endian) (tsresol : Nat) (opts : List UInt8) : Except PcapError Nat :=
  if opts.length < 4 then .ok tsresol
  else
    let code := e.decode (field opts 0 2)
    let olen := e.decode (field opts 2 2)
    if code = 0 then .ok tsresol
    else
      let opts' := opts.drop (4 + (olen + 3) / 4 * 4)
      if code = 9 ∧ 1 ≤ olen then
        match opts[4]? with
        | none => .error .index
        | some v => readTsresol e v.toNat opts'
      else readTsresol e tsresol opts'
termination_by opts.length
decreasing_by all_goals simp only [List.length_drop]; omega

/-- The body of an Interface Description Block. -/
def readIdb (e : Endian) (body : List UInt8) : Except PcapError Interface :=
  if body.length < 8 then .error .shortIdb
  else do
    let tsresol ← readTsresol e 6 (body.drop 8)
    return { linkType := e.decode (field body 0 2), tsresol }

/-- The body of an Enhanced Packet Block. -/
def readEpb (e : Endian) (interfaces : List Interface) (body : List UInt8) :
    Except PcapError Packet :=
  if body.length < 20 then .error .shortEpb
  else
    let ifId := e.decode (field body 0 4)
    let raw := e.decode (field body 4 4) * 2 ^ 32 + e.decode (field body 8 4)
    let capLen := e.decode (field body 12 4)
    match interfaces[ifId]? with
    | none => .error (.unknownInterface ifId interfaces.length)
    | some i =>
      if body.length - 20 < capLen then .error (.capturedLength capLen (body.length - 20))
      else .ok { linktype := i.linkType, ts := tsresolToNs i.tsresol raw,
                 record := field body 20 capLen }

/-- The byte order a byte-order magic tells. -/
def orderOf (bom : List UInt8) : Option Endian :=
  if bom = byteOrderMagic .little then some .little
  else if bom = byteOrderMagic .big then some .big
  else none

/-- The block loop of `_iter_pcapng`, at offset `off` of the file.  The four
bytes the dispatcher has consumed are read again as the first block's type. -/
def readBlocks (sect : Option (Endian × List Interface)) (off : Nat) (rest : List UInt8) :
    Yielded :=
  if rest.length < 4 then ([], none)
  else if field rest 0 4 = pcapngMagic then
    if (field rest 4 8).length < 8 then ([], none)
    else
      match orderOf (field rest 8 4) with
      | none => ([], some (.byteOrderMagic (field rest 8 4)))
      | some e =>
        let totalLen := e.decode (field rest 4 4)
        if ¬ (12 ≤ totalLen ∧ totalLen ≤ maxRecord) then ([], some (.sectionLength totalLen))
        else if (field rest 12 (totalLen - 12)).length < totalLen - 12 then ([], none)
        else readBlocks (some (e, [])) (off + totalLen) (rest.drop totalLen)
  else
    match sect with
    | none => ([], some .noSection)
    | some (e, interfaces) =>
      if (field rest 4 4).length < 4 then ([], none)
      else
        let btype := e.decode (field rest 0 4)
        let totalLen := e.decode (field rest 4 4)
        if ¬ (12 ≤ totalLen ∧ totalLen ≤ maxRecord) ∨ totalLen % 4 ≠ 0 then
          ([], some (.blockLength btype off totalLen))
        else
          let body := field rest 8 (totalLen - 12)
          let trailer := field rest (8 + (totalLen - 12)) 4
          if body.length < totalLen - 12 ∨ trailer.length < 4 then ([], none)
          else if btype = btypeIdb then
            match readIdb e body with
            | .error err => ([], some err)
            | .ok i =>
              readBlocks (some (e, interfaces ++ [i])) (off + totalLen) (rest.drop totalLen)
          else if btype = btypeEpb then
            match readEpb e interfaces body with
            | .error err => ([], some err)
            | .ok packet =>
              let r := readBlocks (some (e, interfaces)) (off + totalLen) (rest.drop totalLen)
              (packet :: r.1, r.2)
          else readBlocks (some (e, interfaces)) (off + totalLen) (rest.drop totalLen)
termination_by rest.length
decreasing_by all_goals rw [List.length_drop]; omega

/-! ## The dispatcher -/

/-- `iter_packets` on the bytes of a file. -/
def iterPackets (file : List UInt8) : Yielded :=
  let magic := file.take 4
  if magic = pcapngMagic then readBlocks none 0 file
  else
    match pcapMagics.lookup magic with
    | some (e, fracNs) => iterPcap e fracNs (file.drop 4)
    | none => ([], some (.notCapture magic))

end CamDriver
