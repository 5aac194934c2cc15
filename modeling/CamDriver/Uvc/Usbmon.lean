import CamDriver.PcapIo

/-!
# CamDriver.Uvc.Usbmon

usbmon records: the 64-byte header of `LINKTYPE_USB_LINUX_MMAPPED` and its
48-byte prefix of the older link type, the isochronous descriptors behind it,
and the captured URB buffer.

Header fields are in the capturing host's byte order.  `parse` settles it on
the first record that only one byte order makes plausible, and reads the
records before it in the order that gives the smaller bus number.
-/

namespace CamDriver.Uvc

/-! ## Records -/

/-- `LINKTYPE_USBMON_64`. -/
def linktypeUsbmon64 : Nat := 220

/-- `LINKTYPE_USBMON_48`. -/
def linktypeUsbmon48 : Nat := 189

/-- `_S`: a submission. -/
def typeS : Nat := 83

/-- `_C`: a completion. -/
def typeC : Nat := 67

/-- `_E`: a submission error. -/
def typeE : Nat := 69

def xferIso : Nat := 0
def xferBulk : Nat := 3

/-- The iso descriptors a record can carry. -/
def isoDescMax : Nat := 128

/-- `_Urb`: one parsed usbmon record. -/
structure Urb where
  urbId : Nat
  type : Nat
  xfer : Nat
  ep : Nat
  isIn : Bool
  dev : Nat
  bus : Nat
  hasSetup : Bool
  hasData : Bool
  status : Int
  length : Nat
  lenCap : Nat
  setup : List UInt8
  ndesc : Nat
  hdrLen : Nat
  ts : Int
  record : List UInt8
deriving DecidableEq, Repr

namespace Urb

/-- What submissions and completions of one URB share. -/
def key (u : Urb) : Nat × Nat := (u.bus, u.urbId)

/-- `data`: the captured URB buffer behind the iso descriptors, bounded by
`len_cap` and by what the record holds. -/
def data (u : Urb) : List UInt8 :=
  let start := u.hdrLen + u.ndesc * 16
  let stop := u.hdrLen + min u.lenCap (u.record.length - u.hdrLen)
  (u.record.take stop).drop start

end Urb

/-! ## Parsing -/

def headerLength (linktype : Nat) : Nat := if linktype = linktypeUsbmon64 then 64 else 48

/-- The packet count in the iso half of the setup union. -/
def isoNumdesc (e : Endian) (setup : List UInt8) : Int := e.decodeInt (Bytes.field setup 4 4)

/-- `_parse_with`: read a record in the given byte order. -/
def parseWith (e : Endian) (linktype : Nat) (ts : Int) (rec : List UInt8) : Option Urb :=
  let hdrLen := headerLength linktype
  let nat := fun off width => e.decode (Bytes.field rec off width)
  if rec.length < hdrLen then none
  else
    let xfer := nat 9 1
    let setup := Bytes.field rec 40 8
    let ndesc :=
      if xfer = xferIso then
        if hdrLen = 64 then min (nat 60 4) isoDescMax
        else min (min (isoNumdesc e setup).toNat ((rec.length - hdrLen) / 16)) isoDescMax
      else 0
    some
      { urbId := nat 0 8, type := nat 8 1, xfer, ep := nat 10 1 % 128, isIn := 128 ≤ nat 10 1,
        dev := nat 11 1, bus := nat 12 2, hasSetup := nat 14 1 = 0, hasData := nat 15 1 = 0,
        status := e.decodeInt (Bytes.field rec 28 4), length := nat 32 4, lenCap := nat 36 4,
        setup, ndesc, hdrLen, ts, record := rec }

/-- `_plausible`. -/
def Urb.Plausible (u : Urb) : Prop :=
  (u.type = typeS ∨ u.type = typeC ∨ u.type = typeE) ∧ u.xfer ≤ 3 ∧ u.bus ≤ 4096 ∧
    u.lenCap ≤ u.record.length - u.hdrLen + 16 * isoDescMax

instance (u : Urb) : Decidable u.Plausible := inferInstanceAs (Decidable (_ ∧ _ ∧ _ ∧ _))

/-- The byte order two readings of one record settle, if only one of them is
plausible, and the order this record is read in. -/
def byteOrder (le be : Urb) : Option Endian × Endian :=
  if le.Plausible then
    if be.Plausible then (none, if le.bus ≤ be.bus then .little else .big)
    else (some .little, .little)
  else if be.Plausible then (some .big, .big)
  else (none, .little)

/-- `parse`: the parser's only state is the byte order, once it is settled. -/
def parse (settled : Option Endian) (linktype : Nat) (ts : Int) (rec : List UInt8) :
    Option Endian × Option Urb :=
  match settled with
  | some e => (some e, parseWith e linktype ts rec)
  | none =>
    match parseWith .little linktype ts rec, parseWith .big linktype ts rec with
    | some le, some be =>
      match byteOrder le be with
      | (settled', .little) => (settled', some le)
      | (settled', .big) => (settled', some be)
    | le, _ => (none, le)

/-! ## Isochronous packets -/

/-- The descriptor of one iso packet. -/
structure IsoDesc where
  status : Int
  offset : Nat
  length : Nat
deriving DecidableEq, Repr

namespace Urb

/-- Where descriptor `i` starts in the record. -/
def descOffset (u : Urb) (i : Nat) : Nat := u.hdrLen + i * 16

def isoDesc (e : Endian) (u : Urb) (i : Nat) : IsoDesc :=
  let off := u.descOffset i
  { status := e.decodeInt (Bytes.field u.record off 4),
    offset := e.decode (Bytes.field u.record (off + 4) 4),
    length := e.decode (Bytes.field u.record (off + 8) 4) }

/-- What one iso packet yields: `(payload, lost)`, or nothing if it was empty. -/
def isoPacket (e : Endian) (u : Urb) (i : Nat) : Option (List UInt8 × Bool) :=
  let d := u.isoDesc e i
  if d.status ≠ 0 then some ([], true)
  else if d.length = 0 then none
  else if u.data.length < d.offset + d.length then some ([], true)
  else some (Bytes.field u.data d.offset d.length, false)

/-- `iso_payloads`: the packets of a completion, up to the first descriptor
that the record does not hold. -/
def isoPayloads (e : Endian) (u : Urb) : List (List UInt8 × Bool) :=
  ((List.range u.ndesc).takeWhile fun i => u.descOffset i + 16 ≤ u.record.length).filterMap
    (u.isoPacket e)

end Urb

end CamDriver.Uvc
