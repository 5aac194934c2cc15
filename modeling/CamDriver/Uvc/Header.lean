/-!
# CamDriver.Uvc.Header

The UVC payload header: `bHeaderLength`, `bmHeaderInfo`, then an optional
presentation time (4 bytes) and source clock reference (6 bytes), then any
padding up to `bHeaderLength`.

`parseUvcHeader` is the parser's `_parse_uvc_header`.  `UvcHeader` is a header
a device can send, with its well-formedness as fields, and
`parseUvcHeader_encode` reads it back in front of any payload data.
-/

namespace CamDriver.Uvc

/-! ## bmHeaderInfo bits -/

/-- Toggles from frame to frame (`_FID`). -/
def fidBit (info : UInt8) : Bool := info &&& 0x01 != 0

/-- Last payload of a frame (`_EOF`). -/
def eofBit (info : UInt8) : Bool := info &&& 0x02 != 0

/-- A presentation time is present (`_PTS`). -/
def ptsBit (info : UInt8) : Bool := info &&& 0x04 != 0

/-- A source clock reference is present (`_SCR`). -/
def scrBit (info : UInt8) : Bool := info &&& 0x08 != 0

/-- The device reports an error (`_ERR`). -/
def errBit (info : UInt8) : Bool := info &&& 0x40 != 0

/-- The header length the PTS and SCR bits call for. -/
def impliedLength (info : UInt8) : Nat :=
  2 + (if ptsBit info then 4 else 0) + (if scrBit info then 6 else 0)

/-! ## The parser -/

/-- `_parse_uvc_header`: header length and info of a payload that starts with a
sane header.  Padded headers are accepted unless `strict`. -/
def parseUvcHeader (strict : Bool) : List UInt8 → Option (Nat × UInt8)
  | hlen :: info :: rest =>
    let implied := impliedLength info
    if strict then
      if hlen.toNat ≠ implied ∨ rest.length + 2 < hlen.toNat then none
      else some (hlen.toNat, info)
    else if implied ≤ hlen.toNat ∧ hlen.toNat ≤ rest.length + 2 then some (hlen.toNat, info)
    else none
  | _ => none

/-! ## Headers a device sends -/

/-- A valid header without the error bit.  `res`, `sti` and `eoh` are the info
bits the parser does not look at. -/
structure UvcHeader where
  fid : Bool
  eof : Bool
  res : Bool
  sti : Bool
  eoh : Bool
  pts : Option (List UInt8)
  scr : Option (List UInt8)
  pad : List UInt8
  pts_length : ∀ b ∈ pts, b.length = 4
  scr_length : ∀ b ∈ scr, b.length = 6
  fits : 2 + (pts.getD [] ++ scr.getD [] ++ pad).length < 256

namespace UvcHeader

/-- The info byte made of its bits; bit 6, the error bit, stays clear. -/
def infoOf (fid eof pts scr res sti eoh : Bool) : UInt8 :=
  fid.toUInt8 ||| eof.toUInt8 <<< 1 ||| pts.toUInt8 <<< 2 ||| scr.toUInt8 <<< 3 |||
    res.toUInt8 <<< 4 ||| sti.toUInt8 <<< 5 ||| eoh.toUInt8 <<< 7

def info (h : UvcHeader) : UInt8 :=
  infoOf h.fid h.eof h.pts.isSome h.scr.isSome h.res h.sti h.eoh

/-- Everything between the info byte and the payload data. -/
def tail (h : UvcHeader) : List UInt8 := h.pts.getD [] ++ h.scr.getD [] ++ h.pad

/-- `bHeaderLength`. -/
def length (h : UvcHeader) : Nat := 2 + h.tail.length

/-- A payload: the header, then the data. -/
def encode (h : UvcHeader) (data : List UInt8) : List UInt8 :=
  UInt8.ofNat h.length :: h.info :: (h.tail ++ data)

/-- Each flag of the info byte is read back as it was set. -/
theorem bits_infoOf (fid eof pts scr res sti eoh : Bool) :
    fidBit (infoOf fid eof pts scr res sti eoh) = fid ∧
    eofBit (infoOf fid eof pts scr res sti eoh) = eof ∧
    ptsBit (infoOf fid eof pts scr res sti eoh) = pts ∧
    scrBit (infoOf fid eof pts scr res sti eoh) = scr ∧
    errBit (infoOf fid eof pts scr res sti eoh) = false := by
  revert fid eof pts scr res sti eoh
  decide

@[simp] theorem fidBit_info (h : UvcHeader) : fidBit h.info = h.fid :=
  (bits_infoOf _ _ _ _ _ _ _).1

@[simp] theorem eofBit_info (h : UvcHeader) : eofBit h.info = h.eof :=
  (bits_infoOf _ _ _ _ _ _ _).2.1

@[simp] theorem ptsBit_info (h : UvcHeader) : ptsBit h.info = h.pts.isSome :=
  (bits_infoOf _ _ _ _ _ _ _).2.2.1

@[simp] theorem scrBit_info (h : UvcHeader) : scrBit h.info = h.scr.isSome :=
  (bits_infoOf _ _ _ _ _ _ _).2.2.2.1

@[simp] theorem errBit_info (h : UvcHeader) : errBit h.info = false :=
  (bits_infoOf _ _ _ _ _ _ _).2.2.2.2

/-- A PTS takes four bytes where there is one. -/
theorem length_pts (h : UvcHeader) : (h.pts.getD []).length = if h.pts.isSome then 4 else 0 := by
  cases hp : h.pts with
  | none => rfl
  | some b => exact h.pts_length b hp

/-- An SCR takes six. -/
theorem length_scr (h : UvcHeader) : (h.scr.getD []).length = if h.scr.isSome then 6 else 0 := by
  cases hs : h.scr with
  | none => rfl
  | some b => exact h.scr_length b hs

/-- A device's header is the implied length plus its padding. -/
theorem length_eq (h : UvcHeader) : h.length = impliedLength h.info + h.pad.length := by
  simp only [length, tail, List.length_append, length_pts, length_scr, impliedLength, ptsBit_info,
    scrBit_info]
  omega

/-- A payload header says its length in one byte. -/
theorem length_lt (h : UvcHeader) : h.length < 256 := h.fits

/-- **Header read-back**: a device's header is parsed in front of any data. -/
theorem parseUvcHeader_encode (h : UvcHeader) (data : List UInt8) :
    parseUvcHeader false (h.encode data) = some (h.length, h.info) := by
  have hn : (UInt8.ofNat h.length).toNat = h.length := by
    rw [UInt8.toNat_ofNat', Nat.mod_eq_of_lt h.length_lt]
  have hlow : impliedLength h.info ≤ h.length := by rw [length_eq]; omega
  have hhigh : h.length ≤ (h.tail ++ data).length + 2 := by
    rw [length, List.length_append]; omega
  simp only [encode, parseUvcHeader, hn]
  rw [if_neg (by decide), if_pos ⟨hlow, hhigh⟩]

/-- The data is what follows the header. -/
theorem drop_length_encode (h : UvcHeader) (data : List UInt8) :
    (h.encode data).drop h.length = data := by
  rw [encode, length, Nat.add_comm, List.drop_succ_cons, List.drop_succ_cons, List.drop_left]

end UvcHeader

end CamDriver.Uvc
