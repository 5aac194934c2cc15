import CamDriver.Lib.Machine
import CamDriver.Uvc.Extractor

/-!
# CamDriver.Uvc.ByteOrder

When the parser reads a capture in the byte order of the host that wrote it.

A host fills in the headers of its records in one byte order, and each record may be cut to a
snaplen behind its header.  A record that is cut by much is no longer plausible as the host
wrote it (`Overruns`), and it can be plausible read the other way (`SwapFits`): until another
record has settled the order, such a record misleads the parser.
-/

namespace CamDriver.Uvc

open Bytes (field)

/-! ## Records of one host -/

/-- A usbmon record as the host wrote it, and where the capture cut it off.  The record is
long enough for its `len_cap`, but for the descriptors of an iso transfer. -/
structure HostRecord (host : Endian) where
  linktype : Nat
  ts : Int
  full : List UInt8
  snaplen : Nat
  usb : linktype = linktypeUsbmon64 ∨ linktype = linktypeUsbmon48
  header : headerLength linktype ≤ full.length
  cut : headerLength linktype ≤ snaplen
  type : host.decode (field full 8 1) = typeS ∨ host.decode (field full 8 1) = typeC ∨
    host.decode (field full 8 1) = typeE
  xfer : host.decode (field full 9 1) ≤ 3
  bus : 1 ≤ host.decode (field full 12 2) ∧ host.decode (field full 12 2) ≤ 255
  lenCap : host.decode (field full 36 4) ≤
    full.length - headerLength linktype + 16 * isoDescMax

namespace HostRecord

variable {host : Endian}

/-- What the capture holds of a record. -/
def packet (r : HostRecord host) : Packet :=
  { linktype := r.linktype, ts := r.ts, record := r.full.take r.snaplen }

/-- The record in the given byte order. -/
def reading (r : HostRecord host) (e : Endian) : Option Urb :=
  parseWith e r.packet.linktype r.packet.ts r.packet.record

/-- What the capture holds behind the header. -/
def held (r : HostRecord host) : Nat := r.packet.record.length - headerLength r.linktype

/-- `len_cap` is more than the capture holds, by more than the descriptors of a transfer. -/
def Overruns (r : HostRecord host) : Prop :=
  r.held + 16 * isoDescMax < host.decode (field r.full 36 4)

/-- Read the other way, the bus number and `len_cap` are within their bounds. -/
def SwapFits (r : HostRecord host) : Prop :=
  host.decode (field r.full 12 2) ≤ 16 ∧
    host.swap.decode (field r.full 36 4) ≤ r.held + 16 * isoDescMax

instance (r : HostRecord host) : Decidable r.Overruns := inferInstanceAs (Decidable (_ < _))

instance (r : HostRecord host) : Decidable r.SwapFits := inferInstanceAs (Decidable (_ ∧ _))

/-- Taken for a record of the other byte order, or, if that does not fit either, for a
little-endian one. -/
def Misleads (r : HostRecord host) : Prop := r.Overruns ∧ (host = .big ∨ r.SwapFits)

/-- Plausible in the order of the host alone. -/
def Settles (r : HostRecord host) : Prop := ¬ r.Overruns ∧ ¬ r.SwapFits

instance (r : HostRecord host) : Decidable r.Settles := inferInstanceAs (Decidable (_ ∧ _))

/-- The record of a big-endian host with descriptors that fits both ways. -/
def Guessed (r : HostRecord host) : Prop :=
  host = .big ∧ r.SwapFits ∧ ∃ u, r.reading host = some u ∧ u.ndesc ≠ 0

theorem length_record (r : HostRecord host) :
    headerLength r.packet.linktype ≤ r.packet.record.length := by
  rw [packet, List.length_take]
  exact le_min r.cut r.header

/-- The header survives every cut. -/
theorem field_record (r : HostRecord host) {off width : Nat} (h : off + width ≤ 48) :
    field r.packet.record off width = field r.full off width := by
  refine Bytes.field_take (h.trans (le_trans ?_ r.cut))
  rw [headerLength]
  split <;> omega

/-- The four fields the parser judges a record by. -/
theorem reading_eq_some (r : HostRecord host) (e : Endian) : ∃ u, r.reading e = some u ∧
    u.type = host.decode (field r.full 8 1) ∧ u.xfer = host.decode (field r.full 9 1) ∧
    u.bus = e.decode (field r.full 12 2) ∧ u.lenCap = e.decode (field r.full 36 4) ∧
    u.record.length - u.hdrLen = r.held := by
  have hbyte {off : Nat} (h : off + 1 ≤ 48) :
      e.decode (field r.packet.record off 1) = host.decode (field r.full off 1) := by
    rw [r.field_record h]
    refine Endian.decode_byte ?_ e host
    have hheader := r.header
    have hle : 48 ≤ headerLength r.linktype := by
      rw [headerLength]
      split <;> omega
    rw [Bytes.length_field]
    omega
  rw [reading, parseWith, if_neg (not_lt.mpr r.length_record)]
  exact ⟨_, rfl, hbyte (by omega), hbyte (by omega), congrArg e.decode (r.field_record (by omega)),
    congrArg e.decode (r.field_record (by omega)), rfl⟩

theorem bus_swap (r : HostRecord host) :
    host.swap.decode (field r.full 12 2) = 256 * host.decode (field r.full 12 2) := by
  refine Endian.decode_swap_pair ?_ (by have := r.bus.2; omega)
  have hheader := r.header
  have hle : 48 ≤ headerLength r.linktype := by
    rw [headerLength]
    split <;> omega
  rw [Bytes.length_field]
  omega

/-- In the order of the host only `len_cap` can be implausible. -/
theorem plausible_host_iff {r : HostRecord host} {u : Urb} (h : r.reading host = some u) :
    u.Plausible ↔ ¬ r.Overruns := by
  obtain ⟨u', hu, htype, hxfer, hbus, hcap, hheld⟩ := r.reading_eq_some host
  cases hu.symm.trans h
  rw [Urb.Plausible, htype, hxfer, hbus, hcap, hheld, and_iff_right r.type,
    and_iff_right r.xfer, and_iff_right (r.bus.2.trans (by omega)), Overruns, not_lt]

/-- In the other order the bus number is 256 times as large. -/
theorem plausible_swap_iff {r : HostRecord host} {u : Urb} (h : r.reading host.swap = some u) :
    u.Plausible ↔ r.SwapFits := by
  obtain ⟨u', hu, htype, hxfer, hbus, hcap, hheld⟩ := r.reading_eq_some host.swap
  cases hu.symm.trans h
  rw [Urb.Plausible, htype, hxfer, hbus, hcap, hheld, and_iff_right r.type,
    and_iff_right r.xfer, SwapFits, bus_swap]
  exact and_congr_left' (by omega)

/-- The two readings are never the same. -/
theorem reading_swap_ne (r : HostRecord host) : r.reading host.swap ≠ r.reading host := by
  obtain ⟨u, hu, -, -, hbus, -⟩ := r.reading_eq_some host
  obtain ⟨u', hu', -, -, hbus', -⟩ := r.reading_eq_some host.swap
  rw [hu, hu', ne_eq, Option.some.injEq]
  rintro rfl
  rw [hbus, bus_swap] at hbus'
  have := r.bus.1
  omega

/-! ## The parser on them -/

/-- What an unsettled parser makes of a record: the order it settles, and the one it reads. -/
theorem parse_none (r : HostRecord host) :
    parse none r.packet.linktype r.packet.ts r.packet.record =
      if r.Overruns then
        if r.SwapFits then (some host.swap, r.reading host.swap) else (none, r.reading .little)
      else if r.SwapFits then (none, r.reading host) else (some host, r.reading host) := by
  obtain ⟨u, hu, -, -, hbus, -⟩ := r.reading_eq_some host
  obtain ⟨u', hu', -, -, hbus', -⟩ := r.reading_eq_some host.swap
  have hhost := plausible_host_iff hu
  have hswap := plausible_swap_iff hu'
  have hlt : u.bus < u'.bus := by
    rw [hbus, hbus', bus_swap]
    have := r.bus.1
    omega
  cases host with
  | little =>
      rw [Endian.swap] at hu' ⊢
      rw [hu, hu']
      rw [reading] at hu hu'
      simp only [parse, hu, hu', byteOrder, hhost, hswap, if_pos hlt.le]
      split_ifs <;> simp_all
  | big =>
      rw [Endian.swap] at hu' ⊢
      rw [hu, hu']
      rw [reading] at hu hu'
      simp only [parse, hu, hu', byteOrder, hhost, hswap, if_neg (not_le.mpr hlt)]
      split_ifs <;> simp_all

end HostRecord

/-! ## Captures -/

variable {host : Endian}

/-- A record of the capture is parsed. -/
def parseStep (settled : Option Endian) (r : HostRecord host) : Option Endian × Option Urb :=
  parse settled r.packet.linktype r.packet.ts r.packet.record

/-- The record is read in the order of the host, and no other order is settled. -/
structure ReadAsHost (settled : Option Endian) (r : HostRecord host) : Prop where
  reading : (parseStep settled r).2 = r.reading host
  settles : (parseStep settled r).1 ≠ some host.swap

/-- Its iso descriptors too: `iso_payloads` reads them in the settled order, or else as
little-endian. -/
structure ReadWholeAsHost (settled : Option Endian) (r : HostRecord host) : Prop
    extends ReadAsHost settled r where
  descriptors : ∀ u, r.reading host = some u → u.ndesc ≠ 0 →
    (parseStep settled r).1.getD .little = host

theorem readAsHost_none_iff (r : HostRecord host) : ReadAsHost none r ↔ ¬ r.Misleads := by
  have hne := r.reading_swap_ne
  constructor
  · rintro ⟨hreading, hsettles⟩ ⟨hover, hmisled⟩
    rw [parseStep, r.parse_none, if_pos hover] at hreading hsettles
    split at hreading
    · exact hne hreading
    · next hswap =>
        rcases hmisled with rfl | hfits
        · exact hne hreading
        · exact hswap hfits
  · intro h
    rw [HostRecord.Misleads, not_and, not_or] at h
    constructor
    · rw [parseStep, r.parse_none]
      split
      · next hover =>
          obtain ⟨hhost, hswap⟩ := h hover
          rw [if_neg hswap]
          cases host with
          | little => rfl
          | big => exact absurd rfl hhost
      · split <;> rfl
    · rw [parseStep, r.parse_none]
      split
      · next hover => simp [(h hover).2]
      · split
        · simp
        · cases host <;> simp [Endian.swap]

/-- Which order a record that does not mislead settles. -/
theorem parseStep_none {r : HostRecord host} (h : ¬ r.Misleads) :
    (parseStep none r).1 = if r.Settles then some host else none := by
  rw [parseStep, r.parse_none]
  by_cases hover : r.Overruns
  · have hswap : ¬ r.SwapFits := fun hswap => h ⟨hover, .inr hswap⟩
    simp [HostRecord.Settles, hover, hswap]
  · by_cases hswap : r.SwapFits <;> simp [HostRecord.Settles, hover, hswap]

theorem HostRecord.Settles.not_misleads {r : HostRecord host} (h : r.Settles) :
    ¬ r.Misleads := fun hmis => h.1 hmis.1

/-- A settled parser reads every record in the order of the host. -/
theorem readWholeAsHost_some (r : HostRecord host) : ReadWholeAsHost (some host) r := by
  refine ⟨⟨rfl, ?_⟩, fun u _ _ => rfl⟩
  cases host <;> simp [parseStep, parse, Endian.swap]

/-- The descriptors of an unsettled record are little-endian to the parser. -/
theorem readWholeAsHost_none_iff (r : HostRecord host) :
    ReadWholeAsHost none r ↔ ¬ (r.Misleads ∨ r.Guessed) := by
  rw [not_or, ← readAsHost_none_iff]
  constructor
  · intro h
    refine ⟨h.toReadAsHost, ?_⟩
    rintro ⟨rfl, hfits, u, hu, hdesc⟩
    have horder := h.descriptors u hu hdesc
    have hset : ¬ r.Settles := fun hset => hset.2 hfits
    rw [parseStep_none (readAsHost_none_iff r |>.mp h.toReadAsHost), if_neg hset] at horder
    exact absurd horder (by decide)
  · rintro ⟨hread, hguess⟩
    refine ⟨hread, fun u hu hdesc => ?_⟩
    have hmis := (readAsHost_none_iff r).mp hread
    rw [parseStep_none hmis]
    split
    · rfl
    · next hset =>
        cases host with
        | little => rfl
        | big =>
            have hover : ¬ r.Overruns := fun hover => hmis ⟨hover, .inl rfl⟩
            have hfits : r.SwapFits := by_contra fun hfits => hset ⟨hover, hfits⟩
            exact absurd ⟨rfl, hfits, u, hu, hdesc⟩ hguess

/-- **Byte order**: the parser reads all headers of a capture in the order of the host, and
never settles the other one, exactly if behind every record that misleads it stands one that
has settled the order.  For the iso descriptors no record may be guessed either. -/
theorem readAsHost_iff (capture : List (HostRecord host)) :
    (Machine.Meets parseStep ReadAsHost none capture ↔
      ∀ pre r post, capture = pre ++ r :: post → r.Misleads → ∃ s ∈ pre, s.Settles) ∧
    (Machine.Meets parseStep ReadWholeAsHost none capture ↔
      ∀ pre r post, capture = pre ++ r :: post → r.Misleads ∨ r.Guessed →
        ∃ s ∈ pre, s.Settles) := by
  have hopen (r : HostRecord host) (hmis : ¬ r.Misleads) (hset : ¬ r.Settles) :
      (parseStep none r).1 = none := by
    rw [parseStep_none hmis, if_neg hset]
  have hlock (r : HostRecord host) (hset : r.Settles) : (parseStep none r).1 = some host := by
    rw [parseStep_none hset.not_misleads, if_pos hset]
  have hlocked (r : HostRecord host) :
      ReadWholeAsHost (some host) r ∧ (parseStep (some host) r).1 = some host :=
    ⟨readWholeAsHost_some r, rfl⟩
  constructor
  · exact Machine.meets_iff_of_lock readAsHost_none_iff hopen
      (fun r hset => ⟨hset.not_misleads, hlock r hset⟩)
      (fun r => ⟨(hlocked r).1.toReadAsHost, (hlocked r).2⟩) capture
  · refine Machine.meets_iff_of_lock readWholeAsHost_none_iff
      (fun r h => hopen r fun hmis => h (.inl hmis)) (fun r hset => ⟨?_, hlock r hset⟩) hlocked
      capture
    rintro (hmis | hguess)
    · exact hset.not_misleads hmis
    · exact hset.2 hguess.2.1

/-! ## A capture that is misread -/

/-- A bulk completion of bus 1 with 64 KiB of data, of which the capture holds the header. -/
def cutHeader : List UInt8 :=
  List.replicate 8 0 ++ [67, 3, 0x81, 5, 1, 0, 45, 0] ++ List.replicate 16 0 ++
    Endian.little.encode 4 65536 ++ Endian.little.encode 4 65536 ++ List.replicate 24 0

theorem length_cutHeader : cutHeader.length = 64 := by decide

theorem field_cutHeader {off width : Nat} (h : off + width ≤ 64) :
    field (cutHeader ++ List.replicate 65536 0) off width = field cutHeader off width := by
  rw [← Bytes.field_take (n := 64) h, List.take_left' length_cutHeader]

def cutRecord : HostRecord .little where
  linktype := linktypeUsbmon64
  ts := 0
  full := cutHeader ++ List.replicate 65536 0
  snaplen := 64
  usb := .inl rfl
  header := by
    rw [List.length_append, length_cutHeader]
    exact Nat.le_add_right 64 _
  cut := by decide
  type := by
    rw [field_cutHeader (by decide)]
    decide
  xfer := by
    rw [field_cutHeader (by decide)]
    decide
  bus := by
    rw [field_cutHeader (by decide)]
    decide
  lenCap := by
    rw [field_cutHeader (by decide), List.length_append, length_cutHeader, List.length_replicate]
    decide

/-- The parser settles big-endian on the first record of a little-endian host. -/
theorem not_readAsHost :
    ¬ ∀ (host : Endian) (capture : List (HostRecord host)),
      Machine.Meets parseStep ReadAsHost none capture := by
  intro h
  refine (h .little [cutRecord]).1.settles ?_
  have hrecord : cutRecord.packet.record = cutHeader := List.take_left' length_cutHeader
  rw [parseStep, hrecord]
  decide

end CamDriver.Uvc
