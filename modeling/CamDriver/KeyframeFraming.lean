import Mathlib.Data.List.Induction
import CamDriver.Keyframe
import CamDriver.Lib.Bytes
import CamDriver.Lib.Stream

/-!
# CamDriver.KeyframeFraming

The two forms of an encoded frame, and that the keyframe gate answers the same for both:
Annex B, with a start code before each unit, and length-prefixed, with the size of each
unit before it.

Both scanners list the headers of the units of the frame (`annexbNalHeaders_annexB`,
`mem_lengthPrefixedNalHeaders_take`); the second one lists those that are whole,
wherever the frame is cut.
-/

namespace CamDriver

/-! ## Units -/

/-- A NAL unit that can stand in either form. -/
structure NalUnit where
  bytes : List UInt8
  nonempty : bytes ≠ []
  noStartCode : ¬ [0, 0, 1] <:+: bytes
  notZeroEnded : bytes.getLast nonempty ≠ 0

/-- The first byte of a unit. -/
def NalUnit.header (u : NalUnit) : UInt8 := u.bytes.head u.nonempty

/-- The first byte of a unit is its header. -/
theorem NalUnit.take_one (u : NalUnit) : u.bytes.take 1 = [u.header] := by
  obtain ⟨bytes, nonempty, _, _⟩ := u
  cases bytes with
  | nil => exact absurd rfl nonempty
  | cons b bs => rfl

/-- A unit has one. -/
theorem NalUnit.length_pos (u : NalUnit) : 0 < u.bytes.length :=
  List.length_pos_iff.2 u.nonempty

/-- The codecs whose frames are made of units. -/
inductive NalCodec where
  | h264 | h265
deriving DecidableEq, Repr

namespace NalCodec

def mediaType : NalCodec → String
  | h264 => "video/x-h264"
  | h265 => "video/x-h265"

/-- The kind of the caps of a frame. -/
def kind (codec : NalCodec) (streamFormat : Option String) (nalLengthSize : Nat) : CapsKind :=
  { mediaType := some codec.mediaType, streamFormat, nalLengthSize }

/-- What the gate looks for in a header. -/
def syncHeader : NalCodec → UInt8 → Bool
  | h264 => isIdr
  | h265 => isIrap

/-- The unit is an IDR picture, or an IRAP one: BLA, IDR or CRA. -/
def IsSync : NalCodec → NalUnit → Prop
  | h264, u => u.header.toNat % 32 = 5
  | h265, u => 16 ≤ u.header.toNat / 2 % 64 ∧ u.header.toNat / 2 % 64 ≤ 21

end NalCodec

/-- The type of an H.264 unit. -/
theorem isIdr_iff (header : UInt8) : isIdr header = true ↔ header.toNat % 32 = 5 := by
  rw [isIdr, beq_iff_eq, ← UInt8.toNat_inj, UInt8.toNat_and]
  exact iff_of_eq (congrArg (· = 5) (Nat.and_two_pow_sub_one_eq_mod header.toNat 5))

/-- The type of an H.265 unit. -/
theorem isIrap_iff (header : UInt8) :
    isIrap header = true ↔ 16 ≤ header.toNat / 2 % 64 ∧ header.toNat / 2 % 64 ≤ 21 := by
  have nalType : ((header >>> 1) &&& 0x3f).toNat = header.toNat / 2 % 64 := by
    rw [UInt8.toNat_and, UInt8.toNat_shiftRight]
    exact Nat.and_two_pow_sub_one_eq_mod _ 6
  rw [isIrap, Bool.and_eq_true, decide_eq_true_eq, decide_eq_true_eq, UInt8.le_iff_toNat_le,
    UInt8.lt_iff_toNat_lt, nalType]
  exact and_congr_right fun _ => Nat.lt_succ_iff

/-! ## Annex B -/

/-- A start code of three bytes, or of four. -/
def startCode (long : Bool) : List UInt8 := if long then [0, 0, 0, 1] else [0, 0, 1]

/-- A frame in Annex B form, each unit with the length of its start code. -/
def annexB (units : List (Bool × NalUnit)) : List UInt8 :=
  units.flatMap fun u => startCode u.1 ++ u.2.bytes

/-- No start code begins in a unit. -/
theorem annexbNalHeaders_append {bytes : List UInt8} (hcode : ¬ [0, 0, 1] <:+: bytes)
    (hend : ∀ h : bytes ≠ [], bytes.getLast h ≠ 0) (rest : List UInt8) :
    annexbNalHeaders (bytes ++ rest) = annexbNalHeaders rest := by
  induction bytes with
  | nil => rfl
  | cons b bytes ih =>
      have step : annexbNalHeaders (b :: (bytes ++ rest)) = annexbNalHeaders (bytes ++ rest) := by
        apply annexbNalHeaders.eq_2
        rintro tail rfl htail
        match bytes, hcode, hend, htail with
        | [], _, hend, _ => exact hend (by simp) rfl
        | [c], _, hend, htail =>
            cases htail
            exact hend (by simp) rfl
        | c :: d :: bytes, hcode, _, htail =>
            cases htail
            exact hcode (List.prefix_append [0, 0, 1] bytes).isInfix
      rw [List.cons_append, step]
      apply ih
      · exact fun h => hcode (h.trans (List.suffix_cons b bytes).isInfix)
      · intro h
        rw [← List.getLast_cons h]
        exact hend (by simp)

/-- Behind a start code the scanner takes the header of the unit. -/
theorem annexbNalHeaders_startCode (long : Bool) (rest : List UInt8) :
    annexbNalHeaders (startCode long ++ rest) = rest.take 1 ++ annexbNalHeaders rest := by
  cases long with
  | false => rfl
  | true => rfl

/-- The headers of a frame in Annex B form. -/
theorem annexbNalHeaders_annexB (units : List (Bool × NalUnit)) :
    annexbNalHeaders (annexB units) = (units.map Prod.snd).map NalUnit.header := by
  induction units with
  | nil => rfl
  | cons u units ih =>
      calc annexbNalHeaders (annexB (u :: units))
          = annexbNalHeaders (startCode u.1 ++ (u.2.bytes ++ annexB units)) := by
            rw [annexB, List.flatMap_cons, List.append_assoc, ← annexB]
        _ = (u.2.bytes ++ annexB units).take 1 ++ annexbNalHeaders (u.2.bytes ++ annexB units) :=
            annexbNalHeaders_startCode u.1 _
        _ = u.2.header :: annexbNalHeaders (annexB units) := by
            rw [annexbNalHeaders_append u.2.noStartCode fun _ => u.2.notZeroEnded,
              List.take_append_of_le_length u.2.length_pos, u.2.take_one, List.singleton_append]
        _ = ((u :: units).map Prod.snd).map NalUnit.header := by
            rw [ih, List.map_cons, List.map_cons]

/-! ## Length-prefixed -/

/-- A unit behind its size. -/
def prefixedUnit (nalLen : Nat) (u : NalUnit) : List UInt8 :=
  Endian.big.encode nalLen u.bytes.length ++ u.bytes

/-- A frame in length-prefixed form. -/
def lengthPrefixed (nalLen : Nat) (units : List NalUnit) : List UInt8 :=
  units.flatMap (prefixedUnit nalLen)

/-- The size comes in front of the unit. -/
theorem length_prefixedUnit (nalLen : Nat) (u : NalUnit) :
    (prefixedUnit nalLen u).length = nalLen + u.bytes.length := by
  rw [prefixedUnit, List.length_append, Endian.length_encode]

/-- It is a big-endian number. -/
theorem bigEndian_eq_decode (bytes : List UInt8) : bigEndian bytes = Endian.big.decode bytes := by
  induction bytes using List.reverseRecOn with
  | nil => rfl
  | append_singleton bytes b ih =>
      rw [bigEndian, List.foldl_append, ← bigEndian, ih]
      simp only [Endian.decode, List.reverse_append, List.reverse_singleton, List.singleton_append,
        Bytes.ofLittle, List.foldl_cons, List.foldl_nil]
      omega

/-- Fuel for as many steps as there are bytes is enough. -/
theorem prefixedNalHeaders_fuel (nalLen : Nat) {fuel fuel' : Nat} {data : List UInt8}
    (h : data.length ≤ fuel) (h' : data.length ≤ fuel') :
    prefixedNalHeaders nalLen fuel data = prefixedNalHeaders nalLen fuel' data := by
  induction fuel generalizing fuel' data with
  | zero =>
      obtain rfl := List.length_eq_zero_iff.1 (Nat.le_zero.1 h)
      cases fuel' with
      | zero => rfl
      | succ fuel' => simp [prefixedNalHeaders]
  | succ fuel ih =>
      cases fuel' with
      | zero =>
          obtain rfl := List.length_eq_zero_iff.1 (Nat.le_zero.1 h')
          simp [prefixedNalHeaders]
      | succ fuel' =>
          rw [prefixedNalHeaders, prefixedNalHeaders]
          split
          · dsimp only
            split
            · rfl
            · next hsize =>
                congr 1
                apply ih
                · rw [List.length_drop]
                  omega
                · rw [List.length_drop]
                  omega
          · rfl

/-- One turn of the loop. -/
theorem lengthPrefixedNalHeaders_eq (nalLen : Nat) (data : List UInt8) :
    lengthPrefixedNalHeaders nalLen data =
      if nalLen < data.length then
        let size := Endian.big.decode (data.take nalLen)
        if size = 0 ∨ data.length < nalLen + size then []
        else (data.drop nalLen).take 1 ++
          lengthPrefixedNalHeaders nalLen (data.drop (nalLen + size))
      else [] := by
  cases hdata : data with
  | nil => simp [lengthPrefixedNalHeaders, prefixedNalHeaders]
  | cons b bytes =>
      rw [← hdata, lengthPrefixedNalHeaders]
      have fuel : data.length = bytes.length + 1 := by rw [hdata, List.length_cons]
      nth_rewrite 1 [fuel]
      rw [prefixedNalHeaders, bigEndian_eq_decode]
      dsimp only
      split
      · split
        · rfl
        · congr 1
          apply prefixedNalHeaders_fuel
          · rw [List.length_drop]
            omega
          · exact le_rfl
      · rfl

section Prefixed

variable {nalLen : Nat} {u : NalUnit} (hfit : u.bytes.length < 256 ^ nalLen)
include hfit

/-- The scanner takes the header and goes on behind the unit. -/
theorem lengthPrefixedNalHeaders_append (rest : List UInt8) :
    lengthPrefixedNalHeaders nalLen (prefixedUnit nalLen u ++ rest) =
      u.header :: lengthPrefixedNalHeaders nalLen rest := by
  have pos := u.length_pos
  have size : (prefixedUnit nalLen u ++ rest).take nalLen =
      Endian.big.encode nalLen u.bytes.length := by
    rw [prefixedUnit, List.append_assoc, List.take_left' (Endian.length_encode ..)]
  have body : (prefixedUnit nalLen u ++ rest).drop nalLen = u.bytes ++ rest := by
    rw [prefixedUnit, List.append_assoc, List.drop_left' (Endian.length_encode ..)]
  have next : (prefixedUnit nalLen u ++ rest).drop (nalLen + u.bytes.length) = rest :=
    List.drop_left' (length_prefixedUnit nalLen u)
  rw [lengthPrefixedNalHeaders_eq, size, Endian.decode_encode _ hfit, body]
  dsimp only
  rw [next, List.length_append, length_prefixedUnit, if_pos (by omega), if_neg (by omega),
    List.take_append_of_le_length pos, u.take_one, List.singleton_append]

/-- A unit that is cut short has no header. -/
theorem lengthPrefixedNalHeaders_cut {m : Nat} (hm : m < (prefixedUnit nalLen u).length) :
    lengthPrefixedNalHeaders nalLen ((prefixedUnit nalLen u).take m) = [] := by
  have length : ((prefixedUnit nalLen u).take m).length = m := by
    rw [List.length_take]
    omega
  rw [length_prefixedUnit] at hm
  rw [lengthPrefixedNalHeaders_eq, length]
  split
  · next hlen =>
      have size : ((prefixedUnit nalLen u).take m).take nalLen =
          Endian.big.encode nalLen u.bytes.length := by
        rw [List.take_take, min_eq_left hlen.le, prefixedUnit,
          List.take_left' (Endian.length_encode ..)]
      rw [size, Endian.decode_encode _ hfit]
      dsimp only
      rw [if_pos (by omega)]
  · rfl

end Prefixed

/-- The scanner reads a frame unit by unit. -/
theorem reads_lengthPrefixedNalHeaders (nalLen : Nat) :
    Stream.Reads (fun (_ : Unit) u => prefixedUnit nalLen u) (fun s _ => s)
      (fun _ u => [u.header]) (fun _ u => u.bytes.length < 256 ^ nalLen)
      (fun _ _ data => (lengthPrefixedNalHeaders nalLen data, (none : Option Empty))) where
  nil _ _ := by rw [lengthPrefixedNalHeaders_eq]; simp
  whole _ _ u rest hfit := by rw [lengthPrefixedNalHeaders_append hfit]; rfl
  cut _ _ u n hfit hn := by rw [lengthPrefixedNalHeaders_cut hfit hn]

/-- A frame is the stream of its units. -/
theorem encode_prefixedUnit (nalLen : Nat) (units : List NalUnit) :
    Stream.encode (fun (_ : Unit) u => prefixedUnit nalLen u) (fun s _ => s) () units =
      lengthPrefixed nalLen units := by
  induction units with
  | nil => rfl
  | cons u units ih => rw [Stream.encode, ih, lengthPrefixed, lengthPrefixed, List.flatMap_cons]

/-- The headers of a frame that is cut: those of the units before the cut. -/
theorem mem_lengthPrefixedNalHeaders_take {nalLen : Nat} {units : List NalUnit}
    (hfit : ∀ u ∈ units, u.bytes.length < 256 ^ nalLen) (k : Nat) (header : UInt8) :
    header ∈ lengthPrefixedNalHeaders nalLen ((lengthPrefixed nalLen units).take k) ↔
      ∃ before u after, units = before ++ u :: after ∧
        (lengthPrefixed nalLen (before ++ [u])).length ≤ k ∧ header = u.header := by
  have reads := (reads_lengthPrefixedNalHeaders nalLen).take (s := ())
    (Stream.valid_of_forall hfit) 0 k
  rw [encode_prefixedUnit, Prod.mk.injEq] at reads
  rw [reads.1]
  simp only [List.mem_map, List.mem_filter, Prod.exists, Stream.mem_layout, encode_prefixedUnit,
    decide_eq_true_eq, Nat.zero_add, List.mem_singleton]
  constructor
  · rintro ⟨_, _, ⟨⟨before, u, after, rfl, rfl, rfl⟩, hle⟩, rfl⟩
    exact ⟨before, u, after, rfl, hle, rfl⟩
  · rintro ⟨before, u, after, rfl, hle, rfl⟩
    exact ⟨_, _, ⟨⟨before, u, after, rfl, rfl, rfl⟩, hle⟩, rfl⟩

/-! ## The gate -/

/-- The stream formats that are length-prefixed. -/
def prefixedFormats : List String := ["avc", "avc3", "hvc1", "hev1"]

/-- The gate asks whether some header starts a sync unit. -/
theorem isSyncPoint_kind (codec : NalCodec) (streamFormat : Option String) (nalLen : Nat)
    (data : List UInt8) :
    isSyncPoint (codec.kind streamFormat nalLen) data =
      (if streamFormat ∈ prefixedFormats.map some then lengthPrefixedNalHeaders nalLen data
        else annexbNalHeaders data).any codec.syncHeader := by
  cases codec with
  | h264 => rfl
  | h265 => rfl

/-- A unit is a sync point by its header. -/
theorem isSync_iff (codec : NalCodec) (u : NalUnit) :
    codec.IsSync u ↔ codec.syncHeader u.header = true := by
  cases codec with
  | h264 => exact (isIdr_iff _).symm
  | h265 => exact (isIrap_iff _).symm

section Gate

variable (codec : NalCodec) {plain : Option String} {framed : String} {nalLen : Nat}

/-- The gate opens for a sync point among the units of Annex B. -/
theorem isSyncPoint_annexB (hplain : plain ∉ prefixedFormats.map some)
    (units : List (Bool × NalUnit)) :
    isSyncPoint (codec.kind plain nalLen) (annexB units) = true ↔
      ∃ u ∈ units.map Prod.snd, codec.IsSync u := by
  rw [isSyncPoint_kind, if_neg hplain, annexbNalHeaders_annexB, List.any_map, List.any_eq_true]
  simp only [Function.comp_apply, isSync_iff]

/-- For a length-prefixed frame that is cut anywhere, it opens for one whose header is left. -/
theorem isSyncPoint_lengthPrefixed_take (hframed : framed ∈ prefixedFormats)
    {units : List NalUnit} (hfit : ∀ u ∈ units, u.bytes.length < 256 ^ nalLen) (k : Nat) :
    isSyncPoint (codec.kind framed nalLen) ((lengthPrefixed nalLen units).take k) = true ↔
      ∃ before u after, units = before ++ u :: after ∧
        (lengthPrefixed nalLen (before ++ [u])).length ≤ k ∧ codec.IsSync u := by
  rw [isSyncPoint_kind, if_pos (List.mem_map_of_mem hframed), List.any_eq_true]
  simp only [mem_lengthPrefixedNalHeaders_take hfit, isSync_iff]
  constructor
  · rintro ⟨_, ⟨before, u, after, rfl, hle, rfl⟩, hsync⟩
    exact ⟨before, u, after, rfl, hle, hsync⟩
  · rintro ⟨before, u, after, rfl, hle, hsync⟩
    exact ⟨_, ⟨before, u, after, rfl, hle, rfl⟩, hsync⟩

/-- For a whole one it opens for any of them. -/
theorem isSyncPoint_lengthPrefixed (hframed : framed ∈ prefixedFormats)
    {units : List NalUnit} (hfit : ∀ u ∈ units, u.bytes.length < 256 ^ nalLen) :
    isSyncPoint (codec.kind framed nalLen) (lengthPrefixed nalLen units) = true ↔
      ∃ u ∈ units, codec.IsSync u := by
  rw [← List.take_length (l := lengthPrefixed nalLen units),
    isSyncPoint_lengthPrefixed_take codec hframed hfit]
  constructor
  · rintro ⟨before, u, after, rfl, -, hsync⟩
    exact ⟨u, by simp, hsync⟩
  · rintro ⟨u, hu, hsync⟩
    obtain ⟨before, after, rfl⟩ := List.append_of_mem hu
    exact ⟨before, u, after, rfl, by simp [lengthPrefixed], hsync⟩

end Gate

/-- What the gate answers does not depend on the form of the frame, and a unit that is cut
short never counts. -/
theorem isSyncPoint_framing (codec : NalCodec) {plain : Option String} {framed : String}
    (hplain : plain ∉ prefixedFormats.map some) (hframed : framed ∈ prefixedFormats)
    {nalLen : Nat} (units : List (Bool × NalUnit))
    (hfit : ∀ u ∈ units.map Prod.snd, u.bytes.length < 256 ^ nalLen) (anyLen : Nat) :
    isSyncPoint (codec.kind plain anyLen) (annexB units) =
        isSyncPoint (codec.kind framed nalLen) (lengthPrefixed nalLen (units.map Prod.snd)) ∧
      (isSyncPoint (codec.kind plain anyLen) (annexB units) = true ↔
        ∃ u ∈ units.map Prod.snd, codec.IsSync u) ∧
      ∀ k, isSyncPoint (codec.kind framed nalLen)
          ((lengthPrefixed nalLen (units.map Prod.snd)).take k) = true ↔
        ∃ before u after, units.map Prod.snd = before ++ u :: after ∧
          (lengthPrefixed nalLen (before ++ [u])).length ≤ k ∧ codec.IsSync u := by
  refine ⟨?_, isSyncPoint_annexB codec hplain units,
    isSyncPoint_lengthPrefixed_take codec hframed hfit⟩
  rw [Bool.eq_iff_iff, isSyncPoint_annexB codec hplain,
    isSyncPoint_lengthPrefixed codec hframed hfit]

/-- A parameter set and a picture of one byte. -/
def twoUnits : List (Bool × NalUnit) :=
  [(true, ⟨[0x67, 0x00, 0x42], by decide, by decide, by decide⟩),
    (false, ⟨[0x65], by decide, by decide, by decide⟩)]

/-- A frame of two units, in either form. -/
theorem isSyncPoint_framing_twoUnits :
    isSyncPoint (NalCodec.h264.kind none 4) (annexB twoUnits) =
        isSyncPoint (NalCodec.h264.kind "avc" 2) (lengthPrefixed 2 (twoUnits.map Prod.snd)) ∧
      (isSyncPoint (NalCodec.h264.kind none 4) (annexB twoUnits) = true ↔
        ∃ u ∈ twoUnits.map Prod.snd, NalCodec.h264.IsSync u) ∧
      ∀ k, isSyncPoint (NalCodec.h264.kind "avc" 2)
          ((lengthPrefixed 2 (twoUnits.map Prod.snd)).take k) = true ↔
        ∃ before u after, twoUnits.map Prod.snd = before ++ u :: after ∧
          (lengthPrefixed 2 (before ++ [u])).length ≤ k ∧ NalCodec.h264.IsSync u :=
  isSyncPoint_framing NalCodec.h264 (by decide) (by decide) twoUnits (by simp [twoUnits]) 4

end CamDriver
