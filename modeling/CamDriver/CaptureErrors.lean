import CamDriver.PcapIo

/-!
# CamDriver.CaptureErrors

How reading a capture file can end: for any bytes the reader yields packets and then stops
or raises, and what it raises is a `PcapFormatError`, but for one kind of file.

`BareIdb` are the files of that kind: whole blocks up to an Interface Description Block
that is over where an `if_tsresol` option should have its value.
-/

namespace CamDriver

open Bytes (field)

/-- A `PcapFormatError`. -/
def PcapError.isFormat : PcapError → Bool
  | .index => false
  | _ => true

/-! ## Options -/

/-- Options up to an `if_tsresol` header with a length and no value. -/
inductive BareTsresol (e : Endian) : List UInt8 → Prop where
  | header {opts : List UInt8} (hlength : opts.length = 4) (hcode : e.decode (field opts 0 2) = 9)
      (holen : 1 ≤ e.decode (field opts 2 2)) : BareTsresol e opts
  | option {opts : List UInt8} (hcode : e.decode (field opts 0 2) ≠ 0)
      (hrest : BareTsresol e (opts.drop (4 + (e.decode (field opts 2 2) + 3) / 4 * 4))) :
      BareTsresol e opts

theorem BareTsresol.le_length {e : Endian} {opts : List UInt8} (h : BareTsresol e opts) :
    4 ≤ opts.length := by
  induction h with
  | header hlength => exact hlength.ge
  | option _ _ ih =>
      rw [List.length_drop] at ih
      omega

/-- The first option, and then the others. -/
theorem bareTsresol_iff {e : Endian} {opts : List UInt8} :
    BareTsresol e opts ↔
      (opts.length = 4 ∧ e.decode (field opts 0 2) = 9 ∧ 1 ≤ e.decode (field opts 2 2)) ∨
      (e.decode (field opts 0 2) ≠ 0 ∧
        BareTsresol e (opts.drop (4 + (e.decode (field opts 2 2) + 3) / 4 * 4))) := by
  constructor
  · intro h
    cases h with
    | header hlength hcode holen => exact .inl ⟨hlength, hcode, holen⟩
    | option hcode hrest => exact .inr ⟨hcode, hrest⟩
  · rintro (⟨hlength, hcode, holen⟩ | ⟨hcode, hrest⟩)
    · exact .header hlength hcode holen
    · exact .option hcode hrest

/-- **Options**: the loop raises an `IndexError` at a bare `if_tsresol`, and nothing else. -/
theorem readTsresol_eq_error_iff {e : Endian} {tsresol : Nat} {opts : List UInt8}
    {err : PcapError} :
    readTsresol e tsresol opts = .error err ↔ err = .index ∧ BareTsresol e opts := by
  induction tsresol, opts using readTsresol.induct e with
  | case1 tsresol opts hshort =>
      rw [readTsresol, if_pos hshort]
      simp only [reduceCtorEq, false_iff, not_and]
      exact fun _ h => absurd h.le_length (by omega)
  | case2 tsresol opts hlong code hend =>
      rw [readTsresol, if_neg hlong, bareTsresol_iff]
      simp [code, hend]
  | case3 tsresol opts hlong code olen hcode hopt hnone =>
      have hlength : opts.length = 4 := by
        have := List.getElem?_eq_none_iff.mp hnone
        omega
      rw [readTsresol, if_neg hlong]
      simp only [code, olen] at hcode hopt
      simp only [if_neg hcode, if_pos hopt, hnone, Except.error.injEq]
      rw [and_iff_left (.header hlength hopt.1 hopt.2), eq_comm]
  | case4 tsresol opts hlong code olen hcode opts' hopt v hsome ih =>
      have hlength : opts.length ≠ 4 := by
        obtain ⟨hlt, -⟩ := List.getElem?_eq_some_iff.mp hsome
        omega
      rw [readTsresol, if_neg hlong, bareTsresol_iff]
      simp only [code, olen] at hcode hopt
      simp only [if_pos hopt, hsome, hlength, false_and, false_or, ne_eq, hcode,
        not_false_eq_true, true_and]
      exact ih
  | case5 tsresol opts hlong code olen hcode opts' hopt ih =>
      rw [readTsresol, if_neg hlong, bareTsresol_iff]
      simp only [code, olen] at hcode hopt
      have hheader : ¬ (opts.length = 4 ∧ e.decode (field opts 0 2) = 9 ∧
          1 ≤ e.decode (field opts 2 2)) := fun h => hopt h.2
      simp only [if_neg hopt, hheader, false_or, ne_eq, hcode, not_false_eq_true,
        true_and]
      exact ih

/-! ## Blocks -/

/-- The type of the block at hand. -/
def blockType (e : Endian) (rest : List UInt8) : Nat := e.decode (field rest 0 4)

/-- Its `total_len`. -/
def blockLength (e : Endian) (rest : List UInt8) : Nat := e.decode (field rest 4 4)

/-- A Section Header Block that the reader gets past. -/
structure SectionHeader (e : Endian) (rest : List UInt8) : Prop where
  magic : field rest 0 4 = pcapngMagic
  order : orderOf (field rest 8 4) = some e
  bounds : 12 ≤ blockLength e rest ∧ blockLength e rest ≤ maxRecord
  whole : blockLength e rest ≤ rest.length

/-- Another whole block. -/
structure WholeBlock (e : Endian) (rest : List UInt8) : Prop where
  magic : field rest 0 4 ≠ pcapngMagic
  bounds : 12 ≤ blockLength e rest ∧ blockLength e rest ≤ maxRecord
  aligned : blockLength e rest % 4 = 0
  whole : blockLength e rest ≤ rest.length

/-- The body of a block. -/
def blockBody (e : Endian) (rest : List UInt8) : List UInt8 :=
  field rest 8 (blockLength e rest - 12)

/-- An Enhanced Packet Block of one of the interfaces declared. -/
structure SoundEpb (e : Endian) (declared : Nat) (body : List UInt8) : Prop where
  fixed : 20 ≤ body.length
  ifId : e.decode (field body 0 4) < declared
  capLen : e.decode (field body 12 4) ≤ body.length - 20

/-- Whole blocks, with all that they declare and refer to in place, up to an Interface
Description Block with a bare `if_tsresol`.  A section is its byte order and the number of
its interfaces. -/
inductive BareIdb : Option (Endian × Nat) → List UInt8 → Prop where
  | sectionHeader {sect : Option (Endian × Nat)} {e : Endian} {rest : List UInt8}
      (hblock : SectionHeader e rest)
      (hrest : BareIdb (some (e, 0)) (rest.drop (blockLength e rest))) : BareIdb sect rest
  | bare {e : Endian} {declared : Nat} {rest : List UInt8} (hblock : WholeBlock e rest)
      (htype : blockType e rest = btypeIdb) (hfixed : 8 ≤ (blockBody e rest).length)
      (hbare : BareTsresol e ((blockBody e rest).drop 8)) : BareIdb (some (e, declared)) rest
  | interface {e : Endian} {declared : Nat} {rest : List UInt8} (hblock : WholeBlock e rest)
      (htype : blockType e rest = btypeIdb) (hfixed : 8 ≤ (blockBody e rest).length)
      (hrest : BareIdb (some (e, declared + 1)) (rest.drop (blockLength e rest))) :
      BareIdb (some (e, declared)) rest
  | packet {e : Endian} {declared : Nat} {rest : List UInt8} (hblock : WholeBlock e rest)
      (htype : blockType e rest = btypeEpb) (hepb : SoundEpb e declared (blockBody e rest))
      (hrest : BareIdb (some (e, declared)) (rest.drop (blockLength e rest))) :
      BareIdb (some (e, declared)) rest
  | other {e : Endian} {declared : Nat} {rest : List UInt8} (hblock : WholeBlock e rest)
      (hidb : blockType e rest ≠ btypeIdb) (hepb : blockType e rest ≠ btypeEpb)
      (hrest : BareIdb (some (e, declared)) (rest.drop (blockLength e rest))) :
      BareIdb (some (e, declared)) rest

theorem readIdb_eq_index_iff {e : Endian} {body : List UInt8} :
    readIdb e body = .error .index ↔ 8 ≤ body.length ∧ BareTsresol e (body.drop 8) := by
  rw [readIdb]
  split
  · next hshort => simp [hshort]
  · next hlong =>
      rw [and_iff_right (not_lt.mp hlong)]
      have hindex : readTsresol e 6 (body.drop 8) = .error .index ↔
          BareTsresol e (body.drop 8) := by
        rw [readTsresol_eq_error_iff, and_iff_right rfl]
      rw [← hindex]
      cases readTsresol e 6 (body.drop 8) <;> simp [bind, Except.bind, pure, Except.pure]

theorem readIdb_eq_ok_iff {e : Endian} {body : List UInt8} :
    (∃ i, readIdb e body = .ok i) ↔ 8 ≤ body.length ∧ ¬ BareTsresol e (body.drop 8) := by
  rw [readIdb]
  split
  · next hshort => simp [hshort]
  · next hlong =>
      rw [and_iff_right (not_lt.mp hlong)]
      cases hread : readTsresol e 6 (body.drop 8) with
      | ok tsresol =>
          refine iff_of_true ⟨_, rfl⟩ fun hbare => ?_
          have herr : readTsresol e 6 (body.drop 8) = .error .index :=
            readTsresol_eq_error_iff.mpr ⟨rfl, hbare⟩
          rw [hread] at herr
          cases herr
      | error err =>
          have hbare := (readTsresol_eq_error_iff.mp hread).2
          simp [hbare, bind, Except.bind]

theorem readEpb_ne_index (e : Endian) (interfaces : List Interface) (body : List UInt8) :
    readEpb e interfaces body ≠ .error .index := by
  rw [readEpb]
  split
  · simp
  · simp only
    split
    · simp
    · split <;> simp

theorem readEpb_eq_ok_iff {e : Endian} {interfaces : List Interface} {body : List UInt8} :
    (∃ packet, readEpb e interfaces body = .ok packet) ↔
      SoundEpb e interfaces.length body := by
  rw [readEpb]
  split
  · next hshort =>
      simp only [reduceCtorEq, exists_false, false_iff]
      exact fun h => absurd h.fixed (by omega)
  · next hlong =>
      simp only
      split
      · next hnone =>
          simp only [reduceCtorEq, exists_false, false_iff]
          exact fun h => absurd h.ifId (by simpa using hnone)
      · next i hsome =>
          obtain ⟨hlt, -⟩ := List.getElem?_eq_some_iff.mp hsome
          split
          · next hcap =>
              simp only [reduceCtorEq, exists_false, false_iff]
              exact fun h => absurd h.capLen (by omega)
          · next hcap =>
              simp only [Except.ok.injEq, exists_eq', true_iff]
              exact ⟨by omega, hlt, by omega⟩

/-- Where a section begins. -/
theorem bareIdb_of_magic {sect : Option (Endian × Nat)} {rest : List UInt8}
    (hmagic : field rest 0 4 = pcapngMagic) : BareIdb sect rest ↔
      ∃ e, SectionHeader e rest ∧ BareIdb (some (e, 0)) (rest.drop (blockLength e rest)) := by
  constructor
  · intro h
    cases h with
    | sectionHeader hblock hrest => exact ⟨_, hblock, hrest⟩
    | bare hblock | interface hblock | packet hblock | other hblock =>
        exact absurd hmagic hblock.magic
  · rintro ⟨e, hblock, hrest⟩
    exact .sectionHeader hblock hrest

theorem not_bareIdb_none {rest : List UInt8} (hmagic : field rest 0 4 ≠ pcapngMagic) :
    ¬ BareIdb none rest := by
  intro h
  cases h with
  | sectionHeader hblock => exact hmagic hblock.magic

/-- Within a section. -/
theorem bareIdb_of_block {e : Endian} {declared : Nat} {rest : List UInt8}
    (hmagic : field rest 0 4 ≠ pcapngMagic) : BareIdb (some (e, declared)) rest ↔
      WholeBlock e rest ∧
        if blockType e rest = btypeIdb then 8 ≤ (blockBody e rest).length ∧
          (BareTsresol e ((blockBody e rest).drop 8) ∨
            BareIdb (some (e, declared + 1)) (rest.drop (blockLength e rest)))
        else
          (blockType e rest = btypeEpb → SoundEpb e declared (blockBody e rest)) ∧
            BareIdb (some (e, declared)) (rest.drop (blockLength e rest)) := by
  constructor
  · intro h
    cases h with
    | sectionHeader hblock => exact absurd hblock.magic hmagic
    | bare hblock htype hfixed hbare =>
        rw [if_pos htype]
        exact ⟨hblock, hfixed, .inl hbare⟩
    | interface hblock htype hfixed hrest =>
        rw [if_pos htype]
        exact ⟨hblock, hfixed, .inr hrest⟩
    | packet hblock htype hepb hrest =>
        rw [if_neg (by rw [htype]; decide)]
        exact ⟨hblock, fun _ => hepb, hrest⟩
    | other hblock hidb hepb hrest =>
        rw [if_neg hidb]
        exact ⟨hblock, fun htype => absurd htype hepb, hrest⟩
  · rintro ⟨hblock, h⟩
    split at h
    · next htype =>
        obtain ⟨hfixed, hbare | hrest⟩ := h
        · exact .bare hblock htype hfixed hbare
        · exact .interface hblock htype hfixed hrest
    · next htype =>
        by_cases hepb : blockType e rest = btypeEpb
        · exact .packet hblock hepb (h.1 hepb) h.2
        · exact .other hblock htype hepb h.2

/-! ## Files -/

/-- **A section begins**: the reader gets past its header, or stops or raises there. -/
theorem readBlocks_of_magic {sect : Option (Endian × List Interface)} {off : Nat}
    {rest : List UInt8} (hmagic : field rest 0 4 = pcapngMagic) :
    (∃ e, SectionHeader e rest ∧ readBlocks sect off rest =
        readBlocks (some (e, [])) (off + blockLength e rest) (rest.drop (blockLength e rest))) ∨
      (∀ e, ¬ SectionHeader e rest) ∧ (readBlocks sect off rest).2 ≠ some .index := by
  have hlong : 4 ≤ rest.length := by
    have hlength := congrArg List.length hmagic
    rw [Bytes.length_field] at hlength
    simp only [pcapngMagic, List.length_cons, List.length_nil] at hlength
    omega
  have hread := readBlocks.eq_def sect off rest
  rw [if_neg (not_lt.mpr hlong), if_pos hmagic] at hread
  simp only [Bytes.length_field] at hread
  split at hread
  · next hshort =>
      refine .inr ⟨fun e h => ?_, by simp [hread]⟩
      have := h.bounds.1.trans h.whole
      omega
  · split at hread
    · next hnone => exact .inr ⟨fun e h => by simp [h.order] at hnone, by simp [hread]⟩
    · next e horder =>
        have honly {e' : Endian} (h : SectionHeader e' rest) : e' = e :=
          Option.some.inj (h.order.symm.trans horder)
        split at hread
        · next hbounds =>
            exact .inr ⟨fun e' h => hbounds (honly h ▸ h.bounds), by simp [hread]⟩
        · next hbounds =>
            rw [not_not] at hbounds
            split at hread
            · next hcut =>
                refine .inr ⟨fun e' h => ?_, by simp [hread]⟩
                have hwhole := honly h ▸ h.whole
                simp only [blockLength] at hwhole
                omega
            · next hwhole =>
                refine .inl ⟨e, ⟨hmagic, horder, hbounds, ?_⟩, hread⟩
                simp only [blockLength]
                omega

/-- **A block**: the reader gets past it, or stops or raises there. -/
theorem readBlocks_of_block {e : Endian} {interfaces : List Interface} {off : Nat}
    {rest : List UInt8} (hmagic : field rest 0 4 ≠ pcapngMagic) :
    (readBlocks (some (e, interfaces)) off rest).2 = some .index ↔ WholeBlock e rest ∧
      if blockType e rest = btypeIdb then
        readIdb e (blockBody e rest) = .error .index ∨ ∃ i, readIdb e (blockBody e rest) = .ok i ∧
          (readBlocks (some (e, interfaces ++ [i])) (off + blockLength e rest)
            (rest.drop (blockLength e rest))).2 = some .index
      else
        (blockType e rest = btypeEpb → SoundEpb e interfaces.length (blockBody e rest)) ∧
          (readBlocks (some (e, interfaces)) (off + blockLength e rest)
            (rest.drop (blockLength e rest))).2 = some .index := by
  have hread := readBlocks.eq_def (some (e, interfaces)) off rest
  rw [if_neg hmagic] at hread
  simp only [Bytes.length_field] at hread
  by_cases hblock : WholeBlock e rest
  · rw [and_iff_right hblock]
    have hwhole := hblock.whole
    have hbounds := hblock.bounds
    have haligned := hblock.aligned
    rw [blockLength] at hwhole hbounds haligned
    rw [if_neg (by omega), if_neg (by omega), if_neg (by omega), if_neg (by omega)] at hread
    by_cases hidb : blockType e rest = btypeIdb
    · rw [if_pos hidb, hread]
      simp only [blockBody, blockLength]
      rw [blockType] at hidb
      rw [if_pos hidb]
      split
      · next err herr => simp [herr]
      · next i hok => simp [hok]
    · rw [if_neg hidb, hread]
      simp only [blockType, blockBody, blockLength]
      rw [blockType] at hidb
      rw [if_neg hidb]
      split
      · next hepb =>
          have hsound := @readEpb_eq_ok_iff e interfaces
            (field rest 8 (e.decode (field rest 4 4) - 12))
          rw [forall_prop_of_true hepb, ← hsound]
          split
          · next err herr =>
              have hne := readEpb_ne_index e interfaces
                (field rest 8 (e.decode (field rest 4 4) - 12))
              rw [herr] at hne
              simpa [herr] using hne
          · next packet hok => simp [hok]
      · next hepb => rw [and_iff_right fun h => absurd h hepb]
  · rw [hread]
    simp only [hblock, false_and, iff_false]
    split
    · simp
    · split
      · simp
      · next hlength =>
          split
          · simp
          · next hbounds =>
              split
              · simp
              · next hwhole =>
                  refine absurd ⟨hmagic, ?_, ?_, ?_⟩ hblock <;> simp only [blockLength] <;> omega

/-- **The block loop** raises an `IndexError` at a bare `if_tsresol`, and nowhere else. -/
theorem readBlocks_eq_index_iff (sect : Option (Endian × List Interface)) (off : Nat)
    (rest : List UInt8) :
    (readBlocks sect off rest).2 = some .index ↔
      BareIdb (sect.map fun s => (s.1, s.2.length)) rest := by
  induction hn : rest.length using Nat.strong_induction_on generalizing sect off rest with
  | h n ih =>
      by_cases hmagic : field rest 0 4 = pcapngMagic
      · rw [bareIdb_of_magic hmagic]
        rcases @readBlocks_of_magic sect off rest hmagic with
          ⟨e, hblock, hread⟩ | ⟨hnone, hread⟩
        · have hlt : (rest.drop (blockLength e rest)).length < n := by
            have := hblock.bounds.1
            have := hblock.whole
            rw [List.length_drop]
            omega
          rw [hread, ih _ hlt (some (e, [])) _ _ rfl]
          constructor
          · exact fun h => ⟨e, hblock, h⟩
          · rintro ⟨e', hblock', h⟩
            cases Option.some.inj (hblock'.order.symm.trans hblock.order)
            exact h
        · refine iff_of_false hread ?_
          rintro ⟨e, hblock, -⟩
          exact hnone e hblock
      · cases sect with
        | none =>
            refine iff_of_false ?_ (not_bareIdb_none hmagic)
            rw [readBlocks.eq_def, if_neg hmagic]
            split <;> simp
        | some s =>
            obtain ⟨e, interfaces⟩ := s
            rw [Option.map_some, readBlocks_of_block hmagic, bareIdb_of_block hmagic]
            refine and_congr_right fun hblock => ?_
            have hlt : (rest.drop (blockLength e rest)).length < n := by
              have := hblock.bounds.1
              have := hblock.whole
              rw [List.length_drop]
              omega
            by_cases hidb : blockType e rest = btypeIdb
            · rw [if_pos hidb, if_pos hidb, readIdb_eq_index_iff]
              have hrest (i : Interface) := ih _ hlt (some (e, interfaces ++ [i]))
                (off + blockLength e rest) _ rfl
              simp only [Option.map_some, List.length_append, List.length_singleton] at hrest
              simp only [hrest, exists_and_right, readIdb_eq_ok_iff]
              tauto
            · rw [if_neg hidb, if_neg hidb, ih _ hlt (some (e, interfaces)) _ _ rfl]
              rfl

/-- The record loop of a classic file raises nothing but a bad record length. -/
theorem readRecords_ne_index (e : Endian) (fracNs linktype off : Nat) (rest : List UInt8) :
    (readRecords e fracNs linktype off rest).2 ≠ some .index := by
  induction off, rest using readRecords.induct e fracNs linktype with
  | case1 off rest hshort => simp [readRecords, hshort]
  | case2 off rest hlong inclLen hlength =>
      rw [readRecords, if_neg hlong, if_pos hlength]
      simp
  | case3 off rest hlong inclLen hlength data hcut =>
      rw [readRecords, if_neg hlong, if_neg hlength, if_pos hcut]
      simp
  | case4 off rest hlong inclLen hlength data hwhole ih =>
      rw [readRecords, if_neg hlong, if_neg hlength, if_neg hwhole]
      exact ih

theorem iterPackets_eq_index_iff (file : List UInt8) :
    (iterPackets file).2 = some .index ↔ BareIdb none file := by
  rw [iterPackets]
  by_cases hmagic : file.take 4 = pcapngMagic
  · rw [if_pos hmagic]
    exact readBlocks_eq_index_iff none 0 file
  · rw [if_neg hmagic]
    have hfield : field file 0 4 ≠ pcapngMagic := hmagic
    refine iff_of_false ?_ (not_bareIdb_none hfield)
    split
    · rw [iterPcap]
      split
      · simp
      · exact readRecords_ne_index _ _ _ _ _
    · simp

/-- **How reading ends**: on any bytes the reader comes to an end, and what it raises is a
`PcapFormatError`, exactly if no interface it gets to ends in a bare `if_tsresol`. -/
theorem isFormat_iterPackets_iff (file : List UInt8) :
    (∀ err, (iterPackets file).2 = some err → err.isFormat) ↔ ¬ BareIdb none file := by
  rw [← iterPackets_eq_index_iff]
  constructor
  · intro h hindex
    exact absurd (h _ hindex) (by decide)
  · intro hindex err herr
    cases err <;> first | rfl | exact absurd herr hindex

/-- A section and an interface with nothing but the header of an `if_tsresol`. -/
def bareFile : List UInt8 :=
  pcapngMagic ++ Endian.little.encode 4 28 ++ byteOrderMagic .little ++
    List.replicate 16 0 ++
  Endian.little.encode 4 1 ++ Endian.little.encode 4 24 ++
    Endian.little.encode 2 220 ++ List.replicate 6 0 ++
    Endian.little.encode 2 9 ++ Endian.little.encode 2 1 ++
  Endian.little.encode 4 24

/-- `iter_packets` raises an `IndexError` there. -/
theorem not_isFormat_iterPackets :
    ¬ ∀ file err, (iterPackets file).2 = some err → err.isFormat := by
  intro h
  exact absurd (h bareFile .index (by decide +kernel)) (by decide)

end CamDriver
