import CamDriver.Ros2Source
import CamDriver.ShmInput

/-!
# CamDriver.Ros2ToCore

From the ROS 2 image source to the core: the two ends of one `shm:` block, which each parse its
pixel format for themselves.

`fed_delivered` is about a run of the feeder and a run of the core on what it sent.
-/

namespace CamDriver

/-! ## One format, two parsers -/

/-- The core and the source pin the same bytes. -/
structure SamePin (cfg : ShmConfig) (pinned : Pinned) : Prop where
  format : cfg.pinned.gstFormat = pinned.format
  bayer : cfg.bayer = pinned.bayer
  width : cfg.width = pinned.width
  height : cfg.height = pinned.height

/-- The depth of a format by its digits, as the core reads it. -/
def deep (pf : String) : Bool := isIn "16" pf || isIn "12" pf || isIn "10" pf

/-- The raw formats are the grey ones and the colours. -/
theorem mem_gstRaw_iff (pf : String) : pf ∈ gstRaw ↔ pf ∈ gstMono ++ gstColor := by
  simp only [gstRaw, gstMono, gstColor, List.mem_append, List.mem_cons, List.not_mem_nil, or_false]
  tauto

/-- The feeder and the core agree on the size of a frame. -/
theorem frameBytes_eq (format : String) (width height : Nat) :
    frameBytes format width height = bytesPerFrame format width height := by
  unfold frameBytes bytesPerFrame
  by_cases hnv24 : format = "NV24"
  · subst hnv24
    rfl
  · simp [hnv24]

/-- A raw format is its own name, and no mosaic. -/
theorem parsePixelFormat_raw {pf : String} (h : pf ∈ gstRaw) :
    (parsePixelFormat pf).gstFormat = pf ∧ (parsePixelFormat pf).bayer = none := by
  have hne : pf ≠ "" := by
    rintro rfl
    revert h
    decide
  unfold parsePixelFormat
  rw [if_neg hne]
  dsimp only
  rw [if_pos ((mem_gstRaw_iff pf).1 h)]
  exact ⟨rfl, rfl⟩

/-- Any other is a grey plane, a mosaic by its prefix. -/
theorem parsePixelFormat_mapped {pf : String} (hne : pf ≠ "") (h : pf ∉ gstRaw) :
    (parsePixelFormat pf).gstFormat = (if deep pf then "GRAY16_LE" else "GRAY8") ∧
      (parsePixelFormat pf).bayer =
        if "Bayer".toList <+: pf.toList ∧ 7 ≤ pf.toList.length then
          bayerMap (((pf.toList.drop 5).take 2).map Char.toUpper)
        else none := by
  unfold parsePixelFormat deep
  rw [if_neg hne]
  dsimp only
  rw [if_neg (mt (mem_gstRaw_iff pf).2 h)]
  refine ⟨?_, rfl⟩
  cases isIn "16" pf || isIn "12" pf || isIn "10" pf <;> simp

/-- What the source takes a format for. -/
theorem pinnedNew_cases {pf : String} (hne : pf ≠ "") (hstrip : strip pf.toList = pf.toList)
    {width height : Nat} {pinned : Pinned} (h : Pinned.new pf width height = some pinned) :
    pinned.width = width ∧ pinned.height = height ∧
      ((pf ∈ gstRaw ∧ pinned.format = pf ∧ pinned.bayer = none) ∨
        (pf ∉ gstRaw ∧ "Bayer".toList <+: pf.toList ∧ 7 ≤ pf.toList.length ∧
          pinned.format = "GRAY8" ∧ pinned.bayer.isSome = true ∧
          pinned.bayer = bayerMap (((pf.toList.drop 5).take 2).map Char.toUpper)) ∨
        (pf ∉ gstRaw ∧ "Mono".toList <+: pf.toList ∧ pinned.bayer = none ∧
          pinned.format = if deep pf then "GRAY16_LE" else "GRAY8")) := by
  unfold Pinned.new at h
  rw [if_neg hne, hstrip, String.ofList_toList] at h
  dsimp only at h
  split at h
  case isTrue hraw =>
    cases h
    exact ⟨rfl, rfl, .inl ⟨hraw, rfl, rfl⟩⟩
  case isFalse hraw =>
    split at h
    case isTrue hbayer =>
      cases h
      exact ⟨rfl, rfl, .inr (.inl ⟨hraw, hbayer.1, hbayer.2.1, rfl, hbayer.2.2.1, rfl⟩)⟩
    case isFalse hbayer =>
      split at h
      case isTrue hmono =>
        cases h
        exact ⟨rfl, rfl, .inr (.inr ⟨hraw, hmono, rfl, rfl⟩)⟩
      case isFalse => cases h

/-- A grey format is no mosaic. -/
theorem not_bayer_of_mono {pf : String} (h : "Mono".toList <+: pf.toList) :
    ¬ "Bayer".toList <+: pf.toList := by
  intro hbayer
  obtain ⟨rest, hrest⟩ := h
  obtain ⟨rest', hrest'⟩ := hbayer
  rw [← hrest] at hrest'
  simp at hrest'

/-- A format that the source can pin is pinned to the same bytes by the core, unless it is a
mosaic whose name has the digits of a deeper one. -/
theorem samePin_iff {cfg : ShmConfig} {pinned : Pinned} (hne : cfg.pixelFormat ≠ "")
    (hstrip : strip cfg.pixelFormat.toList = cfg.pixelFormat.toList)
    (h : Pinned.new cfg.pixelFormat cfg.width cfg.height = some pinned) :
    SamePin cfg pinned ↔ ¬ (pinned.bayer.isSome = true ∧ deep cfg.pixelFormat = true) := by
  obtain ⟨hwidth, hheight, hcase⟩ := pinnedNew_cases hne hstrip h
  rcases hcase with ⟨hraw, hformat, hbayer⟩ | ⟨hraw, hstart, hlength, hformat, hsome, hbayer⟩ |
      ⟨hraw, hmono, hbayer, hformat⟩
  · obtain ⟨hgst, hnone⟩ := parsePixelFormat_raw hraw
    have hsame : SamePin cfg pinned :=
      ⟨hgst.trans hformat.symm, hnone.trans hbayer.symm, hwidth.symm, hheight.symm⟩
    simp [hsame, hbayer]
  · obtain ⟨hgst, hcfa⟩ := parsePixelFormat_mapped hne hraw
    rw [if_pos ⟨hstart, hlength⟩, ← hbayer] at hcfa
    constructor
    · rintro hsame ⟨-, hdeep⟩
      have hdiffers := hsame.format
      rw [ShmConfig.pinned, hgst, hdeep, hformat] at hdiffers
      simp at hdiffers
    · intro hshallow
      have hnot : deep cfg.pixelFormat = false := by simpa [hsome] using hshallow
      refine ⟨?_, hcfa, hwidth.symm, hheight.symm⟩
      rw [ShmConfig.pinned, hgst, hnot, hformat]
      rfl
  · obtain ⟨hgst, hcfa⟩ := parsePixelFormat_mapped hne hraw
    rw [if_neg fun hboth => not_bayer_of_mono hmono hboth.1] at hcfa
    have hsame : SamePin cfg pinned :=
      ⟨hgst.trans hformat.symm, hcfa.trans hbayer.symm, hwidth.symm, hheight.symm⟩
    simp [hsame, hbayer]

/-! ## A frame on the socket -/

/-- `unixfd_caps`. -/
def Pinned.unixfdCaps (pinned : Pinned) : SampleCaps :=
  { name := if pinned.bayer.isSome then "video/x-bayer" else "video/x-raw"
    format := some ((pinned.bayer.map CfaPattern.name).getD pinned.format)
    width := some pinned.width, height := some pinned.height }

/-- What the reader gets of a frame that `_emit` sent. -/
def Carries (framing : ShmFraming) (pinned : Pinned) (f : FedFrame) (sample : ShmSample) : Prop :=
  match framing with
  | .raw => sample.data = f.pixels
  | .header =>
    ∃ header, packHeader f.stamp f.frameId pinned.width pinned.height pinned.format "camera" =
      .ok header ∧ sample.data = header ++ f.pixels
  | .unixfd =>
    sample.data = f.pixels ∧ sample.caps = some pinned.unixfdCaps ∧ sample.offset = f.frameId ∧
      sample.offsetEnd = f.stamp.toNat

/-- A frame that the framings have room for. -/
structure Sendable (pinned : Pinned) (f : FedFrame) : Prop where
  size : f.pixels.length = pinned.bytes
  id : f.frameId < 2 ^ 64 - 1
  positive : 0 < f.stamp
  stamp : f.stamp < 2 ^ 63

/-- The id, the time and the provenance a frame arrives with. -/
def FedFrame.told (f : FedFrame) : Int × Int × TimestampSource := (f.frameId, f.stamp, .camera)

/-- A raw format has a code in the header. -/
theorem exists_code {format : String} (h : format ∈ gstRaw) :
    ∃ code, (code, format) ∈ codeToGst := by
  have hall : ∀ format ∈ gstRaw, ∃ entry ∈ codeToGst, entry.2 = format := by decide
  obtain ⟨entry, hentry, rfl⟩ := hall format h
  exact ⟨entry.1, hentry⟩

/-- A geometry that a header can carry. -/
theorem geometry_of_pack {timestampNs frameId : Int} {width height : Nat}
    {format tsSource : String} {header : List UInt8}
    (h : packHeader timestampNs frameId width height format tsSource = .ok header) :
    width < 65536 ∧ height < 65536 := by
  unfold packHeader at h
  cases hcode : pixfmtCode.lookup format with
  | none =>
      rw [hcode] at h
      cases h
  | some code =>
      rw [hcode] at h
      by_cases hwidth : width < 65536
      · by_cases hheight : height < 65536
        · exact ⟨hwidth, hheight⟩
        · have herror : packU16 (height : Int) = .error .range := if_neg (by omega)
          rw [packU16_of_lt hwidth, herror] at h
          cases h
      · have herror : packU16 (width : Int) = .error .range := if_neg (by omega)
        rw [herror] at h
        cases h

section OneFrame

variable {cfg : ShmConfig} {pinned : Pinned} (hpin : SamePin cfg pinned) {f : FedFrame}
  (hf : Sendable pinned f)
include hpin hf

/-- A frame has the length that the core expects. -/
theorem expected_eq : f.pixels.length = cfg.expected := by
  rw [hf.size, Pinned.bytes, frameBytes_eq, ShmConfig.expected, PinnedFormat.expected, hpin.format]
  simp only [ShmConfig.pinned, hpin.width, hpin.height]

variable {sample : ShmSample}

/-- A frame behind its header fits the pinned format. -/
theorem judge_header (hframing : cfg.framing = .header) (hformat : pinned.format ∈ gstRaw)
    (hcarries : Carries .header pinned f sample) :
    cfg.judge sample = .fits f.pixels ∧ cfg.carried sample = some f.told := by
  obtain ⟨header, hpack, hdata⟩ := hcarries
  obtain ⟨code, hcode⟩ := exists_code hformat
  obtain ⟨hwidth, hheight⟩ := geometry_of_pack hpack
  rw [packHeader_eq f.stamp f.frameId hwidth hheight hcode "camera"] at hpack
  obtain rfl := Except.ok.inj hpack
  have hunpack := unpackHeader_wireHeader f.stamp f.frameId hwidth hheight hcode "camera" f.pixels
  have hstamp : f.stamp % 2 ^ 64 = f.stamp := by
    have hpositive := hf.positive
    have hlt := hf.stamp
    omega
  have hid : (f.frameId : Int) % 2 ^ 64 = f.frameId := by
    have hlt := hf.id
    omega
  have hcamera : wireProvenance "camera" = "camera" := by decide
  rw [← hdata, hstamp, hid, hcamera] at hunpack
  have hpixels : sample.data.drop headerSize = f.pixels := by
    rw [hdata]
    exact List.drop_left' (WireHeader.length_encode rfl)
  have hexpected := expected_eq hpin hf
  constructor
  · rw [ShmConfig.judge, hframing]
    simp [hunpack, ShmConfig.HeaderFits, hpin.width, hpin.height, hpin.format, hpixels, hexpected]
  · rw [ShmConfig.carried, hframing]
    simp [hunpack, FedFrame.told, TimestampSource.ofValue]

theorem judge_unixfd (hframing : cfg.framing = .unixfd)
    (hcarries : Carries .unixfd pinned f sample) :
    cfg.judge sample = .fits f.pixels ∧ cfg.carried sample = some f.told := by
  obtain ⟨hdata, hcaps, hoffset, hend⟩ := hcarries
  have hexpected := expected_eq hpin hf
  have hfits : cfg.CapsFit pinned.unixfdCaps := by
    unfold ShmConfig.CapsFit Pinned.unixfdCaps
    rw [hpin.bayer, hpin.format, hpin.width, hpin.height]
    cases pinned.bayer <;> simp
  constructor
  · rw [ShmConfig.judge, hframing]
    simp [hcaps, hfits, hdata, hexpected]
  · have hid := hf.id
    have hpositive := hf.positive
    have hlt := hf.stamp
    have hset : sample.offset ≠ offsetNone ∧ sample.offsetEnd ∉ [0, offsetNone] := by
      rw [hoffset, hend]
      simp only [offsetNone, List.mem_cons, List.not_mem_nil, or_false]
      omega
    rw [ShmConfig.carried, hframing]
    dsimp only
    rw [if_pos hset, hoffset, hend, Int.toNat_of_nonneg hpositive.le]
    rfl

/-- The reader takes every frame. -/
theorem judge_of_carries (hformat : pinned.format ∈ gstRaw)
    (hcarries : Carries cfg.framing pinned f sample) :
    cfg.judge sample = .fits f.pixels ∧
      (cfg.framing ≠ .raw → cfg.carried sample = some f.told) := by
  cases hframing : cfg.framing with
  | raw =>
      rw [hframing] at hcarries
      have hdata : sample.data = f.pixels := hcarries
      rw [ShmConfig.judge, hframing]
      simp [hdata, expected_eq hpin hf]
  | header =>
      rw [hframing] at hcarries
      obtain ⟨hjudge, htold⟩ := judge_header hpin hf hframing hformat hcarries
      exact ⟨hjudge, fun _ => htold⟩
  | unixfd =>
      rw [hframing] at hcarries
      obtain ⟨hjudge, htold⟩ := judge_unixfd hpin hf hframing hcarries
      exact ⟨hjudge, fun _ => htold⟩

end OneFrame

/-! ## A run of both -/

namespace Feeder

/-- The times of a message, and a converted frame of the pinned size. -/
def InRange (pinned : Pinned) : FeederEvent → Prop
  | .image now msg _ => now < 2 ^ 63 ∧ msg.stamp < 2 ^ 63
  | .compressed now msg _ => now < 2 ^ 63 ∧ msg.stamp < 2 ^ 63
  | .pull _ pixels => pixels.length = pinned.bytes
  | _ => True

/-- The sizes and the times along a run. -/
structure Sized (pinned : Pinned) (s : Feeder) : Prop where
  pulled : ∀ frame ∈ s.pulled, frame.pixels.length = pinned.bytes
  frames : ∀ f ∈ s.out, f.pixels.length = pinned.bytes
  stamps : ∀ h ∈ s.handled, h.stamp < 2 ^ 63

/-- Building a converter sends nothing. -/
theorem Sized.ensureConvert {pinned : Pinned} {s : Feeder} (h : Sized pinned s)
    (caps : ConvertInput) : Sized pinned (s.ensureConvert caps) := by
  unfold Feeder.ensureConvert
  split
  · exact h
  · exact ⟨h.pulled, h.frames, h.stamps⟩

/-- One stamp more in the range of the header. -/
theorem stamps_concat {handled : List Handled} (h : ∀ m ∈ handled, m.stamp < 2 ^ 63)
    {last : Handled} (hlast : last.stamp < 2 ^ 63) :
    ∀ m ∈ handled ++ [last], m.stamp < 2 ^ 63 := by
  intro m hm
  obtain hm | hm := List.mem_append.1 hm
  · exact h m hm
  · rwa [List.mem_singleton.1 hm]

/-- A message that is converted is sent in the pinned size. -/
theorem Sized.pushConvert {pinned : Pinned} {s : Feeder} (h : Sized pinned s) {stamp : Int}
    (hstamp : stamp < 2 ^ 63) (payload : List UInt8) (taken : Bool) :
    Sized pinned (s.pushConvert payload stamp taken) :=
  ⟨h.pulled, h.frames, stamps_concat h.stamps hstamp⟩

theorem Sized.pushDirect {pinned : Pinned} {s : Feeder} (h : Sized pinned s) {stamp : Int}
    (hstamp : stamp < 2 ^ 63) {pixels : List UInt8} (hsize : pixels.length = pinned.bytes)
    (taken : Bool) : Sized pinned (s.pushDirect pixels stamp taken) := by
  refine ⟨h.pulled, fun f hf => ?_, stamps_concat h.stamps hstamp⟩
  obtain hf | hf := List.mem_append.1 hf
  · exact h.frames f hf
  · rwa [List.mem_singleton.1 hf]

/-- A message without a stamp takes its arrival. -/
theorem stampOr_lt {stamp now : Int} (hstamp : stamp < 2 ^ 63) (hnow : now < 2 ^ 63) :
    stampOr stamp now < 2 ^ 63 := by
  unfold stampOr
  split
  · exact hnow
  · exact hstamp

theorem sized_next {pinned : Pinned} {s s' : Feeder} {event : FeederEvent} (h : Sized pinned s)
    (hrange : InRange pinned event) (hs : s.next pinned event = some s') : Sized pinned s' := by
  cases event with
  | image now msg taken =>
      simp only [next, Option.ite_none_left_eq_some, Option.some.injEq] at hs
      obtain ⟨-, rfl⟩ := hs
      have hstamp := stampOr_lt hrange.2 hrange.1
      unfold pushImage
      split
      · exact h
      · split
        · exact ⟨h.pulled, h.frames, h.stamps⟩
        · dsimp only
          split
          · split
            · exact ⟨h.pulled, h.frames, h.stamps⟩
            case isFalse hsize => exact h.pushDirect hstamp (not_not.1 hsize) _
          · exact (h.ensureConvert _).pushConvert hstamp _ _
  | compressed now msg taken =>
      simp only [next, Option.ite_none_left_eq_some, Option.some.injEq] at hs
      obtain ⟨-, rfl⟩ := hs
      unfold pushCompressed
      split
      · exact h
      · split
        · exact ⟨h.pulled, h.frames, h.stamps⟩
        · exact (h.ensureConvert _).pushConvert (stampOr_lt hrange.2 hrange.1) _ _
  | pull i pixels =>
      simp only [next, pull, Option.ite_none_left_eq_some, Option.map_eq_some_iff] at hs
      obtain ⟨-, job, -, rfl⟩ := hs
      refine ⟨?_, h.frames, h.stamps⟩
      rintro frame ⟨⟩
      exact hrange
  | emit taken =>
      simp only [next, Option.map_eq_some_iff] at hs
      obtain ⟨frame, hframe, rfl⟩ := hs
      refine ⟨by simp [Feeder.emit], fun f hf => ?_, h.stamps⟩
      obtain hf | hf := List.mem_append.1 hf
      · exact h.frames f hf
      · rw [List.mem_singleton.1 hf]
        exact h.pulled frame hframe
  | convertError =>
      cases hs
      exact ⟨h.pulled, h.frames, h.stamps⟩
  | outputError =>
      cases hs
      exact ⟨h.pulled, h.frames, h.stamps⟩

theorem sized_exec {pinned : Pinned} (events : List FeederEvent) {s s' : Feeder}
    (h : Sized pinned s) (hrange : ∀ event ∈ events, InRange pinned event)
    (hs : Machine.exec (next pinned) s events = some s') : Sized pinned s' := by
  induction events generalizing s with
  | nil =>
      cases hs
      exact h
  | cons event events ih =>
      simp only [Machine.exec, Option.bind_eq_some_iff] at hs
      obtain ⟨t, ht, hs⟩ := hs
      exact ih (sized_next h (hrange _ List.mem_cons_self) ht)
        (fun e he => hrange e (List.mem_cons_of_mem _ he)) hs

/-- What the output took can be carried by every framing. -/
theorem Fed.sendable {pinned : Pinned} {s : Feeder} (h : Fed s) (hsized : Sized pinned s)
    (hcount : s.out.length < 2 ^ 64 - 1) {f : FedFrame} (hf : f ∈ s.out) : Sendable pinned f := by
  obtain ⟨i, hi, rfl⟩ := List.getElem_of_mem hf
  have hid := h.ids i _ (List.getElem?_eq_getElem hi)
  obtain ⟨m, hm, -, hle⟩ := h.stamp_le hf
  have hlt := hsized.stamps m (List.mem_of_getElem? hm)
  exact
    { size := hsized.frames _ hf
      id := by omega
      positive := h.stamp_pos hf
      stamp := hle.trans_lt hlt }

end Feeder

/-- What the core makes of the frames that it got, `sent`. -/
structure FedDelivered (cfg : ShmConfig) (sent : List FedFrame) (s : ShmSource) : Prop where
  /-- the pin is never called a mismatch -/
  noMismatch : s.mismatch = none
  noFault : s.badHeaders = 0
  /-- each frame, once and in order, with the bytes that were sent -/
  pixels : s.delivered.map (·.2) = sent.map (·.pixels)
  /-- with its id and its time, where the framing can say them -/
  told : cfg.framing ≠ .raw →
    s.delivered.map (fun f => (f.1.frameId, f.1.timestampNs, f.1.source)) =
      sent.map FedFrame.told
  /-- else with ids of its own -/
  minted : cfg.framing = .raw →
    s.delivered.map (·.1.frameId) = (List.range sent.length).map Int.ofNat ∧
      ∀ f ∈ s.delivered, f.1.source = .system ∧ f.1.timestampNs = f.1.systemNs

/-- Two relations along lists, composed. -/
theorem forall₂_trans {α β γ : Type*} {R : α → β → Prop} {S : β → γ → Prop} {T : α → γ → Prop}
    (hT : ∀ a b c, R a b → S b c → T a c) {xs : List α} {ys : List β} {zs : List γ}
    (h : List.Forall₂ R xs ys) (h' : List.Forall₂ S ys zs) : List.Forall₂ T xs zs := by
  induction h generalizing zs with
  | nil =>
      cases h'
      exact .nil
  | cons hab _ ih =>
      cases h' with
      | cons hbc hrest => exact .cons (hT _ _ _ hab hbc) (ih hrest)

/-- What two lists share, element by element. -/
theorem map_eq_of_forall₂ {α β γ : Type*} {f : α → γ} {g : β → γ} {xs : List α} {ys : List β}
    (h : List.Forall₂ (fun x y => g y = f x) xs ys) : ys.map g = xs.map f := by
  induction h with
  | nil => rfl
  | cons hhead _ ih => simp [hhead, ih]

/-- The config and the environment of the source are of one `shm:` block, and not of a mosaic
whose name has the digits of a deeper one. -/
structure OneBlock (cfg : ShmConfig) (pinned : Pinned) : Prop where
  named : cfg.pixelFormat ≠ ""
  stripped : strip cfg.pixelFormat.toList = cfg.pixelFormat.toList
  parsed : Pinned.new cfg.pixelFormat cfg.width cfg.height = some pinned
  shallow : ¬ (pinned.bayer.isSome = true ∧ deep cfg.pixelFormat = true)

/-- The pinned format is raw. -/
theorem OneBlock.format {cfg : ShmConfig} {pinned : Pinned} (h : OneBlock cfg pinned) :
    pinned.format ∈ gstRaw := by
  obtain ⟨-, -, hcase⟩ := pinnedNew_cases h.named h.stripped h.parsed
  rcases hcase with ⟨hraw, hformat, -⟩ | ⟨-, -, -, hformat, -⟩ | ⟨-, -, -, hformat⟩
  · rwa [hformat]
  · rw [hformat]; decide
  · rw [hformat]; split <;> decide

/-- A run of the feeder, with the clock and the stamps after 1970 and below 2^63 ns, and a
converter that keeps to the caps. -/
structure FeederRun (pinned : Pinned) (events : List FeederEvent) (s : Feeder) : Prop where
  clock : ∀ event ∈ events, Feeder.AfterEpoch event
  range : ∀ event ∈ events, Feeder.InRange pinned event
  run : Machine.exec (Feeder.next pinned) .init events = some s
  count : s.out.length < 2 ^ 64 - 1

/-- A frame that is sent can be said in the header. -/
theorem FeederRun.sendable {pinned : Pinned} {events : List FeederEvent} {s : Feeder}
    (h : FeederRun pinned events s) {f : FedFrame} (hf : f ∈ s.out) : Sendable pinned f := by
  have hfed := Feeder.fed_exec events Feeder.fed_init h.clock h.run
  have hsized : Feeder.Sized pinned s := by
    refine Feeder.sized_exec events ?_ h.range h.run
    exact ⟨by simp [Feeder.init], by simp [Feeder.init], by simp [Feeder.init]⟩
  exact hfed.sendable hsized h.count hf

/-- The reader's samples are frames of the feeder. -/
theorem judge_sent {cfg : ShmConfig} {pinned : Pinned} (hblock : OneBlock cfg pinned)
    {sent : List FedFrame} (hsendable : ∀ f ∈ sent, Sendable pinned f)
    {samples : List (Int × ShmSample)}
    (hcarries : List.Forall₂ (fun f x => Carries cfg.framing pinned f x.2) sent samples) :
    List.Forall₂ (fun f x => cfg.judge x.2 = .fits f.pixels ∧
      (cfg.framing ≠ .raw → cfg.carried x.2 = some f.told)) sent samples := by
  have hpin := (samePin_iff hblock.named hblock.stripped hblock.parsed).2 hblock.shallow
  induction hcarries with
  | nil => exact .nil
  | cons hhead _ ih =>
      refine .cons ?_ (ih fun f hf => hsendable f (List.mem_cons_of_mem _ hf))
      exact judge_of_carries hpin (hsendable _ List.mem_cons_self) hblock.format hhead

/-- Frames that the framings have room for arrive, whichever they are. -/
theorem delivered_of_sendable (cfg : ShmConfig) {pinned : Pinned} (hblock : OneBlock cfg pinned)
    {sent : List FedFrame} (hsendable : ∀ f ∈ sent, Sendable pinned f) (arrivals : List ShmEvent)
    (hcarries : List.Forall₂ (fun f x => Carries cfg.framing pinned f x.2) sent
      (samplesOf arrivals)) :
    FedDelivered cfg sent (Machine.final (ShmSource.step cfg) .init arrivals) := by
  have hsamples := judge_sent hblock hsendable hcarries
  have hall : ∀ x ∈ samplesOf arrivals, ∃ pixels, cfg.judge x.2 = .fits pixels := by
    intro x hx
    obtain ⟨f, -, hjudge, -⟩ := ShmSource.exists_left_of_forall₂ hsamples hx
    exact ⟨f.pixels, hjudge⟩
  obtain ⟨hfitting, hfaulty⟩ := ShmSource.fitting_of_all hall
  have hfollows := ShmSource.follows_run cfg arrivals
  have hframes := hfollows.frames
  rw [hfitting] at hframes
  have hpairs : List.Forall₂ (fun f d => d.2 = f.pixels ∧ (cfg.framing ≠ .raw →
      (d.1.frameId, d.1.timestampNs, d.1.source) = f.told) ∧ (cfg.framing = .raw →
        d.1.source = .system ∧ d.1.timestampNs = d.1.systemNs)) sent
      (Machine.final (ShmSource.step cfg) .init arrivals).delivered := by
    refine forall₂_trans (fun f x d hf hd => ?_) hsamples hframes
    obtain ⟨hjudge, hcarried⟩ := hf
    have hpixels : f.pixels = d.2 := SampleVerdict.fits.inj (hjudge.symm.trans hd.pixels)
    refine ⟨hpixels.symm, fun hframing => ?_, fun hframing => ?_⟩
    · rw [hd.told, hcarried hframing]
      rfl
    · have hnone : cfg.carried x.2 = none := by rw [ShmConfig.carried, hframing]
      have htold := hd.told
      rw [hnone] at htold
      simp only [Option.getD_none, Prod.mk.injEq, true_and] at htold
      exact ⟨htold.2, htold.1.trans hd.arrived.symm⟩
  refine
    { noMismatch := ?_
      noFault := by rw [hfollows.badHeaders, hfaulty]; rfl
      pixels := map_eq_of_forall₂ (hpairs.imp fun _ _ h => h.1)
      told := fun hframing => map_eq_of_forall₂ (hpairs.imp fun _ _ h => h.2.1 hframing)
      minted := fun hframing => ?_ }
  · rw [← Option.not_isSome_iff_eq_none, hfollows.latched]
    rintro ⟨x, hx, hmisfit⟩
    obtain ⟨pixels, hjudge⟩ := hall x hx
    simp [hjudge] at hmisfit
  · have hsystem : ∀ d ∈ (Machine.final (ShmSource.step cfg) .init arrivals).delivered,
        d.1.source = .system ∧ d.1.timestampNs = d.1.systemNs := by
      intro d hd
      obtain ⟨f, -, hpair⟩ := ShmSource.exists_left_of_forall₂ hpairs hd
      exact hpair.2.2 hframing
    have hminted := (hfollows.minted (by simp [hframing])).1
    have hkeep : mintedIds (Machine.final (ShmSource.step cfg) .init arrivals).delivered =
        (Machine.final (ShmSource.step cfg) .init arrivals).delivered.map (·.1.frameId) := by
      rw [mintedIds, List.filter_eq_self.2]
      intro d hd
      simp [(hsystem d hd).1]
    rw [hkeep, List.length_map, ← hpairs.length_eq] at hminted
    exact ⟨hminted, hsystem⟩

/-- The core on such a pixel, with headers. -/
def onePixelBlock : ShmConfig :=
  { pixelFormat := "RGB", width := 1, height := 1, framing := .header, reconnect := true }

/-- What the feeder sends of a frame in conversion and an older one. -/
def olderFrameSent : List FedFrame :=
  ((Machine.exec (Feeder.next Feeder.onePixel) .init Feeder.olderFrame).map (·.out)).getD []

/-- A frame of it, as it gets to the core. -/
def arrivalOf (f : FedFrame) : ShmEvent :=
  .sample 7
    { caps := none, data := (wireHeader f.stamp f.frameId 1 1 7 "camera").encode ++ f.pixels
      offset := 0, offsetEnd := 0, pts := none }

end CamDriver
