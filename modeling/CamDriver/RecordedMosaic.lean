import CamDriver.Formats

/-!
# CamDriver.RecordedMosaic

A Bayer frame from the recording feed to the replay of the recording: the plan that
tiles it, the header of the session, and the un-tiling that the replay builds from
that header.

The tiler takes the pattern of the source; the header says the pattern of the
config, where it has one.  `replayed_eq_iff` says which frames that changes.
-/

namespace CamDriver

open Grid

/-! ## Recording -/

/-- A source, as the recording sees it. -/
structure Camera where
  pixelFormat : String
  width : Nat
  height : Nat
  /-- it delivers an encoded bitstream -/
  encoded : Bool
deriving DecidableEq, Repr

/-- The result of `_recording_plan`, without the launch text; `tiler`: the pattern the
tiler was made with. -/
structure RecordingPlan where
  enc : Encoder
  mode : TileMode
  tiler : Option CfaPattern
deriving DecidableEq, Repr

/-- `_recording_plan`. -/
def recordingPlan (host : Encoder → Bool) (camera : Camera) (cfg : EncodingConfig) :
    Except String RecordingPlan := do
  let pf := parsePixelFormat camera.pixelFormat
  let enc ← recorderEncoder host cfg pf.bits pf.isColor camera.encoded
  if enc = .x264 ∧ (camera.width % 2 ≠ 0 ∨ camera.height % 2 ≠ 0) then
    throw ("recording.encoder=x264 requires even width and height for 4:2:0; " ++
      "use ffv1 for this geometry")
  match pf.bayer with
  | none => return { enc := enc, mode := .off, tiler := none }
  | some pattern =>
    if pf.bits ≤ 8 ∧ enc ∉ [Encoder.x264, .streamCopy] then
      let mode := normalizeMode cfg.bayerTile
      if mode = .off then return { enc := enc, mode := .off, tiler := none }
      if camera.width % 2 ≠ 0 ∨ camera.height % 2 ≠ 0 then
        throw "Bayer tiling requires even width and height"
      return { enc := enc, mode := mode, tiler := some pattern }
    else return { enc := enc, mode := .off, tiler := none }

/-- What `_feed_recording` pushes for a frame; `none`: the tiler raises. -/
def RecordingPlan.payload (plan : RecordingPlan) (camera : Camera) (frame : List UInt8) :
    Option (List UInt8) :=
  match plan.tiler with
  | none => some frame
  | some pattern => tileCfa frame camera.width camera.height plan.mode (some pattern.name)

/-- The fields of `SidecarHeader` that a replay untiles by. -/
structure MosaicHeader where
  pixelFormat : String
  bayerPattern : Option String
  width : Nat
  height : Nat
  cfaTileMode : String
  recordingEncoder : Option String
deriving DecidableEq, Repr

/-- `_session_header`, of these fields. -/
def mosaicHeader (camera : Camera) (cfg : EncodingConfig) (plan : RecordingPlan) : MosaicHeader :=
  { pixelFormat := camera.pixelFormat
    bayerPattern :=
      match cfg.bayerPattern with
      | none | some "" => (parsePixelFormat camera.pixelFormat).bayer.map CfaPattern.name
      | some pattern => some pattern
    width := camera.width
    height := camera.height
    cfaTileMode := plan.mode.name
    recordingEncoder := some plan.enc.name }

/-! ## Replaying -/

/-- `_ENC_KEY`. -/
def encKeys : List String := ["image/jpeg", "video/x-h264", "video/x-h265"]

/-- `copied`: the session holds the bitstream that was delivered. -/
def copied (header : MosaicHeader) (codec : String) : Bool :=
  codec ∈ encKeys && header.pixelFormat == "I420" &&
    (header.recordingEncoder = none ∨ header.recordingEncoder = some "" ∨
      header.recordingEncoder = some "stream-copy")

/-- The `_untile` of a session. -/
structure Untiler where
  mode : TileMode
  width : Nat
  height : Nat
  pattern : Option String
deriving DecidableEq, Repr

/-- `_activate_session`; `none`: nothing to un-tile. -/
def activateSession (header : MosaicHeader) (codec : String) : Option Untiler :=
  let mode := normalizeMode (.str header.cfaTileMode)
  if mode ≠ .off ∧ copied header codec = false then
    some { mode := mode, width := header.width, height := header.height,
           pattern := header.bayerPattern }
  else none

/-- The bytes a replay delivers for a decoded frame; `none`: un-tiling raises. -/
def delivered (untile : Option Untiler) (decoded : List UInt8) : Option (List UInt8) :=
  match untile with
  | none => some decoded
  | some u => untileCfa decoded u.width u.height u.mode u.pattern

/-- A codec: its caps, and both its directions. -/
structure Codec where
  caps : String
  encode : List UInt8 → List UInt8
  decode : List UInt8 → List UInt8

def Codec.Lossless (codec : Codec) : Prop := ∀ frame, codec.decode (codec.encode frame) = frame

/-- A frame that is recorded and replayed. -/
def replayed (codec : Codec) (camera : Camera) (cfg : EncodingConfig) (plan : RecordingPlan)
    (frame : List UInt8) : Option (List UInt8) :=
  (plan.payload camera frame).bind fun payload =>
    delivered (activateSession (mosaicHeader camera cfg plan) codec.caps)
      (codec.decode (codec.encode payload))

/-! ## What survives -/

/-- The pattern that the header's fields make a replay use. -/
def headerPattern (cfg : EncodingConfig) (pattern : CfaPattern) : CfaPattern :=
  match cfg.bayerPattern with
  | none | some "" => pattern
  | some text => .ofText (some text)

/-- A frame's reference greens, by the source's pattern and by the header's, are all at
the centre. -/
def FlatGreens (camera : Camera) (p q : CfaPattern) (frame : List UInt8) : Prop :=
  ∀ i < camera.height / 2, ∀ k < camera.width / 2,
    unshuffle frame camera.width p.phases.g1 i k = 128 ∧
      unshuffle frame camera.width q.phases.g1 i k = 128

/-- No colour transform is in play, or both sides take the same quadrant for the
reference green, or the greens carry nothing. -/
def KeepsMosaic (host : Encoder → Bool) (camera : Camera) (cfg : EncodingConfig)
    (pattern : CfaPattern) (frame : List UInt8) : Prop :=
  let pf := parsePixelFormat camera.pixelFormat
  let enc := recorderEncoder host cfg pf.bits pf.isColor camera.encoded
  (enc = .ok .x264 ∨ enc = .ok .streamCopy) ∨
    (normalizeMode cfg.bayerTile = .off ∨ normalizeMode cfg.bayerTile = .plain) ∨
    pattern.phases.g1 = (headerPattern cfg pattern).phases.g1 ∨
    FlatGreens camera pattern (headerPattern cfg pattern) frame

@[simp] theorem normalizeMode_name (mode : TileMode) : normalizeMode (.str mode.name) = mode := by
  cases mode <;> rfl

/-- A replay reads the header's pattern off the text. -/
theorem ofText_mosaicHeader {camera : Camera} {pattern : CfaPattern}
    (hpattern : (parsePixelFormat camera.pixelFormat).bayer = some pattern) (cfg : EncodingConfig)
    (plan : RecordingPlan) :
    CfaPattern.ofText (mosaicHeader camera cfg plan).bayerPattern = headerPattern cfg pattern := by
  unfold mosaicHeader headerPattern
  dsimp only
  split
  · rw [hpattern]
    exact CfaPattern.ofText_name pattern
  · rw [hpattern]
    exact CfaPattern.ofText_name pattern
  · rfl

/-- A Bayer recording is never taken for a copied bitstream. -/
theorem copied_mosaicHeader {camera : Camera} {pattern : CfaPattern}
    (hpattern : (parsePixelFormat camera.pixelFormat).bayer = some pattern) (cfg : EncodingConfig)
    (plan : RecordingPlan) (codec : String) :
    copied (mosaicHeader camera cfg plan) codec = false := by
  have hne : camera.pixelFormat ≠ "I420" := by
    intro h
    rw [h] at hpattern
    cases hpattern
  simp [copied, mosaicHeader, hne]

/-- The two kinds of plan for an 8-bit Bayer source. -/
theorem recordingPlan_cases {host : Encoder → Bool} {camera : Camera} {cfg : EncodingConfig}
    {pattern : CfaPattern} {plan : RecordingPlan}
    (hpattern : (parsePixelFormat camera.pixelFormat).bayer = some pattern)
    (hbits : (parsePixelFormat camera.pixelFormat).bits ≤ 8)
    (hplan : recordingPlan host camera cfg = .ok plan) :
    recorderEncoder host cfg (parsePixelFormat camera.pixelFormat).bits
        (parsePixelFormat camera.pixelFormat).isColor camera.encoded = .ok plan.enc ∧
      ((plan.mode = .off ∧ plan.tiler = none ∧
          (plan.enc = .x264 ∨ plan.enc = .streamCopy ∨ normalizeMode cfg.bayerTile = .off)) ∨
        (plan.mode = normalizeMode cfg.bayerTile ∧ plan.mode ≠ .off ∧ plan.tiler = some pattern ∧
          plan.enc ≠ .x264 ∧ plan.enc ≠ .streamCopy)) := by
  simp only [recordingPlan, hpattern, hbits] at hplan
  generalize recorderEncoder host cfg (parsePixelFormat camera.pixelFormat).bits
    (parsePixelFormat camera.pixelFormat).isColor camera.encoded = result at hplan ⊢
  cases result with
  | error text => cases hplan
  | ok enc =>
      simp only [bind, Except.bind, pure, Except.pure, throw, throwThe,
        MonadExceptOf.throw, true_and] at hplan
      split at hplan
      · cases hplan
      · split at hplan
        · next hraw =>
            have hraw : enc ≠ .x264 ∧ enc ≠ .streamCopy := by simpa using hraw
            split at hplan
            · next hoff =>
                cases hplan
                exact ⟨rfl, .inl ⟨rfl, rfl, .inr (.inr hoff)⟩⟩
            · next hon =>
                split at hplan
                · cases hplan
                · cases hplan
                  exact ⟨rfl, .inr ⟨rfl, hon, rfl, hraw⟩⟩
        · next hcopied =>
            have hcopied : enc = .x264 ∨ enc = .streamCopy := by
              simpa [or_iff_not_imp_left] using hcopied
            cases hplan
            refine ⟨rfl, .inl ⟨rfl, rfl, ?_⟩⟩
            exact hcopied.imp_right .inl

/-- **The round trip of a mosaic**: with a lossless codec a replay delivers the bytes the
source delivered exactly when the mosaic is kept. -/
theorem replayed_eq_iff (host : Encoder → Bool) (camera : Camera) (cfg : EncodingConfig)
    {pattern : CfaPattern} {plan : RecordingPlan}
    (hpattern : (parsePixelFormat camera.pixelFormat).bayer = some pattern)
    (hbits : (parsePixelFormat camera.pixelFormat).bits ≤ 8)
    (hw : camera.width % 2 = 0) (hh : camera.height % 2 = 0)
    (hplan : recordingPlan host camera cfg = .ok plan) (codec : Codec) (hcodec : codec.Lossless)
    {frame : List UInt8} (hlen : frame.length = camera.height * camera.width) :
    replayed codec camera cfg plan frame = some frame ↔
      KeepsMosaic host camera cfg pattern frame := by
  obtain ⟨henc, ⟨hmode, htiler, hoff⟩ | ⟨hmode, hne, htiler, hx264, hcopy⟩⟩ :=
    recordingPlan_cases hpattern hbits hplan
  · have hround : replayed codec camera cfg plan frame = some frame := by
      simp [replayed, RecordingPlan.payload, htiler, activateSession, mosaicHeader, hmode,
        delivered, hcodec frame]
    refine iff_of_true hround ?_
    simp only [KeepsMosaic, henc]
    rcases hoff with h | h | h
    · exact .inl (.inl (by rw [h]))
    · exact .inl (.inr (by rw [h]))
    · exact .inr (.inl (.inl h))
  · have hround : replayed codec camera cfg plan frame =
        ((tileCfa frame camera.width camera.height plan.mode (some pattern.name)).bind fun tiled =>
          untileCfa tiled camera.width camera.height plan.mode
            (mosaicHeader camera cfg plan).bayerPattern) := by
      simp only [replayed, RecordingPlan.payload, htiler, activateSession,
        copied_mosaicHeader hpattern, hcodec _]
      simp [mosaicHeader, hne, delivered]
    rw [hround, untileCfa_tileCfa_eq hw hh hlen, ofText_mosaicHeader hpattern,
      CfaPattern.ofText_name, Option.some.injEq]
    conv_lhs => rhs; rw [← shuffle_unshuffle hlen]
    rw [shuffle_inj hh hw, sameQuarters_transform_iff hne]
    simp only [KeepsMosaic, henc, ← hmode, FlatGreens]
    simp [hne, hx264, hcopy]

/-- A codec that stores the bytes as they are. -/
def storingCodec : Codec := { caps := "video/x-ffv", encode := id, decode := id }

/-- A host with every encoder. -/
def fullHost : Encoder → Bool := fun _ => true

/-- An 8-bit Bayer camera of two by two pixels. -/
def tinyBayer : Camera :=
  { pixelFormat := "BayerRG8", width := 2, height := 2, encoded := false }

/-- Tiling by the difference of the greens, with whatever pattern in the config. -/
def greenDiffConfig (bayerPattern : Option String) : EncodingConfig :=
  { encoder := "ffv1", x264Crf := 23, x264Preset := "ultrafast", bayerPattern := bayerPattern,
    bayerTile := .str "green_diff" }

/-- The plan of such a recording. -/
def greenDiffPlan : RecordingPlan := { enc := .ffv1, mode := .greenDiff, tiler := some .rggb }

/-- A config that names another pattern than the source's makes the replay restore the
wrong quadrant. -/
theorem not_replayed_eq :
    ¬ ∀ (host : Encoder → Bool) (camera : Camera) (cfg : EncodingConfig) (pattern : CfaPattern)
      (plan : RecordingPlan), (parsePixelFormat camera.pixelFormat).bayer = some pattern →
      (parsePixelFormat camera.pixelFormat).bits ≤ 8 →
      camera.width % 2 = 0 → camera.height % 2 = 0 →
      recordingPlan host camera cfg = .ok plan → ∀ codec : Codec, codec.Lossless →
      ∀ frame : List UInt8, frame.length = camera.height * camera.width →
        replayed codec camera cfg plan frame = some frame := by
  intro h
  have hsame := h fullHost tinyBayer (greenDiffConfig (some "grbg")) .rggb greenDiffPlan rfl
    (by decide) rfl rfl rfl storingCodec (fun _ => rfl) [1, 2, 3, 4] rfl
  exact absurd hsame (by decide +kernel)

/-- Without an override the mosaic comes back. -/
theorem replayed_eq_tinyBayer :
    replayed storingCodec tinyBayer (greenDiffConfig none) greenDiffPlan [1, 2, 3, 4] =
      some [1, 2, 3, 4] :=
  (replayed_eq_iff fullHost tinyBayer (greenDiffConfig none)
    (rfl : (parsePixelFormat tinyBayer.pixelFormat).bayer = some .rggb) (by decide) rfl rfl rfl
    storingCodec (fun _ => rfl) rfl).mpr (.inr (.inr (.inl rfl)))

end CamDriver
