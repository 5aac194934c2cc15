import CamDriver.HeaderPump
import CamDriver.Lib.Announce
import CamDriver.Lib.Machine
import CamDriver.ScalePlan
import CamDriver.Text

/-!
# CamDriver.StreamDiscovery

How the WebRTC bridge makes a headered stream known: the descriptor that it builds from the
environment and from the caps of the pump, and the `StreamAdvertiser` that declares it.

The pump runs on the streaming thread; everything else, the signals too, is dispatched by the
main loop one after the other, and any call of Zenoh may fail.  The pump asks for `_advertise`
before it pushes the frame whose caps it has set, so the two can come in either order, and
`_on_hdr_sample` is two steps here.  `discovered_run` says what a consumer may rely on, in any
order of the steps.

Over raw shm and unixfd there is no pump: `_on_message` advertises when `cam_src` is playing,
with the caps of its pad.  That path is left out.
-/

namespace CamDriver

open Announce

/-! ## The descriptor -/

/-- `os.environ`, with the name of the host. -/
structure BridgeEnviron where
  get : String → Option String
  hostname : String

namespace BridgeEnviron

/-- `_env`: an empty value counts as none. -/
def env (e : BridgeEnviron) (name : String) : Option String :=
  (e.get name).filter (· ≠ "")

/-- `_env` with a default. -/
def envOr (e : BridgeEnviron) (name default : String) : String := (e.env name).getD default

/-- `envint`. -/
def envInt (e : BridgeEnviron) (name : String) : Option Int :=
  (e.env name).bind fun value => intOf value.toList

def vehicleId (e : BridgeEnviron) : String := e.envOr "VEHICLE_ID" e.hostname

def sensorId (e : BridgeEnviron) : String := e.envOr "CAM_INSTANCE" "camera"

def producerId (e : BridgeEnviron) : String :=
  e.envOr "CAM_PRODUCER_ID" (e.vehicleId ++ "-" ++ e.sensorId)

def signallingUrl (e : BridgeEnviron) : String :=
  match e.env "CAM_SIGNALLING_URL" with
  | some url => url
  | none =>
    e.envOr "CAM_SIGNALLING_SCHEME" "ws" ++ "://" ++ e.envOr "CAM_SIGNALLING_HOST" e.hostname ++
      ":" ++ e.envOr "SIGNALLING_PORT" "8443"

end BridgeEnviron

/-- `_truthy`. -/
def truthy (value : String) : Bool :=
  ["1", "true", "yes", "on"].any fun t => t.toList = stripLower value

/-- What the bridge knows from its environment alone. -/
structure BaseDescriptor where
  schemaVersion : Nat
  id : String
  role : String
  producer : String
  protocol : String
  signalling : String
  producerId : String
  codec : Option String
  source : Option String
  rosTopic : Option String
  recording : Option String
deriving DecidableEq, Repr

/-- `_CODEC_FROM_CAPS`. -/
def codecFromCaps : List (String × String) :=
  [("video/x-h264", "h264"), ("video/x-h265", "h265"), ("video/x-vp8", "vp8"),
    ("video/x-vp9", "vp9"), ("video/x-av1", "av1")]

/-- `base_descriptor`. -/
def baseDescriptor (e : BridgeEnviron) : BaseDescriptor :=
  let media := strip ((e.envOr "VIDEO_CAPS" "").toList.takeWhile (· ≠ ','))
  let source := stripLower (e.envOr "CAM_SOURCE_TYPE" "")
  { schemaVersion := 1
    id := e.sensorId
    role := e.envOr "CAM_STREAM_ROLE" e.sensorId
    producer := "camera-service"
    protocol := e.envOr "CAM_SIGNALLING_PROTOCOL" "gstwebrtc-api"
    signalling := e.signallingUrl
    producerId := e.producerId
    codec := codecFromCaps.lookup (String.ofList media)
    source := if source = [] then none else some (String.ofList source)
    rosTopic := (e.env "CAM_ROS_TOPIC").map fun topic =>
      if topic.toList.head? = some '/' then topic else "/" ++ topic
    recording := e.env "CAM_RECORDING_GLOB" }

/-- A descriptor; a number that is none is left out. -/
structure StreamDescriptor extends BaseDescriptor where
  width : Option Int
  height : Option Int
  fps : Option Int
  pixelFormat : String
deriving DecidableEq, Repr

/-- `a or b`, of numbers. -/
def orInt (a b : Option Int) : Option Int := if a = none ∨ a = some 0 then b else a

/-- `fill_dims_from_caps`. -/
def fillDimsFromCaps (e : BridgeEnviron) (d : BaseDescriptor) (caps : Option FrameCaps) :
    StreamDescriptor :=
  let pix := caps.bind fun c =>
    if c.format = "" then none
    else if c.isBayer then some ("bayer_" ++ c.format ++ "8") else some c.format
  let hint := match e.env "CAM_BAYER" with
    | some bayer => "bayer_" ++ bayer ++ "8"
    | none => e.envOr "CAM_FORMAT" "GRAY8"
  { toBaseDescriptor := d
    width := orInt (caps.map fun c => (c.width : Int)) (e.envInt "CAM_WIDTH")
    height := orInt (caps.map fun c => (c.height : Int)) (e.envInt "CAM_HEIGHT")
    fps := orInt (caps.bind FrameCaps.fps) (e.envInt "CAM_FPS")
    pixelFormat := pix.getD hint }

/-- The descriptor of `_advertise`; `maxSize` bounds what is encoded. -/
def streamDescriptor (e : BridgeEnviron) (maxSize : Option FrameSize) (caps : Option FrameCaps) :
    StreamDescriptor :=
  let d := fillDimsFromCaps e (baseDescriptor e) caps
  match maxSize, d.width, d.height with
  | some box, some width, some height =>
    if width = 0 ∨ height = 0 then d
    else
      match fitWithin ⟨width.toNat, height.toNat⟩ box with
      | some target => { d with width := some target.width, height := some target.height }
      | none => d
  | _, _, _ => d

/-! ## The advertiser -/

inductive StreamDeclaration where
  | queryable | token
deriving DecidableEq, Repr

/-- Whoever sees the token fetches the descriptor. -/
def streamNeeds : StreamDeclaration → List StreamDeclaration
  | .token => [.queryable]
  | .queryable => []

/-- `StreamAdvertiser`; a handle is the number of its session. -/
structure StreamAdvertiser where
  key : String
  descriptor : StreamDescriptor
  session : Option Nat
  token : Option Nat
  queryable : Option Nat
deriving DecidableEq, Repr

/-- How a teardown goes: the handles whose `undeclare` raises, and whether `close` does. -/
structure StreamTeardown where
  refuses : Nat × StreamDeclaration → Bool
  closeFails : Bool

/-- How an attempt goes: which calls of Zenoh work, and the teardown after one that does not. -/
structure Attempt where
  imports : Bool
  opens : Bool
  queries : Bool
  declares : Bool
  teardown : StreamTeardown

namespace StreamAdvertiser

def init (key : String) (descriptor : StreamDescriptor) : StreamAdvertiser :=
  { key, descriptor, session := none, token := none, queryable := none }

/-- `active`. -/
def active (adv : StreamAdvertiser) : Bool := adv.token.isSome

/-- What `_safe_close` withdraws, in its order. -/
def handles (adv : StreamAdvertiser) : List (Nat × StreamDeclaration) :=
  (adv.token.map (·, .token)).toList ++ (adv.queryable.map (·, .queryable)).toList

/-- The end of `_safe_close`. -/
def closing (adv : StreamAdvertiser) (t : StreamTeardown) : List (WireEvent StreamDeclaration) :=
  (adv.session.map fun s => if t.closeFails then .unclosed s else .closed s).toList

/-- `_safe_close`, with what it does on the wire. -/
def safeClose (adv : StreamAdvertiser) (t : StreamTeardown) :
    StreamAdvertiser × List (WireEvent StreamDeclaration) :=
  ({ adv with session := none, token := none, queryable := none },
    withdrawAll t.refuses adv.handles ++ adv.closing t)

/-- `advertise` in a session `s` that may be opened, with what it does on the wire. -/
def advertise (adv : StreamAdvertiser) (s : Nat) (a : Attempt) :
    StreamAdvertiser × List (WireEvent StreamDeclaration) :=
  if adv.session.isSome ∨ a.imports = false then (adv, [])
  else if a.opens = false then adv.safeClose a.teardown
  else
    let adv := { adv with session := some s }
    if a.queries = false then adv.safeClose a.teardown
    else
      let adv := { adv with queryable := some s }
      if a.declares = false then
        let (adv, log) := adv.safeClose a.teardown
        (adv, .declared s .queryable :: log)
      else
        ({ adv with token := some s }, [.declared s .queryable, .declared s .token])

end StreamAdvertiser

/-! ## What the advertiser keeps -/

/-- The declarations of the advertiser, and what it knows of them. -/
structure SoundAdvertiser (adv : StreamAdvertiser) (log : List (WireEvent StreamDeclaration)) :
    Prop where
  guarded : AlwaysGuarded streamNeeds log
  /-- `_safe_close` would withdraw all that is live, apart from what is left behind -/
  known : ∀ h ∈ live log, LeftBehind log h ∨ h ∈ adv.handles
  /-- whatever is live is of the current session, or of one that could not be closed -/
  clean : ∀ h ∈ live log, adv.session = some h.1 ∨ .unclosed h.1 ∈ log
  idle : adv.session = none → adv.handles = []
  /-- what the advertiser holds is live -/
  held : ∀ h ∈ adv.handles, h ∈ live log

namespace StreamAdvertiser

variable {adv : StreamAdvertiser} {log : List (WireEvent StreamDeclaration)}

/-- The handles stand in the order in which they were declared. -/
theorem topDown_handles (adv : StreamAdvertiser) : TopDown streamNeeds adv.handles := by
  unfold handles TopDown
  cases adv.token <;> cases adv.queryable <;> simp [streamNeeds]

/-- What stays live when everything is withdrawn. -/
theorem mem_live_safeClose {t : StreamTeardown} {h : Nat × StreamDeclaration}
    (hmem : h ∈ live (log ++ (adv.safeClose t).2)) :
    h ∈ live log ∧ (h ∈ adv.handles → t.refuses h = true) ∧
      ∀ s, adv.session = some s → t.closeFails = false → h.1 ≠ s := by
  simp only [safeClose, closing, ← List.append_assoc] at hmem
  cases hsession : adv.session with
  | none =>
      simp only [hsession, Option.map_none, Option.toList_none, List.append_nil] at hmem
      obtain ⟨hlive, hrefuses⟩ := mem_live_withdrawAll.1 hmem
      exact ⟨hlive, hrefuses, fun s hs => by cases hs⟩
  | some s =>
      simp only [hsession, Option.map_some, Option.toList_some, live_append] at hmem
      by_cases hfails : t.closeFails = true
      · rw [if_pos hfails] at hmem
        obtain ⟨hlive, hrefuses⟩ := mem_live_withdrawAll.1 hmem
        exact ⟨hlive, hrefuses, fun _ _ hno => by simp [hfails] at hno⟩
      · rw [if_neg hfails] at hmem
        simp only [WireEvent.next, List.mem_filter, decide_eq_true_eq] at hmem
        obtain ⟨hlive, hrefuses⟩ := mem_live_withdrawAll.1 hmem.1
        refine ⟨hlive, hrefuses, ?_⟩
        rintro s' ⟨⟩ -
        exact hmem.2

/-- A teardown leaves live what a session refused to give back, and nothing else. -/
theorem sound_safeClose (h : SoundAdvertiser adv log) (t : StreamTeardown) :
    SoundAdvertiser (adv.safeClose t).1 (log ++ (adv.safeClose t).2) ∧
      ∀ d ∈ live (log ++ (adv.safeClose t).2), LeftBehind (log ++ (adv.safeClose t).2) d := by
  have hleft : ∀ d ∈ live (log ++ (adv.safeClose t).2),
      LeftBehind (log ++ (adv.safeClose t).2) d := by
    intro d hmem
    obtain ⟨hlive, hrefuses, -⟩ := mem_live_safeClose hmem
    rcases h.known d hlive with hleft | hhandle
    · exact hleft.append _
    · have hrefused := refused_mem_withdrawAll hhandle (hrefuses hhandle)
      exact .inl (List.mem_append_right _ (List.mem_append_left _ hrefused))
  refine ⟨⟨?guarded, fun d hd => .inl (hleft d hd), ?clean, fun _ => rfl, by rintro d ⟨⟩⟩, hleft⟩
  case guarded =>
    have hwithdrawn := alwaysGuarded_withdrawAll t.refuses (topDown_handles adv) h.guarded
      fun d _ x hlive => h.known _ hlive
    simp only [safeClose, closing, ← List.append_assoc]
    cases adv.session with
    | none => simpa using hwithdrawn
    | some s =>
        rw [Option.map_some, Option.toList_some]
        split
        · exact hwithdrawn.same rfl
        · exact alwaysGuarded_closed s hwithdrawn
  case clean =>
    intro d hmem
    obtain ⟨hlive, -, hclosed⟩ := mem_live_safeClose hmem
    right
    rcases h.clean d hlive with hcurrent | hunclosed
    · -- it is of the session that is being closed, so that failed
      have hfails : t.closeFails = true := by
        by_contra hcloses
        exact hclosed _ hcurrent (by simpa using hcloses) rfl
      simp [safeClose, closing, hcurrent, hfails]
    · exact List.mem_append_left _ hunclosed

/-- One more declaration of a session that has just been opened. -/
theorem sound_declared (h : SoundAdvertiser adv log) {s : Nat} (hsession : adv.session = some s)
    (d : StreamDeclaration) {adv' : StreamAdvertiser} (hsession' : adv'.session = some s)
    (hhandles : ∀ h, h ∈ adv'.handles ↔ h ∈ adv.handles ∨ h = (s, d))
    (hneeds : ∀ e ∈ streamNeeds d, (s, e) ∈ live log) :
    SoundAdvertiser adv' (log ++ [.declared s d]) := by
  have hlive {x : Nat × StreamDeclaration} :
      x ∈ live (log ++ [.declared s d]) ↔ x ∈ live log ∨ x = (s, d) := by
    simp [live_append, WireEvent.next]
  refine ⟨alwaysGuarded_declared h.guarded hneeds, ?known, ?clean, ?idle, ?held⟩
  case held =>
    intro x hx
    exact hlive.2 (((hhandles x).1 hx).imp (h.held x) id)
  case known =>
    intro x hx
    rcases hlive.1 hx with hx | rfl
    · exact (h.known x hx).imp (fun hleft => hleft.append _) fun hmem =>
        (hhandles x).2 (.inl hmem)
    · exact .inr ((hhandles _).2 (.inr rfl))
  case clean =>
    intro x hx
    rcases hlive.1 hx with hx | rfl
    · rw [hsession', ← hsession]
      exact (h.clean x hx).imp id (List.mem_append_left _)
    · exact .inl hsession'
  case idle =>
    intro hnone
    cases hsession'.symm.trans hnone

/-- A session that has just been opened. -/
theorem sound_opened (h : SoundAdvertiser adv log) (hnone : adv.session = none) (s : Nat) :
    SoundAdvertiser { adv with session := some s } log := by
  refine ⟨h.guarded, h.known, ?_, by rintro ⟨⟩, h.held⟩
  intro x hx
  exact .inr ((h.clean x hx).resolve_left (by simp [hnone]))

/-- An attempt to advertise keeps the advertiser sound, whatever raises in it. -/
theorem sound_advertise (h : SoundAdvertiser adv log) (s : Nat) (a : Attempt) :
    SoundAdvertiser (adv.advertise s a).1 (log ++ (adv.advertise s a).2) := by
  unfold advertise
  split
  case isTrue => simpa using h
  case isFalse hnew =>
    obtain ⟨hnone, -⟩ := not_or.1 hnew
    rw [Option.not_isSome_iff_eq_none] at hnone
    have hempty := h.idle hnone
    have htoken : adv.token = none := by
      cases htoken : adv.token with
      | none => rfl
      | some s => simp [handles, htoken] at hempty
    have hqueryable : adv.queryable = none := by
      cases hqueryable : adv.queryable with
      | none => rfl
      | some s => simp [handles, hqueryable] at hempty
    split
    case isTrue => exact (sound_safeClose h a.teardown).1
    case isFalse =>
      have hopened := sound_opened h hnone s
      dsimp only
      split
      case isTrue => exact (sound_safeClose hopened a.teardown).1
      case isFalse =>
        -- the queryable is declared first
        have hdeclared : SoundAdvertiser { adv with session := some s, queryable := some s }
            (log ++ [.declared s .queryable]) :=
          sound_declared hopened rfl .queryable rfl (by simp [handles, htoken, hqueryable])
            (by rintro e ⟨⟩)
        split
        case isTrue =>
          have hclosed := (sound_safeClose hdeclared a.teardown).1
          rwa [List.append_assoc] at hclosed
        case isFalse =>
          have hlive : (s, StreamDeclaration.queryable) ∈
              live (log ++ [.declared s .queryable]) := by
            simp [live_append, WireEvent.next]
          have htokened : SoundAdvertiser
              { adv with session := some s, queryable := some s, token := some s }
              (log ++ [.declared s .queryable] ++ [.declared s .token]) :=
            sound_declared hdeclared rfl .token rfl (by simp [handles, htoken, or_comm])
              (by simpa [streamNeeds] using hlive)
          rwa [List.append_assoc] at htokened

/-- Neither the key nor the descriptor changes. -/
theorem advertise_fixed (adv : StreamAdvertiser) (s : Nat) (a : Attempt) :
    (adv.advertise s a).1.key = adv.key ∧ (adv.advertise s a).1.descriptor = adv.descriptor := by
  unfold advertise
  split
  · exact ⟨rfl, rfl⟩
  · dsimp only
    split_ifs <;> exact ⟨rfl, rfl⟩

end StreamAdvertiser

/-! ## The bridge -/

/-- What the bridge is started with. -/
structure BridgeSetup where
  environ : BridgeEnviron
  debayer : Bool
  maxSize : Option FrameSize

/-- `int(_env("CAM_FPS") or 0) or None`. -/
def BridgeSetup.fpsHint (setup : BridgeSetup) : Option Int :=
  (setup.environ.envInt "CAM_FPS").filter (· ≠ 0)

def BridgeSetup.pump (setup : BridgeSetup) : PumpSetup :=
  { bayer := setup.environ.env "CAM_BAYER", debayer := setup.debayer, fps := setup.fpsHint }

/-- The key of the stream. -/
def BridgeSetup.streamKey (setup : BridgeSetup) : String :=
  "fleet/" ++ setup.environ.vehicleId ++ "/media/" ++ setup.environ.sensorId

/-- A frame in the hands of `_on_hdr_sample`: the caps are set, it is not pushed yet. -/
structure HandledFrame where
  now : Int
  info : FrameInfo
  pixels : List UInt8
deriving DecidableEq, Repr

/-- The bridge, with the pump: `padCaps` are the current caps of the pad of `hdr_out`,
`entered` counts the calls of `_advertise`, `retrying` says whether the timer is there. -/
structure PreviewBridge where
  pump : HeaderPump
  handled : Option HandledFrame
  padCaps : Option FrameCaps
  entered : Nat
  advertised : Bool
  advertiser : Option StreamAdvertiser
  retrying : Bool
  stopping : Bool
  down : Bool
  sessions : Nat
  log : List (WireEvent StreamDeclaration)

inductive BridgeEvent where
  /-- `_on_hdr_sample`, on the streaming thread, up to the caps and the `idle_add` -/
  | sample (sample : PumpSample)
  /-- the rest of it: the frame is pushed -/
  | push
  /-- the pad takes the caps that the element has -/
  | negotiated
  /-- the main loop gets to the `_advertise` that it was asked for -/
  | advertise (a : Attempt)
  /-- the timer of the retry -/
  | tick (a : Attempt)
  | signal
  /-- `_teardown`, once the loop has ended -/
  | teardown (t : StreamTeardown)

namespace PreviewBridge

def init : PreviewBridge :=
  { pump := .init, handled := none, padCaps := none, entered := 0, advertised := false,
    advertiser := none, retrying := false, stopping := false, down := false, sessions := 0,
    log := [] }

/-- `_on_hdr_sample`, up to the `idle_add`. -/
def onHdrSample (setup : BridgeSetup) (b : PreviewBridge) (sample : PumpSample) : PreviewBridge :=
  match HeaderPump.read sample with
  | none => b
  | some (info, pixels) =>
    { b with
      pump := b.pump.reformat setup.pump b.advertised info
      handled := some { now := sample.now, info, pixels } }

/-- Its rest. -/
def pushHandled (b : PreviewBridge) (f : HandledFrame) : PreviewBridge :=
  { b with pump := b.pump.push f.now f.info f.pixels, handled := none }

/-- `_try_advertise`. -/
def tryAdvertise (b : PreviewBridge) (a : Attempt) : PreviewBridge × Bool :=
  match b.advertiser with
  | none => (b, false)
  | some adv =>
    let (adv, log) := adv.advertise b.sessions a
    ({ b with advertiser := some adv, sessions := b.sessions + 1, log := b.log ++ log },
      adv.active)

/-- `_advertise`. -/
def advertise (setup : BridgeSetup) (b : PreviewBridge) (a : Attempt) : PreviewBridge :=
  let b := { b with entered := b.entered + 1, advertised := true }
  if ¬ truthy (setup.environ.envOr "CAM_ADVERTISE" "1") then b
  else
    let descriptor :=
      streamDescriptor setup.environ setup.maxSize (b.padCaps.or b.pump.caps)
    let b := { b with advertiser := some (.init setup.streamKey descriptor) }
    let (b, ok) := b.tryAdvertise a
    if ok then b else { b with retrying := true }

/-- `_retry_advertise`. -/
def retryAdvertise (b : PreviewBridge) (a : Attempt) : PreviewBridge :=
  if b.stopping then { b with retrying := false }
  else
    let (b, ok) := b.tryAdvertise a
    { b with retrying := !ok }

/-- `_teardown`. -/
def teardown (b : PreviewBridge) (t : StreamTeardown) : PreviewBridge :=
  match b.advertiser with
  | none => { b with down := true }
  | some adv =>
    let (adv, log) := adv.safeClose t
    { b with advertiser := some adv, down := true, log := b.log ++ log }

/-- One step; `none`: it cannot come now. -/
def next (setup : BridgeSetup) (b : PreviewBridge) (e : BridgeEvent) : Option PreviewBridge :=
  if b.down then none
  else
    match e with
    | .sample sample => if b.handled = none then some (b.onHdrSample setup sample) else none
    | .push => b.handled.map b.pushHandled
    | .negotiated => some { b with padCaps := b.pump.caps }
    | .advertise a => if b.entered < b.pump.requests then some (b.advertise setup a) else none
    | .tick a => if b.retrying then some (b.retryAdvertise a) else none
    | .signal => some { b with stopping := true }
    | .teardown t => some (b.teardown t)

/-! ## A run -/

/-- The pump has taken a frame with these caps: it has pushed it, or is about to. -/
def Took (setup : BridgeSetup) (b : PreviewBridge) (caps : FrameCaps) : Prop :=
  (∃ f ∈ b.pump.pushed, f.caps = some caps) ∨
    ∃ f ∈ b.handled, caps = capsForFrame setup.pump f.info

/-- What a consumer may rely on. -/
structure Discovered (setup : BridgeSetup) (b : PreviewBridge) : Prop where
  /-- At every moment so far, whoever saw a token could fetch the descriptor, but for what a
  failing withdrawal left behind. -/
  guarded : AlwaysGuarded streamNeeds b.log
  /-- Of the sessions that did not fail to close, one is live at most. -/
  single : ∀ h ∈ live b.log, ∀ h' ∈ live b.log,
    .unclosed h.1 ∉ b.log → .unclosed h'.1 ∉ b.log → h.1 = h'.1
  /-- The descriptor tells the caps of a frame that is pushed, or about to be. -/
  truthful : ∀ adv ∈ b.advertiser, adv.key = setup.streamKey ∧ ∃ caps, b.Took setup caps ∧
    adv.descriptor = streamDescriptor setup.environ setup.maxSize (some caps)
  /-- Before the first frame has come nothing is declared. -/
  started : b.log ≠ [] → b.pump.pushed ≠ [] ∨ b.handled ≠ none
  once : b.entered ≤ 1
  /-- Until the token is there, the timer is. -/
  retried : truthy (setup.environ.envOr "CAM_ADVERTISE" "1") = true → b.entered ≠ 0 →
    b.stopping = false → b.down = false → (∃ s, (s, .token) ∈ live b.log) ∨ b.retrying = true
  /-- After the teardown nothing is live, but for what was left behind in a session that
  could not be closed. -/
  ended : b.down = true → ∀ h ∈ live b.log, LeftBehind b.log h ∧ .unclosed h.1 ∈ b.log

/-- The advertiser of the bridge, and its log. -/
def AdvertiserHolds (setup : BridgeSetup) (b : PreviewBridge) : Prop :=
  match b.advertiser with
  | none => b.log = []
  | some adv => SoundAdvertiser adv b.log ∧ adv.key = setup.streamKey ∧ ∃ caps,
      b.Took setup caps ∧
        adv.descriptor = streamDescriptor setup.environ setup.maxSize (some caps)

/-- The invariant of the bridge. -/
structure Inv (setup : BridgeSetup) (b : PreviewBridge) : Prop where
  pump : ∃ events, HeaderPump.Inv setup.pump events b.pump
  /-- the caps of the frame in hand are set -/
  handled : ∀ f ∈ b.handled, b.pump.capsKey = some (HeaderPump.key f.info) ∧
    ∃ sample, sample.now = f.now ∧ HeaderPump.read sample = some (f.info, f.pixels)
  pumpCaps : ∀ caps, b.pump.caps = some caps → b.Took setup caps
  padCaps : ∀ caps, b.padCaps = some caps → b.Took setup caps
  requested : b.pump.requests ≠ 0 → b.pump.caps.isSome
  entered : b.entered ≤ b.pump.requests
  unentered : b.entered = 0 → b.advertiser = none
  advertiser : AdvertiserHolds setup b
  retried : truthy (setup.environ.envOr "CAM_ADVERTISE" "1") = true → b.entered ≠ 0 →
    b.stopping = false → b.down = false →
      (∃ adv ∈ b.advertiser, adv.active = true) ∨ b.retrying = true
  ended : b.down = true → (∀ h ∈ live b.log, LeftBehind b.log h) ∧
    ∀ adv ∈ b.advertiser, adv.session = none

variable {setup : BridgeSetup} {b : PreviewBridge}

theorem inv_init (setup : BridgeSetup) : Inv setup init where
  pump := ⟨[], HeaderPump.inv_run setup.pump []⟩
  handled := by rintro f ⟨⟩
  pumpCaps := by rintro caps ⟨⟩
  padCaps := by rintro caps ⟨⟩
  requested := fun h => absurd rfl h
  entered := le_rfl
  unentered := fun _ => rfl
  advertiser := rfl
  retried := fun _ h => absurd rfl h
  ended := by rintro ⟨⟩

/-- What holds of the advertiser holds when more frames are taken. -/
theorem AdvertiserHolds.mono (h : AdvertiserHolds setup b) {b' : PreviewBridge}
    (hadv : b'.advertiser = b.advertiser) (hlog : b'.log = b.log)
    (htook : ∀ caps, b.Took setup caps → b'.Took setup caps) : AdvertiserHolds setup b' := by
  unfold AdvertiserHolds at h ⊢
  rw [hadv, hlog]
  split at h
  · exact h
  · obtain ⟨hsound, hkey, caps, hcaps, hdescriptor⟩ := h
    exact ⟨hsound, hkey, caps, htook caps hcaps, hdescriptor⟩

/-- The caps are set, and the main loop may be asked for the advertisement. -/
theorem inv_sample (h : Inv setup b) (hfree : b.handled = none) (sample : PumpSample) :
    Inv setup (b.onHdrSample setup sample) := by
  unfold onHdrSample
  split
  case h_1 => exact h
  case h_2 info pixels hread =>
    obtain ⟨events, hpump⟩ := h.pump
    obtain ⟨hcaps, hkey, -, -, hpushed⟩ := HeaderPump.reformat_spec hpump.caps hpump.unasked
      hpump.requests b.advertised info
    set b' : PreviewBridge :=
      { b with
        pump := b.pump.reformat setup.pump b.advertised info
        handled := some { now := sample.now, info, pixels } } with hb'
    have htook : ∀ caps, b.Took setup caps → b'.Took setup caps := by
      rintro caps (⟨f, hf, hfcaps⟩ | ⟨f, hf, -⟩)
      · exact .inl ⟨f, by rwa [hb', hpushed], hfcaps⟩
      · rw [hfree] at hf
        cases hf
    exact
      { pump := ⟨events, hpump.reformat b.advertised info⟩
        handled := by
          rintro f ⟨⟩
          exact ⟨hkey, sample, rfl, hread⟩
        pumpCaps := by
          intro caps hset
          obtain rfl := Option.some.inj (hcaps.symm.trans hset)
          exact .inr ⟨_, rfl, rfl⟩
        padCaps := fun caps hset => htook caps (h.padCaps caps hset)
        requested := fun _ => by rw [hcaps]; rfl
        entered := h.entered.trans (HeaderPump.requests_le_reformat _ _ _ _)
        unentered := h.unentered
        advertiser := h.advertiser.mono rfl rfl htook
        retried := h.retried
        ended := h.ended }

/-- The frame is pushed, in the caps that have been set for it. -/
theorem inv_push (h : Inv setup b) {f : HandledFrame} (hf : b.handled = some f) :
    Inv setup (b.pushHandled f) := by
  obtain ⟨events, hpump⟩ := h.pump
  obtain ⟨hkey, sample, hnow, hread⟩ := h.handled f hf
  have hcaps := hpump.caps f.info hkey
  have htook : ∀ caps, b.Took setup caps → (b.pushHandled f).Took setup caps := by
    rintro caps (⟨p, hp, hpcaps⟩ | ⟨f', hf', rfl⟩)
    · exact .inl ⟨p, List.mem_append_left _ hp, hpcaps⟩
    · obtain rfl := Option.some.inj (hf.symm.trans hf')
      exact .inl ⟨_, List.mem_append_right _ List.mem_cons_self, hcaps⟩
  exact
    { pump := ⟨_, hnow ▸ hpump.push b.advertised hread hkey⟩
      handled := by rintro f' ⟨⟩
      pumpCaps := fun caps hset => htook caps (h.pumpCaps caps hset)
      padCaps := fun caps hset => htook caps (h.padCaps caps hset)
      requested := h.requested
      entered := h.entered
      unentered := h.unentered
      advertiser := h.advertiser.mono rfl rfl htook
      retried := h.retried
      ended := h.ended }

/-- An attempt changes the advertiser and the log only, keeps what holds of them, and says
whether there is a token. -/
theorem tryAdvertise_spec (h : AdvertiserHolds setup b) (a : Attempt) :
    ∃ adv sessions log,
      (b.tryAdvertise a).1 = { b with advertiser := adv, sessions, log } ∧
        AdvertiserHolds setup (b.tryAdvertise a).1 ∧
          ((b.tryAdvertise a).2 = true → ∃ adv' ∈ adv, adv'.active = true) ∧
            (b.advertiser = none → adv = none) := by
  unfold tryAdvertise
  split
  case h_1 hnone => exact ⟨_, _, _, rfl, h, by rintro ⟨⟩, fun _ => hnone⟩
  case h_2 adv hadv =>
    unfold AdvertiserHolds at h
    rw [hadv] at h
    obtain ⟨hsound, hkey, caps, hcaps, hdescriptor⟩ := h
    obtain ⟨hkey', hdescriptor'⟩ := StreamAdvertiser.advertise_fixed adv b.sessions a
    refine ⟨_, _, _, rfl, ⟨StreamAdvertiser.sound_advertise hsound b.sessions a, ?_, caps,
      hcaps, ?_⟩, fun hok => ⟨_, rfl, hok⟩, fun hnone => by rw [hadv] at hnone; cases hnone⟩
    · rw [hkey', hkey]
    · rw [hdescriptor', hdescriptor]

/-- An attempt that the pump has asked for keeps the invariant. -/
theorem inv_advertise (h : Inv setup b) (hdown : b.down = false)
    (hrequested : b.entered < b.pump.requests) (a : Attempt) :
    Inv setup (b.advertise setup a) := by
  obtain ⟨events, hpump⟩ := h.pump
  have hfirst : b.entered = 0 := by
    have hone := hpump.requests
    omega
  have hnone := h.unentered hfirst
  have hlog : b.log = [] := by
    have hholds := h.advertiser
    rwa [AdvertiserHolds, hnone] at hholds
  unfold advertise
  dsimp only
  split
  case isTrue hoff =>
    exact
      { h with
        entered := hrequested
        unentered := fun _ => hnone
        advertiser := by rwa [AdvertiserHolds, hnone]
        retried := fun hon => absurd hon hoff
        ended := by rw [hdown]; rintro ⟨⟩ }
  case isFalse =>
    -- the caps of the pad, or those that the element is given, are those of a frame
    obtain ⟨caps, htook, hcaps⟩ : ∃ caps, b.Took setup caps ∧
        b.padCaps.or b.pump.caps = some caps := by
      cases hpad : b.padCaps with
      | some caps => exact ⟨caps, h.padCaps caps hpad, rfl⟩
      | none =>
          obtain ⟨caps, hpumpCaps⟩ :=
            Option.isSome_iff_exists.1 (h.requested (by omega))
          exact ⟨caps, h.pumpCaps caps hpumpCaps, by rw [hpumpCaps]; rfl⟩
    have hsound (adv : StreamAdvertiser) (htoken : adv.handles = [])
        (hsession : adv.session = none) : SoundAdvertiser adv b.log := by
      rw [hlog]
      exact ⟨alwaysGuarded_nil _, by simp, by simp, fun _ => htoken, by simp [htoken]⟩
    obtain ⟨adv, sessions, log, hsame, hholds, htoken, -⟩ := tryAdvertise_spec
      (b := { b with
        entered := b.entered + 1, advertised := true
        advertiser := some (.init setup.streamKey
          (streamDescriptor setup.environ setup.maxSize (b.padCaps.or b.pump.caps))) })
      ⟨hsound _ rfl rfl, rfl, caps, htook, by rw [hcaps]; rfl⟩ a
    rw [hsame] at hholds ⊢
    split
    case isTrue hok =>
      exact
        { h with
          entered := hrequested
          unentered := by rintro ⟨⟩
          advertiser := hholds
          retried := fun _ _ _ _ => .inl (htoken hok)
          ended := by rw [hdown]; rintro ⟨⟩ }
    case isFalse =>
      exact
        { h with
          entered := hrequested
          unentered := by rintro ⟨⟩
          advertiser := hholds.mono rfl rfl fun _ hmem => hmem
          retried := fun _ _ _ _ => .inr rfl
          ended := by rw [hdown]; rintro ⟨⟩ }

/-- So does one that the timer makes. -/
theorem inv_retryAdvertise (h : Inv setup b) (hdown : b.down = false) (a : Attempt) :
    Inv setup (b.retryAdvertise a) := by
  unfold retryAdvertise
  split
  case isTrue hstopping =>
    exact
      { h with
        retried := by
          intro _ _ hrunning
          cases hstopping.symm.trans hrunning }
  case isFalse =>
    obtain ⟨adv, sessions, log, hsame, hholds, htoken, hnone⟩ :=
      tryAdvertise_spec h.advertiser a
    dsimp only
    rw [hsame] at hholds ⊢
    exact
      { h with
        unentered := fun hfirst => hnone (h.unentered hfirst)
        advertiser := hholds.mono rfl rfl fun _ hmem => hmem
        retried := by
          intro _ _ _ _
          cases hok : (b.tryAdvertise a).2 with
          | true => exact .inl (htoken hok)
          | false => exact .inr rfl
        ended := by rw [hdown]; rintro ⟨⟩ }

/-- So does the teardown. -/
theorem inv_teardown (h : Inv setup b) (t : StreamTeardown) : Inv setup (b.teardown t) := by
  have hholds := h.advertiser
  unfold AdvertiserHolds at hholds
  unfold teardown
  split
  case h_1 hnone =>
    rw [hnone] at hholds
    exact
      { h with
        advertiser := h.advertiser.mono rfl rfl fun _ hmem => hmem
        retried := by rintro _ _ _ ⟨⟩
        ended := fun _ => ⟨by simp [hholds], by simp [hnone]⟩ }
  case h_2 adv hadv =>
    rw [hadv] at hholds
    obtain ⟨hsound, hkey, hframe⟩ := hholds
    obtain ⟨hclosed, hleft⟩ := StreamAdvertiser.sound_safeClose hsound t
    exact
      { h with
        unentered := fun hfirst => by
          rw [h.unentered hfirst] at hadv
          cases hadv
        advertiser := ⟨hclosed, hkey, hframe⟩
        retried := by rintro _ _ _ ⟨⟩
        ended := fun _ => ⟨hleft, by rintro adv' ⟨⟩; rfl⟩ }

/-- Every event of the bridge keeps the invariant. -/
theorem inv_next {b' : PreviewBridge} {e : BridgeEvent} (h : Inv setup b)
    (hnext : next setup b e = some b') : Inv setup b' := by
  unfold next at hnext
  split at hnext
  case isTrue => cases hnext
  case isFalse hup =>
    have hdown : b.down = false := Bool.eq_false_iff.2 hup
    cases e with
    | sample sample =>
        dsimp only at hnext
        split at hnext
        case isTrue hfree =>
          obtain rfl := Option.some.inj hnext
          exact inv_sample h hfree sample
        case isFalse => cases hnext
    | push =>
        obtain ⟨f, hf, rfl⟩ := Option.map_eq_some_iff.1 hnext
        exact inv_push h hf
    | negotiated =>
        obtain rfl := Option.some.inj hnext
        exact { h with padCaps := h.pumpCaps }
    | advertise a =>
        dsimp only at hnext
        split at hnext
        case isTrue hrequested =>
          obtain rfl := Option.some.inj hnext
          exact inv_advertise h hdown hrequested a
        case isFalse => cases hnext
    | tick a =>
        dsimp only at hnext
        split at hnext
        case isTrue =>
          obtain rfl := Option.some.inj hnext
          exact inv_retryAdvertise h hdown a
        case isFalse => cases hnext
    | signal =>
        obtain rfl := Option.some.inj hnext
        exact { h with retried := by rintro _ _ ⟨⟩ }
    | teardown t =>
        obtain rfl := Option.some.inj hnext
        exact inv_teardown h t

/-- What the invariant says to one who looks at the network. -/
theorem discovered_of_inv (h : Inv setup b) : Discovered setup b := by
  obtain ⟨events, hpump⟩ := h.pump
  have hholds := h.advertiser
  unfold AdvertiserHolds at hholds
  have honce : b.entered ≤ 1 := h.entered.trans hpump.requests
  split at hholds
  case h_1 hnone =>
    exact
      { guarded := by rw [hholds]; exact alwaysGuarded_nil _
        single := by simp [hholds]
        truthful := by simp [hnone]
        started := fun hlog => absurd hholds hlog
        once := honce
        retried := by
          intro hon hentered hrunning hup
          rcases h.retried hon hentered hrunning hup with ⟨adv, hadv, -⟩ | hretrying
          · rw [hnone] at hadv
            cases hadv
          · exact .inr hretrying
        ended := by simp [hholds] }
  case h_2 adv hadv =>
    obtain ⟨hsound, hkey, caps, htook, hdescriptor⟩ := hholds
    constructor
    case guarded => exact hsound.guarded
    case single =>
      intro d hd d' hd' hclosed hclosed'
      have hcurrent := (hsound.clean d hd).resolve_right hclosed
      rw [(hsound.clean d' hd').resolve_right hclosed', Option.some.injEq] at hcurrent
      exact hcurrent.symm
    case truthful =>
      intro adv' hadv'
      obtain rfl := Option.some.inj (hadv.symm.trans hadv')
      exact ⟨hkey, caps, htook, hdescriptor⟩
    case started =>
      rintro -
      rcases htook with ⟨f, hf, -⟩ | ⟨f, hf, -⟩
      · exact .inl (List.ne_nil_of_mem hf)
      · exact .inr (by rw [Option.mem_def.1 hf]; exact Option.some_ne_none f)
    case once => exact honce
    case retried =>
      intro hon hentered hrunning hup
      refine (h.retried hon hentered hrunning hup).imp ?_ id
      rintro ⟨adv', hadv', hactive⟩
      obtain rfl := Option.some.inj (hadv.symm.trans hadv')
      obtain ⟨s, hs⟩ := Option.isSome_iff_exists.1 hactive
      exact ⟨s, hsound.held _ (by simp [StreamAdvertiser.handles, hs])⟩
    case ended =>
      intro hdown d hd
      obtain ⟨hleft, hsession⟩ := h.ended hdown
      refine ⟨hleft d hd, (hsound.clean d hd).resolve_left ?_⟩
      rw [hsession adv hadv]
      exact nofun

/-- **Discovery**: whatever fails of Zenoh, and whenever the frames, the main loop and the
signals come. -/
theorem discovered_run {events : List BridgeEvent}
    (hrun : Machine.exec (next setup) init events = some b) : Discovered setup b := by
  have h : Inv setup b := Machine.exec_inv (fun _ _ _ h hnext => inv_next h hnext)
    (inv_init setup) hrun
  exact discovered_of_inv h

/-- A bridge with nothing in its environment. -/
def bareSetup : BridgeSetup :=
  { environ := { get := fun _ => none, hostname := "cam-host" }, debayer := true, maxSize := none }

/-- One frame; the token is refused at first, before the frame is pushed, and declared by the
retry. -/
def refusedOnce : List BridgeEvent :=
  let kind : StreamTeardown := { refuses := fun _ => false, closeFails := false }
  let attempt (declares : Bool) : Attempt :=
    { imports := true, opens := true, queries := true, declares, teardown := kind }
  [.sample { data := some ((wireHeader 1000 7 1 1 1 "system").encode ++ [200]), now := 5 },
    .advertise (attempt false), .push, .tick (attempt true)]

theorem discovered_refusedOnce :
    ∃ b, Machine.exec (next bareSetup) init refusedOnce = some b ∧ Discovered bareSetup b ∧
      b.log = [.declared 0 .queryable, .withdrawn 0 .queryable, .closed 0,
        .declared 1 .queryable, .declared 1 .token] := by
  have hrun : (Machine.exec (next bareSetup) init refusedOnce).map PreviewBridge.log =
      some [.declared 0 .queryable, .withdrawn 0 .queryable, .closed 0,
        .declared 1 .queryable, .declared 1 .token] := by
    decide +kernel
  obtain ⟨b, hb, hlog⟩ := Option.map_eq_some_iff.1 hrun
  exact ⟨b, hb, discovered_run hb, hlog⟩

end PreviewBridge

end CamDriver
