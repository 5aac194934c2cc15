import CamDriver.Lib.Machine
import CamDriver.Text

/-!
# CamDriver.Lifecycle

The service-level state machine: `Lifecycle`, which decides about requests and remembers
the state, over `CapturePipeline.activate` and `deactivate`, which open and finalize
sessions, and over everything else that ends one.

An event is what the main loop handles in one go.  Whether a step of opening a session
fails, and whether closing one raises, comes with the event.  A session is known by its
number, which no two sessions share.
-/

namespace CamDriver

/-! ## States and transitions -/

/-- The states; the service rests in `inactive` and in `active`. -/
inductive LifecycleState where
  | inactive | activating | active | deactivating
deriving DecidableEq, Repr

def LifecycleState.name : LifecycleState → String
  | .inactive => "inactive"
  | .activating => "activating"
  | .active => "active"
  | .deactivating => "deactivating"

inductive Transition where
  | activate | deactivate
deriving DecidableEq, Repr

namespace Transition

def name : Transition → String
  | .activate => "activate"
  | .deactivate => "deactivate"

/-- `TRANSITIONS`: from. -/
def source : Transition → LifecycleState
  | .activate => .inactive
  | .deactivate => .active

/-- `TRANSITIONS`: to. -/
def target : Transition → LifecycleState
  | .activate => .active
  | .deactivate => .inactive

end Transition

/-- `transitions_from`. -/
def transitionsFrom (state : LifecycleState) : List Transition :=
  [.activate, .deactivate].filter fun t => t.source = state

/-- What a request names; an unknown one with its `repr`. -/
inductive Requested where
  | known (transition : Transition)
  | unknown (repr : String)
deriving DecidableEq, Repr

/-! ## What the outside answers -/

/-- A step of `activate` before `sess.start`. -/
inductive OpenStage where
  | copyConfig | runPrefix | describe | makeSession | writeSnapshot
deriving DecidableEq, Repr

/-- A step of opening a session that fails, with the text of the exception. -/
inductive OpenFailure where
  | raised (stage : OpenStage) (error : String)
  | encoderChanged
  | sidecar (error : String)
  | launch (error : String)
  | noAppsrc
  | notPlaying
deriving DecidableEq, Repr

/-- How opening goes; `error`: what an opened session already reports. -/
structure Opening where
  failure : Option OpenFailure
  error : Option String
deriving DecidableEq, Repr

/-- Where closing a session raises; `finish_close` may have torn the pipeline down before. -/
inductive ClosePoint where
  | beginClose
  | finishClose (tornDown : Bool)
deriving DecidableEq, Repr

/-- How closing goes. -/
structure Closing where
  raises : Option (ClosePoint × String)
  error : Option String
  truncated : Bool
deriving DecidableEq, Repr

/-- `params["expected_recording_settings"]`; `none`: missing, or of another type. -/
structure ExpectedSettings where
  isDict : Bool
  generation : Option String
  revision : Option Int
deriving DecidableEq, Repr

/-- What `configure_recording` comes to once it is not locked. -/
inductive Configured where
  | raised (error : String)
  | noop
  | changed
deriving DecidableEq, Repr

/-- What a playback source says. -/
structure SourceState where
  finished : Bool
  finishedError : Bool
deriving DecidableEq, Repr

/-! ## The service -/

/-- How the service is deployed; `resume` needs a state file. -/
structure ServiceSetup where
  recordingEnabled : Bool
  initialState : LifecycleState
  resume : Bool
  generation : String
  sessionErrorFatal : Bool
  /-- a playback source -/
  finite : Bool
  holdOnFinish : Bool
deriving DecidableEq, Repr

/-- A session that `start` has opened, with the settings it was opened with. -/
structure OpenedSession where
  index : Nat
  generation : String
  revision : Nat
deriving DecidableEq, Repr

/-- What a session says of itself. -/
structure SessionInfo where
  index : Nat
  error : Option String
  truncated : Bool
deriving DecidableEq, Repr

/-- What a transition of the pipeline returns. -/
structure TransitionResult where
  ok : Bool
  error : Option String
  session : Option SessionInfo
deriving DecidableEq, Repr

/-- How the boot state was chosen. -/
inductive BootReason where
  | derived | resumed | config
deriving DecidableEq, Repr

/-- `Lifecycle` and the pipeline below it; `opened` and `finished` are the sessions that
`start` opened and `finish_close` finished, `sidecars` and `pipelines` what runs for them. -/
structure Service where
  lifecycle : LifecycleState
  session : Option OpenedSession
  sessionSeq : Nat
  opened : List OpenedSession
  finished : List OpenedSession
  sidecars : Nat
  pipelines : Nat
  progressTimer : Bool
  revision : Nat
  stopping : Bool
  held : Bool
  watching : Bool
  fatal : Bool
  quit : Bool
  down : Bool
  bootReason : Option BootReason
  lastError : Option String
  stateFile : Option String
deriving DecidableEq, Repr

/-- The published state of a service, as far as only transitions and changes of the settings
change it: `health`, the counters of the session, its encoder and length of a segment, the
settings themselves and `since_unix_s` are left out. -/
structure Descriptor where
  state : LifecycleState
  transitions : List Transition
  bootReason : Option BootReason
  recordingEnabled : Bool
  lastError : Option String
  generation : String
  revision : Nat
  recording : Option Nat
deriving DecidableEq, Repr

/-- The answer to a request. -/
structure LifecycleReply where
  ok : Bool
  state : LifecycleState
  error : Option String
  noop : Bool
  session : Option SessionInfo
  descriptor : Descriptor
deriving DecidableEq, Repr

/-- `a or b` for texts: an empty one is no text. -/
def textOr (a b : Option String) : Option String :=
  match a with
  | some "" | none => b
  | some text => some text

namespace Service

/-- A built service; the file is what an earlier process left. -/
def start (stateFile : Option String) : Service :=
  { lifecycle := .inactive, session := none, sessionSeq := 0, opened := [], finished := [],
    sidecars := 0, pipelines := 0, progressTimer := false, revision := 0, stopping := false,
    held := false, watching := true, fatal := false, quit := false, down := false,
    bootReason := none, lastError := none, stateFile := stateFile }

/-! ## The mechanism: `CapturePipeline` -/

/-- `RecordingSession.start`: a failure leaves nothing running. -/
def startSession (s : Service) : Option OpenFailure → Service × Except String Unit
  | some (.raised _ error) => (s, .error error)
  | some .encoderChanged =>
    (s, .error "resolved encoder changed; review recording settings again")
  | some (.sidecar error) => (s, .error error)
  | failure =>
    let s := { s with sidecars := s.sidecars + 1 }
    match failure with
    | some (.launch error) => ({ s with sidecars := s.sidecars - 1 }, .error error)
    | failure =>
      let s := { s with pipelines := s.pipelines + 1 }
      let torn := { s with sidecars := s.sidecars - 1, pipelines := s.pipelines - 1 }
      match failure with
      | some .noAppsrc => (torn, .error "appsrc 'recsrc' not found in the session pipeline")
      | some .notPlaying => (torn, .error "session pipeline refused to go PLAYING")
      | _ => (s, .ok ())

/-- `activate`. -/
def activate (setup : ServiceSetup) (s : Service) (o : Opening) : Service × TransitionResult :=
  if ¬ setup.recordingEnabled then (s, ⟨false, some "recording disabled by config", none⟩)
  else if s.stopping then (s, ⟨false, some "stopping", none⟩)
  else if s.session.isSome then (s, ⟨false, some "already recording", none⟩)
  else
    let s := { s with lifecycle := .activating, sessionSeq := s.sessionSeq + 1 }
    match s.startSession o.failure with
    | (s, .error error) =>
      ({ s with lifecycle := .inactive },
        ⟨false, some ("session start failed: " ++ error), none⟩)
    | (s, .ok ()) =>
      let sess : OpenedSession := ⟨s.sessionSeq, setup.generation, s.revision⟩
      ({ s with
          opened := s.opened ++ [sess], session := some sess, lifecycle := .active,
          progressTimer := true },
        ⟨true, none, some ⟨sess.index, o.error, false⟩⟩)

/-- `_teardown_pipeline`, and the sidecar's `stop`. -/
def tearDown (s : Service) : Service :=
  { s with sidecars := s.sidecars - 1, pipelines := s.pipelines - 1 }

/-- `_close_session_sync`. -/
def closeSession (s : Service) (sess : OpenedSession) (c : Closing) :
    Service × Except String TransitionResult :=
  match c.raises with
  | some (.beginClose, error) => (s, .error error)
  | some (.finishClose tornDown, error) => (if tornDown then s.tearDown else s, .error error)
  | none =>
    ({ s.tearDown with finished := s.finished ++ [sess] },
      .ok ⟨true, textOr c.error none, some ⟨sess.index, c.error, c.truncated⟩⟩)

/-- **Frame**: closing a session, whether it raises or not, touches what is torn down and
what is finished, and nothing else. -/
theorem closeSession_frame (s : Service) (sess : OpenedSession) (c : Closing) :
    ∃ finished sidecars pipelines,
      (s.closeSession sess c).1 = { s with finished, sidecars, pipelines } := by
  unfold closeSession
  split
  · exact ⟨_, _, _, rfl⟩
  · split <;> exact ⟨_, _, _, rfl⟩
  · exact ⟨_, _, _, rfl⟩

/-- `deactivate`: the state moves before the part that can raise. -/
def deactivate (s : Service) (c : Closing) : Service × Except String TransitionResult :=
  match s.session with
  | none => (s, .ok ⟨false, some "not recording", none⟩)
  | some sess =>
    let s := { s with lifecycle := .deactivating, session := none, progressTimer := false }
    match s.closeSession sess c with
    | (s, .error error) => (s, .error error)
    | (s, .ok r) => ({ s with lifecycle := .inactive }, .ok r)

/-- **Frame**: without a session nothing changes, and with one it is given up, whether the
rest raises or not. -/
theorem deactivate_frame (s : Service) (c : Closing) :
    (s.session = none ∧ (s.deactivate c).1 = s) ∨
      ∃ lifecycle finished sidecars pipelines, lifecycle ≠ .active ∧
        (s.deactivate c).1 = { s with
          lifecycle, session := none, progressTimer := false, finished, sidecars, pipelines } := by
  unfold deactivate
  split
  · next hnone => exact .inl ⟨hnone, rfl⟩
  · next sess _ =>
      right
      obtain ⟨finished, sidecars, pipelines, hframe⟩ := closeSession_frame
        { s with lifecycle := .deactivating, session := none, progressTimer := false } sess c
      dsimp only
      split
      · next heq =>
          rw [heq] at hframe
          exact ⟨.deactivating, finished, sidecars, pipelines, by decide, hframe⟩
      · next heq =>
          rw [heq] at hframe
          refine ⟨.inactive, finished, sidecars, pipelines, by decide, ?_⟩
          dsimp only at hframe ⊢
          rw [hframe]

/-- `request_stop`; its second `begin_close` returns at once. -/
def requestStop (s : Service) (c : Closing) : Service :=
  if s.stopping then s
  else
    let s := { s with stopping := true }
    match s.session with
    | none => s
    | some sess =>
      match { s with session := none, lifecycle := .deactivating }.closeSession sess c with
      | (s, .error _) => s
      | (s, .ok _) => { s with lifecycle := .inactive }

/-- **Frame**: the first stop gives up the session. -/
theorem requestStop_frame (s : Service) (c : Closing) :
    (s.stopping = true ∧ s.requestStop c = s) ∨
      ∃ lifecycle finished sidecars pipelines,
        (s.session = none ∧ lifecycle = s.lifecycle ∨ lifecycle ≠ .active) ∧
        s.requestStop c = { s with
          stopping := true, lifecycle, session := none, finished, sidecars, pipelines } := by
  unfold requestStop
  split
  · next hstopping => exact .inl ⟨hstopping, rfl⟩
  · right
    dsimp only
    split
    · next hnone =>
        refine ⟨s.lifecycle, s.finished, s.sidecars, s.pipelines, .inl ⟨hnone, rfl⟩, ?_⟩
        rw [← hnone]
    · next sess _ =>
        obtain ⟨finished, sidecars, pipelines, hframe⟩ := closeSession_frame
          { s with stopping := true, session := none, lifecycle := .deactivating } sess c
        split
        · next heq =>
            rw [heq] at hframe
            exact ⟨.deactivating, finished, sidecars, pipelines, .inr (by decide), hframe⟩
        · next heq =>
            rw [heq] at hframe
            refine ⟨.inactive, finished, sidecars, pipelines, .inr (by decide), ?_⟩
            dsimp only at hframe ⊢
            rw [hframe]

/-- `shutdown`, after which the main loop handles nothing more. -/
def shutdown (s : Service) (c : Closing) : Service :=
  let s := { s with stopping := true, down := true }
  match s.session with
  | none => s
  | some sess =>
    match { s with session := none }.closeSession sess c with
    | (s, .error _) => s
    | (s, .ok _) => { s with lifecycle := .inactive }

/-- **Frame**: after it there is no session. -/
theorem shutdown_frame (s : Service) (c : Closing) :
    ∃ lifecycle finished sidecars pipelines, s.shutdown c = { s with
      stopping := true, down := true, session := none, lifecycle, finished, sidecars,
      pipelines } := by
  unfold shutdown
  dsimp only
  split
  · next hnone =>
      refine ⟨s.lifecycle, s.finished, s.sidecars, s.pipelines, ?_⟩
      rw [← hnone]
  · next sess _ =>
      obtain ⟨finished, sidecars, pipelines, hframe⟩ := closeSession_frame
        { s with stopping := true, down := true, session := none } sess c
      split
      · next heq =>
          rw [heq] at hframe
          exact ⟨_, finished, sidecars, pipelines, hframe⟩
      · next heq =>
          rw [heq] at hframe
          refine ⟨.inactive, finished, sidecars, pipelines, ?_⟩
          dsimp only at hframe ⊢
          rw [hframe]

/-- `check_recording_settings`; the settings are there wherever recording is enabled. -/
def checkRecordingSettings (setup : ServiceSetup) (s : Service) (expected : ExpectedSettings) :
    Except String Unit :=
  if expected.isDict ∧ expected.generation = some setup.generation ∧
      expected.revision = some (s.revision : Int) then .ok ()
  else .error "recording settings changed; refresh and review before retrying"

/-! ## The policy: `Lifecycle` -/

/-- `descriptor`. -/
def descriptor (setup : ServiceSetup) (s : Service) : Descriptor :=
  { state := s.lifecycle, transitions := transitionsFrom s.lifecycle, bootReason := s.bootReason,
    recordingEnabled := setup.recordingEnabled, lastError := s.lastError,
    generation := setup.generation, revision := s.revision,
    recording := s.session.map OpenedSession.index }

/-- `_result`. -/
def result (setup : ServiceSetup) (s : Service) (ok : Bool) (error : Option String)
    (noop : Bool) : LifecycleReply :=
  { ok, state := s.lifecycle, error := textOr error none, noop, session := none,
    descriptor := s.descriptor setup }

/-- `remember`. -/
def remember (setup : ServiceSetup) (s : Service) (state : LifecycleState) : Service :=
  if setup.resume then { s with stateFile := some (state.name ++ "\n") } else s

/-- `forget`. -/
def forget (setup : ServiceSetup) (s : Service) : Service :=
  if setup.resume then { s with stateFile := none } else s

/-- `recall`. -/
def recalled (setup : ServiceSetup) (s : Service) : Option LifecycleState :=
  if setup.resume then
    s.stateFile.bind fun text =>
      if stripLower text = "active".toList then some .active
      else if stripLower text = "inactive".toList then some .inactive
      else none
  else none

/-- A file that has been forgotten, or that the service does not look at. -/
theorem recalled_of_forgotten {setup : ServiceSetup} {s : Service}
    (h : setup.resume = true → s.stateFile = none) : s.recalled setup = none := by
  unfold recalled
  split
  · next hresume => rw [h hresume]; rfl
  · rfl

/-- The end of `request`, with what the pipeline returned. -/
def conclude (setup : ServiceSetup) (t : Transition) (s : Service) (r : TransitionResult) :
    Service × LifecycleReply :=
  let error := textOr r.error (r.session.bind SessionInfo.error)
  let s :=
    if r.ok then { s with lastError := error }.remember setup s.lifecycle
    else { s with lastError := textOr error (some (t.name ++ " failed")) }
  (s, { s.result setup r.ok error false with session := r.session })

/-- `request`. -/
def request (setup : ServiceSetup) (s : Service) (requested : Requested)
    (expected : Option ExpectedSettings) (o : Opening) (c : Closing) : Service × LifecycleReply :=
  match requested with
  | .unknown repr => (s, s.result setup false (some ("unknown transition " ++ repr)) false)
  | .known t =>
    if s.lifecycle = t.target then (s, s.result setup true none true)
    else if s.lifecycle ≠ t.source then
      (s, s.result setup false (some ("cannot " ++ t.name ++ " from " ++ s.lifecycle.name)) false)
    else
      match t with
      | .activate =>
        if ¬ setup.recordingEnabled then
          (s, s.result setup false (some "recording disabled by config") false)
        else
          match expected.elim (.ok ()) (s.checkRecordingSettings setup) with
          | .error error => (s, s.result setup false (some error) false)
          | .ok () =>
            let r := s.activate setup o
            r.1.conclude setup t r.2
      | .deactivate =>
        match s.deactivate c with
        | (s, .error error) =>
          s.conclude setup t ⟨false, some ("deactivate failed: " ++ error), none⟩
        | (s, .ok r) => s.conclude setup t r

/-- `configure_recording`, of the service and of the pipeline. -/
def configureRecording (setup : ServiceSetup) (s : Service) (answer : Configured) :
    Service × LifecycleReply :=
  if s.lifecycle ≠ .inactive ∨ ¬ setup.recordingEnabled ∨ s.stopping ∨ s.session.isSome then
    (s, s.result setup false
      (some "recording settings are locked; stop recording before changing them") false)
  else
    match answer with
    | .raised error => (s, s.result setup false (some error) false)
    | .noop =>
      let s := { s with lastError := none }
      (s, s.result setup true none true)
    | .changed =>
      let s := { s with lastError := none, revision := s.revision + 1 }
      (s, s.result setup true none false)

/-- `_on_uncommanded_end`. -/
def onUncommandedEnd (setup : ServiceSetup) (s : Service) (r : TransitionResult) : Service :=
  let error := textOr r.error (textOr (r.session.bind SessionInfo.error)
    (some "recording session ended on an error"))
  { s with lastError := error }.remember setup .inactive

/-- `_on_session_error`; an exception of `deactivate` ends it. -/
def onSessionError (setup : ServiceSetup) (s : Service) (index : Nat) (c : Closing) : Service :=
  if s.session.map OpenedSession.index ≠ some index ∨ s.stopping then s
  else
    match s.deactivate c with
    | (s, .error _) => s
    | (s, .ok r) =>
      let s := s.onUncommandedEnd setup r
      if setup.sessionErrorFatal then { s with fatal := true, quit := true } else s

/-- `_progress_tick`: without a session the timer goes. -/
def onProgressTick (s : Service) : Service :=
  if s.session.isNone then { s with progressTimer := false } else s

/-- `_watchdog`, as far as a playback's end goes; an exception takes the timer with it. -/
def onWatchdog (setup : ServiceSetup) (s : Service) (source : SourceState) (c : Closing) :
    Service :=
  if ¬ s.watching then s
  else if s.stopping then { s with watching := false }
  else if setup.finite ∧ source.finished then
    if source.finishedError then { s with fatal := true, watching := false }.requestStop c
    else if ¬ setup.holdOnFinish then { s with watching := false }.requestStop c
    else if s.held then s
    else
      let s := { s with held := true }
      if s.session.isNone then s
      else
        match s.deactivate c with
        | (s, .error _) => { s with watching := false }
        | (s, .ok _) => s.remember setup .inactive
  else { s with held := false }

/-- `resolve_boot_state`. -/
def resolveBootState (setup : ServiceSetup) (s : Service) : LifecycleState × BootReason :=
  if ¬ setup.recordingEnabled then (.inactive, .derived)
  else
    match s.recalled setup with
    | some state => (state, .resumed)
    | none => (if setup.initialState = .inactive then .inactive else .active, .config)

/-- `boot`; where it fails, `run` shuts down. -/
def boot (setup : ServiceSetup) (s : Service) (o : Opening) (c : Closing) : Service :=
  let target := s.resolveBootState setup
  let s := { s with bootReason := some target.2 }
  if target.1 = .active then
    let r := s.request setup (.known .activate) none o c
    if r.2.ok then r.1 else { r.1 with fatal := true }.shutdown c
  else s

end Service

/-- What the main loop handles. -/
inductive ServiceEvent where
  | boot (o : Opening) (c : Closing)
  | request (requested : Requested) (expected : Option ExpectedSettings) (o : Opening) (c : Closing)
  | configureRecording (answer : Configured)
  /-- an idle callback of a session, stale or not -/
  | sessionError (index : Nat) (c : Closing)
  | fragment (index : Nat)
  | progressTick
  | watchdog (source : SourceState) (c : Closing)
  | requestStop (c : Closing)
  /-- the handler of SIGINT and SIGTERM -/
  | signalStop (c : Closing)
  | shutdown (c : Closing)
deriving DecidableEq, Repr

namespace Service

/-- One event, with the reply to a request. -/
def handle (setup : ServiceSetup) (s : Service) : ServiceEvent → Service × Option LifecycleReply
  | .boot o c => (if s.bootReason.isSome then s else s.boot setup o c, none)
  | .request requested expected o c => (s.request setup requested expected o c).map id some
  | .configureRecording answer => (s.configureRecording setup answer).map id some
  | .sessionError index c => (s.onSessionError setup index c, none)
  | .fragment _ => (s, none)
  | .progressTick => (s.onProgressTick, none)
  | .watchdog source c => (s.onWatchdog setup source c, none)
  | .requestStop c => (s.requestStop c, none)
  | .signalStop c => ((s.forget setup).requestStop c, none)
  | .shutdown c => (s.shutdown c, none)

/-- The main loop, as long as it runs. -/
def step (setup : ServiceSetup) (s : Service) (event : ServiceEvent) :
    Service × Option LifecycleReply :=
  if s.down then (s, none) else s.handle setup event

end Service

end CamDriver
