import CamDriver.ExpectedSettings
import CamDriver.RecordingSettings

/-!
# CamDriver.SettingsRevision

The recording settings under `Lifecycle`: requests to change them, and to record with them,
from any number of clients, one after the other on the main loop.

The revision names the settings: `byRevision` says that two states of a run with one revision
have one config, plan and view, and `sessions` that a session's snapshot names those it is
recorded with.
-/

namespace CamDriver

/-- An event that is a change of settings. -/
def ServiceEvent.changes : ServiceEvent → Bool
  | .configureRecording _ => true
  | _ => false

/-! ## The service and its settings -/

/-- How a service is deployed, with the config it is built from. -/
structure RecordingSetup where
  py : Builtins
  camera : Camera
  service : ServiceSetup
  config : RecordingConfig
  enabled : service.recordingEnabled = config.enabled

/-- What `activate` writes beside a session. -/
structure SettingsSnapshot where
  sessionIndex : Nat
  generation : String
  revision : Nat
  requested : RecordingConfig
  resolved : Option ResolvedSettings
  source : Camera
deriving DecidableEq, Repr

/-- A session that was opened: its snapshot, and what it records with. -/
structure RecordedSession where
  snapshot : SettingsSnapshot
  config : RecordingConfig
  encoder : Encoder
  tileMode : TileMode
  tiler : Option CfaPattern
deriving DecidableEq, Repr

/-- A service with the settings of its pipeline. -/
structure RecordingService where
  service : Service
  settings : RecordingSettings
  recorded : List RecordedSession
deriving DecidableEq, Repr

/-- What the main loop handles, with what planning meets there. -/
inductive RecordingEvent where
  | configure (request : SettingsRequest) (env : PlanEnv)
  | serve (event : ServiceEvent) (env : PlanEnv) (other : event.changes = false)

namespace RecordingService

/-- `build`; it plans where recording is enabled. -/
def build (setup : RecordingSetup) (env : PlanEnv) (stateFile : Option String) :
    Except String RecordingService :=
  if setup.config.enabled then
    match env.recordingPlan setup.camera setup.config with
    | .error error => .error error
    | .ok plan =>
      .ok
        { service := Service.start stateFile
          settings :=
            installRecordingPlan setup.camera setup.service.generation 0 setup.config plan
          recorded := [] }
  else
    .ok
      { service := Service.start stateFile
        settings := { config := setup.config, plan := none, streamCopy := false, view := none }
        recorded := [] }

/-! ## Changing them -/

/-- The lock of `configure_recording`. -/
def locked (s : RecordingService) : Bool :=
  s.service.lifecycle ≠ .inactive || !s.settings.config.enabled || s.service.stopping ||
    s.service.session.isSome

/-- What `configure_recording` comes to; `none`: nothing changes. -/
def change (setup : RecordingSetup) (s : RecordingService) (env : PlanEnv)
    (request : SettingsRequest) : Except String (Option (RecordingConfig × RecordingPlan)) :=
  if s.locked then
    .error "recording settings are locked; stop recording before changing them"
  else s.settings.planned setup.py setup.camera env request

/-- `configure_recording`, of the service and of the pipeline. -/
def configureRecording (setup : RecordingSetup) (s : RecordingService) (env : PlanEnv)
    (request : SettingsRequest) : RecordingService × LifecycleReply :=
  match s.change setup env request with
  | .error error =>
    (s.service.configureRecording setup.service (.raised error)).map
      (fun service => { s with service }) id
  | .ok none =>
    (s.service.configureRecording setup.service .noop).map (fun service => { s with service }) id
  | .ok (some (cfg, plan)) =>
    (s.service.configureRecording setup.service .changed).map
      (fun service => { s with
        service
        settings := installRecordingPlan setup.camera setup.service.generation service.revision
          cfg plan }) id

/-! ## Recording with them -/

/-- The encoder `_recorder_desc` resolves to for a session. -/
def describe (setup : RecordingSetup) (s : RecordingService) (env : PlanEnv) :
    Except String Encoder :=
  match env.plan with
  | some error => .error error
  | none =>
    let pf := parsePixelFormat setup.camera.pixelFormat
    recorderEncoder env.host s.settings.config.toEncodingConfig pf.bits pf.isColor
      setup.camera.encoded

/-- How opening goes, with what `activate` finds out itself. -/
def opening (setup : RecordingSetup) (s : RecordingService) (env : PlanEnv) (o : Opening) :
    Opening :=
  match o.failure with
  | some (.raised .copyConfig _) | some (.raised .runPrefix _) => o
  | _ =>
    match s.describe setup env with
    | .error error => { o with failure := some (.raised .describe error) }
    | .ok enc =>
      if (s.settings.plan.map RecordingPlan.enc).any (· ≠ enc) then
        { o with failure := some .encoderChanged }
      else if o.failure = some .encoderChanged then { o with failure := none }
      else o

/-- The event with the opening it meets. -/
def prepared (setup : RecordingSetup) (s : RecordingService) (env : PlanEnv) :
    ServiceEvent → ServiceEvent
  | .boot o c => .boot (s.opening setup env o) c
  | .request requested expected o c => .request requested expected (s.opening setup env o) c
  | event => event

/-- What `activate` writes of a session, and hands to it. -/
def recordedSession (setup : RecordingSetup) (s : RecordingService) (enc : Encoder)
    (sess : OpenedSession) : RecordedSession :=
  { snapshot :=
      { sessionIndex := sess.index
        generation := setup.service.generation
        revision := s.service.revision
        requested := s.settings.config
        resolved := s.settings.view.map SettingsView.resolved
        source := setup.camera }
    config := s.settings.config
    encoder := enc
    tileMode := (s.settings.plan.map RecordingPlan.mode).getD .off
    tiler := s.settings.plan.bind RecordingPlan.tiler }

/-- The sessions that an event has opened. -/
def recordedBy (setup : RecordingSetup) (s : RecordingService) (env : PlanEnv)
    (service : Service) : List RecordedSession :=
  match s.describe setup env with
  | .error _ => []
  | .ok enc =>
    (service.opened.drop s.service.opened.length).map (s.recordedSession setup enc)

/-- The main loop, as long as it runs. -/
def step (setup : RecordingSetup) (s : RecordingService) :
    RecordingEvent → RecordingService × Option LifecycleReply
  | .configure request env =>
    if s.service.down then (s, none)
    else (s.configureRecording setup env request).map id some
  | .serve event env _ =>
    (s.service.step setup.service (s.prepared setup env event)).map
      (fun service => { s with service, recorded := s.recorded ++ s.recordedBy setup env service })
      id

/-! ## What is to hold -/

/-- The settings that a request has changed, if it has, by what it expected. -/
def committed : RecordingEvent × Option LifecycleReply → Option ExpectedSettings
  | (.configure (.change expected _) _, some reply) =>
    if reply.ok = true ∧ reply.noop = false then some expected else none
  | _ => none

/-- **Optimistic concurrency**, of one event in a state. -/
structure ChangesOnce (setup : RecordingSetup) (s : RecordingService) (event : RecordingEvent) :
    Prop where
  /-- what is refused changes nothing, and neither does what asks for no change -/
  unchanged : committed (event, (s.step setup event).2) = none →
    (s.step setup event).1.settings = s.settings ∧
      (s.step setup event).1.service.revision = s.service.revision
  idle : ∀ expected ∈ committed (event, (s.step setup event).2),
    s.service.lifecycle = .inactive ∧ s.service.session = none ∧
      (s.step setup event).1.service.session = none
  expected : ∀ expected ∈ committed (event, (s.step setup event).2),
    expected.generation = some setup.service.generation ∧
      expected.revision = some (s.service.revision : Int)
  next : ∀ expected ∈ committed (event, (s.step setup event).2),
    (s.step setup event).1.service.revision = s.service.revision + 1
  deployment : ∀ expected ∈ committed (event, (s.step setup event).2),
    (s.step setup event).1.settings.config.deployment = s.settings.config.deployment

/-- A session's snapshot names the settings of a state, and these are what it records with. -/
structure RecordsWith (setup : RecordingSetup) (s : RecordingService)
    (session : RecordedSession) : Prop where
  generation : session.snapshot.generation = setup.service.generation
  revision : session.snapshot.revision = s.service.revision
  requested : session.snapshot.requested = session.config
  resolved : session.snapshot.resolved = s.settings.view.map SettingsView.resolved
  config : session.config = s.settings.config
  plan : s.settings.plan = some ⟨session.encoder, session.tileMode, session.tiler⟩
  planned : ∃ env : PlanEnv, env.recordingPlan setup.camera session.config =
    .ok ⟨session.encoder, session.tileMode, session.tiler⟩

/-- What holds after every run. -/
structure SettingsHold (setup : RecordingSetup) (start : RecordingService)
    (events : List RecordingEvent) : Prop where
  changes : ∀ event, ChangesOnce setup (Machine.final (step setup) start events) event
  once : ((Machine.history (step setup) start events).filterMap committed).Pairwise
    fun a b => (a.generation, a.revision) ≠ (b.generation, b.revision)
  byRevision : ∀ earlier, earlier <+: events →
    (Machine.final (step setup) start earlier).service.revision =
        (Machine.final (step setup) start events).service.revision →
      (Machine.final (step setup) start earlier).settings =
        (Machine.final (step setup) start events).settings
  sessions : ∀ session ∈ (Machine.final (step setup) start events).recorded,
    ∃ earlier, earlier <+: events ∧
      RecordsWith setup (Machine.final (step setup) start earlier) session
  opened : (Machine.final (step setup) start events).recorded.map
      (fun session => (session.snapshot.sessionIndex, session.snapshot.generation,
        session.snapshot.revision)) =
    (Machine.final (step setup) start events).service.opened.map
      fun sess => (sess.index, sess.generation, sess.revision)

/-! ## A patch -/

/-- An editable field is no part of the deployment. -/
theorem deployment_set (cfg : RecordingConfig) (field : EditableField) (value : Value) :
    (field.set cfg value).deployment = cfg.deployment := by
  unfold EditableField.set
  split <;> rfl

theorem deployment_patched (cfg : RecordingConfig) (patch : List (String × Value)) :
    (patched cfg patch).deployment = cfg.deployment := by
  induction patch generalizing cfg with
  | nil => rfl
  | cons entry patch ih =>
      rw [patched, ih]
      cases EditableField.ofKey entry.1 with
      | none => rfl
      | some field => exact deployment_set cfg field entry.2

/-- So a patch that is accepted leaves the deployment. -/
theorem deployment_applyPatch {py : Builtins} {cfg cfg' : RecordingConfig}
    {patch : Option (List (String × Value))} (h : applyPatch py cfg patch = .ok cfg') :
    cfg'.deployment = cfg.deployment := by
  unfold applyPatch at h
  split at h
  · cases h
  · cases h
  · simp only at h
    split at h
    · cases h
    · split at h
      · cases h
      · cases h
        exact deployment_patched cfg _

/-- A change that is installed keeps the encoder that cannot be changed. -/
theorem compared_some {s : RecordingSettings} {env : PlanEnv} {cfg cfg' : RecordingConfig}
    {plan plan' : RecordingPlan} (h : s.compared env cfg plan = .ok (some (cfg', plan'))) :
    decide (plan.enc = .streamCopy) = s.streamCopy ∧ cfg = cfg' ∧ plan = plan' := by
  unfold RecordingSettings.compared at h
  split at h
  · cases h
  · next hcopy =>
      split at h
      · cases h
      · split at h
        · cases h
        · cases h
          exact ⟨by simpa using hcopy, rfl, rfl⟩

/-- What `planned` has looked at when something is to change. -/
theorem planned_cases {py : Builtins} {camera : Camera} {s : RecordingSettings} {env : PlanEnv}
    {request : SettingsRequest} {cfg : RecordingConfig} {plan : RecordingPlan}
    (h : s.planned py camera env request = .ok (some (cfg, plan))) :
    ∃ expected patch, request = .change expected patch ∧
      s.checkRecordingSettings expected = .ok () ∧ applyPatch py s.config patch = .ok cfg ∧
      env.recordingPlan camera cfg = .ok plan ∧ decide (plan.enc = .streamCopy) = s.streamCopy := by
  cases request with
  | malformed => cases h
  | change expected patch =>
      simp only [RecordingSettings.planned, bind, Except.bind] at h
      cases hcheck : s.checkRecordingSettings expected with
      | error error => simp [hcheck] at h
      | ok _ =>
          cases hpatch : applyPatch py s.config patch with
          | error error => simp [hcheck, hpatch] at h
          | ok cfg' =>
              cases hplan : env.recordingPlan camera cfg' with
              | error error => simp [hcheck, hpatch, hplan] at h
              | ok plan' =>
                  simp only [hcheck, hpatch, hplan] at h
                  obtain ⟨hcopy, rfl, rfl⟩ := compared_some h
                  exact ⟨expected, patch, rfl, hcheck, hpatch, hplan, hcopy⟩

/-! ## The installed settings -/

/-- The settings are what a plan of the config has installed, under the revision of now. -/
structure Installed (setup : RecordingSetup) (s : RecordingService) : Prop where
  settled : s.service.Settled setup.service
  enabled : s.settings.config.enabled = setup.config.enabled
  installed : setup.config.enabled = true → ∃ plan, s.settings =
    installRecordingPlan setup.camera setup.service.generation s.service.revision
      s.settings.config plan ∧
    ∃ env : PlanEnv, env.recordingPlan setup.camera s.settings.config = .ok plan

/-- The view's pair is the one the lifecycle compares with. -/
theorem Installed.expected {setup : RecordingSetup} {s : RecordingService}
    (h : Installed setup s) (henabled : setup.config.enabled = true)
    {expected : ExpectedSettings} (hcheck : s.settings.checkRecordingSettings expected = .ok ()) :
    expected.generation = some setup.service.generation ∧
      expected.revision = some (s.service.revision : Int) := by
  obtain ⟨plan, hinstalled, -⟩ := h.installed henabled
  rw [hinstalled] at hcheck
  simp only [RecordingSettings.checkRecordingSettings, installRecordingPlan] at hcheck
  split at hcheck
  · next hsame => exact hsame.2
  · cases hcheck

/-- A change that is refused, or asks for none. -/
theorem configureRecording_unchanged (setup : ServiceSetup) (s : Service) (answer : Configured)
    (h : answer ≠ .changed) :
    Service.Alike s (s.configureRecording setup answer).1 ∧
      ((s.configureRecording setup answer).2.ok = true →
        (s.configureRecording setup answer).2.noop = true) := by
  unfold Service.configureRecording
  split
  · exact ⟨.refl s, by simp [Service.result]⟩
  · cases answer with
    | raised error => exact ⟨.refl s, by simp [Service.result]⟩
    | noop => exact ⟨⟨rfl, rfl, rfl, rfl, rfl⟩, fun _ => rfl⟩
    | changed => exact absurd rfl h

/-- Settings are changed without a session, of a service that records and runs. -/
theorem unlocked_cases {s : RecordingService} (h : ¬ s.locked = true) :
    s.service.lifecycle = .inactive ∧ s.settings.config.enabled = true ∧
      s.service.stopping = false ∧ s.service.session = none := by
  simpa [locked, and_assoc] using h

/-- A change counts the revision up. -/
theorem configureRecording_changed {setup : ServiceSetup} {s : Service}
    (hidle : s.lifecycle = .inactive) (henabled : setup.recordingEnabled = true)
    (hrunning : s.stopping = false) (hclosed : s.session = none) :
    s.configureRecording setup .changed =
      ({ s with lastError := none, revision := s.revision + 1 },
        ({ s with lastError := none, revision := s.revision + 1 } : Service).result setup true
          none false) := by
  simp [Service.configureRecording, hidle, henabled, hrunning, hclosed]

/-- What a request to change settings comes to: nothing, or all of it. -/
theorem configureRecording_cases {setup : RecordingSetup} {s : RecordingService}
    (h : Installed setup s) (env : PlanEnv) (request : SettingsRequest) :
    ((s.configureRecording setup env request).1.settings = s.settings ∧
        (s.configureRecording setup env request).1.recorded = s.recorded ∧
        Service.Alike s.service (s.configureRecording setup env request).1.service ∧
        committed (.configure request env, some (s.configureRecording setup env request).2) =
          none) ∨
      ∃ expected patch cfg plan, request = .change expected patch ∧
        expected.generation = some setup.service.generation ∧
        expected.revision = some (s.service.revision : Int) ∧
        s.service.lifecycle = .inactive ∧ s.service.session = none ∧
        setup.config.enabled = true ∧ cfg.deployment = s.settings.config.deployment ∧
        env.recordingPlan setup.camera cfg = .ok plan ∧
        (s.configureRecording setup env request).1 =
          { s with
            service := { s.service with lastError := none, revision := s.service.revision + 1 }
            settings := installRecordingPlan setup.camera setup.service.generation
              (s.service.revision + 1) cfg plan } ∧
        committed (.configure request env, some (s.configureRecording setup env request).2) =
          some expected := by
  unfold configureRecording
  cases hchange : s.change setup env request with
  | error error =>
      obtain ⟨hsame, hreply⟩ := configureRecording_unchanged setup.service s.service
        (.raised error) (by simp)
      refine .inl ⟨rfl, rfl, hsame, ?_⟩
      cases request <;> simp_all [committed]
  | ok answer =>
      cases answer with
      | none =>
          obtain ⟨hsame, hreply⟩ := configureRecording_unchanged setup.service s.service
            .noop (by simp)
          refine .inl ⟨rfl, rfl, hsame, ?_⟩
          cases request <;> simp_all [committed]
      | some planned =>
          obtain ⟨cfg, plan⟩ := planned
          unfold change at hchange
          split at hchange
          · cases hchange
          · next hunlocked =>
              obtain ⟨expected, patch, rfl, hcheck, hpatch, hplan, -⟩ := planned_cases hchange
              obtain ⟨hidle, henabled, hrunning, hclosed⟩ := unlocked_cases hunlocked
              have henabled' : setup.config.enabled = true := h.enabled.symm.trans henabled
              have hservice := configureRecording_changed hidle (setup.enabled.trans henabled')
                hrunning hclosed
              obtain ⟨hgeneration, hrevision⟩ := h.expected henabled' hcheck
              refine .inr ⟨expected, patch, cfg, plan, rfl, hgeneration, hrevision, hidle, hclosed,
                henabled', deployment_applyPatch hpatch, hplan, ?_, ?_⟩
              · simp [hservice]
              · simp [committed, hservice, Service.result]

/-! ## What an event does -/

/-- A session that opens is described as it was planned. -/
theorem opening_ok {setup : RecordingSetup} {s : RecordingService} {env : PlanEnv} {o : Opening}
    (h : (s.opening setup env o).failure = none) :
    ∃ enc, s.describe setup env = .ok enc ∧ ∀ plan ∈ s.settings.plan, plan.enc = enc := by
  unfold opening at h
  split at h
  · next hfailure => simp [hfailure] at h
  · next hfailure => simp [hfailure] at h
  · split at h
    · cases h
    · next enc hdescribe =>
        refine ⟨enc, hdescribe, fun plan hplan => ?_⟩
        split at h
        · cases h
        · next hsame =>
            rw [Option.mem_def] at hplan
            simpa [hplan] using hsame

/-- An opening finds the settings that are in force. -/
theorem opening_prepared {setup : RecordingSetup} {s : RecordingService} {env : PlanEnv}
    {event : ServiceEvent} {o : Opening} (h : o ∈ (s.prepared setup env event).opening) :
    ∃ o', o = s.opening setup env o' := by
  cases event with
  | boot o' c => exact ⟨o', (Option.some.inj h).symm⟩
  | request requested expected o' c => exact ⟨o', (Option.some.inj h).symm⟩
  | _ => cases h

/-- Other events change no settings. -/
theorem changes_prepared (setup : RecordingSetup) (s : RecordingService) (env : PlanEnv)
    {event : ServiceEvent} (h : event.changes = false) (answer : Configured) :
    s.prepared setup env event ≠ .configureRecording answer := by
  cases event with
  | configureRecording answer' => cases h
  | _ => simp [prepared]

/-- What an event may do: nothing to the settings, or open a session with them, or change
them. -/
inductive Moves (setup : RecordingSetup) (s : RecordingService) (event : RecordingEvent) :
    Prop where
  | quiet (hsettings : (s.step setup event).1.settings = s.settings)
      (hrevision : (s.step setup event).1.service.revision = s.service.revision)
      (hcommitted : committed (event, (s.step setup event).2) = none)
      (hrecorded : (s.step setup event).1.recorded = s.recorded)
      (hopened : (s.step setup event).1.service.opened = s.service.opened)
  | opens (session : RecordedSession)
      (hsettings : (s.step setup event).1.settings = s.settings)
      (hrevision : (s.step setup event).1.service.revision = s.service.revision)
      (hcommitted : committed (event, (s.step setup event).2) = none)
      (hrecorded : (s.step setup event).1.recorded = s.recorded ++ [session])
      (hopened : (s.step setup event).1.service.opened = s.service.opened ++
        [⟨session.snapshot.sessionIndex, setup.service.generation, s.service.revision⟩])
      (hsession : RecordsWith setup s session)
  | commits (expected : ExpectedSettings) (cfg : RecordingConfig) (plan : RecordingPlan)
      (hgeneration : expected.generation = some setup.service.generation)
      (hexpected : expected.revision = some (s.service.revision : Int))
      (hidle : s.service.lifecycle = .inactive) (hclosed : s.service.session = none)
      (henabled : setup.config.enabled = true)
      (hdeployment : cfg.deployment = s.settings.config.deployment)
      (hplan : ∃ env : PlanEnv, env.recordingPlan setup.camera cfg = .ok plan)
      (hstep : (s.step setup event).1 = { s with
        service := { s.service with lastError := none, revision := s.service.revision + 1 }
        settings := installRecordingPlan setup.camera setup.service.generation
          (s.service.revision + 1) cfg plan })
      (hcommitted : committed (event, (s.step setup event).2) = some expected)

/-- No session is opened. -/
theorem recordedBy_same {setup : RecordingSetup} {s : RecordingService} {env : PlanEnv}
    {service : Service} (h : service.opened = s.service.opened) :
    s.recordedBy setup env service = [] := by
  unfold recordedBy
  split
  · rfl
  · simp [h]

/-- One is opened, with the settings in force. -/
theorem recordedBy_opened {setup : RecordingSetup} {s : RecordingService} {env : PlanEnv}
    {service : Service} {sess : OpenedSession} {enc : Encoder}
    (h : service.opened = s.service.opened ++ [sess]) (hdescribe : s.describe setup env = .ok enc) :
    s.recordedBy setup env service = [s.recordedSession setup enc sess] := by
  simp [recordedBy, hdescribe, h]

/-- What `activate` hands to a session is what it writes. -/
theorem Installed.recordsWith {setup : RecordingSetup} {s : RecordingService}
    (h : Installed setup s) (henabled : setup.config.enabled = true) {enc : Encoder}
    (henc : ∀ plan ∈ s.settings.plan, plan.enc = enc) (sess : OpenedSession) :
    RecordsWith setup s (s.recordedSession setup enc sess) := by
  obtain ⟨plan, hinstalled, hplanned⟩ := h.installed henabled
  have hplan : s.settings.plan = some plan := by rw [hinstalled]; rfl
  have hsame : plan = ⟨enc, (s.recordedSession setup enc sess).tileMode,
      (s.recordedSession setup enc sess).tiler⟩ := by
    simp [recordedSession, hplan, ← henc plan hplan]
  exact
    { generation := rfl
      revision := rfl
      requested := rfl
      resolved := rfl
      config := rfl
      plan := hplan.trans (congrArg some hsame)
      planned := hsame ▸ hplanned }

/-- What an event of the lifecycle moves. -/
theorem moves_serve {setup : RecordingSetup} {s : RecordingService} (h : Installed setup s)
    (event : ServiceEvent) (env : PlanEnv) (other : event.changes = false) :
    Moves setup s (.serve event env other) := by
  cases hdown : s.service.down with
  | true =>
      have hsame : (s.service.step setup.service (s.prepared setup env event)).1 = s.service := by
        rw [Service.step_of_down hdown]
      refine .quiet rfl ?_ rfl ?_ ?_
      · simp only [step, Prod.map, hsame]
      · simp only [step, Prod.map, hsame, recordedBy_same, List.append_nil]
      · simp only [step, Prod.map, hsame]
  | false =>
      have hturns := Service.turns_handle setup.service s.service
        (changes_prepared setup s env other)
      rw [← Service.step_of_up hdown] at hturns
      have hrevision := hturns.revision
      cases hturns with
      | kept hsame =>
          exact .quiet rfl hrevision rfl (by simp [step, recordedBy_same hsame.opened])
            hsame.opened
      | ended _ hopened _ _ =>
          exact .quiet rfl hrevision rfl (by simp [step, recordedBy_same hopened]) hopened
      | began index _ hopened _ _ henabled hopening =>
          obtain ⟨o, ho, hfailure⟩ := hopening
          obtain ⟨o', rfl⟩ := opening_prepared ho
          obtain ⟨enc, hdescribe, henc⟩ := opening_ok hfailure
          exact .opens
            (s.recordedSession setup enc ⟨index, setup.service.generation, s.service.revision⟩)
            rfl hrevision rfl (by simp [step, recordedBy_opened hopened hdescribe]) hopened
            (h.recordsWith (setup.enabled.symm.trans henabled) henc _)

/-- What a change of the settings moves. -/
theorem moves_configure {setup : RecordingSetup} {s : RecordingService} (h : Installed setup s)
    (request : SettingsRequest) (env : PlanEnv) : Moves setup s (.configure request env) := by
  cases hdown : s.service.down with
  | true =>
      have hstep : s.step setup (.configure request env) = (s, none) := by simp [step, hdown]
      refine .quiet ?_ ?_ ?_ ?_ ?_ <;> rw [hstep]
      cases request <;> rfl
  | false =>
      have hstep : s.step setup (.configure request env) =
          ((s.configureRecording setup env request).1,
            some (s.configureRecording setup env request).2) := by
        simp [step, hdown, Prod.map]
      rcases configureRecording_cases h env request with
        ⟨hsettings, hrecorded, hsame, hcommitted⟩ |
        ⟨expected, patch, cfg, plan, rfl, hgeneration, hexpected, hidle, hclosed, henabled,
          hdeployment, hplan, hservice, hcommitted⟩
      · refine .quiet ?_ ?_ ?_ ?_ ?_ <;> rw [hstep]
        · exact hsettings
        · exact hsame.revision
        · exact hcommitted
        · exact hrecorded
        · exact hsame.opened
      · exact .commits expected cfg plan hgeneration hexpected hidle hclosed henabled hdeployment
          ⟨env, hplan⟩ (by rw [hstep, hservice]) (by rw [hstep, hcommitted])

/-- What any event moves. -/
theorem moves_step {setup : RecordingSetup} {s : RecordingService} (h : Installed setup s)
    (event : RecordingEvent) : Moves setup s event := by
  cases event with
  | configure request env => exact moves_configure h request env
  | serve event env other => exact moves_serve h event env other

/-- The lifecycle stays settled. -/
theorem settled_serve {setup : RecordingSetup} {s : RecordingService}
    (h : s.service.Settled setup.service) (event : RecordingEvent) :
    (s.step setup event).1.service.Settled setup.service := by
  cases event with
  | configure request env =>
      simp only [step]
      split
      · exact h
      · next hup =>
          have hservice (answer : Configured) :
              (s.service.configureRecording setup.service answer).1.Settled setup.service := by
            have hstep := Service.settled_step h (.configureRecording answer)
            rw [Service.step_of_up (by simpa using hup)] at hstep
            exact hstep
          simp only [configureRecording]
          split
          · next error _ => exact hservice (.raised error)
          · exact hservice .noop
          · exact hservice .changed
  | serve event env other => exact Service.settled_step h _

/-- The plan stays that of the settings. -/
theorem installed_step {setup : RecordingSetup} {s : RecordingService} (h : Installed setup s)
    (event : RecordingEvent) : Installed setup (s.step setup event).1 := by
  have hsettled := settled_serve h.settled event
  cases moves_step h event with
  | quiet hsettings hrevision _ _ _ =>
      exact ⟨hsettled, by rw [hsettings]; exact h.enabled, by
        rw [hsettings, hrevision]; exact h.installed⟩
  | opens session hsettings hrevision _ _ _ _ =>
      exact ⟨hsettled, by rw [hsettings]; exact h.enabled, by
        rw [hsettings, hrevision]; exact h.installed⟩
  | commits expected cfg plan _ _ _ _ _ hdeployment hplan hstep _ =>
      refine ⟨hsettled, ?_, fun _ => ⟨plan, ?_, ?_⟩⟩
      · rw [hstep]
        exact (congrArg DeploymentConfig.enabled hdeployment).trans h.enabled
      · rw [hstep]
        rfl
      · rw [hstep]
        exact hplan

/-- A service that has been built has its plan. -/
theorem installed_build {setup : RecordingSetup} {env : PlanEnv} {stateFile : Option String}
    {s : RecordingService} (h : build setup env stateFile = .ok s) : Installed setup s := by
  unfold build at h
  split at h
  · next henabled =>
      split at h
      · cases h
      · next plan hplan =>
          cases h
          exact ⟨Service.settled_start _ _, rfl, fun _ => ⟨plan, rfl, env, hplan⟩⟩
  · next hdisabled =>
      cases h
      exact ⟨Service.settled_start _ _, rfl, fun henabled => absurd henabled hdisabled⟩

/-- It has recorded nothing. -/
theorem recorded_build {setup : RecordingSetup} {env : PlanEnv} {stateFile : Option String}
    {s : RecordingService} (h : build setup env stateFile = .ok s) :
    s.recorded = [] ∧ s.service.opened = [] := by
  unfold build at h
  split at h
  · split at h
    · cases h
    · cases h
      exact ⟨rfl, rfl⟩
  · cases h
    exact ⟨rfl, rfl⟩

/-- In every state of every run the plan is that of the settings. -/
theorem installed_run {setup : RecordingSetup} {start : RecordingService}
    (h : Installed setup start) (events : List RecordingEvent) :
    Installed setup (Machine.final (step setup) start events) := by
  induction events using List.reverseRecOn with
  | nil => exact h
  | append_singleton events event ih =>
      rw [Machine.final_append]
      exact installed_step ih event

/-! ## Every run -/

/-- One event changes settings and revision together, or neither. -/
theorem changesOnce_step {setup : RecordingSetup} {s : RecordingService} (h : Installed setup s)
    (event : RecordingEvent) : ChangesOnce setup s event := by
  cases moves_step h event with
  | quiet hsettings hrevision hcommitted _ _ =>
      constructor <;> simp [hcommitted, hsettings, hrevision]
  | opens session hsettings hrevision hcommitted _ _ _ =>
      constructor <;> simp [hcommitted, hsettings, hrevision]
  | commits expected cfg plan hgeneration hexpected hidle hclosed _ hdeployment _ hstep
      hcommitted =>
      constructor <;>
        simp [hcommitted, hstep, hgeneration, hexpected, hidle, hclosed, hdeployment,
          installRecordingPlan]

/-- The revision only grows, and the settings move with it. -/
theorem revision_step {setup : RecordingSetup} {s : RecordingService} (h : Installed setup s)
    (event : RecordingEvent) :
    ((s.step setup event).1.settings = s.settings ∧
        (s.step setup event).1.service.revision = s.service.revision) ∨
      s.service.revision < (s.step setup event).1.service.revision := by
  cases moves_step h event with
  | quiet hsettings hrevision _ _ _ => exact .inl ⟨hsettings, hrevision⟩
  | opens _ hsettings hrevision _ _ _ _ => exact .inl ⟨hsettings, hrevision⟩
  | commits _ _ _ _ _ _ _ _ _ _ hstep _ =>
      right
      rw [hstep]
      exact Nat.lt_succ_self _

/-- Over a run the revision grows by the changes that were made. -/
theorem revision_run {setup : RecordingSetup} {s : RecordingService} (h : Installed setup s)
    (events : List RecordingEvent) :
    ((Machine.final (step setup) s events).settings = s.settings ∧
        (Machine.final (step setup) s events).service.revision = s.service.revision) ∨
      s.service.revision < (Machine.final (step setup) s events).service.revision := by
  induction events generalizing s with
  | nil => exact .inl ⟨rfl, rfl⟩
  | cons event events ih =>
      rw [Machine.final_cons]
      rcases revision_step h event with ⟨hsettings, hrevision⟩ | hless
      · rw [← hsettings, ← hrevision]
        exact ih (installed_step h event)
      · right
        rcases ih (installed_step h event) with ⟨-, hrevision⟩ | hless'
        · rw [hrevision]
          exact hless
        · exact hless.trans hless'

/-- What a run has committed so far was expected at a revision that is past. -/
structure Spent (s : RecordingService)
    (history : List (RecordingEvent × Option LifecycleReply)) : Prop where
  once : (history.filterMap committed).Pairwise
    fun a b => (a.generation, a.revision) ≠ (b.generation, b.revision)
  past : ∀ expected ∈ history.filterMap committed, ∃ revision : Nat,
    expected.revision = some (revision : Int) ∧ revision < s.service.revision

/-- A revision that a client has seen is spent once it is changed. -/
theorem spent_run {setup : RecordingSetup} {start : RecordingService}
    (h : Installed setup start) (events : List RecordingEvent) :
    Spent (Machine.final (step setup) start events)
      (Machine.history (step setup) start events) := by
  induction events using List.reverseRecOn with
  | nil => exact ⟨.nil, by simp [Machine.history]⟩
  | append_singleton events event ih =>
      have hmoves := moves_step (installed_run h events) event
      rw [Machine.final_append, Machine.history_append]
      generalize Machine.final (step setup) start events = s at ih hmoves ⊢
      generalize Machine.history (step setup) start events = history at ih ⊢
      obtain ⟨once, past⟩ := ih
      have hsilent (hcommitted : committed (event, (s.step setup event).2) = none) :
          (history ++ [(event, (s.step setup event).2)]).filterMap committed =
            history.filterMap committed := by
        simp [hcommitted]
      simp only [Machine.final_cons, Machine.final_nil, Machine.history]
      cases hmoves with
      | quiet _ hrevision hcommitted _ _ =>
          constructor
          · rwa [hsilent hcommitted]
          · rwa [hsilent hcommitted, hrevision]
      | opens _ _ hrevision hcommitted _ _ _ =>
          constructor
          · rwa [hsilent hcommitted]
          · rwa [hsilent hcommitted, hrevision]
      | commits expected _ _ _ hexpected _ _ _ _ _ hstep hcommitted =>
          have hlast : (history ++ [(event, (s.step setup event).2)]).filterMap committed =
              history.filterMap committed ++ [expected] := by
            simp [hcommitted]
          constructor
          · rw [hlast, List.pairwise_append]
            refine ⟨once, List.pairwise_singleton _ _, fun a ha b hb hsame => ?_⟩
            obtain ⟨revision, hrevision, hless⟩ := past a ha
            simp only [List.mem_singleton] at hb
            subst hb
            simp only [Prod.mk.injEq, hrevision, hexpected, Option.some.injEq] at hsame
            omega
          · rw [hlast, hstep]
            intro a ha
            rcases List.mem_append.1 ha with hold | hnew
            · obtain ⟨revision, hrevision, hless⟩ := past a hold
              exact ⟨revision, hrevision, Nat.lt_succ_of_lt hless⟩
            · obtain rfl := List.mem_singleton.1 hnew
              exact ⟨s.service.revision, hexpected, Nat.lt_succ_self _⟩

/-- The sessions of a run, by the state that each was opened in. -/
structure Sessions (setup : RecordingSetup) (start : RecordingService)
    (events : List RecordingEvent) : Prop where
  recorded : ∀ session ∈ (Machine.final (step setup) start events).recorded,
    ∃ earlier, earlier <+: events ∧
      RecordsWith setup (Machine.final (step setup) start earlier) session
  opened : (Machine.final (step setup) start events).recorded.map
      (fun session => (session.snapshot.sessionIndex, session.snapshot.generation,
        session.snapshot.revision)) =
    (Machine.final (step setup) start events).service.opened.map
      fun sess => (sess.index, sess.generation, sess.revision)

/-- Every session has been recorded with the settings of its revision. -/
theorem sessions_run {setup : RecordingSetup} {start : RecordingService}
    (h : Installed setup start) (hrecorded : start.recorded = [])
    (hopened : start.service.opened = []) (events : List RecordingEvent) :
    Sessions setup start events := by
  induction events using List.reverseRecOn with
  | nil => exact ⟨by simp [hrecorded], by simp [hrecorded, hopened]⟩
  | append_singleton events event ih =>
      have hmoves := moves_step (installed_run h events) event
      have hfinal : Machine.final (step setup) start (events ++ [event]) =
          ((Machine.final (step setup) start events).step setup event).1 := by
        simp [Machine.final_append]
      have hearlier (session : RecordedSession)
          (hmem : session ∈ (Machine.final (step setup) start events).recorded) :
          ∃ earlier, earlier <+: events ++ [event] ∧
            RecordsWith setup (Machine.final (step setup) start earlier) session := by
        obtain ⟨earlier, hpre, hwith⟩ := ih.recorded session hmem
        exact ⟨earlier, hpre.trans (List.prefix_append _ _), hwith⟩
      have hsame (hrecorded : ((Machine.final (step setup) start events).step setup
            event).1.recorded = (Machine.final (step setup) start events).recorded)
          (hopened : ((Machine.final (step setup) start events).step setup
            event).1.service.opened =
              (Machine.final (step setup) start events).service.opened) :
          Sessions setup start (events ++ [event]) := by
        constructor
        · rw [hfinal, hrecorded]
          exact hearlier
        · rw [hfinal, hrecorded, hopened]
          exact ih.opened
      cases hmoves with
      | quiet _ _ _ hrecorded hopened => exact hsame hrecorded hopened
      | commits _ _ _ _ _ _ _ _ _ _ hstep _ => exact hsame (by rw [hstep]) (by rw [hstep])
      | opens session _ _ _ hrecorded hopened hsession =>
          constructor
          · rw [hfinal, hrecorded]
            intro session' hmem
            rcases List.mem_append.1 hmem with hold | hnew
            · exact hearlier session' hold
            · obtain rfl := List.mem_singleton.1 hnew
              exact ⟨events, List.prefix_append _ _, hsession⟩
          · rw [hfinal, hrecorded, hopened, List.map_append, List.map_append, ih.opened]
            simp [hsession.generation, hsession.revision]

/-- **Recording settings change with optimistic concurrency, atomically**, over every run of a
service that was built. -/
theorem settingsHold_run (setup : RecordingSetup) (env : PlanEnv) (stateFile : Option String)
    {start : RecordingService} (hbuild : build setup env stateFile = .ok start)
    (events : List RecordingEvent) : SettingsHold setup start events := by
  have h := installed_build hbuild
  obtain ⟨hrecorded, hopened⟩ := recorded_build hbuild
  have hsessions := sessions_run h hrecorded hopened events
  exact
    { changes := changesOnce_step (installed_run h events)
      once := (spent_run h events).once
      byRevision := by
        rintro earlier ⟨later, rfl⟩ hrevision
        rw [Machine.final_append] at hrevision ⊢
        rcases revision_run (installed_run h earlier) later with ⟨hsettings, -⟩ | hless
        · exact hsettings.symm
        · omega
      sessions := hsessions.recorded
      opened := hsessions.opened }

/-! ## Two clients -/

open Service (cameraSetup opensWell closesWell)

/-- A mono camera of even size that records with the default settings. -/
def monoSetup : RecordingSetup where
  py := plainBuiltins
  camera := { pixelFormat := "Mono8", width := 640, height := 480, encoded := false }
  service := cameraSetup
  config :=
    { encoder := "auto", x264Crf := 23, x264Preset := "ultrafast", bayerPattern := none,
      bayerTile := .str "off", enabled := true, outputDir := "", namePrefix := "cam",
      segmentSeconds := 60, keyframeIntervalS := .finite 0, bframes := 0,
      nvencPreset := .str "", nvencMaxperf := true, videoconvertThreads := 4 }
  enabled := rfl

/-- Every element is there, and nothing raises. -/
def hostEnv : PlanEnv := { host := fun _ => true, plan := none, parse := none }

/-- Two clients that have read revision 0 ask for another quality each, and a third one
records. -/
def twoClients : List RecordingEvent :=
  [.configure (.change ⟨true, some "g", some 0⟩
      (some [("encoder", .str "x264"), ("x264_crf", .int 28)])) hostEnv,
   .configure (.change ⟨true, some "g", some 0⟩ (some [("x264_crf", .int 30)])) hostEnv,
   .serve (.request (.known .activate) none opensWell closesWell) hostEnv rfl]

/-- Two clients change the quality, and a session is recorded behind each. -/
theorem settingsHold_twoClients :
    ∃ start, build monoSetup hostEnv none = .ok start ∧
      (Machine.final (step monoSetup) start twoClients).recorded.map (fun session =>
        (session.snapshot.revision, session.snapshot.requested.x264Crf, session.encoder)) =
          [(1, 28, .x264)] ∧
      SettingsHold monoSetup start twoClients := by
  have hbuild : build monoSetup hostEnv none = .ok
      { service := Service.start none
        settings := installRecordingPlan monoSetup.camera "g" 0 monoSetup.config
          ⟨.hwHevcLossless, .off, none⟩
        recorded := [] } := by
    decide +kernel
  exact ⟨_, hbuild, by decide +kernel, settingsHold_run monoSetup hostEnv none hbuild twoClients⟩

end RecordingService

end CamDriver
