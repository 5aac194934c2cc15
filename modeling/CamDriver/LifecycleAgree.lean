import CamDriver.Lifecycle

/-!
# CamDriver.LifecycleAgree

The policy and the mechanism agree: as long as closing a session does not raise, the
service rests in `inactive` or `active`, is `active` just when a session is open, and
closes every session once.

`Steady` is the invariant, `Effect` what one event may do to the state and to the file.
-/

namespace CamDriver

/-- How the event's close goes, where it closes a session. -/
def ServiceEvent.closing : ServiceEvent → Option Closing
  | .boot _ c | .request _ _ _ c | .sessionError _ c | .watchdog _ c | .requestStop c
  | .signalStop c | .shutdown c => some c
  | .configureRecording _ | .fragment _ | .progressTick => none

/-- Closing a session does not raise. -/
def ServiceEvent.ClosesWell (event : ServiceEvent) : Prop :=
  ∀ c ∈ event.closing, c.raises = none

instance (event : ServiceEvent) : Decidable event.ClosesWell :=
  inferInstanceAs (Decidable (∀ c ∈ event.closing, _))

namespace Service

/-! ## The resting states -/

/-- **Agreement**: between events the state says whether a session is open, what runs is
that session's, and every other session that was opened is finished, once and in order. -/
structure Steady (s : Service) : Prop where
  lifecycle : s.lifecycle = if s.session.isSome then .active else .inactive
  sessions : s.opened = s.finished ++ s.session.toList
  known : ∀ sess ∈ s.opened, sess.index ≤ s.sessionSeq
  distinct : (s.opened.map OpenedSession.index).Pairwise (· < ·)
  sidecars : s.sidecars = s.session.toList.length
  pipelines : s.pipelines = s.session.toList.length
  stopped : s.stopping = true → s.session = none
  down : s.down = true → s.stopping = true

/-- A service that has been built. -/
theorem steady_start (stateFile : Option String) : (start stateFile).Steady :=
  ⟨rfl, rfl, nofun, .nil, rfl, rfl, fun _ => rfl, nofun⟩

/-- A session is open just while the service is active. -/
theorem Steady.active {s : Service} (h : s.Steady) {sess : OpenedSession}
    (hs : s.session = some sess) : s.lifecycle = .active := by
  rw [h.lifecycle, hs]
  rfl

/-- Without one it is inactive. -/
theorem Steady.inactive {s : Service} (h : s.Steady) (hs : s.session = none) :
    s.lifecycle = .inactive := by
  rw [h.lifecycle, hs]
  rfl

/-- A stopped service has none. -/
theorem Steady.running {s : Service} (h : s.Steady) {sess : OpenedSession}
    (hs : s.session = some sess) : s.stopping = false := by
  by_contra hstopping
  simp [h.stopped (by simpa using hstopping)] at hs

theorem Steady.session_of_active {s : Service} (h : s.Steady) (hs : s.lifecycle = .active) :
    ∃ sess, s.session = some sess := by
  cases hsession : s.session with
  | none => simp [h.inactive hsession] at hs
  | some sess => exact ⟨sess, rfl⟩

/-- The state of the service is as it was. -/
structure Kept (s s' : Service) : Prop where
  lifecycle : s'.lifecycle = s.lifecycle
  session : s'.session = s.session
  stateFile : s'.stateFile = s.stateFile
  stopping : s'.stopping = s.stopping

theorem Kept.refl (s : Service) : Kept s s := ⟨rfl, rfl, rfl, rfl⟩

theorem Kept.trans {s s' s'' : Service} (h : Kept s s') (h' : Kept s' s'') : Kept s s'' :=
  ⟨h'.lifecycle.trans h.lifecycle, h'.session.trans h.session, h'.stateFile.trans h.stateFile,
    h'.stopping.trans h.stopping⟩

/-! ## Opening -/

/-- A session that fails to start leaves the service as it was. -/
theorem startSession_failed {s s' : Service} {failure : Option OpenFailure} {error : String}
    (h : s.startSession failure = (s', .error error)) : s' = s := by
  unfold startSession at h
  split at h
  · cases h
    rfl
  · cases h
    rfl
  · cases h
    rfl
  · simp only at h
    split at h
    · cases h
      rfl
    · split at h
      · cases h
        rfl
      · cases h
        rfl
      · cases h

/-- A session that starts counts a sidecar and a pipeline. -/
theorem startSession_ok {s s' : Service} {failure : Option OpenFailure}
    (h : s.startSession failure = (s', .ok ())) :
    s' = { s with sidecars := s.sidecars + 1, pipelines := s.pipelines + 1 } := by
  unfold startSession at h
  split at h
  · cases h
  · cases h
  · cases h
  · simp only at h
    split at h
    · cases h
    · split at h
      · cases h
      · cases h
      · cases h
        rfl

/-- It has started, so nothing failed. -/
theorem failure_none_of_started {s s' : Service} {failure : Option OpenFailure}
    (h : s.startSession failure = (s', .ok ())) : failure = none := by
  cases failure with
  | none => rfl
  | some failure => cases failure <;> cases h

/-- **`activate`**: refused it leaves the state alone, otherwise a session is open. -/
theorem activate_cases (setup : ServiceSetup) {s : Service} (o : Opening) (h : s.Steady) :
    (s.activate setup o).1.Steady ∧
      (((s.activate setup o).2.ok = false ∧ Kept s (s.activate setup o).1) ∨
        ((s.activate setup o).2.ok = true ∧ s.lifecycle = .inactive ∧
          (s.activate setup o).1.lifecycle = .active ∧
          (s.activate setup o).1.stopping = s.stopping ∧ s.stopping = false)) := by
  unfold activate
  split
  · exact ⟨h, .inl ⟨rfl, .refl s⟩⟩
  · split
    · exact ⟨h, .inl ⟨rfl, .refl s⟩⟩
    · next hstopping =>
        split
        · exact ⟨h, .inl ⟨rfl, .refl s⟩⟩
        · next hsome =>
            have hnone : s.session = none := by simpa using hsome
            have hinactive := h.inactive hnone
            simp only
            split
            · next s' error hfailed =>
                obtain rfl := startSession_failed hfailed
                refine ⟨{ h with
                  lifecycle := hinactive ▸ h.lifecycle
                  known := fun sess hsess => Nat.le_succ_of_le (h.known sess hsess) },
                  .inl ⟨rfl, ?_⟩⟩
                exact ⟨hinactive.symm, rfl, rfl, rfl⟩
            · next s' hok =>
                obtain rfl := startSession_ok hok
                refine ⟨?_, .inr ⟨rfl, hinactive, rfl, rfl, by simpa using hstopping⟩⟩
                have hall := h.sessions
                have hside := h.sidecars
                have hpipe := h.pipelines
                rw [hnone] at hall hside hpipe
                exact {
                  lifecycle := rfl
                  sessions := by
                    have hopened : s.opened = s.finished := by simpa using hall
                    show s.opened ++ [_] = s.finished ++ [_]
                    rw [hopened]
                  known := by
                    intro sess hsess
                    rcases List.mem_append.mp hsess with hold | hnew
                    · exact Nat.le_succ_of_le (h.known sess hold)
                    · obtain rfl := List.mem_singleton.mp hnew
                      exact Nat.le_refl _
                  distinct := by
                    show (List.map _ (s.opened ++ [_])).Pairwise _
                    rw [List.map_append, List.pairwise_append]
                    refine ⟨h.distinct, List.pairwise_singleton _ _, ?_⟩
                    intro i hi j hj
                    obtain ⟨sess, hsess, rfl⟩ := List.mem_map.mp hi
                    obtain rfl := List.mem_singleton.mp hj
                    exact Nat.lt_succ_of_le (h.known sess hsess)
                  sidecars := congrArg (· + 1) hside
                  pipelines := congrArg (· + 1) hpipe
                  stopped := fun hstop => absurd hstop hstopping
                  down := h.down }

/-! ## Closing -/

/-- A close that does not raise tears down and finishes the session. -/
theorem closeSession_ok {s : Service} (sess : OpenedSession) {c : Closing} (hc : c.raises = none) :
    s.closeSession sess c = ({ s.tearDown with finished := s.finished ++ [sess] },
      .ok ⟨true, textOr c.error none, some ⟨sess.index, c.error, c.truncated⟩⟩) := by
  rw [closeSession, hc]

/-- The session is finished, and nothing of it runs. -/
structure Ends (s s' : Service) (sess : OpenedSession) : Prop where
  lifecycle : s'.lifecycle = .inactive
  session : s'.session = none
  sessionSeq : s'.sessionSeq = s.sessionSeq
  opened : s'.opened = s.opened
  finished : s'.finished = s.finished ++ [sess]
  sidecars : s'.sidecars = s.sidecars - 1
  pipelines : s'.pipelines = s.pipelines - 1
  stateFile : s'.stateFile = s.stateFile
  down : (s.down = true → s.stopping = true) → s'.down = true → s'.stopping = true

/-- A session that ends leaves a steady service. -/
theorem Steady.ends {s s' : Service} {sess : OpenedSession} (h : s.Steady)
    (hs : s.session = some sess) (hends : Ends s s' sess) : s'.Steady where
  lifecycle := by
    rw [hends.lifecycle, hends.session]
    rfl
  sessions := by
    rw [hends.opened, hends.finished, hends.session, h.sessions, hs]
    simp
  known := by
    rw [hends.opened, hends.sessionSeq]
    exact h.known
  distinct := by
    rw [hends.opened]
    exact h.distinct
  sidecars := by
    rw [hends.sidecars, hends.session, h.sidecars, hs]
    rfl
  pipelines := by
    rw [hends.pipelines, hends.session, h.pipelines, hs]
    rfl
  stopped := fun _ => hends.session
  down := hends.down h.down

/-- `deactivate` ends the session that is open. -/
theorem deactivate_ok {s : Service} {sess : OpenedSession} {c : Closing}
    (hs : s.session = some sess) (hc : c.raises = none) :
    ∃ (s' : Service) (r : TransitionResult), s.deactivate c = (s', .ok r) ∧ r.ok = true ∧
      Ends s s' sess ∧ s'.stopping = s.stopping := by
  simp only [deactivate, hs, closeSession_ok sess hc]
  exact ⟨_, _, rfl, rfl, ⟨rfl, rfl, rfl, rfl, rfl, rfl, rfl, rfl, id⟩, rfl⟩

/-! ## The effect of an event -/

/-- What an event may do to the state and to the file. -/
structure Effect (setup : ServiceSetup) (s s' : Service) : Prop where
  steady : s'.Steady
  stopping : s.stopping = true → s'.stopping = true
  changed : setup.resume = true → s'.stopping = false → s'.lifecycle ≠ s.lifecycle →
    s'.recalled setup = some s'.lifecycle
  unchanged : s'.stopping = false → s'.lifecycle = s.lifecycle → s'.stateFile = s.stateFile
  stopped : s'.stopping = true → s'.stateFile = s.stateFile

/-- What changes nothing has the effect of nothing. -/
theorem Kept.effect {setup : ServiceSetup} {s s' : Service} (h : Kept s s') (hs : s'.Steady) :
    Effect setup s s' where
  steady := hs
  stopping hstop := h.stopping.trans hstop
  changed _ _ hne := absurd h.lifecycle hne
  unchanged _ _ := h.stateFile
  stopped _ := h.stateFile

/-- The file says what was remembered. -/
theorem recalled_remember {setup : ServiceSetup} (hresume : setup.resume = true) (s : Service)
    {state : LifecycleState} (hstate : state = .active ∨ state = .inactive) :
    (s.remember setup state).recalled setup = some state := by
  simp only [recalled, remember, hresume, if_true, Option.bind_some]
  rcases hstate with rfl | rfl <;> decide

/-- The file does not matter. -/
theorem Steady.remember {s : Service} (h : s.Steady) (setup : ServiceSetup)
    (state : LifecycleState) : (s.remember setup state).Steady := by
  unfold Service.remember
  split
  · exact { h with }
  · exact h

/-- Remembering a state does not change it. -/
theorem lifecycle_remember (setup : ServiceSetup) (s : Service) (state : LifecycleState) :
    (s.remember setup state).lifecycle = s.lifecycle := by
  unfold remember
  split <;> rfl

theorem stopping_remember (setup : ServiceSetup) (s : Service) (state : LifecycleState) :
    (s.remember setup state).stopping = s.stopping := by
  unfold remember
  split <;> rfl

/-- A change that is remembered. -/
theorem effect_remember (setup : ServiceSetup) {s s' : Service} (hs : s'.Steady)
    (hstopping : s'.stopping = s.stopping) (hrun : s.stopping = false) {state : LifecycleState}
    (hstate : s'.lifecycle = state)
    (hrests : state = .active ∨ state = .inactive) (hchanged : state ≠ s.lifecycle) :
    Effect setup s (s'.remember setup state) where
  steady := hs.remember setup state
  stopping hstop := by
    rw [stopping_remember, hstopping]
    exact hstop
  changed hresume _ _ := by
    rw [lifecycle_remember, hstate]
    exact recalled_remember hresume s' hrests
  unchanged _ hsame := by
    rw [lifecycle_remember, hstate] at hsame
    exact absurd hsame hchanged
  stopped hstop := by
    rw [stopping_remember, hstopping, hrun] at hstop
    cases hstop

/-! ## Requests -/

/-- What a reply says, and what is behind it. -/
structure Answered (setup : ServiceSetup) (s : Service) (r : Service × LifecycleReply) : Prop where
  effect : Effect setup s r.1
  state : r.2.state = r.1.lifecycle
  refused : r.2.ok = false → Kept s r.1

/-- A reply that changes nothing is an answer. -/
theorem answered_result (setup : ServiceSetup) {s : Service} (h : s.Steady) (ok : Bool)
    (error : Option String) (noop : Bool) : Answered setup s (s, s.result setup ok error noop) :=
  ⟨(Kept.refl s).effect h, rfl, fun _ => .refl s⟩

/-- So is a refusal: session, state and file are as before. -/
theorem answered_refused {setup : ServiceSetup} {s s' : Service} (t : Transition)
    {r : TransitionResult} (hs : s'.Steady) (hkept : Kept s s') (hr : r.ok = false) :
    Answered setup s (s'.conclude setup t r) := by
  have hafter : Kept s (s'.conclude setup t r).1 := by
    simp only [conclude, hr]
    exact ⟨hkept.lifecycle, hkept.session, hkept.stateFile, hkept.stopping⟩
  have hsteady : (s'.conclude setup t r).1.Steady := by
    simp only [conclude, hr]
    exact { hs with }
  exact ⟨hafter.effect hsteady, rfl, fun _ => hafter⟩

/-- And a transition that was made, which is remembered. -/
theorem answered_done (setup : ServiceSetup) {s s' : Service} (t : Transition)
    {r : TransitionResult} (hs : s'.Steady) (hstopping : s'.stopping = s.stopping)
    (hrun : s.stopping = false) (hbefore : s.lifecycle = t.source)
    (hafter : s'.lifecycle = t.target) (hr : r.ok = true) :
    Answered setup s (s'.conclude setup t r) ∧ (s'.conclude setup t r).1.lifecycle = t.target := by
  have hconclude : (s'.conclude setup t r).1 =
      ({ s' with lastError := textOr r.error (r.session.bind SessionInfo.error) }).remember setup
        s'.lifecycle := by
    simp only [conclude, hr, if_true]
  have hnoted : ({ s' with
      lastError := textOr r.error (r.session.bind SessionInfo.error) } : Service).Steady :=
    { hs with }
  have heffect : Effect setup s (s'.conclude setup t r).1 := by
    rw [hconclude]
    apply effect_remember setup hnoted hstopping hrun rfl
    · rw [hafter]
      cases t <;> simp [Transition.target]
    · rw [hafter, hbefore]
      cases t <;> simp [Transition.target, Transition.source]
  refine ⟨⟨heffect, rfl, fun hno => ?_⟩, ?_⟩
  · simp [conclude, result, hr] at hno
  · rw [hconclude, lifecycle_remember]
    exact hafter

/-- **Requests**: the reply says the state that is, and it is the one asked for. -/
theorem answered_request (setup : ServiceSetup) {s : Service} (h : s.Steady)
    (requested : Requested) (expected : Option ExpectedSettings) (o : Opening) {c : Closing}
    (hc : c.raises = none) :
    Answered setup s (s.request setup requested expected o c) ∧
      ∀ t, requested = .known t → (s.request setup requested expected o c).2.ok = true →
        (s.request setup requested expected o c).1.lifecycle = t.target := by
  cases requested with
  | unknown repr => exact ⟨answered_result setup h _ _ _, nofun⟩
  | known t =>
      unfold request
      simp only
      split
      · next htarget =>
          refine ⟨answered_result setup h _ _ _, ?_⟩
          rintro t' ⟨⟩ -
          exact htarget
      · split
        · exact ⟨answered_result setup h _ _ _, nofun⟩
        · next hsource =>
            have hsource : s.lifecycle = t.source := by simpa using hsource
            cases t with
            | activate =>
                simp only
                split
                · exact ⟨answered_result setup h _ _ _, nofun⟩
                · split
                  · exact ⟨answered_result setup h _ _ _, nofun⟩
                  · obtain ⟨hsteady, ⟨hno, hkept⟩ | ⟨hyes, -, hactive, hstopping, hrun⟩⟩ :=
                      activate_cases setup o h
                    · refine ⟨answered_refused .activate hsteady hkept hno, ?_⟩
                      intro t' _ hok
                      simp [conclude, result, hno] at hok
                    · have hdone := answered_done setup .activate hsteady hstopping hrun hsource
                        hactive hyes
                      refine ⟨hdone.1, ?_⟩
                      rintro t' ⟨⟩ -
                      exact hdone.2
            | deactivate =>
                obtain ⟨sess, hsession⟩ := h.session_of_active hsource
                obtain ⟨s', r, hclose, hr, hends, hstopping⟩ := deactivate_ok hsession hc
                simp only [hclose]
                have hdone := answered_done setup .deactivate (h.ends hsession hends) hstopping
                  (h.running hsession) hsource hends.lifecycle hr
                refine ⟨hdone.1, ?_⟩
                rintro t' ⟨⟩ -
                exact hdone.2

theorem answered_configureRecording (setup : ServiceSetup) {s : Service} (h : s.Steady)
    (answer : Configured) : Answered setup s (s.configureRecording setup answer) := by
  unfold configureRecording
  split
  · exact answered_result setup h _ _ _
  · cases answer with
    | raised error => exact answered_result setup h _ _ _
    | noop =>
        have hkept : Kept s { s with lastError := none } := ⟨rfl, rfl, rfl, rfl⟩
        exact ⟨hkept.effect { h with }, rfl, fun _ => hkept⟩
    | changed =>
        have hkept : Kept s { s with lastError := none, revision := s.revision + 1 } :=
          ⟨rfl, rfl, rfl, rfl⟩
        exact ⟨hkept.effect { h with }, rfl, fun _ => hkept⟩

/-! ## Ends that nobody asked for -/

/-- A stop leaves the file as it is. -/
theorem effect_stopped (setup : ServiceSetup) {s s' : Service} (hs : s'.Steady)
    (hstopping : s'.stopping = true) (hfile : s'.stateFile = s.stateFile) :
    Effect setup s s' where
  steady := hs
  stopping _ := hstopping
  changed _ hrun := by simp [hstopping] at hrun
  unchanged hrun := by simp [hstopping] at hrun
  stopped _ := hfile

/-- The effect of a stop that closes well. -/
theorem effect_requestStop (setup : ServiceSetup) {s : Service} (h : s.Steady) {c : Closing}
    (hc : c.raises = none) :
    Effect setup s (s.requestStop c) ∧ (s.requestStop c).stopping = true := by
  unfold requestStop
  split
  · next hstopping => exact ⟨(Kept.refl s).effect h, hstopping⟩
  · simp only
    split
    · next hnone =>
        exact ⟨effect_stopped setup
          { h with stopped := fun _ => hnone, down := fun _ => rfl } rfl rfl, rfl⟩
    · next sess hsome =>
        simp only [closeSession_ok sess hc]
        have hends : Ends s { s.tearDown with
            finished := s.finished ++ [sess], session := none, lifecycle := .inactive,
            stopping := true } sess :=
          ⟨rfl, rfl, rfl, rfl, rfl, rfl, rfl, rfl, fun _ _ => rfl⟩
        exact ⟨effect_stopped setup (h.ends hsome hends) rfl rfl, rfl⟩

/-- The effect of the shutdown. -/
theorem effect_shutdown (setup : ServiceSetup) {s : Service} (h : s.Steady) {c : Closing}
    (hc : c.raises = none) :
    Effect setup s (s.shutdown c) ∧ (s.shutdown c).stopping = true ∧
      (s.shutdown c).session = none := by
  unfold shutdown
  simp only
  split
  · next hnone =>
      exact ⟨effect_stopped setup
        { h with stopped := fun _ => hnone, down := fun _ => rfl } rfl rfl, rfl, hnone⟩
  · next sess hsome =>
      simp only [closeSession_ok sess hc]
      have hends : Ends s { s.tearDown with
          finished := s.finished ++ [sess], session := none, lifecycle := .inactive,
          stopping := true, down := true } sess :=
          ⟨rfl, rfl, rfl, rfl, rfl, rfl, rfl, rfl, fun _ _ => rfl⟩
      exact ⟨effect_stopped setup (h.ends hsome hends) rfl rfl, rfl, rfl⟩

/-- A session that ends by itself leaves the service inactive, and that is remembered. -/
theorem Ends.remembered {s s' : Service} {sess : OpenedSession} (hends : Ends s s' sess)
    (setup : ServiceSetup) (h : s.Steady) (hs : s.session = some sess)
    (hstopping : s'.stopping = s.stopping) : Effect setup s (s'.remember setup .inactive) := by
  apply effect_remember setup (h.ends hs hends) hstopping (h.running hs) hends.lifecycle (.inr rfl)
  rw [h.active hs]
  nofun

/-- A session that ended by itself leaves what a `deactivate` leaves. -/
theorem Ends.uncommanded {s s' : Service} {sess : OpenedSession} (hends : Ends s s' sess)
    (setup : ServiceSetup) (h : s.Steady) (hs : s.session = some sess)
    (hstopping : s'.stopping = s.stopping) (r : TransitionResult) :
    Effect setup s (s'.onUncommandedEnd setup r) := by
  have hnoted : ∀ error, Ends s { s' with lastError := error } sess := fun error =>
    ⟨hends.lifecycle, hends.session, hends.sessionSeq, hends.opened, hends.finished,
      hends.sidecars, hends.pipelines, hends.stateFile, hends.down⟩
  exact (hnoted (textOr r.error (textOr (r.session.bind SessionInfo.error)
    (some "recording session ended on an error")))).remembered setup h hs hstopping

/-- Other flags do not count. -/
theorem Effect.flags {setup : ServiceSetup} {s s' : Service} (h : Effect setup s s')
    (fatal quit : Bool) : Effect setup s { s' with fatal := fatal, quit := quit } where
  steady := { h.steady with }
  stopping := h.stopping
  changed := h.changed
  unchanged := h.unchanged
  stopped := h.stopped

/-- The effect of a session error. -/
theorem effect_onSessionError (setup : ServiceSetup) {s : Service} (h : s.Steady) (index : Nat)
    {c : Closing} (hc : c.raises = none) : Effect setup s (s.onSessionError setup index c) := by
  unfold onSessionError
  split
  · exact (Kept.refl s).effect h
  · next hopen =>
      cases hsession : s.session with
      | none => simp [hsession] at hopen
      | some sess =>
          obtain ⟨s', r, hclose, -, hends, hstopping⟩ := deactivate_ok hsession hc
          simp only [hclose]
          have heffect := hends.uncommanded setup h hsession hstopping r
          split
          · exact heffect.flags true true
          · exact heffect

/-- The effect of a look of the watchdog. -/
theorem effect_onWatchdog (setup : ServiceSetup) {s : Service} (h : s.Steady)
    (source : SourceState) {c : Closing} (hc : c.raises = none) :
    Effect setup s (s.onWatchdog setup source c) := by
  have hstop : ∀ fatal, Effect setup s
      ({ s with fatal := fatal, watching := false }.requestStop c) := by
    intro fatal
    have hflags : ({ s with fatal := fatal, watching := false } : Service).Steady := { h with }
    have hstopped := effect_requestStop setup hflags hc
    exact effect_stopped setup hstopped.1.steady hstopped.2 (hstopped.1.stopped hstopped.2)
  unfold onWatchdog
  split
  · exact (Kept.refl s).effect h
  · split
    · have hkept : Kept s { s with watching := false } := ⟨rfl, rfl, rfl, rfl⟩
      exact hkept.effect { h with }
    · split
      · split
        · exact hstop true
        · split
          · exact hstop s.fatal
          · split
            · exact (Kept.refl s).effect h
            · have hkept : Kept s { s with held := true } := ⟨rfl, rfl, rfl, rfl⟩
              have hheld : ({ s with held := true } : Service).Steady := { h with }
              simp only
              split
              · exact hkept.effect hheld
              · next hopen =>
                  obtain ⟨sess, hsession⟩ : ∃ sess, s.session = some sess :=
                    Option.ne_none_iff_exists'.mp (by simpa using hopen)
                  obtain ⟨s', r, hclose, -, hends, hstopping⟩ :=
                    deactivate_ok (s := { s with held := true }) hsession hc
                  simp only [hclose]
                  have heffect := hends.remembered setup hheld hsession hstopping
                  exact ⟨heffect.steady, heffect.stopping, heffect.changed, heffect.unchanged,
                    heffect.stopped⟩
      · have hkept : Kept s { s with held := false } := ⟨rfl, rfl, rfl, rfl⟩
        exact hkept.effect { h with }

/-- The effect of booting. -/
theorem effect_boot (setup : ServiceSetup) {s : Service} (h : s.Steady) (o : Opening) {c : Closing}
    (hc : c.raises = none) : Effect setup s (s.boot setup o c) := by
  have hreason : ∀ reason, ({ s with bootReason := reason } : Service).Steady := fun _ => { h with }
  unfold boot
  simp only
  split
  · have hbooted := hreason (some (s.resolveBootState setup).2)
    have hanswered := (answered_request setup hbooted (.known .activate) none o hc).1
    split
    · have heffect := hanswered.effect
      exact ⟨heffect.steady, heffect.stopping, heffect.changed, heffect.unchanged, heffect.stopped⟩
    · next hno =>
        have hfatal := (hanswered.effect.flags true (request setup { s with
          bootReason := some (s.resolveBootState setup).2 }
          (.known .activate) none o c).1.quit).steady
        have hdown := effect_shutdown setup hfatal hc
        apply effect_stopped setup hdown.1.steady hdown.2.1
        rw [hdown.1.stopped hdown.2.1]
        exact (hanswered.refused (by simpa using hno)).stateFile
  · have hkept : Kept s { s with bootReason := some (s.resolveBootState setup).2 } :=
      ⟨rfl, rfl, rfl, rfl⟩
    exact hkept.effect (hreason _)

/-! ## Every event -/

/-- **One event**: it is served from a resting state to a resting state. -/
structure Served (setup : ServiceSetup) (s : Service) (event : ServiceEvent) : Prop where
  steady : (s.step setup event).1.Steady
  /-- a reply names the state that is, and a refusal changes nothing -/
  answered : ∀ reply, (s.step setup event).2 = some reply →
    reply.state = (s.step setup event).1.lifecycle ∧
      (reply.ok = false → Kept s (s.step setup event).1)
  /-- a transition that is acknowledged has reached its target -/
  reached : ∀ t expected o c, event = .request (.known t) expected o c →
    ∀ reply, (s.step setup event).2 = some reply → reply.ok = true → reply.state = t.target
  /-- a change of a service that is not stopping is remembered -/
  changed : setup.resume = true → (s.step setup event).1.stopping = false →
    (s.step setup event).1.lifecycle ≠ s.lifecycle →
      (s.step setup event).1.recalled setup = some (s.step setup event).1.lifecycle
  /-- where nothing changes, the file stays -/
  unchanged : (s.step setup event).1.stopping = false →
    (s.step setup event).1.lifecycle = s.lifecycle →
      (s.step setup event).1.stateFile = s.stateFile
  /-- stopping leaves it alone, unless a signal has it forgotten -/
  stopped : (s.step setup event).1.stopping = true → (∀ c, event ≠ .signalStop c) →
    (s.step setup event).1.stateFile = s.stateFile
  stopping : s.stopping = true → (s.step setup event).1.stopping = true

/-- An event without a reply. -/
theorem Effect.served {setup : ServiceSetup} {s : Service} {event : ServiceEvent}
    (h : Effect setup s (s.step setup event).1) (hnone : (s.step setup event).2 = none) :
    Served setup s event where
  steady := h.steady
  answered reply hreply := by simp [hnone] at hreply
  reached t expected o c heq reply hreply := by simp [hnone] at hreply
  changed := h.changed
  unchanged := h.unchanged
  stopped hstop _ := h.stopped hstop
  stopping := h.stopping

/-- A request is served if it is answered. -/
theorem Answered.served {setup : ServiceSetup} {s : Service} {event : ServiceEvent}
    {r : Service × LifecycleReply} (h : Answered setup s r)
    (hstep : s.step setup event = (r.1, some r.2))
    (hreached : ∀ t expected o c, event = .request (.known t) expected o c → r.2.ok = true →
      r.1.lifecycle = t.target) : Served setup s event where
  steady := by
    rw [hstep]
    exact h.effect.steady
  answered reply hreply := by
    rw [hstep] at hreply ⊢
    cases hreply
    exact ⟨h.state, h.refused⟩
  reached t expected o c heq reply hreply hok := by
    rw [hstep] at hreply
    cases hreply
    rw [h.state]
    exact hreached t expected o c heq hok
  changed := by
    rw [hstep]
    exact h.effect.changed
  unchanged := by
    rw [hstep]
    exact h.effect.unchanged
  stopped := by
    rw [hstep]
    exact fun hstop _ => h.effect.stopped hstop
  stopping := by
    rw [hstep]
    exact h.effect.stopping

/-- After the shutdown nothing happens. -/
theorem step_of_down {setup : ServiceSetup} {s : Service} (h : s.down = true)
    (event : ServiceEvent) : s.step setup event = (s, none) := by
  unfold step
  rw [if_pos h]

/-- Before it every event is handled. -/
theorem step_of_up {setup : ServiceSetup} {s : Service} (h : s.down = false)
    (event : ServiceEvent) : s.step setup event = s.handle setup event := by
  unfold step
  rw [if_neg (by simp [h])]

/-- The file does not matter when it is removed either. -/
theorem Steady.forget {s : Service} (h : s.Steady) (setup : ServiceSetup) :
    (s.forget setup).Steady := by
  unfold Service.forget
  split
  · exact { h with }
  · exact h

/-- A signal has the state forgotten before it stops the service. -/
theorem served_signalStop {setup : ServiceSetup} {s s' : Service} {c : Closing}
    (hstep : s.step setup (.signalStop c) = (s', none)) (hs : s'.Steady)
    (hstopping : s'.stopping = true) : Served setup s (.signalStop c) where
  steady := by rwa [hstep]
  answered reply hreply := by
    rw [hstep] at hreply
    cases hreply
  reached t expected o c' heq := by cases heq
  changed _ hrun := by
    rw [hstep] at hrun
    simp [hstopping] at hrun
  unchanged hrun := by
    rw [hstep] at hrun
    simp [hstopping] at hrun
  stopped _ hno := absurd rfl (hno c)
  stopping _ := by rwa [hstep]

/-- Every event of a service that closes well. -/
theorem served_step (setup : ServiceSetup) {s : Service} (h : s.Steady) {event : ServiceEvent}
    (hwell : event.ClosesWell) : Served setup s event := by
  cases hdown : s.down with
  | true =>
      have hstep : s.step setup event = (s, none) := step_of_down hdown event
      have heffect : Effect setup s (s.step setup event).1 := by
        rw [hstep]
        exact (Kept.refl s).effect h
      exact heffect.served (by rw [hstep])
  | false =>
      have hstep : s.step setup event = s.handle setup event := step_of_up hdown event
      have hsilent : ∀ s', s.step setup event = (s', none) → Effect setup s s' →
          Served setup s event := by
        intro s' heq heffect
        have heffect : Effect setup s (s.step setup event).1 := by rwa [heq]
        exact heffect.served (by rw [heq])
      cases event with
      | boot o c =>
          refine hsilent _ hstep ?_
          split
          · exact (Kept.refl s).effect h
          · exact effect_boot setup h o (hwell c rfl)
      | request requested expected o c =>
          have hanswered := answered_request setup h requested expected o (hwell c rfl)
          refine hanswered.1.served hstep ?_
          rintro t expected' o' c' ⟨⟩ hok
          exact hanswered.2 t rfl hok
      | configureRecording answer =>
          refine (answered_configureRecording setup h answer).served hstep ?_
          intro t expected o c heq
          cases heq
      | sessionError index c =>
          exact hsilent _ hstep (effect_onSessionError setup h index (hwell c rfl))
      | fragment index => exact hsilent _ hstep ((Kept.refl s).effect h)
      | progressTick =>
          refine hsilent _ hstep ?_
          unfold onProgressTick
          split
          · have hkept : Kept s { s with progressTimer := false } := ⟨rfl, rfl, rfl, rfl⟩
            exact hkept.effect { h with }
          · exact (Kept.refl s).effect h
      | watchdog source c => exact hsilent _ hstep (effect_onWatchdog setup h source (hwell c rfl))
      | requestStop c => exact hsilent _ hstep (effect_requestStop setup h (hwell c rfl)).1
      | signalStop c =>
          have hstopped := effect_requestStop setup (h.forget setup) (hwell c rfl)
          exact served_signalStop hstep hstopped.1.steady hstopped.2
      | shutdown c => exact hsilent _ hstep (effect_shutdown setup h (hwell c rfl)).1

/-! ## Every run -/

theorem steady_run (setup : ServiceSetup) {s : Service} (h : s.Steady) {events : List ServiceEvent}
    (hwell : ∀ event ∈ events, event.ClosesWell) :
    (Machine.final (step setup) s events).Steady := by
  induction events generalizing s with
  | nil => exact h
  | cons event events ih =>
      have hserved := served_step setup h (hwell event List.mem_cons_self)
      exact ih hserved.steady fun e he => hwell e (List.mem_cons_of_mem _ he)

/-- After a shutdown, a service stays stopped. -/
theorem stopping_run (setup : ServiceSetup) {s : Service} (h : s.Steady)
    {events : List ServiceEvent} (hwell : ∀ event ∈ events, event.ClosesWell)
    (hstop : s.stopping = true ∨ ∃ c, .shutdown c ∈ events) :
    (Machine.final (step setup) s events).stopping = true := by
  induction events generalizing s with
  | nil => exact hstop.resolve_right (by simp)
  | cons event events ih =>
      have hserved := served_step setup h (hwell event List.mem_cons_self)
      refine ih hserved.steady (fun e he => hwell e (List.mem_cons_of_mem _ he)) ?_
      rcases hstop with hstop | ⟨c, hmem⟩
      · exact .inl (hserved.stopping hstop)
      · rcases List.mem_cons.mp hmem with rfl | hmem
        · left
          cases hdown : s.down with
          | true =>
              show (s.step setup (.shutdown c)).1.stopping = true
              rw [step_of_down hdown]
              exact h.down hdown
          | false =>
              show (s.step setup (.shutdown c)).1.stopping = true
              rw [step_of_up hdown]
              exact (effect_shutdown setup h (hwell _ List.mem_cons_self c rfl)).2.1
        · exact .inr ⟨c, hmem⟩

/-- What is recalled depends on the file alone. -/
theorem recalled_congr {setup : ServiceSetup} {s s' : Service} (h : s'.stateFile = s.stateFile) :
    s'.recalled setup = s.recalled setup := by
  rw [recalled, recalled, h]

/-- An event leaves the file on the state, or puts it there. -/
theorem Served.recalled {setup : ServiceSetup} {s : Service} {event : ServiceEvent}
    (h : Served setup s event) (hresume : setup.resume = true)
    (hrun : (s.step setup event).1.stopping = false)
    (hrecall : (s.step setup event).1.lifecycle = s.lifecycle →
      s.recalled setup = some s.lifecycle) :
    (s.step setup event).1.recalled setup = some (s.step setup event).1.lifecycle := by
  by_cases hsame : (s.step setup event).1.lifecycle = s.lifecycle
  · rw [recalled_congr (h.unchanged hrun hsame), hsame]
    exact hrecall hsame
  · exact h.changed hresume hrun hsame

/-- Once the state has changed, the file follows it, as long as nothing stops the service. -/
theorem recalled_run (setup : ServiceSetup) (hresume : setup.resume = true) {s : Service}
    (h : s.Steady) {events : List ServiceEvent} (hwell : ∀ event ∈ events, event.ClosesWell)
    (hrun : (Machine.final (step setup) s events).stopping = false)
    {before after : List ServiceEvent} (hevents : events = before ++ after)
    (hchanged : (Machine.final (step setup) s before).lifecycle ≠
      (Machine.final (step setup) s events).lifecycle) :
    (Machine.final (step setup) s events).recalled setup =
      some (Machine.final (step setup) s events).lifecycle := by
  induction events using List.reverseRecOn generalizing after with
  | nil =>
      obtain ⟨rfl, -⟩ := List.append_eq_nil_iff.mp hevents.symm
      exact absurd rfl hchanged
  | append_singleton events event ih =>
      have hwell' : ∀ e ∈ events, e.ClosesWell := fun e he => hwell e (List.mem_append_left _ he)
      have hserved := served_step setup (steady_run setup h hwell')
        (hwell event (List.mem_append_right _ (List.mem_singleton.mpr rfl)))
      have hlast : Machine.final (step setup) s (events ++ [event]) =
          ((Machine.final (step setup) s events).step setup event).1 := by
        rw [Machine.final_append]
        rfl
      rw [hlast] at hrun hchanged ⊢
      apply hserved.recalled hresume hrun
      intro hsame
      have hbefore : (Machine.final (step setup) s events).stopping = false := by
        by_contra hstop
        rw [hserved.stopping (by simpa using hstop)] at hrun
        cases hrun
      rcases List.eq_nil_or_concat after with rfl | ⟨after', last, rfl⟩
      · rw [← hlast, hevents, List.append_nil] at hchanged
        exact absurd rfl hchanged
      · rw [List.concat_eq_append, ← List.append_assoc] at hevents
        exact ih hwell' hbefore (List.append_inj' hevents rfl).1 (hsame ▸ hchanged)

/-- What the two state machines agree on after a run. -/
structure LifecycleAgrees (setup : ServiceSetup) (stateFile : Option String)
    (events : List ServiceEvent) (s : Service) : Prop where
  steady : s.Steady
  /-- after a shutdown every session that was opened is finished -/
  ended : ∀ c, .shutdown c ∈ events → s.finished = s.opened
  /-- the next event, whichever it is -/
  served : ∀ event : ServiceEvent, event.ClosesWell → Served setup s event
  /-- once the state has changed it is remembered -/
  remembers : setup.resume = true → s.stopping = false → ∀ before after, events = before ++ after →
    (Machine.final (step setup) (start stateFile) before).lifecycle ≠ s.lifecycle →
      s.recalled setup = some s.lifecycle

/-- **Lifecycle and sessions agree**, whatever happens on the main loop. -/
theorem lifecycleAgrees_run (setup : ServiceSetup) (stateFile : Option String)
    {events : List ServiceEvent} (hwell : ∀ event ∈ events, event.ClosesWell) :
    LifecycleAgrees setup stateFile events
      (Machine.final (step setup) (start stateFile) events) where
  steady := steady_run setup (steady_start stateFile) hwell
  ended c hmem := by
    have hsteady := steady_run setup (steady_start stateFile) hwell
    have hstopping := stopping_run setup (steady_start stateFile) hwell (.inr ⟨c, hmem⟩)
    rw [hsteady.sessions, hsteady.stopped hstopping]
    exact (List.append_nil _).symm
  served _ hevent := served_step setup (steady_run setup (steady_start stateFile) hwell) hevent
  remembers hresume hrun _ _ hevents hchanged :=
    recalled_run setup hresume (steady_start stateFile) hwell hrun hevents hchanged

/-- A camera service that remembers its state. -/
def cameraSetup : ServiceSetup :=
  { recordingEnabled := true, initialState := .inactive, resume := true, generation := "g",
    sessionErrorFatal := false, finite := false, holdOnFinish := false }

def opensWell : Opening := { failure := none, error := none }

def closesWell : Closing := { raises := none, error := none, truncated := false }

/-- Two sessions, of which the first fails to open at first and the second ends on an error. -/
theorem lifecycleAgrees_twoSessions :
    LifecycleAgrees cameraSetup none
      [.boot opensWell closesWell,
        .request (.known .activate) none { opensWell with failure := some .notPlaying } closesWell,
        .request (.known .activate) none opensWell closesWell,
        .request (.known .deactivate) none opensWell closesWell,
        .request (.known .activate) none opensWell closesWell, .sessionError 3 closesWell]
      (Machine.final (step cameraSetup) (start none)
        [.boot opensWell closesWell,
          .request (.known .activate) none { opensWell with failure := some .notPlaying }
            closesWell,
          .request (.known .activate) none opensWell closesWell,
          .request (.known .deactivate) none opensWell closesWell,
          .request (.known .activate) none opensWell closesWell, .sessionError 3 closesWell]) :=
  lifecycleAgrees_run cameraSetup none (by decide)

/-- If the last event of a run changes the state, the new state is remembered. -/
def RemembersLast (setup : ServiceSetup) (events : List ServiceEvent) (event : ServiceEvent) :
    Prop :=
  (Machine.final (step setup) (start none) (events ++ [event])).lifecycle ≠
      (Machine.final (step setup) (start none) events).lifecycle →
    (Machine.final (step setup) (start none) (events ++ [event])).recalled setup =
      some (Machine.final (step setup) (start none) (events ++ [event])).lifecycle

instance (setup : ServiceSetup) (events : List ServiceEvent) (event : ServiceEvent) :
    Decidable (RemembersLast setup events event) :=
  inferInstanceAs (Decidable (_ → _))

/-- `request_stop` closes the session, and the file still says that it is open; a service that
is not set up to remember has no file for a request either. -/
theorem not_remembered :
    (¬ ∀ (setup : ServiceSetup) (events : List ServiceEvent) (event : ServiceEvent),
      setup.resume = true → (∀ e ∈ events ++ [event], e.ClosesWell) →
        RemembersLast setup events event) ∧
    ¬ ∀ (setup : ServiceSetup) (t : Transition) (o : Opening) (c : Closing), c.raises = none →
      RemembersLast setup [] (.request (.known t) none o c) := by
  constructor
  · intro h
    have hstop := h cameraSetup [.request (.known .activate) none opensWell closesWell]
      (.requestStop closesWell) rfl (by decide)
    revert hstop
    decide
  · intro h
    have hrequest := h { cameraSetup with resume := false } .activate opensWell closesWell rfl
    revert hrequest
    decide

end Service

end CamDriver
