import CamDriver.ControlPlane

/-!
# CamDriver.StatePublished

What a consumer sees of the lifecycle: the descriptor that was published last, and the one
in a reply.

Nothing of the service changes without the change being published, unless closing a session
that nobody asked to close raises, or the service is stopping; `last_notified` says so of
one event and `neverStale_run` of every run.
-/

namespace CamDriver

/-- A session that ends without a command is closed without an exception. -/
def ServiceEvent.EndsWell : ServiceEvent → Prop
  | .sessionError _ c | .watchdog _ c => c.raises = none
  | _ => True

namespace Service

/-! ## What every event carries along -/

/-- A service that is stopping goes on stopping, and a boot is not undone. -/
structure Carries (s s' : Service) : Prop where
  stopping : s.stopping = true → s'.stopping = true
  booted : s.bootReason.isSome = true → s'.bootReason.isSome = true

theorem Carries.refl (s : Service) : Carries s s := ⟨id, id⟩

/-- What holds of two parts holds of both. -/
theorem Carries.trans {s s' s'' : Service} (h : Carries s s') (h' : Carries s' s'') :
    Carries s s'' :=
  ⟨fun hs => h'.stopping (h.stopping hs), fun hs => h'.booted (h.booted hs)⟩

/-- Where the flags are left alone first. -/
theorem Carries.after {s₀ s s' : Service} (h : Carries s₀ s')
    (hstopping : s₀.stopping = s.stopping) (hbooted : s₀.bootReason = s.bootReason) :
    Carries s s' :=
  ⟨fun hs => h.stopping (hstopping.trans hs), fun hs => h.booted (by rwa [hbooted])⟩

/-- Remembering a state carries the descriptor on. -/
theorem carries_remember (setup : ServiceSetup) (s : Service) (state : LifecycleState) :
    Carries s (s.remember setup state) := by
  unfold remember
  split <;> exact ⟨id, id⟩

theorem carries_forget (setup : ServiceSetup) (s : Service) : Carries s (s.forget setup) := by
  unfold forget
  split <;> exact ⟨id, id⟩

theorem carries_deactivate (s : Service) (c : Closing) : Carries s (s.deactivate c).1 := by
  rcases deactivate_frame s c with ⟨-, h⟩ | ⟨_, _, _, _, -, h⟩ <;> rw [h] <;> exact ⟨id, id⟩

theorem carries_requestStop (s : Service) (c : Closing) : Carries s (s.requestStop c) := by
  rcases requestStop_frame s c with ⟨-, h⟩ | ⟨_, _, _, _, -, h⟩ <;> rw [h]
  · exact .refl s
  · exact ⟨fun _ => rfl, id⟩

theorem carries_shutdown (s : Service) (c : Closing) : Carries s (s.shutdown c) := by
  obtain ⟨_, _, _, _, h⟩ := shutdown_frame s c
  rw [h]
  exact ⟨fun _ => rfl, id⟩

/-- A stop is never taken back. -/
theorem stopping_requestStop (s : Service) (c : Closing) : (s.requestStop c).stopping = true := by
  rcases requestStop_frame s c with ⟨hs, h⟩ | ⟨_, _, _, _, -, h⟩ <;> rw [h]
  exact hs

theorem stopping_shutdown (s : Service) (c : Closing) : (s.shutdown c).stopping = true := by
  obtain ⟨_, _, _, _, h⟩ := shutdown_frame s c
  rw [h]

/-- So does a session that is being started. -/
theorem carries_startSession (s : Service) (failure : Option OpenFailure) :
    Carries s (s.startSession failure).1 := by
  rcases failure with _ | (_ | _ | _ | _ | _ | _) <;> exact ⟨id, id⟩

theorem carries_activate (setup : ServiceSetup) (s : Service) (o : Opening) :
    Carries s (s.activate setup o).1 := by
  unfold activate
  split
  · exact .refl s
  · split
    · exact .refl s
    · split
      · exact .refl s
      · have hstarted : Carries s ({ s with
            lifecycle := .activating, sessionSeq := s.sessionSeq + 1 }.startSession o.failure).1 :=
          (carries_startSession _ o.failure).after rfl rfl
        dsimp only
        split
        · next heq =>
            rw [heq] at hstarted
            exact hstarted.trans ⟨id, id⟩
        · next heq =>
            rw [heq] at hstarted
            exact hstarted.trans ⟨id, id⟩

/-- So does the end of a request. -/
theorem carries_conclude (setup : ServiceSetup) (t : Transition) (s : Service)
    (r : TransitionResult) : Carries s (s.conclude setup t r).1 := by
  unfold conclude
  dsimp only
  split
  · exact (carries_remember setup _ _).after rfl rfl
  · exact ⟨id, id⟩

theorem carries_request (setup : ServiceSetup) (s : Service) (requested : Requested)
    (expected : Option ExpectedSettings) (o : Opening) (c : Closing) :
    Carries s (s.request setup requested expected o c).1 := by
  unfold request
  split
  · exact .refl s
  · next t =>
      split
      · exact .refl s
      · split
        · exact .refl s
        · cases t with
          | activate =>
              dsimp only
              split
              · exact .refl s
              · split
                · exact .refl s
                · exact (carries_activate setup s o).trans (carries_conclude setup _ _ _)
          | deactivate =>
              have hclosed := carries_deactivate s c
              dsimp only
              split
              · next heq =>
                  rw [heq] at hclosed
                  exact hclosed.trans (carries_conclude setup _ _ _)
              · next heq =>
                  rw [heq] at hclosed
                  exact hclosed.trans (carries_conclude setup _ _ _)

theorem carries_onSessionError (setup : ServiceSetup) (s : Service) (index : Nat) (c : Closing) :
    Carries s (s.onSessionError setup index c) := by
  have hclosed := carries_deactivate s c
  unfold onSessionError
  split
  · exact .refl s
  · split
    · next heq =>
        rw [heq] at hclosed
        exact hclosed
    · next s' r heq =>
        rw [heq] at hclosed
        have hended : Carries s' (s'.onUncommandedEnd setup r) :=
          (carries_remember setup _ .inactive).after rfl rfl
        dsimp only
        split
        · exact (hclosed.trans hended).trans ⟨id, id⟩
        · exact hclosed.trans hended

/-- So does a look of the watchdog. -/
theorem carries_onWatchdog (setup : ServiceSetup) (s : Service) (source : SourceState)
    (c : Closing) : Carries s (s.onWatchdog setup source c) := by
  have hstop : ∀ fatal, Carries s
      ({ s with fatal := fatal, watching := false }.requestStop c) := fun _ =>
    (carries_requestStop _ c).after rfl rfl
  have hheld : Carries s ({ s with held := true }.deactivate c).1 :=
    (carries_deactivate _ c).after rfl rfl
  unfold onWatchdog
  split
  · exact .refl s
  · split
    · exact ⟨id, id⟩
    · split
      · split
        · exact hstop true
        · split
          · exact hstop s.fatal
          · split
            · exact .refl s
            · dsimp only
              split
              · exact ⟨id, id⟩
              · split
                · next heq =>
                    rw [heq] at hheld
                    exact hheld.trans ⟨id, id⟩
                · next heq =>
                    rw [heq] at hheld
                    exact hheld.trans (carries_remember setup _ _)
      · exact ⟨id, id⟩

theorem carries_boot (setup : ServiceSetup) (s : Service) (o : Opening) (c : Closing) :
    Carries s (s.boot setup o c) := by
  unfold boot
  dsimp only
  have hreason : Carries s { s with bootReason := some (s.resolveBootState setup).2 } :=
    ⟨id, fun _ => rfl⟩
  have hrequest := hreason.trans (carries_request setup _ (.known .activate) none o c)
  split
  · split
    · exact hrequest
    · exact hrequest.trans ((carries_shutdown _ c).after rfl rfl)
  · exact hreason

theorem carries_handle (setup : ServiceSetup) (s : Service) (event : ServiceEvent) :
    Carries s (s.handle setup event).1 := by
  cases event with
  | boot o c =>
      simp only [handle]
      split
      · exact .refl s
      · exact carries_boot setup s o c
  | request requested expected o c => exact carries_request setup s requested expected o c
  | configureRecording answer =>
      simp only [handle, configureRecording]
      split
      · exact .refl s
      · cases answer <;> exact ⟨id, id⟩
  | sessionError index c => exact carries_onSessionError setup s index c
  | fragment index => exact .refl s
  | progressTick =>
      simp only [handle, onProgressTick]
      split <;> exact ⟨id, id⟩
  | watchdog source c => exact carries_onWatchdog setup s source c
  | requestStop c => exact carries_requestStop s c
  | signalStop c => exact (carries_forget setup s).trans (carries_requestStop _ c)
  | shutdown c => exact carries_shutdown s c

/-! ## One event -/

/-- A request that does not get to the pipeline changes nothing. -/
theorem request_of_not_reaches {setup : ServiceSetup} {s : Service} {requested : Requested}
    {expected : Option ExpectedSettings} (h : s.reaches setup requested expected = false)
    (o : Opening) (c : Closing) : (s.request setup requested expected o c).1 = s := by
  unfold request
  cases requested with
  | unknown repr => rfl
  | known t =>
      dsimp only
      split
      · rfl
      · split
        · rfl
        · next hsource =>
            have hsource : s.lifecycle = t.source := by simpa using hsource
            cases t with
            | deactivate => simp [reaches, hsource] at h
            | activate =>
                dsimp only
                split
                · rfl
                · next henabled =>
                    have henabled : setup.recordingEnabled = true := by simpa using henabled
                    simp only [reaches, hsource, henabled, decide_true, Bool.true_and] at h
                    cases hexpected : expected.elim (.ok ()) (s.checkRecordingSettings setup) with
                    | error error => rfl
                    | ok _ =>
                        rw [hexpected] at h
                        simp [Except.isOk, Except.toBool] at h

/-- Without an exception, a session that is open is closed. -/
theorem deactivate_of_closes (s : Service) {sess : OpenedSession} (hs : s.session = some sess)
    {c : Closing} (hc : c.raises = none) : ∃ s' r, s.deactivate c = (s', .ok r) := by
  obtain ⟨s', r, hclose, -⟩ := deactivate_ok hs hc
  exact ⟨s', r, hclose⟩

/-- A watchdog that ends a playback deactivates, and that is published. -/
theorem onWatchdog_of_endsSession {setup : ServiceSetup} {s : Service} {source : SourceState}
    (h : s.endsSession setup source = true) {c : Closing} (hc : c.raises = none) :
    ∃ s' r, { s with held := true }.deactivate c = (s', .ok r) ∧
      s.onWatchdog setup source c = s'.remember setup .inactive := by
  simp only [endsSession, Bool.and_eq_true, Bool.not_eq_true'] at h
  obtain ⟨⟨⟨⟨⟨⟨hwatching, hstopping⟩, hends⟩, herror⟩, hhold⟩, hfirst⟩, hopen⟩ := h
  obtain ⟨sess, hsession⟩ := Option.isSome_iff_exists.1 hopen
  obtain ⟨s', r, hclose⟩ := deactivate_of_closes { s with held := true } hsession hc
  refine ⟨s', r, hclose, ?_⟩
  unfold onWatchdog
  rw [if_neg (by simp [hwatching]), if_neg (by simp [hstopping]), if_pos hends,
    if_neg (by simp [herror]), if_neg (by simp [hhold]), if_neg (by simp [hfirst])]
  simp only [hsession, Option.isNone_some, Bool.false_eq_true, if_false]
  rw [hsession] at hclose
  rw [hclose]

/-- Otherwise it stops the service, or the descriptor is as before. -/
theorem onWatchdog_of_not_endsSession {setup : ServiceSetup} {s : Service} {source : SourceState}
    (h : s.endsSession setup source = false) (c : Closing) :
    (s.onWatchdog setup source c).stopping = true ∨
      (s.onWatchdog setup source c).descriptor setup = s.descriptor setup := by
  unfold onWatchdog
  split
  · exact .inr rfl
  · next hwatching =>
      split
      · exact .inr rfl
      · next hstopping =>
          split
          · next hends =>
              split
              · exact .inl (stopping_requestStop _ c)
              · next herror =>
                  split
                  · exact .inl (stopping_requestStop _ c)
                  · next hhold =>
                      split
                      · exact .inr rfl
                      · next hfirst =>
                          dsimp only
                          split
                          · exact .inr rfl
                          · next hopen => simp_all [endsSession]
          · exact .inr rfl

/-- **One event**: the descriptor published last, or the one before where nothing is
published, is the one there is now. -/
theorem last_notified (setup : ServiceSetup) {s : Service} {event : ServiceEvent}
    (hwell : event.EndsWell) (hbooted : s.bootReason.isSome = true)
    (hrun : (s.handle setup event).1.stopping = false) :
    (s.notified setup event).getLast?.getD (s.descriptor setup) =
      (s.handle setup event).1.descriptor setup := by
  cases event with
  | boot o c => simp [notified, handle, hbooted]
  | request requested expected o c =>
      simp only [notified, handle, Prod.map_fst, id_eq]
      split
      · rfl
      · next hno =>
          rw [request_of_not_reaches (by simpa using hno) o c]
          rfl
  | configureRecording answer =>
      simp only [notified, handle, Prod.map_fst, id_eq, configureRecording]
      split
      · simp [result]
      · cases answer <;> simp [result]
  | sessionError index c =>
      simp only [notified, handle, onSessionError]
      split
      · rfl
      · next hopen =>
          cases hsession : s.session with
          | none => simp [hsession] at hopen
          | some sess =>
              obtain ⟨s', r, hclose⟩ := deactivate_of_closes s hsession hwell
              simp only [hclose]
              split <;> rfl
  | fragment index =>
      simp only [notified, handle]
      split <;> rfl
  | progressTick =>
      simp only [notified, handle, onProgressTick]
      split <;> rfl
  | watchdog source c =>
      simp only [notified, handle] at hrun ⊢
      split
      · next hends =>
          obtain ⟨s', r, hclose, hwatched⟩ := onWatchdog_of_endsSession hends hwell
          rw [hwatched, hclose]
          rfl
      · next hends =>
          rcases onWatchdog_of_not_endsSession (by simpa using hends) c with hstops | hsame
          · simp [hstops] at hrun
          · exact hsame.symm
  | requestStop c => simp [handle, stopping_requestStop] at hrun
  | signalStop c => simp [handle, stopping_requestStop] at hrun
  | shutdown c => simp [handle, stopping_shutdown] at hrun

end Service

namespace ControlLoop

/-! ## Every run -/

/-- What was published last. -/
def lastState (log : List Message) : Option Descriptor := (log.filterMap Message.state?).getLast?

/-- A session that ends without a command is closed without an exception, in what the loop
does for an event. -/
def EndsWell : ControlEvent → Prop
  | .service event => event.EndsWell
  | _ => True

/-- What was published last, where there is a publisher, and what is in the replies. -/
structure NeverStale (setup : ServiceSetup) (c : ControlLoop) : Prop where
  booted : c.announced = true → c.service.bootReason.isSome = true
  silent : c.announced = false → lastState c.log = none
  /-- the descriptor published last is the one there is -/
  fresh : c.announced = true → c.service.stopping = false →
    lastState c.log = some (c.service.descriptor setup)
  /-- a reply carries the descriptor published last before it -/
  agreed : c.service.stopping = false → ∀ sent later id key turn r,
    c.log = sent ++ .reply id key turn (.lifecycle r) :: later →
      ∀ shown, lastState sent = some shown → r.descriptor = shown

variable {d : ControlDeployment} {c : ControlLoop}

/-- The descriptor published last, behind some more. -/
theorem lastState_states (log : List Message) (ds : List Descriptor) :
    lastState (log ++ ds.map .state) = ds.getLast?.or (lastState log) := by
  rw [lastState, List.filterMap_append, filterMap_state?_state, List.getLast?_append]
  rfl

/-- A reply publishes none. -/
theorem lastState_reply (log : List Message) (id : Nat) (key : String) (turn : Bool)
    (body : AnswerBody) : lastState (log ++ [.reply id key turn body]) = lastState log := by
  simp [lastState, List.filterMap_append, List.filterMap_cons, Message.state?]

/-- The service goes on and descriptors are published, the last of them the one there is
then. -/
theorem NeverStale.published {setup : ServiceSetup} (h : NeverStale setup c) {c' : ControlLoop}
    (ds : List Descriptor) (hcarries : c.service.Carries c'.service)
    (hannounced : c'.announced = c.announced)
    (hlog : c'.log = c.log ++ (c.published ds).map .state)
    (hlast : c.announced = true → c'.service.stopping = false →
      ds.getLast?.getD (c.service.descriptor setup) = c'.service.descriptor setup) :
    NeverStale setup c' := by
  have hbefore : c'.service.stopping = false → c.service.stopping = false := by
    intro hrun
    by_contra hstopping
    simp [hcarries.stopping (by simpa using hstopping)] at hrun
  have hstate : lastState c'.log = (c.published ds).getLast?.or (lastState c.log) := by
    rw [hlog, lastState_states]
  constructor
  · intro hann
    exact hcarries.booted (h.booted (hannounced ▸ hann))
  · intro hann
    rw [hannounced] at hann
    rw [hstate, h.silent hann]
    simp [ControlLoop.published, hann]
  · intro hann hrun
    rw [hannounced] at hann
    rw [hstate, h.fresh hann (hbefore hrun), ← hlast hann hrun]
    simp only [ControlLoop.published, hann, if_true]
    cases ds.getLast? <;> rfl
  · intro hrun sent later id key turn r heq shown hshown
    rw [hlog] at heq
    rcases Machine.split_append heq with ⟨later', heq⟩ | ⟨sent', -, hstates⟩
    · exact h.agreed (hbefore hrun) sent later' id key turn r heq shown hshown
    · have hmem : Message.reply id key turn (.lifecycle r) ∈
          (c.published ds).map Message.state := by
        rw [hstates]
        simp
      simp at hmem

/-- An event of the lifecycle, with what it publishes. -/
theorem NeverStale.serve (h : NeverStale d.service c) (event : ServiceEvent)
    (hwell : event.EndsWell) : NeverStale d.service (c.serve d event) := by
  rw [ControlLoop.serve, publish_eq]
  exact h.published _ (Service.carries_handle d.service c.service event) rfl rfl
    fun hannounced hrun => Service.last_notified d.service hwell (h.booted hannounced) hrun

/-- A reply with the descriptor there is. -/
theorem NeverStale.reply (h : NeverStale d.service c) (id : Nat) (q : Marshalled) (turn : Bool)
    {body : AnswerBody}
    (hbody : ∀ r, body = .lifecycle r → r.descriptor = c.service.descriptor d.service) :
    NeverStale d.service (c.reply d.control id q turn body) := by
  constructor
  · exact h.booted
  · intro hannounced
    exact (lastState_reply _ _ _ _ _).trans (h.silent hannounced)
  · intro hannounced hrun
    exact (lastState_reply _ _ _ _ _).trans (h.fresh hannounced hrun)
  · intro hrun sent later id' key turn' r hlog shown hshown
    have hrun : c.service.stopping = false := hrun
    rcases Machine.split_concat hlog with ⟨later', hlog⟩ | ⟨hsent, hone⟩
    · exact h.agreed hrun sent later' id' key turn' r hlog shown hshown
    · rw [hbody r (Message.reply.inj hone).2.2.2.symm]
      cases hannounced : c.announced with
      | false =>
          rw [hsent, h.silent hannounced] at hshown
          cases hshown
      | true =>
          rw [hsent, h.fresh hannounced hrun] at hshown
          exact Option.some.inj hshown

/-- Every reply is made from the service as it is then. -/
theorem descriptor_request (setup : ServiceSetup) (s : Service) (requested : Requested)
    (expected : Option ExpectedSettings) (o : Opening) (cl : Closing) :
    (s.request setup requested expected o cl).2.descriptor =
      (s.request setup requested expected o cl).1.descriptor setup := by
  unfold Service.request
  cases requested with
  | unknown repr => rfl
  | known t =>
      dsimp only
      split
      · rfl
      · split
        · rfl
        · cases t with
          | activate =>
              dsimp only
              split
              · rfl
              · split <;> rfl
          | deactivate =>
              dsimp only
              split <;> rfl

/-- A reply tells the state behind the change. -/
theorem descriptor_configureRecording (setup : ServiceSetup) (s : Service) (answer : Configured) :
    (s.configureRecording setup answer).2.descriptor =
      (s.configureRecording setup answer).1.descriptor setup := by
  unfold Service.configureRecording
  split
  · rfl
  · cases answer <;> rfl

/-- A query that is handled, with its reply. -/
theorem NeverStale.handle (h : NeverStale d.service c) (env : TurnEnv) (id : Nat)
    (q : Marshalled) : NeverStale d.service (c.handle d env id q) := by
  cases q with
  | change q =>
      simp only [ControlLoop.handle, handleChange]
      split
      · refine h.reply id (.change q) true ?_
        rintro r ⟨⟩
        rfl
      · refine (h.serve (.request _ _ _ _) trivial).reply id (.change q) true ?_
        rintro r ⟨⟩
        rw [ControlLoop.serve, publish_eq]
        exact descriptor_request d.service c.service _ _ _ _
  | recording q =>
      have hrefused : ∀ error, NeverStale d.service (c.reply d.control id (.recording q) true
          (.lifecycle (c.service.result d.service false (some error) false))) := by
        intro error
        refine h.reply id (.recording q) true ?_
        rintro r ⟨⟩
        rfl
      simp only [ControlLoop.handle, handleRecording]
      split
      · exact hrefused _
      · split
        · exact hrefused _
        · refine (h.serve (.configureRecording _) trivial).reply id (.recording q) true ?_
          rintro r ⟨⟩
          rw [ControlLoop.serve, publish_eq]
          exact descriptor_configureRecording d.service c.service _
  | playback q =>
      simp only [ControlLoop.handle, handlePlayback]
      have hmoved : ∀ playback, NeverStale d.service { c with playback := playback } := fun _ =>
        h.published [] (.refl _) rfl (by simp [ControlLoop.published]) fun _ _ => rfl
      split
      · exact h.reply id (.playback q) true fun r hr => by cases hr
      · refine (hmoved _).reply id (.playback q) true fun r hr => ?_
        split at hr <;> cases hr

theorem NeverStale.step (h : NeverStale d.service c) {event : ControlEvent}
    (hwell : EndsWell event) : NeverStale d.service (c.step d event) := by
  have hsame : ∀ {c' : ControlLoop}, c'.service = c.service → c'.announced = c.announced →
      c'.log = c.log → NeverStale d.service c' := by
    intro c' hservice hannounced hlog
    refine h.published [] (hservice ▸ .refl _) hannounced ?_ fun _ _ => ?_
    · simpa [ControlLoop.published] using hlog
    · rw [hservice]
      rfl
  cases event with
  | ask q fails =>
      have hasked : NeverStale d.service { c with asked := c.asked ++ [q] } := hsame rfl rfl rfl
      simp only [ControlLoop.step, ControlLoop.ask]
      cases fails with
      | none => exact hsame rfl rfl rfl
      | some e =>
          refine hasked.reply c.asked.length q false fun r hr => ?_
          cases hr
  | turn env =>
      simp only [ControlLoop.step]
      split
      · exact h
      · unfold ControlLoop.turn
        split
        · exact h
        · next id q queue _ =>
            have htaken : NeverStale d.service { c with queue := queue } := hsame rfl rfl rfl
            exact htaken.handle env id q
  | service event =>
      simp only [ControlLoop.step]
      split
      · exact h
      · exact h.serve _ hwell
  | playback event => exact hsame rfl rfl rfl
  | announce =>
      simp only [ControlLoop.step]
      split
      · exact h
      · next hfirst =>
          have hbooted : c.service.bootReason.isSome = true := by
            cases hreason : c.service.bootReason <;> simp [hreason] at hfirst ⊢
          have hsilent : c.announced = false := by simpa using fun hann => hfirst (.inr hann)
          have hstate : lastState (c.log ++ [Message.state (c.service.descriptor d.service)]) =
              some (c.service.descriptor d.service) := by
            have happend := lastState_states c.log [c.service.descriptor d.service]
            simpa using happend
          have hpublish : ({ c with announced := true } : ControlLoop).publish
              [c.service.descriptor d.service] = { c with
                announced := true
                log := c.log ++ [.state (c.service.descriptor d.service)] } := by
            simp [publish]
          rw [hpublish]
          refine ⟨fun _ => hbooted, fun hann => (by cases hann), fun _ _ => hstate, ?_⟩
          intro hrun sent later id key turn r hlog shown hshown
          rcases Machine.split_concat hlog with ⟨later', hlog⟩ | ⟨-, hone⟩
          · exact h.agreed hrun sent later' id key turn r hlog shown hshown
          · cases hone

/-- A camera with a control plane. -/
def cameraControl : ControlDeployment :=
  { control :=
      { keyBase := "fleet/v/svc/cam/lifecycle", configures := true, playback := false,
        playbackKey := "", health := false, healthKey := "", enabled := true }
    service := Service.cameraSetup
    builtins := plainBuiltins }

def activateQuery : Marshalled :=
  .change { payload := none, parameters := "transition=activate" }

def quietTurn : TurnEnv :=
  { opening := Service.opensWell, closing := Service.closesWell, configured := .noop,
    request := quietEnv, restart := brokenReader, exception := "" }

/-- A recording is started by a query, and its session then ends by itself. -/
def startedThenEnded (c : Closing) : List ControlEvent :=
  [.service (.boot Service.opensWell Service.closesWell), .announce, .ask activateQuery none,
   .turn quietTurn, .service (.sessionError 1 c)]

end ControlLoop

end CamDriver
