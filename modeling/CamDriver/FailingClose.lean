import CamDriver.LifecycleAgree

/-!
# CamDriver.FailingClose

A close that raises.  `deactivate` and `request_stop` move the state to `deactivating` and
give the session up before the part that can raise, and nothing moves it on: the service
stays `deactivating`, and refuses every transition.
-/

namespace CamDriver

namespace Service

/-! ## Between events -/

/-- An open session is an `active` service, however its predecessors were closed. -/
def OpenIsActive (s : Service) : Prop := s.session.isSome = true → s.lifecycle = .active

/-- The service is stuck on its way to `inactive`. -/
structure Wedged (s : Service) : Prop where
  lifecycle : s.lifecycle = .deactivating
  session : s.session = none

/-- Remembering a state frees nothing. -/
theorem Wedged.remember {s : Service} (h : s.Wedged) (setup : ServiceSetup)
    (state : LifecycleState) : (s.remember setup state).Wedged := by
  unfold Service.remember
  split <;> exact ⟨h.lifecycle, h.session⟩

theorem Wedged.forget {s : Service} (h : s.Wedged) (setup : ServiceSetup) :
    (s.forget setup).Wedged := by
  unfold Service.forget
  split <;> exact ⟨h.lifecycle, h.session⟩

/-- Neither transition starts or ends where the service is stuck. -/
theorem Wedged.request {s : Service} (h : s.Wedged) (setup : ServiceSetup) (t : Transition)
    (expected : Option ExpectedSettings) (o : Opening) (c : Closing) :
    s.request setup (.known t) expected o c =
      (s, s.result setup false
        (some ("cannot " ++ t.name ++ " from " ++ LifecycleState.deactivating.name)) false) := by
  have htarget : s.lifecycle ≠ t.target := by
    rw [h.lifecycle]
    cases t <;> simp [Transition.target]
  have hsource : s.lifecycle ≠ t.source := by
    rw [h.lifecycle]
    cases t <;> simp [Transition.source]
  unfold Service.request
  simp only
  rw [if_neg htarget, if_pos hsource, h.lifecycle]

theorem Wedged.requestStop {s : Service} (h : s.Wedged) (c : Closing) :
    (s.requestStop c).Wedged := by
  unfold Service.requestStop
  split
  · exact h
  · simp only [h.session]
    exact ⟨h.lifecycle, rfl⟩

theorem Wedged.shutdown {s : Service} (h : s.Wedged) (c : Closing) : (s.shutdown c).Wedged := by
  simp only [Service.shutdown, h.session]
  exact ⟨h.lifecycle, rfl⟩

/-- Nor does a look of the watchdog. -/
theorem Wedged.onWatchdog {s : Service} (h : s.Wedged) (setup : ServiceSetup)
    (source : SourceState) (c : Closing) : (s.onWatchdog setup source c).Wedged := by
  have hfatal : ({ s with fatal := true, watching := false } : Service).Wedged :=
    ⟨h.lifecycle, h.session⟩
  have hunwatched : ({ s with watching := false } : Service).Wedged := ⟨h.lifecycle, h.session⟩
  have hheld : ∀ held, ({ s with held := held } : Service).Wedged :=
    fun _ => ⟨h.lifecycle, h.session⟩
  unfold Service.onWatchdog
  split
  · exact h
  · split
    · exact hunwatched
    · split
      · split
        · exact hfatal.requestStop c
        · split
          · exact hunwatched.requestStop c
          · split
            · exact h
            · simp only [h.session, Option.isNone_none, if_true]
              exact ⟨h.lifecycle, rfl⟩
      · exact hheld false

theorem Wedged.boot {s : Service} (h : s.Wedged) (setup : ServiceSetup) (o : Opening)
    (c : Closing) : (s.boot setup o c).Wedged := by
  have hbooted : ({ s with bootReason := some (s.resolveBootState setup).2 } : Service).Wedged :=
    ⟨h.lifecycle, h.session⟩
  have hfatal : ({ s with
      bootReason := some (s.resolveBootState setup).2, fatal := true } : Service).Wedged :=
    ⟨h.lifecycle, h.session⟩
  unfold Service.boot
  simp only
  split
  · rw [hbooted.request]
    exact hfatal.shutdown c
  · exact hbooted

/-- **Stuck**: no event moves the service on. -/
theorem wedged_step (setup : ServiceSetup) {s : Service} (h : s.Wedged) (event : ServiceEvent) :
    (s.step setup event).1.Wedged := by
  cases hdown : s.down with
  | true =>
      rw [step_of_down hdown]
      exact h
  | false =>
      rw [step_of_up hdown]
      cases event with
      | boot o c =>
          simp only [handle]
          split
          · exact h
          · exact h.boot setup o c
      | request requested expected o c =>
          cases requested with
          | unknown repr => exact h
          | known t =>
              simp only [handle, h.request]
              exact h
      | configureRecording answer =>
          have hlocked : s.lifecycle ≠ .inactive := by simp [h.lifecycle]
          simp only [handle, configureRecording]
          rw [if_pos (.inl hlocked)]
          exact h
      | sessionError index c =>
          simp only [handle, onSessionError, h.session]
          exact h
      | fragment index => exact h
      | progressTick =>
          simp only [handle, onProgressTick]
          split <;> exact ⟨h.lifecycle, h.session⟩
      | watchdog source c => exact h.onWatchdog setup source c
      | requestStop c => exact h.requestStop c
      | signalStop c => exact (h.forget setup).requestStop c
      | shutdown c => exact h.shutdown c

/-- A wedged service stays wedged, in every run. -/
theorem wedged_run (setup : ServiceSetup) {s : Service} (h : s.Wedged)
    (events : List ServiceEvent) : (Machine.final (step setup) s events).Wedged := by
  induction events generalizing s with
  | nil => exact h
  | cons event events ih => exact ih (wedged_step setup h event)

/-! ## An open session is an active service -/

/-- Without a session there is nothing to say. -/
theorem openIsActive_of_closed {s : Service} (h : s.session = none) : s.OpenIsActive := by
  intro hopen
  simp [h] at hopen

/-- What it says of a session. -/
theorem OpenIsActive.active {s : Service} (h : s.OpenIsActive) {sess : OpenedSession}
    (hs : s.session = some sess) : s.lifecycle = .active :=
  h (by rw [hs]; rfl)

/-- The file is no part of it. -/
theorem OpenIsActive.remember {s : Service} (h : s.OpenIsActive) (setup : ServiceSetup)
    (state : LifecycleState) : (s.remember setup state).OpenIsActive := by
  unfold Service.remember
  split <;> exact h

/-- Nor is it when it is removed. -/
theorem OpenIsActive.forget {s : Service} (h : s.OpenIsActive) (setup : ServiceSetup) :
    (s.forget setup).OpenIsActive := by
  unfold Service.forget
  split <;> exact h

/-- The end of a request changes neither session nor state. -/
theorem OpenIsActive.conclude {s : Service} (h : s.OpenIsActive) (setup : ServiceSetup)
    (t : Transition) (r : TransitionResult) : (s.conclude setup t r).1.OpenIsActive := by
  unfold Service.conclude
  simp only
  split
  · apply OpenIsActive.remember
    exact h
  · exact h

/-- Closing does not touch what the service says of itself. -/
theorem closeSession_kept (s : Service) (sess : OpenedSession) (c : Closing) :
    (s.closeSession sess c).1.lifecycle = s.lifecycle ∧
      (s.closeSession sess c).1.session = s.session := by
  obtain ⟨_, _, _, hframe⟩ := s.closeSession_frame sess c
  rw [hframe]
  exact ⟨rfl, rfl⟩

/-- Whether closing raises or not, the session is given up. -/
theorem session_deactivate (s : Service) (c : Closing) : (s.deactivate c).1.session = none := by
  rcases s.deactivate_frame c with ⟨hnone, hsame⟩ | ⟨_, _, _, _, -, hframe⟩
  · rw [hsame, hnone]
  · rw [hframe]

theorem OpenIsActive.requestStop {s : Service} (h : s.OpenIsActive) (c : Closing) :
    (s.requestStop c).OpenIsActive := by
  rcases s.requestStop_frame c with ⟨-, hsame⟩ | ⟨_, _, _, _, -, hframe⟩
  · rw [hsame]
    exact h
  · rw [hframe]
    exact openIsActive_of_closed rfl

/-- The shutdown leaves no session, whatever raises. -/
theorem session_shutdown (s : Service) (c : Closing) : (s.shutdown c).session = none := by
  obtain ⟨_, _, _, _, hframe⟩ := s.shutdown_frame c
  rw [hframe]

/-- A session is set only together with the state. -/
theorem OpenIsActive.activate {s : Service} (h : s.OpenIsActive) (setup : ServiceSetup)
    (o : Opening) : (s.activate setup o).1.OpenIsActive := by
  unfold Service.activate
  split
  · exact h
  · split
    · exact h
    · split
      · exact h
      · next hclosed =>
          simp only
          split
          · next s' error hfailed =>
              obtain rfl := startSession_failed hfailed
              exact openIsActive_of_closed (by simpa using hclosed)
          · exact fun _ => rfl

/-- A request is an `activate` or a `deactivate`, or neither. -/
theorem OpenIsActive.request {s : Service} (h : s.OpenIsActive) (setup : ServiceSetup)
    (requested : Requested) (expected : Option ExpectedSettings) (o : Opening) (c : Closing) :
    (s.request setup requested expected o c).1.OpenIsActive := by
  cases requested with
  | unknown repr => exact h
  | known t =>
      unfold Service.request
      simp only
      split
      · exact h
      · split
        · exact h
        · cases t with
          | activate =>
              simp only
              split
              · exact h
              · split
                · exact h
                · exact (h.activate setup o).conclude setup .activate _
          | deactivate =>
              have hclosed := session_deactivate s c
              simp only
              split
              · next s' error hraised =>
                  rw [hraised] at hclosed
                  exact (openIsActive_of_closed hclosed).conclude setup .deactivate _
              · next s' r hok =>
                  rw [hok] at hclosed
                  exact (openIsActive_of_closed hclosed).conclude setup .deactivate _

/-- A session that ends by itself takes the state along. -/
theorem OpenIsActive.onSessionError {s : Service} (h : s.OpenIsActive) (setup : ServiceSetup)
    (index : Nat) (c : Closing) : (s.onSessionError setup index c).OpenIsActive := by
  have hclosed := session_deactivate s c
  unfold Service.onSessionError
  split
  · exact h
  · split
    · next s' error hraised =>
        rw [hraised] at hclosed
        exact openIsActive_of_closed hclosed
    · next s' r hok =>
        rw [hok] at hclosed
        have hended : (s'.onUncommandedEnd setup r).OpenIsActive := by
          apply OpenIsActive.remember
          exact openIsActive_of_closed hclosed
        simp only
        split
        · exact hended
        · exact hended

/-- So does the end of a playback. -/
theorem OpenIsActive.onWatchdog {s : Service} (h : s.OpenIsActive) (setup : ServiceSetup)
    (source : SourceState) (c : Closing) : (s.onWatchdog setup source c).OpenIsActive := by
  have hclosed := session_deactivate { s with held := true } c
  unfold Service.onWatchdog
  split
  · exact h
  · split
    · exact h
    · split
      · split
        · apply OpenIsActive.requestStop
          exact h
        · split
          · apply OpenIsActive.requestStop
            exact h
          · split
            · exact h
            · simp only
              split
              · exact h
              · split
                · next s' error hraised =>
                    rw [hraised] at hclosed
                    exact openIsActive_of_closed hclosed
                · next s' r hok =>
                    rw [hok] at hclosed
                    exact (openIsActive_of_closed hclosed).remember setup .inactive
      · exact h

/-- Booting is a request. -/
theorem OpenIsActive.boot {s : Service} (h : s.OpenIsActive) (setup : ServiceSetup) (o : Opening)
    (c : Closing) : (s.boot setup o c).OpenIsActive := by
  have hbooted : ({ s with
      bootReason := some (s.resolveBootState setup).2 } : Service).OpenIsActive := h
  unfold Service.boot
  simp only
  split
  · split
    · exact hbooted.request setup (.known .activate) none o c
    · exact openIsActive_of_closed (session_shutdown _ c)
  · exact hbooted

theorem openIsActive_step (setup : ServiceSetup) {s : Service} (h : s.OpenIsActive)
    (event : ServiceEvent) : (s.step setup event).1.OpenIsActive := by
  cases hdown : s.down with
  | true =>
      rw [step_of_down hdown]
      exact h
  | false =>
      rw [step_of_up hdown]
      cases event with
      | boot o c =>
          simp only [handle]
          split
          · exact h
          · exact h.boot setup o c
      | request requested expected o c => exact h.request setup requested expected o c
      | configureRecording answer =>
          simp only [handle, configureRecording]
          split
          · exact h
          · cases answer <;> exact h
      | sessionError index c => exact h.onSessionError setup index c
      | fragment index => exact h
      | progressTick =>
          simp only [handle, onProgressTick]
          split <;> exact h
      | watchdog source c => exact h.onWatchdog setup source c
      | requestStop c => exact h.requestStop c
      | signalStop c => exact (h.forget setup).requestStop c
      | shutdown c => exact openIsActive_of_closed (session_shutdown s c)

theorem openIsActive_run (setup : ServiceSetup) {s : Service} (h : s.OpenIsActive)
    (events : List ServiceEvent) : (Machine.final (step setup) s events).OpenIsActive := by
  induction events generalizing s with
  | nil => exact h
  | cons event events ih => exact ih (openIsActive_step setup h event)

/-! ## A close that raises -/

/-- Closing fails with what was raised. -/
theorem closeSession_raised (s : Service) (sess : OpenedSession) {c : Closing}
    {raised : ClosePoint × String} (hc : c.raises = some raised) :
    (s.closeSession sess c).2 = .error raised.2 := by
  obtain ⟨point, error⟩ := raised
  unfold closeSession
  rw [hc]
  cases point with
  | beginClose => rfl
  | finishClose tornDown => rfl

/-- The state has moved, and the exception leaves it there. -/
theorem deactivate_raised {s : Service} {sess : OpenedSession} (hs : s.session = some sess)
    {c : Closing} {raised : ClosePoint × String} (hc : c.raises = some raised) :
    (s.deactivate c).1.Wedged ∧ (s.deactivate c).2 = .error raised.2 := by
  have hkept := closeSession_kept
    { s with lifecycle := .deactivating, session := none, progressTimer := false } sess c
  have hraised := closeSession_raised
    { s with lifecycle := .deactivating, session := none, progressTimer := false } sess hc
  unfold deactivate
  rw [hs]
  simp only
  split
  · next s' error hclose =>
      rw [hclose] at hkept hraised
      exact ⟨⟨hkept.1, hkept.2⟩, hraised⟩
  · next s' r hclose =>
      rw [hclose] at hraised
      cases hraised

/-- A stop whose close raises leaves the service wedged. -/
theorem wedged_requestStop {s : Service} {sess : OpenedSession} (hs : s.session = some sess)
    (hrun : s.stopping = false) {c : Closing} {raised : ClosePoint × String}
    (hc : c.raises = some raised) : (s.requestStop c).Wedged := by
  have hkept := closeSession_kept
    { s with stopping := true, session := none, lifecycle := .deactivating } sess c
  have hraised := closeSession_raised
    { s with stopping := true, session := none, lifecycle := .deactivating } sess hc
  unfold requestStop
  rw [if_neg (by simp [hrun])]
  simp only [hs]
  split
  · next s' error hclose =>
      rw [hclose] at hkept
      exact ⟨hkept.1, hkept.2⟩
  · next s' r hclose =>
      rw [hclose] at hraised
      cases hraised

/-- A refusal remembers nothing. -/
theorem Wedged.conclude {s : Service} (h : s.Wedged) (setup : ServiceSetup) (t : Transition)
    {r : TransitionResult} (hr : r.ok = false) : (s.conclude setup t r).1.Wedged := by
  simp only [Service.conclude, hr]
  exact ⟨h.lifecycle, h.session⟩

section Raising

variable {s : Service} {sess : OpenedSession} {c : Closing} {raised : ClosePoint × String}

/-- A command that raises is refused, with the state it has left behind. -/
theorem request_raised (setup : ServiceSetup) (h : s.OpenIsActive) (hs : s.session = some sess)
    (hc : c.raises = some raised) (requested : Requested) (expected : Option ExpectedSettings)
    (o : Opening) :
    (s.request setup requested expected o c).1.session = s.session ∨
      (s.request setup requested expected o c).1.Wedged ∧
        (s.request setup requested expected o c).2.ok = false := by
  have hactive := h.active hs
  cases requested with
  | unknown repr => exact .inl rfl
  | known t =>
      cases t with
      | activate =>
          unfold request
          simp only
          rw [if_pos (by simp [hactive, Transition.target])]
          exact .inl rfl
      | deactivate =>
          obtain ⟨hwedged, herror⟩ := deactivate_raised hs hc
          have hsource : ¬ s.lifecycle ≠ Transition.deactivate.source := by
            simp [hactive, Transition.source]
          unfold request
          simp only
          rw [if_neg (by simp [hactive, Transition.target]), if_neg hsource]
          right
          split
          · next s' error hraised =>
              rw [hraised] at hwedged
              exact ⟨hwedged.conclude setup .deactivate rfl, rfl⟩
          · next s' r hok =>
              rw [hok] at herror
              cases herror

/-- Where closing raises, the session error leaves the session, or wedges the service. -/
theorem onSessionError_raised (setup : ServiceSetup) (hs : s.session = some sess)
    (hc : c.raises = some raised) (index : Nat) :
    (s.onSessionError setup index c).session = s.session ∨
      (s.onSessionError setup index c).Wedged := by
  obtain ⟨hwedged, herror⟩ := deactivate_raised hs hc
  unfold onSessionError
  split
  · exact .inl rfl
  · right
    split
    · next s' error hraised =>
        rw [hraised] at hwedged
        exact hwedged
    · next s' r hok =>
        rw [hok] at herror
        cases herror

theorem requestStop_raised (hs : s.session = some sess) (hc : c.raises = some raised) :
    (s.requestStop c).session = s.session ∨ (s.requestStop c).Wedged := by
  cases hstopping : s.stopping with
  | true =>
      unfold requestStop
      rw [if_pos hstopping]
      exact .inl rfl
  | false => exact .inr (wedged_requestStop hs hstopping hc)

/-- So does the end of a playback. -/
theorem onWatchdog_raised (setup : ServiceSetup) (hs : s.session = some sess)
    (hc : c.raises = some raised) (source : SourceState) :
    (s.onWatchdog setup source c).session = s.session ∨
      (s.onWatchdog setup source c).Wedged := by
  have hheld : ({ s with held := true } : Service).session = some sess := hs
  obtain ⟨hwedged, herror⟩ := deactivate_raised hheld hc
  unfold onWatchdog
  split
  · exact .inl rfl
  · split
    · exact .inl rfl
    · split
      · split
        · exact requestStop_raised hs hc
        · split
          · exact requestStop_raised hs hc
          · split
            · exact .inl rfl
            · simp only
              split
              · exact .inl rfl
              · right
                split
                · next s' error hraised =>
                    rw [hraised] at hwedged
                    exact ⟨hwedged.lifecycle, hwedged.session⟩
                · next s' r hok =>
                    rw [hok] at herror
                    cases herror
      · exact .inl rfl

/-- Booting on an open session has nothing to do. -/
theorem session_boot (setup : ServiceSetup) (h : s.OpenIsActive) (hs : s.session = some sess)
    (o : Opening) : (s.boot setup o c).session = s.session := by
  have hactive := h.active hs
  unfold boot
  simp only
  split
  · simp only [request, hactive, Transition.target, if_true, result]
  · rfl

end Raising

/-- An event that closes the open session, by a command or not, where closing raises. -/
structure FailsToClose (setup : ServiceSetup) (s : Service) (event : ServiceEvent) : Prop where
  raises : ∃ c ∈ event.closing, c.raises.isSome = true
  wasOpen : s.session.isSome = true
  closed : (s.step setup event).1.session = none
  notShutdown : ∀ c, event ≠ .shutdown c

/-- A close that raises leaves the service stuck, and a command is refused. -/
theorem FailsToClose.wedged {setup : ServiceSetup} {s : Service} {event : ServiceEvent}
    (h : FailsToClose setup s event) (hs : s.OpenIsActive) :
    (s.step setup event).1.Wedged ∧
      ∀ reply, (s.step setup event).2 = some reply → reply.ok = false := by
  obtain ⟨sess, hsess⟩ := Option.isSome_iff_exists.mp h.wasOpen
  obtain ⟨c, hclosing, hraises⟩ := h.raises
  obtain ⟨raised, hc⟩ := Option.isSome_iff_exists.mp hraises
  have hsilent : ∀ reply : LifecycleReply, none = some reply → reply.ok = false :=
    fun reply hnone => absurd hnone.symm (Option.some_ne_none reply)
  have hchanged : (s.step setup event).1.session ≠ s.session := by
    rw [h.closed, hsess]
    exact (Option.some_ne_none sess).symm
  cases hdown : s.down with
  | true =>
      rw [step_of_down hdown] at hchanged
      exact absurd rfl hchanged
  | false =>
      rw [step_of_up hdown] at hchanged ⊢
      cases event with
      | boot o c' =>
          simp only [handle] at hchanged
          split at hchanged
          · exact absurd rfl hchanged
          · exact absurd (session_boot setup hs hsess o) hchanged
      | request requested expected o c' =>
          cases hclosing
          have hhandle : s.handle setup (.request requested expected o c) =
              ((s.request setup requested expected o c).1,
                some (s.request setup requested expected o c).2) := rfl
          rw [hhandle] at hchanged ⊢
          obtain ⟨hwedged, hno⟩ :=
            (request_raised setup hs hsess hc requested expected o).resolve_left hchanged
          constructor
          · exact hwedged
          · intro reply hreply
            have hreply := Option.some.inj hreply
            rw [← hreply]
            exact hno
      | configureRecording answer => cases hclosing
      | sessionError index c' =>
          cases hclosing
          have hwedged := (onSessionError_raised setup hsess hc index).resolve_left hchanged
          exact ⟨hwedged, hsilent⟩
      | fragment index => cases hclosing
      | progressTick => cases hclosing
      | watchdog source c' =>
          cases hclosing
          have hwedged := (onWatchdog_raised setup hsess hc source).resolve_left hchanged
          exact ⟨hwedged, hsilent⟩
      | requestStop c' =>
          cases hclosing
          have hwedged := (requestStop_raised hsess hc).resolve_left hchanged
          exact ⟨hwedged, hsilent⟩
      | signalStop c' =>
          cases hclosing
          have hforgot : (s.forget setup).session = s.session := by
            unfold forget
            split <;> rfl
          have hwedged := (requestStop_raised (hforgot.trans hsess) hc).resolve_left
            fun hsame => hchanged (hsame.trans hforgot)
          exact ⟨hwedged, hsilent⟩
      | shutdown c' => exact absurd rfl (h.notShutdown c')

/-- Of the commands, every `deactivate` of an open session where closing raises. -/
theorem failsToClose_deactivate (setup : ServiceSetup) {s : Service} {sess : OpenedSession}
    (h : s.OpenIsActive) (hs : s.session = some sess) (hup : s.down = false)
    (expected : Option ExpectedSettings) (o : Opening) {c : Closing}
    {raised : ClosePoint × String} (hc : c.raises = some raised) :
    FailsToClose setup s (.request (.known .deactivate) expected o c) where
  raises := ⟨c, rfl, by rw [hc]; rfl⟩
  wasOpen := by rw [hs]; rfl
  closed := by
    have hactive := h.active hs
    have hclosed := session_deactivate s c
    rw [step_of_up hup]
    show (s.request setup (.known .deactivate) expected o c).1.session = none
    unfold request
    simp only
    rw [if_neg (by simp [hactive, Transition.target]),
      if_neg (by simp [hactive, Transition.source])]
    split
    · next s' error hraised =>
        rw [hraised] at hclosed
        exact hclosed
    · next s' r hok =>
        have herror := (deactivate_raised hs hc).2
        rw [hok] at herror
        cases herror
  notShutdown := by
    intro c' heq
    cases heq

/-! ## Every run -/

/-- The service survives a close that raises: a command is refused, and the service rests
where the next one can be accepted. -/
structure Recovers (setup : ServiceSetup) (s : Service) (event : ServiceEvent) : Prop where
  refused : ∀ reply, (s.step setup event).2 = some reply → reply.ok = false
  rests : (s.step setup event).1.lifecycle = .inactive ∨ (s.step setup event).1.lifecycle = .active
  accepts : ∃ t expected o c reply,
    ((s.step setup event).1.step setup (.request (.known t) expected o c)).2 = some reply ∧
      reply.ok = true

/-- It does not: whatever happens then, it is `deactivating` and refuses both transitions. -/
structure StaysStuck (setup : ServiceSetup) (s : Service) (event : ServiceEvent) : Prop where
  refused : ∀ reply, (s.step setup event).2 = some reply → reply.ok = false
  stuck : ∀ later, (Machine.final (step setup) (s.step setup event).1 later).Wedged
  refuses : ∀ later t expected o c reply,
    ((Machine.final (step setup) (s.step setup event).1 later).step setup
        (.request (.known t) expected o c)).2 = some reply →
      reply.ok = false ∧ reply.state = .deactivating ∧
        reply.error = some ("cannot " ++ t.name ++ " from deactivating")

/-- The reply to a request that reaches a stuck service. -/
theorem Wedged.reply {setup : ServiceSetup} {s : Service} (h : s.Wedged) {t : Transition}
    {expected : Option ExpectedSettings} {o : Opening} {c : Closing} {reply : LifecycleReply}
    (hreply : (s.step setup (.request (.known t) expected o c)).2 = some reply) :
    reply.ok = false ∧ reply.state = .deactivating ∧
      reply.error = some ("cannot " ++ t.name ++ " from deactivating") := by
  cases hdown : s.down with
  | true =>
      rw [step_of_down hdown] at hreply
      exact absurd hreply.symm (Option.some_ne_none reply)
  | false =>
      have hrefused := h.request setup t expected o c
      rw [step_of_up hdown] at hreply
      have hreply : (s.request setup (.known t) expected o c).2 = reply := Option.some.inj hreply
      rw [hrefused] at hreply
      rw [← hreply]
      refine ⟨rfl, h.lifecycle, ?_⟩
      cases t <;> rfl

/-- **A close that raises wedges the service**, whichever event closes the session, wherever
closing raises, and after whatever run. -/
theorem staysStuck_run (setup : ServiceSetup) (stateFile : Option String)
    (events : List ServiceEvent) (event : ServiceEvent)
    (h : FailsToClose setup (Machine.final (step setup) (start stateFile) events) event) :
    ¬ Recovers setup (Machine.final (step setup) (start stateFile) events) event ∧
      StaysStuck setup (Machine.final (step setup) (start stateFile) events) event := by
  have hopen := openIsActive_run setup (openIsActive_of_closed (s := start stateFile) rfl) events
  obtain ⟨hwedged, hrefused⟩ := h.wedged hopen
  constructor
  · intro hrecovers
    obtain ⟨t, expected, o, c, reply, hreply, hok⟩ := hrecovers.accepts
    rw [(hwedged.reply hreply).1] at hok
    cases hok
  · exact {
      refused := hrefused
      stuck := wedged_run setup hwedged
      refuses := fun later t expected o c reply => (wedged_run setup hwedged later).reply }

/-- A session whose sidecar is no JSON object any more, as `write_summary` finds. -/
def closesBadly : Closing :=
  { raises := some (.finishClose true, "list indices must be integers or slices, not str"),
    error := none, truncated := false }

/-- The camera records, and is told to stop. -/
theorem staysStuck_sidecar :
    ¬ Recovers cameraSetup
        (Machine.final (step cameraSetup) (start none)
          [.boot opensWell closesWell, .request (.known .activate) none opensWell closesWell])
        (.request (.known .deactivate) none opensWell closesBadly) ∧
      StaysStuck cameraSetup
        (Machine.final (step cameraSetup) (start none)
          [.boot opensWell closesWell, .request (.known .activate) none opensWell closesWell])
        (.request (.known .deactivate) none opensWell closesBadly) :=
  staysStuck_run cameraSetup none
    [.boot opensWell closesWell, .request (.known .activate) none opensWell closesWell]
    (.request (.known .deactivate) none opensWell closesBadly)
    { raises := ⟨closesBadly, rfl, rfl⟩
      wasOpen := by decide
      closed := by decide
      notShutdown := by
        intro c heq
        cases heq }

/-- After the refusal the state is neither `inactive` nor `active`. -/
theorem not_recovers :
    ¬ ∀ (setup : ServiceSetup) (stateFile : Option String) (events : List ServiceEvent)
      (c : Closing), c.raises.isSome = true →
        (Machine.final (step setup) (start stateFile) events).session.isSome = true →
        Recovers setup (Machine.final (step setup) (start stateFile) events)
          (.request (.known .deactivate) none opensWell c) := by
  intro h
  have hrests := (h cameraSetup none
    [.boot opensWell closesWell, .request (.known .activate) none opensWell closesWell]
    closesBadly rfl (by decide)).rests
  revert hrests
  decide

end Service

end CamDriver
