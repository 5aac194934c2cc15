import CamDriver.LifecycleAgree

/-!
# CamDriver.HoldFinish

A playback that holds at its end: the watchdog finalizes the open session when it finds the
source finished, once for each end.

The latch `_held` that counts the ends is cleared by a tick that finds the source running.
Between two ticks a playback can be started over, a session opened and the end reached again;
the tick that follows takes it for the end it has seen.
-/

namespace CamDriver

namespace Service

/-! ## What leaves the watchdog alone -/

/-- The watchdog's own part of the state. -/
def watchdogPart (s : Service) : Bool × Bool := (s.held, s.watching)

/-- A session that starts leaves the watchdog's part alone. -/
theorem watchdogPart_startSession (s : Service) (failure : Option OpenFailure) :
    (s.startSession failure).1.watchdogPart = s.watchdogPart := by
  cases failure with
  | none => rfl
  | some failure => cases failure <;> rfl

theorem watchdogPart_activate (setup : ServiceSetup) (s : Service) (o : Opening) :
    (s.activate setup o).1.watchdogPart = s.watchdogPart := by
  simp only [activate]
  split
  · rfl
  · split
    · rfl
    · split
      · rfl
      · have hstart := watchdogPart_startSession
          { s with lifecycle := .activating, sessionSeq := s.sessionSeq + 1 } o.failure
        split
        · next heq => exact (congrArg (fun r => r.1.watchdogPart) heq).symm.trans hstart
        · next heq => exact (congrArg (fun r => r.1.watchdogPart) heq).symm.trans hstart

theorem watchdogPart_deactivate (s : Service) (c : Closing) :
    (s.deactivate c).1.watchdogPart = s.watchdogPart := by
  rcases s.deactivate_frame c with ⟨-, hsame⟩ | ⟨_, _, _, _, -, hframe⟩
  · rw [hsame]
  · rw [hframe]
    rfl

theorem watchdogPart_requestStop (s : Service) (c : Closing) :
    (s.requestStop c).watchdogPart = s.watchdogPart := by
  rcases s.requestStop_frame c with ⟨-, hsame⟩ | ⟨_, _, _, _, -, hframe⟩
  · rw [hsame]
  · rw [hframe]
    rfl

theorem watchdogPart_shutdown (s : Service) (c : Closing) :
    (s.shutdown c).watchdogPart = s.watchdogPart := by
  obtain ⟨_, _, _, _, hframe⟩ := s.shutdown_frame c
  rw [hframe]
  rfl

theorem watchdogPart_remember (setup : ServiceSetup) (s : Service) (state : LifecycleState) :
    (s.remember setup state).watchdogPart = s.watchdogPart := by
  unfold remember
  split <;> rfl

theorem watchdogPart_forget (setup : ServiceSetup) (s : Service) :
    (s.forget setup).watchdogPart = s.watchdogPart := by
  unfold forget
  split <;> rfl

/-- So does the end of a request. -/
theorem watchdogPart_conclude (setup : ServiceSetup) (t : Transition) (s : Service)
    (r : TransitionResult) : (s.conclude setup t r).1.watchdogPart = s.watchdogPart := by
  simp only [conclude]
  split
  · exact watchdogPart_remember setup _ _
  · rfl

theorem watchdogPart_request (setup : ServiceSetup) (s : Service) (requested : Requested)
    (expected : Option ExpectedSettings) (o : Opening) (c : Closing) :
    (s.request setup requested expected o c).1.watchdogPart = s.watchdogPart := by
  unfold request
  split
  · rfl
  · next t =>
      split
      · rfl
      · split
        · rfl
        · cases t with
          | activate =>
              dsimp only
              split
              · rfl
              · split
                · rfl
                · rw [watchdogPart_conclude, watchdogPart_activate]
          | deactivate =>
              have hclose := watchdogPart_deactivate s c
              dsimp only
              split
              · next heq =>
                  rw [heq] at hclose
                  rw [watchdogPart_conclude, hclose]
              · next heq =>
                  rw [heq] at hclose
                  rw [watchdogPart_conclude, hclose]

theorem watchdogPart_onSessionError (setup : ServiceSetup) (s : Service) (index : Nat)
    (c : Closing) : (s.onSessionError setup index c).watchdogPart = s.watchdogPart := by
  unfold onSessionError
  split
  · rfl
  · have hclose := watchdogPart_deactivate s c
    split
    · next heq =>
        rw [heq] at hclose
        exact hclose
    · next s' r heq =>
        rw [heq] at hclose
        have hended : (s'.onUncommandedEnd setup r).watchdogPart = s.watchdogPart :=
          (watchdogPart_remember setup _ _).trans hclose
        dsimp only
        split <;> exact hended

theorem watchdogPart_boot (setup : ServiceSetup) (s : Service) (o : Opening) (c : Closing) :
    (s.boot setup o c).watchdogPart = s.watchdogPart := by
  simp only [boot]
  split
  · have hrequest := watchdogPart_request setup
      { s with bootReason := some (s.resolveBootState setup).2 } (.known .activate) none o c
    split
    · exact hrequest
    · exact (watchdogPart_shutdown _ c).trans hrequest
  · rfl

/-- Everything but a tick leaves the watchdog's part as it is. -/
theorem watchdogPart_step (setup : ServiceSetup) (s : Service) {event : ServiceEvent}
    (hevent : ∀ source c, event ≠ .watchdog source c) :
    (s.step setup event).1.watchdogPart = s.watchdogPart := by
  unfold step
  split
  · rfl
  · cases event with
    | boot o c =>
        simp only [handle]
        split
        · rfl
        · exact watchdogPart_boot setup s o c
    | request requested expected o c => exact watchdogPart_request setup s requested expected o c
    | configureRecording answer =>
        simp only [handle, configureRecording]
        split
        · rfl
        · cases answer <;> rfl
    | sessionError index c => exact watchdogPart_onSessionError setup s index c
    | fragment index => rfl
    | progressTick =>
        simp only [handle, onProgressTick]
        split <;> rfl
    | watchdog source c => exact absurd rfl (hevent source c)
    | requestStop c => exact watchdogPart_requestStop s c
    | signalStop c =>
        exact (watchdogPart_requestStop _ c).trans (watchdogPart_forget setup s)
    | shutdown c => exact watchdogPart_shutdown s c

/-! ## One tick -/

/-- The watchdog gets to look at the source. -/
def Looks (s : Service) : Prop := s.down = false ∧ s.watching = true ∧ s.stopping = false

instance (s : Service) : Decidable s.Looks := inferInstanceAs (Decidable (_ ∧ _ ∧ _))

/-- The session for which a tick that finds the source finished runs the hook. -/
def finalizes (s : Service) (c : Closing) : Option OpenedSession :=
  if s.held = false ∧ c.raises = none then s.session else none

/-- A deployment of a playback that holds at its end. -/
def holding (setup : ServiceSetup) : ServiceSetup :=
  { setup with finite := true, holdOnFinish := true }

/-- **A tick that finds the playback finished** finalizes the open session, the first time. -/
theorem finished_tick (setup : ServiceSetup) {s : Service} (h : s.Looks) (c : Closing) :
    (s.step (holding setup) (.watchdog ⟨true, false⟩ c)).1.finished =
      s.finished ++ (s.finalizes c).toList := by
  obtain ⟨hdown, hwatching, hstopping⟩ := h
  simp only [step, hdown, handle, onWatchdog, hwatching, hstopping, holding, finalizes,
    not_true_eq_false, if_false, Bool.false_eq_true, and_self, if_true]
  cases hheld : s.held with
  | true => simp
  | false =>
      cases hsession : s.session with
      | none => simp
      | some sess =>
          cases hraises : c.raises with
          | none =>
              simp only [deactivate, closeSession, hraises, Option.isNone_some,
                Bool.false_eq_true, if_false, and_self, if_true, Option.toList_some, remember]
              split <;> rfl
          | some raised =>
              obtain ⟨point, error⟩ := raised
              cases point with
              | beginClose => simp [deactivate, closeSession, hraises]
              | finishClose tornDown =>
                  cases tornDown <;> simp [deactivate, closeSession, hraises, tearDown]

/-- Where the watchdog does not look, nothing happens, or it ends. -/
theorem tick_aside (setup : ServiceSetup) {s : Service} (h : ¬ s.Looks) (source : SourceState)
    (c : Closing) : (s.step setup (.watchdog source c)).1 = s ∨
      (s.step setup (.watchdog source c)).1.watching = false := by
  unfold step
  split
  · exact .inl rfl
  · next hdown =>
      simp only [handle, onWatchdog]
      split
      · exact .inl rfl
      · next hwatching =>
          have hstopping : s.stopping = true := by
            by_contra hstopping
            exact h ⟨by simpa using hdown, by simpa using hwatching, by simpa using hstopping⟩
          rw [if_pos hstopping]
          exact .inr rfl

/-- What a tick makes of the latch, where the watchdog goes on. -/
theorem held_tick (setup : ServiceSetup) {s : Service} (h : s.Looks) (source : SourceState)
    (c : Closing)
    (hgoes : (s.step (holding setup) (.watchdog source c)).1.watching = true) :
    (s.step (holding setup) (.watchdog source c)).1.held = source.finished := by
  obtain ⟨hdown, hwatching, hstopping⟩ := h
  simp only [step, hdown, handle, onWatchdog, hwatching, hstopping, holding,
    not_true_eq_false, if_false, Bool.false_eq_true, true_and] at hgoes ⊢
  cases hfinished : source.finished with
  | false => simp
  | true =>
      simp only [hfinished, if_true] at hgoes ⊢
      cases herror : source.finishedError with
      | true =>
          simp only [herror, if_true] at hgoes
          have hstop (t : Service) : (t.requestStop c).watching = t.watching :=
            congrArg Prod.snd (watchdogPart_requestStop t c)
          rw [hstop] at hgoes
          cases hgoes
      | false =>
          simp only [herror, Bool.false_eq_true, if_false] at hgoes ⊢
          cases hheld : s.held with
          | true => simp [hheld]
          | false =>
              simp only [hheld, Bool.false_eq_true, if_false] at hgoes ⊢
              split
              · rfl
              · next hopen =>
                  rw [if_neg hopen] at hgoes
                  split
                  · next heq =>
                      rw [heq] at hgoes
                      cases hgoes
                  · next heq =>
                      have hclose := congrArg (fun r => r.1.watchdogPart) heq
                      rw [watchdogPart_deactivate] at hclose
                      exact congrArg Prod.fst ((watchdogPart_remember _ _ _).trans hclose.symm)

end Service

/-! ## Playback and service -/

/-- The service and its playback source, with what the claims of a run are about: the session
that was open when the source last became finished, those the hook ran for, and whether the
watchdog's last look found the source finished. -/
structure HoldRun where
  service : Service
  source : SourceState
  atEnd : Option OpenedSession
  hooked : List OpenedSession
  sawFinished : Bool
deriving DecidableEq, Repr

inductive HoldEvent where
  /-- `_finish`, or the end of a feeder -/
  | ends (failed : Bool)
  /-- a restart of a finished source -/
  | restarts
  | tick (c : Closing)
  /-- whatever else the main loop handles -/
  | service (event : ServiceEvent)
deriving DecidableEq, Repr

namespace HoldRun

open Service (opensWell closesWell cameraSetup)

def start (stateFile : Option String) : HoldRun :=
  { service := .start stateFile, source := ⟨false, false⟩, atEnd := none, hooked := [],
    sawFinished := false }

/-- A tick finds the source finished without an error. -/
def Finds (s : HoldRun) : Prop :=
  s.service.Looks ∧ s.source.finished = true ∧ s.source.finishedError = false

instance (s : HoldRun) : Decidable s.Finds := inferInstanceAs (Decidable (_ ∧ _ ∧ _))

/-- One event. -/
def next (setup : ServiceSetup) (s : HoldRun) : HoldEvent → Option HoldRun
  | .ends failed =>
    if s.source.finished then none
    else some { s with source := ⟨true, failed⟩, atEnd := s.service.session }
  | .restarts => if s.source.finished then some { s with source := ⟨false, false⟩ } else none
  | .tick c =>
    some { s with
      service := (s.service.step (Service.holding setup) (.watchdog s.source c)).1
      hooked := s.hooked ++ if s.Finds then (s.service.finalizes c).toList else []
      sawFinished := if s.service.Looks then s.source.finished else s.sawFinished }
  | .service event =>
    match event with
    | .watchdog _ _ => none
    | event => some { s with service := (s.service.step (Service.holding setup) event).1 }

/-- At the end of a tick that finds the source finished, the session that was open when it
became finished is on the list. -/
def Reaches (list : HoldRun → List OpenedSession) (setup : ServiceSetup) (s : HoldRun)
    (event : HoldEvent) : Prop :=
  ∀ c s', event = .tick c → s.Finds → s.next setup event = some s' →
    ∀ sess, s.atEnd = some sess → sess ∈ list s'

/-- The session is open, the watchdog's last look was at a running source, and closing does
not raise. -/
def Fresh (s : HoldRun) (c : Closing) (sess : OpenedSession) : Prop :=
  s.service.session = some sess ∧ s.sawFinished = false ∧ c.raises = none

/-- A tick that finds the source finished comes to a session that is on the list already, or
is fresh. -/
def ThereOrFresh (list : HoldRun → List OpenedSession) (s : HoldRun) (event : HoldEvent) : Prop :=
  ∀ c, event = .tick c → s.Finds → ∀ sess, s.atEnd = some sess → sess ∈ list s ∨ s.Fresh c sess

/-- The sessions that have been closed. -/
def closed (s : HoldRun) : List OpenedSession := s.service.finished

/-- While the watchdog goes on, its latch is what it saw last. -/
def LatchSaw (s : HoldRun) : Prop := s.service.watching = true → s.service.held = s.sawFinished

/-- The latch is set only by a watchdog that has seen the end. -/
theorem latchSaw_next {setup : ServiceSetup} {s s' : HoldRun} {event : HoldEvent}
    (h : s.LatchSaw) (hs : s.next setup event = some s') : s'.LatchSaw := by
  cases event with
  | ends failed =>
      simp only [next] at hs
      split at hs
      · cases hs
      · cases hs
        exact h
  | restarts =>
      simp only [next] at hs
      split at hs
      · cases hs
        exact h
      · cases hs
  | tick c =>
      cases hs
      intro hgoes
      by_cases hlooks : s.service.Looks
      · simp only [hlooks, if_true]
        exact Service.held_tick setup hlooks s.source c hgoes
      · simp only [hlooks, if_false] at hgoes ⊢
        rcases Service.tick_aside (Service.holding setup) hlooks s.source c with heq | hends
        · rw [heq] at hgoes ⊢
          exact h hgoes
        · rw [hends] at hgoes
          cases hgoes
  | service event =>
      have hkept (hevent : ∀ source c, event ≠ .watchdog source c) :=
        Service.watchdogPart_step (Service.holding setup) s.service hevent
      cases event with
      | watchdog source c => cases hs
      | boot | request | configureRecording | sessionError | fragment | progressTick
      | requestStop | signalStop | shutdown =>
          cases hs
          intro hgoes
          have hpart := hkept (by simp)
          exact (congrArg Prod.fst hpart).trans (h ((congrArg Prod.snd hpart).symm.trans hgoes))

/-- What a tick finalizes is the session that is open and fresh. -/
theorem mem_finalizes_iff {s : HoldRun} (h : s.LatchSaw) (hfinds : s.Finds) (c : Closing)
    (sess : OpenedSession) : sess ∈ (s.service.finalizes c).toList ↔ s.Fresh c sess := by
  rw [Option.mem_toList, Service.finalizes, h hfinds.1.2.1, Fresh]
  split
  · next hcond => simp [hcond]
  · next hcond => simpa using fun _ hsaw hraises => hcond ⟨hsaw, hraises⟩

/-- A tick that finds the end closes it, and calls the hook. -/
theorem tick_of_finds {setup : ServiceSetup} {s s' : HoldRun} {c : Closing} (h : s.Finds)
    (hs : s.next setup (.tick c) = some s') :
    s'.closed = s.closed ++ (s.service.finalizes c).toList ∧
      s'.hooked = s.hooked ++ (s.service.finalizes c).toList := by
  obtain ⟨hlooks, hfinished, herror⟩ := h
  have hsource : s.source = ⟨true, false⟩ := by
    rw [← hfinished, ← herror]
  cases hs
  constructor
  · rw [closed, hsource]
    exact Service.finished_tick setup hlooks c
  · exact congrArg (s.hooked ++ ·) (if_pos ⟨hlooks, hfinished, herror⟩)

/-- In every state of every run. -/
theorem latchSaw_of_exec {setup : ServiceSetup} {stateFile : Option String}
    {events : List HoldEvent} {s : HoldRun}
    (h : Machine.exec (next setup) (start stateFile) events = some s) : s.LatchSaw :=
  Machine.exec_inv (fun _ _ _ hlatch hs => latchSaw_next hlatch hs) (fun _ => rfl) h

/-- A list to which a tick adds the session it finalizes. -/
theorem along_reaches_iff (setup : ServiceSetup) (stateFile : Option String)
    {list : HoldRun → List OpenedSession}
    (hlist : ∀ s s' c, s.Finds → s.next setup (.tick c) = some s' →
      list s' = list s ++ (s.service.finalizes c).toList) (events : List HoldEvent) :
    Machine.Along (next setup) (Reaches list setup) (start stateFile) events ↔
      Machine.Along (next setup) (ThereOrFresh list) (start stateFile) events := by
  rw [Machine.along_iff, Machine.along_iff]
  constructor
  · intro h before event after s hsplit hrun c hevent hfinds sess hsess
    subst hevent
    have hmem := h before _ after s hsplit hrun c _ rfl hfinds rfl sess hsess
    rw [hlist _ _ c hfinds rfl, List.mem_append,
      mem_finalizes_iff (latchSaw_of_exec hrun) hfinds] at hmem
    exact hmem
  · intro h before event after s hsplit hrun c s' hevent hfinds hs sess hsess
    subst hevent
    rw [hlist _ _ c hfinds hs, List.mem_append,
      mem_finalizes_iff (latchSaw_of_exec hrun) hfinds]
    exact h before _ after s hsplit hrun c rfl hfinds sess hsess

/-- **The end of a playback**: every tick that finds the source finished has the session that
was open at its end closed, exactly if each such tick comes to one that has been closed or is
fresh; and the hook runs for it, exactly if it has run or the session is fresh. -/
theorem reaches_iff (setup : ServiceSetup) (stateFile : Option String)
    (events : List HoldEvent) :
    (Machine.Along (next setup) (Reaches closed setup) (start stateFile) events ↔
      Machine.Along (next setup) (ThereOrFresh closed) (start stateFile) events) ∧
    (Machine.Along (next setup) (Reaches hooked setup) (start stateFile) events ↔
      Machine.Along (next setup) (ThereOrFresh hooked) (start stateFile) events) :=
  ⟨along_reaches_iff setup stateFile (fun _ _ _ hfinds hs => (tick_of_finds hfinds hs).1) events,
    along_reaches_iff setup stateFile (fun _ _ _ hfinds hs => (tick_of_finds hfinds hs).2) events⟩

/-- A playback ends, is started over and recorded, and ends again between two ticks. -/
def shortPlayback : List HoldEvent :=
  [.service (.boot opensWell closesWell),
    .service (.request (.known .activate) none opensWell closesWell), .ends false,
    .tick closesWell, .restarts,
    .service (.request (.known .activate) none opensWell closesWell), .ends false]

/-- The second session stays open. -/
theorem not_reaches :
    ¬ ∀ (setup : ServiceSetup) (stateFile : Option String) (events : List HoldEvent),
      Machine.Along (next setup) (Reaches closed setup) (start stateFile) events := by
  intro h
  have hclosed := Machine.along_iff.mp (h cameraSetup none (shortPlayback ++ [.tick closesWell]))
    shortPlayback _ [] _ rfl rfl closesWell _ rfl (by decide) rfl ⟨2, "g", 0⟩ (by decide)
  exact absurd hclosed (by decide)

end HoldRun

end CamDriver
