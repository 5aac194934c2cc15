import CamDriver.LifecycleAgree

/-!
# CamDriver.StopForget

The handler of SIGINT and SIGTERM between any two statements of what the main thread does:
the events of `CamDriver.Lifecycle`, statement by statement, on a stack of interrupted code.

The handler forgets the remembered state and then requests the stop.  What it interrupts
goes on afterwards, and a transition that is past the looks at `_stopping` and `_session`
remembers its state again.  `Activity.writes` says which these are, `Held` is the invariant
of the runs in which no signal meets one.
-/

namespace CamDriver

/-! ## What the main thread is in -/

/-- What ends in `remember`. -/
inductive ActivityKind where
  | request (transition : Transition) (expected : Option ExpectedSettings)
  /-- `_on_session_error` -/
  | sessionError (index : Nat)
  /-- the watchdog at the end of a playback that holds -/
  | playbackFinished
deriving DecidableEq, Repr

/-- The statements of `Lifecycle.request`, and of `activate` and `deactivate` under it. -/
inductive ActivityPc where
  | entered
  /-- `cur` is read -/
  | deciding (cur : LifecycleState)
  /-- `activate`, at its look at `_stopping` -/
  | activating
  | unstopped
  /-- no session is open -/
  | vacant
  | numbering
  | opening (left : List OpenStage)
  | opened (sess : OpenedSession)
  | published (sess : OpenedSession)
  | openFailed (error : String)
  /-- `deactivate`, at `sess = self._session` -/
  | deactivating
  | unpublishing (sess : OpenedSession)
  | detaching (sess : OpenedSession)
  | closing (sess : OpenedSession)
  | draining (sess : OpenedSession)
  | closed (result : TransitionResult)
  /-- the pipeline has returned -/
  | returned (result : TransitionResult)
  /-- at `self.state`, the argument of `remember` -/
  | naming
  /-- `remember`: the file beside it is written -/
  | remembering (state : LifecycleState)
  | replacing (state : LifecycleState)
  | notifying
deriving DecidableEq, Repr

/-- An activity, with what the outside answers to it. -/
structure Activity where
  kind : ActivityKind
  pc : ActivityPc
  opening : Opening
  closing : Closing
  /-- a write of the state file raises `OSError` -/
  storeFails : Bool
deriving DecidableEq, Repr

/-- The statements of the handler, and of `request_stop`. -/
inductive StopPc where
  /-- `lifecycle.forget()` -/
  | forgetting
  /-- `health.stop(wait=False)`, `control.close()` -/
  | withdrawing
  /-- `request_stop`, at its look at `_stopping` -/
  | checking
  | marking
  /-- `_stopping` is set -/
  | marked
  | detaching (sess : OpenedSession)
  | unpublishing (sess : OpenedSession)
  /-- at `sess.begin_close()` -/
  | beginning (sess : OpenedSession)
  /-- at `self.source.stop()` -/
  | halting (sess : Option OpenedSession)
  | closing (sess : OpenedSession)
  | resting
deriving DecidableEq, Repr

/-- The statements of `shutdown` and the end of the process. -/
inductive ExitPc where
  | marking
  | reading
  | detaching (sess : OpenedSession)
  | closing (sess : OpenedSession)
  | resting
  | exiting
deriving DecidableEq, Repr

/-- Code on the stack of the main thread. -/
inductive Frame where
  | activity (activity : Activity)
  | stop (pc : StopPc) (closing : Closing)
  | exit (pc : ExitPc) (closing : Closing)
deriving DecidableEq, Repr

/-- The transition whose code a statement is in. -/
def ActivityPc.transition : ActivityPc → Option Transition
  | .activating | .unstopped | .vacant | .numbering | .opening _ | .opened _ | .published _
  | .openFailed _ => some .activate
  | .deactivating | .unpublishing _ | .detaching _ | .closing _ | .draining _ | .closed _ =>
    some .deactivate
  | _ => none

/-- What an exception makes of the activity it comes out in: `activate` catches it where it
opens, `_call` where it runs a transition. -/
def Activity.raise (error : String) (a : Activity) : Option Activity :=
  match a.pc with
  | .opening _ => some { a with pc := .openFailed error }
  | pc =>
    match a.kind, pc.transition with
    | .request _ _, some t =>
      some { a with pc := .returned ⟨false, some (t.name ++ " failed: " ++ error), none⟩ }
    | _, _ => none

/-- The activity goes on at another statement. -/
def Activity.goTo (pc : ActivityPc) (a : Activity) : Option Activity := some { a with pc }

/-- A request is behind the activity. -/
def Activity.commanded (a : Activity) : Bool :=
  match a.kind with
  | .request _ _ => true
  | _ => false

/-- What is left of the activity outlives a stop.  It is past the look at `_stopping` in
`activate` and opens a session, or past `_session` in `deactivate`, or past both, and goes on
to write the file.  Without a request behind it `remember` follows whatever the pipeline
returns. -/
def Activity.writes (a : Activity) : Bool :=
  match a.pc with
  | .entered | .deciding _ | .notifying => false
  | .activating | .openFailed _ => !a.commanded
  | .unstopped | .vacant | .numbering | .opening _ =>
    !a.commanded || a.opening.failure.isNone
  | .opened _ | .replacing _ => true
  | .published _ | .naming | .remembering _ => !a.storeFails
  | .deactivating => !a.commanded && !a.storeFails
  | .unpublishing _ | .detaching _ | .closing _ | .draining _ =>
    a.closing.raises.isNone && !a.storeFails
  | .closed r | .returned r => (!a.commanded || r.ok) && !a.storeFails

def Frame.writes : Frame → Bool
  | .activity a => Activity.writes a
  | _ => false

/-- Closing a session leaves the stop, the session and the file alone. -/
theorem Service.closeSession_leaves (sv : Service) (sess : OpenedSession) (c : Closing) :
    (sv.closeSession sess c).1.stopping = sv.stopping ∧
      (sv.closeSession sess c).1.session = sv.session ∧
      (sv.closeSession sess c).1.stateFile = sv.stateFile := by
  obtain ⟨_, _, _, hframe⟩ := sv.closeSession_frame sess c
  rw [hframe]
  exact ⟨rfl, rfl, rfl⟩

/-- So does a change of the recording settings. -/
theorem Service.configureRecording_leaves (sv : Service) (setup : ServiceSetup)
    (answer : Configured) :
    (sv.configureRecording setup answer).1.stopping = sv.stopping ∧
      (sv.configureRecording setup answer).1.session = sv.session ∧
      (sv.configureRecording setup answer).1.stateFile = sv.stateFile := by
  unfold configureRecording
  split
  · exact ⟨rfl, rfl, rfl⟩
  · cases answer <;> exact ⟨rfl, rfl, rfl⟩

/-- A session that is closed did not raise. -/
theorem Service.raises_none_of_closed {sv sv' : Service} {sess : OpenedSession} {c : Closing}
    {r : TransitionResult} (h : sv.closeSession sess c = (sv', .ok r)) : c.raises = none := by
  unfold closeSession at h
  split at h
  · cases h
  · cases h
  · next hnone => exact hnone

namespace Activity

/-! ## One statement -/

/-- The stages of `activate` before `sess.start`, in order. -/
def openStages : List OpenStage :=
  [.copyConfig, .runPrefix, .describe, .makeSession, .writeSnapshot]

/-- The step of opening a session that fails at a stage; the encoder is compared once the
recorder is described. -/
def failsAt (stage : OpenStage) : Option OpenFailure → Option String
  | some (.raised stage' error) => if stage' = stage then some error else none
  | some .encoderChanged =>
    if stage = .makeSession then
      some "resolved encoder changed; review recording settings again"
    else none
  | _ => none

/-- The next statement, with what is left of the activity after it. -/
def step (setup : ServiceSetup) (sv : Service) (a : Activity) : Service × Option Activity :=
  match a.pc with
  | .entered =>
    match a.kind with
    | .request _ _ => (sv, a.goTo (.deciding sv.lifecycle))
    | .sessionError index =>
      if sv.session.map OpenedSession.index ≠ some index ∨ sv.stopping then (sv, none)
      else (sv, a.goTo .deactivating)
    | .playbackFinished =>
      if sv.stopping ∨ sv.session.isNone then (sv, none) else (sv, a.goTo .deactivating)
  | .deciding cur =>
    match a.kind with
    | .request t expected =>
      if cur = t.target ∨ cur ≠ t.source then (sv, none)
      else
        match t with
        | .activate =>
          if ¬ setup.recordingEnabled then (sv, none)
          else
            match expected.elim (.ok ()) (sv.checkRecordingSettings setup) with
            | .error _ => (sv, none)
            | .ok () => (sv, a.goTo .activating)
        | .deactivate => (sv, a.goTo .deactivating)
    | _ => (sv, none)
  | .activating =>
    if ¬ setup.recordingEnabled then
      (sv, a.goTo (.returned ⟨false, some "recording disabled by config", none⟩))
    else if sv.stopping then (sv, a.goTo (.returned ⟨false, some "stopping", none⟩))
    else (sv, a.goTo .unstopped)
  | .unstopped =>
    if sv.session.isSome then
      (sv, a.goTo (.returned ⟨false, some "already recording", none⟩))
    else (sv, a.goTo .vacant)
  | .vacant => ({ sv with lifecycle := .activating }, a.goTo .numbering)
  | .numbering => ({ sv with sessionSeq := sv.sessionSeq + 1 }, a.goTo (.opening openStages))
  | .opening (stage :: left) =>
    match failsAt stage a.opening.failure with
    | some error => (sv, a.goTo (.openFailed error))
    | none => (sv, a.goTo (.opening left))
  | .opening [] =>
    match sv.startSession a.opening.failure with
    | (sv, .error error) => (sv, a.goTo (.openFailed error))
    | (sv, .ok ()) => (sv, a.goTo (.opened ⟨sv.sessionSeq, setup.generation, sv.revision⟩))
  | .opened sess =>
    ({ sv with opened := sv.opened ++ [sess], session := some sess }, a.goTo (.published sess))
  | .published sess =>
    ({ sv with lifecycle := .active, progressTimer := true },
      a.goTo (.returned ⟨true, none, some ⟨sess.index, a.opening.error, false⟩⟩))
  | .openFailed error =>
    ({ sv with lifecycle := .inactive },
      a.goTo (.returned ⟨false, some ("session start failed: " ++ error), none⟩))
  | .deactivating =>
    match sv.session with
    | none => (sv, a.goTo (.returned ⟨false, some "not recording", none⟩))
    | some sess => (sv, a.goTo (.unpublishing sess))
  | .unpublishing sess => ({ sv with lifecycle := .deactivating }, a.goTo (.detaching sess))
  | .detaching sess =>
    ({ sv with session := none, progressTimer := false }, a.goTo (.closing sess))
  | .closing sess =>
    match a.closing.raises with
    | some (.beginClose, error) => (sv, a.raise error)
    | _ => (sv, a.goTo (.draining sess))
  | .draining sess =>
    match sv.closeSession sess a.closing with
    | (sv, .error error) => (sv, a.raise error)
    | (sv, .ok r) => (sv, a.goTo (.closed r))
  | .closed r => ({ sv with lifecycle := .inactive }, a.goTo (.returned r))
  | .returned r =>
    let error := textOr r.error (r.session.bind SessionInfo.error)
    match a.kind with
    | .request t _ =>
      if r.ok then ({ sv with lastError := error }, a.goTo .naming)
      else
        ({ sv with lastError := textOr error (some (t.name ++ " failed")) }, a.goTo .notifying)
    | .sessionError _ =>
      ({ sv with lastError := textOr error (some "recording session ended on an error") },
        a.goTo (.remembering .inactive))
    | .playbackFinished => (sv, a.goTo (.remembering .inactive))
  | .naming => (sv, a.goTo (.remembering sv.lifecycle))
  | .remembering state =>
    (sv, a.goTo (if setup.resume ∧ ¬ a.storeFails then .replacing state else .notifying))
  | .replacing state => (sv.remember setup state, a.goTo .notifying)
  | .notifying => (sv, none)

/-! ## An activity under a stop -/

/-- No activity moves `_stopping`. -/
theorem stopping_step (setup : ServiceSetup) (sv : Service) (a : Activity) :
    (a.step setup sv).1.stopping = sv.stopping := by
  obtain ⟨kind, pc, opening, closing, storeFails⟩ := a
  cases pc with
  | opening left =>
      cases left with
      | nil =>
          simp only [step]
          split
          · next sv' error hstart => rw [Service.startSession_failed hstart]
          · next sv' hstart => rw [Service.startSession_ok hstart]
      | cons stage left =>
          simp only [step]
          split <;> rfl
  | draining sess =>
      have hkept := (sv.closeSession_leaves sess closing).1
      simp only [step]
      split
      · next sv' error hclose => rwa [hclose] at hkept
      · next sv' r hclose => rwa [hclose] at hkept
  | replacing state => exact sv.stopping_remember setup state
  | _ =>
      simp only [step]
      repeat' split
      all_goals rfl

/-- An exception does not turn an activity to `remember`. -/
theorem not_writes_raise {error : String} {a : Activity} (ha : a.writes = false) :
    ∀ b ∈ a.raise error, b.writes = false := by
  obtain ⟨kind, pc, opening, closing, storeFails⟩ := a
  intro b hb
  cases pc <;> cases kind <;>
    simp only [Activity.raise, ActivityPc.transition, Option.mem_def, Option.some.injEq,
      reduceCtorEq] at hb <;>
    subst hb <;> simp_all [writes, commanded]

/-- Once the stop has passed, it does not turn to `remember`, and leaves the file alone. -/
theorem step_stopped (setup : ServiceSetup) {sv : Service} {a : Activity}
    (hstopping : sv.stopping = true) (hsession : sv.session = none) (ha : a.writes = false) :
    (a.step setup sv).1.session = none ∧ (a.step setup sv).1.stateFile = sv.stateFile ∧
      ∀ b ∈ (a.step setup sv).2, b.writes = false := by
  obtain ⟨kind, pc, opening, closing, storeFails⟩ := a
  cases pc with
  | entered => cases kind <;> simp_all [step, goTo, writes, commanded]
  | deciding cur =>
      cases kind with
      | request t expected =>
          simp only [step]
          split
          · simp [hsession]
          · cases t with
            | activate =>
                simp only
                split
                · simp [hsession]
                · split <;> simp [goTo, writes, commanded, hsession]
            | deactivate => simp [goTo, writes, commanded, hsession]
      | _ => simp [step, hsession]
  | activating =>
      simp only [step, hstopping]
      split <;> cases kind <;> simp_all [goTo, writes, commanded]
  | opening left =>
      cases left with
      | nil =>
          simp only [step]
          split
          · next sv' error hstart =>
              rw [Service.startSession_failed hstart]
              simp_all [goTo, writes, commanded]
          · next sv' hstart =>
              have hnone := Service.failure_none_of_started hstart
              simp_all [writes]
      | cons stage left =>
          simp only [step]
          split <;> simp_all [goTo, writes, commanded]
  | closing sess =>
      simp only [step]
      split
      · exact ⟨hsession, rfl, not_writes_raise ha⟩
      · exact ⟨hsession, rfl, by simpa [goTo, writes] using ha⟩
  | draining sess =>
      have hleaves := sv.closeSession_leaves sess closing
      simp only [step]
      split
      · next sv' error hclose =>
          rw [hclose] at hleaves
          exact ⟨hleaves.2.1.trans hsession, hleaves.2.2, not_writes_raise ha⟩
      · next sv' r hclose =>
          have hnone := Service.raises_none_of_closed hclose
          rw [hclose] at hleaves
          refine ⟨hleaves.2.1.trans hsession, hleaves.2.2, ?_⟩
          have hfails : storeFails = true := by simpa [writes, hnone] using ha
          simp [goTo, writes, hfails]
  | deactivating =>
      refine ⟨by simp [step, hsession], by simp [step, hsession], ?_⟩
      simpa [step, goTo, writes, commanded, hsession] using ha
  | returned r =>
      cases kind with
      | request t expected =>
          simp only [step]
          split
          · next hok => exact ⟨hsession, rfl, by simpa [goTo, writes, commanded, hok] using ha⟩
          · exact ⟨hsession, rfl, by simp [goTo, writes]⟩
      | sessionError index =>
          exact ⟨hsession, rfl, by simpa [step, goTo, writes, commanded] using ha⟩
      | playbackFinished =>
          exact ⟨hsession, rfl, by simpa [step, goTo, writes, commanded] using ha⟩
  | remembering state =>
      have hfails : storeFails = true := by simpa [writes] using ha
      refine ⟨hsession, rfl, ?_⟩
      simp [step, goTo, writes, hfails]
  | opened sess => simp [writes] at ha
  | replacing state => simp [writes] at ha
  | notifying => exact ⟨hsession, rfl, by simp [step]⟩
  | detaching sess => exact ⟨rfl, rfl, by simpa [step, goTo, writes] using ha⟩
  | unstopped =>
      refine ⟨by simp [step, hsession], by simp [step, hsession], ?_⟩
      simpa [step, goTo, writes, commanded, hsession] using ha
  | openFailed error =>
      refine ⟨hsession, rfl, ?_⟩
      cases kind <;> simp_all [step, goTo, writes, commanded]
  | _ => exact ⟨hsession, rfl, by simpa [step, goTo, writes, commanded] using ha⟩

/-! ## An activity without an interruption -/

/-- The statements that are left, and what they make of the service. -/
inductive Runs (setup : ServiceSetup) : Service → Option Activity → Service → Prop where
  | finished (sv : Service) : Runs setup sv none sv
  | step {sv sv₁ sv' : Service} {a : Activity} {left : Option Activity}
      (hstep : a.step setup sv = (sv₁, left)) (h : Runs setup sv₁ left sv') :
      Runs setup sv (some a) sv'

section Request

variable (setup : ServiceSetup) (sv : Service) (t : Transition)
  (expected : Option ExpectedSettings) (o : Opening) (c : Closing)

/-- The end of a request, statement by statement. -/
theorem runs_conclude (r : TransitionResult) :
    Runs setup sv (some ⟨.request t expected, .returned r, o, c, false⟩)
      (sv.conclude setup t r).1 := by
  simp only [Service.conclude]
  cases hok : r.ok with
  | false =>
      refine .step (by simp only [step, hok]; rfl) ?_
      exact .step rfl (.finished _)
  | true =>
      refine .step (by simp only [step, hok]; rfl) ?_
      refine .step rfl ?_
      cases hresume : setup.resume with
      | false =>
          refine .step (by simp only [step, hresume]; rfl) ?_
          simp only [Service.remember, hresume]
          exact .step rfl (.finished _)
      | true =>
          refine .step (by simp only [step, hresume]; rfl) ?_
          exact .step rfl (.step rfl (.finished _))

/-- `deactivate`, with that end. -/
theorem runs_deactivate :
    Runs setup sv (some ⟨.request .deactivate expected, .deactivating, o, c, false⟩)
      (match sv.deactivate c with
        | (sv, .error error) =>
          (sv.conclude setup .deactivate ⟨false, some ("deactivate failed: " ++ error), none⟩).1
        | (sv, .ok r) => (sv.conclude setup .deactivate r).1) := by
  unfold Service.deactivate
  cases hsession : sv.session with
  | none => exact .step (by simp only [step, hsession]; rfl) (runs_conclude ..)
  | some sess =>
      refine .step (by simp only [step, hsession]; rfl) ?_
      refine .step rfl ?_
      refine .step rfl ?_
      cases hraises : c.raises with
      | none =>
          refine .step (by simp only [step, hraises]; rfl) ?_
          refine .step (by simp only [step, Service.closeSession, hraises]; rfl) ?_
          simp only [Service.closeSession, hraises]
          exact .step rfl (runs_conclude ..)
      | some raised =>
          obtain ⟨point, error⟩ := raised
          cases point with
          | beginClose =>
              refine .step (by simp only [step, hraises]; rfl) ?_
              simp only [Service.closeSession, hraises]
              exact runs_conclude ..
          | finishClose tornDown =>
              refine .step (by simp only [step, hraises]; rfl) ?_
              refine .step (by simp only [step, Service.closeSession, hraises]; rfl) ?_
              simp only [Service.closeSession, hraises]
              exact runs_conclude ..

/-- Opening a session fails at the first stage that fails. -/
theorem runs_opening {left : List OpenStage} {sv' : Service}
    (h : match left.findSome? (failsAt · o.failure) with
      | some error => Runs setup sv (some ⟨.request t expected, .openFailed error, o, c, false⟩) sv'
      | none => Runs setup sv (some ⟨.request t expected, .opening [], o, c, false⟩) sv') :
    Runs setup sv (some ⟨.request t expected, .opening left, o, c, false⟩) sv' := by
  induction left with
  | nil => exact h
  | cons stage left ih =>
      rw [List.findSome?_cons] at h
      cases hfails : failsAt stage o.failure with
      | none =>
          rw [hfails] at h
          exact .step (by simp only [step, hfails]; rfl) (ih h)
      | some error =>
          rw [hfails] at h
          exact .step (by simp only [step, hfails]; rfl) h

/-- `activate`, with that end. -/
theorem runs_activate :
    Runs setup sv (some ⟨.request .activate expected, .activating, o, c, false⟩)
      ((sv.activate setup o).1.conclude setup .activate (sv.activate setup o).2).1 := by
  unfold Service.activate
  split
  · next henabled => exact .step (by simp only [step, henabled]; rfl) (runs_conclude ..)
  · next henabled =>
      split
      · next hstopping =>
          exact .step (by simp only [step, henabled, hstopping]; rfl) (runs_conclude ..)
      · next hstopping =>
          refine .step (by simp only [step, henabled, hstopping]; rfl) ?_
          split
          · next hsession => exact .step (by simp only [step, hsession]; rfl) (runs_conclude ..)
          · next hsession =>
              refine .step (by simp only [step, hsession]; rfl) ?_
              refine .step rfl ?_
              refine .step rfl ?_
              apply runs_opening
              cases hfailure : o.failure with
              | none =>
                  refine .step (by simp only [step, hfailure]; rfl) ?_
                  exact .step rfl (.step rfl (runs_conclude ..))
              | some failure =>
                  cases failure with
                  | raised stage error =>
                      cases stage <;> exact .step rfl (runs_conclude ..)
                  | encoderChanged => exact .step rfl (runs_conclude ..)
                  | _ =>
                      refine .step (by simp only [step, hfailure]; rfl) ?_
                      exact .step rfl (runs_conclude ..)

theorem runs_request :
    Runs setup sv (some ⟨.request t expected, .entered, o, c, false⟩)
      (sv.request setup (.known t) expected o c).1 := by
  refine .step rfl ?_
  unfold Service.request
  simp only
  split
  · next htarget => exact .step (by simp only [step, htarget]; rfl) (.finished _)
  · next htarget =>
      split
      · next hsource => exact .step (by simp only [step]; exact if_pos (.inr hsource)) (.finished _)
      · next hsource =>
          cases t with
          | activate =>
              simp only
              split
              · next henabled =>
                  exact .step (by simp only [step, htarget, hsource, henabled]; rfl) (.finished _)
              · next henabled =>
                  split
                  · next error hcheck =>
                      refine .step ?_ (.finished _)
                      simp only [step, htarget, hsource, henabled, hcheck]
                      rfl
                  · next hcheck =>
                      refine .step ?_ (runs_activate setup sv expected o c)
                      simp only [step, htarget, hsource, henabled, hcheck]
                      rfl
          | deactivate =>
              refine .step (by simp only [step, htarget, hsource]; rfl) ?_
              have h := runs_deactivate setup sv expected o c
              generalize sv.deactivate c = deactivated at h ⊢
              rcases deactivated with ⟨sv', error | r⟩ <;> exact h

end Request

end Activity

/-- How far a stop has come. -/
inductive StopPhase where
  | forgets
  /-- `_stopping` is about to be set -/
  | marks
  /-- the session is about to be given up -/
  | clears
  | cleared
deriving DecidableEq, Repr

def StopPc.phase : StopPc → StopPhase
  | .forgetting => .forgets
  | .withdrawing | .checking | .marking => .marks
  | .marked | .detaching _ => .clears
  | _ => .cleared

def ExitPc.phase : ExitPc → Option StopPhase
  | .reading | .detaching _ => some .clears
  | _ => none

def Frame.phase : Frame → Option StopPhase
  | .activity _ => none
  | .stop pc _ => some pc.phase
  | .exit pc _ => pc.phase

@[simp] theorem Frame.phase_activity (a : Activity) : (Frame.activity a).phase = none := rfl

@[simp] theorem Frame.phase_stop (pc : StopPc) (c : Closing) :
    (Frame.stop pc c).phase = some pc.phase := rfl

@[simp] theorem Frame.phase_exit (pc : ExitPc) (c : Closing) :
    (Frame.exit pc c).phase = pc.phase := rfl

@[simp] theorem Frame.writes_activity (a : Activity) : (Frame.activity a).writes = a.writes := rfl

@[simp] theorem Frame.writes_stop (pc : StopPc) (c : Closing) :
    (Frame.stop pc c).writes = false := rfl

@[simp] theorem Frame.writes_exit (pc : ExitPc) (c : Closing) :
    (Frame.exit pc c).writes = false := rfl

/-- The service with the stack of its main thread, the innermost code first. -/
structure StopRun where
  service : Service
  stack : List Frame
  /-- a signal has been handled, or is being -/
  signalled : Bool
  /-- the file was removed -/
  forgotten : Bool
  exited : Bool
deriving DecidableEq, Repr

namespace StopRun

/-- The innermost code goes on. -/
def goesOn (s : StopRun) (service : Service) (frame : Frame) (rest : List Frame) : StopRun :=
  { s with service, stack := frame :: rest }

/-- It is over, and what it had interrupted goes on. -/
def returns (s : StopRun) (service : Service) (rest : List Frame) : StopRun :=
  { s with service, stack := rest }

/-- An exception goes through the handlers; a `shutdown` it comes out in ends the process. -/
def unwind (error : String) : List Frame → List Frame
  | [] => []
  | .activity a :: rest => (a.raise error).toList.map .activity ++ rest
  | .stop _ _ :: rest => unwind error rest
  | .exit _ closing :: rest => .exit .exiting closing :: rest

/-- The next statement of an activity. -/
def activityStep (setup : ServiceSetup) (s : StopRun) (a : Activity) (rest : List Frame) :
    StopRun :=
  s.returns (a.step setup s.service).1
    ((a.step setup s.service).2.toList.map .activity ++ rest)

/-- The next statement of the handler or of `request_stop`. -/
def stopStep (setup : ServiceSetup) (s : StopRun) (pc : StopPc) (c : Closing)
    (unlinkFails : Bool) (rest : List Frame) : StopRun :=
  let sv := s.service
  let goTo (service : Service) (pc : StopPc) : StopRun := s.goesOn service (.stop pc c) rest
  match pc with
  | .forgetting =>
    if setup.resume ∧ (unlinkFails = false ∨ sv.stateFile = none) then
      { goTo (sv.forget setup) .withdrawing with forgotten := true }
    else goTo sv .withdrawing
  | .withdrawing => goTo sv .checking
  | .checking => if sv.stopping then s.returns sv rest else goTo sv .marking
  | .marking => goTo { sv with stopping := true } .marked
  | .marked =>
    match sv.session with
    | none => goTo sv (.halting none)
    | some sess => goTo sv (.detaching sess)
  | .detaching sess => goTo { sv with session := none } (.unpublishing sess)
  | .unpublishing sess => goTo { sv with lifecycle := .deactivating } (.beginning sess)
  | .beginning sess =>
    match c.raises with
    | some (.beginClose, error) => s.returns sv (unwind error rest)
    | _ => goTo sv (.halting (some sess))
  | .halting none => s.returns sv rest
  | .halting (some sess) => goTo sv (.closing sess)
  | .closing sess =>
    match sv.closeSession sess c with
    | (sv, .error error) => s.returns sv (unwind error rest)
    | (sv, .ok _) => goTo sv .resting
  | .resting => s.returns { sv with lifecycle := .inactive } rest

/-- The next statement of `shutdown`, and the end of the process. -/
def exitStep (s : StopRun) (pc : ExitPc) (c : Closing) (rest : List Frame) : StopRun :=
  let sv := s.service
  let goTo (service : Service) (pc : ExitPc) : StopRun := s.goesOn service (.exit pc c) rest
  match pc with
  | .marking => goTo { sv with stopping := true, down := true } .reading
  | .reading =>
    match sv.session with
    | none => goTo sv .exiting
    | some sess => goTo sv (.detaching sess)
  | .detaching sess => goTo { sv with session := none } (.closing sess)
  | .closing sess =>
    match sv.closeSession sess c with
    | (sv, .error _) => goTo sv .exiting
    | (sv, .ok _) => goTo sv .resting
  | .resting => goTo { sv with lifecycle := .inactive } .exiting
  | .exiting => { s.returns sv rest with exited := true }

inductive Event where
  /-- the main loop begins an activity -/
  | activity (activity : Activity)
  | configureRecording (answer : Configured)
  /-- `request_stop`, without a signal -/
  | requestStop (closing : Closing)
  | shutdown (closing : Closing)
  /-- SIGINT or SIGTERM, between any two statements -/
  | signal (closing : Closing)
  /-- the next statement of the innermost code -/
  | go (unlinkFails : Bool)
deriving DecidableEq, Repr

/-- The main loop begins something. -/
def begins (s : StopRun) (frame : Frame) : Option StopRun :=
  if s.stack = [] ∧ ¬ s.exited then some { s with stack := [frame] } else none

def next (setup : ServiceSetup) (s : StopRun) : Event → Option StopRun
  | .activity a => s.begins (.activity { a with pc := .entered })
  | .configureRecording answer =>
    if s.stack = [] ∧ ¬ s.exited then
      some { s with service := (s.service.configureRecording setup answer).1 }
    else none
  | .requestStop c => s.begins (.stop .checking c)
  | .shutdown c => s.begins (.exit .marking c)
  | .signal c =>
    if s.exited then none
    else some { s with stack := .stop .forgetting c :: s.stack, signalled := true }
  | .go unlinkFails =>
    match s.stack with
    | [] => none
    | .activity a :: rest => some (s.activityStep setup a rest)
    | .stop pc c :: rest => some (s.stopStep setup pc c unlinkFails rest)
    | .exit pc c :: rest => some (s.exitStep pc c rest)

/-- A service in which nothing runs. -/
def resting (service : Service) : StopRun :=
  { service, stack := [], signalled := false, forgotten := false, exited := false }

/-! ## Without an interruption -/

/-- The statements of an activity follow one another. -/
theorem exec_of_runs {setup : ServiceSetup} {sv sv' : Service} {left : Option Activity}
    (h : Activity.Runs setup sv left sv') (s : StopRun) (rest : List Frame) :
    ∃ n, Machine.exec (next setup) (s.returns sv (left.toList.map .activity ++ rest))
      (List.replicate n (.go false)) = some (s.returns sv' rest) := by
  induction h with
  | finished sv => exact ⟨0, rfl⟩
  | @step sv sv₁ sv' a left hstep _ ih =>
      obtain ⟨n, hn⟩ := ih
      refine ⟨n + 1, ?_⟩
      have hnext : next setup (s.returns sv (.activity a :: rest)) (.go false) =
          some (s.returns sv₁ (left.toList.map .activity ++ rest)) := by
        simp [next, activityStep, returns, hstep]
      rw [List.replicate_succ, Machine.exec_cons]
      simpa [hnext] using hn

/-- **Refinement**: a request that nothing interrupts does what `Service.request` says. -/
theorem exec_request (setup : ServiceSetup) (s : StopRun) (rest : List Frame) (t : Transition)
    (expected : Option ExpectedSettings) (o : Opening) (c : Closing) :
    ∃ n, Machine.exec (next setup)
        { s with stack := .activity ⟨.request t expected, .entered, o, c, false⟩ :: rest }
        (List.replicate n (.go false)) =
      some { s with
        service := (s.service.request setup (.known t) expected o c).1, stack := rest } :=
  exec_of_runs (Activity.runs_request setup s.service t expected o c) s rest

/-- `request_stop` without an interruption. -/
theorem exec_requestStop (setup : ServiceSetup) (s : StopRun) (rest : List Frame) {c : Closing}
    (hc : c.raises = none) :
    ∃ n, Machine.exec (next setup) { s with stack := .stop .checking c :: rest }
        (List.replicate n (.go false)) =
      some { s with service := s.service.requestStop c, stack := rest } := by
  cases hstopping : s.service.stopping with
  | true =>
      refine ⟨1, ?_⟩
      simp [next, stopStep, returns, Service.requestStop, hstopping]
  | false =>
      cases hsession : s.service.session with
      | none =>
          refine ⟨4, ?_⟩
          simp [List.replicate_succ, next, stopStep, goesOn, returns, Service.requestStop,
            hstopping, hsession]
      | some sess =>
          refine ⟨9, ?_⟩
          simp [List.replicate_succ, next, stopStep, goesOn, returns, Service.requestStop,
            Service.closeSession, hstopping, hsession, hc]

/-- **Refinement**: a handler that nothing interrupts forgets and requests the stop. -/
theorem exec_handler (setup : ServiceSetup) (s : StopRun) (rest : List Frame) {c : Closing}
    (hc : c.raises = none) :
    ∃ n, Machine.exec (next setup) { s with stack := .stop .forgetting c :: rest }
        (List.replicate n (.go false)) =
      some { s with
        service := (s.service.forget setup).requestStop c, stack := rest,
        forgotten := s.forgotten || setup.resume } := by
  have hforget : next setup { s with stack := .stop .forgetting c :: rest } (.go false) =
      some { s with
        service := s.service.forget setup, stack := .stop .withdrawing c :: rest,
        forgotten := s.forgotten || setup.resume } := by
    cases hresume : setup.resume <;> simp [next, stopStep, goesOn, Service.forget, hresume]
  obtain ⟨n, hn⟩ := exec_requestStop setup { s with
    service := s.service.forget setup, forgotten := s.forgotten || setup.resume } rest hc
  refine ⟨n + 2, ?_⟩
  rw [List.replicate_succ, Machine.exec_cons, hforget, Option.bind_some]
  exact hn

/-! ## What is to hold, and when it does -/

/-- After a stop and the end of the process no state is remembered, and the next boot follows
the config; where the service does not resume, a file of an earlier process is not looked at. -/
def Forgets (setup : ServiceSetup) (s : StopRun) : Prop :=
  s.signalled = true → s.exited = true →
    (setup.resume = true → s.service.stateFile = none) ∧ s.service.recalled setup = none

/-- What a handler that is about to forget has interrupted. -/
def interrupted (s : StopRun) : Option (List Frame) :=
  match s.stack with
  | .stop .forgetting _ :: rest => some rest
  | _ => none

/-- A signal's `forget` does not fail, and does not interrupt what outlives the stop. -/
def Clean (setup : ServiceSetup) (s : StopRun) : Event → Prop
  | .go unlinkFails => setup.resume = true → ∀ rest ∈ s.interrupted,
    (unlinkFails = false ∨ s.service.stateFile = none) ∧
      ∀ frame ∈ rest, Frame.writes frame = false
  | _ => True

instance (setup : ServiceSetup) (s : StopRun) (event : Event) :
    Decidable (Clean setup s event) :=
  match event with
  | .go _ => inferInstanceAs (Decidable (_ → _))
  | .activity _ | .configureRecording _ | .requestStop _ | .shutdown _ | .signal _ =>
    isTrue trivial

/-! ## The invariant -/

/-- The code at the bottom of the stack is anything; what runs over it are handlers, and one
that is past `forget` has removed the file. -/
def Nested (forgotten : Bool) : List Frame → Prop
  | [] => True
  | .stop pc _ :: rest =>
    (pc.phase = .forgets ∨ forgotten = true ∨ rest = []) ∧ Nested forgotten rest
  | .activity _ :: rest => rest = []
  | .exit _ _ :: rest => rest = []

/-- What holds between any two statements, with a state file. -/
structure Held (s : StopRun) : Prop where
  nested : Nested s.forgotten s.stack
  /-- only an unstopped service remembers -/
  writing : ∀ frame ∈ s.stack, frame.writes = true → s.service.stopping = false
  /-- a stopped service has no session, or gives it up -/
  closed : s.service.stopping = true →
    s.service.session = none ∨ ∃ frame ∈ s.stack, frame.phase = some .clears
  marked : ∀ frame ∈ s.stack, frame.phase = some .clears ∨ frame.phase = some .cleared →
    s.service.stopping = true
  cleared : ∀ frame ∈ s.stack, frame.phase = some .cleared → s.service.session = none
  /-- a removed file stays so: the service is stopped, or about to be -/
  forgotten : s.forgotten = true → s.service.stateFile = none ∧
    (∀ frame ∈ s.stack, frame.writes = false) ∧
    (s.service.stopping = true ∨ ∃ frame ∈ s.stack, frame.phase = some .marks)
  signalled : s.signalled = true →
    s.forgotten = true ∨ ∃ frame ∈ s.stack, frame.phase = some .forgets
  exited : s.exited = true → s.stack = []

/-- The next statement of the handler: as far as before, or the one that marks the service
stopped, or the one that leaves it without a session. -/
theorem Held.advance {s : StopRun} {pc : StopPc} {c : Closing} {rest : List Frame} (h : s.Held)
    (hstack : s.stack = .stop pc c :: rest) (pc' : StopPc) {service : Service}
    (hfile : service.stateFile = s.service.stateFile)
    (hphase : (pc'.phase = pc.phase ∧ service.stopping = s.service.stopping ∧
        service.session = s.service.session) ∨
      (pc.phase = .marks ∧ pc'.phase = .clears ∧ service.stopping = true ∧
        service.session = s.service.session) ∨
      (pc.phase = .clears ∧ pc'.phase = .cleared ∧ service.stopping = s.service.stopping ∧
        service.session = none)) :
    (s.goesOn service (.stop pc' c) rest).Held := by
  obtain ⟨nested, writing, closed, marked, cleared, forgotten, signalled, exited⟩ := h
  rw [hstack] at nested writing closed marked cleared forgotten signalled exited
  constructor
  all_goals simp only [goesOn, hfile]
  all_goals grind [Nested, Frame.phase_stop, Frame.writes_stop]

/-- A handler goes on within its phase. -/
theorem Held.onward {s : StopRun} {pc : StopPc} {c : Closing} {rest : List Frame} (h : s.Held)
    (hstack : s.stack = .stop pc c :: rest) (pc' : StopPc) (hphase : pc'.phase = pc.phase)
    {service : Service} (hsame : service.stopping = s.service.stopping ∧
      service.session = s.service.session ∧ service.stateFile = s.service.stateFile) :
    (s.goesOn service (.stop pc' c) rest).Held :=
  h.advance hstack pc' hsame.2.2 (.inl ⟨hphase, hsame.1, hsame.2.1⟩)

/-- A handler that returns from a stopped service. -/
theorem Held.over {s : StopRun} {pc : StopPc} {c : Closing} {rest : List Frame} (h : s.Held)
    (hstack : s.stack = .stop pc c :: rest) (hforgets : pc.phase ≠ .forgets)
    (hclears : pc.phase ≠ .clears) (hstopping : s.service.stopping = true)
    {service : Service} (hsame : service.stopping = s.service.stopping ∧
      service.session = s.service.session ∧ service.stateFile = s.service.stateFile) :
    (s.returns service rest).Held := by
  obtain ⟨nested, writing, closed, marked, cleared, forgotten, signalled, exited⟩ := h
  rw [hstack] at nested writing closed marked cleared forgotten signalled exited
  constructor
  all_goals simp only [returns, hsame]
  all_goals grind [Nested, Frame.phase_stop, Frame.writes_stop]

/-- What an exception leaves on the stack has nothing of a stop in it that was not there. -/
theorem mem_unwind {error : String} {frame : Frame} {stack : List Frame}
    (h : frame ∈ unwind error stack) : frame ∈ stack ∨
      frame.phase = none ∧ (frame.writes = true → ∃ other ∈ stack, other.writes = true) := by
  induction stack with
  | nil => simp [unwind] at h
  | cons top rest ih =>
      cases top with
      | activity a =>
          simp only [unwind, List.mem_append, List.mem_map, Option.mem_toList] at h
          rcases h with ⟨b, hb, rfl⟩ | hrest
          · refine .inr ⟨rfl, fun hw => ⟨.activity a, by simp, ?_⟩⟩
            by_contra ha
            simp [Activity.not_writes_raise (by simpa using ha) b hb] at hw
          · exact .inl (by simp [hrest])
      | stop pc c =>
          rcases ih h with hrest | ⟨hphase, hwrites⟩
          · exact .inl (by simp [hrest])
          · refine .inr ⟨hphase, fun hw => ?_⟩
            obtain ⟨other, hmem, hother⟩ := hwrites hw
            exact ⟨other, by simp [hmem], hother⟩
      | exit pc c =>
          rcases List.mem_cons.1 h with rfl | hrest
          · exact .inr ⟨rfl, by simp⟩
          · exact .inl (by simp [hrest])

/-- An exception unwinds what a handler interrupted. -/
theorem Nested.unwind {forgotten : Bool} (error : String) {stack : List Frame}
    (h : Nested forgotten stack) : Nested forgotten (unwind error stack) := by
  induction stack with
  | nil => trivial
  | cons top rest ih =>
      cases top with
      | activity a =>
          cases h
          cases hraise : a.raise error <;> simp [StopRun.unwind, Nested, hraise]
      | stop pc c => exact ih h.2
      | exit pc c => exact h

/-- A handler that raises once the session is given up. -/
theorem Held.unwound {s : StopRun} {pc : StopPc} {c : Closing} {rest : List Frame} (h : s.Held)
    (hstack : s.stack = .stop pc c :: rest) (hphase : pc.phase = .cleared) (error : String)
    {service : Service} (hsame : service.stopping = s.service.stopping ∧
      service.session = s.service.session ∧ service.stateFile = s.service.stateFile) :
    (s.returns service (unwind error rest)).Held := by
  obtain ⟨nested, writing, closed, marked, cleared, forgotten, signalled, exited⟩ := h
  rw [hstack] at nested writing closed marked cleared forgotten signalled exited
  have hnested := nested.2.unwind error
  have hunwind (frame : Frame) : frame ∈ unwind error rest → frame ∈ rest ∨
      frame.phase = none ∧ (frame.writes = true → ∃ other ∈ rest, other.writes = true) :=
    mem_unwind
  constructor
  all_goals simp only [returns, hsame]
  all_goals grind [Nested, StopRun.unwind, Frame.phase_stop, Frame.writes_stop]

/-- Once the file is removed, every handler may rely on it. -/
theorem Nested.removed {forgotten : Bool} {stack : List Frame} (h : Nested forgotten stack) :
    Nested true stack := by
  induction stack with
  | nil => trivial
  | cons top rest ih =>
      cases top with
      | stop pc c => exact ⟨.inr (.inl rfl), ih h.2⟩
      | _ => exact h

/-- The handler removes the file, and interrupts nothing that writes it. -/
theorem Held.forgetting {setup : ServiceSetup} (hresume : setup.resume = true) {s : StopRun}
    {c : Closing} {rest : List Frame} (h : s.Held) (hstack : s.stack = .stop .forgetting c :: rest)
    {unlinkFails : Bool} (hclean : Clean setup s (.go unlinkFails)) :
    (s.stopStep setup .forgetting c unlinkFails rest).Held := by
  obtain ⟨nested, writing, closed, marked, cleared, forgotten, signalled, exited⟩ := h
  rw [hstack] at nested writing closed marked cleared forgotten signalled exited
  have hclean := hclean hresume rest (by simp [interrupted, hstack])
  have hnested : Nested true rest := nested.2.removed
  simp only [stopStep, hresume, hclean.1, goesOn, Service.forget]
  constructor
  all_goals grind [Nested, Frame.phase_stop, Frame.writes_stop, StopPc.phase]

theorem Held.stop {setup : ServiceSetup} (hresume : setup.resume = true) {s : StopRun}
    {pc : StopPc} {c : Closing} {rest : List Frame} (h : s.Held)
    (hstack : s.stack = .stop pc c :: rest) {unlinkFails : Bool}
    (hclean : Clean setup s (.go unlinkFails)) : (s.stopStep setup pc c unlinkFails rest).Held := by
  cases pc with
  | forgetting => exact h.forgetting hresume hstack hclean
  | withdrawing => exact h.onward hstack .checking rfl ⟨rfl, rfl, rfl⟩
  | checking =>
      simp only [stopStep]
      split
      · next hstopping => exact h.over hstack (by decide) (by decide) hstopping ⟨rfl, rfl, rfl⟩
      · exact h.onward hstack .marking rfl ⟨rfl, rfl, rfl⟩
  | marking => exact h.advance hstack .marked rfl (.inr (.inl ⟨rfl, rfl, rfl, rfl⟩))
  | marked =>
      simp only [stopStep]
      split
      · next hsession =>
          exact h.advance hstack (.halting none) rfl (.inr (.inr ⟨rfl, rfl, rfl, hsession⟩))
      · next sess _ => exact h.onward hstack (.detaching sess) rfl ⟨rfl, rfl, rfl⟩
  | detaching sess =>
      exact h.advance hstack (.unpublishing sess) rfl (.inr (.inr ⟨rfl, rfl, rfl, rfl⟩))
  | unpublishing sess => exact h.onward hstack (.beginning sess) rfl ⟨rfl, rfl, rfl⟩
  | beginning sess =>
      simp only [stopStep]
      split
      · next error _ => exact h.unwound hstack rfl error ⟨rfl, rfl, rfl⟩
      · exact h.onward hstack (.halting (some sess)) rfl ⟨rfl, rfl, rfl⟩
  | halting sess =>
      have hstopping := h.marked (.stop (.halting sess) c) (by simp [hstack]) (.inr rfl)
      cases sess with
      | none => exact h.over hstack (by decide) (by decide) hstopping ⟨rfl, rfl, rfl⟩
      | some sess => exact h.onward hstack (.closing sess) rfl ⟨rfl, rfl, rfl⟩
  | closing sess =>
      have hsame := s.service.closeSession_leaves sess c
      simp only [stopStep]
      split
      · next sv error hclose =>
          rw [hclose] at hsame
          exact h.unwound hstack rfl error hsame
      · next sv r hclose =>
          rw [hclose] at hsame
          exact h.onward hstack .resting rfl hsame
  | resting =>
      have hstopping := h.marked (.stop .resting c) (by simp [hstack]) (.inr rfl)
      exact h.over hstack (by decide) (by decide) hstopping ⟨rfl, rfl, rfl⟩

/-- The end of the process goes on. -/
theorem Held.exit_onward {s : StopRun} {pc : ExitPc} {c : Closing} (h : s.Held)
    (hstack : s.stack = [.exit pc c]) (pc' : ExitPc) {service : Service}
    (hfile : service.stateFile = s.service.stateFile)
    (hstopping : s.service.stopping = true → service.stopping = true)
    (hclosed : service.stopping = true → service.session = none ∨ pc'.phase = some .clears)
    (hmarked : pc'.phase = some .clears → service.stopping = true) :
    (s.goesOn service (.exit pc' c) []).Held := by
  obtain ⟨nested, writing, closed, marked, cleared, forgotten, signalled, exited⟩ := h
  have hphase : pc.phase = none ∨ pc.phase = some .clears := by cases pc <;> simp [ExitPc.phase]
  have hphase' : pc'.phase = none ∨ pc'.phase = some .clears := by
    cases pc' <;> simp [ExitPc.phase]
  rw [hstack] at nested writing closed marked cleared forgotten signalled exited
  constructor
  all_goals simp only [goesOn]
  all_goals grind [Nested, Frame.phase_exit, Frame.writes_exit]

/-- Any statement of the end of the process. -/
theorem Held.exit {s : StopRun} {pc : ExitPc} {c : Closing} {rest : List Frame} (h : s.Held)
    (hstack : s.stack = .exit pc c :: rest) : (s.exitStep pc c rest).Held := by
  have hnested := h.nested
  rw [hstack] at hnested
  cases hnested
  have hclosed (hpc : pc.phase ≠ some .clears) (hstopping : s.service.stopping = true) :
      s.service.session = none := by
    simpa [hstack, hpc] using h.closed hstopping
  have hmarked (hpc : pc.phase = some .clears) : s.service.stopping = true :=
    h.marked (.exit pc c) (by simp [hstack]) (.inl hpc)
  cases pc with
  | marking => exact h.exit_onward hstack .reading rfl (by simp) (by simp [ExitPc.phase]) (by simp)
  | reading =>
      simp only [exitStep]
      split
      · next hnone =>
          exact h.exit_onward hstack .exiting rfl id (by simp [hnone]) (by simp [ExitPc.phase])
      · next sess _ =>
          exact h.exit_onward hstack (.detaching sess) rfl id (by simp [ExitPc.phase])
            (fun _ => hmarked rfl)
  | detaching sess =>
      exact h.exit_onward hstack (.closing sess) rfl id (by simp) (by simp [ExitPc.phase])
  | closing sess =>
      have hsame := s.service.closeSession_leaves sess c
      simp only [exitStep]
      split
      · next sv error hclose =>
          rw [hclose] at hsame
          obtain ⟨hstopping, hsession, hfile⟩ := hsame
          refine h.exit_onward hstack .exiting hfile hstopping.trans (fun hs => ?_)
            (by simp [ExitPc.phase])
          exact .inl (hsession.trans (hclosed (by simp [ExitPc.phase]) (hstopping.symm.trans hs)))
      · next sv r hclose =>
          rw [hclose] at hsame
          obtain ⟨hstopping, hsession, hfile⟩ := hsame
          refine h.exit_onward hstack .resting hfile hstopping.trans (fun hs => ?_)
            (by simp [ExitPc.phase])
          exact .inl (hsession.trans (hclosed (by simp [ExitPc.phase]) (hstopping.symm.trans hs)))
  | resting =>
      exact h.exit_onward hstack .exiting rfl id
        (fun hs => .inl (hclosed (by simp [ExitPc.phase]) hs)) (by simp [ExitPc.phase])
  | exiting =>
      obtain ⟨nested, writing, closed, marked, cleared, forgotten, signalled, exited⟩ := h
      rw [hstack] at closed forgotten signalled
      constructor
      all_goals simp only [exitStep, returns]
      all_goals grind [Nested, Frame.phase_exit, ExitPc.phase]

/-- What runs at the bottom of the stack. -/
theorem Held.activity {setup : ServiceSetup} {s : StopRun} {a : Activity} {rest : List Frame}
    (h : s.Held) (hstack : s.stack = .activity a :: rest) : (s.activityStep setup a rest).Held := by
  obtain ⟨nested, writing, closed, marked, cleared, forgotten, signalled, exited⟩ := h
  rw [hstack] at nested writing closed marked cleared forgotten signalled exited
  cases nested
  have hstopping := a.stopping_step setup s.service
  have hstopped (h : s.service.stopping = true) := a.step_stopped setup h
  simp only [activityStep, returns, List.append_nil]
  constructor
  all_goals simp only [hstopping]
  · cases (a.step setup s.service).2 <;> simp [Nested]
  all_goals grind [Nested, Frame.phase_activity, Frame.writes_activity]

/-- A service at rest. -/
theorem held_resting (stateFile : Option String) : (resting (Service.start stateFile)).Held := by
  constructor <;> simp [resting, Service.start, Nested]

/-- Nothing runs, and something begins that is no part of a stop yet. -/
theorem Held.begins {s s' : StopRun} (h : s.Held) (frame : Frame) (hwrites : frame.writes = false)
    (hphase : frame.phase = none ∨ frame.phase = some .marks)
    (hnested : Nested s.forgotten [frame]) (hnext : s.begins frame = some s') : s'.Held := by
  obtain ⟨nested, writing, closed, marked, cleared, forgotten, signalled, exited⟩ := h
  simp only [StopRun.begins, Option.ite_none_right_eq_some, Option.some.injEq] at hnext
  obtain ⟨⟨hstack, hexited⟩, rfl⟩ := hnext
  rw [hstack] at closed forgotten signalled
  constructor
  all_goals simp only
  all_goals grind

theorem held_next {setup : ServiceSetup} (hresume : setup.resume = true) {s s' : StopRun}
    {event : Event} (h : s.Held) (hclean : Clean setup s event)
    (hnext : s.next setup event = some s') : s'.Held := by
  cases event with
  | activity a => exact h.begins (.activity { a with pc := .entered }) rfl (.inl rfl) rfl hnext
  | configureRecording answer =>
      have hsame := s.service.configureRecording_leaves setup answer
      obtain ⟨nested, writing, closed, marked, cleared, forgotten, signalled, exited⟩ := h
      simp only [StopRun.next, Option.ite_none_right_eq_some, Option.some.injEq] at hnext
      obtain ⟨⟨hstack, hexited⟩, rfl⟩ := hnext
      constructor
      all_goals simp only [hsame]
      all_goals assumption
  | requestStop c =>
      exact h.begins (.stop .checking c) rfl (.inr rfl) ⟨.inr (.inr rfl), trivial⟩ hnext
  | shutdown c => exact h.begins (.exit .marking c) rfl (.inl rfl) rfl hnext
  | signal c =>
      obtain ⟨nested, writing, closed, marked, cleared, forgotten, signalled, exited⟩ := h
      simp only [StopRun.next, Option.ite_none_left_eq_some, Option.some.injEq] at hnext
      obtain ⟨hexited, rfl⟩ := hnext
      constructor
      all_goals simp only
      all_goals grind [Nested, Frame.phase_stop, Frame.writes_stop, StopPc.phase]
  | go unlinkFails =>
      simp only [StopRun.next] at hnext
      split at hnext
      · cases hnext
      · next a rest hstack =>
          cases hnext
          exact h.activity hstack
      · next pc c rest hstack =>
          cases hnext
          exact h.stop hresume hstack hclean
      · next pc c rest hstack =>
          cases hnext
          exact h.exit hstack

/-- **A stop forgets the remembered state**, in every run whose signals neither fail to remove
the file nor interrupt what outlives them. -/
theorem forgets_run (setup : ServiceSetup) (stateFile : Option String) {events : List Event}
    {s : StopRun}
    (hclean : Machine.Along (next setup) (Clean setup) (resting (Service.start stateFile)) events)
    (h : Machine.exec (next setup) (resting (Service.start stateFile)) events = some s) :
    s.Forgets setup := by
  intro hsignalled hexited
  have hnone : setup.resume = true → s.service.stateFile = none := by
    intro hresume
    have hheld := Machine.exec_inv_along (fun _ _ _ => held_next hresume)
      (held_resting stateFile) hclean h
    have hstack := hheld.exited hexited
    cases hheld.signalled hsignalled with
    | inl hforgotten => exact (hheld.forgotten hforgotten).1
    | inr hframe => simp [hstack] at hframe
  exact ⟨hnone, Service.recalled_of_forgotten hnone⟩

/-! ## Two runs -/

open Service (cameraSetup opensWell closesWell)

/-- The next statements. -/
def goes (n : Nat) : List Event := List.replicate n (.go false)

/-- A request that comes without settings. -/
def requesting (t : Transition) : Event :=
  .activity ⟨.request t none, .entered, opensWell, closesWell, false⟩

/-- A session is recorded, and a request is about to end it. -/
def endingSession : List Event :=
  [requesting .activate] ++ goes 19 ++ [requesting .deactivate] ++ goes 2

/-- The signal comes before `deactivate` looks for the session. -/
def stopBefore : List Event :=
  endingSession ++ [.signal closesWell] ++ goes 14 ++ [.shutdown closesWell] ++ goes 3

/-- The signal comes while `deactivate` drains the session. -/
def stopDuring : List Event :=
  endingSession ++ goes 4 ++ [.signal closesWell] ++ goes 13 ++ [.shutdown closesWell] ++ goes 3

/-- The session is closed by the stop itself. -/
theorem forgets_stopBefore :
    ∃ s, Machine.exec (next cameraSetup) (resting (Service.start none)) stopBefore = some s ∧
      s.signalled = true ∧ s.exited = true ∧ s.Forgets cameraSetup := by
  have hrun : (Machine.exec (next cameraSetup) (resting (Service.start none)) stopBefore).map
      (fun s => (s.signalled, s.exited)) = some (true, true) := by
    decide +kernel
  obtain ⟨s, hs, hfacts⟩ := Option.map_eq_some_iff.mp hrun
  rw [Prod.mk.injEq] at hfacts
  exact ⟨s, hs, hfacts.1, hfacts.2, forgets_run cameraSetup none (by decide +kernel) hs⟩

/-- The session is given up before the signal comes, and `remember` follows the drain. -/
theorem not_forgets :
    ¬ ∀ (setup : ServiceSetup) (stateFile : Option String) (events : List Event) (s : StopRun),
      Machine.exec (next setup) (resting (Service.start stateFile)) events = some s →
        s.Forgets setup := by
  intro h
  have hrun : (Machine.exec (next cameraSetup) (resting (Service.start none)) stopDuring).map
      (fun s => (s.signalled, s.exited, s.service.stateFile)) =
        some (true, true, some "inactive\n") := by
    decide +kernel
  obtain ⟨s, hs, hfacts⟩ := Option.map_eq_some_iff.mp hrun
  simp only [Prod.mk.injEq] at hfacts
  obtain ⟨hsignalled, hexited, hfile⟩ := hfacts
  have hnone := (h cameraSetup none stopDuring s hs hsignalled hexited).1 rfl
  simp [hnone] at hfile

end StopRun

end CamDriver
