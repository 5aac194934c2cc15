import CamDriver.FailingClose

/-!
# CamDriver.ExpectedSettings

An `activate` that names the settings it expects: what its reply says about the session
that is open, after any interleaving of the requests of any number of clients.

`Turns` is what one event other than a change of settings may do to the sessions and to
the revision, whether closing a session raises or not.
-/

namespace CamDriver

/-- How opening goes, where the event opens a session. -/
def ServiceEvent.opening : ServiceEvent → Option Opening
  | .boot o _ | .request _ _ o _ => some o
  | _ => none

namespace Service

/-! ## Sessions and revision -/

/-- The same session, revision and state. -/
structure Alike (s s' : Service) : Prop where
  revision : s'.revision = s.revision
  opened : s'.opened = s.opened
  session : s'.session = s.session
  lifecycle : s'.lifecycle = s.lifecycle
  down : s'.down = s.down

/-- What an event other than a change of settings does. -/
inductive Turns (setup : ServiceSetup) (o : Option Opening) (s s' : Service) : Prop where
  | kept (h : Alike s s')
  | ended (hrevision : s'.revision = s.revision) (hopened : s'.opened = s.opened)
      (hsession : s'.session = none) (hactive : s'.lifecycle = .active → s'.down = true)
  | began (index : Nat) (hrevision : s'.revision = s.revision)
      (hopened : s'.opened = s.opened ++ [⟨index, setup.generation, s.revision⟩])
      (hsession : s'.session = some ⟨index, setup.generation, s.revision⟩)
      (hclosed : s.session = none) (henabled : setup.recordingEnabled = true)
      (hopening : ∃ opening ∈ o, opening.failure = none)

theorem Alike.refl (s : Service) : Alike s s := ⟨rfl, rfl, rfl, rfl, rfl⟩

/-- No turn changes the revision. -/
theorem Turns.revision {setup : ServiceSetup} {o : Option Opening} {s s' : Service}
    (h : Turns setup o s s') : s'.revision = s.revision := by
  cases h with
  | kept h => exact h.revision
  | ended hrevision _ _ _ => exact hrevision
  | began _ hrevision _ _ _ _ _ => exact hrevision

/-- What follows a turn and leaves session and state alone is part of it. -/
theorem Turns.alike {setup : ServiceSetup} {o : Option Opening} {s s' s'' : Service}
    (h : Turns setup o s s') (h' : Alike s' s'') : Turns setup o s s'' := by
  obtain ⟨hrevision', hopened', hsession', hlifecycle', hdown'⟩ := h'
  cases h with
  | kept h =>
      exact .kept ⟨hrevision'.trans h.revision, hopened'.trans h.opened,
        hsession'.trans h.session, hlifecycle'.trans h.lifecycle, hdown'.trans h.down⟩
  | ended hrevision hopened hsession hactive =>
      exact .ended (hrevision'.trans hrevision) (hopened'.trans hopened)
        (hsession'.trans hsession) (by rw [hlifecycle', hdown']; exact hactive)
  | began index hrevision hopened hsession hclosed henabled hopening =>
      exact .began index (hrevision'.trans hrevision) (hopened'.trans hopened)
        (hsession'.trans hsession) hclosed henabled hopening

theorem Turns.of_alike {setup : ServiceSetup} {o : Option Opening} {s s' s'' : Service}
    (h : Turns setup o s' s'') (h' : Alike s s') : Turns setup o s s'' := by
  cases h with
  | kept h =>
      exact .kept ⟨h.revision.trans h'.revision, h.opened.trans h'.opened,
        h.session.trans h'.session, h.lifecycle.trans h'.lifecycle, h.down.trans h'.down⟩
  | ended hrevision hopened hsession hactive =>
      exact .ended (hrevision.trans h'.revision) (hopened.trans h'.opened) hsession hactive
  | began index hrevision hopened hsession hclosed henabled hopening =>
      rw [h'.revision] at hrevision hopened hsession
      rw [h'.opened] at hopened
      rw [h'.session] at hclosed
      exact .began index hrevision hopened hsession hclosed henabled hopening

/-- Remembering leaves them alone. -/
theorem alike_remember (setup : ServiceSetup) (s : Service) (state : LifecycleState) :
    Alike s (s.remember setup state) := by
  unfold remember
  split <;> exact ⟨rfl, rfl, rfl, rfl, rfl⟩

theorem alike_forget (setup : ServiceSetup) (s : Service) : Alike s (s.forget setup) := by
  unfold forget
  split <;> exact ⟨rfl, rfl, rfl, rfl, rfl⟩

/-- So does the end of a request. -/
theorem alike_conclude (setup : ServiceSetup) (t : Transition) (s : Service)
    (r : TransitionResult) : Alike s (s.conclude setup t r).1 := by
  unfold conclude
  simp only
  split
  · obtain ⟨hrevision, hopened, hsession, hlifecycle, hdown⟩ := alike_remember setup
      { s with lastError := textOr r.error (r.session.bind SessionInfo.error) } s.lifecycle
    exact ⟨hrevision, hopened, hsession, hlifecycle, hdown⟩
  · exact ⟨rfl, rfl, rfl, rfl, rfl⟩

/-- `deactivate` ends a session or does nothing. -/
theorem turns_deactivate (setup : ServiceSetup) (o : Option Opening) (s : Service) (c : Closing) :
    Turns setup o s (s.deactivate c).1 := by
  rcases s.deactivate_frame c with ⟨-, hsame⟩ | ⟨lifecycle, _, _, _, hne, hframe⟩
  · rw [hsame]
    exact .kept (.refl s)
  · rw [hframe]
    exact .ended rfl rfl rfl fun hactive => absurd hactive hne

theorem turns_requestStop (setup : ServiceSetup) (o : Option Opening) (s : Service) (c : Closing) :
    Turns setup o s (s.requestStop c) := by
  rcases s.requestStop_frame c with ⟨-, hsame⟩ | ⟨lifecycle, _, _, _, hmoved, hframe⟩
  · rw [hsame]
    exact .kept (.refl s)
  · rw [hframe]
    rcases hmoved with ⟨hnone, rfl⟩ | hne
    · exact .kept ⟨rfl, rfl, hnone.symm, rfl, rfl⟩
    · exact .ended rfl rfl rfl fun hactive => absurd hactive hne

/-- The shutdown leaves no session. -/
theorem shutdown_ends (s : Service) (c : Closing) :
    (s.shutdown c).revision = s.revision ∧ (s.shutdown c).opened = s.opened ∧
      (s.shutdown c).session = none ∧ (s.shutdown c).down = true := by
  obtain ⟨_, _, _, _, hframe⟩ := s.shutdown_frame c
  rw [hframe]
  exact ⟨rfl, rfl, rfl, rfl⟩

/-- It is a turn too. -/
theorem turns_shutdown (setup : ServiceSetup) (o : Option Opening) (s : Service) (c : Closing) :
    Turns setup o s (s.shutdown c) := by
  obtain ⟨hrevision, hopened, hsession, hdown⟩ := shutdown_ends s c
  exact .ended hrevision hopened hsession fun _ => hdown

/-- How an `activate` goes: refused it opens no session. -/
theorem turns_activate (setup : ServiceSetup) (s : Service) (o : Opening) :
    Turns setup (some o) s (s.activate setup o).1 ∧
      ((s.activate setup o).2.ok = false ∧ (s.activate setup o).1.opened = s.opened ∨
        (s.activate setup o).2.ok = true ∧ s.session = none ∧
          ∃ index, (s.activate setup o).1.session = some ⟨index, setup.generation, s.revision⟩ ∧
            (s.activate setup o).1.opened =
              s.opened ++ [⟨index, setup.generation, s.revision⟩]) := by
  unfold activate
  split
  · exact ⟨.kept (.refl s), .inl ⟨rfl, rfl⟩⟩
  · next henabled =>
      split
      · exact ⟨.kept (.refl s), .inl ⟨rfl, rfl⟩⟩
      · split
        · exact ⟨.kept (.refl s), .inl ⟨rfl, rfl⟩⟩
        · next hclosed =>
            have hclosed : s.session = none := by simpa using hclosed
            simp only
            split
            · next s' error hfailed =>
                obtain rfl := startSession_failed hfailed
                exact ⟨.ended rfl rfl hclosed (by simp), .inl ⟨rfl, rfl⟩⟩
            · next s' hstarted =>
                have hnone := failure_none_of_started hstarted
                obtain rfl := startSession_ok hstarted
                exact ⟨.began _ rfl rfl rfl hclosed (by simpa using henabled) ⟨o, rfl, hnone⟩,
                  .inr ⟨rfl, hclosed, _, rfl, rfl⟩⟩

/-- A request opens a session, ends one, or does neither. -/
theorem turns_request (setup : ServiceSetup) (s : Service) (requested : Requested)
    (expected : Option ExpectedSettings) (o : Opening) (c : Closing) :
    Turns setup (some o) s (s.request setup requested expected o c).1 := by
  cases requested with
  | unknown repr => exact .kept (.refl s)
  | known t =>
      unfold request
      simp only
      split
      · exact .kept (.refl s)
      · split
        · exact .kept (.refl s)
        · cases t with
          | activate =>
              simp only
              split
              · exact .kept (.refl s)
              · split
                · exact .kept (.refl s)
                · exact (turns_activate setup s o).1.alike (alike_conclude setup _ _ _)
          | deactivate =>
              have hturns := turns_deactivate setup (some o) s c
              simp only
              split
              · next s' error hraised =>
                  rw [hraised] at hturns
                  exact hturns.alike (alike_conclude setup _ _ _)
              · next s' r hok =>
                  rw [hok] at hturns
                  exact hturns.alike (alike_conclude setup _ _ _)

/-- A session error ends one. -/
theorem turns_onSessionError (setup : ServiceSetup) (o : Option Opening) (s : Service)
    (index : Nat) (c : Closing) : Turns setup o s (s.onSessionError setup index c) := by
  have hturns := turns_deactivate setup o s c
  unfold onSessionError
  split
  · exact .kept (.refl s)
  · split
    · next s' error hraised =>
        rw [hraised] at hturns
        exact hturns
    · next s' r hok =>
        rw [hok] at hturns
        have hsame : Alike s' (s'.onUncommandedEnd setup r) := by
          obtain ⟨hrevision, hopened, hsession, hlifecycle, hdown⟩ := alike_remember setup
            { s' with lastError := textOr r.error (textOr (r.session.bind SessionInfo.error)
              (some "recording session ended on an error")) } .inactive
          exact ⟨hrevision, hopened, hsession, hlifecycle, hdown⟩
        simp only
        split
        · exact (hturns.alike hsame).alike ⟨rfl, rfl, rfl, rfl, rfl⟩
        · exact hturns.alike hsame

/-- So does the end of a playback. -/
theorem turns_onWatchdog (setup : ServiceSetup) (o : Option Opening) (s : Service)
    (source : SourceState) (c : Closing) : Turns setup o s (s.onWatchdog setup source c) := by
  unfold onWatchdog
  split
  · exact .kept (.refl s)
  · split
    · exact .kept ⟨rfl, rfl, rfl, rfl, rfl⟩
    · split
      · split
        · exact (turns_requestStop setup o _ c).of_alike ⟨rfl, rfl, rfl, rfl, rfl⟩
        · split
          · exact (turns_requestStop setup o _ c).of_alike ⟨rfl, rfl, rfl, rfl, rfl⟩
          · split
            · exact .kept (.refl s)
            · simp only
              split
              · exact .kept ⟨rfl, rfl, rfl, rfl, rfl⟩
              · have hturns : Turns setup o s ({ s with held := true }.deactivate c).1 :=
                  (turns_deactivate setup o { s with held := true } c).of_alike
                    ⟨rfl, rfl, rfl, rfl, rfl⟩
                split
                · next s' error hraised =>
                    rw [hraised] at hturns
                    exact hturns.alike ⟨rfl, rfl, rfl, rfl, rfl⟩
                · next s' r hok =>
                    rw [hok] at hturns
                    exact hturns.alike (alike_remember setup s' .inactive)
      · exact .kept ⟨rfl, rfl, rfl, rfl, rfl⟩

/-- What a request to activate comes to. -/
theorem request_activate_cases (setup : ServiceSetup) (s : Service)
    (expected : Option ExpectedSettings) (o : Opening) (c : Closing) :
    (s.lifecycle = .active ∧
        s.request setup (.known .activate) expected o c = (s, s.result setup true none true)) ∨
      (∃ error, s.request setup (.known .activate) expected o c =
        (s, s.result setup false (some error) false)) ∨
      (expected.elim (.ok ()) (s.checkRecordingSettings setup) = .ok () ∧
        s.request setup (.known .activate) expected o c =
          (s.activate setup o).1.conclude setup .activate (s.activate setup o).2) := by
  unfold request
  simp only
  split
  · next hactive => exact .inl ⟨hactive, rfl⟩
  · split
    · exact .inr (.inl ⟨_, rfl⟩)
    · split
      · exact .inr (.inl ⟨_, rfl⟩)
      · split
        · exact .inr (.inl ⟨_, rfl⟩)
        · next hcheck => exact .inr (.inr ⟨hcheck, rfl⟩)

/-- An `activate` that is refused opens no session. -/
theorem opened_refused {setup : ServiceSetup} {s : Service} {expected : Option ExpectedSettings}
    {o : Opening} {c : Closing}
    (h : (s.request setup (.known .activate) expected o c).2.ok = false) :
    (s.request setup (.known .activate) expected o c).1.opened = s.opened := by
  rcases request_activate_cases setup s expected o c with ⟨-, hr⟩ | ⟨error, hr⟩ | ⟨-, hr⟩
  · rw [hr]
  · rw [hr]
  · rw [hr] at h ⊢
    rw [(alike_conclude setup .activate _ _).opened]
    rcases (turns_activate setup s o).2 with ⟨-, hopened⟩ | ⟨hok, -⟩
    · exact hopened
    · simp [conclude, result, hok] at h

/-- Booting opens one at most. -/
theorem turns_boot (setup : ServiceSetup) (s : Service) (o : Opening) (c : Closing) :
    Turns setup (some o) s (s.boot setup o c) := by
  unfold boot
  simp only
  split
  · have hturns : Turns setup (some o) s (({ s with
        bootReason := some (s.resolveBootState setup).2 } : Service).request setup
          (.known .activate) none o c).1 :=
      (turns_request setup _ (.known .activate) none o c).of_alike ⟨rfl, rfl, rfl, rfl, rfl⟩
    split
    · exact hturns
    · next hrefused =>
        have hsame := opened_refused (by simpa using hrefused)
        obtain ⟨hrevision, hopened, hsession, hdown⟩ := shutdown_ends _ c
        exact .ended (hrevision.trans hturns.revision) (hopened.trans hsame) hsession
          fun _ => hdown
  · exact .kept ⟨rfl, rfl, rfl, rfl, rfl⟩

/-- **What an event does** that is no change of settings. -/
theorem turns_handle (setup : ServiceSetup) (s : Service) {event : ServiceEvent}
    (h : ∀ answer, event ≠ .configureRecording answer) :
    Turns setup event.opening s (s.handle setup event).1 := by
  cases event with
  | boot o c =>
      simp only [handle]
      split
      · exact .kept (.refl s)
      · exact turns_boot setup s o c
  | request requested expected o c => exact turns_request setup s requested expected o c
  | configureRecording answer => exact absurd rfl (h answer)
  | sessionError index c => exact turns_onSessionError setup none s index c
  | fragment index => exact .kept (.refl s)
  | progressTick =>
      simp only [handle, onProgressTick]
      split <;> exact .kept ⟨rfl, rfl, rfl, rfl, rfl⟩
  | watchdog source c => exact turns_onWatchdog setup none s source c
  | requestStop c => exact turns_requestStop setup none s c
  | signalStop c => exact (turns_requestStop setup none _ c).of_alike (alike_forget setup s)
  | shutdown c => exact turns_shutdown setup none s c

/-- A change of settings is no matter of sessions. -/
theorem configureRecording_cases (setup : ServiceSetup) (s : Service) (answer : Configured) :
    Alike s (s.configureRecording setup answer).1 ∨
      (s.lifecycle = .inactive ∧ s.session = none ∧ answer = .changed ∧
        (s.configureRecording setup answer).1 =
          { s with lastError := none, revision := s.revision + 1 }) := by
  unfold configureRecording
  split
  · exact .inl (.refl s)
  · next hlocked =>
      cases answer with
      | raised error => exact .inl (.refl s)
      | noop => exact .inl ⟨rfl, rfl, rfl, rfl, rfl⟩
      | changed =>
          simp only [ne_eq, not_or, not_not, Option.not_isSome_iff_eq_none] at hlocked
          exact .inr ⟨hlocked.1, hlocked.2.2.2, rfl, rfl⟩

/-! ## The settings of the open session -/

/-- An active service has a session open, and a session has the settings of now: they do not
change while one is open. -/
structure Settled (setup : ServiceSetup) (s : Service) : Prop where
  active : s.lifecycle = .active → s.down = false → s.session.isSome = true
  settings : ∀ sess ∈ s.session, sess.generation = setup.generation ∧ sess.revision = s.revision

/-- A service that has been built. -/
theorem settled_start (setup : ServiceSetup) (stateFile : Option String) :
    (start stateFile).Settled setup :=
  ⟨by simp [start], by simp [start]⟩

/-- A turn keeps it settled. -/
theorem Settled.turns {setup : ServiceSetup} {o : Option Opening} {s s' : Service}
    (h : s.Settled setup) (hup : s.down = false) (hturns : Turns setup o s s') :
    s'.Settled setup := by
  cases hturns with
  | kept hsame =>
      obtain ⟨hrevision, -, hsession, hlifecycle, hdown⟩ := hsame
      constructor
      · rw [hlifecycle, hsession]
        exact fun hactive _ => h.active hactive hup
      · rw [hsession, hrevision]
        exact h.settings
  | ended hrevision hopened hsession hactive =>
      constructor
      · intro hstill hup'
        simp [hactive hstill] at hup'
      · simp [hsession]
  | began index hrevision hopened hsession hclosed henabled hopening =>
      constructor
      · simp [hsession]
      · simp [hsession, hrevision]

theorem settled_step {setup : ServiceSetup} {s : Service} (h : s.Settled setup)
    (event : ServiceEvent) : (s.step setup event).1.Settled setup := by
  cases hdown : s.down with
  | true =>
      rw [step_of_down hdown]
      exact h
  | false =>
      rw [step_of_up hdown]
      by_cases hchange : ∃ answer, event = .configureRecording answer
      · obtain ⟨answer, rfl⟩ := hchange
        rcases configureRecording_cases setup s answer with hsame | ⟨hidle, hnone, -, hchanged⟩
        · exact h.turns hdown (.kept (o := none) hsame)
        · simp only [handle, Prod.map, hchanged]
          exact ⟨by simp [hidle], by simp [hnone]⟩
      · exact h.turns hdown (turns_handle setup s fun answer heq => hchange ⟨answer, heq⟩)

theorem settled_run (setup : ServiceSetup) (stateFile : Option String)
    (events : List ServiceEvent) :
    (Machine.final (step setup) (start stateFile) events).Settled setup := by
  induction events using List.reverseRecOn with
  | nil => exact settled_start setup stateFile
  | append_singleton events event ih =>
      rw [Machine.final_append]
      exact settled_step ih event

/-! ## The reply -/

/-- What the reply says of the session that is open after it. -/
structure Expects (setup : ServiceSetup) (expected : ExpectedSettings) (s s' : Service)
    (reply : LifecycleReply) : Prop where
  /-- a session that is recording has the settings of the reply's descriptor -/
  open_ : reply.ok = true → ∃ sess, s'.session = some sess ∧
    sess.generation = reply.descriptor.generation ∧ sess.revision = reply.descriptor.revision
  /-- one that the request has opened has the settings it names -/
  named : reply.ok = true → reply.noop = false → s.session = none ∧
    ∃ sess, s'.session = some sess ∧ s'.opened = s.opened ++ [sess] ∧
      expected.generation = some sess.generation ∧ expected.revision = some (sess.revision : Int)
  /-- nothing happens to a service that is active -/
  noop : reply.noop = true → reply.ok = true ∧ s.lifecycle = .active ∧ s' = s
  /-- settings that are not those of now are refused, except to an active service -/
  refused : (¬ (expected.isDict = true ∧ expected.generation = some setup.generation ∧
      expected.revision = some (s.revision : Int))) → reply.ok = false ∨ reply.noop = true

/-- A reply of the service, at any time. -/
theorem expects_request (setup : ServiceSetup) {s : Service} (h : s.Settled setup)
    (hup : s.down = false) (expected : ExpectedSettings) (o : Opening) (c : Closing) :
    Expects setup expected s (s.request setup (.known .activate) (some expected) o c).1
      (s.request setup (.known .activate) (some expected) o c).2 := by
  have hsettled := h.turns hup (turns_request setup s (.known .activate) (some expected) o c)
  rcases request_activate_cases setup s (some expected) o c with
    ⟨hactive, hr⟩ | ⟨error, hr⟩ | ⟨hcheck, hr⟩
  · rw [hr]
    obtain ⟨sess, hsess⟩ := Option.isSome_iff_exists.1 (h.active hactive hup)
    have hsettings := h.settings sess hsess
    exact
      { open_ := fun _ => ⟨sess, hsess, hsettings⟩
        named := fun _ hnoop => by simp [result] at hnoop
        noop := fun _ => ⟨rfl, hactive, rfl⟩
        refused := fun _ => .inr rfl }
  · rw [hr]
    exact
      { open_ := fun hok => by simp [result] at hok
        named := fun hok => by simp [result] at hok
        noop := fun hnoop => by simp [result] at hnoop
        refused := fun _ => .inl rfl }
  · have hnamed : expected.isDict = true ∧ expected.generation = some setup.generation ∧
        expected.revision = some (s.revision : Int) := by
      simpa [checkRecordingSettings] using hcheck
    have hsame := alike_conclude setup .activate (s.activate setup o).1 (s.activate setup o).2
    have hok : ((s.activate setup o).1.conclude setup .activate (s.activate setup o).2).2.ok =
        (s.activate setup o).2.ok := rfl
    have hrevision := hsame.revision.trans (turns_activate setup s o).1.revision
    rw [hr]
    rcases (turns_activate setup s o).2 with
      ⟨hno, -⟩ | ⟨hyes, hclosed, index, hsession, hopened⟩
    · exact
        { open_ := fun h => by simp [hok, hno] at h
          named := fun h => by simp [hok, hno] at h
          noop := fun h => by simp [conclude, result] at h
          refused := fun _ => .inl (hok.trans hno) }
    · exact
        { open_ := fun _ => ⟨_, hsame.session.trans hsession, rfl, hrevision.symm⟩
          named := fun _ _ => ⟨hclosed, _, hsame.session.trans hsession,
            hsame.opened.trans hopened, hnamed.2.1, hnamed.2.2⟩
          noop := fun h => by simp [conclude, result] at h
          refused := fun h => absurd hnamed h }

/-- **An activate that names settings**: whatever other clients have done before, the session
that it opens has just these settings. -/
theorem expects_run (setup : ServiceSetup) (stateFile : Option String)
    (events : List ServiceEvent) (expected : ExpectedSettings) (o : Opening) (c : Closing)
    {reply : LifecycleReply}
    (hreply : ((Machine.final (step setup) (start stateFile) events).step setup
      (.request (.known .activate) (some expected) o c)).2 = some reply) :
    Expects setup expected (Machine.final (step setup) (start stateFile) events)
      ((Machine.final (step setup) (start stateFile) events).step setup
        (.request (.known .activate) (some expected) o c)).1 reply := by
  have hsettled := settled_run setup stateFile events
  generalize Machine.final (step setup) (start stateFile) events = s at hreply hsettled ⊢
  cases hdown : s.down with
  | true =>
      rw [step_of_down hdown] at hreply
      cases hreply
  | false =>
      rw [step_of_up hdown] at hreply ⊢
      cases hreply
      exact expects_request setup hsettled hdown expected o c

/-! ## Two clients -/

/-- Another client has changed the settings once. -/
def reviewed : List ServiceEvent := [.configureRecording .changed]

/-- The settings of a revision. -/
def atRevision (revision : Int) : ExpectedSettings := ⟨true, some "g", some revision⟩

/-- The settings are changed, reviewed, and then recorded with. -/
theorem expects_reviewed :
    ∃ reply, ((Machine.final (step cameraSetup) (start none) reviewed).step cameraSetup
        (.request (.known .activate) (some (atRevision 1)) opensWell closesWell)).2 =
          some reply ∧ reply.ok = true ∧ reply.noop = false ∧
      Expects cameraSetup (atRevision 1)
        (Machine.final (step cameraSetup) (start none) reviewed)
        ((Machine.final (step cameraSetup) (start none) reviewed).step cameraSetup
          (.request (.known .activate) (some (atRevision 1)) opensWell closesWell)).1 reply := by
  have hrun : (((Machine.final (step cameraSetup) (start none) reviewed).step cameraSetup
      (.request (.known .activate) (some (atRevision 1)) opensWell closesWell)).2).map
        (fun reply => (reply.ok, reply.noop)) = some (true, false) := by
    decide +kernel
  obtain ⟨reply, hreply, hfacts⟩ := Option.map_eq_some_iff.mp hrun
  rw [Prod.mk.injEq] at hfacts
  exact ⟨reply, hreply, hfacts.1, hfacts.2,
    expects_run cameraSetup none reviewed (atRevision 1) opensWell closesWell hreply⟩

/-- The other client has also started a recording; an `activate` with the settings of before
is answered as one that had nothing to do. -/
theorem not_recordsExpected :
    ¬ ∀ (setup : ServiceSetup) (stateFile : Option String) (events : List ServiceEvent)
      (expected : ExpectedSettings) (o : Opening) (c : Closing) (reply : LifecycleReply),
      ((Machine.final (step setup) (start stateFile) events).step setup
        (.request (.known .activate) (some expected) o c)).2 = some reply → reply.ok = true →
      ∃ sess, ((Machine.final (step setup) (start stateFile) events).step setup
          (.request (.known .activate) (some expected) o c)).1.session = some sess ∧
        expected.generation = some sess.generation ∧
        expected.revision = some (sess.revision : Int) := by
  intro h
  have hrun : (((Machine.final (step cameraSetup) (start none) (reviewed ++
      [.request (.known .activate) (some (atRevision 1)) opensWell closesWell])).step cameraSetup
        (.request (.known .activate) (some (atRevision 0)) opensWell closesWell)).2).map
          LifecycleReply.ok = some true := by
    decide +kernel
  obtain ⟨reply, hreply, hok⟩ := Option.map_eq_some_iff.mp hrun
  obtain ⟨sess, hsess, -, hrevision⟩ := h cameraSetup none _ (atRevision 0) opensWell closesWell
    reply hreply hok
  have hopen : ((Machine.final (step cameraSetup) (start none) (reviewed ++
      [.request (.known .activate) (some (atRevision 1)) opensWell closesWell])).step cameraSetup
        (.request (.known .activate) (some (atRevision 0)) opensWell closesWell)).1.session =
          some ⟨1, "g", 1⟩ := by
    decide +kernel
  rw [hopen] at hsess
  cases hsess
  simp [atRevision] at hrevision

end Service

end CamDriver
