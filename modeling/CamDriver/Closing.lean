import CamDriver.Lib.Machine
import CamDriver.Session

/-!
# CamDriver.Closing

`RecordingSession` while it is fed and closed, statement by statement: `push` calls under
`lock`, `begin_close` calls under `_close_lock`, the bus, and `finish_close`.

Calls that wait for a lock are not part of the state: the call that holds it is, with its
place in the code, and any other may take it when it is free.  The appsrc answers EOS to
pushes once end-of-stream is emitted, and lets one that waits for room go on.

`PushMove` says once what a statement of a push can do, `Books` what is accepted, counted
and written at every statement.
-/

namespace CamDriver

/-! ## The state -/

/-- A frame that is pushed, with the size of its payload. -/
structure PushedFrame where
  row : SidecarRow
  size : Nat
deriving DecidableEq, Repr

/-- Where the push that holds `lock` is. -/
inductive PushPc where
  | locked
  /-- `_closing` and `closed` were false -/
  | notClosing
  /-- there is no error, and there is an appsrc -/
  | isOpen
  /-- the gate has let the frame through -/
  | gated
  /-- the queue bound has let it through -/
  | bounded
  /-- in push-buffer -/
  | pushing
  | flowed (flow : FlowReturn)
  /-- `frames` is counted, the row is next -/
  | counted
  | leaving (flow : Option FlowReturn) (result : PushResult)
deriving DecidableEq, Repr

/-- Where the `begin_close` that holds `_close_lock` is; `eosSent` is its local. -/
inductive CloserPc where
  | entered
  /-- `_closing` is set -/
  | marked
  | decided (eosSent : Bool)
  /-- it waits for `lock` -/
  | joining (eosSent : Bool)
  | joined (eosSent : Bool)
  /-- `closed` is set -/
  | shut (eosSent : Bool)
  | unlocking
  | leaving
deriving DecidableEq, Repr

/-- Where `finish_close` is. -/
inductive FinishPc where
  | notStarted
  | started
  /-- in `timed_pop_filtered` -/
  | popping
  | tearing
  | reporting
  | done (truncated error : Bool)
deriving DecidableEq, Repr

/-- A message on the bus. -/
inductive BusMessage where
  | eos | error
deriving DecidableEq, Repr

/-- A push that is over: what push-buffer returned to it, if it came so far, and its
answer. -/
structure PushDone where
  frame : PushedFrame
  flow : Option FlowReturn
  result : PushResult
deriving DecidableEq, Repr

/-- How a session is set up: its appsrc, and whether `finish_close` waits for the drain. -/
structure CloseSetup where
  blocking : Bool
  maxBytes : Nat
  encoded : Bool
  drains : Bool
deriving DecidableEq, Repr

/-- A session while it is fed and closed.  `accepted` is what the appsrc took, `rows` what
`sidecar.add` was called with. -/
structure ClosingSession where
  push : Option (PushedFrame × PushPc)
  close : Option CloserPc
  finish : FinishPc
  closing : Bool
  closed : Bool
  error : Bool
  awaitKey : Bool
  hasFirst : Bool
  frames : Nat
  rows : List PushedFrame
  results : List PushDone
  /-- `_appsrc` is there -/
  appsrc : Bool
  accepted : List PushedFrame
  level : Nat
  eosEmitted : Nat
  /-- `begin_close` calls that have returned -/
  returned : Nat
  bus : List BusMessage
  watch : Bool
  eosSeen : Bool
  eosPopped : Bool
  truncated : Bool
deriving DecidableEq, Repr

namespace ClosingSession

/-- A started session. -/
def start (setup : CloseSetup) : ClosingSession :=
  { push := none, close := none, finish := .notStarted, closing := false, closed := false,
    error := false, awaitKey := setup.encoded, hasFirst := false, frames := 0, rows := [],
    results := [], appsrc := true, accepted := [], level := 0, eosEmitted := 0, returned := 0,
    bus := [], watch := true, eosSeen := false, eosPopped := false, truncated := false }

/-! ## One statement -/

/-- What the outside answers to one statement of a push. -/
structure PushAnswer where
  syncPoint : Bool
  headerWritten : Bool
  /-- the pipeline takes buffers -/
  flowOk : Bool
deriving DecidableEq, Repr

/-- The queue has no room for a push that would wait. -/
def isFull (setup : CloseSetup) (s : ClosingSession) : Bool :=
  setup.maxBytes ≠ 0 ∧ setup.maxBytes ≤ s.level

/-- The push of `frame` goes on to `pc`. -/
def at_ (s : ClosingSession) (frame : PushedFrame) (pc : PushPc) : ClosingSession :=
  { s with push := some (frame, pc) }

/-- The push of `frame` has its answer. -/
def answers (s : ClosingSession) (frame : PushedFrame) (flow : Option FlowReturn)
    (result : PushResult) : ClosingSession :=
  s.at_ frame (.leaving flow result)

/-- One statement of `push`. -/
def pushStep (setup : CloseSetup) (env : PushAnswer) (s : ClosingSession) (frame : PushedFrame) :
    PushPc → Option ClosingSession
  | .locked =>
    some (if s.closing ∨ s.closed then s.answers frame none .skipped else s.at_ frame .notClosing)
  | .notClosing =>
    some (if s.error ∨ ¬ s.appsrc then s.answers frame none .skipped else s.at_ frame .isOpen)
  | .isOpen =>
    if s.awaitKey ∧ ¬ env.syncPoint then some (s.answers frame none .skipped)
    else some ({ s with awaitKey := false }.at_ frame .gated)
  | .gated =>
    some (if ¬ setup.blocking ∧ setup.maxBytes ≠ 0 ∧ setup.maxBytes < s.level + frame.size then
        s.answers frame none .dropped
      else s.at_ frame .bounded)
  | .bounded =>
    if s.hasFirst then some (s.at_ frame .pushing)
    else if env.headerWritten then some ({ s with hasFirst := true }.at_ frame .pushing)
    else some ({ s with hasFirst := true, error := true }.answers frame none .dropped)
  | .pushing =>
    if ¬ env.flowOk then some (s.at_ frame (.flowed .other))
    else if 0 < s.eosEmitted then some (s.at_ frame (.flowed .eos))
    else if setup.blocking ∧ s.isFull setup then none
    else
      some ({ s with accepted := s.accepted ++ [frame], level := s.level + frame.size }.at_ frame
        (.flowed .ok))
  | .flowed .ok => some ({ s with frames := s.frames + 1 }.at_ frame .counted)
  | .flowed .eos =>
    some (s.answers frame (some .eos) (if s.closing then .skipped else .dropped))
  | .flowed .other => some (s.answers frame (some .other) .dropped)
  | .counted => some ({ s with rows := s.rows ++ [frame] }.answers frame (some .ok) .ok)
  | .leaving flow result =>
    some { s with push := none, results := s.results ++ [⟨frame, flow, result⟩] }

/-- A `begin_close` holds `lock`. -/
def closeHoldsLock (s : ClosingSession) : Bool :=
  match s.close with
  | some (.joined _) | some (.shut _) | some .unlocking => true
  | _ => false

/-- One statement of `begin_close`. -/
def closeStep (setup : CloseSetup) (s : ClosingSession) : CloserPc → Option ClosingSession
  | .entered =>
    some (if s.closed then { s with close := some .leaving }
      else { s with closing := true, close := some .marked })
  | .marked =>
    some { s with close := some (.decided (s.appsrc && 0 < s.frames && setup.blocking)) }
  | .decided eosSent =>
    some { s with
      eosEmitted := if eosSent then s.eosEmitted + 1 else s.eosEmitted
      close := some (.joining eosSent) }
  | .joining eosSent =>
    if s.push.isNone then some { s with close := some (.joined eosSent) } else none
  | .joined eosSent => some { s with closed := true, close := some (.shut eosSent) }
  | .shut eosSent =>
    some { s with
      eosEmitted := if s.appsrc ∧ 0 < s.frames ∧ ¬ eosSent then s.eosEmitted + 1 else s.eosEmitted
      close := some .unlocking }
  | .unlocking => some { s with close := some .leaving }
  | .leaving => some { s with close := none, returned := s.returned + 1 }

/-- One statement of `finish_close`; `timedOut`: the pop found nothing in time. -/
def finishStep (setup : CloseSetup) (timedOut : Bool) (s : ClosingSession) :
    FinishPc → Option ClosingSession
  | .notStarted =>
    if 0 < s.returned then some { s with watch := false, finish := .started } else none
  | .started =>
    some (if s.error then { s with truncated := true, finish := .tearing }
      else if s.frames = 0 ∨ s.eosSeen then { s with finish := .tearing }
      else if setup.drains then { s with finish := .popping }
      else { s with truncated := true, finish := .tearing })
  | .popping =>
    match timedOut, s.bus with
    | true, _ => some { s with truncated := true, finish := .tearing }
    | false, .eos :: bus => some { s with bus := bus, eosPopped := true, finish := .tearing }
    | false, .error :: bus =>
      some { s with bus := bus, error := true, truncated := true, finish := .tearing }
    | false, [] => none
  | .tearing => some { s with appsrc := false, finish := .reporting }
  | .reporting => some { s with finish := .done s.truncated s.error }
  | .done _ _ => none

/-- What happens to a session. -/
inductive Step where
  /-- a push takes `lock` -/
  | enter (frame : PushedFrame)
  | push (env : PushAnswer)
  /-- a `begin_close` takes `_close_lock` -/
  | beginClose
  | close
  | finish (timedOut : Bool)
  /-- the recorder takes bytes from the queue -/
  | drain (bytes : Nat)
  | post (message : BusMessage)
  /-- the main loop hands a message to `_on_bus` -/
  | dispatch
deriving DecidableEq, Repr

/-- One step; a pipeline posts EOS only after end-of-stream. -/
def next (setup : CloseSetup) (s : ClosingSession) : Step → Option ClosingSession
  | .enter frame =>
    if s.push.isNone ∧ ¬ s.closeHoldsLock then some (s.at_ frame .locked) else none
  | .push env => s.push.bind fun p => s.pushStep setup env p.1 p.2
  | .beginClose => if s.close.isNone then some { s with close := some .entered } else none
  | .close => s.close.bind (s.closeStep setup)
  | .finish timedOut => s.finishStep setup timedOut s.finish
  | .drain bytes => some { s with level := s.level - bytes }
  | .post .eos => if 0 < s.eosEmitted then some { s with bus := s.bus ++ [.eos] } else none
  | .post .error => some { s with bus := s.bus ++ [.error] }
  | .dispatch =>
    if s.watch then
      match s.bus with
      | [] => none
      | .eos :: bus => some { s with bus := bus, eosSeen := true }
      | .error :: bus => some { s with bus := bus, error := true }
    else none

/-! ## What one statement of a push can do -/

end ClosingSession

/-- The push has found the session open, and push-buffer has not returned. -/
def PushPc.accepting : PushPc → Bool
  | .notClosing | .isOpen | .gated | .bounded | .pushing => true
  | _ => false

namespace ClosingSession

/-- The effect of one statement of a push. -/
inductive PushMove (s : ClosingSession) (frame : PushedFrame) : PushPc → ClosingSession → Prop
  | looksIn (hclosing : s.closing = false) (hclosed : s.closed = false) :
      PushMove s frame .locked (s.at_ frame .notClosing)
  | goesOn {pc pc' : PushPc} (awaitKey hasFirst : Bool) (hpc : pc.accepting = true)
      (hpc' : pc'.accepting = true) :
      PushMove s frame pc ({ s with awaitKey := awaitKey, hasFirst := hasFirst }.at_ frame pc')
  | accepts (heos : s.eosEmitted = 0) :
      PushMove s frame .pushing
        ({ s with accepted := s.accepted ++ [frame], level := s.level + frame.size }.at_ frame
          (.flowed .ok))
  | returns (flow : FlowReturn) (hflow : flow = .other ∨ flow = .eos ∧ 0 < s.eosEmitted) :
      PushMove s frame .pushing (s.at_ frame (.flowed flow))
  | counts : PushMove s frame (.flowed .ok) ({ s with frames := s.frames + 1 }.at_ frame .counted)
  | writes :
      PushMove s frame .counted
        ({ s with rows := s.rows ++ [frame] }.answers frame (some .ok) .ok)
  | refuses {pc : PushPc} (hasFirst error : Bool) {flow : Option FlowReturn} {result : PushResult}
      (hpc : pc = .locked ∨ pc.accepting = true ∨ pc = .flowed .other)
      (herror : s.error = true → error = true) (hflow : flow ≠ some .eos) (hresult : result ≠ .ok) :
      PushMove s frame pc
        ({ s with hasFirst := hasFirst, error := error }.answers frame flow result)
  | isCancelled :
      PushMove s frame (.flowed .eos)
        (s.answers frame (some .eos) (if s.closing then .skipped else .dropped))
  | leaves {flow : Option FlowReturn} {result : PushResult} :
      PushMove s frame (.leaving flow result)
        { s with push := none, results := s.results ++ [⟨frame, flow, result⟩] }

/-- What one statement of a push can do to the session, with the guards it has passed. -/
theorem pushMove_of_pushStep {setup : CloseSetup} {env : PushAnswer} {s s' : ClosingSession}
    {frame : PushedFrame} {pc : PushPc} (hs : s.pushStep setup env frame pc = some s') :
    s.PushMove frame pc s' := by
  cases pc with
  | locked =>
      simp only [pushStep] at hs
      split at hs
      · cases hs
        exact .refuses s.hasFirst s.error (.inl rfl) id nofun nofun
      · next hopen =>
          cases hs
          obtain ⟨hclosing, hclosed⟩ : s.closing = false ∧ s.closed = false := by
            simpa [not_or] using hopen
          exact .looksIn hclosing hclosed
  | notClosing =>
      simp only [pushStep] at hs
      split at hs
      · cases hs
        exact .refuses s.hasFirst s.error (.inr (.inl rfl)) id nofun nofun
      · cases hs
        exact .goesOn s.awaitKey s.hasFirst rfl rfl
  | isOpen =>
      simp only [pushStep] at hs
      split at hs
      · cases hs
        exact .refuses s.hasFirst s.error (.inr (.inl rfl)) id nofun nofun
      · cases hs
        exact .goesOn false s.hasFirst rfl rfl
  | gated =>
      simp only [pushStep] at hs
      split at hs
      · cases hs
        exact .refuses s.hasFirst s.error (.inr (.inl rfl)) id nofun nofun
      · cases hs
        exact .goesOn s.awaitKey s.hasFirst rfl rfl
  | bounded =>
      simp only [pushStep] at hs
      split at hs
      · cases hs
        exact .goesOn s.awaitKey s.hasFirst rfl rfl
      · split at hs
        · cases hs
          exact .goesOn s.awaitKey true rfl rfl
        · cases hs
          exact .refuses true true (.inr (.inl rfl)) (fun _ => rfl) nofun nofun
  | pushing =>
      simp only [pushStep] at hs
      split at hs
      · cases hs
        exact .returns .other (.inl rfl)
      · split at hs
        · next heos =>
            cases hs
            exact .returns .eos (.inr ⟨rfl, heos⟩)
        · next heos =>
            split at hs
            · cases hs
            · cases hs
              exact .accepts (by omega)
  | flowed flow =>
      cases flow with
      | ok =>
          cases hs
          exact .counts
      | eos =>
          cases hs
          exact .isCancelled
      | other =>
          cases hs
          exact .refuses s.hasFirst s.error (.inr (.inr rfl)) id nofun nofun
  | counted =>
      cases hs
      exact .writes
  | leaving flow result =>
      cases hs
      exact .leaves

/-! ## The books: what is accepted, counted and written -/

end ClosingSession

namespace PushPc

/-- The frame the appsrc has taken and whose row is to come. -/
def unwritten (frame : PushedFrame) : PushPc → List PushedFrame
  | .flowed .ok | .counted => [frame]
  | _ => []

/-- One, where that frame is not counted yet either. -/
def uncounted : PushPc → Nat
  | .flowed .ok => 1
  | _ => 0

/-- The frame whose row is written and whose answer is to come. -/
def unanswered (frame : PushedFrame) : PushPc → List PushedFrame
  | .leaving _ .ok => [frame]
  | _ => []

/-- Nothing of the frame is in the books. -/
structure Quiet (pc : PushPc) (frame : PushedFrame) : Prop where
  unwritten : pc.unwritten frame = []
  uncounted : pc.uncounted = 0
  unanswered : pc.unanswered frame = []

/-- A push that has not reached the appsrc has counted nothing yet. -/
theorem quiet_of_accepting {pc : PushPc} (h : pc.accepting = true) (frame : PushedFrame) :
    pc.Quiet frame := by
  cases pc <;> first | exact ⟨rfl, rfl, rfl⟩ | cases h

/-- A push that was refused leaves without a frame to account for. -/
theorem quiet_of_refused {flow : Option FlowReturn} {result : PushResult} (h : result ≠ .ok)
    (frame : PushedFrame) : (leaving flow result).Quiet frame := by
  cases result <;> first | exact ⟨rfl, rfl, rfl⟩ | contradiction

end PushPc

namespace ClosingSession

/-- The frames of the pushes that were answered `ok`. -/
def pushed (s : ClosingSession) : List PushedFrame :=
  (s.results.filter fun d => d.result = .ok).map PushDone.frame

/-- The appsrc, the counter, the sidecar and the answers agree, up to a push at `pc`. -/
structure BooksAt (s : ClosingSession) (frame : PushedFrame) (pc : PushPc) : Prop where
  accepted : s.accepted = s.rows ++ pc.unwritten frame
  frames : s.accepted.length = s.frames + pc.uncounted
  rows : s.rows = s.pushed ++ pc.unanswered frame

/-- They agree. -/
structure Balanced (s : ClosingSession) : Prop where
  accepted : s.accepted = s.rows
  frames : s.rows.length = s.frames
  rows : s.rows = s.pushed

/-- While a push is quiet the books need no correction for it. -/
theorem balanced_iff {s : ClosingSession} {frame : PushedFrame} {pc : PushPc}
    (hpc : pc.Quiet frame) : s.BooksAt frame pc ↔ s.Balanced := by
  obtain ⟨h1, h2, h3⟩ := hpc
  constructor
  · rintro ⟨ha, hf, hr⟩
    rw [h1, List.append_nil] at ha
    rw [h2, Nat.add_zero, ha] at hf
    rw [h3, List.append_nil] at hr
    exact ⟨ha, hf, hr⟩
  · rintro ⟨ha, hf, hr⟩
    exact ⟨by rw [h1, List.append_nil, ha], by rw [h2, Nat.add_zero, ha, hf],
      by rw [h3, List.append_nil, ← hr]⟩

/-- The books, with the push under way. -/
def Books (s : ClosingSession) : Prop :=
  match s.push with
  | none => s.Balanced
  | some (frame, pc) => s.BooksAt frame pc

/-- A session that begins has nothing on its books. -/
theorem books_start (setup : CloseSetup) : (start setup).Books := ⟨rfl, rfl, rfl⟩

/-- One statement of a push keeps the books. -/
theorem PushMove.books {s s' : ClosingSession} {frame : PushedFrame} {pc : PushPc}
    (hmove : s.PushMove frame pc s') (hpush : s.push = some (frame, pc)) (h : s.Books) :
    s'.Books := by
  replace h : s.BooksAt frame pc := by simpa only [Books, hpush] using h
  cases hmove with
  | looksIn hclosing hclosed => exact ⟨h.accepted, h.frames, h.rows⟩
  | goesOn awaitKey hasFirst hpc hpc' =>
      obtain ⟨ha, hf, hr⟩ := (balanced_iff (PushPc.quiet_of_accepting hpc frame)).mp h
      exact (balanced_iff (PushPc.quiet_of_accepting hpc' frame)).mpr ⟨ha, hf, hr⟩
  | accepts heos =>
      obtain ⟨ha, hf, hr⟩ := (balanced_iff (PushPc.quiet_of_accepting rfl frame)).mp h
      exact ⟨congrArg (· ++ [frame]) ha, by simp [at_, PushPc.uncounted, ha, hf],
        hr.trans (List.append_nil _).symm⟩
  | returns flow hflow =>
      have hquiet : (PushPc.flowed flow).Quiet frame := by
        rcases hflow with rfl | ⟨rfl, -⟩ <;> exact ⟨rfl, rfl, rfl⟩
      obtain ⟨ha, hf, hr⟩ := (balanced_iff (PushPc.quiet_of_accepting rfl frame)).mp h
      exact (balanced_iff hquiet).mpr ⟨ha, hf, hr⟩
  | counts => exact ⟨h.accepted, h.frames, h.rows⟩
  | writes =>
      obtain ⟨ha, hf, hr⟩ := h
      refine ⟨ha.trans (List.append_nil _).symm, hf, ?_⟩
      exact congrArg (· ++ [frame]) (hr.trans (List.append_nil _))
  | refuses hasFirst error hpc herror hflow hresult =>
      have hquiet : pc.Quiet frame := by
        rcases hpc with rfl | hpc | rfl
        · exact ⟨rfl, rfl, rfl⟩
        · exact PushPc.quiet_of_accepting hpc frame
        · exact ⟨rfl, rfl, rfl⟩
      obtain ⟨ha, hf, hr⟩ := (balanced_iff hquiet).mp h
      exact (balanced_iff (PushPc.quiet_of_refused hresult frame)).mpr ⟨ha, hf, hr⟩
  | isCancelled =>
      have hresult : (if s.closing then PushResult.skipped else .dropped) ≠ .ok := by
        split <;> nofun
      obtain ⟨ha, hf, hr⟩ := (balanced_iff ⟨rfl, rfl, rfl⟩).mp h
      exact (balanced_iff (PushPc.quiet_of_refused hresult frame)).mpr ⟨ha, hf, hr⟩
  | @leaves flow result =>
      have ha : s.accepted = s.rows := h.accepted.trans (List.append_nil _)
      refine ⟨ha, ha ▸ h.frames, h.rows.trans ?_⟩
      cases result <;> simp [pushed, PushPc.unanswered]

end ClosingSession

end CamDriver
