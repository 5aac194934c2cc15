import CamDriver.Keyframe
import CamDriver.Lib.Machine
import CamDriver.Session

/-!
# CamDriver.StreamCopy

A stream-copy session: `RecordingSession.push` with the bytes and the caps of the frames,
and its gate, which stays shut until a frame is a sync point.

The gate opens before the queue bound, the header and the push have had their say.
`startsOnSyncPoint_of_takes` needs that they take the frame that opened it.
-/

namespace CamDriver

/-- A frame of an encoded source; the caps text is empty where it comes without. -/
structure EncodedFrame where
  payload : List UInt8
  caps : String
  stamp : FrameStamp
  pts : Int
deriving DecidableEq, Repr

/-- A session with its `_caps_kind`. -/
structure StreamCopySession where
  session : RecordingSession
  capsKind : Option CapsKind
deriving DecidableEq, Repr

/-- What happens to a session. -/
inductive SessionEvent where
  | push (env : PushEnv) (frame : EncodedFrame)
  | beginClose
  /-- the bus posts an ERROR -/
  | busError
deriving DecidableEq, Repr

/-- What `push` answers, and the kind of the session's caps after it. -/
structure SessionAnswer where
  result : Option PushResult
  kind : CapsKind
deriving DecidableEq, Repr

namespace StreamCopySession

/-- A session opened with `encoded=True`. -/
def start (index : Nat) (blocking : Bool) (dropsNow : DropSummary) : StreamCopySession :=
  { session := .start index true blocking dropsNow, capsKind := none }

/-- The session takes no more frames. -/
def Over (s : StreamCopySession) : Prop :=
  s.session.closing ∨ s.session.closed ∨ s.session.error

instance (s : StreamCopySession) : Decidable s.Over := inferInstanceAs (Decidable (_ ∨ _))

/-- `_caps_kind` at the gate: parsed once, from the first caps it sees. -/
def gateKind (s : StreamCopySession) (frame : EncodedFrame) : Option CapsKind :=
  if s.session.awaitKey ∧ s.capsKind = none ∧ frame.caps ≠ "" then some (parseCapsKind frame.caps)
  else s.capsKind

/-- What the gate says of a frame. -/
def syncPoint (s : StreamCopySession) (frame : EncodedFrame) : Bool :=
  isSyncPoint ((s.gateKind frame).getD .unknown) frame.payload

/-- `push`. -/
def push (s : StreamCopySession) (baseTs : Int) (env : PushEnv) (frame : EncodedFrame) :
    StreamCopySession × PushResult :=
  if s.Over then (s, .skipped)
  else
    let env := { env with syncPoint := s.syncPoint frame }
    let r := s.session.offer baseTs env frame.stamp frame.pts
    -- a close that began during the push has set `_closing`
    let session := { r.1 with closing := r.1.closing || env.cancelled }
    ({ session := session, capsKind := s.gateKind frame }, r.2)

/-- One event. -/
def step (baseTs : Int) (s : StreamCopySession) : SessionEvent → StreamCopySession × SessionAnswer
  | .push env frame =>
    let r := s.push baseTs env frame
    (r.1, { result := some r.2, kind := r.1.capsKind.getD .unknown })
  | .beginClose =>
    ({ s with session := s.session.beginClose },
      { result := none, kind := s.capsKind.getD .unknown })
  | .busError =>
    ({ s with session := { s.session with error := true } },
      { result := none, kind := s.capsKind.getD .unknown })

/-! ## The gate -/

/-- The gate is still shut, or nothing will come through it any more. -/
def Waiting (s : StreamCopySession) : Prop :=
  (s.session.awaitKey = true ∧ s.session.firstPts = none) ∨ s.Over

/-- A sync point that finds the gate shut is not refused by an appsrc that stays open. -/
def Takes (s : StreamCopySession) : SessionEvent → Prop
  | .push env frame =>
    ¬ s.Over → s.session.awaitKey = true → s.syncPoint frame = true →
      (s.session.blocking = true ∨ env.full = false) ∧
        (env.headerWritten = false ∨ env.flow = .ok ∨ (env.cancelled = true ∧ env.flow = .eos))
  | .beginClose | .busError => True

instance (s : StreamCopySession) (e : SessionEvent) : Decidable (s.Takes e) :=
  match e with
  | .push _ _ => inferInstanceAs (Decidable (_ → _))
  | .beginClose | .busError => isTrue trivial

theorem push_of_over {s : StreamCopySession} (h : s.Over) (baseTs : Int) (env : PushEnv)
    (frame : EncodedFrame) : s.push baseTs env frame = (s, .skipped) := if_pos h

/-- A frame that is no sync point is turned away at the gate. -/
theorem offer_of_not_syncPoint {session : RecordingSession}
    (hopen : ¬ (session.closing ∨ session.closed ∨ session.error)) (hkey : session.awaitKey = true)
    {env : PushEnv} (hsync : env.syncPoint = false) (baseTs : Int) (stamp : FrameStamp)
    (pts : Int) :
    session.offer baseTs env stamp pts =
      ({ session with skippedAwaitingKeyframe := session.skippedAwaitingKeyframe + 1 },
        .skipped) := by
  rw [RecordingSession.offer, if_neg hopen, if_pos (by simp [hkey, hsync])]

/-- A first frame that opens the gate and is not refused: it is accepted, or the header
cannot be written, or a close has begun. -/
theorem offer_of_taken {session : RecordingSession}
    (hopen : ¬ (session.closing ∨ session.closed ∨ session.error))
    (hfirst : session.firstPts = none) (env : PushEnv) (hsync : env.syncPoint = true)
    (hroom : session.blocking = true ∨ env.full = false)
    (hflow : env.headerWritten = false ∨ env.flow = .ok ∨ (env.cancelled = true ∧ env.flow = .eos))
    (baseTs : Int) (stamp : FrameStamp) (pts : Int) :
    let r := session.offer baseTs env stamp pts
    r.2 = .ok ∨ (r.2 ≠ .ok ∧ (r.1.error = true ∨ env.cancelled = true)) := by
  have hgate : ¬ (session.awaitKey = true ∧ ¬ env.syncPoint = true) := by simp [hsync]
  have hnotfull : ¬ (¬ session.blocking = true ∧ env.full = true) := by
    rcases hroom with h | h <;> simp [h]
  simp only [RecordingSession.offer, if_neg hopen, if_neg hgate, if_neg hnotfull,
    RecordingSession.writeHeader, hfirst, if_true]
  cases hheader : env.headerWritten with
  | false => exact .inr ⟨(by simp), .inl rfl⟩
  | true =>
      rcases hflow.resolve_left (by simp [hheader]) with hok | ⟨hcancelled, heos⟩
      · simp [RecordingSession.pushBuffer, hok]
      · simp [RecordingSession.pushBuffer, heos, hcancelled]

/-- **One frame at the gate**: it is a sync point and taken, or the gate stays shut. -/
theorem push_waiting {s : StreamCopySession} (hs : s.Waiting) (baseTs : Int) {env : PushEnv}
    {frame : EncodedFrame} (htakes : s.Takes (.push env frame)) :
    let r := s.push baseTs env frame
    (r.2 = .ok ∧ isSyncPoint (r.1.capsKind.getD .unknown) frame.payload = true) ∨
      (r.2 ≠ .ok ∧ r.1.Waiting) := by
  by_cases hover : s.Over
  · rw [push_of_over hover]
    exact .inr ⟨nofun, .inr hover⟩
  · obtain ⟨hkey, hfirst⟩ := hs.resolve_right hover
    simp only [push, if_neg hover]
    cases hsync : s.syncPoint frame with
    | false =>
        rw [offer_of_not_syncPoint hover hkey rfl]
        exact .inr ⟨nofun, .inl ⟨hkey, hfirst⟩⟩
    | true =>
        obtain ⟨hroom, hflow⟩ := htakes hover hkey hsync
        rcases offer_of_taken hover hfirst { env with syncPoint := true } rfl hroom hflow baseTs
          frame.stamp frame.pts with hok | ⟨hne, hend⟩
        · exact .inl ⟨hok, hsync⟩
        · refine .inr ⟨hne, .inr ?_⟩
          rcases hend with herror | hcancelled
          · exact .inr (.inr herror)
          · exact .inl (by simp [show env.cancelled = true from hcancelled])

/-! ## Whole runs -/

/-- An event with its answer shows a sync point, by the caps of the session. -/
def ShowsSyncPoint : SessionEvent × SessionAnswer → Prop
  | (.push _ frame, answer) => isSyncPoint answer.kind frame.payload = true
  | _ => True

/-- The first frame a run accepts is a sync point. -/
def StartsOnSyncPoint (history : List (SessionEvent × SessionAnswer)) : Prop :=
  ∀ first, history.find? (fun e => e.2.result = some .ok) = some first → ShowsSyncPoint first

theorem startsOnSyncPoint_of_waiting {baseTs : Int} {s : StreamCopySession}
    {events : List SessionEvent} (hs : s.Waiting)
    (htakes : Machine.Meets (step baseTs) Takes s events) :
    StartsOnSyncPoint (Machine.history (step baseTs) s events) := by
  induction events generalizing s with
  | nil =>
      intro first hfind
      cases hfind
  | cons e events ih =>
      intro first hfind
      rw [Machine.history, List.find?_cons] at hfind
      cases e with
      | push env frame =>
          rcases push_waiting hs baseTs htakes.1 with ⟨hok, hsync⟩ | ⟨hne, hwaiting⟩
          · simp only [step, hok, decide_true] at hfind
            cases hfind
            exact hsync
          · simp only [step, Option.some.injEq, hne, decide_false] at hfind
            exact ih hwaiting htakes.2 first hfind
      | beginClose => exact ih (.inr (.inl rfl)) htakes.2 first hfind
      | busError => exact ih (.inr (.inr (.inr rfl))) htakes.2 first hfind

/-- **Sync points**: a stream-copy session that takes the sync points it waits for starts
on one. -/
theorem startsOnSyncPoint_of_takes (index : Nat) (blocking : Bool) (dropsNow : DropSummary)
    (baseTs : Int) (events : List SessionEvent)
    (htakes : Machine.Meets (step baseTs) Takes (start index blocking dropsNow) events) :
    StartsOnSyncPoint (Machine.history (step baseTs) (start index blocking dropsNow) events) :=
  startsOnSyncPoint_of_waiting (.inl ⟨rfl, rfl⟩) htakes

/-- What a refused sync point leaves behind: the gate stands open with nothing behind
it, and no frame is looked at any more. -/
theorem gate_open_of_not_takes {s : StreamCopySession} (baseTs : Int) {env : PushEnv}
    {frame : EncodedFrame} (hfirst : s.session.firstPts = none)
    (hrefused : ¬ s.Takes (.push env frame)) :
    let r := s.push baseTs env frame
    r.2 = .dropped ∧ r.1.session.awaitKey = false ∧ (r.1.Over ↔ env.cancelled = true) := by
  simp only [Takes, not_forall] at hrefused
  obtain ⟨hover, hkey, hsync, hrefused⟩ := hrefused
  have hopen : s.session.closing = false ∧ s.session.closed = false ∧ s.session.error = false := by
    simpa [Over] using hover
  simp only [push, if_neg hover, RecordingSession.offer, hopen, hkey, hsync]
  by_cases hfull : s.session.blocking = false ∧ env.full = true
  · simp [hfull, Over]
  · have hroom : s.session.blocking = true ∨ env.full = false := by grind
    obtain ⟨hheader, hflow, hcancel⟩ : env.headerWritten = true ∧ env.flow ≠ .ok ∧
        ¬ (env.cancelled = true ∧ env.flow = .eos) := by
      simpa [hroom] using hrefused
    simp [hfull, RecordingSession.writeHeader, hfirst, hheader, RecordingSession.pushBuffer, hflow,
      hcancel, Over]

/-- H.264 in units with lengths. -/
def avcCaps : String := "video/x-h264, stream-format=(string)avc"

/-- A frame with one unit of one byte. -/
def unitFrame (header : UInt8) (caps : String) : EncodedFrame :=
  { payload := [0, 0, 0, 1, header], caps := caps, pts := 0,
    stamp := { frameId := 0, timestampNs := 0, source := .system, systemNs := 0, cameraNs := 0,
               chunkNs := none } }

/-- The counters of a process that has lost nothing. -/
def noDrops : DropSummary :=
  { frames := 0, sourceGaps := 0, framesMissing := 0, enqueueFailures := 0, publishDrops := 0,
    ptsRebases := 0 }

/-- An IDR meets a full queue, and the frame behind it does not. -/
def refusedIdr : List SessionEvent :=
  [.push { acceptingEnv with full := true } (unitFrame 0x65 avcCaps),
   .push acceptingEnv (unitFrame 0x41 avcCaps)]

/-- Such a session starts on the frame behind. -/
theorem not_startsOnSyncPoint :
    ¬ ∀ (index : Nat) (blocking : Bool) (dropsNow : DropSummary) (baseTs : Int)
      (events : List SessionEvent),
      StartsOnSyncPoint (Machine.history (step baseTs) (start index blocking dropsNow) events) := by
  intro h
  have hsync := h 0 false noDrops 0 refusedIdr _ rfl
  exact absurd (show isSyncPoint _ _ = true from hsync) (by decide +kernel)

/-- A frame too many before the IDR, and the IDR is taken. -/
def takenIdr : List SessionEvent :=
  [.push acceptingEnv (unitFrame 0x41 avcCaps), .push acceptingEnv (unitFrame 0x65 avcCaps),
   .push acceptingEnv (unitFrame 0x41 avcCaps)]

theorem startsOnSyncPoint_takenIdr :
    StartsOnSyncPoint (Machine.history (step 0) (start 0 false noDrops) takenIdr) :=
  startsOnSyncPoint_of_takes 0 false noDrops 0 takenIdr (by decide +kernel)

end StreamCopySession

end CamDriver
