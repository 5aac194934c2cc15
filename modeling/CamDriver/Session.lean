import CamDriver.DropStats
import CamDriver.Timestamps

/-!
# CamDriver.Session

One recording session: `RecordingSession.push`, which decides about every frame
under the session lock, the two halves of closing, and what the finalized JSON
attests.

What GStreamer and the file system answer is a `PushEnv`.  `offer` is `push` up
to the sidecar row: the frame is in the muxer and counted, and its row is the
next thing written.
-/

namespace CamDriver

/-- What `push` tells the feeder. -/
inductive PushResult where
  /-- accepted: a sidecar row is written -/
  | ok
  /-- the recording feed could not take it: a real loss -/
  | dropped
  /-- not a loss: closing, or waiting for a sync point -/
  | skipped
deriving DecidableEq, Repr

/-- `Gst.FlowReturn`, as far as `push` looks at it. -/
inductive FlowReturn where
  | ok | eos | other
deriving DecidableEq, Repr

/-- What the outside answers while a frame is pushed. -/
structure PushEnv where
  /-- `is_sync_point` of the payload -/
  syncPoint : Bool
  /-- the appsrc's level and this payload exceed its `max-bytes` -/
  full : Bool
  /-- `write_header` did not raise an `OSError` -/
  headerWritten : Bool
  flow : FlowReturn
  /-- a close began while push-buffer waited for room -/
  cancelled : Bool
deriving DecidableEq, Repr

/-- An accepting recorder. -/
def acceptingEnv : PushEnv :=
  { syncPoint := true, full := false, headerWritten := true, flow := .ok, cancelled := false }

/-- The time base in the JSON header of a session (`SidecarHeader`). -/
structure SidecarHeader where
  baseTimestampNs : Int
  sessionIndex : Nat
  firstPtsNs : Int
  firstFrameId : Int
  firstTimestampNs : Int
  ptsOffsetNs : Int
deriving DecidableEq, Repr

/-- A frame with the PTS it was muxed with. -/
abbrev SidecarRow := FrameStamp × Int

/-- `RecordingSession`; `accepted` is what the muxer received, in order. -/
structure RecordingSession where
  index : Nat
  blocking : Bool
  closing : Bool
  closed : Bool
  error : Bool
  awaitKey : Bool
  frames : Nat
  skippedAwaitingKeyframe : Nat
  firstPts : Option Int
  header : Option SidecarHeader
  accepted : List SidecarRow
  dropsAtStart : DropSummary
deriving DecidableEq, Repr

/-- `_session_header`: the base is the process's, whatever the session. -/
def sessionHeader (baseTs : Int) (index : Nat) (stamp : FrameStamp) (pts : Int) : SidecarHeader :=
  { baseTimestampNs := baseTs, sessionIndex := index, firstPtsNs := pts,
    firstFrameId := stamp.frameId, firstTimestampNs := stamp.timestampNs, ptsOffsetNs := 0 }

/-- What the finalized JSON says about a session. -/
structure Attestation where
  header : Option SidecarHeader
  framesRecorded : Nat
  skippedAwaitingKeyframe : Nat
  error : Bool
  firstPtsNs : Option Int
  sessionIndex : Nat
  drops : DropSummary
deriving DecidableEq, Repr

namespace RecordingSession

/-- A started session; a stream-copy one waits for a sync point. -/
def start (index : Nat) (encoded blocking : Bool) (dropsNow : DropSummary) : RecordingSession :=
  { index, blocking, closing := false, closed := false, error := false, awaitKey := encoded,
    frames := 0, skippedAwaitingKeyframe := 0, firstPts := none, header := none, accepted := [],
    dropsAtStart := dropsNow }

/-- The first frame writes the header; a failure there ends the session. -/
def writeHeader (s : RecordingSession) (baseTs : Int) (env : PushEnv) (stamp : FrameStamp)
    (pts : Int) : RecordingSession × Bool :=
  if s.firstPts = none then
    let s := { s with firstPts := some pts }
    if env.headerWritten then
      ({ s with header := some (sessionHeader baseTs s.index stamp pts) }, true)
    else ({ s with error := true }, false)
  else (s, true)

/-- The end of `push`: the buffer is in the muxer, or it is not. -/
def pushBuffer (s : RecordingSession) (env : PushEnv) (stamp : FrameStamp) (pts : Int) :
    RecordingSession × PushResult :=
  if env.flow = .ok then
    ({ s with frames := s.frames + 1, accepted := s.accepted ++ [(stamp, pts)] }, .ok)
  else if (s.closing ∨ env.cancelled) ∧ env.flow = .eos then (s, .skipped)
  else (s, .dropped)

/-- `push`, up to the sidecar row of an accepted frame. -/
def offer (s : RecordingSession) (baseTs : Int) (env : PushEnv) (stamp : FrameStamp) (pts : Int) :
    RecordingSession × PushResult :=
  if s.closing ∨ s.closed ∨ s.error then (s, .skipped)
  else if s.awaitKey ∧ ¬ env.syncPoint then
    ({ s with skippedAwaitingKeyframe := s.skippedAwaitingKeyframe + 1 }, .skipped)
  else
    let s := { s with awaitKey := false }
    if ¬ s.blocking ∧ env.full then (s, .dropped)
    else
      let r := s.writeHeader baseTs env stamp pts
      if r.2 then r.1.pushBuffer env stamp pts else (r.1, .dropped)

/-- `begin_close`. -/
def beginClose (s : RecordingSession) : RecordingSession :=
  { s with closing := true, closed := true }

/-- What `finish_close` attests. -/
def attest (s : RecordingSession) (dropsNow : DropSummary) : Attestation :=
  { header := s.header, framesRecorded := s.frames,
    skippedAwaitingKeyframe := s.skippedAwaitingKeyframe, error := s.error,
    firstPtsNs := s.firstPts, sessionIndex := s.index,
    drops := DropStats.delta dropsNow s.dropsAtStart }

/-! ## What one frame can do -/

/-- The muxer's frames are counted, and come behind a header. -/
structure Wf (s : RecordingSession) : Prop where
  frames_eq : s.frames = s.accepted.length
  header_of_accepted : s.accepted ≠ [] → s.header.isSome
  header_of_first : s.firstPts.isSome → s.error = false → s.header.isSome

/-- A session that starts is well formed. -/
theorem wf_start (index : Nat) (encoded blocking : Bool) (dropsNow : DropSummary) :
    (start index encoded blocking dropsNow).Wf :=
  ⟨rfl, fun h => absurd rfl h, nofun⟩

/-- What `offer` leaves alone, and the header it may write. -/
structure Keeps (s s' : RecordingSession) (baseTs : Int) : Prop where
  index : s'.index = s.index
  closed : s'.closed = s.closed
  dropsAtStart : s'.dropsAtStart = s.dropsAtStart
  header : s'.header = s.header ∨
    ∃ stamp pts, s'.header = some (sessionHeader baseTs s.index stamp pts)

/-- A session that stays as it is. -/
theorem Keeps.refl (s : RecordingSession) (baseTs : Int) : Keeps s s baseTs :=
  ⟨rfl, rfl, rfl, .inl rfl⟩

/-- A frame that is not accepted. -/
structure Refused (s s' : RecordingSession) (baseTs : Int) : Prop extends Keeps s s' baseTs where
  accepted : s'.accepted = s.accepted
  wf : s.Wf → s'.Wf

/-- A frame that is accepted: it is the muxer's last one. -/
structure Accepted (s s' : RecordingSession) (baseTs : Int) (row : SidecarRow) : Prop
    extends Keeps s s' baseTs where
  accepted : s'.accepted = s.accepted ++ [row]
  open_ : s.closed = false
  wf : s.Wf → s'.Wf

/-- **One frame**: it is accepted by an open session, or leaves the frames alone. -/
theorem offer_cases (s : RecordingSession) (baseTs : Int) (env : PushEnv) (stamp : FrameStamp)
    (pts : Int) :
    let r := s.offer baseTs env stamp pts
    (r.2 = .ok ∧ Accepted s r.1 baseTs (stamp, pts)) ∨ (r.2 ≠ .ok ∧ Refused s r.1 baseTs) := by
  have same : Refused s s baseTs := ⟨.refl s baseTs, rfl, id⟩
  simp only [offer]
  by_cases hclosed : s.closing ∨ s.closed ∨ s.error
  · rw [if_pos hclosed]
    exact .inr ⟨nofun, same⟩
  · obtain ⟨hclosing, hclosed', herror⟩ :
        s.closing = false ∧ s.closed = false ∧ s.error = false := by
      simpa [not_or] using hclosed
    rw [if_neg hclosed]
    by_cases hkey : s.awaitKey ∧ ¬ env.syncPoint
    · rw [if_pos hkey]
      exact .inr ⟨nofun, ⟨rfl, rfl, rfl, .inl rfl⟩, rfl, fun h => ⟨h.1, h.2, h.3⟩⟩
    · rw [if_neg hkey]
      by_cases hfull : ¬ s.blocking ∧ env.full
      · rw [if_pos hfull]
        exact .inr ⟨nofun, ⟨rfl, rfl, rfl, .inl rfl⟩, rfl, fun h => ⟨h.1, h.2, h.3⟩⟩
      · rw [if_neg hfull]
        cases hfirst : s.firstPts with
        | none =>
            cases hw : env.headerWritten with
            | false =>
                simp only [writeHeader, hw, if_true, Bool.false_eq_true, if_false]
                exact .inr ⟨nofun, ⟨rfl, rfl, rfl, .inl rfl⟩, rfl,
                  fun h => ⟨h.1, h.2, nofun⟩⟩
            | true =>
                simp only [writeHeader, hw, if_true, pushBuffer]
                by_cases hflow : env.flow = .ok
                · rw [if_pos hflow]
                  exact .inl ⟨rfl, ⟨rfl, rfl, rfl, .inr ⟨stamp, pts, rfl⟩⟩, rfl, hclosed',
                    fun h => ⟨by simp [h.frames_eq], fun _ => rfl, fun _ _ => rfl⟩⟩
                · rw [if_neg hflow]
                  split <;> exact .inr ⟨nofun, ⟨rfl, rfl, rfl, .inr ⟨stamp, pts, rfl⟩⟩, rfl,
                    fun h => ⟨h.1, fun _ => rfl, fun _ _ => rfl⟩⟩
        | some first =>
            simp only [writeHeader, reduceCtorEq, if_false, if_true, pushBuffer]
            by_cases hflow : env.flow = .ok
            · rw [if_pos hflow]
              refine .inl ⟨rfl, ⟨rfl, rfl, rfl, .inl rfl⟩, rfl, hclosed', fun h => ?_⟩
              have hheader := h.header_of_first (by simp [hfirst]) herror
              exact ⟨by simp [h.frames_eq], fun _ => hheader, fun _ _ => hheader⟩
            · rw [if_neg hflow]
              split <;> exact .inr ⟨nofun, ⟨rfl, rfl, rfl, .inl rfl⟩, rfl,
                fun h => ⟨h.1, h.2, fun _ => h.header_of_first (by simp [hfirst])⟩⟩

/-- An offer leaves these fields alone. -/
theorem keeps_offer (s : RecordingSession) (baseTs : Int) (env : PushEnv)
    (stamp : FrameStamp) (pts : Int) : s.Keeps (s.offer baseTs env stamp pts).1 baseTs := by
  rcases s.offer_cases baseTs env stamp pts with ⟨-, h⟩ | ⟨-, h⟩
  · exact h.toKeeps
  · exact h.toKeeps

/-- A closed session takes no frame. -/
theorem offer_of_closed {s : RecordingSession} (h : s.closed = true) (baseTs : Int) (env : PushEnv)
    (stamp : FrameStamp) (pts : Int) : s.offer baseTs env stamp pts = (s, .skipped) := by
  rw [offer, if_pos (.inr (.inl h))]

end RecordingSession

end CamDriver
