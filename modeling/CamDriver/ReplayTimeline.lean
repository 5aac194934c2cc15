import Mathlib
import CamDriver.Replay

/-!
# CamDriver.ReplayTimeline

`ReplaySource` on its timeline: what `open` computes from the sessions of a run,
the window and the gap cap, and the pass over the sessions at the granularity
of whole calls of `_new_stamp`, `_on_eos` and `_restart`.

`CamDriver.Replay` splits these calls into the steps of two threads.  Here a
session's reader delivers its frames in order and then EOS, a restart comes
between two of these, and playback is neither held nor paced: what counts is
which frames are delivered, where a cycle ends, and the position each frame has
on the timeline.
-/

namespace CamDriver

/-! ## Opening -/

/-- What a replay is opened with; the seconds of the config are whole nanoseconds
here.  `wallNs` is the time of day, for `retime: wall`. -/
structure ReplayRequest where
  sessionStamps : List (List FrameStamp)
  epochUnixNs : Option Int
  fromOffsetNs : Option Int
  toOffsetNs : Option Int
  gapMaxNs : Nat
  wallNs : Option Int
  loop : Bool
deriving DecidableEq, Repr

/-- What `open` raises about the sessions and the window. -/
inductive ReplayOpenError where
  | noSessions
  | noRows
  /-- the window starts so long after the last frame -/
  | startsAfter (ns : Int)
  | endsBefore
deriving DecidableEq, Repr

/-- An opened replay: its sessions and window, the zero of its timeline, and the
cap on the silence between sessions (0: none). -/
structure ReplayTimeline extends ReplayConfig where
  epochNs : Int
  capNs : Nat
  loop : Bool

/-- The time between the last frame of a session and the first of the next. -/
def gapNs (a b : List FrameStamp) : Int :=
  (b.head?.map FrameStamp.timestampNs).getD 0 - (a.getLast?.map FrameStamp.timestampNs).getD 0

/-- What a cap takes off a gap. -/
def excessNs (cap : Nat) (gap : Int) : Int := if 0 < cap ∧ cap < gap then gap - cap else 0

/-- Each session with the next one. -/
def boundaries (sessions : List (List FrameStamp)) :
    List (List FrameStamp × List FrameStamp) :=
  sessions.zip sessions.tail

/-- What a cap takes off the gaps of some sessions. -/
def excessSum (cap : Nat) (sessions : List (List FrameStamp)) : Int :=
  ((boundaries sessions).map fun ab => excessNs cap (gapNs ab.1 ab.2)).sum

namespace ReplayTimeline

variable (tl : ReplayTimeline)

/-- One median interval past the last frame. -/
def runEndNs : Int :=
  tl.allTs.getLastD 0 + medianIntervalNs ((tl.csvStamps 0).map FrameStamp.timestampNs)

/-- `end_ns`: where the timeline ends. -/
def endNs : Int :=
  match tl.toNs with
  | some toNs => min tl.runEndNs toNs
  | none => tl.runEndNs

/-- `duration_ns`, of which `duration_s` is rounded (`durationS`). -/
def durationNs : Int := tl.endNs - tl.epochNs - excessSum tl.capNs tl.sessionStamps

end ReplayTimeline

/-- `open`. -/
def openReplay (r : ReplayRequest) : Except ReplayOpenError ReplayTimeline :=
  if hne : r.sessionStamps = [] then .error .noSessions
  else if hrows : ∃ rows ∈ r.sessionStamps, rows = [] then .error .noRows
  else
    let allTs := r.sessionStamps.flatten.map FrameStamp.timestampNs
    let tsFirst := allTs.headD 0
    let tsLast := allTs.getLastD 0
    let epochNs := r.epochUnixNs.getD tsFirst
    let fromNs :=
      if r.epochUnixNs.isSome then some (epochNs + r.fromOffsetNs.getD 0)
      else r.fromOffsetNs.map (tsFirst + ·)
    let toNs := r.toOffsetNs.map (epochNs + ·)
    if fromNs.any (tsLast < ·) then .error (.startsAfter (fromNs.getD 0 - tsLast))
    else if toNs.any (· ≤ tsFirst) then .error .endsBefore
    else
      .ok
        { sessionStamps := r.sessionStamps, fromNs, toNs,
          retimeOffset := (r.wallNs.map (· - epochNs)).getD 0,
          sessions_ne := hne,
          rows_ne := fun rows hmem hnil => hrows ⟨rows, hmem, hnil⟩,
          epochNs,
          capNs := if r.epochUnixNs.isSome then 0 else r.gapMaxNs,
          loop := r.loop }

/-- The zero of the timeline: the configured epoch, or the first frame. -/
def ReplayRequest.epochNs (r : ReplayRequest) : Int :=
  r.epochUnixNs.getD ((r.sessionStamps.flatten.map FrameStamp.timestampNs).headD 0)

/-- The start of the window, if there is one; an epoch implies one. -/
def ReplayRequest.fromNs (r : ReplayRequest) : Option Int :=
  if r.epochUnixNs.isSome then some (r.epochNs + r.fromOffsetNs.getD 0)
  else r.fromOffsetNs.map (r.epochNs + ·)

/-- What `open` has taken from its request, and what it has checked. -/
structure Opened (r : ReplayRequest) (tl : ReplayTimeline) : Prop where
  sessions_eq : tl.sessionStamps = r.sessionStamps
  loop_eq : tl.loop = r.loop
  epoch_eq : tl.epochNs = r.epochNs
  from_eq : tl.fromNs = r.fromNs
  to_eq : tl.toNs = r.toOffsetNs.map (r.epochNs + ·)
  cap_eq : tl.capNs = if r.epochUnixNs.isSome then 0 else r.gapMaxNs
  from_le : ∀ fromNs ∈ tl.fromNs, fromNs ≤ tl.allTs.getLastD 0
  lt_to : ∀ toNs ∈ tl.toNs, tl.allTs.headD 0 < toNs

/-- What the checks of an open say of the timeline it returns. -/
theorem opened_of_openReplay {r : ReplayRequest} {tl : ReplayTimeline}
    (h : openReplay r = .ok tl) : Opened r tl := by
  have hfromNs : (if r.epochUnixNs.isSome then some (r.epochNs + r.fromOffsetNs.getD 0)
      else r.fromOffsetNs.map
        ((r.sessionStamps.flatten.map FrameStamp.timestampNs).headD 0 + ·)) = r.fromNs := by
    cases hepoch : r.epochUnixNs <;> simp [ReplayRequest.fromNs, ReplayRequest.epochNs, hepoch]
  unfold openReplay at h
  simp only at h
  rw [← ReplayRequest.epochNs, hfromNs] at h
  split at h
  · cases h
  · split at h
    · cases h
    · split at h
      · cases h
      · next hfrom =>
          split at h
          · cases h
          · next hto =>
              obtain rfl := Except.ok.inj h
              rw [Option.any_eq_true] at hfrom hto
              refine ⟨rfl, rfl, rfl, rfl, rfl, rfl, fun fromNs hmem => ?_, fun toNs hmem => ?_⟩
              · by_contra hlt
                exact hfrom ⟨fromNs, hmem, decide_eq_true (not_le.mp hlt)⟩
              · by_contra hle
                exact hto ⟨toNs, hmem, decide_eq_true (not_lt.mp hle)⟩

/-! ## A pass over the sessions -/

/-- A frame that reached the consumer: its row, the stamp it came with, and the
position it was noted at. -/
structure Delivered where
  cycle : Nat
  row : FrameStamp
  stamp : FrameStamp
  positionNs : Int
deriving DecidableEq, Repr

structure ReplayPass where
  cycle : Nat
  offset : Int
  sessionIdx : Nat
  idx : Nat
  skippedNs : Int
  finished : Bool
  failed : Bool
  delivered : List Delivered
deriving DecidableEq, Repr

/-- The reader delivers a frame, or EOS, or the operator restarts the playback. -/
inductive PassStep where
  | frame | eos | restart
deriving DecidableEq, Repr

namespace ReplayPass

/-- A source that has been opened and started. -/
def init (tl : ReplayTimeline) : ReplayPass :=
  { cycle := 0, offset := tl.retimeOffset, sessionIdx := tl.firstIdx, idx := 0, skippedNs := 0,
    finished := false, failed := false, delivered := [] }

/-- `_finish`. -/
def finish (s : ReplayPass) : ReplayPass := { s with finished := true }

/-- `_new_stamp`, `note_frame` and the consumer's callback. -/
def newStamp (tl : ReplayTimeline) (s : ReplayPass) : ReplayPass :=
  let s' := { s with idx := s.idx + 1 }
  match (tl.csvStamps s.sessionIdx)[s.idx]? with
  | none => if s.failed then s' else { s' with failed := true }.finish
  | some row =>
    let stamp := shiftStamp row s.offset
    let raw := stamp.timestampNs - s.offset
    if tl.fromNs.any (raw < ·) then s'
    else if tl.toNs.any (· ≤ raw) then (if s.finished then s' else s'.finish)
    else if s.failed then s'
    else
      let cycleBaseNs := tl.epochNs + s.offset + s.skippedNs
      let positionNs := max 0 (stamp.timestampNs - cycleBaseNs)
      { s' with delivered := s.delivered ++ [{ cycle := s.cycle, row, stamp, positionNs }] }

/-- `_activate_session`. -/
def activateSession (s : ReplayPass) (idx : Nat) : ReplayPass :=
  { s with sessionIdx := idx, idx := 0 }

/-- `_restart`: a flush seek if the current session is the first one and still
being read, else a new reader. -/
def restart (tl : ReplayTimeline) (s : ReplayPass) : ReplayPass :=
  let s' := { s with
    cycle := s.cycle + 1, offset := tl.offsetOf (s.cycle + 1), skippedNs := 0,
    finished := false, failed := false }
  if (tl.sessionStamps.length = 1 ∨ s.sessionIdx = tl.firstIdx) ∧ ¬ s.finished then
    { s' with idx := 0 }
  else s'.activateSession tl.firstIdx

/-- The rows of the session after `idx`, if the window reaches into it. -/
def nextRows (tl : ReplayTimeline) (idx : Nat) : Option (List FrameStamp) :=
  (tl.sessionStamps[idx + 1]?).filter fun next =>
    next.head?.any fun first => tl.toNs.all (first.timestampNs < ·)

/-- `_on_eos`. -/
def onEos (tl : ReplayTimeline) (s : ReplayPass) : ReplayPass :=
  if s.finished then s
  else if s.idx ≠ (tl.csvStamps s.sessionIdx).length then { s with failed := true }.finish
  else match nextRows tl s.sessionIdx with
    | some next =>
      let gap := gapNs (tl.csvStamps s.sessionIdx) next
      { s with skippedNs := s.skippedNs + excessNs tl.capNs gap }.activateSession (s.sessionIdx + 1)
    | none => if ¬ tl.loop then s.finish else s.restart tl

/-- One step: a reader that still has frames delivers the next one, and EOS once
it has none. -/
def step (tl : ReplayTimeline) (s : ReplayPass) : PassStep → Option ReplayPass
  | .frame => if s.idx < (tl.csvStamps s.sessionIdx).length then some (s.newStamp tl) else none
  | .eos => if s.idx = (tl.csvStamps s.sessionIdx).length then some (s.onEos tl) else none
  | .restart => some (s.restart tl)

end ReplayPass

/-! ## The sessions of a cycle -/

namespace ReplayTimeline

variable (tl : ReplayTimeline)

/-- The window reaches into a session that is not the first one of a cycle. -/
def Reaches (rows : List FrameStamp) : Bool :=
  rows.head?.any fun first => tl.toNs.all (first.timestampNs < ·)

/-- The sessions a cycle plays: the first one that reaches into the window, and
those after it until one starts behind the window. -/
def played : List (List FrameStamp) :=
  tl.csvStamps tl.firstIdx ::
    (tl.sessionStamps.drop (tl.firstIdx + 1)).takeWhile tl.Reaches

/-- The first session that is played, and those behind it. -/
theorem drop_firstIdx :
    tl.sessionStamps.drop tl.firstIdx =
      tl.csvStamps tl.firstIdx :: tl.sessionStamps.drop (tl.firstIdx + 1) := by
  rw [List.drop_eq_getElem_cons tl.firstIdx_lt, ReplayConfig.csvStamps,
    List.getD_eq_getElem?_getD, List.getElem?_eq_getElem tl.firstIdx_lt, Option.getD_some]

/-- The sessions are played in order, without a gap. -/
theorem played_prefix : tl.played <+: tl.sessionStamps.drop tl.firstIdx := by
  rw [drop_firstIdx]
  exact (List.prefix_cons_inj _).mpr (List.takeWhile_prefix _)

end ReplayTimeline

/-- Stamps that strictly increase. -/
def Increases (rows : List FrameStamp) : Prop :=
  rows.Pairwise fun a b => a.timestampNs < b.timestampNs

instance (rows : List FrameStamp) : Decidable (Increases rows) :=
  inferInstanceAs (Decidable (List.Pairwise _ _))

/-- In an increasing recording the first row is the earliest. -/
theorem Increases.head_le {rows : List FrameStamp} (h : Increases rows) {first row : FrameStamp}
    (hfirst : rows.head? = some first) (hrow : row ∈ rows) :
    first.timestampNs ≤ row.timestampNs := by
  cases rows with
  | nil => cases hrow
  | cons a rows =>
      obtain rfl := Option.some.inj hfirst
      rcases List.mem_cons.mp hrow with rfl | hrow
      · exact le_rfl
      · exact ((List.pairwise_cons.mp h).1 row hrow).le

/-- The last one is the latest. -/
theorem Increases.le_last {rows : List FrameStamp} (h : Increases rows) {last row : FrameStamp}
    (hlast : rows.getLast? = some last) (hrow : row ∈ rows) :
    row.timestampNs ≤ last.timestampNs := by
  obtain ⟨init, rfl⟩ := List.getLast?_eq_some_iff.mp hlast
  rcases List.mem_append.mp hrow with hrow | hrow
  · exact ((List.pairwise_append.mp h).2.2 row hrow last (List.mem_singleton_self _)).le
  · rw [List.mem_singleton.mp hrow]

theorem filter_getElem?_of_le {α : Type} {p : α → Bool} {l : List α} {n : Nat}
    (h : n ≤ (l.takeWhile p).length) : (l[n]?).filter p = (l.takeWhile p)[n]? := by
  induction l generalizing n with
  | nil => rfl
  | cons a l ih =>
      cases ha : p a with
      | false =>
          rw [List.takeWhile_cons_of_neg (by simp [ha])] at h ⊢
          obtain rfl := Nat.le_zero.mp h
          simp [Option.filter, ha]
      | true =>
          rw [List.takeWhile_cons_of_pos ha] at h ⊢
          cases n with
          | zero => simp [Option.filter, ha]
          | succ n => exact ih (Nat.le_of_succ_le_succ h)

/-- One session more is one boundary more. -/
theorem boundaries_concat (l : List (List FrameStamp)) (a b : List FrameStamp) :
    boundaries (l ++ [a, b]) = boundaries (l ++ [a]) ++ [(a, b)] := by
  induction l with
  | nil => rfl
  | cons x l ih =>
      cases l with
      | nil => rfl
      | cons y l => exact congrArg ((x, y) :: ·) ih

/-- It adds the excess of that boundary. -/
theorem excessSum_concat (cap : Nat) (l : List (List FrameStamp)) (a b : List FrameStamp) :
    excessSum cap (l ++ [a, b]) = excessSum cap (l ++ [a]) + excessNs cap (gapNs a b) := by
  rw [excessSum, boundaries_concat, List.map_append, List.sum_append]
  simp [excessSum]

/-- The pass is inside a cycle: it reads the session `rows`, after the sessions
`before` and before the sessions `after`. -/
structure InCycle (tl : ReplayTimeline) (s : ReplayPass) (before : List (List FrameStamp))
    (rows : List FrameStamp) (after : List (List FrameStamp)) : Prop where
  split : tl.played = before ++ rows :: after
  session : s.sessionIdx = tl.firstIdx + before.length
  idx_le : s.idx ≤ rows.length
  offset : s.offset = tl.offsetOf s.cycle
  failed : s.failed = false
  skipped : s.skippedNs = excessSum tl.capNs (before ++ [rows])

namespace InCycle

variable {tl : ReplayTimeline} {s : ReplayPass} {before : List (List FrameStamp)}
  {rows : List FrameStamp} {after : List (List FrameStamp)}

/-- The session of the pass is the one of its index. -/
theorem sessionStamps_getElem? (h : InCycle tl s before rows after) :
    tl.sessionStamps[s.sessionIdx]? = some rows := by
  obtain ⟨t, ht⟩ := tl.played_prefix
  rw [h.session, ← List.getElem?_drop, ← ht, h.split]
  simp

/-- Its stamps are the rows of its sidecar. -/
theorem csvStamps (h : InCycle tl s before rows after) : tl.csvStamps s.sessionIdx = rows := by
  rw [ReplayConfig.csvStamps, List.getD_eq_getElem?_getD, h.sessionStamps_getElem?]
  rfl

/-- The window reaches into the next session exactly as long as the cycle goes on. -/
theorem nextRows (h : InCycle tl s before rows after) :
    ReplayPass.nextRows tl s.sessionIdx = after.head? := by
  have hplayed : tl.played = tl.csvStamps tl.firstIdx ::
      (tl.sessionStamps.drop (tl.firstIdx + 1)).takeWhile tl.Reaches := rfl
  have hlen := congrArg List.length (hplayed.symm.trans h.split)
  have hget := congrArg (fun l => l[before.length + 1]?) (hplayed.symm.trans h.split)
  simp only [List.length_cons, List.length_append] at hlen
  have hhead : (before ++ rows :: after)[before.length + 1]? = after.head? := by
    rw [List.getElem?_append_right (by omega), Nat.add_sub_cancel_left, List.head?_eq_getElem?]
    rfl
  rw [← hhead, ← hget, ReplayPass.nextRows, h.session]
  change _ = ((tl.sessionStamps.drop (tl.firstIdx + 1)).takeWhile tl.Reaches)[before.length]?
  rw [← filter_getElem?_of_le (by omega), List.getElem?_drop]
  congr 2
  omega

/-- A frame's callback. -/
theorem newStamp_eq (h : InCycle tl s before rows after) {row : FrameStamp}
    (hrow : rows[s.idx]? = some row) :
    s.newStamp tl =
      if tl.fromNs.any (row.timestampNs < ·) then { s with idx := s.idx + 1 }
      else if tl.toNs.any (· ≤ row.timestampNs) then
        { s with idx := s.idx + 1, finished := true }
      else
        { s with
          idx := s.idx + 1
          delivered := s.delivered ++ [{
            cycle := s.cycle, row, stamp := shiftStamp row s.offset,
            positionNs := max 0 (row.timestampNs - tl.epochNs - s.skippedNs) }] } := by
  have hposition : row.timestampNs + s.offset - (tl.epochNs + s.offset + s.skippedNs) =
      row.timestampNs - tl.epochNs - s.skippedNs := by omega
  simp only [ReplayPass.newStamp, h.csvStamps, hrow, timestampNs_shiftStamp, h.failed,
    Int.add_sub_cancel, hposition, Bool.false_eq_true, if_false, ReplayPass.finish]
  split_ifs with hfrom hto hfin <;> first | rfl | exact (by rw [← hfin])

/-- A cycle from its start. -/
theorem restarted (tl : ReplayTimeline) (s : ReplayPass) (hidx : s.idx = 0)
    (hsession : s.sessionIdx = tl.firstIdx) (hoffset : s.offset = tl.offsetOf s.cycle)
    (hfailed : s.failed = false) (hskipped : s.skippedNs = 0) :
    InCycle tl s [] (tl.csvStamps tl.firstIdx)
      ((tl.sessionStamps.drop (tl.firstIdx + 1)).takeWhile tl.Reaches) where
  split := rfl
  session := hsession
  idx_le := hidx ▸ Nat.zero_le _
  offset := hoffset
  failed := hfailed
  skipped := hskipped

/-- A pass begins with the first session of the range. -/
theorem init (tl : ReplayTimeline) :
    InCycle tl (.init tl) [] (tl.csvStamps tl.firstIdx)
      ((tl.sessionStamps.drop (tl.firstIdx + 1)).takeWhile tl.Reaches) := by
  refine restarted tl _ rfl rfl ?_ rfl rfl
  simp [ReplayPass.init, ReplayConfig.offsetOf]

/-- `_restart` comes to the same by a seek or by a new reader. -/
theorem restart_eq (h : InCycle tl s before rows after) :
    s.restart tl = { s with
      cycle := s.cycle + 1, offset := tl.offsetOf (s.cycle + 1), skippedNs := 0,
      finished := false, failed := false, sessionIdx := tl.firstIdx, idx := 0 } := by
  have hlt : s.sessionIdx < tl.sessionStamps.length :=
    (List.getElem?_eq_some_iff.mp h.sessionStamps_getElem?).1
  have hfirst := tl.firstIdx_lt
  simp only [ReplayPass.restart, ReplayPass.activateSession]
  split
  · next hseek =>
      have hidx : s.sessionIdx = tl.firstIdx := by
        rcases hseek.1 with hone | heq
        · omega
        · exact heq
      rw [hidx]
  · rfl

/-- So does a restart. -/
theorem restart (h : InCycle tl s before rows after) :
    InCycle tl (s.restart tl) [] (tl.csvStamps tl.firstIdx)
      ((tl.sessionStamps.drop (tl.firstIdx + 1)).takeWhile tl.Reaches) := by
  rw [h.restart_eq]
  exact restarted tl _ rfl rfl rfl rfl rfl

/-- EOS of a session that is not the last one of the cycle. -/
theorem onEos_next {next : List FrameStamp} {rest : List (List FrameStamp)}
    (h : InCycle tl s before rows (next :: rest)) (hend : s.idx = rows.length)
    (hfin : s.finished = false) :
    s.onEos tl = { s with
      skippedNs := s.skippedNs + excessNs tl.capNs (gapNs rows next)
      sessionIdx := s.sessionIdx + 1, idx := 0 } := by
  rw [ReplayPass.onEos, h.nextRows, h.csvStamps, hfin]
  simp [hend, ReplayPass.activateSession]

/-- EOS of the last session of the cycle. -/
theorem onEos_last (h : InCycle tl s before rows []) (hend : s.idx = rows.length)
    (hfin : s.finished = false) :
    s.onEos tl = if tl.loop then s.restart tl else { s with finished := true } := by
  rw [ReplayPass.onEos, h.nextRows, h.csvStamps, hfin]
  cases hloop : tl.loop <;> simp [hend, ReplayPass.finish]

/-- The next session. -/
theorem next {next : List FrameStamp} {rest : List (List FrameStamp)}
    (h : InCycle tl s before rows (next :: rest)) (hend : s.idx = rows.length)
    (hfin : s.finished = false) :
    InCycle tl (s.onEos tl) (before ++ [rows]) next rest := by
  rw [h.onEos_next hend hfin]
  exact
    { split := by rw [h.split, List.append_assoc]; rfl
      session := by
        change s.sessionIdx + 1 = _
        rw [h.session, List.length_append, List.length_singleton, Nat.add_assoc]
      idx_le := Nat.zero_le _
      offset := h.offset
      failed := h.failed
      skipped := by
        rw [h.skipped, List.append_assoc]
        exact (excessSum_concat _ _ _ _).symm }

/-- A frame that was read. -/
theorem read (h : InCycle tl s before rows after) {row : FrameStamp}
    (hrow : rows[s.idx]? = some row) : InCycle tl (s.newStamp tl) before rows after := by
  have hlt := (List.getElem?_eq_some_iff.mp hrow).1
  rw [h.newStamp_eq hrow]
  split_ifs <;>
    exact
      { split := h.split, session := h.session, idx_le := hlt, offset := h.offset,
        failed := h.failed, skipped := h.skipped }

end InCycle

/-- **Step lemma**: a pass stays inside some cycle. -/
theorem inCycle_step {tl : ReplayTimeline} {s s' : ReplayPass} {l : PassStep}
    (h : ∃ before rows after, InCycle tl s before rows after)
    (hs : ReplayPass.step tl s l = some s') :
    ∃ before rows after, InCycle tl s' before rows after := by
  obtain ⟨before, rows, after, h⟩ := h
  cases l with
  | frame =>
      simp only [ReplayPass.step, h.csvStamps, Option.ite_none_right_eq_some] at hs
      obtain ⟨hlt, hs⟩ := hs
      obtain rfl := Option.some.inj hs
      exact ⟨_, _, _, h.read (List.getElem?_eq_getElem hlt)⟩
  | eos =>
      simp only [ReplayPass.step, h.csvStamps, Option.ite_none_right_eq_some] at hs
      obtain ⟨hend, hs⟩ := hs
      obtain rfl := Option.some.inj hs
      cases hfin : s.finished with
      | true =>
          have hsame : s.onEos tl = s := by rw [ReplayPass.onEos, if_pos hfin]
          exact ⟨_, _, _, hsame ▸ h⟩
      | false =>
          cases after with
          | nil =>
              rw [h.onEos_last hend hfin]
              cases tl.loop with
              | true => exact ⟨_, _, _, h.restart⟩
              | false =>
                  exact ⟨_, _, _,
                    { split := h.split, session := h.session, idx_le := h.idx_le,
                      offset := h.offset, failed := h.failed, skipped := h.skipped }⟩
          | cons next rest => exact ⟨_, _, _, h.next hend hfin⟩
  | restart =>
      obtain rfl := Option.some.inj hs
      exact ⟨_, _, _, h.restart⟩

end CamDriver
