import CamDriver.Lib.Machine
import CamDriver.Pts
import CamDriver.Session

/-!
# CamDriver.Pipeline

`CapturePipeline` as a machine: the thread that feeds the recording, the decode
branch, the reconnect thread and the main loop, which opens, publishes and
finalizes sessions one after the other.

A raw or re-encoded source reads `_session` before it computes the PTS
(`_on_frame`), a stream-copy one after it (`_on_encoded`); everything else a
frame does is the same.  The result is about what the finalized JSON says of
its CSV: while no session is opened on a skewed timeline (`OpensUnskewed`), a
session that attests no PTS rebase has rows on the header's time base.
-/

namespace CamDriver

/-! ## PTS and absolute time -/

namespace PtsState

/-- The PTS leads back to the base: `base = timestamp - pts`. -/
def Maps (st : PtsState) (timestampNs pts : Int) : Prop := st.baseTs = some (timestampNs - pts)

instance (st : PtsState) (timestampNs pts : Int) : Decidable (st.Maps timestampNs pts) :=
  inferInstanceAs (Decidable (_ = _))

/-- No correction is in force, and none is left in the memo. -/
def Unskewed (st : PtsState) : Prop :=
  st.ptsSkew = 0 ∧ ∀ e ∈ st.ptsMemo.entries, st.Maps e.1.2 e.2

instance (st : PtsState) : Decidable st.Unskewed := inferInstanceAs (Decidable (_ ∧ _))

/-- What every call leaves: the base stays, and rebases only count up. -/
structure Later (st st' : PtsState) : Prop where
  base : ∀ base, st.baseTs = some base → st'.baseTs = some base
  rebases : st.drops.ptsRebases ≤ st'.drops.ptsRebases

theorem Later.refl (st : PtsState) : st.Later st := ⟨fun _ h => h, Int.le_refl _⟩

theorem Maps.later {st st' : PtsState} (hl : st.Later st') {timestampNs pts : Int}
    (h : st.Maps timestampNs pts) : st'.Maps timestampNs pts := hl.base _ h

/-- Without the memo, the skew is all that is left. -/
theorem Unskewed.clearMemo {st : PtsState} (h : st.Unskewed) : st.clearMemo.Unskewed :=
  ⟨h.1, by simp [PtsState.clearMemo, FifoMap.empty]⟩

end PtsState

/-- The guard either takes a step as it is, or counts a rebase. -/
theorem absorbStep_cases (frameIntervalNs : Int) (st : PtsState) (pts : Int) :
    (absorbStep frameIntervalNs st pts = (st, pts) ∧ ∀ last, st.lastPts = some last → last < pts) ∨
      ∃ skew target, absorbStep frameIntervalNs st pts =
        ({ st with ptsSkew := skew, drops := st.drops.notePtsRebase }, target) := by
  cases hlast : st.lastPts with
  | none => exact .inl ⟨absorbStep_first hlast pts, nofun⟩
  | some last =>
      by_cases hc : last < pts ∧ pts - last ≤ maxPtsJumpNs
      · refine .inl ⟨absorbStep_of_le hlast hc.1 hc.2, fun last' h => ?_⟩
        obtain rfl : last = last' := Option.some.inj h
        exact hc.1
      · exact .inr ⟨_, _, by rw [absorbStep_of_not hlast hc, hlast]⟩

/-- An own call keeps the base and only counts rebases up. -/
theorem ptsFor_own_later (frameIntervalNs : Int) (st : PtsState) (stamp : FrameStamp) :
    st.Later (ptsFor frameIntervalNs st stamp true).1 := by
  cases hm : st.ptsMemo.get stamp.ptsKey with
  | some memo => simpa only [ptsFor_hit hm] using PtsState.Later.refl st
  | none =>
      have hbase : ∀ base, st.baseTs = some base → (st.withBase stamp).baseTs = some base :=
        fun base h => by simp [PtsState.withBase, h]
      simp only [ptsFor, hm]
      obtain ⟨h, -⟩ | ⟨skew, target, h⟩ := absorbStep_cases frameIntervalNs (st.withBase stamp)
        (st.rawPts stamp)
      · rw [h]
        exact ⟨hbase, Int.le_refl _⟩
      · rw [h]
        refine ⟨hbase, ?_⟩
        show st.drops.ptsRebases ≤ st.drops.ptsRebases + 1
        omega

/-- **Own call on an unskewed timeline**: as long as it counts no rebase, its
PTS leads back to the base and the timeline stays unskewed. -/
theorem ptsFor_own_maps (frameIntervalNs : Int) {st : PtsState} (hw : st.Wf) (hu : st.Unskewed)
    (stamp : FrameStamp)
    (hr : (ptsFor frameIntervalNs st stamp true).1.drops.ptsRebases = st.drops.ptsRebases) :
    (ptsFor frameIntervalNs st stamp true).1.Unskewed ∧
      (ptsFor frameIntervalNs st stamp true).1.Maps stamp.timestampNs
        (ptsFor frameIntervalNs st stamp true).2 := by
  have hlater := ptsFor_own_later frameIntervalNs st stamp
  obtain ⟨hskew, hmemo⟩ := hu
  cases hm : st.ptsMemo.get stamp.ptsKey with
  | some memo =>
      rw [ptsFor_hit hm]
      exact ⟨⟨hskew, hmemo⟩, hmemo _ (FifoMap.mem_of_get_eq_some hm)⟩
  | none =>
      simp only [ptsFor, hm] at hr hlater ⊢
      obtain ⟨h, hlt⟩ | ⟨skew, target, h⟩ := absorbStep_cases frameIntervalNs (st.withBase stamp)
        (st.rawPts stamp)
      · -- not absorbed: the clamp at 0 does nothing either
        have h0 : ¬ st.rawPts stamp < 0 := by
          cases hlast : st.lastPts with
          | none => simp [PtsState.rawPts, hskew, (hw.fresh hlast).1]
          | some last =>
              have := hlt last hlast
              have := hw.last_nonneg last hlast
              omega
        rw [h] at hlater ⊢
        simp only [h0, if_false] at hlater ⊢
        have hmaps : (st.withBase stamp).Maps stamp.timestampNs (st.rawPts stamp) := by
          simp only [PtsState.Maps, PtsState.withBase, PtsState.rawPts, hskew, Option.some.injEq]
          omega
        refine ⟨⟨hskew, fun e he => ?_⟩, hmaps⟩
        rw [FifoMap.entries_trim, FifoMap.set_of_get_eq_none (show
          (st.withBase stamp).ptsMemo.get stamp.ptsKey = none from hm)] at he
        rcases List.mem_append.mp (List.mem_of_mem_drop he) with he | he
        · exact (hmemo e he).later hlater
        · obtain rfl : e = (stamp.ptsKey, st.rawPts stamp) := by simpa using he
          exact hmaps
      · rw [h] at hr
        have : st.drops.ptsRebases + 1 = st.drops.ptsRebases := hr
        omega

/-! ## The machine -/

/-- What a pipeline is built for. -/
structure PipelineConfig where
  frameIntervalNs : Int
  streamCopy : Bool
deriving DecidableEq, Repr

/-- Where the thread that feeds the recording is, and what it has read. -/
inductive FeederPc where
  | idle
  /-- `_on_frame`: `_session` is read, the PTS is not computed -/
  | read (stamp : FrameStamp) (sess : Option Nat)
  /-- `_on_encoded`: the PTS is computed, `_session` is not read -/
  | timed (stamp : FrameStamp) (pts : Int)
  | ready (stamp : FrameStamp) (sess : Option Nat) (pts : Int)
  /-- the frame is pushed, `_account` is left -/
  | pushed (stamp : FrameStamp)
deriving DecidableEq, Repr

/-- Where the main loop is between `activate` and the end of `deactivate`. -/
inductive MainPc where
  | inactive
  | opened (sess : Nat)
  | active (sess : Nat)
  | unpublished (sess : Nat)
  | closing (sess : Nat)
deriving DecidableEq, Repr

/-- `CapturePipeline`, with every session it made; a session is referred to by
its position. -/
structure CapturePipeline where
  pts : PtsState
  feeder : FeederPc
  main : MainPc
  sessionSeq : Nat
  sessions : List RecordingSession
  session : Option Nat
  finalized : List (Attestation × List SidecarRow)
deriving DecidableEq, Repr

/-- A built pipeline before its first frame. -/
def CapturePipeline.init : CapturePipeline :=
  { pts := PtsState.init, feeder := .idle, main := .inactive, sessionSeq := 0, sessions := [],
    session := none, finalized := [] }

/-- One atomic step of one of the threads. -/
inductive PipelineStep where
  /-- the source delivers a frame to the recording branch -/
  | frame (stamp : FrameStamp)
  /-- the recording branch makes its second read -/
  | advance
  | push (env : PushEnv)
  | account (discontinuity : Bool)
  /-- the decode branch asks for a PTS -/
  | look (stamp : FrameStamp)
  /-- the reconnect thread empties the memo -/
  | clearMemo
  | publishDrop
  /-- `activate`, up to `sess.start` -/
  | openSession (blocking : Bool)
  /-- `activate`, when the session cannot start -/
  | openFailed
  /-- `activate`: `self._session = sess` -/
  | publish
  /-- `deactivate`: `self._session = None` -/
  | unpublish
  | beginClose
  | finishClose
  /-- the session's bus, or a write, reports an error -/
  | recordError (sess : Nat)
deriving DecidableEq, Repr

namespace CapturePipeline

/-- The recording branch computes a PTS. -/
def time (cfg : PipelineConfig) (p : CapturePipeline) (stamp : FrameStamp)
    (feeder : Int → FeederPc) : CapturePipeline :=
  let r := ptsFor cfg.frameIntervalNs p.pts stamp true
  { p with pts := r.1, feeder := feeder r.2 }

/-- Change the drop counters only. -/
def withDrops (p : CapturePipeline) (f : DropStats → DropStats) : CapturePipeline :=
  { p with pts := { p.pts with drops := f p.pts.drops } }

/-- `_feed_recording`; the header is written from the process base. -/
def feedRecording (p : CapturePipeline) (env : PushEnv) (stamp : FrameStamp) (pts : Int)
    (i : Nat) : Option CapturePipeline :=
  match p.sessions[i]?, p.pts.baseTs with
  | some s, some base =>
    let r := s.offer base env stamp pts
    let p := { p with sessions := p.sessions.set i r.1, feeder := .pushed stamp }
    some (if r.2 = .dropped then p.withDrops DropStats.noteEnqueueFailure else p)
  | _, _ => none

/-- One step; `none` when the thread is not at that statement. -/
def step (cfg : PipelineConfig) (p : CapturePipeline) : PipelineStep → Option CapturePipeline
  | .frame stamp =>
    match p.feeder with
    | .idle =>
      some (if cfg.streamCopy then p.time cfg stamp (.timed stamp)
        else { p with feeder := .read stamp p.session })
    | _ => none
  | .advance =>
    match p.feeder with
    | .read stamp sess => some (p.time cfg stamp (.ready stamp sess))
    | .timed stamp pts => some { p with feeder := .ready stamp p.session pts }
    | _ => none
  | .push env =>
    match p.feeder with
    | .ready stamp none _ => some { p with feeder := .pushed stamp }
    | .ready stamp (some i) pts => p.feedRecording env stamp pts i
    | _ => none
  | .account discontinuity =>
    match p.feeder with
    | .pushed stamp =>
      let p := if discontinuity then p.withDrops DropStats.resync else p
      some { p.withDrops (·.observeFrame stamp.frameId) with feeder := .idle }
    | _ => none
  | .look stamp => some { p with pts := (ptsFor cfg.frameIntervalNs p.pts stamp false).1 }
  | .clearMemo => some { p with pts := p.pts.clearMemo }
  | .publishDrop => some (p.withDrops DropStats.notePublishDrop)
  | .openSession blocking =>
    match p.main with
    | .inactive =>
      let index := p.sessionSeq + 1
      let s := RecordingSession.start index cfg.streamCopy blocking p.pts.drops.summary
      some { p with main := .opened p.sessions.length, sessionSeq := index,
                    sessions := p.sessions ++ [s] }
    | _ => none
  | .openFailed =>
    match p.main with
    | .inactive => some { p with sessionSeq := p.sessionSeq + 1 }
    | _ => none
  | .publish =>
    match p.main with
    | .opened i => some { p with main := .active i, session := some i }
    | _ => none
  | .unpublish =>
    match p.main with
    | .active i => some { p with main := .unpublished i, session := none }
    | _ => none
  | .beginClose =>
    match p.main with
    | .unpublished i =>
      some { p with main := .closing i,
                    sessions := p.sessions.modify i RecordingSession.beginClose }
    | _ => none
  | .finishClose =>
    match p.main with
    | .closing i =>
      match p.sessions[i]? with
      | some s =>
        let final := (s.attest p.pts.drops.summary, s.accepted)
        some { p with main := .inactive, finalized := p.finalized ++ [final] }
      | none => none
    | _ => none
  | .recordError i =>
    some { p with sessions := p.sessions.modify i fun s => { s with error := true } }

end CapturePipeline

/-! ## What a session may attest -/

/-- **Absolute-time attestation**: the header has no offset, and if the JSON
attests no rebase, every row leads back to the header's base. -/
structure AttestsAbsoluteTime (a : Attestation) (rows : List SidecarRow) : Prop where
  offset : ∀ h, a.header = some h → h.ptsOffsetNs = 0
  rows : a.drops.ptsRebases = 0 → ∀ row ∈ rows, ∃ h, a.header = some h ∧
    row.2 = row.1.timestampNs - h.baseTimestampNs

/-- A frame that has its PTS but no session yet was not corrected. -/
def FlightMaps (pts : PtsState) : FeederPc → Prop
  | .timed stamp t => pts.Maps stamp.timestampNs t
  | .idle | .read _ _ | .ready _ _ _ | .pushed _ => True

instance (pts : PtsState) : (pc : FeederPc) → Decidable (FlightMaps pts pc)
  | .timed _ _ => inferInstanceAs (Decidable (PtsState.Maps _ _ _))
  | .idle | .read _ _ | .ready _ _ _ | .pushed _ => isTrue trivial

/-- A session is opened while nothing skews the timeline: no correction is in
force or remembered, and none went into the frame in flight. -/
def OpensUnskewed (p : CapturePipeline) : PipelineStep → Prop
  | .openSession _ => p.pts.Unskewed ∧ FlightMaps p.pts p.feeder
  | _ => True

instance (p : CapturePipeline) : (l : PipelineStep) → Decidable (OpensUnskewed p l)
  | .openSession _ => inferInstanceAs (Decidable (_ ∧ _))
  | .frame _ | .advance | .push _ | .account _ | .look _ | .clearMemo | .publishDrop | .openFailed
  | .publish | .unpublish | .beginClose | .finishClose | .recordError _ => isTrue trivial

/-- What is established about a session, as long as no rebase has been counted
since it was opened. -/
structure SessionInv (pts : PtsState) (s : RecordingSession) : Prop where
  wf : s.Wf
  header : ∀ h, s.header = some h → h.ptsOffsetNs = 0 ∧ pts.baseTs = some h.baseTimestampNs
  snapshot : s.dropsAtStart.ptsRebases ≤ pts.drops.ptsRebases
  unskewed : pts.drops.ptsRebases = s.dropsAtStart.ptsRebases → pts.Unskewed
  rows : pts.drops.ptsRebases = s.dropsAtStart.ptsRebases →
    ∀ row ∈ s.accepted, pts.Maps row.1.timestampNs row.2

/-- A frame in flight is on the time base of a session opened with this
snapshot, under the same proviso. -/
def InFlight (pts : PtsState) (snapshot : DropSummary) (stamp : FrameStamp) (t : Int) : Prop :=
  pts.drops.ptsRebases = snapshot.ptsRebases → pts.Maps stamp.timestampNs t

/-- The snapshots the sessions were opened with. -/
def CapturePipeline.snapshots (p : CapturePipeline) : List DropSummary :=
  p.sessions.map RecordingSession.dropsAtStart

/-- What the feeder has read is consistent with the sessions it may reach. -/
def FeederOk (pts : PtsState) (snapshots : List DropSummary) : FeederPc → Prop
  | .idle | .pushed _ => True
  | .read _ sess => ∀ i, sess = some i → i < snapshots.length
  | .timed stamp t => ∀ d ∈ snapshots, InFlight pts d stamp t
  | .ready stamp sess t => ∀ i, sess = some i → ∃ d, snapshots[i]? = some d ∧ InFlight pts d stamp t

/-- The invariant of a run that opens its sessions unskewed. -/
structure PipelineInv (p : CapturePipeline) : Prop where
  pts : p.pts.Wf
  sessions : ∀ s ∈ p.sessions, SessionInv p.pts s
  published : ∀ i, p.session = some i → i < p.snapshots.length
  opened : ∀ i, p.main = .opened i → i < p.snapshots.length
  feeder : FeederOk p.pts p.snapshots p.feeder
  finalized : ∀ f ∈ p.finalized, AttestsAbsoluteTime f.1 f.2

/-! ## What one step does to the timeline -/

namespace PtsState

/-- A call, or a counter, that keeps an unskewed timeline unskewed unless it
counts a rebase. -/
structure After (st st' : PtsState) : Prop extends Later st st' where
  wf : st'.Wf
  unskewed : st'.drops.ptsRebases = st.drops.ptsRebases → st.Unskewed → st'.Unskewed

theorem After.refl {st : PtsState} (hw : st.Wf) : st.After st := ⟨Later.refl st, hw, fun _ h => h⟩

theorem After.trans {st st' st'' : PtsState} (h : st.After st') (h' : st'.After st'') :
    st.After st'' where
  base b hb := h'.base b (h.base b hb)
  rebases := Int.le_trans h.rebases h'.rebases
  wf := h'.wf
  unskewed heq hu := by
    have h1 := h.rebases
    have h2 := h'.rebases
    exact h'.unskewed (by omega) (h.unskewed (by omega) hu)

theorem after_own (frameIntervalNs : Int) {st : PtsState} (hw : st.Wf) (stamp : FrameStamp) :
    st.After (ptsFor frameIntervalNs st stamp true).1 :=
  ⟨ptsFor_own_later frameIntervalNs st stamp, wf_step frameIntervalNs hw (.own stamp),
    fun hr hu => (ptsFor_own_maps frameIntervalNs hw hu stamp hr).1⟩

theorem after_clearMemo {st : PtsState} (hw : st.Wf) : st.After st.clearMemo :=
  ⟨⟨fun _ h => h, Int.le_refl _⟩, ⟨hw.fresh, hw.last_nonneg⟩, fun _ hu => hu.clearMemo⟩

/-- A counter other than the rebases. -/
theorem after_drops {st : PtsState} (hw : st.Wf) {drops : DropStats}
    (h : drops.ptsRebases = st.drops.ptsRebases) : st.After { st with drops := drops } :=
  ⟨⟨fun _ h => h, Int.le_of_eq h.symm⟩, ⟨hw.fresh, hw.last_nonneg⟩, fun _ hu => hu⟩

end PtsState

theorem SessionInv.after {pts pts' : PtsState} {s : RecordingSession} (h : SessionInv pts s)
    (ha : pts.After pts') : SessionInv pts' s := by
  have hmono := ha.rebases
  have hsnap := h.snapshot
  exact
    { wf := h.wf
      header := fun hd hhd => ⟨(h.header hd hhd).1, ha.base _ (h.header hd hhd).2⟩
      snapshot := by omega
      unskewed := fun heq => ha.unskewed (by omega) (h.unskewed (by omega))
      rows := fun heq row hrow => (h.rows (by omega) row hrow).later ha.toLater }

theorem InFlight.after {pts pts' : PtsState} {s : RecordingSession} (hs : SessionInv pts s)
    (ha : pts.After pts') {stamp : FrameStamp} {t : Int}
    (h : InFlight pts s.dropsAtStart stamp t) : InFlight pts' s.dropsAtStart stamp t := by
  intro heq
  have hmono := ha.rebases
  have hsnap := hs.snapshot
  exact (h (by omega)).later ha.toLater

/-- An own call serves every session that is already open. -/
theorem inFlight_own (frameIntervalNs : Int) {pts : PtsState} (hw : pts.Wf)
    {s : RecordingSession} (hs : SessionInv pts s) (stamp : FrameStamp) :
    InFlight (ptsFor frameIntervalNs pts stamp true).1 s.dropsAtStart stamp
      (ptsFor frameIntervalNs pts stamp true).2 := by
  intro heq
  have hmono := (ptsFor_own_later frameIntervalNs pts stamp).rebases
  have hsnap := hs.snapshot
  exact (ptsFor_own_maps frameIntervalNs hw (hs.unskewed (by omega)) stamp (by omega)).2

/-- Closing, or an error, leaves what is established about a session. -/
theorem SessionInv.congr {pts : PtsState} {s s' : RecordingSession} (h : SessionInv pts s)
    (hw : s'.Wf) (hheader : s'.header = s.header) (hdrops : s'.dropsAtStart = s.dropsAtStart)
    (hrows : s'.accepted = s.accepted) : SessionInv pts s' :=
  { wf := hw
    header := hheader ▸ h.header
    snapshot := hdrops ▸ h.snapshot
    unskewed := hdrops ▸ h.unskewed
    rows := by rw [hdrops, hrows]; exact h.rows }

/-- **One frame** offered on its time base. -/
theorem SessionInv.offer {pts : PtsState} {s : RecordingSession} (h : SessionInv pts s)
    {base : Int} (hbase : pts.baseTs = some base) (env : PushEnv) {stamp : FrameStamp} {t : Int}
    (ht : InFlight pts s.dropsAtStart stamp t) : SessionInv pts (s.offer base env stamp t).1 := by
  have header : ∀ s', s.Keeps s' base → ∀ hd, s'.header = some hd →
      hd.ptsOffsetNs = 0 ∧ pts.baseTs = some hd.baseTimestampNs := by
    intro s' hk hd hhd
    rcases hk.header with heq | ⟨stamp', t', heq⟩
    · exact h.header hd (heq ▸ hhd)
    · obtain rfl : sessionHeader base s.index stamp' t' = hd := Option.some.inj (heq ▸ hhd)
      exact ⟨rfl, hbase⟩
  rcases s.offer_cases base env stamp t with ⟨-, hacc⟩ | ⟨-, href⟩
  · exact
      { wf := hacc.wf h.wf
        header := header _ hacc.toKeeps
        snapshot := by rw [hacc.dropsAtStart]; exact h.snapshot
        unskewed := by rw [hacc.dropsAtStart]; exact h.unskewed
        rows := by
          rw [hacc.dropsAtStart, hacc.accepted]
          intro heq row hrow
          rcases List.mem_append.mp hrow with hrow | hrow
          · exact h.rows heq row hrow
          · obtain rfl : row = (stamp, t) := by simpa using hrow
            exact ht heq }
  · exact
      { wf := href.wf h.wf
        header := header _ href.toKeeps
        snapshot := by rw [href.dropsAtStart]; exact h.snapshot
        unskewed := by rw [href.dropsAtStart]; exact h.unskewed
        rows := by rw [href.dropsAtStart, href.accepted]; exact h.rows }

/-- What a session attests when it is finalized. -/
theorem SessionInv.attests {pts : PtsState} {s : RecordingSession} (h : SessionInv pts s) :
    AttestsAbsoluteTime (s.attest pts.drops.summary) s.accepted where
  offset hd hhd := (h.header hd hhd).1
  rows hdelta row hrow := by
    have heq : pts.drops.ptsRebases = s.dropsAtStart.ptsRebases := by
      have : pts.drops.ptsRebases - s.dropsAtStart.ptsRebases = 0 := hdelta
      omega
    obtain ⟨hd, hhd⟩ := Option.isSome_iff_exists.mp
      (h.wf.header_of_accepted (List.ne_nil_of_mem hrow))
    have hbase : some (row.1.timestampNs - row.2) = some hd.baseTimestampNs :=
      (h.rows heq row hrow).symm.trans (h.header hd hhd).2
    have := Option.some.inj hbase
    exact ⟨hd, hhd, by omega⟩

/-! ## Steps and runs -/

/-- Rewriting one session without touching its snapshot. -/
theorem snapshots_modify (l : List RecordingSession) (i : Nat)
    {f : RecordingSession → RecordingSession} (hf : ∀ s, (f s).dropsAtStart = s.dropsAtStart) :
    (l.modify i f).map RecordingSession.dropsAtStart = l.map RecordingSession.dropsAtStart := by
  apply List.ext_getElem?
  intro j
  rw [List.getElem?_map, List.getElem?_map, List.getElem?_modify]
  cases l[j]? with
  | none => rfl
  | some s =>
      by_cases hij : i = j
      · simp [hij, hf]
      · simp [hij]

theorem mem_modify {l : List RecordingSession} {i : Nat}
    {f : RecordingSession → RecordingSession} {s : RecordingSession} (h : s ∈ l.modify i f) :
    s ∈ l ∨ ∃ s₀ ∈ l, s = f s₀ := by
  obtain ⟨j, hj⟩ := List.mem_iff_getElem?.mp h
  rw [List.getElem?_modify] at hj
  cases hl : l[j]? with
  | none => simp [hl] at hj
  | some s₀ =>
      have hmem := List.mem_of_getElem? hl
      by_cases hij : i = j
      · have hs : f s₀ = s := by simpa [hl, hij] using hj
        exact .inr ⟨s₀, hmem, hs.symm⟩
      · have hs : s₀ = s := by simpa [hl, hij] using hj
        exact .inl (hs ▸ hmem)

/-- A step of the timeline that leaves sessions and main loop alone; the feeder
may have moved on. -/
theorem PipelineInv.withPts {p : CapturePipeline} (h : PipelineInv p) {pts : PtsState}
    (ha : p.pts.After pts) {feeder : FeederPc} (hf : FeederOk pts p.snapshots feeder) :
    PipelineInv { p with pts := pts, feeder := feeder } :=
  { pts := ha.wf
    sessions := fun s hs => (h.sessions s hs).after ha
    published := h.published
    opened := h.opened
    feeder := hf
    finalized := h.finalized }

/-- What the feeder has read stays good while the timeline moves. -/
theorem PipelineInv.feederOk_after {p : CapturePipeline} (h : PipelineInv p) {pts : PtsState}
    (ha : p.pts.After pts) : FeederOk pts p.snapshots p.feeder := by
  have inFlight : ∀ d ∈ p.snapshots, ∀ stamp t, InFlight p.pts d stamp t →
      InFlight pts d stamp t := by
    intro d hd stamp t ht
    obtain ⟨s, hs, rfl⟩ := List.mem_map.mp hd
    exact ht.after (h.sessions s hs) ha
  have hf := h.feeder
  cases hpc : p.feeder with
  | idle => trivial
  | pushed stamp => trivial
  | read stamp sess => rwa [hpc] at hf
  | timed stamp t =>
      rw [hpc] at hf
      exact fun d hd => inFlight d hd stamp t (hf d hd)
  | ready stamp sess t =>
      rw [hpc] at hf
      intro i hi
      obtain ⟨d, hd, ht⟩ := hf i hi
      exact ⟨d, hd, inFlight d (List.mem_of_getElem? hd) stamp t ht⟩

theorem PipelineInv.withDrops {p : CapturePipeline} (h : PipelineInv p) {f : DropStats → DropStats}
    (hr : ∀ d, (f d).ptsRebases = d.ptsRebases) : PipelineInv (p.withDrops f) := by
  have ha := PtsState.after_drops h.pts (hr p.pts.drops)
  exact h.withPts ha (h.feederOk_after ha)

/-- Rewriting one session in a way that keeps what is established about it. -/
theorem PipelineInv.modify {p : CapturePipeline} (h : PipelineInv p) (i : Nat)
    (f : RecordingSession → RecordingSession) (hd : ∀ s, (f s).dropsAtStart = s.dropsAtStart)
    (hf : ∀ s, SessionInv p.pts s → SessionInv p.pts (f s)) :
    PipelineInv { p with sessions := p.sessions.modify i f } := by
  have hsnap : (p.sessions.modify i f).map RecordingSession.dropsAtStart = p.snapshots :=
    snapshots_modify p.sessions i hd
  exact
    { pts := h.pts
      sessions := by
        intro s hs
        rcases mem_modify hs with hs | ⟨s₀, hs₀, rfl⟩
        · exact h.sessions s hs
        · exact hf s₀ (h.sessions s₀ hs₀)
      published := by rw [CapturePipeline.snapshots, hsnap]; exact h.published
      opened := by rw [CapturePipeline.snapshots, hsnap]; exact h.opened
      feeder := by rw [CapturePipeline.snapshots, hsnap]; exact h.feeder
      finalized := h.finalized }

/-- A new session on an unskewed timeline. -/
theorem sessionInv_start {pts : PtsState} (hu : pts.Unskewed) (index : Nat)
    (encoded blocking : Bool) :
    SessionInv pts (RecordingSession.start index encoded blocking pts.drops.summary) :=
  { wf := RecordingSession.wf_start index encoded blocking _
    header := nofun
    snapshot := Int.le_refl _
    unskewed := fun _ => hu
    rows := nofun }

/-- `activate` on an unskewed timeline. -/
theorem PipelineInv.openSession {p : CapturePipeline} (h : PipelineInv p)
    (hu : p.pts.Unskewed) (hflight : FlightMaps p.pts p.feeder) (index : Nat)
    (encoded blocking : Bool) :
    PipelineInv { p with
      main := .opened p.sessions.length
      sessionSeq := index
      sessions := p.sessions ++
        [RecordingSession.start index encoded blocking p.pts.drops.summary] } := by
  have hsnaps : (p.sessions ++ [RecordingSession.start index encoded blocking
      p.pts.drops.summary]).map RecordingSession.dropsAtStart =
      p.snapshots ++ [p.pts.drops.summary] := by
    simp [CapturePipeline.snapshots, RecordingSession.start]
  constructor
  case pts => exact h.pts
  case sessions =>
    intro s hs
    rcases List.mem_append.mp hs with hs | hs
    · exact h.sessions s hs
    · rw [List.mem_singleton.mp hs]
      exact sessionInv_start hu index encoded blocking
  case published =>
    intro i hi
    have := h.published i hi
    rw [CapturePipeline.snapshots, hsnaps, List.length_append]
    omega
  case opened =>
    intro i hi
    obtain rfl : p.sessions.length = i := MainPc.opened.inj hi
    simp [CapturePipeline.snapshots]
  case feeder =>
    rw [CapturePipeline.snapshots, hsnaps]
    have hf := h.feeder
    cases hpc : p.feeder with
    | idle => trivial
    | pushed stamp => trivial
    | read stamp sess =>
        rw [hpc] at hf
        intro i hi
        have := hf i hi
        rw [List.length_append]
        omega
    | timed stamp t =>
        rw [hpc] at hf
        intro d hd
        rcases List.mem_append.mp hd with hd | hd
        · exact hf d hd
        · rw [hpc] at hflight
          exact fun _ => hflight
    | ready stamp sess t =>
        rw [hpc] at hf
        intro i hi
        obtain ⟨d, hd, ht⟩ := hf i hi
        obtain ⟨hlt, -⟩ := List.getElem?_eq_some_iff.mp hd
        exact ⟨d, by rw [List.getElem?_append_left hlt, hd], ht⟩
  case finalized => exact h.finalized

/-- A frame offered to the session the feeder holds. -/
theorem PipelineInv.feedRecording {p p' : CapturePipeline} (h : PipelineInv p) {env : PushEnv}
    {stamp : FrameStamp} {t : Int} {i : Nat}
    (hf : ∃ d, p.snapshots[i]? = some d ∧ InFlight p.pts d stamp t)
    (hs : p.feedRecording env stamp t i = some p') : PipelineInv p' := by
  rw [CapturePipeline.feedRecording] at hs
  cases hi : p.sessions[i]? with
  | none => simp [hi] at hs
  | some s =>
      cases hb : p.pts.baseTs with
      | none => simp [hi, hb] at hs
      | some base =>
          obtain ⟨d, hd, ht⟩ := hf
          obtain rfl : s.dropsAtStart = d := by
            simpa [CapturePipeline.snapshots, hi] using hd
          have hnew := (h.sessions s (List.mem_of_getElem? hi)).offer hb env ht
          have hsnap : (s.offer base env stamp t).1.dropsAtStart = s.dropsAtStart := by
            rcases s.offer_cases base env stamp t with ⟨-, hk⟩ | ⟨-, hk⟩
            · exact hk.dropsAtStart
            · exact hk.dropsAtStart
          have hset : PipelineInv { p with
              sessions := p.sessions.set i (s.offer base env stamp t).1
              feeder := .pushed stamp } := by
            have hsnaps : (p.sessions.set i (s.offer base env stamp t).1).map
                RecordingSession.dropsAtStart = p.snapshots := by
              rw [List.map_set, hsnap]
              apply List.ext_getElem?
              intro j
              rw [List.getElem?_set]
              obtain ⟨hlt, rfl⟩ := List.getElem?_eq_some_iff.mp hi
              by_cases hij : i = j
              · subst hij
                simp [CapturePipeline.snapshots, hlt]
              · simp [CapturePipeline.snapshots, hij]
            exact
              { pts := h.pts
                sessions := by
                  intro s' hs'
                  rcases List.mem_or_eq_of_mem_set hs' with hs' | rfl
                  · exact h.sessions s' hs'
                  · exact hnew
                published := by rw [CapturePipeline.snapshots, hsnaps]; exact h.published
                opened := by rw [CapturePipeline.snapshots, hsnaps]; exact h.opened
                feeder := trivial
                finalized := h.finalized }
          simp only [hi, hb] at hs
          obtain rfl := Option.some.inj hs
          split
          · exact hset.withDrops DropStats.ptsRebases_noteEnqueueFailure
          · exact hset

/-- **Step lemma**: every step keeps the invariant, as long as sessions are
opened on an unskewed timeline. -/
theorem pipelineInv_step (cfg : PipelineConfig) (p : CapturePipeline) (l : PipelineStep)
    (p' : CapturePipeline) (h : PipelineInv p) (hc : OpensUnskewed p l)
    (hs : CapturePipeline.step cfg p l = some p') : PipelineInv p' := by
  have hf := h.feeder
  cases l with
  | frame stamp =>
      cases hpc : p.feeder with
      | idle =>
          simp only [CapturePipeline.step, hpc, Option.some.injEq] at hs
          subst hs
          split
          · refine h.withPts (PtsState.after_own _ h.pts stamp) fun d hd => ?_
            obtain ⟨s, hs, rfl⟩ := List.mem_map.mp hd
            exact inFlight_own _ h.pts (h.sessions s hs) stamp
          · exact h.withPts (.refl h.pts) h.published
      | _ => simp [CapturePipeline.step, hpc] at hs
  | advance =>
      cases hpc : p.feeder with
      | read stamp sess =>
          simp only [CapturePipeline.step, hpc, Option.some.injEq] at hs
          subst hs
          rw [hpc] at hf
          refine h.withPts (PtsState.after_own _ h.pts stamp) fun i hi => ?_
          have hlen : i < p.sessions.length := by
            simpa [CapturePipeline.snapshots] using hf i hi
          refine ⟨p.sessions[i].dropsAtStart, by simp [CapturePipeline.snapshots, hlen], ?_⟩
          exact inFlight_own _ h.pts (h.sessions _ (List.getElem_mem hlen)) stamp
      | timed stamp t =>
          simp only [CapturePipeline.step, hpc, Option.some.injEq] at hs
          subst hs
          rw [hpc] at hf
          refine h.withPts (.refl h.pts) fun i hi => ?_
          have hlen := h.published i hi
          exact ⟨p.snapshots[i], List.getElem?_eq_getElem hlen, hf _ (List.getElem_mem hlen)⟩
      | _ => simp [CapturePipeline.step, hpc] at hs
  | push env =>
      cases hpc : p.feeder with
      | ready stamp sess t =>
          rw [hpc] at hf
          cases sess with
          | none =>
              simp only [CapturePipeline.step, hpc, Option.some.injEq] at hs
              subst hs
              exact h.withPts (.refl h.pts) trivial
          | some i =>
              simp only [CapturePipeline.step, hpc] at hs
              exact h.feedRecording (hf i rfl) hs
      | _ => simp [CapturePipeline.step, hpc] at hs
  | account discontinuity =>
      cases hpc : p.feeder with
      | pushed stamp =>
          simp only [CapturePipeline.step, hpc, Option.some.injEq] at hs
          subst hs
          have hresync :
              PipelineInv (if discontinuity then p.withDrops DropStats.resync else p) := by
            split
            · exact h.withDrops DropStats.ptsRebases_resync
            · exact h
          have hframe :=
            hresync.withDrops fun d => DropStats.ptsRebases_observeFrame d stamp.frameId
          exact hframe.withPts (.refl hframe.pts) trivial
      | _ => simp [CapturePipeline.step, hpc] at hs
  | look stamp =>
      simp only [CapturePipeline.step, ptsFor_look_fst, Option.some.injEq] at hs
      exact hs ▸ h
  | clearMemo =>
      simp only [CapturePipeline.step, Option.some.injEq] at hs
      subst hs
      have ha := PtsState.after_clearMemo h.pts
      exact h.withPts ha (h.feederOk_after ha)
  | publishDrop =>
      simp only [CapturePipeline.step, Option.some.injEq] at hs
      exact hs ▸ h.withDrops DropStats.ptsRebases_notePublishDrop
  | openSession blocking =>
      cases hpc : p.main with
      | inactive =>
          simp only [CapturePipeline.step, hpc, Option.some.injEq] at hs
          subst hs
          exact h.openSession hc.1 hc.2 _ _ _
      | _ => simp [CapturePipeline.step, hpc] at hs
  | openFailed =>
      cases hpc : p.main with
      | inactive =>
          simp only [CapturePipeline.step, hpc, Option.some.injEq] at hs
          subst hs
          exact ⟨h.pts, h.sessions, h.published, nofun, h.feeder, h.finalized⟩
      | _ => simp [CapturePipeline.step, hpc] at hs
  | publish =>
      cases hpc : p.main with
      | opened i =>
          simp only [CapturePipeline.step, hpc, Option.some.injEq] at hs
          subst hs
          refine ⟨h.pts, h.sessions, fun j hj => ?_, nofun, h.feeder, h.finalized⟩
          obtain rfl : i = j := Option.some.inj hj
          exact h.opened i hpc
      | _ => simp [CapturePipeline.step, hpc] at hs
  | unpublish =>
      cases hpc : p.main with
      | active i =>
          simp only [CapturePipeline.step, hpc, Option.some.injEq] at hs
          subst hs
          exact ⟨h.pts, h.sessions, nofun, nofun, h.feeder, h.finalized⟩
      | _ => simp [CapturePipeline.step, hpc] at hs
  | beginClose =>
      cases hpc : p.main with
      | unpublished i =>
          simp only [CapturePipeline.step, hpc, Option.some.injEq] at hs
          subst hs
          have hm := h.modify i RecordingSession.beginClose (fun _ => rfl) fun s hs =>
            hs.congr ⟨hs.wf.1, hs.wf.2, hs.wf.3⟩ rfl rfl rfl
          exact ⟨hm.pts, hm.sessions, hm.published, nofun, hm.feeder, hm.finalized⟩
      | _ => simp [CapturePipeline.step, hpc] at hs
  | finishClose =>
      cases hpc : p.main with
      | closing i =>
          cases hi : p.sessions[i]? with
          | none => simp [CapturePipeline.step, hpc, hi] at hs
          | some s =>
              simp only [CapturePipeline.step, hpc, hi, Option.some.injEq] at hs
              subst hs
              refine ⟨h.pts, h.sessions, h.published, nofun, h.feeder, fun f hf => ?_⟩
              rcases List.mem_append.mp hf with hf | hf
              · exact h.finalized f hf
              · obtain rfl : f = (s.attest p.pts.drops.summary, s.accepted) := by simpa using hf
                exact (h.sessions s (List.mem_of_getElem? hi)).attests
      | _ => simp [CapturePipeline.step, hpc] at hs
  | recordError i =>
      simp only [CapturePipeline.step, Option.some.injEq] at hs
      subst hs
      exact h.modify i (fun s => { s with error := true }) (fun _ => rfl) fun s hs =>
        hs.congr ⟨hs.wf.1, hs.wf.2, fun _ herr => nomatch herr⟩ rfl rfl rfl

theorem pipelineInv_init : PipelineInv CapturePipeline.init :=
  { pts := PtsState.wf_init
    sessions := fun _ hs => absurd hs List.not_mem_nil
    published := fun _ hi => nomatch hi
    opened := fun _ hi => nomatch hi
    feeder := trivial
    finalized := fun _ hf => absurd hf List.not_mem_nil }

/-- **Attestation of absolute time**: in a run that opens every session on an
unskewed timeline, every finalized session attests absolute time truthfully. -/
theorem attestsAbsoluteTime_of_opensUnskewed (cfg : PipelineConfig) (steps : List PipelineStep)
    (p : CapturePipeline)
    (hc : Machine.Along (CapturePipeline.step cfg) OpensUnskewed CapturePipeline.init steps)
    (h : Machine.exec (CapturePipeline.step cfg) CapturePipeline.init steps = some p) :
    ∀ f ∈ p.finalized, AttestsAbsoluteTime f.1 f.2 :=
  (Machine.exec_inv_along (pipelineInv_step cfg) pipelineInv_init hc h).finalized

/-- A frame on its way through the recording branch. -/
def frameSteps (timestampNs : Int) : List PipelineStep :=
  [.frame (plainStamp timestampNs), .advance, .push acceptingEnv, .account false]

/-- A frame while inactive, then a session with two frames. -/
def cleanSteps : List PipelineStep :=
  frameSteps 10 ++ [.openSession false, .publish] ++ frameSteps 20 ++ frameSteps 30 ++
    [.unpublish, .beginClose, .finishClose]

/-- The clock steps back while no session is open, then a session is recorded. -/
def skewedSteps : List PipelineStep :=
  frameSteps 10 ++ frameSteps 5 ++ [.openSession false, .publish] ++ frameSteps 20 ++
    [.unpublish, .beginClose, .finishClose]

/-- A raw and a stream-copy pipeline at one frame a nanosecond. -/
def rawConfig : PipelineConfig := { frameIntervalNs := 1, streamCopy := false }

def copyConfig : PipelineConfig := { frameIntervalNs := 1, streamCopy := true }

/-- The clean run, raw and stream-copied: one session of two frames each time. -/
theorem attestsAbsoluteTime_cleanSteps :
    (∃ p, Machine.exec (CapturePipeline.step rawConfig) CapturePipeline.init cleanSteps = some p ∧
      p.finalized.map (fun f => f.2.map Prod.snd) = [[10, 20]] ∧
      ∀ f ∈ p.finalized, AttestsAbsoluteTime f.1 f.2) ∧
    (∃ p, Machine.exec (CapturePipeline.step copyConfig) CapturePipeline.init cleanSteps = some p ∧
      p.finalized.map (fun f => f.2.map Prod.snd) = [[10, 20]] ∧
      ∀ f ∈ p.finalized, AttestsAbsoluteTime f.1 f.2) :=
  ⟨⟨_, rfl, by decide,
      attestsAbsoluteTime_of_opensUnskewed rawConfig cleanSteps _ (by decide) rfl⟩,
    ⟨_, rfl, by decide,
      attestsAbsoluteTime_of_opensUnskewed copyConfig cleanSteps _ (by decide) rfl⟩⟩

/-- The skew outlives the rebase that the session does not count: its one row
has PTS 16 for timestamp 20 over base 10. -/
theorem not_attestsAbsoluteTime_skewedSteps :
    ¬ ∀ (cfg : PipelineConfig) (steps : List PipelineStep) (p : CapturePipeline),
      Machine.exec (CapturePipeline.step cfg) CapturePipeline.init steps = some p →
        ∀ f ∈ p.finalized, AttestsAbsoluteTime f.1 f.2 := by
  intro h
  have hrun := h rawConfig skewedSteps _ rfl _ List.mem_cons_self
  obtain ⟨hd, hheader, hpts⟩ := hrun.rows rfl _ List.mem_cons_self
  obtain rfl := Option.some.inj hheader
  exact absurd hpts (by decide)

end CamDriver
