import Mathlib.Data.List.Chain
import CamDriver.Lib.FifoMap
import CamDriver.Lib.Machine
import CamDriver.DropStats
import CamDriver.Timestamps

/-!
# CamDriver.Pts

The recording timeline: `CapturePipeline._pts_for` and the state it owns.

Every frame's PTS is computed once, by the branch that feeds the recording
(`own`), and remembered in a bounded memo for the best-effort decode branch,
which only reads.  A timestamp that steps backward, repeats, or jumps forward
by more than `maxPtsJumpNs` is absorbed into a skew, so the PTS keeps
increasing.  The reconnect thread empties the memo.

All three run under one lock, so a run is a list of `PtsCall`s.  The results
are read off the `Machine.history` of the run:

* `wf_step` — the skew and the last PTS stay consistent (`PtsState.Wf`);
* `ptsFor_own_miss` — everything an own call can do when the memo misses;
* `timelineInv_step` — the memo is the window of the last `ptsMemoFrames` own
  results since the last clear, and the results so far are a timeline.
-/

namespace CamDriver

/-! ## The state and the calls -/

/-- `_MAX_PTS_JUMP_NS`: a larger forward step is a clock change, not a gap. -/
def maxPtsJumpNs : Int := 60 * 1000000000

/-- `_PTS_MEMO_FRAMES`: depth of the per-frame memo. -/
def ptsMemoFrames : Nat := 256

/-- The memo key: frame ids recycle, so the timestamp is part of it. -/
abbrev PtsKey := Int × Int

def FrameStamp.ptsKey (stamp : FrameStamp) : PtsKey := (stamp.frameId, stamp.timestampNs)

/-- What `_pts_for` reads and writes. -/
structure PtsState where
  baseTs : Option Int
  ptsSkew : Int
  lastPts : Option Int
  ptsMemo : FifoMap PtsKey Int
  drops : DropStats
deriving DecidableEq, Repr

/-- The state of a fresh process. -/
def PtsState.init : PtsState :=
  { baseTs := none, ptsSkew := 0, lastPts := none, ptsMemo := FifoMap.empty,
    drops := DropStats.init }

/-- The two-sided guard: a step out of `(0, maxPtsJumpNs]` is moved into the
skew, so that the frame lands one frame interval after the previous one. -/
def absorbStep (frameIntervalNs : Int) (st : PtsState) (pts : Int) : PtsState × Int :=
  match st.lastPts with
  | none => (st, pts)
  | some last =>
    let delta := pts - last
    if delta ≤ 0 ∨ maxPtsJumpNs < delta then
      let target := last + frameIntervalNs
      ({ st with ptsSkew := st.ptsSkew + (target - pts), drops := st.drops.notePtsRebase }, target)
    else (st, pts)

/-- The first own call defines the base. -/
def PtsState.withBase (st : PtsState) (stamp : FrameStamp) : PtsState :=
  { st with baseTs := some (st.baseTs.getD stamp.timestampNs) }

/-- A stamp on the recording timeline, before the guard. -/
def PtsState.rawPts (st : PtsState) (stamp : FrameStamp) : Int :=
  stamp.timestampNs - st.baseTs.getD stamp.timestampNs + st.ptsSkew

/-- `_pts_for`: the PTS of a frame.  Only the branch that feeds the recording
(`own`) moves the state, and only when the memo misses. -/
def ptsFor (frameIntervalNs : Int) (st : PtsState) (stamp : FrameStamp) (own : Bool) :
    PtsState × Int :=
  match st.ptsMemo.get stamp.ptsKey with
  | some memo => (st, memo)
  | none =>
    match own with
    | false =>
      match st.baseTs with
      | none => (st, 0)
      | some base => (st, max 0 (stamp.timestampNs - base + st.ptsSkew))
    | true =>
      let r := absorbStep frameIntervalNs (st.withBase stamp) (st.rawPts stamp)
      let pts := if r.2 < 0 then 0 else r.2
      ({ r.1 with
          lastPts := some pts
          ptsMemo := (r.1.ptsMemo.set stamp.ptsKey pts).trim ptsMemoFrames }, pts)

/-- `_reconnect_loop`: the reopened source restarts its ids, so the memo goes. -/
def PtsState.clearMemo (st : PtsState) : PtsState := { st with ptsMemo := FifoMap.empty }

/-- One critical section of `_base_lock`. -/
inductive PtsCall where
  /-- the recording feed -/
  | own (stamp : FrameStamp)
  /-- the best-effort decode branch -/
  | look (stamp : FrameStamp)
  /-- the reconnect thread -/
  | clear
deriving DecidableEq, Repr

/-- Serve one call; a memo clear has no result. -/
def ptsStep (frameIntervalNs : Int) (st : PtsState) : PtsCall → PtsState × Option Int
  | .own stamp => ((ptsFor frameIntervalNs st stamp true).1,
      some (ptsFor frameIntervalNs st stamp true).2)
  | .look stamp => ((ptsFor frameIntervalNs st stamp false).1,
      some (ptsFor frameIntervalNs st stamp false).2)
  | .clear => (st.clearMemo, none)

/-- A served call, with its result. -/
abbrev PtsEvent := PtsCall × Option Int

/-- The calls and results of a run of a fresh process. -/
def ptsHistory (frameIntervalNs : Int) (calls : List PtsCall) : List PtsEvent :=
  Machine.history (ptsStep frameIntervalNs) PtsState.init calls

/-- The state after a run of a fresh process. -/
def ptsFinal (frameIntervalNs : Int) (calls : List PtsCall) : PtsState :=
  Machine.final (ptsStep frameIntervalNs) PtsState.init calls

/-! ## Reading a run -/

/-- An own call's key and result. -/
def PtsEvent.ownEntry : PtsEvent → Option (PtsKey × Int)
  | (.own stamp, some pts) => some (stamp.ptsKey, pts)
  | _ => none

/-- Keys and results of the own calls, in order. -/
def ownEntries (h : List PtsEvent) : List (PtsKey × Int) := h.filterMap PtsEvent.ownEntry

/-- Keys and results of the own calls since the last memo clear, in order. -/
def ownSinceClear (h : List PtsEvent) : List (PtsKey × Int) :=
  h.foldl (fun acc e =>
    match e with
    | (.clear, _) => []
    | e => acc ++ e.ownEntry.toList) []

/-- The keys of the own calls of a run, in order. -/
def ownKeys (calls : List PtsCall) : List PtsKey :=
  calls.filterMap fun
    | .own stamp => some stamp.ptsKey
    | _ => none

/-- The PTS the own calls of a run were given, in order. -/
def ownPts (frameIntervalNs : Int) (calls : List PtsCall) : List Int :=
  (ownEntries (ptsHistory frameIntervalNs calls)).map Prod.snd

/-- A call that is not the decode branch's. -/
def PtsCall.isNotLook : PtsCall → Bool
  | .look _ => false
  | _ => true

/-- One step of a recording timeline: forward, by no more than a real gap or
one frame interval. -/
def TimelineStep (frameIntervalNs a b : Int) : Prop :=
  a < b ∧ b - a ≤ max maxPtsJumpNs frameIntervalNs

/-- The PTS of a recording: they start at 0 and every step is a `TimelineStep`. -/
def IsTimeline (frameIntervalNs : Int) (pts : List Int) : Prop :=
  (∀ p ∈ pts.head?, p = 0) ∧ pts.IsChain (TimelineStep frameIntervalNs)

@[simp] theorem ownSinceClear_own (h : List PtsEvent) (stamp : FrameStamp) (pts : Int) :
    ownSinceClear (h ++ [(.own stamp, some pts)]) = ownSinceClear h ++ [(stamp.ptsKey, pts)] := by
  simp [ownSinceClear, PtsEvent.ownEntry]

@[simp] theorem ownSinceClear_own_none (h : List PtsEvent) (stamp : FrameStamp) :
    ownSinceClear (h ++ [(.own stamp, none)]) = ownSinceClear h := by
  simp [ownSinceClear, PtsEvent.ownEntry]

@[simp] theorem ownSinceClear_look (h : List PtsEvent) (stamp : FrameStamp) (r : Option Int) :
    ownSinceClear (h ++ [(.look stamp, r)]) = ownSinceClear h := by
  simp [ownSinceClear, PtsEvent.ownEntry]

@[simp] theorem ownSinceClear_clear (h : List PtsEvent) (r : Option Int) :
    ownSinceClear (h ++ [(.clear, r)]) = [] := by
  simp [ownSinceClear]

@[simp] theorem ownEntries_own (h : List PtsEvent) (stamp : FrameStamp) (pts : Int) :
    ownEntries (h ++ [(.own stamp, some pts)]) = ownEntries h ++ [(stamp.ptsKey, pts)] := by
  simp [ownEntries, PtsEvent.ownEntry]

@[simp] theorem ownEntries_own_none (h : List PtsEvent) (stamp : FrameStamp) :
    ownEntries (h ++ [(.own stamp, none)]) = ownEntries h := by
  simp [ownEntries, PtsEvent.ownEntry]

@[simp] theorem ownEntries_look (h : List PtsEvent) (stamp : FrameStamp) (r : Option Int) :
    ownEntries (h ++ [(.look stamp, r)]) = ownEntries h := by
  simp [ownEntries, PtsEvent.ownEntry]

@[simp] theorem ownEntries_clear (h : List PtsEvent) (r : Option Int) :
    ownEntries (h ++ [(.clear, r)]) = ownEntries h := by
  simp [ownEntries, PtsEvent.ownEntry]

/-- The own calls since a clear are the last ones of all own calls. -/
theorem ownSinceClear_suffix (h : List PtsEvent) : ownSinceClear h <:+ ownEntries h := by
  induction h using List.reverseRecOn with
  | nil => exact List.suffix_rfl
  | append_singleton h e ih =>
      obtain ⟨c, r⟩ := e
      cases c with
      | own stamp =>
          cases r with
          | none => rwa [ownSinceClear_own_none, ownEntries_own_none]
          | some pts =>
              obtain ⟨p, hp⟩ := ih
              exact ⟨p, by simp [← hp]⟩
      | look stamp => simpa using ih
      | clear => simp

/-- The own calls of a run are the own calls it was given. -/
theorem map_fst_ownEntries (frameIntervalNs : Int) (calls : List PtsCall) :
    (ownEntries (ptsHistory frameIntervalNs calls)).map Prod.fst = ownKeys calls := by
  induction calls using List.reverseRecOn with
  | nil => rfl
  | append_singleton calls c ih =>
      rw [ptsHistory, Machine.history_append, ← ptsHistory]
      cases c <;> simp [Machine.history, ptsStep, ih, ownKeys]

/-! ## What an own call does -/

/-- Before the first own call there is no base and no skew; afterwards the last
PTS is not negative. -/
structure PtsState.Wf (st : PtsState) : Prop where
  fresh : st.lastPts = none → st.baseTs = none ∧ st.ptsSkew = 0
  last_nonneg : ∀ last, st.lastPts = some last → 0 ≤ last

theorem PtsState.wf_init : PtsState.init.Wf :=
  ⟨fun _ => ⟨rfl, rfl⟩, fun _ h => by cases h⟩

/-- The skew part of an own call: the PTS is the stamp relative to the base
under the new skew, and the skew moves only together with the rebase counter. -/
structure Absorbed (frameIntervalNs : Int) (st : PtsState) (stamp : FrameStamp)
    (skew pts : Int) (drops : DropStats) : Prop where
  pts_eq : pts = stamp.timestampNs - st.baseTs.getD stamp.timestampNs + skew
  first : st.lastPts = none → pts = 0
  step : ∀ last, st.lastPts = some last → TimelineStep frameIntervalNs last pts
  skew_eq : (skew = st.ptsSkew ∧ drops = st.drops) ∨ drops = st.drops.notePtsRebase

/-- The first frame is never absorbed. -/
theorem absorbStep_first {frameIntervalNs : Int} {st : PtsState} (h : st.lastPts = none)
    (pts : Int) : absorbStep frameIntervalNs st pts = (st, pts) := by
  simp [absorbStep, h]

/-- A step in range is taken as it is. -/
theorem absorbStep_of_le {frameIntervalNs : Int} {st : PtsState} {last pts : Int}
    (h : st.lastPts = some last) (hlt : last < pts) (hle : pts - last ≤ maxPtsJumpNs) :
    absorbStep frameIntervalNs st pts = (st, pts) := by
  simp only [absorbStep, h]
  rw [if_neg (by omega)]

/-- A step out of range lands one interval after the last frame, and is counted. -/
theorem absorbStep_of_not {frameIntervalNs : Int} {st : PtsState} {last pts : Int}
    (h : st.lastPts = some last) (hout : ¬(last < pts ∧ pts - last ≤ maxPtsJumpNs)) :
    absorbStep frameIntervalNs st pts =
      ({ st with
          ptsSkew := st.ptsSkew + (last + frameIntervalNs - pts)
          drops := st.drops.notePtsRebase }, last + frameIntervalNs) := by
  simp only [absorbStep, h]
  rw [if_pos (by omega)]

/-- **Own call, memo miss**: the base is set once, the result is remembered as
the last PTS and in the memo, and `Absorbed` says what the result is. -/
theorem ptsFor_own_miss {frameIntervalNs : Int} (hi : 0 < frameIntervalNs) {st : PtsState}
    (hw : st.Wf) {stamp : FrameStamp} (hm : st.ptsMemo.get stamp.ptsKey = none) :
    ∃ skew pts drops,
      ptsFor frameIntervalNs st stamp true =
        ({ baseTs := some (st.baseTs.getD stamp.timestampNs), ptsSkew := skew, lastPts := some pts,
           ptsMemo := (st.ptsMemo.set stamp.ptsKey pts).trim ptsMemoFrames, drops := drops }, pts) ∧
      Absorbed frameIntervalNs st stamp skew pts drops := by
  cases hl : st.lastPts with
  | none =>
      obtain ⟨hb, hs⟩ := hw.fresh hl
      have hl' : (st.withBase stamp).lastPts = none := hl
      have hr : st.rawPts stamp = 0 := by simp [PtsState.rawPts, hb, hs]
      refine ⟨0, 0, st.drops, ?_, ?_⟩
      · simp only [ptsFor, hm, hr]
        rw [absorbStep_first hl']
        simp [PtsState.withBase, hs]
      · exact { pts_eq := by simp [hb]
                first := fun _ => rfl
                step := fun last h => by rw [hl] at h; cases h
                skew_eq := .inl ⟨hs.symm, rfl⟩ }
  | some last =>
      have h0 := hw.last_nonneg last hl
      have hl' : (st.withBase stamp).lastPts = some last := hl
      have hr : st.rawPts stamp =
        stamp.timestampNs - st.baseTs.getD stamp.timestampNs + st.ptsSkew := rfl
      by_cases hc : last < st.rawPts stamp ∧ st.rawPts stamp - last ≤ maxPtsJumpNs
      · refine ⟨st.ptsSkew, st.rawPts stamp, st.drops, ?_, ?_⟩
        · simp only [ptsFor, hm]
          rw [absorbStep_of_le hl' hc.1 hc.2, if_neg (by dsimp only; omega)]
          rfl
        · exact { pts_eq := hr
                  first := fun h => by rw [hl] at h; cases h
                  step := fun last' hl' => by
                    obtain rfl : last = last' := Option.some.inj (hl.symm.trans hl')
                    exact ⟨hc.1, by omega⟩
                  skew_eq := .inl ⟨rfl, rfl⟩ }
      · refine ⟨st.ptsSkew + (last + frameIntervalNs - st.rawPts stamp), last + frameIntervalNs,
          st.drops.notePtsRebase, ?_, ?_⟩
        · simp only [ptsFor, hm]
          rw [absorbStep_of_not hl' hc, if_neg (by dsimp only; omega)]
          rfl
        · exact { pts_eq := by omega
                  first := fun h => by rw [hl] at h; cases h
                  step := fun last' hl' => by
                    obtain rfl : last = last' := Option.some.inj (hl.symm.trans hl')
                    exact ⟨by omega, by omega⟩
                  skew_eq := .inr rfl }

/-- A memo hit returns the remembered PTS and changes nothing. -/
theorem ptsFor_hit {frameIntervalNs : Int} {st : PtsState} {stamp : FrameStamp} {own : Bool}
    {pts : Int} (hm : st.ptsMemo.get stamp.ptsKey = some pts) :
    ptsFor frameIntervalNs st stamp own = (st, pts) := by
  simp [ptsFor, hm]

/-- The decode branch only reads. -/
@[simp] theorem ptsFor_look_fst (frameIntervalNs : Int) (st : PtsState) (stamp : FrameStamp) :
    (ptsFor frameIntervalNs st stamp false).1 = st := by
  cases hm : st.ptsMemo.get stamp.ptsKey with
  | some memo => rw [ptsFor_hit hm]
  | none => cases hb : st.baseTs <;> simp [ptsFor, hm, hb]

/-- Every call keeps the state consistent. -/
theorem wf_step (frameIntervalNs : Int) {st : PtsState} (hw : st.Wf) (c : PtsCall) :
    (ptsStep frameIntervalNs st c).1.Wf := by
  cases c with
  | look stamp => simpa [ptsStep] using hw
  | clear => exact ⟨hw.fresh, hw.last_nonneg⟩
  | own stamp =>
      cases hm : st.ptsMemo.get stamp.ptsKey with
      | some memo => simpa [ptsStep, ptsFor_hit hm] using hw
      | none =>
          simp only [ptsStep, ptsFor, hm]
          refine ⟨fun h => (by cases h), fun last hlast => ?_⟩
          rw [← Option.some.inj hlast]
          split <;> omega

/-! ## The timeline invariant -/

/-- What a run has established, given that own keys do not recur within one
window more than the memo is deep. -/
structure TimelineInv (frameIntervalNs : Int) (st : PtsState) (h : List PtsEvent) : Prop where
  wf : st.Wf
  memo : FifoMap.DistinctWithin (ptsMemoFrames + 1) ((ownEntries h).map Prod.fst) →
    st.ptsMemo.entries = (ownSinceClear h).rtake ptsMemoFrames
  last : FifoMap.DistinctWithin (ptsMemoFrames + 1) ((ownEntries h).map Prod.fst) →
    st.lastPts = ((ownEntries h).map Prod.snd).getLast?
  timeline : FifoMap.DistinctWithin (ptsMemoFrames + 1) ((ownEntries h).map Prod.fst) →
    IsTimeline frameIntervalNs ((ownEntries h).map Prod.snd)

theorem timelineInv_init (frameIntervalNs : Int) :
    TimelineInv frameIntervalNs PtsState.init [] :=
  ⟨PtsState.wf_init, fun _ => rfl, fun _ => rfl,
    fun _ => ⟨by simp [ownEntries], by simp [ownEntries]⟩⟩

/-- A timeline goes on by one more step from its last PTS. -/
theorem IsTimeline.concat {frameIntervalNs : Int} {l : List Int} (h : IsTimeline frameIntervalNs l)
    {pts : Int} (hfirst : l.getLast? = none → pts = 0)
    (hstep : ∀ last, l.getLast? = some last → TimelineStep frameIntervalNs last pts) :
    IsTimeline frameIntervalNs (l ++ [pts]) := by
  refine ⟨?_, ?_⟩
  · cases l with
    | nil => simpa using hfirst rfl
    | cons a l => simpa using h.1
  · rw [List.isChain_append]
    refine ⟨h.2, List.isChain_singleton _, fun x hx y hy => ?_⟩
    obtain rfl : pts = y := by simpa using hy
    exact hstep x hx

/-- While own keys do not recur, an own call misses the memo. -/
theorem TimelineInv.miss {frameIntervalNs : Int} {st : PtsState} {h : List PtsEvent}
    (hI : TimelineInv frameIntervalNs st h) {key : PtsKey}
    (hd : FifoMap.DistinctWithin (ptsMemoFrames + 1) ((ownEntries h).map Prod.fst ++ [key])) :
    st.ptsMemo.get key = none := by
  rw [FifoMap.get_eq_none_iff, hI.memo hd.of_append]
  intro hk
  refine hd.notMem_rtake ?_
  obtain ⟨e, he, rfl⟩ := List.mem_map.mp hk
  have hmem := (FifoMap.rtake_suffix (ownSinceClear_suffix h) ptsMemoFrames).subset he
  rw [List.rtake, List.length_map, ← List.map_drop]
  exact List.mem_map_of_mem hmem

/-- One more call keeps the invariant. -/
theorem timelineInv_step {frameIntervalNs : Int} (hi : 0 < frameIntervalNs) (st : PtsState)
    (h : List PtsEvent) (c : PtsCall) (hI : TimelineInv frameIntervalNs st h) :
    TimelineInv frameIntervalNs (ptsStep frameIntervalNs st c).1
      (h ++ [(c, (ptsStep frameIntervalNs st c).2)]) := by
  have hw := wf_step frameIntervalNs hI.wf c
  cases c with
  | look stamp =>
      exact ⟨hw, by simpa [ptsStep] using hI.memo, by simpa [ptsStep] using hI.last,
        by simpa [ptsStep] using hI.timeline⟩
  | clear =>
      refine ⟨hw, fun _ => ?_, by simpa [ptsStep, PtsState.clearMemo] using hI.last,
        by simpa [ptsStep] using hI.timeline⟩
      simp [ptsStep, PtsState.clearMemo, FifoMap.empty]
  | own stamp =>
      simp only [ptsStep] at hw ⊢
      refine ⟨hw, ?_, ?_, ?_⟩ <;> rw [ownEntries_own] <;>
        simp only [List.map_append, List.map_cons, List.map_nil] <;> intro hd
      all_goals
        obtain ⟨skew, pts, drops, heq, ha⟩ := ptsFor_own_miss hi hI.wf (hI.miss hd)
        simp only [heq]
      · rw [ownSinceClear_own]
        exact FifoMap.trim_set_rtake (hI.memo hd.of_append) (hI.miss hd) pts
      · simp
      · refine (hI.timeline hd.of_append).concat ?_ ?_ <;> rw [← hI.last hd.of_append]
        · exact ha.first
        · exact ha.step

/-- The invariant after every run. -/
theorem timelineInv_run {frameIntervalNs : Int} (hi : 0 < frameIntervalNs) (calls : List PtsCall) :
    TimelineInv frameIntervalNs (ptsFinal frameIntervalNs calls)
      (ptsHistory frameIntervalNs calls) :=
  Machine.inv_history (timelineInv_init frameIntervalNs) (timelineInv_step hi) calls

/-! ## The recording timeline -/

/-- Dropping the decode branch's calls from a run changes no own result. -/
theorem ownPts_filter_isNotLook (frameIntervalNs : Int) (calls : List PtsCall) :
    ownPts frameIntervalNs (calls.filter PtsCall.isNotLook) = ownPts frameIntervalNs calls := by
  have hsilent : ∀ (st : PtsState) (c : PtsCall), c.isNotLook = false →
      (ptsStep frameIntervalNs st c).1 = st := by
    intro st c hc
    cases c with
    | look stamp => simp [ptsStep]
    | own stamp => cases hc
    | clear => cases hc
  have hdrop : ∀ h : List PtsEvent,
      ownEntries (h.filter fun e => e.1.isNotLook) = ownEntries h := by
    intro h
    rw [ownEntries, List.filterMap_filter]
    congr 1
    funext ⟨c, r⟩
    cases c <;> rfl
  rw [ownPts, ptsHistory, Machine.history_filter_of_silent hsilent, hdrop]
  rfl

/-- The own results of a run whose keys stay distinct are a timeline. -/
theorem isTimeline_ownPts {frameIntervalNs : Int} (hi : 0 < frameIntervalNs)
    (calls : List PtsCall) (hd : FifoMap.DistinctWithin (ptsMemoFrames + 1) (ownKeys calls)) :
    IsTimeline frameIntervalNs (ownPts frameIntervalNs calls) := by
  rw [← map_fst_ownEntries frameIntervalNs] at hd
  exact (timelineInv_run hi calls).timeline hd

/-- While a frame's own result is among the last `ptsMemoFrames` since the last
clear, the memo holds it. -/
theorem ptsMemo_get_of_recent {frameIntervalNs : Int} (hi : 0 < frameIntervalNs)
    {calls : List PtsCall} (hd : FifoMap.DistinctWithin (ptsMemoFrames + 1) (ownKeys calls))
    {key : PtsKey} {pts : Int}
    (h : (key, pts) ∈ (ownSinceClear (ptsHistory frameIntervalNs calls)).rtake ptsMemoFrames) :
    (ptsFinal frameIntervalNs calls).ptsMemo.get key = some pts := by
  have hI := timelineInv_run hi calls
  rw [← map_fst_ownEntries frameIntervalNs] at hd
  have hmemo := hI.memo hd
  refine FifoMap.get_eq_some_of_mem ?_ (by rw [hmemo]; exact h)
  obtain ⟨p, hp⟩ := ownSinceClear_suffix (ptsHistory frameIntervalNs calls)
  rw [← hp, List.map_append] at hd
  have hn := (hd.of_append_right.mono (Nat.le_succ ptsMemoFrames)).nodup_rtake
  rw [hmemo, List.rtake, List.map_drop]
  rwa [List.rtake, List.length_map] at hn

/-- What a run promises about the recording timeline: the own results are a
timeline; the decode branch changes nothing and can be deleted from the run;
and it is given the recording's PTS for every frame whose own call is among
the last `ptsMemoFrames` since the last memo clear. -/
structure RecordingTimeline (frameIntervalNs : Int) (calls : List PtsCall) : Prop where
  timeline : IsTimeline frameIntervalNs (ownPts frameIntervalNs calls)
  look_silent : ∀ st stamp, (ptsFor frameIntervalNs st stamp false).1 = st
  look_erased :
    ownPts frameIntervalNs (calls.filter PtsCall.isNotLook) = ownPts frameIntervalNs calls
  look_agrees : ∀ stamp pts, (stamp.ptsKey, pts) ∈
      (ownSinceClear (ptsHistory frameIntervalNs calls)).rtake ptsMemoFrames →
    (ptsFor frameIntervalNs (ptsFinal frameIntervalNs calls) stamp false).2 = pts

/-- **Recording timeline**: every run in which no two of any
`ptsMemoFrames + 1` consecutive own calls share a key keeps the promise. -/
theorem recordingTimeline_of_distinctWithin {frameIntervalNs : Int} (hi : 0 < frameIntervalNs)
    (calls : List PtsCall)
    (hd : FifoMap.DistinctWithin (ptsMemoFrames + 1) (ownKeys calls)) :
    RecordingTimeline frameIntervalNs calls where
  timeline := isTimeline_ownPts hi calls hd
  look_silent := ptsFor_look_fst frameIntervalNs
  look_erased := ownPts_filter_isNotLook frameIntervalNs calls
  look_agrees := fun _ _ h => by rw [ptsFor_hit (ptsMemo_get_of_recent hi hd h)]

/-- Two frames, and a decode branch that asks for the first one again. -/
theorem recordingTimeline_three :
    (0 : Int) < 1 ∧ RecordingTimeline 1
      [.own (plainStamp 5), .own (plainStamp 7), .look (plainStamp 5)] := by
  refine ⟨by decide, recordingTimeline_of_distinctWithin (by decide) _ ?_⟩
  have hk : ownKeys [.own (plainStamp 5), .own (plainStamp 7), .look (plainStamp 5)] =
    [(5, 5), (7, 7)] := rfl
  rw [hk]
  intro i j hi hj _
  obtain ⟨rfl, rfl⟩ : i = 0 ∧ j = 1 := by simp at hj; omega
  simp

/-- Without a memo clear, the own calls since the last clear are all own calls. -/
theorem ownSinceClear_eq_ownEntries (frameIntervalNs : Int) {calls : List PtsCall}
    (hc : PtsCall.clear ∉ calls) :
    ownSinceClear (ptsHistory frameIntervalNs calls) =
      ownEntries (ptsHistory frameIntervalNs calls) := by
  induction calls using List.reverseRecOn with
  | nil => rfl
  | append_singleton calls c ih =>
      rw [List.mem_append, not_or, List.mem_singleton] at hc
      rw [ptsHistory, Machine.history_append, ← ptsHistory]
      cases c with
      | clear => exact absurd rfl hc.2
      | own stamp => simp [Machine.history, ptsStep, ih hc.1]
      | look stamp => simp [Machine.history, ptsStep, ih hc.1]

/-- An own call whose key the memo still holds is given the old result. -/
theorem ownPts_concat_of_recent {frameIntervalNs : Int} (hi : 0 < frameIntervalNs)
    {calls : List PtsCall} (hd : FifoMap.DistinctWithin (ptsMemoFrames + 1) (ownKeys calls))
    {stamp : FrameStamp} {pts : Int}
    (h : (stamp.ptsKey, pts) ∈
      (ownSinceClear (ptsHistory frameIntervalNs calls)).rtake ptsMemoFrames) :
    ownPts frameIntervalNs (calls ++ [.own stamp]) = ownPts frameIntervalNs calls ++ [pts] := by
  have hhit := ptsMemo_get_of_recent hi hd h
  rw [ownPts, ptsHistory, Machine.history_append, ← ptsHistory, ← ptsFinal]
  simp [Machine.history, ptsStep, ptsFor_hit hhit, ownPts]

/-- `ptsMemoFrames` frames, one nanosecond apart. -/
def memoDeepCalls : List PtsCall :=
  (List.range ptsMemoFrames).map fun i : Nat => .own (plainStamp i)

theorem ownKeys_memoDeepCalls :
    ownKeys memoDeepCalls =
      (List.range ptsMemoFrames).map fun i : Nat => ((i : Int), (i : Int)) := by
  simp [ownKeys, memoDeepCalls, List.filterMap_map, plainStamp, FrameStamp.ptsKey]

/-- `memoDeepCalls`, then its first frame again: the memo still holds its key. -/
def recycledCalls : List PtsCall := memoDeepCalls ++ [.own (plainStamp 0)]

theorem distinctWithin_memoDeepCalls (w : Nat) :
    FifoMap.DistinctWithin w (ownKeys memoDeepCalls) := by
  rw [ownKeys_memoDeepCalls]
  intro i j hi hj _
  simp
  omega

/-- The recycled key comes back exactly `ptsMemoFrames` own calls later. -/
theorem distinctWithin_recycledCalls :
    FifoMap.DistinctWithin ptsMemoFrames (ownKeys recycledCalls) := by
  have hk : ownKeys recycledCalls = ownKeys memoDeepCalls ++ [(0, 0)] := by
    simp [ownKeys, recycledCalls, plainStamp, FrameStamp.ptsKey]
  rw [hk]
  intro i j hi hj hw
  have hlen : (ownKeys memoDeepCalls).length = ptsMemoFrames := by simp [ownKeys_memoDeepCalls]
  simp only [List.length_append, hlen, List.length_cons, List.length_nil] at hj
  by_cases hlast : j < ptsMemoFrames
  · rw [List.getElem_append_left (by omega), List.getElem_append_left (by omega)]
    exact distinctWithin_memoDeepCalls _ i j hi (by omega) hw
  · rw [List.getElem_append_left (by omega), List.getElem_append_right (by omega)]
    simp only [ownKeys_memoDeepCalls, List.getElem_map, List.getElem_range]
    simp
    omega

/-- A window of `ptsMemoFrames` is one too few: a key that recurs after exactly
`ptsMemoFrames` own calls hits the memo and sends the timeline back. -/
theorem not_recordingTimeline_recycled :
    ¬ ∀ (frameIntervalNs : Int) (calls : List PtsCall), 0 < frameIntervalNs →
      FifoMap.DistinctWithin ptsMemoFrames (ownKeys calls) →
        RecordingTimeline frameIntervalNs calls := by
  intro h
  have hd := distinctWithin_memoDeepCalls (ptsMemoFrames + 1)
  have hkeys := map_fst_ownEntries 1 memoDeepCalls
  have hstart := (isTimeline_ownPts (by decide : (0 : Int) < 1) memoDeepCalls hd).1
  -- the first entry of the run is frame 0 at PTS 0, and the memo still covers it
  obtain ⟨rest, hrest⟩ : ∃ rest, ownEntries (ptsHistory 1 memoDeepCalls) = ((0, 0), 0) :: rest := by
    have hhead : (ownKeys memoDeepCalls).head? = some (0, 0) := by
      simp [ownKeys_memoDeepCalls, List.head?_range, ptsMemoFrames]
    rw [ownPts] at hstart
    rw [← hkeys] at hhead
    cases he : ownEntries (ptsHistory 1 memoDeepCalls) with
    | nil => rw [he] at hhead; cases hhead
    | cons e rest =>
        rw [he] at hstart hhead
        obtain ⟨k, p⟩ := e
        obtain rfl : p = 0 := by simpa using hstart
        obtain rfl : k = (0, 0) := by simpa using hhead
        exact ⟨rest, rfl⟩
  have hrecent : ((plainStamp 0).ptsKey, (0 : Int)) ∈
      (ownSinceClear (ptsHistory 1 memoDeepCalls)).rtake ptsMemoFrames := by
    have hlen : (ownEntries (ptsHistory 1 memoDeepCalls)).length = ptsMemoFrames := by
      simpa [ownKeys_memoDeepCalls] using congrArg List.length hkeys
    have hclear : PtsCall.clear ∉ memoDeepCalls := by
      rw [memoDeepCalls, List.mem_map]
      rintro ⟨i, _, hi⟩
      cases hi
    rw [ownSinceClear_eq_ownEntries 1 hclear, List.rtake, hlen, Nat.sub_self,
      List.drop_zero, hrest]
    exact List.mem_cons_self
  have hpts : ownPts 1 recycledCalls = 0 :: (rest.map Prod.snd ++ [0]) := by
    rw [recycledCalls, ownPts_concat_of_recent (by decide) hd hrecent, ownPts, hrest]
    rfl
  have hchain := (h 1 recycledCalls (by decide) distinctWithin_recycledCalls).timeline.2
  rw [hpts] at hchain
  have hlt := List.isChain_iff_pairwise.mp (hchain.imp fun _ _ hs => hs.1)
  have := (List.pairwise_cons.mp hlt).1 0 (by simp)
  omega

end CamDriver
