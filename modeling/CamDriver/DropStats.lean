/-!
# CamDriver.DropStats

Per-process frame-loss counters.  They never reset: a recording session
attests its own share as the difference (`delta`) between the snapshot taken
when it opened and the one taken when it closes.
-/

namespace CamDriver

/-- The counters a snapshot (`summary`) carries. -/
structure DropSummary where
  frames : Int
  sourceGaps : Int
  framesMissing : Int
  enqueueFailures : Int
  publishDrops : Int
  ptsRebases : Int
deriving DecidableEq, Repr

/-- The live counters: a summary plus the last frame id seen. -/
structure DropStats extends DropSummary where
  lastFid : Option Int
deriving DecidableEq, Repr

namespace DropStats

/-- Counters of a fresh process. -/
def init : DropStats :=
  { frames := 0, sourceGaps := 0, framesMissing := 0, enqueueFailures := 0, publishDrops := 0,
    ptsRebases := 0, lastFid := none }

/-- The frames missing right before `frameId`: none after a backward or equal id. -/
def gapBefore (d : DropStats) (frameId : Int) : Int :=
  match d.lastFid with
  | none => 0
  | some last => if last + 1 < frameId then frameId - last - 1 else 0

/-- Count a received frame, and the gap in front of it if there is one. -/
def observeFrame (d : DropStats) (frameId : Int) : DropStats :=
  let gap := d.gapBefore frameId
  let d := { d with frames := d.frames + 1, lastFid := some frameId }
  if 0 < gap then { d with sourceGaps := d.sourceGaps + 1, framesMissing := d.framesMissing + gap }
  else d

/-- The next frame id is a known discontinuity. -/
def resync (d : DropStats) : DropStats := { d with lastFid := none }

def noteEnqueueFailure (d : DropStats) : DropStats :=
  { d with enqueueFailures := d.enqueueFailures + 1 }

def notePublishDrop (d : DropStats) : DropStats := { d with publishDrops := d.publishDrops + 1 }

def notePtsRebase (d : DropStats) : DropStats := { d with ptsRebases := d.ptsRebases + 1 }

def summary (d : DropStats) : DropSummary := d.toDropSummary

/-- What accumulated between two snapshots. -/
def delta (now start : DropSummary) : DropSummary :=
  { frames := now.frames - start.frames
    sourceGaps := now.sourceGaps - start.sourceGaps
    framesMissing := now.framesMissing - start.framesMissing
    enqueueFailures := now.enqueueFailures - start.enqueueFailures
    publishDrops := now.publishDrops - start.publishDrops
    ptsRebases := now.ptsRebases - start.ptsRebases }

/-! ## Every counter has one method that moves it -/

@[simp] theorem ptsRebases_observeFrame (d : DropStats) (fid : Int) :
    (d.observeFrame fid).ptsRebases = d.ptsRebases := by
  simp only [observeFrame]; split <;> rfl

@[simp] theorem ptsRebases_resync (d : DropStats) : d.resync.ptsRebases = d.ptsRebases := rfl

@[simp] theorem ptsRebases_noteEnqueueFailure (d : DropStats) :
    d.noteEnqueueFailure.ptsRebases = d.ptsRebases := rfl

@[simp] theorem ptsRebases_notePublishDrop (d : DropStats) :
    d.notePublishDrop.ptsRebases = d.ptsRebases := rfl

@[simp] theorem ptsRebases_notePtsRebase (d : DropStats) :
    d.notePtsRebase.ptsRebases = d.ptsRebases + 1 := rfl

@[simp] theorem ptsRebases_summary (d : DropStats) : d.summary.ptsRebases = d.ptsRebases := rfl

@[simp] theorem ptsRebases_delta (now start : DropSummary) :
    (delta now start).ptsRebases = now.ptsRebases - start.ptsRebases := rfl

@[simp] theorem enqueueFailures_observeFrame (d : DropStats) (fid : Int) :
    (d.observeFrame fid).enqueueFailures = d.enqueueFailures := by
  simp only [observeFrame]; split <;> rfl

/-! ## A received frame -/

theorem gapBefore_nonneg (d : DropStats) (fid : Int) : 0 ≤ d.gapBefore fid := by
  rw [gapBefore]
  split
  · exact Int.le_refl 0
  · split <;> omega

@[simp] theorem lastFid_resync (d : DropStats) : d.resync.lastFid = none := rfl

@[simp] theorem framesMissing_resync (d : DropStats) :
    d.resync.framesMissing = d.framesMissing := rfl

@[simp] theorem sourceGaps_resync (d : DropStats) : d.resync.sourceGaps = d.sourceGaps := rfl

@[simp] theorem lastFid_observeFrame (d : DropStats) (fid : Int) :
    (d.observeFrame fid).lastFid = some fid := by
  simp only [observeFrame]; split <;> rfl

@[simp] theorem framesMissing_observeFrame (d : DropStats) (fid : Int) :
    (d.observeFrame fid).framesMissing = d.framesMissing + d.gapBefore fid := by
  have := d.gapBefore_nonneg fid
  simp only [observeFrame]
  split
  · rfl
  · dsimp only
    omega

@[simp] theorem sourceGaps_observeFrame (d : DropStats) (fid : Int) :
    (d.observeFrame fid).sourceGaps = d.sourceGaps + if 0 < d.gapBefore fid then 1 else 0 := by
  simp only [observeFrame]
  split
  · rfl
  · exact (Int.add_zero _).symm

end DropStats

end CamDriver
