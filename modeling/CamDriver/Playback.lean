import Mathlib.Data.List.Sort
import CamDriver.Timestamps

/-!
# CamDriver.Playback

What both playback sources share: shifting stamps, the median frame interval,
and `PlaybackState`, the policy behind pause, resume and restart.

The feeder's side is `waitIfPaused`: what a held thread does when it looks at
the state again (`none`: it stays held).
-/

namespace CamDriver

/-! ## Stamps and intervals -/

/-- `shift_stamp`: every time field by one constant. -/
def shiftStamp (stamp : FrameStamp) (offsetNs : Int) : FrameStamp :=
  if offsetNs = 0 then stamp
  else { stamp with
    timestampNs := stamp.timestampNs + offsetNs
    systemNs := stamp.systemNs + offsetNs
    cameraNs := stamp.cameraNs + offsetNs
    chunkNs := stamp.chunkNs.map (· + offsetNs) }

@[simp] theorem timestampNs_shiftStamp (stamp : FrameStamp) (offsetNs : Int) :
    (shiftStamp stamp offsetNs).timestampNs = stamp.timestampNs + offsetNs := by
  unfold shiftStamp
  split
  · omega
  · rfl

/-- `DEFAULT_INTERVAL_NS`: about 30 frames a second. -/
def defaultIntervalNs : Int := 33333333

/-- The forward steps between neighbours. -/
def forwardSteps : List Int → List Int
  | a :: b :: ts => if a < b then (b - a) :: forwardSteps (b :: ts) else forwardSteps (b :: ts)
  | _ => []

/-- `statistics.median`, truncated to an integer. -/
def medianOf (steps : List Int) : Int :=
  let sorted := steps.insertionSort (· ≤ ·)
  let mid := sorted.length / 2
  if sorted.length % 2 = 1 then sorted.getD mid 0
  else (sorted.getD (mid - 1) 0 + sorted.getD mid 0) / 2

/-- `median_interval_ns`. -/
def medianIntervalNs (timestampsNs : List Int) : Int :=
  match forwardSteps timestampsNs with
  | [] => defaultIntervalNs
  | steps => medianOf steps

/-- A forward step is positive. -/
theorem pos_of_mem_forwardSteps {ts : List Int} {d : Int} (h : d ∈ forwardSteps ts) : 0 < d := by
  fun_induction forwardSteps ts with
  | case1 a b ts hlt ih =>
      rcases List.mem_cons.mp h with rfl | h
      · omega
      · exact ih h
  | case2 a b ts hlt ih => exact ih h
  | case3 => cases h

/-- The median of positive steps is positive. -/
theorem medianOf_pos {steps : List Int} (hne : steps ≠ []) (hpos : ∀ d ∈ steps, 0 < d) :
    0 < medianOf steps := by
  have hget : ∀ i, i < (steps.insertionSort (· ≤ ·)).length →
      0 < (steps.insertionSort (· ≤ ·)).getD i 0 := by
    intro i hi
    rw [List.getD_eq_getElem?_getD, List.getElem?_eq_getElem hi, Option.getD_some]
    exact hpos _ ((List.mem_insertionSort _).mp (List.getElem_mem hi))
  have hlen : 0 < (steps.insertionSort (· ≤ ·)).length := by
    rw [List.length_insertionSort]
    exact List.length_pos_iff.mpr hne
  simp only [medianOf]
  split
  · exact hget _ (by omega)
  · have h1 := hget ((steps.insertionSort (· ≤ ·)).length / 2 - 1) (by omega)
    have h2 := hget ((steps.insertionSort (· ≤ ·)).length / 2) (by omega)
    omega

/-- The nominal interval is positive, also of a recording without one. -/
theorem medianIntervalNs_pos (timestampsNs : List Int) : 0 < medianIntervalNs timestampsNs := by
  unfold medianIntervalNs
  split
  · decide
  · next steps hne =>
      exact medianOf_pos (fun h => hne h) fun d hd => pos_of_mem_forwardSteps hd

/-! ## The playback state -/

inductive PlayState where
  | playing | paused | finished
deriving DecidableEq, Repr

/-- What `wait_if_paused` returns. -/
inductive Verdict where
  | stop | resume | restart
deriving DecidableEq, Repr

/-- `PlaybackState`, as far as it decides about holds and restarts. -/
structure PlaybackState where
  state : PlayState
  loop : Bool
  restartPending : Bool
  prerollPending : Bool
  gateArmed : Bool
  /-- the timer has found it paused, and its resume is still to come -/
  gateFiring : Bool
deriving DecidableEq, Repr

namespace PlaybackState

/-- A source's playback at boot: a paused one shows its first frame. -/
def boot (paused loop gateArmed : Bool) : PlaybackState :=
  { state := if paused then .paused else .playing, loop := loop, restartPending := false,
    prerollPending := paused, gateArmed := gateArmed, gateFiring := false }

/-- `take_restart`. -/
def takeRestart (pb : PlaybackState) : PlaybackState := { pb with restartPending := false }

/-- `take_preroll`. -/
def takePreroll (pb : PlaybackState) : PlaybackState := { pb with prerollPending := false }

/-- One look of `wait_if_paused`. -/
def waitIfPaused (pb : PlaybackState) (cancel : Bool) : Option (Verdict × PlaybackState) :=
  if pb.state = .paused ∧ ¬ cancel ∧ ¬ pb.restartPending then none
  else if cancel then some (.stop, pb)
  else if pb.restartPending then some (.restart, { pb with restartPending := false })
  else some (.resume, pb)

/-- `mark_finished`. -/
def markFinished (pb : PlaybackState) : PlaybackState := { pb with state := .finished }

/-- `request("pause")`; a finished playback refuses. -/
def pause (pb : PlaybackState) : PlaybackState :=
  { pb with
    gateArmed := false
    state := if pb.state = .finished then .finished else .paused }

/-- `request("resume")`. -/
def resume (pb : PlaybackState) : PlaybackState :=
  { pb with
    gateArmed := false
    state := if pb.state = .finished then .finished else .playing }

/-- `request("set_loop")`. -/
def setLoop (pb : PlaybackState) (loop : Bool) : PlaybackState :=
  { pb with gateArmed := false, loop := if pb.state = .finished then pb.loop else loop }

/-- The flag of `request("restart")`, before the source's hook runs; a finished
playback plays again. -/
def requestRestart (pb : PlaybackState) : PlaybackState :=
  { pb with
    gateArmed := false
    restartPending := true
    state := if pb.state = .finished then .playing else pb.state }

/-- `_fire_gate`, up to the request. -/
def fireGate (pb : PlaybackState) : PlaybackState :=
  { pb with gateArmed := false, gateFiring := pb.state = .paused }

/-- `request("resume")` from the timer of the start gate. -/
def gateResume (pb : PlaybackState) : PlaybackState := { pb.resume with gateFiring := false }

end PlaybackState

/-- The gate holds a reader just if the playback is paused and nothing has woken it. -/
theorem waitIfPaused_eq_none {pb : PlaybackState} {cancel : Bool} :
    pb.waitIfPaused cancel = none ↔
      pb.state = .paused ∧ cancel = false ∧ pb.restartPending = false := by
  unfold PlaybackState.waitIfPaused
  split
  · next h => simpa using h
  · next h =>
      constructor
      · intro hn
        split at hn
        · cases hn
        · split at hn <;> cases hn
      · rintro ⟨hp, hc, hf⟩
        simp [hp, hc, hf] at h

/-- A look at the state changes nothing but the flag, which it may drop. -/
theorem waitIfPaused_eq_some {pb pb' : PlaybackState} {cancel : Bool} {v : Verdict}
    (h : pb.waitIfPaused cancel = some (v, pb')) :
    pb' = pb ∨ pb' = pb.takeRestart := by
  unfold PlaybackState.waitIfPaused at h
  split at h
  · cases h
  · split at h
    · cases h
      exact .inl rfl
    · split at h
      · cases h
        exact .inr rfl
      · cases h
        exact .inl rfl

/-- Without a pending restart a look at the hold says stop, or goes on. -/
theorem waitIfPaused_of_not_pending {pb pb' : PlaybackState} {cancel : Bool} {v : Verdict}
    (hpending : pb.restartPending = false) (h : pb.waitIfPaused cancel = some (v, pb')) :
    pb' = pb ∧ (v = .stop ∨ v = .resume ∧ pb.state ≠ .paused) := by
  unfold PlaybackState.waitIfPaused at h
  grind

end CamDriver
