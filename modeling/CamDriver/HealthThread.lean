import CamDriver.Lib.Machine
import Mathlib.Data.List.Range

/-!
# CamDriver.HealthThread

The thread of `HealthMonitor`, statement by statement, with the calls around it: `start`,
`stop` with and without a join, the signal handler's among them, and the recording windows.

A snapshot is known by its `health.sequence`, the number of the poll that made it.  What is
in it is the subject of other modules.  `late` are the polls that find the stop event set
when a provider read is over: behind the last one, or at the look between two.
-/

namespace CamDriver

/-! ## The state -/

/-- Where the health thread is. -/
inductive HealthPc where
  /-- at the head of `_run`'s loop -/
  | looping
  /-- `poll_once`, before provider `k` -/
  | polling (k : Nat)
  /-- in the `poll` of provider `k` -/
  | reading (k : Nat)
  /-- the reads are over: the snapshot is built -/
  | merging
  | locking
  | logging
  /-- `_write_file` -/
  | writing
  | replacing
  | rechecking
  | removing
  /-- before observer `k` -/
  | observing (k : Nat)
  | notifying (k : Nat)
  | waiting
  /-- `_cleanup` -/
  | cleaning
  | closing (k : Nat)
  | unlinking
deriving DecidableEq, Repr

/-- The parts of a poll, and what is after polling. -/
inductive HealthPart where
  /-- between polls -/
  | outside
  /-- the provider reads are not over -/
  | reading
  /-- they are, and the snapshot is not out -/
  | unpublished
  | published
  /-- `_cleaned` is set -/
  | closing
deriving DecidableEq, Repr

namespace HealthPc

def part : HealthPc → HealthPart
  | looping | waiting | cleaning => .outside
  | polling _ | reading _ => .reading
  | merging | locking => .unpublished
  | logging | writing | replacing | rechecking | removing | observing _ | notifying _ => .published
  | closing _ | unlinking => .closing

/-- Polling has not ended. -/
def isPolling (pc : HealthPc) : Bool := pc ≠ cleaning ∧ pc.part ≠ .closing

end HealthPc

/-- A health thread with the sequence number of its poll. -/
structure HealthWorker where
  id : Nat
  pc : HealthPc
  seq : Nat
deriving DecidableEq, Repr

/-- Where the main thread is, in `start` or in `stop(wait=True)`. -/
inductive MonitorPc where
  | starting
  /-- no thread is alive -/
  | uncleaned
  | clearing
  | spawning
  | stopping
  | joining
  | joined
  /-- `_cleanup` of `stop` -/
  | cleaning
  | closing (k : Nat)
  | unlinking
  /-- the last statement of `stop` -/
  | removing
deriving DecidableEq, Repr

/-- It has found no thread alive. -/
def MonitorPc.isAlone : MonitorPc → Bool
  | uncleaned | clearing | spawning | cleaning | closing _ | unlinking => true
  | _ => false

/-- `_cleaned` is false, for the thread that is to come. -/
def MonitorPc.isUncleaned : MonitorPc → Bool
  | clearing | spawning => true
  | _ => false

theorem MonitorPc.isAlone_of_isUncleaned {pc : MonitorPc} (h : pc.isUncleaned = true) :
    pc.isAlone = true := by
  cases pc <;> first | rfl | cases h

structure HealthSetup where
  providers : Nat
  observers : Nat
  /-- `file_path` is not empty -/
  filePath : Bool
deriving DecidableEq, Repr

structure HealthRun where
  /-- `_stop` is set -/
  stop : Bool
  /-- `_thread` -/
  thread : Option Nat
  spawned : Nat
  workers : List HealthWorker
  cleaned : Bool
  sequence : Nat
  latest : Option Nat
  windows : List (List Nat)
  closedWindows : List (List Nat)
  /-- what the observers were called with -/
  observed : List Nat
  file : Option Nat
  main : Option MonitorPc
  /-- the providers closed since the last start -/
  closed : List Nat
  late : List Nat
deriving DecidableEq, Repr

namespace HealthRun

/-- A monitor that has not been started; a file of an earlier process may be there. -/
def init (file : Option Nat) : HealthRun :=
  { stop := false, thread := none, spawned := 0, workers := [], cleaned := false, sequence := 0
    latest := none, windows := [], closedWindows := [], observed := [], file, main := none
    closed := [], late := [] }

/-! ## One statement -/

inductive Answer where
  | ok | osError | raises
deriving DecidableEq, Repr

inductive Event where
  | start
  /-- `stop(wait=False)`, from a signal handler: between any two statements -/
  | stopNow
  /-- `stop(wait=True)` -/
  | stopWait
  /-- the next statement of the main thread -/
  | main
  | openWindow
  | closeWindow (i : Nat)
  /-- the next statement of a health thread -/
  | worker (i : Nat) (answer : Answer)
deriving DecidableEq, Repr

/-- `_thread` is there, and alive. -/
def alive (s : HealthRun) : Bool :=
  s.thread.any fun id => s.workers.any fun worker => worker.id = id

/-- `_remove_file`. -/
def removeFile (setup : HealthSetup) (s : HealthRun) : HealthRun :=
  if setup.filePath then { s with file := none } else s

def goesOn (s : HealthRun) (i : Nat) (worker : HealthWorker) (pc : HealthPc) : HealthRun :=
  { s with workers := s.workers.set i { worker with pc } }

def ends (s : HealthRun) (i : Nat) : HealthRun :=
  { s with workers := s.workers.eraseIdx i }

/-- Under `_lock`, with the stop event not set: the snapshot is the latest, and goes into
every open window. -/
def publish (s : HealthRun) (seq : Nat) : HealthRun :=
  { s with latest := some seq, windows := s.windows.map (· ++ [seq]) }

def workerStep (setup : HealthSetup) (s : HealthRun) (i : Nat) (worker : HealthWorker)
    (answer : Answer) : HealthRun :=
  match worker.pc with
  | .looping =>
    if s.stop then s.goesOn i worker .cleaning
    else
      { s with sequence := s.sequence + 1 }.goesOn i { worker with seq := s.sequence + 1 }
        (.polling 0)
  | .polling k =>
    if k < setup.providers then
      -- the poll is given up
      if s.stop then { s with late := s.late ++ [worker.seq] }.goesOn i worker .waiting
      else s.goesOn i worker (.reading k)
    else
      { s with late := if s.stop then s.late ++ [worker.seq] else s.late }.goesOn i worker
        .merging
  -- a provider that raises keeps its last reports
  | .reading k => s.goesOn i worker (.polling (k + 1))
  | .merging => s.goesOn i worker (if answer = .ok then .locking else .waiting)
  | .locking =>
    if s.stop then s.goesOn i worker .waiting
    else (s.publish worker.seq).goesOn i worker .logging
  | .logging => s.goesOn i worker .writing
  | .writing =>
    s.goesOn i worker (if ¬ setup.filePath ∨ s.stop then .observing 0 else .replacing)
  | .replacing =>
    match answer with
    | .ok => { s with file := some worker.seq }.goesOn i worker .rechecking
    | .osError => s.goesOn i worker (.observing 0)
    | .raises => s.goesOn i worker .waiting
  | .rechecking => s.goesOn i worker (if s.stop then .removing else .observing 0)
  | .removing => (s.removeFile setup).goesOn i worker (.observing 0)
  | .observing k =>
    s.goesOn i worker (if k < setup.observers ∧ ¬ s.stop then .notifying k else .waiting)
  | .notifying k =>
    { s with observed := s.observed ++ [worker.seq] }.goesOn i worker (.observing (k + 1))
  | .waiting => s.goesOn i worker .looping
  | .cleaning =>
    if s.cleaned then s.ends i else { s with cleaned := true }.goesOn i worker (.closing 0)
  | .closing k =>
    if k < setup.providers then
      { s with closed := s.closed ++ [k] }.goesOn i worker (.closing (k + 1))
    else s.goesOn i worker .unlinking
  | .unlinking => (s.removeFile setup).ends i

def mainStep (setup : HealthSetup) (s : HealthRun) : MonitorPc → HealthRun
  | .starting => { s with main := if s.alive then none else some .uncleaned }
  | .uncleaned => { s with cleaned := false, closed := [], main := some .clearing }
  | .clearing => { s with stop := false, main := some .spawning }
  | .spawning =>
    { s with
      thread := some s.spawned, spawned := s.spawned + 1, main := none
      workers := s.workers ++ [{ id := s.spawned, pc := .looping, seq := 0 }] }
  | .stopping => { s with stop := true, main := some .joining }
  -- the thread has ended, or the time is up
  | .joining => { s with main := some .joined }
  | .joined =>
    if s.alive then { s with main := some .removing }
    else { s with thread := none, main := some .cleaning }
  | .cleaning =>
    if s.cleaned then { s with main := some .removing }
    else { s with cleaned := true, main := some (.closing 0) }
  | .closing k =>
    if k < setup.providers then
      { s with closed := s.closed ++ [k], main := some (.closing (k + 1)) }
    else { s with main := some .unlinking }
  | .unlinking => { s.removeFile setup with main := some .removing }
  | .removing => { s.removeFile setup with main := none }

def next (setup : HealthSetup) (s : HealthRun) : Event → Option HealthRun
  | .start => if s.main = none then some { s with main := some .starting } else none
  | .stopNow => some { s with stop := true }
  | .stopWait => if s.main = none then some { s with main := some .stopping } else none
  | .main => s.main.map (s.mainStep setup)
  | .openWindow => some { s with windows := s.windows ++ [s.latest.toList] }
  | .closeWindow i =>
    (s.windows[i]?).map fun window =>
      { s with windows := s.windows.eraseIdx i, closedWindows := s.closedWindows ++ [window] }
  | .worker i answer => (s.workers[i]?).map fun worker => s.workerStep setup i worker answer

/-! ## What a stopped monitor leaves behind -/

/-- The snapshots that have come to `latest`, into a window or to an observer. -/
def reached (s : HealthRun) : List Nat :=
  s.latest.toList ++ s.windows.flatten ++ s.closedWindows.flatten ++ s.observed

/-- A provider is being closed, by the thread or by `stop`. -/
def closes (s : HealthRun) : Bool :=
  (s.main.any fun pc => match pc with
    | .closing _ => true
    | _ => false) ||
  s.workers.any fun worker => match worker.pc with
    | .closing _ => true
    | _ => false

structure LeavesNothing (setup : HealthSetup) (s : HealthRun) : Prop where
  /-- no file, from the end of a thread to the start of the next -/
  file : setup.filePath = true → 0 < s.spawned → s.workers = [] → s.file = none
  /-- a poll that finds the stop event set behind a read reaches nothing -/
  late : ∀ seq ∈ s.late, seq ∉ s.reached
  /-- providers are closed after polling -/
  closing : s.closes = true → ∀ worker ∈ s.workers, worker.pc.isPolling = false
  /-- and once a start -/
  once : s.closed.Nodup

/-! ## The invariant -/

/-- What holds of a health thread. -/
structure WorkerInv (s : HealthRun) (worker : HealthWorker) : Prop where
  thread : s.thread = some worker.id
  seq : worker.seq ≤ s.sequence
  reading : worker.pc.part = .reading → worker.seq ∉ s.late ∧ worker.seq ∉ s.reached
  unpublished : worker.pc.part = .unpublished →
    worker.seq ∉ s.reached ∧ (worker.seq ∈ s.late → s.stop = true)
  published : worker.pc.part = .published → worker.seq ∉ s.late
  cleaned : worker.pc.part ≠ .closing → s.cleaned = false
  closing : ∀ k, worker.pc = .closing k → s.cleaned = true ∧ s.closed = List.range k

/-- What holds of the snapshots and the closed providers. -/
structure Records (s : HealthRun) : Prop where
  bound : ∀ seq, seq ∈ s.reached ∨ seq ∈ s.late → seq ≤ s.sequence
  late : ∀ seq ∈ s.late, seq ∉ s.reached
  uncleaned : s.cleaned = false → s.closed = []
  closed : ∃ k, s.closed = List.range k

/-- What holds of the main thread. -/
structure MainInv (s : HealthRun) : Prop where
  /-- no thread is alive where it has found none -/
  alone : ∀ pc, s.main = some pc → pc.isAlone = true → s.workers = []
  uncleaned : ∀ pc, s.main = some pc → pc.isUncleaned = true → s.cleaned = false
  closing : ∀ k, s.main = some (.closing k) → s.cleaned = true ∧ s.closed = List.range k

structure Inv (setup : HealthSetup) (s : HealthRun) : Prop where
  one : s.workers.length ≤ 1
  worker : ∀ worker ∈ s.workers, s.WorkerInv worker
  records : s.Records
  main : s.MainInv
  file : setup.filePath = true → 0 < s.spawned → s.workers = [] → s.file = none

theorem inv_init (setup : HealthSetup) (file : Option Nat) : (init file).Inv setup where
  one := Nat.zero_le 1
  worker := by simp [init]
  records := {
    bound := by simp [init, reached]
    late := by simp [init]
    uncleaned := fun _ => rfl
    closed := ⟨0, rfl⟩ }
  main := { alone := by simp [init], uncleaned := by simp [init], closing := by simp [init] }
  file := by simp [init]

/-- A worker that exists is the only one. -/
theorem Inv.only {setup : HealthSetup} {s : HealthRun} (h : s.Inv setup) {i : Nat}
    {worker : HealthWorker} (hworker : s.workers[i]? = some worker) :
    i = 0 ∧ s.workers = [worker] := by
  have hone := h.one
  cases hw : s.workers with
  | nil => simp [hw] at hworker
  | cons w rest =>
      have hrest : rest = [] := by simpa [hw] using hone
      subst hrest
      rw [hw] at hworker
      cases i with
      | zero => exact ⟨rfl, by rw [Option.some.inj hworker]⟩
      | succ i => simp at hworker

/-! ### One statement of the thread -/

section Worker

variable {setup : HealthSetup} {s s₁ : HealthRun} {worker w : HealthWorker} {pc : HealthPc}

/-- The thread goes on, where the main thread is left alone. -/
theorem Inv.goesOn (h : s.Inv setup) (hworkers : s.workers = [worker])
    (hworkers₁ : s₁.workers = s.workers) (hmain : s₁.main = s.main) (hrecords : s₁.Records)
    (hworker : s₁.WorkerInv { w with pc }) : (s₁.goesOn 0 w pc).Inv setup where
  one := by simp [HealthRun.goesOn, hworkers₁, hworkers]
  worker w' hw' := by
    rw [HealthRun.goesOn, hworkers₁, hworkers] at hw'
    have hw' : w' = { w with pc } := by simpa using hw'
    subst hw'
    exact { hworker with }
  records := { hrecords with }
  main := {
    alone := fun pc' hpc' halone => by
      have hnone := h.main.alone pc' (hmain ▸ hpc') halone
      rw [hworkers] at hnone
      cases hnone
    uncleaned := fun pc' hpc' huncleaned => by
      have hnone := h.main.alone pc' (hmain ▸ hpc') (MonitorPc.isAlone_of_isUncleaned huncleaned)
      rw [hworkers] at hnone
      cases hnone
    closing := fun k hpc' => by
      have hnone := h.main.alone (.closing k) (hmain ▸ hpc') rfl
      rw [hworkers] at hnone
      cases hnone }
  file _ _ hnone := by simp [HealthRun.goesOn, hworkers₁, hworkers] at hnone

/-- The thread ends; the file is gone. -/
theorem Inv.ends (h : s.Inv setup) (hworkers : s.workers = [worker])
    (hworkers₁ : s₁.workers = s.workers) (hmain : s₁.main = s.main) (hrecords : s₁.Records)
    (hfile : setup.filePath = true → s₁.file = none) : (s₁.ends 0).Inv setup where
  one := by simp [HealthRun.ends, hworkers₁, hworkers]
  worker w' hw' := by simp [HealthRun.ends, hworkers₁, hworkers] at hw'
  records := { hrecords with }
  main := {
    alone := fun _ _ _ => by simp [HealthRun.ends, hworkers₁, hworkers]
    uncleaned := fun pc' hpc' huncleaned => by
      have hnone := h.main.alone pc' (hmain ▸ hpc') (MonitorPc.isAlone_of_isUncleaned huncleaned)
      rw [hworkers] at hnone
      cases hnone
    closing := fun k hpc' => by
      have hnone := h.main.alone (.closing k) (hmain ▸ hpc') rfl
      rw [hworkers] at hnone
      cases hnone }
  file hpath _ _ := hfile hpath

/-- A statement to another place of the same part of the poll, or out of the poll. -/
theorem WorkerInv.to (h : s.WorkerInv worker)
    (hpart : pc.part = .outside ∨ pc.part = worker.pc.part)
    (hclosing : worker.pc.part ≠ .closing) : s.WorkerInv { worker with pc } := by
  have hsame : ∀ part, part ≠ .outside → pc.part = part → worker.pc.part = part :=
    fun part hne hpc => by
      rcases hpart with hout | hsame
      · exact absurd (hpc.symm.trans hout) hne
      · exact hsame.symm.trans hpc
  exact {
    thread := h.thread
    seq := h.seq
    reading := fun hr => h.reading (hsame _ (by decide) hr)
    unpublished := fun hu => h.unpublished (hsame _ (by decide) hu)
    published := fun hp => h.published (hsame _ (by decide) hp)
    cleaned := fun _ => h.cleaned hclosing
    closing := fun k hk => by
      have hk : pc = .closing k := hk
      exact absurd (hsame .closing (by decide) (by rw [hk]; rfl)) hclosing }

/-- The thread goes on within its part of the poll, or out of the poll. -/
theorem Inv.quiet (h : s.Inv setup) (hworkers : s.workers = [worker])
    (hpart : pc.part = .outside ∨ pc.part = worker.pc.part)
    (hclosing : worker.pc.part ≠ .closing) : (s.goesOn 0 worker pc).Inv setup :=
  have hown := h.worker worker (by simp [hworkers])
  h.goesOn hworkers rfl rfl h.records (hown.to hpart hclosing)

/-- A new poll. -/
theorem Inv.begin (h : s.Inv setup) (hworkers : s.workers = [worker])
    (hpc : worker.pc = .looping) :
    ({ s with sequence := s.sequence + 1 }.goesOn 0 { worker with seq := s.sequence + 1 }
      (.polling 0)).Inv setup := by
  have hown := h.worker worker (by simp [hworkers])
  have hnew : ∀ seq, seq ∈ s.reached ∨ seq ∈ s.late → seq ≠ s.sequence + 1 := fun seq hseq => by
    have := h.records.bound seq hseq
    omega
  refine h.goesOn hworkers rfl rfl ?_ ?_
  · exact {
      h.records with
      bound := fun seq hseq => (h.records.bound seq hseq).trans (Nat.le_succ _) }
  · exact {
      thread := hown.thread
      seq := Nat.le_refl _
      reading := fun _ => ⟨fun hlate => hnew _ (.inr hlate) rfl, fun hr => hnew _ (.inl hr) rfl⟩
      unpublished := fun hu => by cases hu
      published := fun hp => by cases hp
      cleaned := fun _ => hown.cleaned (by rw [hpc]; decide)
      closing := fun k hk => by cases hk }

/-- A poll that has reached nothing is late from now on. -/
theorem Records.addLate (h : s.Records) {seq : Nat} (hseq : seq ≤ s.sequence)
    (hreached : seq ∉ s.reached) : Records { s with late := s.late ++ [seq] } where
  bound seq' hseq' := by
    rw [List.mem_append, List.mem_singleton] at hseq'
    rcases hseq' with hr | hl | rfl
    · exact h.bound seq' (.inl hr)
    · exact h.bound seq' (.inr hl)
    · exact hseq
  late seq' hseq' := by
    rcases List.mem_append.mp hseq' with hl | hl
    · exact h.late seq' hl
    · rw [List.mem_singleton.mp hl]
      exact hreached
  uncleaned := h.uncleaned
  closed := h.closed

/-- The stop event is set between two reads: the poll is given up. -/
theorem Inv.giveUp (h : s.Inv setup) (hworkers : s.workers = [worker])
    (hpc : worker.pc.part = .reading) :
    ({ s with late := s.late ++ [worker.seq] }.goesOn 0 worker .waiting).Inv setup := by
  have hown := h.worker worker (by simp [hworkers])
  obtain ⟨-, hreached⟩ := hown.reading hpc
  refine h.goesOn hworkers rfl rfl (h.records.addLate hown.seq hreached) ?_
  exact {
    thread := hown.thread
    seq := hown.seq
    reading := fun hr => by cases hr
    unpublished := fun hu => by cases hu
    published := fun hp => by cases hp
    cleaned := fun _ => hown.cleaned (by rw [hpc]; decide)
    closing := fun k hk => by cases hk }

/-- The reads come to an end, late if the stop event is set. -/
theorem Inv.readsOver (h : s.Inv setup) (hworkers : s.workers = [worker])
    (hpc : worker.pc.part = .reading) :
    ({ s with late := if s.stop then s.late ++ [worker.seq] else s.late }.goesOn 0 worker
      .merging).Inv setup := by
  have hown := h.worker worker (by simp [hworkers])
  obtain ⟨hlate, hreached⟩ := hown.reading hpc
  refine h.goesOn hworkers rfl rfl ?_ ?_
  · split
    · exact h.records.addLate hown.seq hreached
    · exact { h.records with }
  · exact {
      thread := hown.thread
      seq := hown.seq
      reading := fun hr => by cases hr
      unpublished := fun _ => ⟨hreached, fun hl => by
        by_contra hstop
        have hl : worker.seq ∈ if s.stop then s.late ++ [worker.seq] else s.late := hl
        rw [if_neg hstop] at hl
        exact hlate hl⟩
      published := fun hp => by cases hp
      cleaned := fun _ => hown.cleaned (by rw [hpc]; decide)
      closing := fun k hk => by cases hk }

/-- A snapshot is out: its poll is not late. -/
theorem Records.reach (h : s.Records) {seq : Nat} (hseq : seq ≤ s.sequence)
    (hlate : seq ∉ s.late) (hsequence : s₁.sequence = s.sequence) (hl : s₁.late = s.late)
    (hreached : ∀ seq', seq' ∈ s₁.reached → seq' ∈ s.reached ∨ seq' = seq)
    (hcleaned : s₁.cleaned = s.cleaned) (hclosed : s₁.closed = s.closed) : s₁.Records where
  bound seq' hseq' := by
    rw [hl] at hseq'
    rw [hsequence]
    rcases hseq' with hr | hlate'
    · rcases hreached seq' hr with hr | rfl
      · exact h.bound seq' (.inl hr)
      · exact hseq
    · exact h.bound seq' (.inr hlate')
  late seq' hlate' hr := by
    rw [hl] at hlate'
    rcases hreached seq' hr with hr | rfl
    · exact h.late seq' hlate' hr
    · exact hlate hlate'
  uncleaned hc := hclosed.trans (h.uncleaned (hcleaned.symm.trans hc))
  closed := by rw [hclosed]; exact h.closed

/-- One more provider is closed. -/
theorem Records.close (h : s.Records) {k : Nat} (hcleaned : s.cleaned = true)
    (hclosed : s.closed ++ [k] = List.range (k + 1)) :
    Records { s with closed := s.closed ++ [k] } where
  bound := h.bound
  late := h.late
  uncleaned hc := by rw [hcleaned] at hc; cases hc
  closed := ⟨k + 1, hclosed⟩

theorem mem_reached_publish {seq seq' : Nat} (h : seq' ∈ (s.publish seq).reached) :
    seq' ∈ s.reached ∨ seq' = seq := by
  simp only [reached, publish, List.mem_append, Option.toList_some, List.mem_singleton,
    List.mem_flatten, List.mem_map, Option.mem_toList] at h ⊢
  rcases h with ((hlatest | ⟨window, ⟨window', hmem, rfl⟩, hin⟩) | hclosed) | hobserved
  · exact .inr hlatest
  · rw [List.mem_append, List.mem_singleton] at hin
    exact hin.imp_left fun hin => .inl (.inl (.inr ⟨window', hmem, hin⟩))
  · exact .inl (.inl (.inr hclosed))
  · exact .inl (.inr hobserved)

theorem Inv.publish (h : s.Inv setup) (hworkers : s.workers = [worker])
    (hpc : worker.pc = .locking) (hstop : s.stop = false) :
    ((s.publish worker.seq).goesOn 0 worker .logging).Inv setup := by
  have hown := h.worker worker (by simp [hworkers])
  have hlate : worker.seq ∉ s.late := fun hl => by
    have := (hown.unpublished (by rw [hpc]; rfl)).2 hl
    rw [hstop] at this
    cases this
  refine h.goesOn hworkers rfl rfl ?_ ?_
  · exact h.records.reach hown.seq hlate rfl rfl (fun _ hr => mem_reached_publish hr) rfl rfl
  · exact {
      thread := hown.thread
      seq := hown.seq
      reading := fun hr => by cases hr
      unpublished := fun hu => by cases hu
      published := fun _ => hlate
      cleaned := fun _ => hown.cleaned (by rw [hpc]; decide)
      closing := fun k hk => by cases hk }

theorem Inv.notify (h : s.Inv setup) (hworkers : s.workers = [worker]) {k : Nat}
    (hpc : worker.pc = .notifying k) :
    ({ s with observed := s.observed ++ [worker.seq] }.goesOn 0 worker
      (.observing (k + 1))).Inv setup := by
  have hown := h.worker worker (by simp [hworkers])
  have hlate := hown.published (by rw [hpc]; rfl)
  refine h.goesOn hworkers rfl rfl ?_ ?_
  · refine h.records.reach hown.seq hlate rfl rfl (fun seq' hr => ?_) rfl rfl
    simp only [reached, List.mem_append, List.mem_singleton] at hr ⊢
    exact hr.elim (fun hr => .inl (.inl hr)) fun hr => hr.imp_left .inr
  · exact {
      thread := hown.thread
      seq := hown.seq
      reading := fun hr => by cases hr
      unpublished := fun hu => by cases hu
      published := fun _ => hlate
      cleaned := fun _ => hown.cleaned (by simp [hpc, HealthPc.part])
      closing := fun k hk => by cases hk }

/-- The file is written or removed. -/
theorem Inv.touchFile (h : s.Inv setup) (hworkers : s.workers = [worker]) (file : Option Nat)
    (hpc : worker.pc.part = .published)
    (hpc' : pc.part = .published) :
    ({ s with file }.goesOn 0 worker pc).Inv setup := by
  have hown := h.worker worker (by simp [hworkers])
  refine h.goesOn hworkers rfl rfl { h.records with } ?_
  exact {
    thread := hown.thread
    seq := hown.seq
    reading := fun hr => by cases hpc'.symm.trans hr
    unpublished := fun hu => by cases hpc'.symm.trans hu
    published := fun _ => hown.published hpc
    cleaned := fun _ => hown.cleaned (by rw [hpc]; decide)
    closing := fun k hk => by
      have hk : pc = .closing k := hk
      rw [hk] at hpc'
      cases hpc' }

/-- `_cleanup` of the thread: nothing is closed yet. -/
theorem Inv.clean (h : s.Inv setup) (hworkers : s.workers = [worker])
    (hpc : worker.pc = .cleaning) :
    ({ s with cleaned := true }.goesOn 0 worker (.closing 0)).Inv setup := by
  have hown := h.worker worker (by simp [hworkers])
  have hclosed := h.records.uncleaned (hown.cleaned (by rw [hpc]; decide))
  refine h.goesOn hworkers rfl rfl ?_ ?_
  · exact { h.records with uncleaned := fun hc => by cases hc }
  · exact {
      thread := hown.thread
      seq := hown.seq
      reading := fun hr => by cases hr
      unpublished := fun hu => by cases hu
      published := fun hp => by cases hp
      cleaned := fun hc => absurd rfl hc
      closing := fun k hk => by cases hk; exact ⟨rfl, hclosed⟩ }

/-- The next provider is closed. -/
theorem Inv.close (h : s.Inv setup) (hworkers : s.workers = [worker]) {k : Nat}
    (hpc : worker.pc = .closing k) :
    ({ s with closed := s.closed ++ [k] }.goesOn 0 worker (.closing (k + 1))).Inv setup := by
  have hown := h.worker worker (by simp [hworkers])
  obtain ⟨hcleaned, hclosed⟩ := hown.closing k hpc
  have hrange : s.closed ++ [k] = List.range (k + 1) := by rw [hclosed, List.range_succ]
  refine h.goesOn hworkers rfl rfl (h.records.close hcleaned hrange) ?_
  exact {
    thread := hown.thread
    seq := hown.seq
    reading := fun hr => by cases hr
    unpublished := fun hu => by cases hu
    published := fun hp => by cases hp
    cleaned := fun hc => absurd rfl hc
    closing := fun k' hk => by cases hk; exact ⟨hcleaned, hrange⟩ }

/-- **One statement of the thread** keeps the invariant. -/
theorem Inv.workerStep (h : s.Inv setup) {i : Nat} (hworker : s.workers[i]? = some worker)
    (answer : Answer) : (s.workerStep setup i worker answer).Inv setup := by
  obtain ⟨rfl, hworkers⟩ := h.only hworker
  have hown := h.worker worker (by simp [hworkers])
  cases hpc : worker.pc with
  | looping =>
      have hopen : worker.pc.part ≠ .closing := by simp [hpc, HealthPc.part]
      simp only [HealthRun.workerStep, hpc]
      split
      · exact h.quiet hworkers (.inl rfl) hopen
      · exact h.begin hworkers hpc
  | polling k =>
      have hopen : worker.pc.part ≠ .closing := by simp [hpc, HealthPc.part]
      simp only [HealthRun.workerStep, hpc]
      split
      · split
        · exact h.giveUp hworkers (by rw [hpc]; rfl)
        · exact h.quiet hworkers (.inr (by rw [hpc]; rfl)) hopen
      · exact h.readsOver hworkers (by rw [hpc]; rfl)
  | reading k =>
      have hopen : worker.pc.part ≠ .closing := by simp [hpc, HealthPc.part]
      simp only [HealthRun.workerStep, hpc]
      exact h.quiet hworkers (.inr (by rw [hpc]; rfl)) hopen
  | merging =>
      have hopen : worker.pc.part ≠ .closing := by simp [hpc, HealthPc.part]
      simp only [HealthRun.workerStep, hpc]
      split
      · exact h.quiet hworkers (.inr (by rw [hpc]; rfl)) hopen
      · exact h.quiet hworkers (.inl rfl) hopen
  | locking =>
      have hopen : worker.pc.part ≠ .closing := by simp [hpc, HealthPc.part]
      simp only [HealthRun.workerStep, hpc]
      split
      · exact h.quiet hworkers (.inl rfl) hopen
      · next hstop => exact h.publish hworkers hpc (by simpa using hstop)
  | logging =>
      have hopen : worker.pc.part ≠ .closing := by simp [hpc, HealthPc.part]
      simp only [HealthRun.workerStep, hpc]
      exact h.quiet hworkers (.inr (by rw [hpc]; rfl)) hopen
  | writing =>
      have hopen : worker.pc.part ≠ .closing := by simp [hpc, HealthPc.part]
      simp only [HealthRun.workerStep, hpc]
      split
      · exact h.quiet hworkers (.inr (by rw [hpc]; rfl)) hopen
      · exact h.quiet hworkers (.inr (by rw [hpc]; rfl)) hopen
  | replacing =>
      have hopen : worker.pc.part ≠ .closing := by simp [hpc, HealthPc.part]
      simp only [HealthRun.workerStep, hpc]
      split
      · exact h.touchFile hworkers (some worker.seq) (by rw [hpc]; rfl) rfl
      · exact h.quiet hworkers (.inr (by rw [hpc]; rfl)) hopen
      · exact h.quiet hworkers (.inl rfl) hopen
  | rechecking =>
      have hopen : worker.pc.part ≠ .closing := by simp [hpc, HealthPc.part]
      simp only [HealthRun.workerStep, hpc]
      split
      · exact h.quiet hworkers (.inr (by rw [hpc]; rfl)) hopen
      · exact h.quiet hworkers (.inr (by rw [hpc]; rfl)) hopen
  | removing =>
      have hopen : worker.pc.part ≠ .closing := by simp [hpc, HealthPc.part]
      simp only [HealthRun.workerStep, hpc, removeFile]
      split
      · exact h.touchFile hworkers none (by rw [hpc]; rfl) rfl
      · exact h.quiet hworkers (.inr (by rw [hpc]; rfl)) hopen
  | observing k =>
      have hopen : worker.pc.part ≠ .closing := by simp [hpc, HealthPc.part]
      simp only [HealthRun.workerStep, hpc]
      split
      · exact h.quiet hworkers (.inr (by rw [hpc]; rfl)) hopen
      · exact h.quiet hworkers (.inl rfl) hopen
  | notifying k =>
      simp only [HealthRun.workerStep, hpc]
      exact h.notify hworkers hpc
  | waiting =>
      have hopen : worker.pc.part ≠ .closing := by simp [hpc, HealthPc.part]
      simp only [HealthRun.workerStep, hpc]
      exact h.quiet hworkers (.inl rfl) hopen
  | cleaning =>
      simp only [HealthRun.workerStep, hpc]
      have hcleaned := hown.cleaned (by rw [hpc]; decide)
      rw [if_neg (by simp [hcleaned])]
      exact h.clean hworkers hpc
  | closing k =>
      simp only [HealthRun.workerStep, hpc]
      split
      · exact h.close hworkers hpc
      · refine h.goesOn hworkers rfl rfl h.records ?_
        exact {
          thread := hown.thread
          seq := hown.seq
          reading := fun hr => by cases hr
          unpublished := fun hu => by cases hu
          published := fun hp => by cases hp
          cleaned := fun hc => absurd rfl hc
          closing := fun k' hk => by cases hk }
  | unlinking =>
      simp only [HealthRun.workerStep, hpc, removeFile]
      split
      · exact h.ends hworkers rfl rfl { h.records with } fun _ => rfl
      · next hpath => exact h.ends hworkers rfl rfl h.records fun hp => absurd hp hpath

end Worker

/-! ### One statement of the main thread, and the rest -/

section Main

variable {setup : HealthSetup} {s s₁ : HealthRun} {worker : HealthWorker}

theorem alive_eq_false (h : s.Inv setup) (halive : s.alive = false) : s.workers = [] := by
  cases hw : s.workers with
  | nil => rfl
  | cons worker rest =>
      have hthread := (h.worker worker (by simp [hw])).thread
      simp [alive, hthread, hw] at halive

/-- What a health thread knows is kept by a step that touches neither its thread nor the
records, and sets no stop event back. -/
theorem WorkerInv.of_eq (h : s.WorkerInv worker) (hthread : s₁.thread = s.thread)
    (hsequence : s₁.sequence = s.sequence) (hlate : s₁.late = s.late)
    (hreached : ∀ seq, seq ∈ s₁.reached → seq ∈ s.reached)
    (hstop : s.stop = true → s₁.stop = true) (hcleaned : s₁.cleaned = s.cleaned)
    (hclosed : s₁.closed = s.closed) : s₁.WorkerInv worker where
  thread := hthread.trans h.thread
  seq := hsequence ▸ h.seq
  reading hr := by
    obtain ⟨hl, hnot⟩ := h.reading hr
    exact ⟨hlate ▸ hl, fun hin => hnot (hreached _ hin)⟩
  unpublished hu := by
    obtain ⟨hnot, hs⟩ := h.unpublished hu
    exact ⟨fun hin => hnot (hreached _ hin), fun hl => hstop (hs (hlate ▸ hl))⟩
  published hp := hlate ▸ h.published hp
  cleaned hc := hcleaned.trans (h.cleaned hc)
  closing k hk := by rw [hcleaned, hclosed]; exact h.closing k hk

/-- The records are kept by a step that brings no snapshot anywhere new. -/
theorem Records.of_eq (h : s.Records) (hsequence : s₁.sequence = s.sequence)
    (hlate : s₁.late = s.late) (hreached : ∀ seq, seq ∈ s₁.reached → seq ∈ s.reached)
    (hcleaned : s₁.cleaned = s.cleaned) (hclosed : s₁.closed = s.closed) : s₁.Records where
  bound seq hseq := by
    rw [hsequence]
    exact h.bound seq (hseq.imp (hreached seq) fun hl => hlate ▸ hl)
  late seq hseq hin := h.late seq (hlate ▸ hseq) (hreached seq hin)
  uncleaned hc := hclosed.trans (h.uncleaned (hcleaned.symm.trans hc))
  closed := by rw [hclosed]; exact h.closed

/-- A step of the main thread to a place where it need not be alone. -/
theorem Inv.aside (h : s.Inv setup) {pc : Option MonitorPc} {stop : Bool} {file : Option Nat}
    (hstop : s.stop = true → stop = true) (hfile : s.file = none → file = none)
    (hpc : ∀ pc', pc = some pc' → pc'.isAlone = false) :
    Inv setup { s with stop, file, main := pc } where
  one := h.one
  worker w hw := (h.worker w hw).of_eq rfl rfl rfl (fun _ hin => hin) hstop rfl rfl
  records := { h.records with }
  main := {
    alone := fun pc' hpc' halone => by simp [hpc pc' hpc'] at halone
    uncleaned := fun pc' hpc' huncleaned => by
      have halone := MonitorPc.isAlone_of_isUncleaned huncleaned
      simp [hpc pc' hpc'] at halone
    closing := fun k hk => by cases hpc _ hk }
  file hpath hspawned hnone := hfile (h.file hpath hspawned hnone)

theorem Inv.removeFile (h : s.Inv setup) : (s.removeFile setup).Inv setup := by
  rw [HealthRun.removeFile]
  split
  · exact {
      one := h.one
      worker := fun w hw => { h.worker w hw with }
      records := { h.records with }
      main := { h.main with }
      file := fun _ _ _ => rfl }
  · exact h

/-- A state in which no thread is alive. -/
theorem inv_alone (hworkers : s.workers = []) (hrecords : s.Records)
    (huncleaned : ∀ pc, s.main = some pc → pc.isUncleaned = true → s.cleaned = false)
    (hclosing : ∀ k, s.main = some (.closing k) → s.cleaned = true ∧ s.closed = List.range k)
    (hfile : setup.filePath = true → 0 < s.spawned → s.file = none) : s.Inv setup where
  one := by simp [hworkers]
  worker w hw := by simp [hworkers] at hw
  records := hrecords
  main := { alone := fun _ _ _ => hworkers, uncleaned := huncleaned, closing := hclosing }
  file hpath hspawned _ := hfile hpath hspawned

theorem Inv.spawn (h : s.Inv setup) (hworkers : s.workers = []) (hcleaned : s.cleaned = false) :
    (s.mainStep setup .spawning).Inv setup where
  one := by simp [HealthRun.mainStep, hworkers]
  worker w hw := by
    have hw : w = { id := s.spawned, pc := .looping, seq := 0 } := by
      simpa [HealthRun.mainStep, hworkers] using hw
    subst hw
    exact {
      thread := rfl
      seq := Nat.zero_le _
      reading := fun hr => by cases hr
      unpublished := fun hu => by cases hu
      published := fun hp => by cases hp
      cleaned := fun _ => hcleaned
      closing := fun k hk => by cases hk }
  records := { h.records with }
  main := {
    alone := fun _ hpc => by cases hpc
    uncleaned := fun _ hpc => by cases hpc
    closing := fun _ hpc => by cases hpc }
  file _ _ hnone := by simp [HealthRun.mainStep] at hnone

/-- **One statement of the main thread** keeps the invariant. -/
theorem Inv.mainStep (h : s.Inv setup) {pc : MonitorPc} (hpc : s.main = some pc) :
    (s.mainStep setup pc).Inv setup := by
  have halone := h.main.alone pc hpc
  cases pc with
  | starting =>
      rw [HealthRun.mainStep]
      cases hs : s.alive with
      | true => exact h.aside id id (by simp)
      | false =>
          have hworkers := alive_eq_false h hs
          exact inv_alone hworkers { h.records with } (fun pc' hpc' hu => by cases hpc'; cases hu)
            (fun k hk => by cases hk) fun hpath hspawned => h.file hpath hspawned hworkers
  | uncleaned =>
      have hworkers := halone rfl
      refine inv_alone hworkers ?_ (fun _ _ _ => rfl) (fun k hk => by cases hk)
        fun hpath hspawned => h.file hpath hspawned hworkers
      exact { h.records with uncleaned := fun _ => rfl, closed := ⟨0, rfl⟩ }
  | clearing =>
      have hworkers := halone rfl
      exact inv_alone hworkers { h.records with }
        (fun _ _ _ => h.main.uncleaned _ hpc rfl) (fun k hk => by cases hk)
        fun hpath hspawned => h.file hpath hspawned hworkers
  | spawning => exact h.spawn (halone rfl) (h.main.uncleaned _ hpc rfl)
  | stopping => exact h.aside (fun _ => rfl) id (fun pc' hpc' => by cases hpc'; rfl)
  | joining => exact h.aside id id (fun pc' hpc' => by cases hpc'; rfl)
  | joined =>
      rw [HealthRun.mainStep]
      split
      · exact h.aside id id (fun pc' hpc' => by cases hpc'; rfl)
      · next hs =>
          have hworkers := alive_eq_false h (by simpa using hs)
          exact inv_alone hworkers { h.records with } (fun pc' hpc' hu => by cases hpc'; cases hu)
            (fun k hk => by cases hk) fun hpath hspawned => h.file hpath hspawned hworkers
  | cleaning =>
      have hworkers := halone rfl
      rw [HealthRun.mainStep]
      split
      · exact h.aside id id (fun pc' hpc' => by cases hpc'; rfl)
      · next hs =>
          refine inv_alone hworkers ?_ (fun pc' hpc' hu => by cases hpc'; cases hu)
            (fun k hk => ?_) fun hpath hspawned => h.file hpath hspawned hworkers
          · exact { h.records with uncleaned := fun hc => by cases hc }
          · cases hk
            exact ⟨rfl, h.records.uncleaned (by simpa using hs)⟩
  | closing k =>
      have hworkers := halone rfl
      obtain ⟨hcleaned, hclosed⟩ := h.main.closing k hpc
      rw [HealthRun.mainStep]
      split
      · have hrange : s.closed ++ [k] = List.range (k + 1) := by rw [hclosed, List.range_succ]
        refine inv_alone hworkers { h.records.close hcleaned hrange with }
          (fun pc' hpc' hu => by cases hpc'; cases hu) (fun k' hk => ?_)
          fun hpath hspawned => h.file hpath hspawned hworkers
        cases hk
        exact ⟨hcleaned, hrange⟩
      · exact inv_alone hworkers { h.records with } (fun pc' hpc' hu => by cases hpc'; cases hu)
          (fun k' hk => by cases hk) fun hpath hspawned => h.file hpath hspawned hworkers
  | unlinking => exact h.removeFile.aside id id (fun pc' hpc' => by cases hpc'; rfl)
  | removing => exact h.removeFile.aside id id (fun pc' hpc' => by cases hpc')

theorem inv_next {e : Event} (h : s.Inv setup) (hnext : next setup s e = some s₁) :
    s₁.Inv setup := by
  cases e with
  | start =>
      simp only [next] at hnext
      split at hnext
      · cases hnext
        exact h.aside id id (fun pc' hpc' => by cases hpc'; rfl)
      · cases hnext
  | stopNow =>
      cases hnext
      exact {
        one := h.one
        worker := fun w hw =>
          (h.worker w hw).of_eq rfl rfl rfl (fun _ hin => hin) (fun _ => rfl) rfl rfl
        records := { h.records with }
        main := { h.main with }
        file := h.file }
  | stopWait =>
      simp only [next] at hnext
      split at hnext
      · cases hnext
        exact h.aside id id (fun pc' hpc' => by cases hpc'; rfl)
      · cases hnext
  | main =>
      obtain ⟨pc, hpc, rfl⟩ := Option.map_eq_some_iff.mp hnext
      exact h.mainStep hpc
  | openWindow =>
      cases hnext
      have hreached : ∀ seq, seq ∈ reached { s with windows := s.windows ++ [s.latest.toList] } →
          seq ∈ s.reached := fun seq hin => by
        simp only [reached, List.flatten_append, List.mem_append] at hin ⊢
        simp only [List.flatten_cons, List.flatten_nil, List.append_nil] at hin
        tauto
      exact {
        one := h.one
        worker := fun w hw => (h.worker w hw).of_eq rfl rfl rfl hreached id rfl rfl
        records := h.records.of_eq rfl rfl hreached rfl rfl
        main := { h.main with }
        file := h.file }
  | closeWindow i =>
      obtain ⟨window, hwindow, rfl⟩ := Option.map_eq_some_iff.mp hnext
      have hreached : ∀ seq, seq ∈ reached { s with
            windows := s.windows.eraseIdx i, closedWindows := s.closedWindows ++ [window] } →
          seq ∈ s.reached := fun seq hin => by
        have hmem : window ∈ s.windows := List.mem_of_getElem? hwindow
        simp only [reached, List.flatten_append, List.mem_append, List.mem_flatten] at hin ⊢
        simp only [List.mem_singleton, exists_eq_left] at hin
        rcases hin with ((hlatest | ⟨w, hw, hin⟩) | ⟨w, hw, hin⟩ | hin) | hobserved
        · exact .inl (.inl (.inl hlatest))
        · exact .inl (.inl (.inr ⟨w, List.mem_of_mem_eraseIdx hw, hin⟩))
        · exact .inl (.inr ⟨w, hw, hin⟩)
        · exact .inl (.inl (.inr ⟨window, hmem, hin⟩))
        · exact .inr hobserved
      exact {
        one := h.one
        worker := fun w hw => (h.worker w hw).of_eq rfl rfl rfl hreached id rfl rfl
        records := h.records.of_eq rfl rfl hreached rfl rfl
        main := { h.main with }
        file := h.file }
  | worker i answer =>
      obtain ⟨worker, hworker, rfl⟩ := Option.map_eq_some_iff.mp hnext
      exact h.workerStep hworker answer

end Main

/-! ## Every run -/

theorem Inv.leavesNothing {setup : HealthSetup} {s : HealthRun} (h : s.Inv setup) :
    s.LeavesNothing setup where
  file := h.file
  late := h.records.late
  closing hcloses worker hworker := by
    obtain ⟨i, hi⟩ := List.mem_iff_getElem?.mp hworker
    obtain ⟨-, hworkers⟩ := h.only hi
    rw [closes, Bool.or_eq_true] at hcloses
    rcases hcloses with hmain | hthread
    · cases hpc : s.main with
      | none => simp [hpc] at hmain
      | some pc =>
          have halone : pc.isAlone = true := by
            rw [hpc, Option.any_some] at hmain
            split at hmain
            · rfl
            · cases hmain
          have hnone := h.main.alone pc hpc halone
          rw [hworkers] at hnone
          cases hnone
    · rw [hworkers, List.any_cons, List.any_nil, Bool.or_false] at hthread
      split at hthread
      · next k hpc => rw [hpc]; rfl
      · cases hthread
  once := by
    obtain ⟨k, hk⟩ := h.records.closed
    rw [hk]
    exact List.nodup_range

/-- **A stopped monitor leaves nothing behind**, whatever the order of the statements. -/
theorem leavesNothing_run (setup : HealthSetup) (file : Option Nat) {events : List Event}
    {s : HealthRun} (hrun : Machine.exec (next setup) (init file) events = some s) :
    s.LeavesNothing setup :=
  have h : s.Inv setup := Machine.exec_inv (fun _ _ _ h hnext => inv_next h hnext)
    (inv_init setup file) hrun
  h.leavesNothing

/-- One provider and one observer, and a file. -/
def fileSetup : HealthSetup := { providers := 1, observers := 1, filePath := true }

/-- The stop of a signal handler comes while the snapshot is written, the join is given up,
`start` finds the thread alive, and only then the thread comes to its cleanup. -/
def stopInWrite : List Event :=
  [.start] ++ List.replicate 4 .main ++ [.openWindow] ++ List.replicate 8 (.worker 0 .ok) ++
  [.stopNow, .stopWait, .main, .main, .main, .main, .start, .main] ++
  List.replicate 10 (.worker 0 .ok)

theorem leavesNothing_stopInWrite :
    ∃ s, Machine.exec (next fileSetup) (init none) stopInWrite = some s ∧
      s.workers = [] ∧ s.file = none ∧ s.latest = some 1 ∧ s.closed = [0] ∧
      s.LeavesNothing fileSetup := by
  have hrun : (Machine.exec (next fileSetup) (init none) stopInWrite).map
      (fun s => (s.workers, s.file, s.latest, s.closed)) = some ([], none, some 1, [0]) := by
    decide +kernel
  obtain ⟨s, hs, hfacts⟩ := Option.map_eq_some_iff.mp hrun
  simp only [Prod.mk.injEq] at hfacts
  obtain ⟨hworkers, hfile, hlatest, hclosed⟩ := hfacts
  exact ⟨s, hs, hworkers, hfile, hlatest, hclosed, leavesNothing_run fileSetup none hs⟩

end HealthRun

end CamDriver
