import CamDriver.Lib.Machine
import Mathlib.Data.Rat.Floor

/-!
# CamDriver.Reconnect

Reconnect and shutdown, statement by statement: the watchdog, `request_stop` and `shutdown`
on the main thread, `_reconnect` on a thread of its own, and the two halves of a source's
`start` and `stop`.

The worker looks at `_stopping` once between `reopen` and `start`.  A `source.stop()` of the
main thread that falls between that look and the end of `start` is undone by it, and only
where `close` releases the device is it handed back all the same.  `OutOfRearm` is the order
that rules this out.
-/

namespace CamDriver

/-! ## The source -/

/-- The sources with a reconnect. -/
inductive ReconnectSource where
  | gige | usb | rtsp | shm
deriving DecidableEq, Repr

/-- `close` drops the camera with its stream; the other sources inherit the `close` that
does nothing. -/
def ReconnectSource.closeReleases : ReconnectSource → Bool
  | gige => true
  | usb | rtsp | shm => false

/-- A source as `start` and `stop` leave it. -/
structure SourceRun where
  /-- `_started`; for GigE the armed new-buffer signal -/
  started : Bool
  /-- the mini-pipeline is PLAYING; for GigE acquisition runs -/
  playing : Bool
deriving DecidableEq, Repr

def SourceRun.idle : SourceRun := { started := false, playing := false }

/-- At most as far started. -/
def SourceRun.Le (a b : SourceRun) : Prop :=
  (a.started = true → b.started = true) ∧ (a.playing = true → b.playing = true)

/-- An idle source runs least. -/
theorem SourceRun.idle_le (source : SourceRun) : idle.Le source := by
  simp [idle, Le]

/-- The order of how much of a source runs. -/
theorem SourceRun.Le.trans {a b c : SourceRun} (h : a.Le b) (h' : b.Le c) : a.Le c :=
  ⟨fun ha => h'.1 (h.1 ha), fun ha => h'.2 (h.2 ha)⟩

/-- What runs no more than idle is idle. -/
theorem SourceRun.eq_idle_of_le {source : SourceRun} (h : source.Le idle) : source = idle := by
  obtain ⟨started, playing⟩ := source
  cases started with
  | true => cases h.1 rfl
  | false =>
      cases playing with
      | true => cases h.2 rfl
      | false => rfl

/-- `camera.reconnect_backoff_s` and the like. -/
structure ReconnectSetup where
  source : ReconnectSource
  reconnectEnabled : Bool
  backoffS : ℚ
  backoffMaxS : ℚ

/-! ## The threads -/

/-- Where a reconnect worker is. -/
inductive ReconnectPc where
  /-- at `source.stop()`, before the loop -/
  | stopping
  | halted
  /-- at the head of the loop -/
  | looping
  | reopening
  /-- `reopen` has returned -/
  | reopened
  /-- `_stopping` was set: stop, close, return -/
  | releasing
  | releasingHalted
  | closing
  /-- `_stopping` was not set: the state of the old timeline is cleared -/
  | rearming
  | starting
  | arming
  /-- an attempt has failed: it waits for the stop event or the backoff -/
  | backingOff
deriving DecidableEq, Repr

/-- The worker has looked at `_stopping` and has not come to the end of `start`. -/
def ReconnectPc.isRearm : ReconnectPc → Bool
  | rearming | starting | arming => true
  | _ => false

structure ReconnectWorker where
  pc : ReconnectPc
  attempt : Nat
  backoffS : ℚ

/-- Where `request_stop` is, once it has found `_stopping` not set. -/
inductive RequestPc where
  | entered
  /-- `_stopping` is set -/
  | marked
  /-- `_stop_event` is set -/
  | signalled
  /-- between the statements of `source.stop()` -/
  | halted
deriving DecidableEq, Repr

/-- Where `shutdown` is, with its local `stop_source`. -/
inductive ShutdownPc where
  | entered
  | decided (stopSource : Bool)
  | marked (stopSource : Bool)
  | signalled (stopSource : Bool)
  | halted
  /-- the session is drained and the pipeline taken down; next the join -/
  | joining
  | closing
  | returned
deriving DecidableEq, Repr

/-- `shutdown` has found or set `_stopping`. -/
def ShutdownPc.isStopping : ShutdownPc → Bool
  | .entered | .decided true => false
  | _ => true

/-- The join is over. -/
def ShutdownPc.isJoined : ShutdownPc → Bool
  | .closing | .returned => true
  | _ => false

/-- The pipeline, as far as reconnecting goes. -/
structure Reconnecting where
  source : SourceRun
  stopping : Bool
  stopEvent : Bool
  reconnecting : Bool
  workers : List ReconnectWorker
  /-- it may have interrupted `shutdown`, from the signal handler -/
  request : Option RequestPc
  shutdown : Option ShutdownPc

namespace Reconnecting

/-- The main loop runs, with the source as `_start_source` has left it. -/
def running (source : SourceRun) : Reconnecting :=
  { source, stopping := false, stopEvent := false, reconnecting := false, workers := []
    request := none, shutdown := none }

/-! ## One statement -/

/-- What `reopen` and `start` do. -/
inductive SourceAnswer where
  | ok
  /-- `torn`: after it has torn the old stream down -/
  | raises (torn : Bool)
  /-- `SourceConfigChanged` -/
  | configChanged
deriving DecidableEq, Repr

inductive Event where
  | watchdog (disconnected : Bool)
  | requestStop
  | shutdown
  /-- the next statement of the main thread -/
  | main
  /-- the next statement of a worker -/
  | worker (i : Nat) (answer : SourceAnswer)
deriving DecidableEq, Repr

/-- `_watchdog` of a source that is not finite. -/
def watchdog (setup : ReconnectSetup) (disconnected : Bool) (s : Reconnecting) : Reconnecting :=
  if s.stopping then s
  else if s.reconnecting then s
  else if ¬ setup.reconnectEnabled then s
  else if disconnected then
    { s with
      reconnecting := true
      workers := s.workers ++ [{ pc := .stopping, attempt := 0, backoffS := setup.backoffS }] }
  else s

/-- The first statement of `source.stop()`. -/
def halt (s : Reconnecting) : Reconnecting :=
  { s with source := { s.source with started := false } }

/-- Its second: the pipeline goes to NULL. -/
def silence (s : Reconnecting) : Reconnecting :=
  { s with source := { s.source with playing := false } }

/-- `source.close()`. -/
def close (setup : ReconnectSetup) (s : Reconnecting) : Reconnecting :=
  if setup.source.closeReleases then { s with source := .idle } else s

def requestStep (s : Reconnecting) : RequestPc → Reconnecting
  | .entered => { s with stopping := true, request := some .marked }
  | .marked => { s with stopEvent := true, request := some .signalled }
  | .signalled => { s.halt with request := some .halted }
  | .halted => { s.silence with request := none }

def shutdownStep (setup : ReconnectSetup) (s : Reconnecting) :
    ShutdownPc → Option Reconnecting
  | .entered => some { s with shutdown := some (.decided (!s.stopping)) }
  | .decided stopSource => some { s with stopping := true, shutdown := some (.marked stopSource) }
  | .marked stopSource =>
    some { s with stopEvent := true, shutdown := some (.signalled stopSource) }
  | .signalled true => some { s.halt with shutdown := some .halted }
  | .signalled false => some { s with shutdown := some .joining }
  | .halted => some { s.silence with shutdown := some .joining }
  -- `_join_reconnect` comes back when the worker has ended
  | .joining => if s.workers = [] then some { s with shutdown := some .closing } else none
  | .closing => some { s.close setup with shutdown := some .returned }
  | .returned => none

/-- The worker goes on. -/
def goesOn (s : Reconnecting) (i : Nat) (worker : ReconnectWorker) (pc : ReconnectPc) :
    Reconnecting :=
  { s with workers := s.workers.set i { worker with pc } }

/-- The `finally` of `_reconnect`, and the end of the thread. -/
def ends (s : Reconnecting) (i : Nat) : Reconnecting :=
  { s with reconnecting := false, workers := s.workers.eraseIdx i }

def workerStep (setup : ReconnectSetup) (s : Reconnecting) (i : Nat) (worker : ReconnectWorker)
    (answer : SourceAnswer) : Reconnecting :=
  match worker.pc with
  | .stopping => s.halt.goesOn i worker .halted
  | .halted => s.silence.goesOn i worker .looping
  | .looping =>
    if s.stopping then s.ends i
    else s.goesOn i { worker with attempt := worker.attempt + 1 } .reopening
  | .reopening =>
    match answer with
    | .ok => { s with source := .idle }.goesOn i worker .reopened
    | .raises true => { s with source := .idle }.goesOn i worker .backingOff
    | .raises false => s.goesOn i worker .backingOff
    | .configChanged => s.ends i
  | .reopened => s.goesOn i worker (if s.stopping then .releasing else .rearming)
  | .releasing => if answer = .ok then s.halt.goesOn i worker .releasingHalted else s.ends i
  | .releasingHalted =>
    if answer = .ok then s.silence.goesOn i worker .closing else s.ends i
  | .closing => if answer = .ok then (s.close setup).ends i else s.ends i
  | .rearming => s.goesOn i worker .starting
  | .starting =>
    match answer with
    | .ok => { s with source := { s.source with started := true } }.goesOn i worker .arming
    | .raises _ => s.goesOn i worker .backingOff
    | .configChanged => s.ends i
  | .arming =>
    match answer with
    | .ok => { s with source := { s.source with playing := true } }.ends i
    | .raises _ => s.goesOn i worker .backingOff
    | .configChanged => s.ends i
  | .backingOff =>
    if s.stopEvent then s.ends i
    else
      s.goesOn i { worker with backoffS := min (worker.backoffS * 2) setup.backoffMaxS } .looping

def next (setup : ReconnectSetup) (s : Reconnecting) : Event → Option Reconnecting
  | .watchdog disconnected =>
    if s.request = none ∧ s.shutdown = none then some (s.watchdog setup disconnected) else none
  | .requestStop =>
    if s.request = none then some (if s.stopping then s else { s with request := some .entered })
    else none
  | .shutdown =>
    if s.request = none ∧ s.shutdown = none then some { s with shutdown := some .entered }
    else none
  | .main =>
    match s.request with
    | some pc => some (s.requestStep pc)
    | none => s.shutdown.bind (s.shutdownStep setup)
  | .worker i answer => (s.workers[i]?).map fun worker => s.workerStep setup i worker answer

/-! ## What is to hold, and when it does -/

/-- One worker at most, the flag is released with it, and after `shutdown` the source is
stopped. -/
structure HandsBack (s : Reconnecting) : Prop where
  one : s.workers.length ≤ 1
  flag : s.workers = [] → s.reconnecting = false
  released : s.shutdown = some .returned → s.source = .idle

/-- The next statement of the main thread is one of `source.stop()`. -/
def stopsNext (s : Reconnecting) : Bool :=
  match s.request with
  | some .signalled | some .halted => true
  | some _ => false
  | none =>
    match s.shutdown with
    | some (.signalled true) | some .halted => true
    | _ => false

/-- A worker is between its look at `_stopping` and the end of `start`. -/
def rearms (s : Reconnecting) : Bool := s.workers.any fun worker => worker.pc.isRearm

/-- The main thread does not stop a source that a worker is about to start, unless `close`
releases it anyway. -/
def OutOfRearm (setup : ReconnectSetup) (s : Reconnecting) : Event → Prop
  | .main => s.stopsNext = true → setup.source.closeReleases = true ∨ s.rearms = false
  | _ => True

instance (setup : ReconnectSetup) (s : Reconnecting) (e : Event) :
    Decidable (s.OutOfRearm setup e) :=
  match e with
  | .main => inferInstanceAs (Decidable (_ → _))
  | .watchdog _ | .requestStop | .shutdown | .worker .. => isTrue trivial

/-! ## The invariant -/

/-- The statements of `source.stop()` the main thread has before it. -/
def stopsLeft (s : Reconnecting) : Nat :=
  match s.request with
  | some .halted => 1
  | some _ => 2
  | none =>
    if s.stopping then
      match s.shutdown with
      | some (.marked true) | some (.signalled true) => 2
      | some .halted => 1
      | _ => 0
    else 2

/-- What holds in every run. -/
structure Books (s : Reconnecting) : Prop where
  one : s.workers.length ≤ 1
  flag : s.reconnecting = true ↔ s.workers ≠ []
  request : ∀ pc, s.request = some pc → pc = .entered ∨ s.stopping = true
  shutdown : ∀ pc, s.shutdown = some pc → pc.isStopping = true → s.stopping = true
  joined : ∀ pc, s.shutdown = some pc → pc.isJoined = true → s.workers = []
  /-- `request_stop` interrupts `shutdown` only before it has looked at `_stopping` -/
  nested : ∀ pc pc', s.request = some pc → s.shutdown = some pc' → pc'.isStopping = false

/-- What the statements of `source.stop()` leave behind, where no worker starts the source
again. -/
structure Halted (s : Reconnecting) : Prop where
  halted : s.stopsLeft ≤ 1 → s.stopping = true ∧ s.rearms = false ∧ s.source.started = false
  silent : s.stopsLeft = 0 → s.source.playing = false

structure Inv (setup : ReconnectSetup) (s : Reconnecting) : Prop where
  books : s.Books
  /-- the device is released by `close`, or stopped by then -/
  back : if setup.source.closeReleases then s.shutdown = some .returned → s.source = .idle
    else s.Halted

/-! ### One statement of a worker -/

/-- What a statement of a worker can do; only `start` starts. -/
structure WorkerMove (s s' : Reconnecting) (i : Nat) (worker : ReconnectWorker) : Prop where
  stopping : s'.stopping = s.stopping
  request : s'.request = s.request
  shutdown : s'.shutdown = s.shutdown
  workers :
    (∃ worker', s'.workers = s.workers.set i worker' ∧ s'.reconnecting = s.reconnecting ∧
      (worker'.pc.isRearm = true → s.stopping = false ∨ worker.pc.isRearm = true)) ∨
    (s'.workers = s.workers.eraseIdx i ∧ s'.reconnecting = false)
  source : worker.pc.isRearm = false → s'.source.Le s.source

section WorkerMoves

variable {s : Reconnecting} {i : Nat} {worker w : ReconnectWorker} {pc : ReconnectPc}
  {source : SourceRun}

/-- A worker goes on; only a rearm makes the source run more. -/
theorem workerMove_goesOn
    (hpc : pc.isRearm = true → s.stopping = false ∨ worker.pc.isRearm = true)
    (hsource : worker.pc.isRearm = false → source.Le s.source) :
    WorkerMove s ({ s with source }.goesOn i w pc) i worker where
  stopping := rfl
  request := rfl
  shutdown := rfl
  workers := .inl ⟨_, rfl, rfl, hpc⟩
  source := hsource

theorem workerMove_ends (hsource : worker.pc.isRearm = false → source.Le s.source) :
    WorkerMove s ({ s with source }.ends i) i worker where
  stopping := rfl
  request := rfl
  shutdown := rfl
  workers := .inr ⟨rfl, rfl⟩
  source := hsource

/-- It goes on to a statement outside the rearm. -/
theorem workerMove_quiet (hpc : pc.isRearm = false)
    (hsource : worker.pc.isRearm = false → source.Le s.source) :
    WorkerMove s ({ s with source }.goesOn i w pc) i worker :=
  workerMove_goesOn (by simp [hpc]) hsource

/-- A statement of the rearm. -/
theorem workerMove_rearm (hworker : worker.pc.isRearm = true) :
    WorkerMove s ({ s with source }.goesOn i w pc) i worker :=
  workerMove_goesOn (fun _ => .inr hworker) (by simp [hworker])

end WorkerMoves

/-- One statement of the worker is one of these. -/
theorem workerMove_step (setup : ReconnectSetup) (s : Reconnecting) (i : Nat)
    (worker : ReconnectWorker) (answer : SourceAnswer) :
    WorkerMove s (s.workerStep setup i worker answer) i worker := by
  have hrefl : s.source.Le s.source := ⟨id, id⟩
  have hidle := SourceRun.idle_le s.source
  have hhalt : s.halt.source.Le s.source := ⟨by simp [halt], id⟩
  have hsilence : s.silence.source.Le s.source := ⟨id, by simp [silence]⟩
  cases hpc : worker.pc with
  | stopping =>
      simp only [workerStep, hpc]
      exact workerMove_quiet rfl fun _ => hhalt
  | halted =>
      simp only [workerStep, hpc]
      exact workerMove_quiet rfl fun _ => hsilence
  | looping =>
      simp only [workerStep, hpc]
      split
      · exact workerMove_ends fun _ => hrefl
      · exact workerMove_quiet rfl fun _ => hrefl
  | reopening =>
      simp only [workerStep, hpc]
      split
      · exact workerMove_quiet rfl fun _ => hidle
      · exact workerMove_quiet rfl fun _ => hidle
      · exact workerMove_quiet rfl fun _ => hrefl
      · exact workerMove_ends fun _ => hrefl
  | reopened =>
      simp only [workerStep, hpc]
      split
      · exact workerMove_quiet rfl fun _ => hrefl
      · next hstopping =>
          exact workerMove_goesOn (fun _ => .inl (Bool.not_eq_true _ ▸ hstopping)) fun _ => hrefl
  | releasing =>
      simp only [workerStep, hpc]
      split
      · exact workerMove_quiet rfl fun _ => hhalt
      · exact workerMove_ends fun _ => hrefl
  | releasingHalted =>
      simp only [workerStep, hpc]
      split
      · exact workerMove_quiet rfl fun _ => hsilence
      · exact workerMove_ends fun _ => hrefl
  | closing =>
      simp only [workerStep, hpc, close]
      split
      · split
        · exact workerMove_ends fun _ => hidle
        · exact workerMove_ends fun _ => hrefl
      · exact workerMove_ends fun _ => hrefl
  | rearming =>
      simp only [workerStep, hpc]
      exact workerMove_rearm (by rw [hpc]; rfl)
  | starting =>
      simp only [workerStep, hpc]
      split
      · exact workerMove_rearm (by rw [hpc]; rfl)
      · exact workerMove_rearm (by rw [hpc]; rfl)
      · exact workerMove_ends fun _ => hrefl
  | arming =>
      simp only [workerStep, hpc]
      split
      · exact workerMove_ends fun hrearm => by rw [hpc] at hrearm; cases hrearm
      · exact workerMove_rearm (by rw [hpc]; rfl)
      · exact workerMove_ends fun _ => hrefl
  | backingOff =>
      simp only [workerStep, hpc]
      split
      · exact workerMove_ends fun _ => hrefl
      · exact workerMove_quiet rfl fun _ => hrefl

/-! ### Every statement -/

section Books

variable {setup : ReconnectSetup} {s s' : Reconnecting}

/-- A worker that exists is the only one. -/
theorem Books.only (h : s.Books) {i : Nat} {worker : ReconnectWorker}
    (hworker : s.workers[i]? = some worker) : i = 0 ∧ s.workers = [worker] := by
  have hone := h.one
  match hw : s.workers with
  | [] => simp [hw] at hworker
  | [w] =>
      rw [hw] at hworker
      cases i with
      | zero => exact ⟨rfl, by rw [Option.some.inj hworker]⟩
      | succ i => simp at hworker
  | _ :: _ :: _ => simp [hw] at hone

/-- The books hold over a move of the worker. -/
theorem Books.worker (h : s.Books) {i : Nat} {worker : ReconnectWorker}
    (hworker : s.workers[i]? = some worker) (hmove : WorkerMove s s' i worker) : s'.Books := by
  obtain ⟨rfl, hw⟩ := h.only hworker
  have hreconnecting : s.reconnecting = true := h.flag.mpr (by simp [hw])
  have hrequest : ∀ pc, s'.request = some pc → pc = .entered ∨ s'.stopping = true := by
    rw [hmove.request, hmove.stopping]
    exact h.request
  have hshutdown : ∀ pc, s'.shutdown = some pc → pc.isStopping = true → s'.stopping = true := by
    rw [hmove.shutdown, hmove.stopping]
    exact h.shutdown
  have hjoined : ∀ pc, s'.shutdown = some pc → pc.isJoined = true → s'.workers = [] := by
    intro pc hpc hpcJoined
    rw [hmove.shutdown] at hpc
    exact absurd (h.joined pc hpc hpcJoined) (by simp [hw])
  have hnested : ∀ pc pc', s'.request = some pc → s'.shutdown = some pc' →
      pc'.isStopping = false := by
    rw [hmove.request, hmove.shutdown]
    exact h.nested
  rcases hmove.workers with ⟨worker', hworkers, hflag, -⟩ | ⟨hworkers, hflag⟩
  · exact {
      one := by rw [hworkers, List.length_set]; exact h.one
      flag := by simp [hflag, hreconnecting, hworkers, hw]
      request := hrequest, shutdown := hshutdown, joined := hjoined, nested := hnested }
  · exact {
      one := by simp [hworkers, hw]
      flag := by simp [hflag, hworkers, hw]
      request := hrequest, shutdown := hshutdown, joined := hjoined, nested := hnested }

/-- They hold over a look of the watchdog. -/
theorem Books.watchdog (h : s.Books) (hshutdown : s.shutdown = none) (disconnected : Bool) :
    (s.watchdog setup disconnected).Books := by
  rw [Reconnecting.watchdog]
  split
  · exact h
  · split
    · exact h
    · next hreconnecting =>
        split
        · exact h
        · split
          · have hnone : s.workers = [] := by
              by_contra hsome
              exact hreconnecting (h.flag.mpr hsome)
            exact {
              one := by simp [hnone]
              flag := by simp
              request := h.request, shutdown := h.shutdown
              joined := fun pc hpc => by simp [hshutdown] at hpc
              nested := h.nested }
          · exact h

/-- They hold over a statement of a request. -/
theorem Books.requestStep (h : s.Books) {pc : RequestPc} (hpc : s.request = some pc) :
    (s.requestStep pc).Books := by
  cases pc with
  | entered =>
      exact { one := h.one, flag := h.flag, request := fun _ _ => .inr rfl
              shutdown := fun _ _ _ => rfl, joined := h.joined
              nested := fun _ pc' _ => h.nested _ pc' hpc }
  | marked | signalled =>
      have hstopping := (h.request _ hpc).resolve_left (by simp)
      exact { one := h.one, flag := h.flag, request := fun _ _ => .inr hstopping
              shutdown := h.shutdown, joined := h.joined
              nested := fun _ pc' _ => h.nested _ pc' hpc }
  | halted =>
      exact { one := h.one, flag := h.flag, request := by simp [Reconnecting.requestStep]
              shutdown := h.shutdown, joined := h.joined
              nested := by simp [Reconnecting.requestStep] }

/-- `shutdown` goes on. -/
theorem Books.goesOn (h : s.Books) (hrequest : s.request = none) {source : SourceRun}
    {stopping stopEvent : Bool} {pc : ShutdownPc} (hkeep : s.stopping = true → stopping = true)
    (hstopping : pc.isStopping = true → stopping = true)
    (hjoined : pc.isJoined = true → s.workers = []) :
    Books { s with source, stopping, stopEvent, shutdown := some pc } where
  one := h.one
  flag := h.flag
  request pc' hpc' := (h.request pc' hpc').imp_right hkeep
  nested pc' _ hpc' := by simp [hrequest] at hpc'
  shutdown pc' hpc' := by
    cases hpc'
    exact hstopping
  joined pc' hpc' := by
    cases hpc'
    exact hjoined

/-- They hold over a statement of the shutdown. -/
theorem Books.shutdownStep (h : s.Books) (hrequest : s.request = none) {pc : ShutdownPc}
    (hpc : s.shutdown = some pc) (hnext : s.shutdownStep setup pc = some s') : s'.Books := by
  have hstopping := h.shutdown pc hpc
  have hjoined := h.joined pc hpc
  cases pc with
  | entered =>
      cases hnext
      refine h.goesOn hrequest id ?_ (by simp [ShutdownPc.isJoined])
      cases hs : s.stopping <;> simp [ShutdownPc.isStopping]
  | decided stopSource =>
      cases hnext
      exact h.goesOn hrequest (fun _ => rfl) (fun _ => rfl) (by simp [ShutdownPc.isJoined])
  | marked stopSource =>
      cases hnext
      exact h.goesOn hrequest id (fun _ => hstopping rfl) (by simp [ShutdownPc.isJoined])
  | signalled stopSource =>
      cases stopSource with
      | true =>
          cases hnext
          exact h.goesOn hrequest id (fun _ => hstopping rfl) (by simp [ShutdownPc.isJoined])
      | false =>
          cases hnext
          exact h.goesOn hrequest id (fun _ => hstopping rfl) (by simp [ShutdownPc.isJoined])
  | halted =>
      cases hnext
      exact h.goesOn hrequest id (fun _ => hstopping rfl) (by simp [ShutdownPc.isJoined])
  | joining =>
      rw [Reconnecting.shutdownStep] at hnext
      split at hnext
      · next hnone =>
          cases hnext
          exact h.goesOn hrequest id (fun _ => hstopping rfl) fun _ => hnone
      · cases hnext
  | closing =>
      cases hnext
      rw [close]
      split
      · exact h.goesOn hrequest id (fun _ => hstopping rfl) fun _ => hjoined rfl
      · exact h.goesOn hrequest id (fun _ => hstopping rfl) fun _ => hjoined rfl
  | returned => cases hnext

theorem books_next {e : Event} (h : s.Books) (hnext : next setup s e = some s') : s'.Books := by
  cases e with
  | watchdog disconnected =>
      simp only [next] at hnext
      split at hnext
      · next hidle => exact Option.some.inj hnext ▸ h.watchdog hidle.2 disconnected
      · cases hnext
  | requestStop =>
      simp only [next] at hnext
      split at hnext
      · split at hnext
        · exact Option.some.inj hnext ▸ h
        · next hs =>
            cases hnext
            refine { one := h.one, flag := h.flag, shutdown := h.shutdown, joined := h.joined
                     request := fun pc hpc => ?_, nested := fun _ pc' _ hpc' => ?_ }
            · cases hpc
              exact .inl rfl
            · by_contra hstopping
              exact hs (h.shutdown pc' hpc' (by simpa using hstopping))
      · cases hnext
  | shutdown =>
      simp only [next] at hnext
      split at hnext
      · next hidle =>
          cases hnext
          exact h.goesOn hidle.1 id (by simp [ShutdownPc.isStopping])
            (by simp [ShutdownPc.isJoined])
      · cases hnext
  | main =>
      simp only [next] at hnext
      split at hnext
      · next pc hpc => exact Option.some.inj hnext ▸ h.requestStep hpc
      · next hrequest =>
          obtain ⟨pc, hpc, hstep⟩ := Option.bind_eq_some_iff.mp hnext
          exact h.shutdownStep hrequest hpc hstep
  | worker i answer =>
      obtain ⟨worker, hworker, rfl⟩ := Option.map_eq_some_iff.mp hnext
      exact h.worker hworker (workerMove_step setup s i worker answer)

end Books

/-! ### The statements of `source.stop()` -/

section Halted

variable {setup : ReconnectSetup} {s s' : Reconnecting}

/-- A statement of a worker, once the source is stopped. -/
theorem Halted.worker (h : s.Halted) (hbooks : s.Books) {i : Nat} {worker : ReconnectWorker}
    (hworker : s.workers[i]? = some worker) (hmove : WorkerMove s s' i worker) : s'.Halted := by
  obtain ⟨rfl, hw⟩ := hbooks.only hworker
  have hleft : s'.stopsLeft = s.stopsLeft := by
    rw [stopsLeft, stopsLeft, hmove.request, hmove.stopping, hmove.shutdown]
  have hrearm : s.stopsLeft ≤ 1 → worker.pc.isRearm = false := fun hone => by
    simpa [rearms, hw] using (h.halted hone).2.1
  refine { halted := fun hone => ?_, silent := fun hzero => ?_ }
  · rw [hleft] at hone
    obtain ⟨hstopping, -, hstarted⟩ := h.halted hone
    refine ⟨hmove.stopping.trans hstopping, ?_, ?_⟩
    · rcases hmove.workers with ⟨worker', hworkers, -, hnew⟩ | ⟨hworkers, -⟩
      · have hquiet : worker'.pc.isRearm = false := by
          by_contra hrearm'
          rcases hnew (by simpa using hrearm') with hnot | hold
          · simp [hstopping] at hnot
          · simp [hrearm hone] at hold
        simp [rearms, hworkers, hw, hquiet]
      · simp [rearms, hworkers, hw]
    · have hle := hmove.source (hrearm hone)
      by_contra hstarted'
      exact absurd (hle.1 (by simpa using hstarted')) (by simp [hstarted])
  · rw [hleft] at hzero
    have hle := hmove.source (hrearm (by omega))
    by_contra hplaying'
    exact absurd (hle.2 (by simpa using hplaying')) (by simp [h.silent hzero])

/-- Both stops of the source are still to come. -/
theorem Halted.of_two (h : s.stopsLeft = 2) : s.Halted where
  halted := by omega
  silent := by omega

/-- A request that stops the source. -/
theorem Halted.requestStep (h : s.Halted) (hbooks : s.Books) {pc : RequestPc}
    (hpc : s.request = some pc)
    (hclear : s.stopsNext = true → s.rearms = false) : (s.requestStep pc).Halted := by
  cases pc with
  | entered => exact .of_two rfl
  | marked => exact .of_two rfl
  | signalled =>
      have hstopping := (hbooks.request _ hpc).resolve_left (by simp)
      refine { halted := fun _ => ⟨hstopping, hclear (by rw [stopsNext, hpc]), rfl⟩, silent := ?_ }
      intro hzero
      cases hzero
  | halted =>
      obtain ⟨hstopping, hrearms, hstarted⟩ := h.halted (by rw [stopsLeft, hpc])
      exact { halted := fun _ => ⟨hstopping, hrearms, hstarted⟩, silent := fun _ => rfl }

/-- `shutdown` goes on, and does not touch the source. -/
theorem Halted.goesOn (h : s.Halted) {stopping stopEvent : Bool}
    {pc : ShutdownPc} (hstopping : s.stopping = true → stopping = true)
    (hleft : stopsLeft { s with stopping, stopEvent, shutdown := some pc } < 2 →
      s.stopping = true ∧
      s.stopsLeft ≤ stopsLeft { s with stopping, stopEvent, shutdown := some pc }) :
    Halted { s with stopping, stopEvent, shutdown := some pc } where
  halted hone := by
    obtain ⟨hs, hle⟩ := hleft (by omega)
    obtain ⟨-, hrearms, hstarted⟩ := h.halted (by omega)
    exact ⟨hstopping hs, hrearms, hstarted⟩
  silent hzero := by
    obtain ⟨hs, hle⟩ := hleft (by omega)
    exact h.silent (by omega)

/-- The shutdown stops it too, unless a rearm is under way. -/
theorem Halted.shutdownStep (h : s.Halted) (hbooks : s.Books) (hrequest : s.request = none)
    {pc : ShutdownPc} (hpc : s.shutdown = some pc)
    (hsource : setup.source.closeReleases = false)
    (hclear : s.stopsNext = true → s.rearms = false)
    (hnext : s.shutdownStep setup pc = some s') : s'.Halted := by
  have hstopping := hbooks.shutdown pc hpc
  cases pc with
  | entered =>
      cases hnext
      refine h.goesOn id fun hlt => ?_
      cases hs : s.stopping with
      | true => simp [stopsLeft, hrequest, hs, hpc]
      | false => simp [stopsLeft, hrequest, hs] at hlt
  | decided stopSource =>
      cases hnext
      cases stopSource with
      | true => exact .of_two (by simp [stopsLeft, hrequest])
      | false =>
          have hs := hstopping rfl
          exact h.goesOn (fun _ => rfl) fun _ => by simp [stopsLeft, hrequest, hs, hpc]
  | marked stopSource =>
      have hs := hstopping rfl
      cases hnext
      refine h.goesOn id fun _ => ?_
      cases stopSource <;> simp [stopsLeft, hrequest, hs, hpc]
  | signalled stopSource =>
      have hs := hstopping rfl
      cases stopSource with
      | true =>
          cases hnext
          refine { halted := fun _ => ⟨hs, hclear ?_, rfl⟩, silent := fun hzero => ?_ }
          · rw [stopsNext, hrequest, hpc]
          · simp [stopsLeft, halt, hrequest, hs] at hzero
      | false =>
          cases hnext
          exact h.goesOn id fun _ => by simp [stopsLeft, hrequest, hs, hpc]
  | halted =>
      have hs := hstopping rfl
      cases hnext
      obtain ⟨-, hrearms, hstarted⟩ := h.halted (by simp [stopsLeft, hrequest, hpc, hs])
      exact { halted := fun _ => ⟨hs, hrearms, hstarted⟩, silent := fun _ => rfl }
  | joining =>
      have hs := hstopping rfl
      rw [Reconnecting.shutdownStep] at hnext
      split at hnext
      · cases hnext
        exact h.goesOn id fun _ => by simp [stopsLeft, hrequest, hs, hpc]
      · cases hnext
  | closing =>
      have hs := hstopping rfl
      cases hnext
      rw [close, if_neg (by simp [hsource])]
      exact h.goesOn id fun _ => by simp [stopsLeft, hrequest, hs, hpc]
  | returned => cases hnext

/-- Any step that is no stop within a rearm. -/
theorem halted_next {e : Event} (h : s.Halted) (hbooks : s.Books)
    (hsource : setup.source.closeReleases = false) (hout : s.OutOfRearm setup e)
    (hnext : next setup s e = some s') : s'.Halted := by
  cases e with
  | watchdog disconnected =>
      simp only [next] at hnext
      split at hnext
      · next hidle =>
          cases hnext
          rw [Reconnecting.watchdog]
          split
          · exact h
          · next hs =>
              have htwo : s.stopsLeft = 2 := by simp [stopsLeft, hidle.1, hs]
              split
              · exact h
              · split
                · exact h
                · split
                  · exact .of_two (by simpa [stopsLeft] using htwo)
                  · exact h
      · cases hnext
  | requestStop =>
      simp only [next] at hnext
      split at hnext
      · split at hnext
        · exact Option.some.inj hnext ▸ h
        · cases hnext
          exact .of_two rfl
      · cases hnext
  | shutdown =>
      simp only [next] at hnext
      split at hnext
      · next hidle =>
          cases hnext
          refine h.goesOn id fun hlt => ?_
          cases hs : s.stopping with
          | true => simp [stopsLeft, hidle.1, hidle.2, hs]
          | false => simp [stopsLeft, hidle.1, hs] at hlt
      · cases hnext
  | main =>
      have hclear : s.stopsNext = true → s.rearms = false := fun hstops =>
        (hout hstops).resolve_left (by simp [hsource])
      simp only [next] at hnext
      split at hnext
      · next pc hpc => exact Option.some.inj hnext ▸ h.requestStep hbooks hpc hclear
      · next hrequest =>
          obtain ⟨pc, hpc, hstep⟩ := Option.bind_eq_some_iff.mp hnext
          exact h.shutdownStep hbooks hrequest hpc hsource hclear hstep
  | worker i answer =>
      obtain ⟨worker, hworker, rfl⟩ := Option.map_eq_some_iff.mp hnext
      exact h.worker hbooks hworker (workerMove_step setup s i worker answer)

end Halted

/-! ## Every run -/

/-- Where `close` releases the device, it is released. -/
theorem released_next {setup : ReconnectSetup} {s s' : Reconnecting} {e : Event}
    (hsource : setup.source.closeReleases = true) (hbooks : s.Books)
    (h : s.shutdown = some .returned → s.source = .idle) (hnext : next setup s e = some s') :
    s'.shutdown = some .returned → s'.source = .idle := by
  cases e with
  | watchdog disconnected =>
      simp only [next] at hnext
      split at hnext
      · next hidle =>
          cases hnext
          rw [Reconnecting.watchdog]
          split
          · exact h
          · split
            · exact h
            · split
              · exact h
              · split <;> exact h
      · cases hnext
  | requestStop =>
      simp only [next] at hnext
      split at hnext
      · split at hnext <;> exact Option.some.inj hnext ▸ h
      · cases hnext
  | shutdown =>
      simp only [next] at hnext
      split at hnext
      · cases hnext
        exact fun hreturned => by cases hreturned
      · cases hnext
  | main =>
      simp only [next] at hnext
      split at hnext
      · next pc hpc =>
          cases hnext
          intro hreturned
          cases pc with
          | entered | marked => exact h hreturned
          | signalled => rw [requestStep, halt, h hreturned]; rfl
          | halted => rw [requestStep, silence, h hreturned]; rfl
      · obtain ⟨pc, hpc, hstep⟩ := Option.bind_eq_some_iff.mp hnext
        intro hreturned
        cases pc with
        | entered | decided stopSource | marked stopSource | halted =>
            cases hstep
            cases hreturned
        | signalled stopSource => cases stopSource <;> cases hstep <;> cases hreturned
        | joining =>
            rw [shutdownStep] at hstep
            split at hstep <;> cases hstep
            cases hreturned
        | closing =>
            cases hstep
            rw [close, if_pos hsource]
        | returned => cases hstep
  | worker i answer =>
      obtain ⟨worker, hworker, rfl⟩ := Option.map_eq_some_iff.mp hnext
      intro hreturned
      rw [(workerMove_step setup s i worker answer).shutdown] at hreturned
      have hnone := hbooks.joined _ hreturned rfl
      rw [hnone] at hworker
      cases hworker

/-- So for the whole invariant. -/
theorem inv_next {setup : ReconnectSetup} {s s' : Reconnecting} {e : Event} (h : s.Inv setup)
    (hout : s.OutOfRearm setup e) (hnext : next setup s e = some s') : s'.Inv setup := by
  refine { books := books_next h.books hnext, back := ?_ }
  have hback := h.back
  split
  · next hsource =>
      rw [if_pos hsource] at hback
      exact released_next hsource h.books hback hnext
  · next hsource =>
      rw [if_neg hsource] at hback
      exact halted_next hback h.books (by simpa using hsource) hout hnext

/-- A source that runs. -/
theorem inv_running (setup : ReconnectSetup) (source : SourceRun) :
    (running source).Inv setup where
  books := {
    one := Nat.zero_le 1
    flag := by simp [running]
    request := by simp [running]
    shutdown := by simp [running]
    joined := by simp [running]
    nested := by simp [running] }
  back := by
    split
    · simp [running]
    · exact .of_two rfl

/-- Once the shutdown is through, the source is idle. -/
theorem Inv.handsBack {setup : ReconnectSetup} {s : Reconnecting} (h : s.Inv setup) :
    s.HandsBack where
  one := h.books.one
  flag hnone := by
    by_contra hflag
    exact h.books.flag.mp (by simpa using hflag) hnone
  released hreturned := by
    have hback := h.back
    split at hback
    · exact hback hreturned
    · have hstopping := h.books.shutdown _ hreturned rfl
      have hrequest : s.request = none := by
        by_contra hrequest
        obtain ⟨pc, hpc⟩ := Option.ne_none_iff_exists'.mp hrequest
        cases h.books.nested pc _ hpc hreturned
      have hleft : s.stopsLeft = 0 := by simp [stopsLeft, hrequest, hstopping, hreturned]
      have hstarted := (hback.halted (by omega)).2.2
      have hplaying := hback.silent hleft
      exact SourceRun.eq_idle_of_le ⟨by simp [hstarted], by simp [hplaying]⟩

/-! ## A stop that falls into a rearm -/

section Rearm

variable {setup : ReconnectSetup} {s s' : Reconnecting}

/-- The next statement of the shutdown. -/
theorem main_eq (hrequest : s.request = none) {pc : ShutdownPc} (hpc : s.shutdown = some pc) :
    next setup s .main = s.shutdownStep setup pc := by
  simp only [next, hrequest, hpc, Option.bind_some]

/-- The next statement of the one worker. -/
theorem worker_eq {worker : ReconnectWorker} (hworkers : s.workers = [worker])
    (answer : SourceAnswer) :
    next setup s (.worker 0 answer) = some (s.workerStep setup 0 worker answer) := by
  simp only [next, hworkers, List.getElem?_cons_zero, Option.map_some]

/-- The main thread can go on to the join, with the workers as they are. -/
def Joins (setup : ReconnectSetup) (s : Reconnecting) : Prop :=
  ∃ t, Machine.Reachable (next setup) s t ∧ t.workers = s.workers ∧ t.request = none ∧
    t.shutdown = some .joining

/-- A step before a run that joins. -/
theorem Joins.head {e : Event} (hnext : next setup s e = some s')
    (hworkers : s'.workers = s.workers) (h : s'.Joins setup) : s.Joins setup := by
  obtain ⟨t, hreach, ht, hjoining⟩ := h
  exact ⟨t, hreach.head hnext, ht.trans hworkers, hjoining⟩

/-- From any of its statements the shutdown comes to join. -/
theorem joins_of_pc (hrequest : s.request = none) {pc : ShutdownPc}
    (hpc : s.shutdown = some pc) (hjoined : pc.isJoined = false) : s.Joins setup := by
  have hjoining : ∀ s : Reconnecting, s.request = none → s.shutdown = some .joining →
      s.Joins setup :=
    fun s hrequest hpc => ⟨s, .refl s, rfl, hrequest, hpc⟩
  have hhalted : ∀ s : Reconnecting, s.request = none → s.shutdown = some .halted →
      s.Joins setup :=
    fun s hrequest hpc => .head (main_eq hrequest hpc) rfl (hjoining _ hrequest rfl)
  have hsignalled : ∀ (s : Reconnecting) b, s.request = none →
      s.shutdown = some (.signalled b) → s.Joins setup := fun s b hrequest hpc => by
    cases b with
    | true => exact .head (main_eq hrequest hpc) rfl (hhalted _ hrequest rfl)
    | false => exact .head (main_eq hrequest hpc) rfl (hjoining _ hrequest rfl)
  have hmarked : ∀ (s : Reconnecting) b, s.request = none → s.shutdown = some (.marked b) →
      s.Joins setup :=
    fun s b hrequest hpc => .head (main_eq hrequest hpc) rfl (hsignalled _ b hrequest rfl)
  have hdecided : ∀ (s : Reconnecting) b, s.request = none → s.shutdown = some (.decided b) →
      s.Joins setup :=
    fun s b hrequest hpc => .head (main_eq hrequest hpc) rfl (hmarked _ b hrequest rfl)
  cases pc with
  | entered => exact .head (main_eq hrequest hpc) rfl (hdecided _ _ hrequest rfl)
  | decided b => exact hdecided s b hrequest hpc
  | marked b => exact hmarked s b hrequest hpc
  | signalled b => exact hsignalled s b hrequest hpc
  | halted => exact hhalted s hrequest hpc
  | joining => exact hjoining s hrequest hpc
  | closing => cases hjoined
  | returned => cases hjoined

/-- It does from before it, too. -/
theorem joins_of_idle (hrequest : s.request = none)
    (hjoined : ∀ pc, s.shutdown = some pc → pc.isJoined = false) : s.Joins setup := by
  cases hpc : s.shutdown with
  | some pc => exact joins_of_pc hrequest hpc (hjoined pc hpc)
  | none =>
      have hnext : next setup s .shutdown = some { s with shutdown := some .entered } := by
        rw [next, if_pos ⟨hrequest, hpc⟩]
      exact .head hnext rfl (joins_of_pc hrequest rfl rfl)

/-- The worker can start the source and end. -/
theorem exists_started (setup : ReconnectSetup) {worker : ReconnectWorker}
    (hworkers : s.workers = [worker]) (hrearm : worker.pc.isRearm = true) :
    ∃ t, Machine.Reachable (next setup) s t ∧ t.workers = [] ∧ t.request = s.request ∧
      t.shutdown = s.shutdown ∧ t.source.playing = true := by
  obtain ⟨pc, attempt, backoffS⟩ := worker
  have harming : ∀ s : Reconnecting, s.workers = [⟨.arming, attempt, backoffS⟩] →
      ∃ t, Machine.Reachable (next setup) s t ∧ t.workers = [] ∧ t.request = s.request ∧
        t.shutdown = s.shutdown ∧ t.source.playing = true := fun s hworkers => by
    exact ⟨_, .head (worker_eq hworkers .ok) (.refl _), by simp [workerStep, ends, hworkers],
      rfl, rfl, rfl⟩
  have hstarting : ∀ s : Reconnecting, s.workers = [⟨.starting, attempt, backoffS⟩] →
      ∃ t, Machine.Reachable (next setup) s t ∧ t.workers = [] ∧ t.request = s.request ∧
        t.shutdown = s.shutdown ∧ t.source.playing = true := fun s hworkers => by
    obtain ⟨t, hreach, ht⟩ := harming
      (s.workerStep setup 0 ⟨.starting, attempt, backoffS⟩ .ok)
      (by simp [workerStep, goesOn, hworkers])
    exact ⟨t, .head (worker_eq hworkers .ok) hreach, ht⟩
  cases pc with
  | arming => exact harming s hworkers
  | starting => exact hstarting s hworkers
  | rearming =>
      obtain ⟨t, hreach, ht⟩ := hstarting
        (s.workerStep setup 0 ⟨.rearming, attempt, backoffS⟩ .ok)
        (by simp [workerStep, goesOn, hworkers])
      exact ⟨t, .head (worker_eq hworkers .ok) hreach, ht⟩
  | _ => cases hrearm

/-- A stop that falls into a rearm can leave the source started. -/
theorem breaks_of_rearm {e : Event} (h : s.Inv setup) (hnext : next setup s e = some s')
    (hout : ¬ s.OutOfRearm setup e) :
    ∃ t, Machine.Reachable (next setup) s' t ∧ ¬ t.HandsBack := by
  cases e with
  | watchdog disconnected => exact absurd trivial hout
  | requestStop => exact absurd trivial hout
  | shutdown => exact absurd trivial hout
  | worker i answer => exact absurd trivial hout
  | main =>
      simp only [OutOfRearm, Classical.not_imp, not_or, Bool.not_eq_true, Bool.not_eq_false] at hout
      obtain ⟨hstops, hsource, hrearms⟩ := hout
      obtain ⟨worker, hmem, hrearm⟩ := List.any_eq_true.mp hrearms
      obtain ⟨i, hi⟩ := List.mem_iff_getElem?.mp hmem
      obtain ⟨-, hworkers⟩ := h.books.only hi
      -- the main thread goes on to the join
      have hjoins : s'.Joins setup ∧ s'.workers = s.workers := by
        have hnotJoined : ∀ pc, s.shutdown = some pc → pc.isJoined = false := by
          intro pc hpc
          by_contra hjoined
          have hnone := h.books.joined pc hpc (by simpa using hjoined)
          rw [hworkers] at hnone
          cases hnone
        cases hrequest : s.request with
        | some pc =>
            simp only [next, hrequest, Option.some.injEq] at hnext
            subst hnext
            cases pc with
            | entered => simp [stopsNext, hrequest] at hstops
            | marked => simp [stopsNext, hrequest] at hstops
            | signalled =>
                have hsilence : next setup (s.requestStep .signalled) .main =
                    some ((s.requestStep .signalled).requestStep .halted) := rfl
                exact ⟨.head hsilence rfl (joins_of_idle rfl hnotJoined), rfl⟩
            | halted => exact ⟨joins_of_idle rfl hnotJoined, rfl⟩
        | none =>
            cases hpc : s.shutdown with
            | none => simp [stopsNext, hrequest, hpc] at hstops
            | some pc =>
                rw [main_eq hrequest hpc] at hnext
                cases pc with
                | signalled stopSource =>
                    cases stopSource with
                    | true =>
                        cases hnext
                        exact ⟨joins_of_pc hrequest rfl rfl, rfl⟩
                    | false => simp [stopsNext, hrequest, hpc] at hstops
                | halted =>
                    cases hnext
                    exact ⟨joins_of_pc hrequest rfl rfl, rfl⟩
                | _ => simp [stopsNext, hrequest, hpc] at hstops
      obtain ⟨⟨t, hreach, htworkers, hrequest, hjoining⟩, hsame⟩ := hjoins
      -- the worker starts the source and ends
      obtain ⟨u, hreach', huworkers, hurequest, hushutdown, hplaying⟩ :=
        exists_started setup (htworkers.trans (hsame.trans hworkers)) hrearm
      -- the join, and a `close` that does nothing
      have hjoin : next setup u .main = some { u with shutdown := some .closing } := by
        rw [main_eq (hurequest.trans hrequest) (hushutdown.trans hjoining), shutdownStep,
          if_pos huworkers]
      have hclose : next setup { u with shutdown := some .closing } .main =
          some { u with shutdown := some .returned } := by
        have hidle : Reconnecting.request { u with shutdown := some .closing } = none :=
          hurequest.trans hrequest
        rw [main_eq hidle rfl, shutdownStep, close, if_neg (by simp [hsource])]
      refine ⟨_, hreach.trans (hreach'.trans (.head hjoin (.head hclose (.refl _)))), ?_⟩
      intro hback
      have hidle : u.source = .idle := hback.released rfl
      rw [hidle] at hplaying
      cases hplaying

end Rearm

/-- **The device is handed back** in every run in which the main thread stops no source that
is about to be started; the first such stop can leave it started. -/
theorem handsBack_run (setup : ReconnectSetup) (source : SourceRun) {events : List Event}
    {s : Reconnecting} (hrun : Machine.exec (next setup) (running source) events = some s)
    (hout : Machine.Along (next setup) (OutOfRearm setup) (running source) events) :
    s.HandsBack ∧ ∀ e s', next setup s e = some s' → ¬ s.OutOfRearm setup e →
      ∃ t, Machine.Reachable (next setup) s' t ∧ ¬ t.HandsBack :=
  have h : s.Inv setup := Machine.exec_inv_along (fun _ _ _ h hout hnext => inv_next h hout hnext)
    (inv_running setup source) hout hrun
  ⟨h.handsBack, fun _ _ hnext hin => breaks_of_rearm h hnext hin⟩

/-- One worker, and a flag that is right, need no condition. -/
theorem oneWorker_run (setup : ReconnectSetup) (source : SourceRun) {events : List Event}
    {s : Reconnecting} (hrun : Machine.exec (next setup) (running source) events = some s) :
    s.workers.length ≤ 1 ∧ (s.reconnecting = true ↔ s.workers ≠ []) :=
  have h : s.Books := Machine.exec_inv (fun _ _ _ h hnext => books_next h hnext)
    (inv_running setup source).books hrun
  ⟨h.one, h.flag⟩

/-! ## Two runs -/

/-- An RTSP camera with a reconnect. -/
def rtspSetup : ReconnectSetup :=
  { source := .rtsp, reconnectEnabled := true, backoffS := 1, backoffMaxS := 30 }

/-- A reconnect up to its look at `_stopping`. -/
def reopens : List Event :=
  .watchdog true :: List.replicate 4 (.worker 0 .ok)

/-- A stop while the worker waits, after an attempt that has failed. -/
theorem handsBack_backoff :
    ∃ s, Machine.exec (next rtspSetup) (running ⟨true, true⟩)
        ([.watchdog true, .worker 0 .ok, .worker 0 .ok, .worker 0 .ok, .worker 0 (.raises false),
          .requestStop] ++ List.replicate 4 .main ++ [.worker 0 .ok, .shutdown] ++
          List.replicate 6 .main) = some s ∧ s.shutdown = some .returned ∧ s.HandsBack := by
  have hrun : (Machine.exec (next rtspSetup) (running ⟨true, true⟩)
      ([.watchdog true, .worker 0 .ok, .worker 0 .ok, .worker 0 .ok, .worker 0 (.raises false),
        .requestStop] ++ List.replicate 4 .main ++ [.worker 0 .ok, .shutdown] ++
        List.replicate 6 .main)).map Reconnecting.shutdown = some (some .returned) := by
    decide +kernel
  obtain ⟨s, hs, hreturned⟩ := Option.map_eq_some_iff.mp hrun
  exact ⟨s, hs, hreturned,
    (handsBack_run rtspSetup ⟨true, true⟩ hs (by decide +kernel)).1⟩

/-- The stop falls between the look at `_stopping` and `start`. -/
theorem not_handsBack :
    ∃ s, Machine.exec (next rtspSetup) (running ⟨true, true⟩)
        (reopens ++ [.worker 0 .ok, .requestStop] ++ List.replicate 4 .main ++
          List.replicate 3 (.worker 0 .ok) ++ [.shutdown] ++ List.replicate 6 .main) = some s ∧
      s.shutdown = some .returned ∧ s.source = ⟨true, true⟩ ∧ ¬ s.HandsBack := by
  have hrun : (Machine.exec (next rtspSetup) (running ⟨true, true⟩)
      (reopens ++ [.worker 0 .ok, .requestStop] ++ List.replicate 4 .main ++
        List.replicate 3 (.worker 0 .ok) ++ [.shutdown] ++ List.replicate 6 .main)).map
        (fun s => (s.shutdown, s.source)) = some (some .returned, ⟨true, true⟩) := by
    decide +kernel
  obtain ⟨s, hs, hfacts⟩ := Option.map_eq_some_iff.mp hrun
  rw [Prod.mk.injEq] at hfacts
  refine ⟨s, hs, hfacts.1, hfacts.2, fun hback => ?_⟩
  have hidle := hback.released hfacts.1
  rw [hfacts.2] at hidle
  cases hidle

end Reconnecting

end CamDriver
