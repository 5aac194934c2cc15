import CamDriver.PlaybackRequest

/-!
# CamDriver.GateRace

The start gate between the threads: the timer thread in `_fire_gate`, operators in `request`
or `cancel_start_gate`, and the source.

Statements outside the lock are steps of their own, and a locked part is one step.  An
operator disarms the gate before anything else, so a call that has returned before the timer
thread tests the flag keeps the gate closed.  One that returns between the test and the lock
of the gate's own resume does not (`GateAt.InWindow`).
-/

namespace CamDriver

/-! ## Threads -/

/-- The statement the timer thread comes to: of the timer itself, of `_fire_gate`, of its
`request("resume")`. -/
inductive GateAt where
  | timer | test | clear | look | request | lock | done
deriving DecidableEq, Repr

/-- The test has found the gate armed, and the resume has not had the lock. -/
def GateAt.InWindow : GateAt → Prop
  | .clear | .look | .request | .lock => True
  | .timer | .test | .done => False

/-- A call of an operator's thread. -/
inductive GateCall where
  | request (op : String) (params : PlaybackParams)
  | cancel

/-- Where such a thread stands in its call. -/
inductive CallAt where
  | idle
  /-- before it disarms the gate -/
  | enter (call : GateCall)
  | lock (op : String) (params : PlaybackParams)
  | hook
  | await
  | cancelTimer
  | leave

/-- The call has disarmed the gate. -/
def CallAt.Disarmed : CallAt → Prop
  | .idle | .enter _ => False
  | .lock _ _ | .hook | .await | .cancelTimer | .leave => True

/-- The playback, its source and the threads; `cancelled`: the timer's own event is set. -/
structure GateRace where
  control : PlaybackControl
  source : PlaybackSource
  gate : GateAt
  cancelled : Bool
  threads : Nat → CallAt

inductive GateLabel where
  | gate (env : RequestEnv)
  | call (t : Nat) (call : GateCall)
  | advance (t : Nat) (env : RequestEnv) (renv : RestartEnv)
  | leave (t : Nat)
  | source (event : PlaybackEvent)

/-- What the source's own threads do. -/
def PlaybackEvent.OfSource : PlaybackEvent → Prop
  | .request .. | .fireGate | .gateResume .. | .cancelGate => False
  | _ => True

instance (event : PlaybackEvent) : Decidable event.OfSource :=
  match event with
  | .request .. | .fireGate | .gateResume .. | .cancelGate => isFalse id
  | .noteFrame .. | .nextCycle _ | .takePreroll | .takeRestart | .waitIfPaused _
  | .markFinished .. | .pacerMoves _ | .pcapMoves .. | .replayMoves _ => isTrue trivial

/-- `self._gate_armed = False`. -/
def PlaybackControl.disarm (c : PlaybackControl) : PlaybackControl := { c with gateArmed := false }

namespace GateRace

/-- A thread comes to another statement. -/
def moveTo (s : GateRace) (t : Nat) (pc : CallAt) : GateRace :=
  { s with threads := Function.update s.threads t pc }

/-- The timer thread. -/
def gateStep (py : Builtins) (env : RequestEnv) (s : GateRace) : Option GateRace :=
  match s.gate with
  | .timer => some { s with gate := if s.cancelled then .done else .test }
  | .test => some { s with gate := if s.control.gateArmed then .clear else .done }
  | .clear => some { s with control := s.control.disarm, gate := .look }
  | .look => some { s with gate := if s.control.state = .paused then .request else .done }
  | .request => some { s with control := s.control.disarm, gate := .lock }
  | .lock => some { s with control := (s.control.locked py env "resume" .none).1, gate := .done }
  | .done => none

/-- An operator's thread. -/
def callStep (py : Builtins) (t : Nat) (env : RequestEnv) (renv : RestartEnv) (s : GateRace) :
    Option GateRace :=
  match s.threads t with
  | .idle | .leave => none
  | .enter (.request op params) =>
    some ({ s with control := s.control.disarm }.moveTo t (.lock op params))
  | .enter .cancel => some ({ s with control := s.control.disarm }.moveTo t .cancelTimer)
  | .cancelTimer => some ({ s with cancelled := true }.moveTo t .leave)
  | .lock op params =>
    match s.control.locked py env op params with
    | (c, .proceeds) =>
      some ({ s with control := c }.moveTo t (if op = "restart" then .hook else .leave))
    | (c, .replies _) | (c, .raises) => some ({ s with control := c }.moveTo t .leave)
  | .hook =>
    match s.source with
    | .pcap _ _ => some (s.moveTo t .await)
    | .replay cfg side =>
      match side.restart cfg renv s.control with
      | ((c, side), none) =>
        some ({ s with control := c, source := .replay cfg side }.moveTo t .await)
      | ((c, side), some error) =>
        let c := { c with restartPending := false, lastError := some ("restart failed: " ++ error) }
        some ({ s with control := c, source := .replay cfg side }.moveTo t .leave)
  | .await => some ({ s with control := (s.control.awaitTaken env).1 }.moveTo t .leave)

/-- One step of one thread. -/
def next (py : Builtins) (s : GateRace) : GateLabel → Option GateRace
  | .gate env => s.gateStep py env
  | .call t call =>
    match s.threads t with
    | .idle => some (s.moveTo t (.enter call))
    | _ => none
  | .advance t env renv => s.callStep py t env renv
  | .leave t =>
    match s.threads t with
    | .leave => some (s.moveTo t .idle)
    | _ => none
  | .source event =>
    if event.OfSource then
      (event.next py (s.control, s.source)).map fun r => { s with control := r.1, source := r.2 }
    else none

/-- A playback held at boot, with an armed gate. -/
def start (setup : PlaybackSetup) : GateRace :=
  let boot := { setup with paused := true, gateArmed := true }.start
  { control := boot.1, source := boot.2, gate := .timer, cancelled := false,
    threads := fun _ => .idle }

end GateRace

/-! ## What one step can do -/

/-- A restart leaves the state and the gate as they are. -/
theorem keeps_restart (cfg : PacedReplayConfig) (renv : RestartEnv) (c : PlaybackControl)
    (side : ReplaySide) :
    (side.restart cfg renv c).1.1.state = c.state ∧
      (side.restart cfg renv c).1.1.gateArmed = c.gateArmed := by
  simp only [ReplaySide.restart]
  split
  · split <;> exact ⟨rfl, rfl⟩
  · exact ⟨rfl, rfl⟩

/-- An op leaves the gate to the request around it. -/
theorem gateArmed_apply (py : Builtins) (env : RequestEnv) (params : PlaybackParams)
    (cur : PlayState) (c : PlaybackControl) (op : PlaybackOp) :
    (c.apply py env params cur op).1.gateArmed = c.gateArmed := by
  cases op with
  | pause =>
      simp only [PlaybackControl.apply]
      split <;> rfl
  | resume =>
      simp only [PlaybackControl.apply]
      split
      · rfl
      · split <;> rfl
  | setSpeed =>
      simp only [PlaybackControl.apply]
      split
      · rfl
      · rfl
      · split
        · rfl
        · split <;> rfl
  | setLoop =>
      simp only [PlaybackControl.apply]
      split
      · split <;> rfl
      · rfl
  | restart => rfl

/-- A request under the lock disarms the gate. -/
theorem gateArmed_locked (py : Builtins) (env : RequestEnv) (op : String)
    (params : PlaybackParams) (c : PlaybackControl) :
    (c.locked py env op params).1.gateArmed = false := by
  simp only [PlaybackControl.locked]
  split
  · rfl
  · split
    · split
      · rw [gateArmed_apply]
      · rfl
    · rw [gateArmed_apply]

/-- The gate's resume plays a paused playback. -/
theorem state_locked_resume {py : Builtins} {env : RequestEnv} {c : PlaybackControl}
    (h : c.state = .paused) : (c.locked py env "resume" .none).1.state = .playing := by
  simp only [PlaybackControl.locked, PlaybackOp.ofString, h, PlaybackControl.apply, reduceCtorEq,
    if_false]
  split <;> rfl

/-- It does nothing else to a playback, but disarm the gate. -/
theorem locked_resume {py : Builtins} {env : RequestEnv} {c : PlaybackControl}
    (h : c.state ≠ .paused) : (c.locked py env "resume" .none).1 = c.disarm := by
  simp only [PlaybackControl.locked, PlaybackOp.ofString]
  cases hstate : c.state with
  | playing => simp [PlaybackControl.apply, PlaybackControl.disarm, hstate]
  | paused => exact absurd hstate h
  | finished => simp [PlaybackControl.disarm, hstate]

/-- The source's threads leave the gate alone, and the state but for its end. -/
theorem keeps_source {py : Builtins} {event : PlaybackEvent} (hsource : event.OfSource)
    {c c' : PlaybackControl} {src src' : PlaybackSource}
    (h : event.next py (c, src) = some (c', src')) :
    c'.gateArmed = c.gateArmed ∧
      (c'.state = c.state ∨ ∃ clock error, event = .markFinished clock error) := by
  cases event with
  | request | fireGate | gateResume | cancelGate => exact absurd hsource id
  | noteFrame | takePreroll | takeRestart =>
      cases h
      exact ⟨rfl, .inl rfl⟩
  | nextCycle renv =>
      simp only [PlaybackEvent.next, Option.some.injEq] at h
      cases src with
      | pcap finished failed =>
          cases h
          exact ⟨rfl, .inl rfl⟩
      | replay cfg side =>
          have hkeeps := keeps_restart cfg renv c side
          simp only [CamDriver.nextCycle] at h
          split at h
          · next hr =>
              cases h
              rw [hr] at hkeeps
              exact ⟨hkeeps.2, .inl hkeeps.1⟩
          · next hr =>
              cases h
              rw [hr] at hkeeps
              exact ⟨hkeeps.2, .inl hkeeps.1⟩
  | waitIfPaused cancel =>
      simp only [PlaybackEvent.next, Option.map_eq_some_iff] at h
      obtain ⟨r, hr, heq⟩ := h
      cases heq
      have hlook : c.toPlaybackState.waitIfPaused cancel = some (r.1, r.2) := hr
      rcases waitIfPaused_eq_some hlook with h | h
      · rw [h]
        exact ⟨rfl, .inl rfl⟩
      · rw [h]
        exact ⟨rfl, .inl rfl⟩
  | markFinished clock error =>
      simp only [PlaybackEvent.next] at h
      split at h <;> cases h
      · exact ⟨rfl, .inl rfl⟩
      · exact ⟨rfl, .inr ⟨clock, error, rfl⟩⟩
  | pacerMoves pacer =>
      simp only [PlaybackEvent.next, Option.ite_none_right_eq_some] at h
      cases h.2
      exact ⟨rfl, .inl rfl⟩
  | pcapMoves finished failed =>
      cases src with
      | pcap _ _ =>
          cases h
          exact ⟨rfl, .inl rfl⟩
      | replay _ _ => cases h
  | replayMoves side =>
      cases src with
      | pcap _ _ => cases h
      | replay _ _ =>
          simp only [PlaybackEvent.next, Option.ite_none_right_eq_some] at h
          cases h.2
          exact ⟨rfl, .inl rfl⟩

namespace GateRace

/-- A step of an operator's thread. -/
theorem callStep_cases {py : Builtins} {t : Nat} {env : RequestEnv} {renv : RestartEnv}
    {s s' : GateRace} (h : s.callStep py t env renv = some s') :
    ∃ (s₁ : GateRace) (pc : CallAt), s' = s₁.moveTo t pc ∧ s₁.threads = s.threads ∧
      s₁.gate = s.gate ∧
      (s₁.control.gateArmed = false ∨
        (s.threads t).Disarmed ∧ s₁.control.gateArmed = s.control.gateArmed) := by
  unfold callStep at h
  split at h
  · cases h
  · cases h
  · next hat =>
      cases h
      exact ⟨_, _, rfl, rfl, rfl, .inl rfl⟩
  · next hat =>
      cases h
      exact ⟨_, _, rfl, rfl, rfl, .inl rfl⟩
  · next hat =>
      cases h
      exact ⟨_, _, rfl, rfl, rfl, .inr ⟨by simp [hat, CallAt.Disarmed], rfl⟩⟩
  · next op params hat =>
      have harmed := gateArmed_locked py env op params s.control
      split at h
      · next hlocked =>
          cases h
          rw [hlocked] at harmed
          exact ⟨_, _, rfl, rfl, rfl, .inl harmed⟩
      · next hlocked =>
          cases h
          rw [hlocked] at harmed
          exact ⟨_, _, rfl, rfl, rfl, .inl harmed⟩
      · next hlocked =>
          cases h
          rw [hlocked] at harmed
          exact ⟨_, _, rfl, rfl, rfl, .inl harmed⟩
  · next hat =>
      have hdis : (s.threads t).Disarmed := by simp [hat, CallAt.Disarmed]
      split at h
      · cases h
        exact ⟨_, _, rfl, rfl, rfl, .inr ⟨hdis, rfl⟩⟩
      · next cfg side _ =>
          have hkeeps := (keeps_restart cfg renv s.control side).2
          split at h
          · next hr =>
              cases h
              rw [hr] at hkeeps
              exact ⟨_, _, rfl, rfl, rfl, .inr ⟨hdis, hkeeps⟩⟩
          · next hr =>
              cases h
              rw [hr] at hkeeps
              exact ⟨_, _, rfl, rfl, rfl, .inr ⟨hdis, hkeeps⟩⟩
  · next hat =>
      cases h
      exact ⟨_, _, rfl, rfl, rfl, .inr ⟨by simp [hat, CallAt.Disarmed], rfl⟩⟩

/-- Who has called has disarmed the gate. -/
def CallsDisarm (s : GateRace) : Prop :=
  ∀ t, (s.threads t).Disarmed → s.control.gateArmed = false

/-- To move one thread leaves the others where they are. -/
theorem threads_moveTo (s : GateRace) (t u : Nat) (pc : CallAt) :
    (s.moveTo t pc).threads u = if u = t then pc else s.threads u := by
  simp [moveTo, Function.update_apply]

/-- A step of the timer thread. -/
theorem gateStep_cases {py : Builtins} {env : RequestEnv} {s s' : GateRace}
    (h : s.gateStep py env = some s') : s'.threads = s.threads ∧
      (s'.control.gateArmed = true → s.control.gateArmed = true) ∧
      (s'.gate.InWindow → s.gate.InWindow ∨ s.gate = .test ∧ s.control.gateArmed = true) := by
  unfold gateStep at h
  split at h
  · cases h
    refine ⟨rfl, id, fun hin => ?_⟩
    split at hin <;> exact absurd hin id
  · next hat =>
      cases h
      refine ⟨rfl, id, fun hin => .inr ⟨hat, ?_⟩⟩
      by_contra harmed
      rw [if_neg harmed] at hin
      exact hin
  · next hat =>
      cases h
      exact ⟨rfl, fun harmed => absurd harmed (by simp [PlaybackControl.disarm]),
        fun _ => .inl (by simp [hat, GateAt.InWindow])⟩
  · next hat =>
      cases h
      exact ⟨rfl, id, fun _ => .inl (by simp [hat, GateAt.InWindow])⟩
  · next hat =>
      cases h
      exact ⟨rfl, fun harmed => absurd harmed (by simp [PlaybackControl.disarm]),
        fun _ => .inl (by simp [hat, GateAt.InWindow])⟩
  · next hat =>
      cases h
      exact ⟨rfl, fun harmed => absurd harmed (by simp [gateArmed_locked]),
        fun _ => .inl (by simp [hat, GateAt.InWindow])⟩
  · cases h

/-- A step of any other thread. -/
theorem next_aside {py : Builtins} {s s' : GateRace} {l : GateLabel}
    (hl : ∀ env, l ≠ .gate env) (h : s.next py l = some s') : s'.gate = s.gate ∧
      (s'.control.gateArmed = true → s.control.gateArmed = true) ∧
      (s.CallsDisarm → s'.CallsDisarm) := by
  cases l with
  | gate env => exact absurd rfl (hl env)
  | call t call =>
      simp only [next] at h
      split at h
      · cases h
        refine ⟨rfl, id, fun hcalls u hu => hcalls u ?_⟩
        rw [threads_moveTo] at hu
        split at hu
        · exact absurd hu id
        · exact hu
      · cases h
  | advance t env renv =>
      obtain ⟨s₁, pc, rfl, hthreads, hgate, harmed⟩ := callStep_cases h
      refine ⟨hgate, ?_, fun hcalls u hu => ?_⟩
      · rcases harmed with harmed | ⟨-, harmed⟩
        · exact fun h => absurd (harmed.symm.trans h) (by decide)
        · exact fun h => harmed ▸ h
      · rcases harmed with harmed | ⟨hdis, harmed⟩
        · exact harmed
        · exact harmed.trans (hcalls t hdis)
  | leave t =>
      simp only [next] at h
      split at h
      · cases h
        refine ⟨rfl, id, fun hcalls u hu => hcalls u ?_⟩
        rw [threads_moveTo] at hu
        split at hu
        · exact absurd hu id
        · exact hu
      · cases h
  | source event =>
      simp only [next, Option.ite_none_right_eq_some, Option.map_eq_some_iff] at h
      obtain ⟨hsource, ⟨c', src'⟩, hr, heq⟩ := h
      cases heq
      have harmed := (keeps_source hsource hr).1
      exact ⟨rfl, fun h => harmed ▸ h, fun hcalls u hu => harmed.trans (hcalls u hu)⟩

/-! ## Runs -/

/-- Once a call has returned, the timer thread changes nothing in the playback. -/
def Yields (py : Builtins) (s₀ : GateRace) (labels : List GateLabel) : Prop :=
  ∀ pre env post s s', labels = pre ++ .gate env :: post →
    Machine.exec (next py) s₀ pre = some s → s.next py (.gate env) = some s' →
    (∃ t, .leave t ∈ pre) → s'.control = s.control

/-- The resumes of the timer thread that find the playback paused. -/
def releases (py : Builtins) : GateRace → List GateLabel → Nat
  | _, [] => 0
  | s, l :: labels =>
    match s.next py l with
    | none => 0
    | some s' =>
      match l with
      | .gate _ =>
        releases py s' labels + if s.gate = .lock ∧ s.control.state = .paused then 1 else 0
      | _ => releases py s' labels

/-- No call begins, and the source does not end the playback. -/
def Quiet : GateLabel → Prop
  | .call .. | .source (.markFinished ..) => False
  | _ => True

/-- If no call begins before the timer thread is done, it releases the playback once. -/
def ReleasesOnce (py : Builtins) (s₀ : GateRace) (labels : List GateLabel) : Prop :=
  ∀ pre post s, labels = pre ++ post → Machine.exec (next py) s₀ pre = some s → s.gate = .done →
    (∀ l ∈ pre, Quiet l) → releases py s₀ labels = 1

/-- Where the resume of the timer thread finds the playback paused, no call has returned while
that thread was between its test and the lock. -/
def Undisturbed (py : Builtins) (s₀ : GateRace) (labels : List GateLabel) : Prop :=
  ∀ pre env post s, labels = pre ++ .gate env :: post →
    Machine.exec (next py) s₀ pre = some s → s.gate = .lock → s.control.state = .paused →
    Machine.Along (next py) (fun s l => (∃ t, l = .leave t) → ¬ s.gate.InWindow) s₀ pre

/-- What a run leaves behind: calls have disarmed the gate, and those that have returned found
the timer thread in the window, if it is there. -/
structure Raced (py : Builtins) (s₀ : GateRace) (labels : List GateLabel) (s : GateRace) :
    Prop where
  calls : s.CallsDisarm
  returned : (∃ t, .leave t ∈ labels) → s.control.gateArmed = false
  window : s.gate.InWindow →
    Machine.Along (next py) (fun s l => (∃ t, l = .leave t) → s.gate.InWindow) s₀ labels

/-- One step more keeps what a run leaves behind. -/
theorem raced_concat {py : Builtins} {s₀ s s' : GateRace} {labels : List GateLabel}
    {l : GateLabel} (hrun : Machine.exec (next py) s₀ labels = some s)
    (h : Raced py s₀ labels s) (hs : s.next py l = some s') : Raced py s₀ (labels ++ [l]) s' := by
  have hdis (t : Nat) (hl : l = .leave t) : (s.threads t).Disarmed := by
    subst hl
    simp only [next] at hs
    split at hs
    · next hat => simp [hat, CallAt.Disarmed]
    · cases hs
  have hnone (harmed : s.control.gateArmed = true) (hl : ∀ t, l ≠ .leave t) :
      Machine.Along (next py) (fun s l => (∃ t, l = .leave t) → s.gate.InWindow) s₀
        (labels ++ [l]) := by
    rw [Machine.along_iff]
    rintro before _ after t hsplit - ⟨u, rfl⟩
    have hmem : GateLabel.leave u ∈ labels ++ [l] := by simp [hsplit]
    rcases List.mem_append.mp hmem with hmem | hmem
    · rw [h.returned ⟨u, hmem⟩] at harmed
      cases harmed
    · exact absurd (List.mem_singleton.mp hmem).symm (hl u)
  by_cases hl : ∃ env, l = .gate env
  · obtain ⟨env, rfl⟩ := hl
    have hstep : s.gateStep py env = some s' := hs
    obtain ⟨hthreads, harmed, hwindow⟩ := gateStep_cases hstep
    have hoff (hoff : s.control.gateArmed = false) : s'.control.gateArmed = false :=
      Bool.eq_false_iff.mpr fun hon => by
        rw [harmed hon] at hoff
        cases hoff
    refine ⟨fun t ht => hoff (h.calls t (hthreads ▸ ht)), ?_, fun hin => ?_⟩
    · rintro ⟨t, ht⟩
      refine hoff (h.returned ⟨t, ?_⟩)
      simpa using ht
    · rcases hwindow hin with hin | ⟨-, hon⟩
      · rw [Machine.along_concat hrun]
        refine ⟨h.window hin, ?_⟩
        rintro ⟨t, ht⟩
        cases ht
      · exact hnone hon (by simp)
  · rw [not_exists] at hl
    obtain ⟨hgate, harmed, hcalls⟩ := next_aside hl hs
    refine ⟨hcalls h.calls, ?_, fun hin => ?_⟩
    · rintro ⟨t, ht⟩
      refine Bool.eq_false_iff.mpr fun hon => ?_
      have hoff : s.control.gateArmed = false := by
        rcases List.mem_append.mp ht with ht | ht
        · exact h.returned ⟨t, ht⟩
        · exact h.calls t (hdis t (List.mem_singleton.mp ht).symm)
      rw [harmed hon] at hoff
      cases hoff
    · rw [hgate] at hin
      rw [Machine.along_concat hrun]
      exact ⟨h.window hin, fun _ => hin⟩

/-- Every run leaves this behind. -/
theorem raced_of_exec {py : Builtins} {setup : PlaybackSetup} {labels : List GateLabel}
    {s : GateRace} (h : Machine.exec (next py) (start setup) labels = some s) :
    Raced py (start setup) labels s := by
  have hstart : Raced py (start setup) [] (start setup) := by
    refine ⟨fun t ht => absurd ht id, ?_, fun _ => trivial⟩
    rintro ⟨t, ht⟩
    cases ht
  refine Machine.exec_inv_history hstart ?_ h
  exact fun _ _ _ _ hrun hraced hs => raced_concat hrun hraced hs

/-- The timer thread changes the playback of a disarmed gate by its resume alone. -/
theorem control_gateStep {py : Builtins} {env : RequestEnv} {s s' : GateRace}
    (h : s.gateStep py env = some s') (harmed : s.control.gateArmed = false)
    (hstate : s.gate = .lock → s.control.state ≠ .paused) : s'.control = s.control := by
  have hdisarm : s.control.disarm = s.control := by
    rw [PlaybackControl.disarm, ← harmed]
  unfold gateStep at h
  split at h
  · cases h
    rfl
  · cases h
    rfl
  · cases h
    exact hdisarm
  · cases h
    rfl
  · cases h
    exact hdisarm
  · next hat =>
      cases h
      exact (locked_resume (hstate hat)).trans hdisarm
  · cases h

/-- The timer thread yields to the calls in the undisturbed runs, and in no other. -/
theorem yields_iff_undisturbed (py : Builtins) (setup : PlaybackSetup)
    (labels : List GateLabel) :
    Yields py (start setup) labels ↔ Undisturbed py (start setup) labels := by
  constructor
  · intro h pre env post s hsplit hrun hat hpaused
    have hnone : ¬ ∃ t, .leave t ∈ pre := by
      intro hret
      have hs : s.next py (.gate env) =
          some { s with control := (s.control.locked py env "resume" .none).1, gate := .done } := by
        simp only [next, gateStep, hat]
      have hsame := congrArg (·.state) (h pre env post s _ hsplit hrun hs hret)
      simp only [state_locked_resume hpaused, hpaused] at hsame
      cases hsame
    rw [Machine.along_iff]
    rintro before _ after t hpre - ⟨u, rfl⟩
    exact absurd ⟨u, by simp [hpre]⟩ hnone
  · intro h pre env post s s' hsplit hrun hs hret
    have hraced := raced_of_exec hrun
    refine control_gateStep hs (hraced.returned hret) fun hat hpaused => ?_
    have hin : s.gate.InWindow := by simp [hat, GateAt.InWindow]
    obtain ⟨t, ht⟩ := hret
    obtain ⟨before, after, rfl⟩ := List.append_of_mem ht
    rw [Machine.exec_append, Option.bind_eq_some_iff] at hrun
    obtain ⟨u, hu, hrest⟩ := hrun
    have hwhole : Machine.exec (next py) (start setup) (before ++ .leave t :: after) = some s := by
      rw [Machine.exec_append, hu, Option.bind_some, hrest]
    have hout := Machine.along_iff.mp (h _ env post s hsplit hwhole hat hpaused) before _ after u
      rfl hu
    exact hout ⟨t, rfl⟩
      (Machine.along_iff.mp (hraced.window hin) before _ after u rfl hu ⟨t, rfl⟩)

/-! ## The release -/

/-- No call has begun, and the timer thread is on its way to the release. -/
structure OnItsWay (s : GateRace) : Prop where
  threads : ∀ t, s.threads t = .idle
  cancelled : s.cancelled = false
  paused : s.gate ≠ .done → s.control.state = .paused
  armed : s.gate = .timer ∨ s.gate = .test → s.control.gateArmed = true

/-- A quiet step leaves the gate on its way. -/
theorem onItsWay_next {py : Builtins} {s s' : GateRace} {l : GateLabel} (h : OnItsWay s)
    (hl : Quiet l) (hs : s.next py l = some s') : OnItsWay s' := by
  cases l with
  | gate env =>
      simp only [next] at hs
      unfold gateStep at hs
      split at hs
      · next hat =>
          cases hs
          have hpaused := h.paused (by simp [hat])
          have harmed := h.armed (.inl hat)
          exact ⟨h.threads, h.cancelled, fun _ => hpaused, fun _ => harmed⟩
      · next hat =>
          cases hs
          have hpaused := h.paused (by simp [hat])
          exact ⟨h.threads, h.cancelled, fun _ => hpaused, by simp [h.armed (.inr hat)]⟩
      · next hat =>
          cases hs
          exact ⟨h.threads, h.cancelled, fun _ => h.paused (by simp [hat]), by simp⟩
      · next hat =>
          cases hs
          have hpaused := h.paused (by simp [hat])
          exact ⟨h.threads, h.cancelled, fun _ => hpaused, by simp [hpaused]⟩
      · next hat =>
          cases hs
          exact ⟨h.threads, h.cancelled, fun _ => h.paused (by simp [hat]), by simp⟩
      · cases hs
        exact ⟨h.threads, h.cancelled, by simp, by simp⟩
      · cases hs
  | call t call => exact absurd hl id
  | advance t env renv =>
      simp only [next, callStep, h.threads t] at hs
      cases hs
  | leave t =>
      simp only [next, h.threads t] at hs
      cases hs
  | source event =>
      simp only [next, Option.ite_none_right_eq_some, Option.map_eq_some_iff] at hs
      obtain ⟨hsource, ⟨c', src'⟩, hr, heq⟩ := hs
      cases heq
      obtain ⟨harmed, hstate⟩ := keeps_source hsource hr
      have hkept : c'.state = s.control.state := by
        rcases hstate with hstate | ⟨clock, error, rfl⟩
        · exact hstate
        · exact absurd hl id
      exact ⟨h.threads, h.cancelled, fun hne => hkept.trans (h.paused hne),
        fun hat => harmed.trans (h.armed hat)⟩

/-- The timer thread leaves itself done only at the lock. -/
theorem done_of_next {py : Builtins} {s s' : GateRace} {l : GateLabel} (h : OnItsWay s)
    (hne : s.gate ≠ .done) (hs : s.next py l = some s') (hdone : s'.gate = .done) :
    s.gate = .lock ∧ s.control.state = .paused ∧ ∃ env, l = .gate env := by
  by_cases hl : ∃ env, l = .gate env
  · obtain ⟨env, rfl⟩ := hl
    refine ⟨?_, h.paused hne, env, rfl⟩
    simp only [next, gateStep] at hs
    split at hs
    · cases hs
      simp [h.cancelled] at hdone
    · next hat =>
        cases hs
        simp [h.armed (.inr hat)] at hdone
    · cases hs
      cases hdone
    · next hat =>
        cases hs
        simp [h.paused (by simp [hat])] at hdone
    · cases hs
      cases hdone
    · next hat => exact hat
    · cases hs
  · rw [not_exists] at hl
    exact absurd ((next_aside hl hs).1.symm.trans hdone) hne

/-- A gate that is done releases nothing more. -/
theorem releases_of_done {py : Builtins} {s : GateRace} (h : s.gate = .done)
    (labels : List GateLabel) : releases py s labels = 0 := by
  induction labels generalizing s with
  | nil => rfl
  | cons l labels ih =>
      cases hs : s.next py l with
      | none => simp only [releases, hs]
      | some s' =>
          cases l with
          | gate env =>
              simp only [next, gateStep, h] at hs
              cases hs
          | call | advance | leave | source =>
              simp only [releases, hs]
              exact ih ((next_aside (by simp) hs).1.trans h)

/-- A gate that no call disturbs releases the playback once. -/
theorem releases_of_quiet {py : Builtins} {s s' : GateRace} {pre : List GateLabel}
    (h : OnItsWay s) (hquiet : ∀ l ∈ pre, Quiet l) (hne : s.gate ≠ .done)
    (hrun : Machine.exec (next py) s pre = some s') (hdone : s'.gate = .done)
    (post : List GateLabel) : releases py s (pre ++ post) = 1 := by
  induction pre generalizing s with
  | nil => exact absurd (Option.some.inj hrun ▸ hdone) hne
  | cons l pre ih =>
      rw [Machine.exec_cons, Option.bind_eq_some_iff] at hrun
      obtain ⟨s₁, hs, hrest⟩ := hrun
      have h₁ := onItsWay_next h (hquiet l (by simp)) hs
      have hquiet₁ : ∀ l ∈ pre, Quiet l := fun l hl => hquiet l (by simp [hl])
      by_cases hdone₁ : s₁.gate = .done
      · obtain ⟨hat, hpaused, env, rfl⟩ := done_of_next h hne hs hdone₁
        simp only [List.cons_append, releases, hs, releases_of_done hdone₁, hat, hpaused, and_self,
          if_true]
      · have hone := ih h₁ hquiet₁ hdone₁ hrest
        cases l with
        | gate env =>
            have hlock : s.gate ≠ .lock := by
              intro hat
              simp only [next, gateStep, hat, Option.some.injEq] at hs
              exact hdone₁ (hs ▸ rfl)
            simp only [List.cons_append, releases, hs, hone, hlock, false_and, if_false]
        | call | advance | leave | source => simpa only [List.cons_append, releases, hs] using hone

/-- While no call begins, the timer thread releases the playback once. -/
theorem releasesOnce (py : Builtins) (setup : PlaybackSetup) (labels : List GateLabel) :
    ReleasesOnce py (start setup) labels := by
  rintro pre post s rfl hrun hdone hquiet
  have hstart : OnItsWay (start setup) := by
    refine ⟨fun _ => rfl, rfl, fun _ => ?_, fun _ => ?_⟩ <;>
      simp only [start, PlaybackSetup.start] <;> split <;> rfl
  exact releases_of_quiet hstart hquiet (by simp [start]) hrun hdone post

/-- The timer thread waits for no other thread. -/
theorem isSome_next_gate (py : Builtins) (env : RequestEnv) {s : GateRace} (h : s.gate ≠ .done) :
    (s.next py (.gate env)).isSome := by
  cases hat : s.gate with
  | done => exact absurd hat h
  | timer | test | clear | look | request | lock => simp [next, gateStep, hat]

/-- **Operators and the gate**: no call that has returned is overridden by the gate, and an
undisturbed gate releases the playback once, exactly if no call returns between the gate's test
of its flag and the lock of its resume, where that finds the playback paused. -/
theorem yields_and_releasesOnce_iff (py : Builtins) (setup : PlaybackSetup)
    (labels : List GateLabel) :
    Yields py (start setup) labels ∧ ReleasesOnce py (start setup) labels ↔
      Undisturbed py (start setup) labels := by
  rw [yields_iff_undisturbed]
  exact and_iff_left (releasesOnce py setup labels)

/-- An operator's pause runs between the test of the gate and its resume. -/
def latePause : List GateLabel :=
  [.gate quietEnv, .gate quietEnv, .call 0 (.request "pause" .none),
    .advance 0 quietEnv brokenReader, .advance 0 quietEnv brokenReader, .leave 0,
    .gate quietEnv, .gate quietEnv, .gate quietEnv]

/-- The pause has returned, and the gate plays all the same. -/
theorem not_yields_and_releasesOnce :
    ¬ ∀ (py : Builtins) (setup : PlaybackSetup) (labels : List GateLabel),
      Yields py (start setup) labels ∧ ReleasesOnce py (start setup) labels := by
  intro h
  have hyields := (h plainBuiltins replaySetup (latePause ++ [.gate quietEnv])).1
  have hsame := congrArg (·.state)
    (hyields latePause quietEnv [] _ _ rfl rfl rfl ⟨0, by simp [latePause]⟩)
  exact absurd hsame (by decide)

end GateRace

end CamDriver
