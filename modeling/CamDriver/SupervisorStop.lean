import CamDriver.SupervisorPace
import Mathlib

/-!
# CamDriver.SupervisorStop

The teardown of a sensor, `supervisor.py`: SIGINT to every child, then each is waited for until
its grace is over, and killed if it is still there.

The graces count from the signals, so no child is killed for what another one takes
(`Stopped`), and the teardown ends with the grace of the core.  Told to stop, the supervisor
first ends the turn of the loop that it is in (`now_run_le`).
-/

namespace CamDriver.Supervisor

/-! ## The teardown -/

/-- `CORE_STOP_GRACE_S`. -/
def coreStopGrace : Nat := 20 * second

/-- `PLUGIN_STOP_GRACE_S`. -/
def pluginStopGrace : Nat := 10 * second

/-- `_stop_grace`. -/
def Service.stopGrace (s : Service) : Nat :=
  if s.critical then coreStopGrace else pluginStopGrace

/-- A service in the teardown: its place in the list, and when the signals were sent to it. -/
structure Child where
  place : Nat
  service : Service
  interrupted : Option Nat := none
  killed : Option Nat := none
deriving DecidableEq, Repr

def childrenOf (services : List Service) : List Child :=
  services.zipIdx.map fun (s, i) => { place := i, service := s }

/-- How a child takes SIGINT, by its place: it ends so much later, with that status, or goes
on. -/
abbrev Answer := Nat → Option (Nat × Int)

/-- The process after SIGINT: it ends by itself or of the signal, whichever comes first. -/
def Process.interrupt (p : Process) (now : Nat) (answer : Option (Nat × Int)) : Process :=
  match answer, p.ends with
  | none, _ => p
  | some (age, rc), none => { ends := some (now + age, rc) }
  | some (age, rc), some (ends, _) =>
    if ends ≤ now + age then p else { ends := some (now + age, rc) }

/-- `for s in ..`, one after the other. -/
def forEach (visit : Clock → Child → Clock × Child) : Clock → List Child → Clock × List Child
  | c, [] => (c, [])
  | c, s :: rest =>
    let (c, s) := visit c s
    let (c, rest) := forEach visit c rest
    (c, s :: rest)

/-- `send_signal(SIGINT)` to a child that is alive; it looks once more whether it has ended. -/
def Child.interrupt (w : World) (answer : Answer) (c : Clock) (s : Child) : Clock × Child :=
  let c := c.after w 0
  match s.service.proc with
  | none => (c, s)
  | some p =>
    if (p.poll c.now).isSome then (c, s)
    else
      let c := c.after w 0
      if (p.poll c.now).isSome then (c, s)
      else
        let p := p.interrupt c.now (answer s.place)
        (c, { s with service := { s.service with proc := some p }, interrupted := some c.now })

/-- `Popen.wait` up to a deadline, and whether the process has ended.  It looks from time to
time only, which counts as a delay. -/
def Process.wait (w : World) (c : Clock) (p : Process) (deadline : Nat) : Clock × Bool :=
  let wake := match p.ends with
    | some (ends, _) => min ends deadline
    | none => deadline
  let c := c.after w (wake - c.now)
  (c, (p.poll c.now).isSome)

/-- `kill`; it looks once more whether the process has ended. -/
def Child.kill (s : Child) (p : Process) (now : Nat) : Child :=
  if (p.poll now).isSome then s
  else
    { s with
      service := { s.service with proc := some { ends := some (now, -9) } }
      killed := some now }

/-- The wait for a child, `signalledAt` the time that its grace counts from. -/
def Child.await (w : World) (signalledAt : Nat) (c : Clock) (s : Child) : Clock × Child :=
  match s.service.proc with
  | none => (c, s)
  | some p =>
    let read := c.after w 0
    let entered := read.after w 0
    -- `max(0.0, signalled_at + grace - time.monotonic())`
    let timeout := signalledAt + s.service.stopGrace - read.now
    match p.wait w entered (entered.now + timeout) with
    | (c, true) => (c, s)
    | (c, false) =>
      let c := c.after w 0
      (c, s.kill p c.now)

/-- How a teardown has ended. -/
structure TornDown where
  signalledAt : Nat
  clock : Clock
  children : List Child
deriving DecidableEq, Repr

/-- `_teardown`. -/
def teardown (w : World) (answer : Answer) (c : Clock) (services : List Service) : TornDown :=
  let (c, children) := forEach (Child.interrupt w answer) c (childrenOf services)
  let signalled := c.after w 0
  let (c, children) := forEach (Child.await w signalled.now) signalled
    (children.insertionSort fun s s' => s.service.stopGrace ≤ s'.service.stopGrace)
  { signalledAt := signalled.now, clock := c, children }

/-- The teardown of a supervisor that has left the loop in the state `s`. -/
def State.teardown (w : World) (answer : Answer) (s : State) : TornDown :=
  Supervisor.teardown w answer s.clock s.services

/-! ## A process -/

theorem Process.isSome_poll {p : Process} {now : Nat} :
    (p.poll now).isSome = true ↔ ∃ ends rc, p.ends = some (ends, rc) ∧ ends ≤ now := by
  constructor
  · intro h
    obtain ⟨rc, hpoll⟩ := Option.isSome_iff_exists.mp h
    obtain ⟨ends, hends, hle⟩ := Process.poll_eq_some hpoll
    exact ⟨ends, rc, hends, hle⟩
  · rintro ⟨ends, rc, hends, hle⟩
    rw [poll, hends]
    simp [hle]

theorem Process.poll_mono {p : Process} {now later : Nat} (h : (p.poll now).isSome = true)
    (hle : now ≤ later) : (p.poll later).isSome = true := by
  obtain ⟨ends, rc, hends, hended⟩ := Process.isSome_poll.mp h
  exact Process.isSome_poll.mpr ⟨ends, rc, hends, hended.trans hle⟩

/-- A process that takes the signal ends of it at the latest. -/
theorem Process.isSome_poll_interrupt (p : Process) {now age : Nat} {rc : Int} :
    ((p.interrupt now (some (age, rc))).poll (now + age)).isSome = true := by
  rw [Process.isSome_poll]
  cases hends : p.ends with
  | none => exact ⟨now + age, rc, by simp [interrupt, hends], le_rfl⟩
  | some e =>
      obtain ⟨ends, rc'⟩ := e
      by_cases hle : ends ≤ now + age
      · exact ⟨ends, rc', by simp [interrupt, hends, hle], hle⟩
      · exact ⟨now + age, rc, by simp [interrupt, hends, hle], le_rfl⟩

/-! ## A loop over the children -/

section Loop

variable {visit : Clock → Child → Clock × Child}

/-- What comes out of the loop came out of one visit, made while the loop ran. -/
theorem exists_visit (hmono : ∀ c s, c.now ≤ (visit c s).1.now) {children : List Child} {c : Clock}
    {s' : Child} (h : s' ∈ (forEach visit c children).2) :
    ∃ s ∈ children, ∃ at', c.now ≤ at'.now ∧
      (visit at' s).1.now ≤ (forEach visit c children).1.now ∧ s' = (visit at' s).2 := by
  have hlate : ∀ (children : List Child) (c : Clock),
      c.now ≤ (forEach visit c children).1.now := by
    intro children
    induction children with
    | nil => exact fun c => le_rfl
    | cons s rest ih => exact fun c => (hmono c s).trans (ih (visit c s).1)
  induction children generalizing c with
  | nil => simp [forEach] at h
  | cons s rest ih =>
      rw [forEach] at h ⊢
      obtain rfl | hrest := List.mem_cons.mp h
      · exact ⟨s, List.mem_cons_self, c, le_rfl, hlate rest (visit c s).1, rfl⟩
      · obtain ⟨s₁, hs₁, at', hafter, hbefore, heq⟩ := ih hrest
        exact ⟨s₁, List.mem_cons_of_mem s hs₁, at', (hmono c s).trans hafter, hbefore, heq⟩

theorem map_place_forEach (hplace : ∀ c s, (visit c s).2.place = s.place) (children : List Child)
    (c : Clock) : (forEach visit c children).2.map Child.place = children.map Child.place := by
  induction children generalizing c with
  | nil => rfl
  | cons s rest ih =>
      rw [forEach, List.map_cons, List.map_cons]
      exact congrArg₂ _ (hplace c s) (ih (visit c s).1)

/-- Where every visit is over `extra` after the bound or after it began, so is the loop, with the
sum of these. -/
theorem now_forEach_le {bound extra : Nat}
    (hvisit : ∀ c s, (visit c s).1.now ≤ max c.now bound + extra) (children : List Child)
    (c : Clock) :
    (forEach visit c children).1.now ≤ max c.now bound + children.length * extra := by
  induction children generalizing c with
  | nil => simp [forEach]
  | cons s rest ih =>
      have hfirst := hvisit c s
      have hrest := ih (visit c s).1
      rw [forEach, List.length_cons, Nat.succ_mul]
      dsimp only at hrest ⊢
      omega

end Loop

/-! ## One visit -/

/-- What SIGINT finds: no process, one that has ended, or one that it is sent to. -/
theorem interrupt_cases (w : World) (answer : Answer) (c : Clock) (s : Child) :
    ∃ c', c.now ≤ c'.now ∧ (∀ delay, w.DelaysWithin delay → c'.now ≤ c.now + 2 * delay) ∧
      ((s.service.proc = none ∧ s.interrupt w answer c = (c', s)) ∨
        ∃ p, s.service.proc = some p ∧
          (((p.poll c'.now).isSome = true ∧ s.interrupt w answer c = (c', s)) ∨
            (p.poll c'.now = none ∧ s.interrupt w answer c = (c', { s with
              service := { s.service with proc := some (p.interrupt c'.now (answer s.place)) }
              interrupted := some c'.now })))) := by
  have hfirst := Clock.now_le_after w c 0
  have hsecond := Clock.now_le_after w (c.after w 0) 0
  have hsoon : ∀ delay, w.DelaysWithin delay → (c.after w 0).now ≤ c.now + 2 * delay := by
    intro delay hdelay
    have hle := Clock.after_le hdelay c 0
    omega
  have hlater : ∀ delay, w.DelaysWithin delay →
      ((c.after w 0).after w 0).now ≤ c.now + 2 * delay := by
    intro delay hdelay
    have hle := Clock.after_le hdelay c 0
    have hle' := Clock.after_le hdelay (c.after w 0) 0
    omega
  rw [Child.interrupt]
  cases hproc : s.service.proc with
  | none => exact ⟨c.after w 0, hfirst, hsoon, .inl ⟨rfl, rfl⟩⟩
  | some p =>
      dsimp only
      by_cases hended : (p.poll (c.after w 0).now).isSome = true
      · rw [if_pos hended]
        exact ⟨c.after w 0, hfirst, hsoon, .inr ⟨p, rfl, .inl ⟨hended, rfl⟩⟩⟩
      rw [if_neg hended]
      by_cases hnow : (p.poll ((c.after w 0).after w 0).now).isSome = true
      · rw [if_pos hnow]
        exact ⟨_, hfirst.trans hsecond, hlater, .inr ⟨p, rfl, .inl ⟨hnow, rfl⟩⟩⟩
      · rw [if_neg hnow]
        exact ⟨_, hfirst.trans hsecond, hlater,
          .inr ⟨p, rfl, .inr ⟨Option.not_isSome_iff_eq_none.mp hnow, rfl⟩⟩⟩

/-- A wait ends with the process, or not before its deadline. -/
theorem wait_cases (w : World) (c : Clock) (p : Process) (deadline : Nat) :
    ∃ c', c.now ≤ c'.now ∧ (∀ delay, w.DelaysWithin delay → c'.now ≤ max c.now deadline + delay) ∧
      (((p.poll c'.now).isSome = true ∧ p.wait w c deadline = (c', true)) ∨
        (deadline ≤ c'.now ∧ p.wait w c deadline = (c', false))) := by
  obtain ⟨wake, hwake, hdeadline, hends⟩ : ∃ wake, (match p.ends with
      | some (ends, _) => min ends deadline
      | none => deadline) = wake ∧ wake ≤ deadline ∧
        (wake = deadline ∨ (p.poll wake).isSome = true) := by
    cases hends : p.ends with
    | none => exact ⟨deadline, rfl, le_rfl, .inl rfl⟩
    | some e =>
        obtain ⟨ends, rc⟩ := e
        refine ⟨min ends deadline, rfl, min_le_right ends deadline, ?_⟩
        obtain hle | hle := le_total ends deadline
        · exact .inr (Process.isSome_poll.mpr ⟨ends, rc, hends, by rw [min_eq_left hle]⟩)
        · exact .inl (min_eq_right hle)
  have hslept := Clock.now_le_after w c (wake - c.now)
  refine ⟨c.after w (wake - c.now), by omega, fun delay hdelay => ?_, ?_⟩
  · have hle := Clock.after_le hdelay c (wake - c.now)
    omega
  · rw [Process.wait, hwake]
    by_cases hpoll : (p.poll (c.after w (wake - c.now)).now).isSome = true
    · exact .inl ⟨hpoll, by rw [hpoll]⟩
    · refine .inr ⟨?_, by rw [Bool.eq_false_of_not_eq_true hpoll]⟩
      obtain hwait | hended := hends
      · omega
      · exact absurd (Process.poll_mono hended (by omega)) hpoll

/-- What a wait comes to: there is no process, it has ended, or it is killed, and not before its
grace is over. -/
theorem await_cases (w : World) (signalledAt : Nat) (c : Clock) (s : Child) :
    ∃ c', c.now ≤ c'.now ∧ (∀ delay, w.DelaysWithin delay →
        c'.now ≤ max c.now (signalledAt + s.service.stopGrace) + 4 * delay) ∧
      ((s.service.proc = none ∧ s.await w signalledAt c = (c', s)) ∨
        ∃ p, s.service.proc = some p ∧
          (((p.poll c'.now).isSome = true ∧ s.await w signalledAt c = (c', s)) ∨
            (signalledAt + s.service.stopGrace ≤ c'.now ∧ p.poll c'.now = none ∧
              s.await w signalledAt c = (c', { s with
                service := { s.service with proc := some { ends := some (c'.now, -9) } }
                killed := some c'.now })))) := by
  rw [Child.await]
  cases hproc : s.service.proc with
  | none => exact ⟨c, le_rfl, fun delay _ => by omega, .inl ⟨rfl, rfl⟩⟩
  | some p =>
      have hread := Clock.now_le_after w c 0
      have hentered := Clock.now_le_after w (c.after w 0) 0
      dsimp only
      obtain ⟨c₁, hafter, hsoon, ⟨hended, heq⟩ | ⟨hdeadline, heq⟩⟩ := wait_cases w
        ((c.after w 0).after w 0) p
        (((c.after w 0).after w 0).now + (signalledAt + s.service.stopGrace - (c.after w 0).now))
      · rw [heq]
        refine ⟨c₁, by omega, fun delay hdelay => ?_, .inr ⟨p, rfl, .inl ⟨hended, rfl⟩⟩⟩
        have hsoon := hsoon delay hdelay
        have hle := Clock.after_le hdelay c 0
        have hle' := Clock.after_le hdelay (c.after w 0) 0
        omega
      · rw [heq]
        have hlast := Clock.now_le_after w c₁ 0
        refine ⟨c₁.after w 0, by omega, fun delay hdelay => ?_, .inr ⟨p, rfl, ?_⟩⟩
        · have hsoon := hsoon delay hdelay
          have hle := Clock.after_le hdelay c 0
          have hle' := Clock.after_le hdelay (c.after w 0) 0
          have hle₁ := Clock.after_le hdelay c₁ 0
          omega
        · dsimp only
          rw [Child.kill]
          by_cases hpoll : (p.poll (c₁.after w 0).now).isSome = true
          · rw [if_pos hpoll]
            exact .inl ⟨hpoll, rfl⟩
          · rw [if_neg hpoll]
            exact .inr ⟨by omega, Option.not_isSome_iff_eq_none.mp hpoll, rfl⟩

/-! ## A teardown -/

/-- The process of a child, with the SIGINT that it got if it got one. -/
def Child.living (answer : Answer) (ch : Child) (p : Process) : Process :=
  match ch.interrupted with
  | none => p
  | some at' => p.interrupt at' (answer ch.place)

/-- What has become of a service in a teardown that began at `begun`. -/
structure Stopped (answer : Answer) (begun : Nat) (r : TornDown) (s : Service) (ch : Child) :
    Prop where
  /-- SIGINT is for a child that has not ended, before any is waited for -/
  interrupted : ∀ at', ch.interrupted = some at' → begun ≤ at' ∧ at' ≤ r.signalledAt ∧
    ∃ p, s.proc = some p ∧ p.poll at' = none
  /-- and one that gets none has ended -/
  spared : ch.interrupted = none → ∀ p, s.proc = some p → (p.poll r.signalledAt).isSome = true
  /-- no child is killed before its grace is over, nor one that has ended -/
  patient : ∀ at', ch.killed = some at' → r.signalledAt + s.stopGrace ≤ at' ∧
    at' ≤ r.clock.now ∧ ∃ p, s.proc = some p ∧ (ch.living answer p).poll at' = none
  /-- so a child that ends of SIGINT within its grace is not, whatever the others do -/
  obedient : ∀ age rc, answer ch.place = some (age, rc) → age ≤ s.stopGrace → ch.killed = none
  /-- and in the end none that was not killed is left -/
  gone : ch.killed = none → ∀ p, s.proc = some p →
    ((ch.living answer p).poll r.clock.now).isSome = true

/-- A child between the two loops. -/
structure Interrupted (answer : Answer) (begun signalledAt : Nat) (s : Service) (ch : Child) :
    Prop where
  interrupted : ∀ at', ch.interrupted = some at' → begun ≤ at' ∧ at' ≤ signalledAt ∧
    ∃ p, s.proc = some p ∧ p.poll at' = none
  spared : ch.interrupted = none → ∀ p, s.proc = some p → (p.poll signalledAt).isSome = true
  killed : ch.killed = none
  proc : ch.service.proc = s.proc.map (ch.living answer)
  grace : ch.service.stopGrace = s.stopGrace

/-- A child that gets no signal, as it has ended or was never there. -/
theorem interrupted_of_ended (answer : Answer) (begun i : Nat) {signalledAt : Nat} {s : Service}
    (hended : ∀ p, s.proc = some p → (p.poll signalledAt).isSome = true) :
    Interrupted answer begun signalledAt s { place := i, service := s } where
  interrupted := by rintro at' ⟨⟩
  spared _ := hended
  killed := rfl
  proc := by cases s.proc <;> simp [Child.living]
  grace := rfl

theorem interrupted_of_visit {w : World} {answer : Answer} {begun signalledAt i : Nat}
    {s : Service} {c : Clock} (hbegun : begun ≤ c.now)
    (hsignalled : (Child.interrupt w answer c { place := i, service := s }).1.now ≤ signalledAt) :
    Interrupted answer begun signalledAt s
      (Child.interrupt w answer c { place := i, service := s }).2 := by
  obtain ⟨c', hle, -, ⟨hproc, heq⟩ | ⟨p, hproc, ⟨hended, heq⟩ | ⟨halive, heq⟩⟩⟩ :=
    interrupt_cases w answer c { place := i, service := s } <;>
    rw [heq] at hsignalled ⊢ <;> dsimp only at hproc hsignalled
  · refine interrupted_of_ended answer begun i fun p hp => ?_
    cases hproc.symm.trans hp
  · refine interrupted_of_ended answer begun i fun p' hp' => ?_
    obtain rfl := Option.some.inj (hproc.symm.trans hp')
    exact Process.poll_mono hended hsignalled
  · constructor
    case interrupted =>
      rintro at' ⟨⟩
      exact ⟨hbegun.trans hle, hsignalled, p, hproc, halive⟩
    case spared => rintro ⟨⟩
    case killed => rfl
    case proc => simp [hproc, Child.living]
    case grace => rfl

section Interrupted

variable {answer : Answer} {begun : Nat} {r : TornDown} {s : Service} {m : Child}
  (h : Interrupted answer begun r.signalledAt s m)
include h

/-- A child that is gone is not killed. -/
theorem Interrupted.stopped_of_gone (hgone : ∀ p, s.proc = some p →
    ((m.living answer p).poll r.clock.now).isSome = true) : Stopped answer begun r s m where
  interrupted := h.interrupted
  spared := h.spared
  patient at' hkilled := by cases h.killed.symm.trans hkilled
  obedient _ _ _ _ := h.killed
  gone _ := hgone

/-- A child that takes SIGINT has ended when its grace is over. -/
theorem Interrupted.ended {p : Process} (hp : s.proc = some p) {age : Nat} {rc : Int}
    (hanswer : answer m.place = some (age, rc)) {now : Nat} (hnow : r.signalledAt + age ≤ now) :
    ((m.living answer p).poll now).isSome = true := by
  cases hsent : m.interrupted with
  | none =>
      have hended := h.spared hsent p hp
      simp only [Child.living, hsent]
      exact Process.poll_mono hended (by omega)
  | some at' =>
      obtain ⟨-, hat, -⟩ := h.interrupted at' hsent
      simp only [Child.living, hsent, hanswer]
      exact Process.poll_mono (Process.isSome_poll_interrupt p) (by omega)

/-- The end of a child that was visited by both loops. -/
theorem Interrupted.await {w : World} {c : Clock}
    (hclock : (m.await w r.signalledAt c).1.now ≤ r.clock.now) :
    Stopped answer begun r s (m.await w r.signalledAt c).2 := by
  -- the process that is waited for is the one that got the signal
  have hproc₀ : m.service.proc = s.proc.map (m.living answer) := h.proc
  obtain ⟨c', -, -, ⟨hproc, heq⟩ | ⟨p, hproc, ⟨hended, heq⟩ | ⟨hgrace, halive, heq⟩⟩⟩ :=
    await_cases w r.signalledAt c m <;> rw [heq] at hclock ⊢ <;> dsimp only at hclock <;>
    rw [hproc₀] at hproc
  · refine h.stopped_of_gone fun p hp => ?_
    cases (Option.map_eq_none_iff.mp hproc).symm.trans hp
  · refine h.stopped_of_gone fun p' hp' => ?_
    obtain rfl : m.living answer p' = p := by simpa [hp'] using hproc
    exact Process.poll_mono hended hclock
  · obtain ⟨p₀, hp₀, rfl⟩ := Option.map_eq_some_iff.mp hproc
    rw [h.grace] at hgrace
    constructor
    case interrupted => exact h.interrupted
    case spared => exact h.spared
    case patient =>
      rintro at' ⟨⟩
      exact ⟨hgrace, hclock, p₀, hp₀, halive⟩
    case obedient =>
      intro age rc hanswer hage
      have hended := h.ended hp₀ hanswer (show r.signalledAt + age ≤ c'.now by omega)
      exact absurd hended (Option.not_isSome_iff_eq_none.mpr halive)
    case gone => rintro ⟨⟩

end Interrupted

theorem now_le_interrupt (w : World) (answer : Answer) (c : Clock) (s : Child) :
    c.now ≤ (s.interrupt w answer c).1.now := by
  obtain ⟨c', hle, -, ⟨-, heq⟩ | ⟨p, -, ⟨-, heq⟩ | ⟨-, heq⟩⟩⟩ := interrupt_cases w answer c s <;>
    rwa [heq]

theorem now_le_await (w : World) (signalledAt : Nat) (c : Clock) (s : Child) :
    c.now ≤ (s.await w signalledAt c).1.now := by
  obtain ⟨c', hle, -, ⟨-, heq⟩ | ⟨p, -, ⟨-, heq⟩ | ⟨-, -, heq⟩⟩⟩ :=
    await_cases w signalledAt c s <;> rwa [heq]

theorem place_interrupt (w : World) (answer : Answer) (c : Clock) (s : Child) :
    (s.interrupt w answer c).2.place = s.place := by
  obtain ⟨c', -, -, ⟨-, heq⟩ | ⟨p, -, ⟨-, heq⟩ | ⟨-, heq⟩⟩⟩ := interrupt_cases w answer c s <;>
    rw [heq]

theorem place_await (w : World) (signalledAt : Nat) (c : Clock) (s : Child) :
    (s.await w signalledAt c).2.place = s.place := by
  obtain ⟨c', -, -, ⟨-, heq⟩ | ⟨p, -, ⟨-, heq⟩ | ⟨-, -, heq⟩⟩⟩ :=
    await_cases w signalledAt c s <;> rw [heq]

section Teardown

variable (w : World) (answer : Answer) (c : Clock) (services : List Service)

/-- Every service is seen to, once. -/
theorem places_teardown : ((teardown w answer c services).children.map Child.place).Perm
    (List.range services.length) := by
  rw [teardown]
  dsimp only
  rw [map_place_forEach (place_await w _)]
  refine ((List.perm_insertionSort _ _).map Child.place).trans ?_
  rw [map_place_forEach (place_interrupt w answer), childrenOf, List.map_map]
  have hplaces : services.zipIdx.map (Child.place ∘ fun e => { place := e.2, service := e.1 }) =
      List.range services.length := by
    rw [List.range_eq_range', ← List.zipIdx_map_snd 0 services]
    rfl
  rw [hplaces]

theorem stopped_teardown {ch : Child} (h : ch ∈ (teardown w answer c services).children) :
    ∃ s, services[ch.place]? = some s ∧
      Stopped answer c.now (teardown w answer c services) s ch := by
  obtain ⟨r, hr⟩ : ∃ r, teardown w answer c services = r := ⟨_, rfl⟩
  have hsignalled : r.signalledAt =
      ((forEach (Child.interrupt w answer) c (childrenOf services)).1.after w 0).now := by
    rw [← hr]
    rfl
  have hlast := Clock.now_le_after w
    (forEach (Child.interrupt w answer) c (childrenOf services)).1 0
  rw [hr] at h ⊢
  have hchildren := h
  rw [← hr, teardown] at hchildren
  obtain ⟨m, hm, at', -, hbefore, rfl⟩ := exists_visit (now_le_await w _) hchildren
  obtain ⟨s, hs, at₀, hafter, hdone, rfl⟩ :=
    exists_visit (now_le_interrupt w answer) ((List.perm_insertionSort _ _).mem_iff.mp hm)
  obtain ⟨⟨service, i⟩, hservice, rfl⟩ := List.mem_map.mp hs
  have hmid : Interrupted answer c.now r.signalledAt service
      (Child.interrupt w answer at₀ { place := i, service := service }).2 :=
    interrupted_of_visit hafter (hdone.trans (by rw [hsignalled]; omega))
  refine ⟨service, ?_, ?_⟩
  · rw [place_await, place_interrupt]
    exact List.mem_zipIdx_iff_getElem?.mp hservice
  · rw [← hsignalled] at hbefore ⊢
    refine hmid.await (hbefore.trans (le_of_eq ?_))
    rw [hsignalled, ← hr]
    rfl

/-- A teardown takes the grace of the core. -/
theorem now_teardown_le {delay : Nat} (hdelay : w.DelaysWithin delay) :
    (teardown w answer c services).clock.now ≤
      c.now + coreStopGrace + (6 * services.length + 1) * delay := by
  have hinterrupt : ∀ c s, (Child.interrupt w answer c s).1.now ≤ max c.now 0 + 2 * delay := by
    intro c s
    obtain ⟨c', -, hle, ⟨-, heq⟩ | ⟨p, -, ⟨-, heq⟩ | ⟨-, heq⟩⟩⟩ :=
      interrupt_cases w answer c s <;> rw [heq] <;> simpa using hle delay hdelay
  have hawait : ∀ signalledAt c s, (Child.await w signalledAt c s).1.now ≤
      max c.now (signalledAt + coreStopGrace) + 4 * delay := by
    intro signalledAt c s
    have hgrace : s.service.stopGrace ≤ coreStopGrace := by
      unfold Service.stopGrace
      split <;> decide
    obtain ⟨c', -, hle, ⟨-, heq⟩ | ⟨p, -, ⟨-, heq⟩ | ⟨-, -, heq⟩⟩⟩ :=
      await_cases w signalledAt c s <;> rw [heq] <;> have hle := hle delay hdelay <;>
      dsimp only <;> omega
  rw [teardown]
  dsimp only
  have hfirst := now_forEach_le hinterrupt (childrenOf services) c
  generalize hd : forEach (Child.interrupt w answer) c (childrenOf services) = d at hfirst ⊢
  have hlength : d.2.length = services.length := by
    have hplaces := congrArg List.length
      (map_place_forEach (place_interrupt w answer) (childrenOf services) c)
    rw [hd] at hplaces
    simpa [childrenOf] using hplaces
  have hsecond := now_forEach_le (hawait (d.1.after w 0).now)
    (d.2.insertionSort fun s s' => s.service.stopGrace ≤ s'.service.stopGrace) (d.1.after w 0)
  rw [(List.perm_insertionSort _ _).length_eq, hlength] at hsecond
  have hsignalled := Clock.after_le hdelay d.1 0
  have hchildren : (childrenOf services).length = services.length := by simp [childrenOf]
  rw [hchildren] at hfirst
  have hsum : (6 * services.length + 1) * delay =
      services.length * (2 * delay) + services.length * (4 * delay) + delay := by ring
  rw [hsum]
  omega

end Teardown

/-! ## From the request to the end -/

/-- The supervisor gets to its loop within a turn. -/
theorem now_start_le {w : World} {delay : Nat} (hdelay : w.DelaysWithin delay) (sensor : Sensor) :
    (start w sensor).clock.now ≤ sensor.turn delay := by
  have hplugins := now_startServices_le hdelay sensor.plugin_not_critical (0 + 1)
  rw [Sensor.turn, Sensor.buildServices, List.length_cons, Nat.succ_mul, Nat.mul_add]
  have hless := Nat.mul_le_mul_left (sensor.plugins.filterMap sensor.service).length
    (show 2 * delay ≤ 5 * delay by omega)
  rw [start, Sensor.buildServices, startServices]
  by_cases hstopping : w.stopping (Clock.now { now := 0, steps := 0 }) = true
  · rw [if_pos hstopping]
    exact Nat.zero_le _
  rw [if_neg hstopping]
  have hspawn := (now_spawn_le hdelay 0 { now := 0, steps := 0 } sensor.core).1
  obtain ⟨c', -, hfails | ⟨p, -, hruns⟩⟩ := spawn_cases w 0 { now := 0, steps := 0 } sensor.core
  · rw [hfails] at hspawn ⊢
    simp only [Sensor.core, if_true] at hspawn ⊢
    omega
  · rw [hruns] at hspawn ⊢
    have hstagger := Clock.after_le hdelay c' startupStagger
    have hplugins := hplugins (c'.after w startupStagger)
    have hbackoff : startupStagger = restartBackoff := rfl
    simp only [Sensor.core, if_true] at hspawn ⊢
    omega

/-- The supervisor leaves its loop within a turn of being told to. -/
theorem now_run_le {w : World} {delay : Nat} (hdelay : w.DelaysWithin delay) {stopAt : Nat}
    (hstop : w.stopAt = some stopAt) (sensor : Sensor) (n : Nat) :
    (run w sensor n).clock.now ≤ stopAt + sensor.turn delay := by
  induction n with
  | zero => exact (now_start_le hdelay sensor).trans (Nat.le_add_left _ _)
  | succ n ih =>
      rw [run_succ]
      obtain ⟨-, heq⟩ | ⟨-, -, heq⟩ | ⟨-, hgoing, c, services, status, hsweep, heq⟩ :=
        monitor_cases w sensor.playback (run w sensor n)
      · rwa [heq]
      · rwa [heq]
      · have hbefore : (run w sensor n).clock.now < stopAt := by
          by_contra hlate
          rw [World.stopping_iff.mpr ⟨stopAt, hstop, Nat.le_of_not_lt hlate⟩] at hgoing
          cases hgoing
        have hnow := now_sweep_le hdelay sensor.playback (run w sensor n).services 0
          (run w sensor n).clock
        rw [hsweep, length_run] at hnow
        have hpause := Clock.after_le hdelay c monitorPause
        rw [heq, Sensor.turn]
        dsimp only at hnow ⊢
        split <;> omega

/-- As long as the loop goes on, its clock does. -/
theorem pauses_le_now {w : World} {sensor : Sensor} {n : Nat}
    (h : (run w sensor n).result = none) : n * monitorPause ≤ (run w sensor n).clock.now := by
  induction n with
  | zero => simp
  | succ n ih =>
      rw [run_succ] at h ⊢
      obtain ⟨⟨status, hresult⟩, heq⟩ | ⟨-, -, heq⟩ |
          ⟨hrunning, -, c, services, status, hsweep, heq⟩ :=
        monitor_cases w sensor.playback (run w sensor n)
      · rw [heq, hresult] at h
        cases h
      · rw [heq] at h
        cases h
      · have hsoon := now_le_sweep w sensor.playback (run w sensor n).services 0
          (run w sensor n).clock
        rw [hsweep] at hsoon
        have hpause := Clock.now_le_after w c monitorPause
        have ih := ih hrunning
        rw [heq] at h ⊢
        dsimp only at h hsoon ⊢
        rw [if_pos h, Nat.succ_mul]
        omega

/-- What a supervisor leaves behind that is in the state `s` when it has left its loop. -/
structure StopHolds (w : World) (answer : Answer) (sensor : Sensor) (s : State) : Prop where
  /-- every service is seen to, once -/
  everyone : ((s.teardown w answer).children.map Child.place).Perm
    (List.range sensor.buildServices.length)
  each : ∀ ch ∈ (s.teardown w answer).children, ∃ service, s.services[ch.place]? = some service ∧
    Stopped answer s.clock.now (s.teardown w answer) service ch
  /-- it is over with the grace of the core, and what the steps took -/
  inTime : ∀ delay, w.DelaysWithin delay → (s.teardown w answer).clock.now ≤
    s.clock.now + coreStopGrace + (6 * sensor.buildServices.length + 1) * delay
  /-- and a turn of the loop after it was told to stop -/
  sinceStop : ∀ delay, w.DelaysWithin delay → ∀ stopAt, w.stopAt = some stopAt →
    s.clock.now ≤ stopAt + sensor.turn delay

/-- **The stop of a sensor**: told to stop, the supervisor leaves its loop; and whyever it has
left it, every service is stopped with all of its own grace. -/
theorem stops_run (w : World) (answer : Answer) (sensor : Sensor) :
    (∀ stopAt, w.stopAt = some stopAt → ∃ n, (run w sensor n).result ≠ none) ∧
      ∀ n, (run w sensor n).result ≠ none → StopHolds w answer sensor (run w sensor n) := by
  constructor
  · intro stopAt hstop
    by_contra hnever
    simp only [not_exists, not_not] at hnever
    have hlate := pauses_le_now (hnever stopAt)
    have hstopping : w.stopping (run w sensor stopAt).clock.now = true := by
      refine World.stopping_iff.mpr ⟨stopAt, hstop, le_trans ?_ hlate⟩
      exact Nat.le_mul_of_pos_right stopAt (by decide)
    have hnext := hnever (stopAt + 1)
    rw [run_succ] at hnext
    obtain ⟨⟨status, hresult⟩, -⟩ | ⟨-, -, heq⟩ | ⟨-, hgoing, -⟩ :=
      monitor_cases w sensor.playback (run w sensor stopAt)
    · cases (hnever stopAt).symm.trans hresult
    · rw [heq] at hnext
      cases hnext
    · cases hgoing.symm.trans hstopping
  · intro n _
    have hlength := length_run w sensor n
    constructor
    case everyone =>
      have hplaces := places_teardown w answer (run w sensor n).clock (run w sensor n).services
      rwa [hlength] at hplaces
    case each =>
      exact fun ch hch => stopped_teardown w answer (run w sensor n).clock
        (run w sensor n).services hch
    case inTime =>
      intro delay hdelay
      have hnow := now_teardown_le w answer (run w sensor n).clock (run w sensor n).services hdelay
      rwa [hlength] at hnow
    case sinceStop => exact fun delay hdelay stopAt hstop => now_run_le hdelay hstop sensor n

/-- The core ends of SIGINT within a second; the viewer does not take it. -/
def stubbornViewer : Answer := fun i => if i = 0 then some (second, 0) else none

/-- Told to stop after three seconds, the viewer is killed at the end of its grace. -/
theorem stops_run_stubbornViewer :
    StopHolds (deadCore (some (3 * second))) stubbornViewer viewed
        (run (deadCore (some (3 * second))) viewed 3) ∧
      ((run (deadCore (some (3 * second))) viewed 3).teardown (deadCore (some (3 * second)))
        stubbornViewer).children.map (fun ch => (ch.place, ch.interrupted, ch.killed)) =
        [(1, some (3 * second), some (13 * second)), (0, some (3 * second), none)] :=
  ⟨(stops_run (deadCore (some (3 * second))) stubbornViewer viewed).2 3 (by decide +kernel),
    by decide +kernel⟩

end CamDriver.Supervisor
