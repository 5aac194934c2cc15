import CamDriver.Lib.Machine
import Mathlib

/-!
# CamDriver.BridgeStop

How a ROS bridge goes down: the destructor, the thread that watches the bus, and the streaming
thread that publishes, in any order.

An error before the stop is a producer that restarted, and ends the process, so that the
container comes up again; one after it is the stop itself, and does not.  `bridgeStops_run`
says so, and that no sample is published by a bridge that is gone.
-/

namespace CamDriver

/-- Where the destructor is: `stop_pipeline`, and what is destroyed after it. -/
inductive StopAt where
  | running | flagged | disconnected | silent | joined | gone
deriving DecidableEq, Repr

/-- Where the thread on the bus is; `holding`: a message, and whether it was posted after the flag
was raised; `dying`: the flag was not up when it looked. -/
inductive BusAt where
  | head | popping | holding (late : Bool) | dying (late : Bool) | returned
deriving DecidableEq, Repr

/-- A bridge that has started. -/
structure BridgeThreads where
  main : StopAt
  /-- `stopping_` -/
  stopping : Bool
  /-- the handler of new samples is connected -/
  connected : Bool
  /-- the pipeline is not in NULL -/
  playing : Bool
  /-- a sample is being published -/
  inside : Bool
  /-- errors and ends of stream on the bus, and which of them are late -/
  queue : List Bool
  bus : BusAt
  /-- `_exit(EXIT_FAILURE)`, and for which kind of message -/
  exited : Option Bool
deriving DecidableEq, Repr

inductive BridgeAct where
  /-- an element posts an error or an end of stream -/
  | post
  /-- a sample comes to the handler -/
  | enter
  /-- the handler returns -/
  | leave
  /-- a step of the thread on the bus -/
  | bus
  /-- a step of the destructor -/
  | main
deriving DecidableEq, Repr

namespace BridgeThreads

def init : BridgeThreads :=
  { main := .running, stopping := false, connected := true, playing := true, inside := false,
    queue := [], bus := .head, exited := none }

/-- The loop of `bus_thread_`. -/
def stepBus (s : BridgeThreads) : Option BridgeThreads :=
  match s.bus with
  | .head => some { s with bus := if s.stopping then .returned else .popping }
  | .popping =>
    match s.queue with
    | [] => some { s with bus := .head }
    | late :: queue => some { s with bus := .holding late, queue }
  | .holding late =>
    some { s with bus := if s.stopping then .returned else .dying late }
  | .dying late => some { s with exited := some late }
  | .returned => none

/-- `stop_pipeline`, from the destructor of the subclass; to set NULL waits for the streaming
thread, and to join for the one on the bus. -/
def stepMain (s : BridgeThreads) : Option BridgeThreads :=
  match s.main with
  | .running => some { s with main := .flagged, stopping := true }
  | .flagged => some { s with main := .disconnected, connected := false }
  | .disconnected => if s.inside then none else some { s with main := .silent, playing := false }
  | .silent => if s.bus = .returned then some { s with main := .joined } else none
  | .joined => some { s with main := .gone }
  | .gone => none

/-- One step of a thread; none after the process has exited. -/
def next (s : BridgeThreads) (a : BridgeAct) : Option BridgeThreads :=
  if s.exited.isSome then none
  else
    match a with
    | .post => some { s with queue := s.queue ++ [s.stopping] }
    | .enter =>
      if s.playing ∧ s.connected ∧ ¬ s.inside then some { s with inside := true } else none
    | .leave => if s.inside then some { s with inside := false } else none
    | .bus => s.stepBus
    | .main => s.stepMain

/-- What one step can do. -/
inductive Moves (s : BridgeThreads) : BridgeAct → BridgeThreads → Prop
  | post : Moves s .post { s with queue := s.queue ++ [s.stopping] }
  | enter (hplaying : s.playing = true) (hconnected : s.connected = true) :
      Moves s .enter { s with inside := true }
  | leave (hinside : s.inside = true) : Moves s .leave { s with inside := false }
  | finish (hbus : s.bus = .head) (hstopping : s.stopping = true) :
      Moves s .bus { s with bus := .returned }
  | poll (hbus : s.bus = .head) (hstopping : s.stopping = false) :
      Moves s .bus { s with bus := .popping }
  | timeout (hbus : s.bus = .popping) (hqueue : s.queue = []) : Moves s .bus { s with bus := .head }
  | pop {late : Bool} {queue : List Bool} (hbus : s.bus = .popping)
      (hqueue : s.queue = late :: queue) : Moves s .bus { s with bus := .holding late, queue }
  | ignore {late : Bool} (hbus : s.bus = .holding late) (hstopping : s.stopping = true) :
      Moves s .bus { s with bus := .returned }
  | fail {late : Bool} (hbus : s.bus = .holding late) (hstopping : s.stopping = false) :
      Moves s .bus { s with bus := .dying late }
  | exit {late : Bool} (hbus : s.bus = .dying late) : Moves s .bus { s with exited := some late }
  | flag (hmain : s.main = .running) : Moves s .main { s with main := .flagged, stopping := true }
  | disconnect (hmain : s.main = .flagged) :
      Moves s .main { s with main := .disconnected, connected := false }
  | silence (hmain : s.main = .disconnected) (hinside : s.inside = false) :
      Moves s .main { s with main := .silent, playing := false }
  | join (hmain : s.main = .silent) (hbus : s.bus = .returned) :
      Moves s .main { s with main := .joined }
  | destroy (hmain : s.main = .joined) : Moves s .main { s with main := .gone }

/-- A step of the bus thread. -/
theorem moves_of_stepBus {s s' : BridgeThreads} (hs : s.stepBus = some s') : Moves s .bus s' := by
  unfold stepBus at hs
  split at hs
  case h_1 hbus =>
    by_cases hstopping : s.stopping = true
    · rw [if_pos hstopping] at hs
      cases hs
      exact .finish hbus hstopping
    · rw [if_neg hstopping] at hs
      cases hs
      exact .poll hbus (by simpa using hstopping)
  case h_2 hbus =>
    split at hs
    case h_1 hqueue =>
      cases hs
      exact .timeout hbus hqueue
    case h_2 hqueue =>
      cases hs
      exact .pop hbus hqueue
  case h_3 hbus =>
    by_cases hstopping : s.stopping = true
    · rw [if_pos hstopping] at hs
      cases hs
      exact .ignore hbus hstopping
    · rw [if_neg hstopping] at hs
      cases hs
      exact .fail hbus (by simpa using hstopping)
  case h_4 hbus =>
    cases hs
    exact .exit hbus
  case h_5 => cases hs

/-- A step of the destructor. -/
theorem moves_of_stepMain {s s' : BridgeThreads} (hs : s.stepMain = some s') :
    Moves s .main s' := by
  unfold stepMain at hs
  split at hs
  case h_1 hmain =>
    cases hs
    exact .flag hmain
  case h_2 hmain =>
    cases hs
    exact .disconnect hmain
  case h_3 hmain =>
    simp only [Option.ite_none_left_eq_some, Option.some.injEq] at hs
    obtain ⟨hinside, rfl⟩ := hs
    exact .silence hmain (by simpa using hinside)
  case h_4 hmain =>
    simp only [Option.ite_none_right_eq_some, Option.some.injEq] at hs
    obtain ⟨hbus, rfl⟩ := hs
    exact .join hmain hbus
  case h_5 hmain =>
    cases hs
    exact .destroy hmain
  case h_6 => cases hs

/-- A step is a move, of a process that has not exited. -/
theorem moves_of_next {s s' : BridgeThreads} {a : BridgeAct} (hs : s.next a = some s') :
    s.exited = none ∧ Moves s a s' := by
  unfold next at hs
  split at hs
  case isTrue => cases hs
  case isFalse hexited =>
    refine ⟨by simpa using hexited, ?_⟩
    cases a with
    | post =>
        cases hs
        exact .post
    | enter =>
        simp only [Option.ite_none_right_eq_some, Option.some.injEq] at hs
        obtain ⟨⟨hplaying, hconnected, -⟩, rfl⟩ := hs
        exact .enter hplaying hconnected
    | leave =>
        simp only [Option.ite_none_right_eq_some, Option.some.injEq] at hs
        obtain ⟨hinside, rfl⟩ := hs
        exact .leave hinside
    | bus => exact moves_of_stepBus hs
    | main => exact moves_of_stepMain hs

/-! ## The invariant -/

structure BridgeInv (s : BridgeThreads) : Prop where
  flag : s.stopping = true ↔ s.main ≠ .running
  connected : s.connected = true ↔ s.main = .running ∨ s.main = .flagged
  playing : s.playing = true ↔ s.main = .running ∨ s.main = .flagged ∨ s.main = .disconnected
  quiet : s.inside = true → s.playing = true
  joined : s.main = .joined ∨ s.main = .gone → s.bus = .returned
  late : true ∈ s.queue ∨ s.bus = .holding true → s.stopping = true
  returned : s.bus = .returned → s.stopping = true
  dying : ∀ late, s.bus = .dying late → late = false
  exited : ∀ late ∈ s.exited, late = false

/-- A bridge that runs. -/
theorem inv_init : BridgeInv init := by
  constructor <;> simp [init]

theorem inv_next {s s' : BridgeThreads} {a : BridgeAct} (h : BridgeInv s)
    (hs : s.next a = some s') : BridgeInv s' := by
  obtain ⟨hexited, hmove⟩ := moves_of_next hs
  have hlive := h.joined
  cases hmove with
  | post =>
      refine { h with late := ?_ }
      rintro (hlate | hholding)
      · obtain hlate | hlate := List.mem_append.1 hlate
        · exact h.late (.inl hlate)
        · exact (List.mem_singleton.1 hlate).symm
      · exact h.late (.inr hholding)
  | enter hplaying => exact { h with quiet := fun _ => hplaying }
  | leave => exact { h with quiet := by rintro ⟨⟩ }
  | finish hbus hstopping =>
      exact
        { h with
          joined := fun _ => rfl, late := fun _ => hstopping, returned := fun _ => hstopping
          dying := by simp }
  | poll hbus =>
      rw [hbus] at hlive
      refine
        { h with
          joined := fun hm => absurd (hlive hm) (by simp), late := ?_, returned := by simp
          dying := by simp }
      rintro (hlate | ⟨⟨⟩⟩)
      exact h.late (.inl hlate)
  | timeout hbus =>
      rw [hbus] at hlive
      refine
        { h with
          joined := fun hm => absurd (hlive hm) (by simp), late := ?_, returned := by simp
          dying := by simp }
      rintro (hlate | ⟨⟨⟩⟩)
      exact h.late (.inl hlate)
  | pop hbus hqueue =>
      rw [hbus] at hlive
      refine
        { h with
          joined := fun hm => absurd (hlive hm) (by simp), late := fun hlate => ?_
          returned := by simp, dying := by simp }
      refine h.late (.inl ?_)
      rw [hqueue, List.mem_cons]
      exact hlate.symm.imp (fun hholding => (BusAt.holding.inj hholding).symm) id
  | ignore hbus hstopping =>
      exact
        { h with
          joined := fun _ => rfl, late := fun _ => hstopping, returned := fun _ => hstopping
          dying := by simp }
  | @fail late hbus hstopping =>
      rw [hbus] at hlive
      refine
        { h with
          joined := fun hm => absurd (hlive hm) (by simp), late := ?_, returned := by simp
          dying := ?_ }
      · rintro (hlate | ⟨⟨⟩⟩)
        exact h.late (.inl hlate)
      · rintro _ ⟨⟩
        cases late with
        | false => rfl
        | true => exact (h.late (.inr hbus)).symm.trans hstopping
  | exit hbus =>
      refine { h with exited := ?_ }
      rintro _ ⟨⟩
      exact h.dying _ hbus
  | flag hmain =>
      exact
        { flag := by simp, connected := by simpa [hmain] using h.connected
          playing := by simpa [hmain] using h.playing, quiet := h.quiet, joined := by simp
          late := fun _ => rfl, returned := fun _ => rfl, dying := h.dying
          exited := by simp [hexited] }
  | disconnect hmain =>
      exact
        { flag := by simpa [hmain] using h.flag, connected := by simp
          playing := by simpa [hmain] using h.playing, quiet := h.quiet, joined := by simp
          late := h.late, returned := h.returned, dying := h.dying, exited := by simp [hexited] }
  | silence hmain hinside =>
      exact
        { flag := by simpa [hmain] using h.flag
          connected := by simpa [hmain] using h.connected
          playing := by simp, quiet := by simp [hinside], joined := by simp
          late := h.late, returned := h.returned, dying := h.dying, exited := by simp [hexited] }
  | join hmain hbus =>
      exact
        { flag := by simpa [hmain] using h.flag
          connected := by simpa [hmain] using h.connected
          playing := by simpa [hmain] using h.playing, quiet := h.quiet, joined := fun _ => hbus
          late := h.late, returned := h.returned, dying := h.dying, exited := by simp [hexited] }
  | destroy hmain =>
      exact
        { flag := by simpa [hmain] using h.flag
          connected := by simpa [hmain] using h.connected
          playing := by simpa [hmain] using h.playing, quiet := h.quiet
          joined := fun _ => hlive (.inl hmain), late := h.late, returned := h.returned
          dying := h.dying, exited := by simp [hexited] }

/-! ## Coming to an end -/

/-- The steps of the bridge itself. -/
def own : BridgeAct → Nat
  | .leave | .bus | .main => 1
  | .post | .enter => 0

/-- Steps left for the destructor, once no handler is connected. -/
def mainLeft : StopAt → Nat
  | .running => 5
  | .flagged => 4
  | .disconnected => 3
  | .silent => 2
  | .joined => 1
  | .gone => 0

/-- And for the thread on the bus, once the flag is raised. -/
def busLeft : BusAt → Nat
  | .popping => 2
  | .head | .holding _ | .dying _ => 1
  | .returned => 0

def stepsLeft (s : BridgeThreads) : Nat :=
  if s.exited.isSome then 0 else mainLeft s.main + busLeft s.bus + s.inside.toNat

/-- A stop that has cut the handler off. -/
structure CutOff (s : BridgeThreads) : Prop where
  inv : BridgeInv s
  connected : s.connected = false

/-- Who has severed the callback has begun to stop. -/
theorem CutOff.stopping {s : BridgeThreads} (h : CutOff s) : s.stopping = true := by
  refine h.inv.flag.2 fun hrunning => ?_
  have hconnected := h.inv.connected.2 (.inl hrunning)
  rw [h.connected] at hconnected
  cases hconnected

/-- It comes to its end, whatever is still posted. -/
theorem cutOff_next {s s' : BridgeThreads} {a : BridgeAct} (h : CutOff s)
    (hs : s.next a = some s') : CutOff s' ∧ own a + s'.stepsLeft ≤ s.stepsLeft := by
  have hinv := inv_next h.inv hs
  have hstopping := h.stopping
  have hconnected := h.connected
  obtain ⟨hexited, hmove⟩ := moves_of_next hs
  cases hmove with
  | post => exact ⟨⟨hinv, h.connected⟩, Nat.le_of_eq (Nat.zero_add _)⟩
  | enter hplaying hentered => cases hconnected.symm.trans hentered
  | leave hinside =>
      exact ⟨⟨hinv, h.connected⟩, by simp [stepsLeft, own, hinside, hexited]; omega⟩
  | finish hbus =>
      exact ⟨⟨hinv, h.connected⟩, by simp [stepsLeft, own, busLeft, hbus, hexited]; omega⟩
  | poll hbus hflag => cases hstopping.symm.trans hflag
  | timeout hbus =>
      exact ⟨⟨hinv, h.connected⟩, by simp [stepsLeft, own, busLeft, hbus, hexited]; omega⟩
  | pop hbus =>
      exact ⟨⟨hinv, h.connected⟩, by simp [stepsLeft, own, busLeft, hbus, hexited]; omega⟩
  | ignore hbus =>
      exact ⟨⟨hinv, h.connected⟩, by simp [stepsLeft, own, busLeft, hbus, hexited]; omega⟩
  | fail hbus hflag => cases hstopping.symm.trans hflag
  | exit hbus =>
      exact ⟨⟨hinv, h.connected⟩, by simp [stepsLeft, own, busLeft, hbus, hexited]; omega⟩
  | flag hmain =>
      have hrunning := h.inv.flag.1 hstopping
      exact absurd hmain hrunning
  | disconnect hmain =>
      exact ⟨⟨hinv, rfl⟩, by simp [stepsLeft, own, mainLeft, hmain, hexited]; omega⟩
  | silence hmain =>
      exact ⟨⟨hinv, h.connected⟩, by simp [stepsLeft, own, mainLeft, hmain, hexited]; omega⟩
  | join hmain =>
      exact ⟨⟨hinv, h.connected⟩, by simp [stepsLeft, own, mainLeft, hmain, hexited]; omega⟩
  | destroy hmain =>
      exact ⟨⟨hinv, h.connected⟩, by simp [stepsLeft, own, mainLeft, hmain, hexited]; omega⟩

/-- The bus thread is never stuck. -/
theorem stepBus_isSome {s : BridgeThreads} (h : s.bus ≠ .returned) :
    ∃ s', s.stepBus = some s' := by
  unfold stepBus
  cases hbus : s.bus with
  | head => exact ⟨_, rfl⟩
  | popping => cases s.queue <;> exact ⟨_, rfl⟩
  | holding late => exact ⟨_, rfl⟩
  | dying late => exact ⟨_, rfl⟩
  | returned => exact absurd hbus h

/-- Something of the bridge can always go on. -/
theorem CutOff.goes_on {s : BridgeThreads} (h : CutOff s) (hexited : s.exited = none) :
    s.main = .gone ∨ ∃ a s', own a = 1 ∧ s.next a = some s' := by
  have hleaves : s.next .leave = if s.inside then some { s with inside := false } else none :=
    if_neg (by simp [hexited])
  have hwatches : s.next .bus = s.stepBus := if_neg (by simp [hexited])
  have hstops : s.next .main = s.stepMain := if_neg (by simp [hexited])
  have hconnected := h.inv.connected
  rw [h.connected] at hconnected
  cases hmain : s.main with
  | running => exact absurd (hconnected.2 (.inl hmain)) (by simp)
  | flagged => exact absurd (hconnected.2 (.inr hmain)) (by simp)
  | disconnected =>
      cases hinside : s.inside with
      | true => exact .inr ⟨.leave, _, rfl, hleaves.trans (if_pos hinside)⟩
      | false =>
          refine .inr ⟨.main, { s with main := .silent, playing := false }, rfl, ?_⟩
          simp [hstops, stepMain, hmain, hinside]
  | silent =>
      by_cases hbus : s.bus = .returned
      · refine .inr ⟨.main, { s with main := .joined }, rfl, ?_⟩
        simp [hstops, stepMain, hmain, hbus]
      · obtain ⟨s', hs'⟩ := stepBus_isSome hbus
        exact .inr ⟨.bus, s', rfl, hwatches.trans hs'⟩
  | joined =>
      refine .inr ⟨.main, { s with main := .gone }, rfl, ?_⟩
      simp [hstops, stepMain, hmain]
  | gone => exact .inl rfl

/-! ## A producer that restarts -/

/-- An error that no stop has come before. -/
structure Faulty (s : BridgeThreads) : Prop where
  stopping : s.stopping = false
  pending : s.queue ≠ [] ∨ ∃ late, s.bus = .holding late ∨ s.bus = .dying late
  returned : s.bus ≠ .returned

/-- Steps of the thread on the bus until the process exits for it. -/
def exitLeft (s : BridgeThreads) : Nat :=
  if s.exited.isSome then 0
  else
    match s.bus with
    | .head => 4
    | .popping => 3
    | .holding _ => 2
    | .dying _ => 1
    | .returned => 0

def onBus : BridgeAct → Nat
  | .bus => 1
  | _ => 0

/-- An error brings the bus thread nearer to the exit. -/
theorem faulty_next {s s' : BridgeThreads} {a : BridgeAct} (h : Faulty s) (ha : a ≠ .main)
    (hs : s.next a = some s') : Faulty s' ∧ onBus a + s'.exitLeft ≤ s.exitLeft := by
  have hrunning := h.stopping
  obtain ⟨hexited, hmove⟩ := moves_of_next hs
  cases hmove with
  | post =>
      refine ⟨⟨h.stopping, .inl (by simp), h.returned⟩, ?_⟩
      exact Nat.le_of_eq (Nat.zero_add _)
  | enter => exact ⟨⟨h.stopping, h.pending, h.returned⟩, Nat.le_of_eq (Nat.zero_add _)⟩
  | leave => exact ⟨⟨h.stopping, h.pending, h.returned⟩, Nat.le_of_eq (Nat.zero_add _)⟩
  | finish hbus hstopping => cases hrunning.symm.trans hstopping
  | poll hbus =>
      have hpending := h.pending
      simp only [hbus, reduceCtorEq, or_self, exists_false, or_false] at hpending
      refine ⟨⟨h.stopping, .inl hpending, by simp⟩, ?_⟩
      simp [exitLeft, onBus, hexited, hbus]
  | timeout hbus hqueue =>
      have hpending := h.pending
      simp [hbus, hqueue] at hpending
  | pop hbus hqueue =>
      refine ⟨⟨h.stopping, .inr ⟨_, .inl rfl⟩, by simp⟩, ?_⟩
      simp [exitLeft, onBus, hexited, hbus]
  | ignore hbus hstopping => cases hrunning.symm.trans hstopping
  | fail hbus =>
      refine ⟨⟨h.stopping, .inr ⟨_, .inr rfl⟩, by simp⟩, ?_⟩
      simp [exitLeft, onBus, hexited, hbus]
  | exit hbus =>
      refine ⟨⟨h.stopping, h.pending, h.returned⟩, ?_⟩
      simp [exitLeft, onBus, hexited, hbus]
  | flag => exact absurd rfl ha
  | disconnect => exact absurd rfl ha
  | silence => exact absurd rfl ha
  | join => exact absurd rfl ha
  | destroy => exact absurd rfl ha

/-! ## Every run -/

/-- What holds of a bridge, whatever its threads have done. -/
structure BridgeStops (s : BridgeThreads) : Prop where
  /-- the process never exits for a message that came after the stop began -/
  exits : ∀ late ∈ s.exited, late = false
  /-- once `stop_pipeline` has returned, nothing is published and no thread is left -/
  quiet : s.main = .joined ∨ s.main = .gone →
    s.inside = false ∧ s.connected = false ∧ s.playing = false ∧ s.bus = .returned
  /-- a stop that has cut the handler off is done after six more steps of the bridge, in any order
  and whatever is posted, and there always is one to take -/
  ends : s.connected = false → ∀ acts t, Machine.exec next s acts = some t →
    (acts.map own).sum ≤ 6 ∧
      (t.main = .gone ∨ t.exited.isSome ∨ ∃ a t', own a = 1 ∧ t.next a = some t')
  /-- an error that no stop has come before ends the process after four steps of its thread,
  unless one comes -/
  noticed : s.stopping = false → s.queue ≠ [] → ∀ acts t, .main ∉ acts →
    Machine.exec next s acts = some t →
    (acts.map onBus).sum ≤ 4 ∧ (t.exited.isSome ∨ ∃ t', t.next .bus = some t')

/-- Six steps are left at most. -/
theorem stepsLeft_le {s : BridgeThreads} (h : CutOff s) : s.stepsLeft ≤ 6 := by
  have hconnected := h.inv.connected
  rw [h.connected] at hconnected
  have hmain : mainLeft s.main ≤ 3 := by
    cases hmain : s.main with
    | running => exact absurd (hconnected.2 (.inl hmain)) (by simp)
    | flagged => exact absurd (hconnected.2 (.inr hmain)) (by simp)
    | disconnected | silent | joined | gone => simp [mainLeft]
  have hbus : busLeft s.bus ≤ 2 := by cases s.bus <;> simp [busLeft]
  have hinside := Bool.toNat_le s.inside
  unfold stepsLeft
  split <;> omega

/-- **How a bridge goes down**, in every order of its threads. -/
theorem bridgeStops_run {acts : List BridgeAct} {s : BridgeThreads}
    (h : Machine.exec next init acts = some s) : BridgeStops s := by
  have hinv : BridgeInv s := Machine.exec_inv (fun _ _ _ h hs => inv_next h hs) inv_init h
  constructor
  case exits => exact hinv.exited
  case quiet =>
    intro hdone
    have hconnected : s.connected = false := by
      rw [← Bool.not_eq_true, hinv.connected]
      rcases hdone with hmain | hmain <;> simp [hmain]
    have hplaying : s.playing = false := by
      rw [← Bool.not_eq_true, hinv.playing]
      rcases hdone with hmain | hmain <;> simp [hmain]
    refine ⟨?_, hconnected, hplaying, hinv.joined hdone⟩
    rw [← Bool.not_eq_true]
    intro hinside
    cases hplaying.symm.trans (hinv.quiet hinside)
  case ends =>
    intro hconnected acts t hrun
    have hcut : CutOff s := ⟨hinv, hconnected⟩
    obtain ⟨hcut', hle⟩ : CutOff t ∧ (acts.map own).sum + t.stepsLeft ≤ s.stepsLeft :=
      Machine.exec_variant (P := fun _ => True) (fun _ _ _ h _ hs => cutOff_next h hs) hcut
        (fun _ _ => trivial) hrun
    have hbound := stepsLeft_le hcut
    refine ⟨by omega, ?_⟩
    cases hexited : t.exited with
    | some late => exact .inr (.inl rfl)
    | none => exact (hcut'.goes_on hexited).imp id .inr
  case noticed =>
    intro hstopping hqueue acts t hacts hrun
    have hreturned : s.bus ≠ .returned := by
      intro hbus
      cases hstopping.symm.trans (hinv.returned hbus)
    have hfaulty : Faulty s := ⟨hstopping, .inl hqueue, hreturned⟩
    have hothers : ∀ a ∈ acts, a ≠ .main := by
      rintro _ ha rfl
      exact hacts ha
    obtain ⟨hfaulty', hle⟩ : Faulty t ∧ (acts.map onBus).sum + t.exitLeft ≤ s.exitLeft :=
      Machine.exec_variant (P := fun a => a ≠ .main) (fun _ _ _ h ha hs => faulty_next h ha hs)
        hfaulty hothers hrun
    have hbound : s.exitLeft ≤ 4 := by
      unfold exitLeft
      split
      · omega
      · split <;> omega
    refine ⟨by omega, ?_⟩
    obtain ⟨t', ht'⟩ := stepBus_isSome hfaulty'.returned
    cases hexited : t.exited with
    | some late => exact .inl rfl
    | none => exact .inr ⟨t', (if_neg (by simp [hexited])).trans ht'⟩

/-- A stop while a sample is being published, in which the pipeline posts an error that the bus
has popped by the time it is checked. -/
def stoppedMidSample : List BridgeAct :=
  [.bus, .enter, .main, .post, .bus, .main, .leave, .bus, .main, .main, .main]

/-- The stop comes while a sample is being published. -/
theorem bridgeStops_stoppedMidSample : ∃ s, Machine.exec next init stoppedMidSample = some s ∧
    s.main = .gone ∧ s.exited = none ∧ BridgeStops s := by
  have hrun : Machine.exec next init stoppedMidSample =
      some { main := .gone, stopping := true, connected := false, playing := false, inside := false
             queue := [], bus := .returned, exited := none } := by
    decide
  exact ⟨_, hrun, rfl, rfl, bridgeStops_run hrun⟩

end BridgeThreads

end CamDriver
