import CamDriver.Supervisor
import Mathlib

/-!
# CamDriver.SupervisorRun

What the runs of the supervisor keep: how often a plugin is respawned, and the status that is
returned once the core has exited.

Both depend on when the supervisor notices an exit.  A plugin is given up after its restarts
unless one of the exits it counts is noticed late (`bounded_iff_timely`), and the status of the
core is returned unless the supervisor is told to stop before it looks (`InTime`).
-/

namespace CamDriver.Supervisor

/-! ## The steps -/

/-- A step takes at least what it sleeps. -/
theorem Clock.now_le_after (w : World) (c : Clock) (sleep : Nat) :
    c.now + sleep ≤ (c.after w sleep).now :=
  Nat.le_add_right _ _

/-- The signal has come. -/
theorem World.stopping_iff {w : World} {now : Nat} :
    w.stopping now = true ↔ ∃ stopAt, w.stopAt = some stopAt ∧ stopAt ≤ now := by
  rw [stopping]
  cases w.stopAt <;> simp

theorem World.stopping_mono {w : World} {now later : Nat} (h : w.stopping now = true)
    (hle : now ≤ later) : w.stopping later = true := by
  obtain ⟨stopAt, hstopAt, hstopped⟩ := World.stopping_iff.mp h
  exact World.stopping_iff.mpr ⟨stopAt, hstopAt, hstopped.trans hle⟩

/-- The process is one that a service has, started before that time: it ends when that says. -/
def StartedBy (w : World) (i : Nat) (p : Process) (startedAt : Nat) : Prop :=
  ∃ attempt life, w.fate i attempt = .runs life ∧
    ∀ ends rc, p.ends = some (ends, rc) → ∃ age, life = some (age, rc) ∧ ends ≤ startedAt + age

/-- A spawn succeeds, or fails with an OSError. -/
theorem spawn_cases (w : World) (i : Nat) (c : Clock) (s : Service) :
    ∃ c' : Clock, c.now ≤ c'.now ∧
      (s.spawn w i c = (c', { s with attempts := s.attempts + 1 }, false) ∨
        ∃ p, StartedBy w i p c'.now ∧ s.spawn w i c =
          (c', { s with attempts := s.attempts + 1, proc := some p, startedAt := c'.now },
            true)) := by
  rw [Service.spawn]
  cases hfate : w.fate i s.attempts with
  | fails => exact ⟨c.after w 0, Clock.now_le_after w c 0, .inl rfl⟩
  | runs life =>
      have hstarted := Clock.now_le_after w (c.after w 0) 0
      refine ⟨(c.after w 0).after w 0, (Clock.now_le_after w c 0).trans hstarted, .inr ⟨_, ?_, rfl⟩⟩
      refine ⟨s.attempts, life, hfate, fun ends rc hends => ?_⟩
      obtain ⟨⟨age, rc'⟩, hlife, heq⟩ := Option.map_eq_some_iff.mp hends
      obtain ⟨rfl, rfl⟩ := Prod.mk.inj heq
      exact ⟨age, hlife, Nat.add_le_add_right hstarted age⟩

/-- A respawn counts one attempt, and sleeps before it. -/
theorem respawn_cases (w : World) (i : Nat) (c : Clock) (s : Service) :
    ∃ c' s', s.respawn w i c = (c', s') ∧ c.now ≤ c'.now ∧ s'.uptimes = s.uptimes ∧
      s'.restart = s.restart ∧ s'.critical = s.critical ∧ s'.restarts = s.restarts ∧
      s'.attempts = s.attempts + 1 ∧ (s.proc ≠ none → s'.proc ≠ none) ∧ c.now ≤ s'.startedAt ∧
      (s'.proc = s.proc ∨ ∀ p, s'.proc = some p → StartedBy w i p s'.startedAt) := by
  rw [Service.respawn]
  obtain ⟨c', hle, hfails | ⟨p, hstarted, hruns⟩⟩ := spawn_cases w i c s
  · rw [hfails]
    have hlater := hle.trans (Clock.now_le_after w c' 0)
    exact ⟨_, _, rfl, hlater, rfl, rfl, rfl, rfl, rfl, id, hlater, .inl rfl⟩
  · rw [hruns]
    refine ⟨_, _, rfl, hle, rfl, rfl, rfl, rfl, rfl, fun _ => Option.some_ne_none p, hle, .inr ?_⟩
    rintro p' ⟨⟩
    exact hstarted

/-- What becomes of a plugin whose exit is noticed at `c`; `budget` is what is left of its
restarts. -/
inductive Handled (w : World) (i : Nat) (c c' : Clock) (s s' : Service) (budget : Option Nat) :
    Prop where
  | disabled (restart : s.restart = false) (proc : s'.proc = none)
      (attempts : s'.attempts = s.attempts)
  | givenUp (spent : budget = none) (proc : s'.proc = none) (attempts : s'.attempts = s.attempts)
  | stopped (restart : s.restart = true) (stopping : w.stopping c'.now = true)
      (spent : budget = some s'.restarts) (proc : s'.proc = s.proc)
      (attempts : s'.attempts = s.attempts)
  | respawned (restart : s.restart = true) (spent : budget = some s'.restarts)
      (proc : s.proc ≠ none → s'.proc ≠ none) (attempts : s'.attempts = s.attempts + 1)
      (startedAt : c.now ≤ s'.startedAt)
      (ends : s'.proc = s.proc ∨ ∀ p, s'.proc = some p → StartedBy w i p s'.startedAt)

/-- A plugin that has ended is respawned or given up; the uptime decides on the counter. -/
theorem handlePluginExit_cases (w : World) (i : Nat) (c : Clock) (s : Service) {uptime : Nat}
    (hup : (c.after w 0).now - s.startedAt = uptime) :
    ∃ c' s', handlePluginExit w i c s = (c', s') ∧ (c.after w 0).now ≤ c'.now ∧
      s'.uptimes = s.uptimes ++ [uptime] ∧ s'.restart = s.restart ∧ s'.critical = s.critical ∧
      Handled w i c c' s s'
        (Budget.spend restartMax (some s.restarts) (decide (restartReset ≤ uptime))) := by
  have hslept : (c.after w 0).now ≤ ((c.after w 0).after w restartBackoff).now :=
    Nat.le_of_add_right_le (Clock.now_le_after w (c.after w 0) restartBackoff)
  obtain ⟨t, ht⟩ : ∃ t, s.noticeExit (c.after w 0).now = t := ⟨_, rfl⟩
  have huptimes : t.uptimes = s.uptimes ++ [uptime] := by rw [← ht, ← hup]; rfl
  have hrestarts : t.restarts = if restartReset ≤ uptime then 0 else s.restarts := by
    rw [← ht, ← hup]
    rfl
  have hkept : t.restart = s.restart ∧ t.critical = s.critical ∧ t.proc = s.proc ∧
      t.attempts = s.attempts := by
    rw [← ht]
    exact ⟨rfl, rfl, rfl, rfl⟩
  have hspend : Budget.spend restartMax (some s.restarts) (decide (restartReset ≤ uptime)) =
      if restartMax ≤ t.restarts then none else some (t.restarts + 1) := by
    simp only [Budget.spend, decide_eq_true_eq, hrestarts]
  obtain ⟨hrestart, hcritical, hproc, hattempts⟩ := hkept
  rw [hspend]
  simp only [handlePluginExit, ht]
  by_cases hdisabled : t.restart = false
  · rw [if_pos hdisabled]
    exact ⟨_, _, rfl, le_rfl, huptimes, hrestart, hcritical,
      .disabled (hrestart ▸ hdisabled) rfl hattempts⟩
  have henabled : s.restart = true := hrestart ▸ Bool.eq_true_of_not_eq_false hdisabled
  rw [if_neg hdisabled]
  by_cases hover : restartMax ≤ t.restarts
  · rw [if_pos hover, if_pos hover]
    exact ⟨_, _, rfl, le_rfl, huptimes, hrestart, hcritical, .givenUp rfl rfl hattempts⟩
  rw [if_neg hover, if_neg hover]
  by_cases hstopping : w.stopping ((c.after w 0).after w restartBackoff).now = true
  · rw [if_pos hstopping]
    exact ⟨_, _, rfl, hslept, huptimes, hrestart, hcritical,
      .stopped henabled hstopping rfl hproc hattempts⟩
  rw [if_neg hstopping]
  obtain ⟨c', s', heq, hle, huptimes', hrestart', hcritical', hrestarts', hattempts', hproc',
    hstarted, hends⟩ :=
    respawn_cases w i ((c.after w 0).after w restartBackoff) { t with restarts := t.restarts + 1 }
  refine ⟨c', s', heq, hslept.trans hle, huptimes'.trans huptimes, hrestart'.trans hrestart,
    hcritical'.trans hcritical, .respawned henabled (congrArg some hrestarts'.symm) ?_ ?_ ?_ ?_⟩
  · intro halive
    exact hproc' (hproc ▸ halive)
  · rw [hattempts', ← hattempts]
  · exact ((Clock.now_le_after w c 0).trans hslept).trans hstarted
  · rwa [← hproc]

theorem now_le_handlePluginExit (w : World) (i : Nat) (c : Clock) (s : Service) :
    c.now ≤ (handlePluginExit w i c s).1.now := by
  obtain ⟨c', s', heq, hle, -⟩ := handlePluginExit_cases w i c s rfl
  rw [heq]
  exact (Clock.now_le_after w c 0).trans hle

/-- A plugin stays a plugin. -/
theorem critical_handlePluginExit (w : World) (i : Nat) (c : Clock) (s : Service) :
    (handlePluginExit w i c s).2.critical = s.critical := by
  obtain ⟨c', s', heq, -, -, -, hcritical, -⟩ := handlePluginExit_cases w i c s rfl
  rw [heq, hcritical]

/-! ## How often a plugin is respawned -/

namespace Service

/-- Which of its exits refill the restarts of a plugin. -/
def refills (s : Service) : List Bool := s.uptimes.map fun uptime => decide (restartReset ≤ uptime)

/-- It is respawned no more often than it may, and given up at the next exit. -/
def Bounded (s : Service) : Prop :=
  s.attempts - 1 ≤ restartMax ∧ (restartMax < s.uptimes.length → s.proc = none)

/-- Where there are more exits than restarts, none of those that count is noticed late. -/
def Timely (s : Service) : Prop :=
  restartMax < s.uptimes.length →
    ∀ uptime ∈ (s.uptimes.take (restartMax + 1)).tail, uptime < restartReset

/-- How the spawns of a plugin go with its exits, between two turns of the loop. -/
inductive Tallied (stopping : Bool) (s : Service) : Prop where
  | absent (proc : s.proc = none) (exits : s.uptimes = []) (attempts : s.attempts ≤ 1)
  | spawned (proc : s.proc ≠ none) (spent : Budget.spent restartMax s.refills = some s.restarts)
      (restart : s.uptimes ≠ [] → s.restart = true) (attempts : s.attempts = s.uptimes.length + 1)
  | stopped (stopping : stopping = true) (proc : s.proc ≠ none)
      (spent : Budget.spent restartMax s.refills = some s.restarts)
      (attempts : s.attempts = s.uptimes.length)
  | disabled (proc : s.proc = none) (exits : s.uptimes.length = 1) (attempts : s.attempts = 1)
  | givenUp (proc : s.proc = none) (spent : Budget.spent restartMax s.refills = none)
      (before : Budget.spent restartMax s.refills.dropLast ≠ none)
      (attempts : s.attempts = s.uptimes.length)

/-- A tally holds on when the stop comes. -/
theorem Tallied.mono {s : Service} {stopping later : Bool} (hs : s.Tallied stopping)
    (hlater : stopping = true → later = true) : s.Tallied later := by
  cases hs with
  | absent proc exits attempts => exact .absent proc exits attempts
  | spawned proc spent restart attempts => exact .spawned proc spent restart attempts
  | stopped stopping proc spent attempts => exact .stopped (hlater stopping) proc spent attempts
  | disabled proc exits attempts => exact .disabled proc exits attempts
  | givenUp proc spent before attempts => exact .givenUp proc spent before attempts

@[simp] theorem length_refills (s : Service) : s.refills.length = s.uptimes.length := by
  simp [refills]

/-- The exits are noticed in time if the budget is spent by the first of them. -/
theorem timely_iff (s : Service) :
    s.Timely ↔ (restartMax < s.uptimes.length →
      Budget.spent restartMax (s.refills.take (restartMax + 1)) = none) := by
  refine imp_congr_right fun hmore => ?_
  have hlen : (s.refills.take (restartMax + 1)).length = restartMax + 1 := by
    rw [List.length_take, length_refills]
    omega
  rw [Budget.spent_eq_none_iff restartMax hlen, refills, ← List.map_take, ← List.map_tail]
  simp only [List.forall_mem_map, decide_eq_false_iff_not, not_le]

/-- The restarts bound the respawns just where the exits that count are noticed in time. -/
theorem Tallied.bounded_iff_timely {s : Service} {stopping : Bool} (hs : s.Tallied stopping) :
    s.Bounded ↔ s.Timely := by
  rw [timely_iff, Bounded]
  -- within its restarts a plugin is both
  by_cases hmore : restartMax < s.uptimes.length
  swap
  · have hattempts : s.attempts - 1 ≤ restartMax := by
      cases hs <;> simp_all <;> omega
    simp [hmore, hattempts]
  have hfront : Budget.spent restartMax (s.refills.take (restartMax + 1)) = none →
      Budget.spent restartMax s.refills = none := by
    intro hnone
    rw [← List.take_append_drop (restartMax + 1) s.refills]
    exact Budget.spent_append_of_none restartMax hnone _
  simp only [hmore, forall_const]
  have hpos : 0 < restartMax := by decide
  cases hs with
  | absent proc exits attempts => simp [exits] at hmore
  | spawned proc spent restart attempts =>
      refine iff_of_false (fun h => proc h.2) fun h => ?_
      simp [hfront h] at spent
  | stopped stopping proc spent attempts =>
      refine iff_of_false (fun h => proc h.2) fun h => ?_
      simp [hfront h] at spent
  | disabled proc exits attempts => omega
  | givenUp proc spent before attempts =>
      by_cases hlen : s.uptimes.length = restartMax + 1
      · rw [List.take_of_length_le (by simp [hlen])]
        exact iff_of_true ⟨by omega, proc⟩ spent
      · -- it has found a restart at the exit that should have been its last
        refine iff_of_false (fun h => by omega) fun h => before ?_
        have htake : s.refills.dropLast.take (restartMax + 1) =
            s.refills.take (restartMax + 1) := by
          rw [List.dropLast_eq_take, List.take_take, length_refills]
          congr 1
          omega
        rw [← List.take_append_drop (restartMax + 1) s.refills.dropLast, htake]
        exact Budget.spent_append_of_none restartMax h _

end Service

/-- An exit that is noticed keeps the tally. -/
theorem tallied_handlePluginExit (w : World) (i : Nat) (c : Clock) {s : Service}
    (hs : s.Tallied false) (hproc : s.proc ≠ none) :
    (handlePluginExit w i c s).2.Tallied (w.stopping (handlePluginExit w i c s).1.now) := by
  obtain ⟨c', s', heq, -, huptimes, hrestart, -, hhandled⟩ := handlePluginExit_cases w i c s rfl
  rw [heq]
  have hrefills : ∃ late, s'.refills = s.refills ++ [late] ∧
      Handled w i c c' s s' (Budget.spend restartMax (some s.restarts) late) :=
    ⟨_, by rw [Service.refills, huptimes, List.map_append]; rfl, hhandled⟩
  obtain ⟨late, hrefills, hhandled⟩ := hrefills
  have hlen : s'.uptimes.length = s.uptimes.length + 1 := by rw [huptimes, List.length_append]; rfl
  cases hs with
  | absent proc exits attempts => exact absurd proc hproc
  | stopped stopping proc spent attempts => cases stopping
  | disabled proc exits attempts => exact absurd proc hproc
  | givenUp proc spent before attempts => exact absurd proc hproc
  | spawned proc spent restart attempts =>
      have hspent : Budget.spent restartMax s'.refills =
          Budget.spend restartMax (some s.restarts) late := by
        rw [hrefills, Budget.spent_concat, spent]
      rw [← hspent] at hhandled
      cases hhandled with
      | disabled hrestart' proc' attempts' =>
          have hnone : s.uptimes = [] := by
            by_contra hsome
            rw [restart hsome] at hrestart'
            cases hrestart'
          exact .disabled proc' (by simp [hlen, hnone]) (by simp [attempts', attempts, hnone])
      | givenUp spent' proc' attempts' =>
          refine .givenUp proc' spent' ?_ (by rw [attempts', attempts, hlen])
          rw [hrefills, List.dropLast_concat, spent]
          exact Option.some_ne_none _
      | stopped restart' stopping spent' proc' attempts' =>
          exact .stopped stopping (proc' ▸ proc) spent' (by rw [attempts', attempts, hlen])
      | respawned restart' spent' proc' attempts' _ _ =>
          exact .spawned (proc' proc) spent' (fun _ => hrestart.trans restart')
            (by rw [attempts', attempts, hlen])

/-! ## A turn of the loop -/

/-- A service that is looked at is left alone, or its exit is noticed. -/
theorem sweep_cons_cases (w : World) (playback : Bool) (i : Nat) (c : Clock) (s : Service)
    (rest : List Service) :
    (s.proc.bind (·.poll (c.after w 0).now) = none ∧
        sweep w playback i c (s :: rest) =
          ((sweep w playback (i + 1) (c.after w 0) rest).1,
            s :: (sweep w playback (i + 1) (c.after w 0) rest).2.1,
            (sweep w playback (i + 1) (c.after w 0) rest).2.2)) ∨
      ∃ rc, s.proc.bind (·.poll (c.after w 0).now) = some rc ∧
        (s.critical = true ∧
            sweep w playback i c (s :: rest) =
              (c.after w 0, s :: rest, some (coreStatus playback rc)) ∨
          s.critical = false ∧ ∃ c' s', handlePluginExit w i (c.after w 0) s = (c', s') ∧
            sweep w playback i c (s :: rest) =
              ((sweep w playback (i + 1) c' rest).1, s' :: (sweep w playback (i + 1) c' rest).2.1,
                (sweep w playback (i + 1) c' rest).2.2)) := by
  rw [sweep]
  cases hpoll : s.proc.bind (·.poll (c.after w 0).now) with
  | none => exact .inl ⟨rfl, rfl⟩
  | some rc =>
      refine .inr ⟨rc, rfl, ?_⟩
      cases hcritical : s.critical with
      | true => exact .inl ⟨rfl, rfl⟩
      | false => exact .inr ⟨rfl, _, _, rfl, rfl⟩

/-- A process that has ended was there. -/
theorem proc_ne_none_of_poll {s : Service} {now : Nat} {rc : Int}
    (h : s.proc.bind (·.poll now) = some rc) : s.proc ≠ none := by
  intro hnone
  rw [hnone] at h
  cases h

theorem now_le_sweep (w : World) (playback : Bool) (services : List Service) (i : Nat)
    (c : Clock) : c.now ≤ (sweep w playback i c services).1.now := by
  induction services generalizing i c with
  | nil => exact le_rfl
  | cons s rest ih =>
      have hlook : c.now ≤ (c.after w 0).now := Clock.now_le_after w c 0
      obtain ⟨-, heq⟩ | ⟨rc, -, ⟨-, heq⟩ | ⟨-, c', s', hhandled, heq⟩⟩ :=
        sweep_cons_cases w playback i c s rest <;> rw [heq]
      · exact hlook.trans (ih (i + 1) (c.after w 0))
      · exact hlook
      · have hhandle := now_le_handlePluginExit w i (c.after w 0) s
        rw [hhandled] at hhandle
        exact (hlook.trans hhandle).trans (ih (i + 1) c')

/-- Every plugin is tallied, as far as the supervisor is told to stop. -/
def AllTallied (stopping : Bool) (services : List Service) : Prop :=
  ∀ s ∈ services, s.critical = false → s.Tallied stopping

/-- The tallies hold on when the stop comes. -/
theorem AllTallied.mono {stopping later : Bool} {services : List Service}
    (h : AllTallied stopping services) (hlater : stopping = true → later = true) :
    AllTallied later services := fun s hs hplugin => (h s hs hplugin).mono hlater

theorem allTallied_cons {stopping : Bool} {s : Service} {rest : List Service} :
    AllTallied stopping (s :: rest) ↔
      (s.critical = false → s.Tallied stopping) ∧ AllTallied stopping rest :=
  List.forall_mem_cons

/-- A turn of the loop keeps the tallies. -/
theorem allTallied_sweep (w : World) (playback : Bool) {services : List Service} (i : Nat)
    (c : Clock) (h : AllTallied false services) :
    AllTallied (w.stopping (sweep w playback i c services).1.now)
      (sweep w playback i c services).2.1 := by
  induction services generalizing i c with
  | nil => exact fun s hs => absurd hs List.not_mem_nil
  | cons s rest ih =>
      obtain ⟨hs, hrest⟩ := allTallied_cons.mp h
      obtain ⟨-, heq⟩ | ⟨rc, hpoll, ⟨-, heq⟩ | ⟨hplugin, c', s', hhandled, heq⟩⟩ :=
        sweep_cons_cases w playback i c s rest <;> rw [heq]
      · exact allTallied_cons.mpr ⟨fun hplugin => (hs hplugin).mono (by simp), ih _ _ hrest⟩
      · exact h.mono (by simp)
      · have htallied := tallied_handlePluginExit w i (c.after w 0) (hs hplugin)
          (proc_ne_none_of_poll hpoll)
        rw [hhandled] at htallied
        refine allTallied_cons.mpr ⟨fun _ => htallied.mono fun hstopping => ?_, ih _ _ hrest⟩
        exact World.stopping_mono hstopping (now_le_sweep w playback rest (i + 1) c')

/-- Plugins end no sweep. -/
theorem sweep_plugins (w : World) (playback : Bool) {services : List Service} (i : Nat) (c : Clock)
    (h : ∀ s ∈ services, s.critical = false) :
    (sweep w playback i c services).2.2 = none ∧
      ∀ s ∈ (sweep w playback i c services).2.1, s.critical = false := by
  induction services generalizing i c with
  | nil => exact ⟨rfl, fun s hs => absurd hs List.not_mem_nil⟩
  | cons s rest ih =>
      obtain ⟨hplugin, hrest⟩ := List.forall_mem_cons.mp h
      obtain ⟨-, heq⟩ | ⟨rc, -, ⟨hcritical, -⟩ | ⟨-, c', s', hhandled, heq⟩⟩ :=
        sweep_cons_cases w playback i c s rest
      · rw [heq]
        obtain ⟨hnone, hplugins⟩ := ih (i + 1) (c.after w 0) hrest
        exact ⟨hnone, List.forall_mem_cons.mpr ⟨hplugin, hplugins⟩⟩
      · rw [hplugin] at hcritical
        cases hcritical
      · have hcritical := critical_handlePluginExit w i (c.after w 0) s
        rw [hhandled] at hcritical
        rw [heq]
        obtain ⟨hnone, hplugins⟩ := ih (i + 1) c' hrest
        exact ⟨hnone, List.forall_mem_cons.mpr ⟨hcritical.trans hplugin, hplugins⟩⟩

/-! ## The start -/

/-- What the first spawn makes of a service. -/
inductive Launched (s : Service) : Service → Prop where
  | skipped : Launched s s
  | failed : Launched s { s with attempts := s.attempts + 1 }
  | spawned (p : Process) (startedAt : Nat) :
      Launched s { s with attempts := s.attempts + 1, proc := some p, startedAt := startedAt }

/-- A launched service is the one that was built. -/
theorem Launched.critical {s s' : Service} (h : Launched s s') : s'.critical = s.critical := by
  cases h <;> rfl

/-- The start launches all of them. -/
theorem startServices_launched (w : World) (services : List Service) (i : Nat) (c : Clock) :
    List.Forall₂ Launched services (startServices w i c services).2.1 := by
  have hskipped : ∀ rest : List Service, List.Forall₂ Launched rest rest :=
    fun rest => List.forall₂_same.mpr fun s _ => .skipped
  induction services generalizing i c with
  | nil => exact .nil
  | cons s rest ih =>
      rw [startServices]
      by_cases hstopping : w.stopping c.now = true
      · rw [if_pos hstopping]
        exact hskipped (s :: rest)
      rw [if_neg hstopping]
      obtain ⟨c', -, hfails | ⟨p, -, hruns⟩⟩ := spawn_cases w i c s
      · rw [hfails]
        dsimp only
        split
        · exact .cons .failed (hskipped rest)
        · exact .cons .failed (ih (i + 1) c')
      · rw [hruns]
        exact .cons (.spawned p c'.now) (ih (i + 1) _)

/-- What holds of each before holds, launched, of each after. -/
theorem forall_mem_of_launched {P Q : Service → Prop}
    (hPQ : ∀ {s s'}, Launched s s' → P s → Q s') {services services' : List Service}
    (h : List.Forall₂ Launched services services') (hP : ∀ s ∈ services, P s) :
    ∀ s ∈ services', Q s := by
  induction h with
  | nil => exact fun s hs => absurd hs List.not_mem_nil
  | cons hs hrest ih =>
      obtain ⟨hPs, hPrest⟩ := List.forall_mem_cons.mp hP
      exact List.forall_mem_cons.mpr ⟨hPQ hs hPs, ih hPrest⟩

/-- A service as it is built. -/
structure Fresh (s : Service) : Prop where
  proc : s.proc = none
  restarts : s.restarts = 0
  attempts : s.attempts = 0
  uptimes : s.uptimes = []

theorem Fresh.tallied {s s' : Service} (hs : Fresh s) (h : Launched s s') : s'.Tallied false := by
  obtain ⟨hproc, hrestarts, hattempts, huptimes⟩ := hs
  cases h with
  | skipped => exact .absent hproc huptimes (by omega)
  | failed => exact .absent hproc huptimes (by simp [hattempts])
  | spawned p startedAt =>
      refine .spawned (Option.some_ne_none p) ?_ ?_ ?_
      · simp [Service.refills, huptimes, hrestarts]
      · intro hexits
        exact absurd huptimes hexits
      · simp [hattempts, huptimes]

theorem Sensor.fresh_buildServices (sensor : Sensor) : ∀ s ∈ sensor.buildServices, Fresh s := by
  refine List.forall_mem_cons.mpr ⟨⟨rfl, rfl, rfl, rfl⟩, fun s hs => ?_⟩
  obtain ⟨p, -, hp⟩ := List.mem_filterMap.mp hs
  rw [Sensor.service] at hp
  split at hp
  · cases hp
  split at hp
  · cases hp
  obtain ⟨cmd, -, rfl⟩ := Option.map_eq_some_iff.mp hp
  exact ⟨rfl, rfl, rfl, rfl⟩

/-- The core is the one service whose exit ends the sensor. -/
theorem Sensor.plugin_not_critical (sensor : Sensor) :
    ∀ s ∈ sensor.plugins.filterMap sensor.service, s.critical = false := by
  intro s hs
  obtain ⟨p, -, hp⟩ := List.mem_filterMap.mp hs
  rw [Sensor.service] at hp
  split at hp
  · cases hp
  split at hp
  · cases hp
  obtain ⟨cmd, -, rfl⟩ := Option.map_eq_some_iff.mp hp
  rfl

theorem allTallied_start (w : World) (sensor : Sensor) :
    AllTallied false (start w sensor).services :=
  fun s hs _ => forall_mem_of_launched (fun hlaunched hfresh => hfresh.tallied hlaunched)
    (startServices_launched w sensor.buildServices 0 { now := 0, steps := 0 })
    sensor.fresh_buildServices s hs

/-- Only the core can keep the supervisor from starting. -/
theorem startServices_plugins (w : World) {services : List Service} (i : Nat) (c : Clock)
    (h : ∀ s ∈ services, s.critical = false) : (startServices w i c services).2.2 = true := by
  induction services generalizing i c with
  | nil => rfl
  | cons s rest ih =>
      obtain ⟨hplugin, hrest⟩ := List.forall_mem_cons.mp h
      rw [startServices]
      split
      · rfl
      obtain ⟨c', -, hfails | ⟨p, -, hruns⟩⟩ := spawn_cases w i c s
      · rw [hfails]
        dsimp only
        rw [if_neg (by simp [hplugin])]
        exact ih (i + 1) c' hrest
      · rw [hruns]
        exact ih (i + 1) _ hrest

/-! ## The run -/

/-- The supervisor works for a core, which comes first. -/
structure State.Led (s : State) (core : Service) : Prop where
  critical : core.critical = true
  services : ∃ plugins, s.services = core :: plugins ∧ ∀ p ∈ plugins, p.critical = false

theorem led_start (w : World) (sensor : Sensor) : ∃ core, (start w sensor).Led core := by
  have hlaunched := startServices_launched w sensor.buildServices 0 { now := 0, steps := 0 }
  rw [Sensor.buildServices, List.forall₂_cons_left_iff] at hlaunched
  obtain ⟨core, plugins, hcore, hplugins, heq⟩ := hlaunched
  refine ⟨core, hcore.critical, plugins, heq, ?_⟩
  exact forall_mem_of_launched (fun hlaunched hplugin => hlaunched.critical.trans hplugin) hplugins
    sensor.plugin_not_critical

/-- What a turn of the loop can do: nothing once the supervisor has left, leave where it is
told to stop, or sweep. -/
theorem monitor_cases (w : World) (playback : Bool) (s : State) :
    ((∃ status, s.result = some status) ∧ s.monitor w playback = s) ∨
    (s.result = none ∧ w.stopping s.clock.now = true ∧
      s.monitor w playback = { s with result := some 0 }) ∨
    (s.result = none ∧ w.stopping s.clock.now = false ∧ ∃ c services status,
      sweep w playback 0 s.clock s.services = (c, services, status) ∧
        s.monitor w playback =
          { clock := if status = none then c.after w monitorPause else c
            services, result := status }) := by
  rw [State.monitor]
  cases hresult : s.result with
  | some status => exact .inl ⟨⟨status, rfl⟩, rfl⟩
  | none =>
      dsimp only
      by_cases hstopping : w.stopping s.clock.now = true
      · rw [if_pos hstopping]
        exact .inr (.inl ⟨rfl, hstopping, rfl⟩)
      rw [if_neg hstopping]
      obtain ⟨⟨c, services, status⟩, heq⟩ : ∃ r, sweep w playback 0 s.clock s.services = r :=
        ⟨_, rfl⟩
      refine .inr (.inr ⟨rfl, Bool.eq_false_of_not_eq_true hstopping, c, services, status, heq, ?_⟩)
      rw [heq]
      cases status <;> rfl

/-- A turn of the loop of a supervisor that works for a core. -/
theorem monitor_cases_of_led (w : World) (playback : Bool) {s : State} {core : Service}
    (hled : s.Led core) (hrunning : s.result = none) :
    (w.stopping s.clock.now = true ∧ (s.monitor w playback).result = some 0) ∨
    (w.stopping s.clock.now = false ∧ ∃ rc,
      core.proc.bind (·.poll (s.clock.after w 0).now) = some rc ∧
        (s.monitor w playback).result = some (coreStatus playback rc)) ∨
    (core.proc.bind (·.poll (s.clock.after w 0).now) = none ∧
      (s.monitor w playback).result = none ∧ (s.monitor w playback).Led core ∧
        s.clock.now + monitorPause ≤ (s.monitor w playback).clock.now) := by
  obtain ⟨hcritical, plugins, hservices, hplugins⟩ := hled
  obtain ⟨⟨status, hleft⟩, -⟩ | ⟨-, hstopping, heq⟩ |
      ⟨-, hgoing, c, services, status, hsweep, heq⟩ := monitor_cases w playback s
  · rw [hrunning] at hleft
    cases hleft
  · exact .inl ⟨hstopping, by rw [heq]⟩
  rw [hservices] at hsweep
  obtain ⟨hpoll, hcons⟩ | ⟨rc, hpoll, ⟨-, hcons⟩ | ⟨hplugin, -⟩⟩ :=
    sweep_cons_cases w playback 0 s.clock core plugins
  · obtain ⟨hnone, hplugins'⟩ := sweep_plugins w playback 1 (s.clock.after w 0) hplugins
    have hle := now_le_sweep w playback plugins 1 (s.clock.after w 0)
    rw [hcons, hnone] at hsweep
    obtain ⟨rfl, hrest⟩ := Prod.mk.inj hsweep
    obtain ⟨rfl, rfl⟩ := Prod.mk.inj hrest
    rw [heq]
    refine .inr (.inr ⟨hpoll, rfl, ⟨hcritical, _, rfl, hplugins'⟩, ?_⟩)
    calc s.clock.now + monitorPause
        ≤ (sweep w playback 1 (s.clock.after w 0) plugins).1.now + monitorPause :=
          Nat.add_le_add_right ((Clock.now_le_after w s.clock 0).trans hle) monitorPause
      _ ≤ _ := Clock.now_le_after w _ monitorPause
  · rw [hcons] at hsweep
    obtain ⟨-, hrest⟩ := Prod.mk.inj hsweep
    refine .inr (.inl ⟨hgoing, rc, hpoll, ?_⟩)
    rw [heq, ← (Prod.mk.inj hrest).2]
  · rw [hcritical] at hplugin
    cases hplugin

theorem allTallied_monitor {w : World} (playback : Bool) {s : State}
    (h : AllTallied (w.stopping s.clock.now) s.services) :
    AllTallied (w.stopping (s.monitor w playback).clock.now) (s.monitor w playback).services := by
  obtain ⟨-, heq⟩ | ⟨-, -, heq⟩ | ⟨-, hgoing, c, services, status, hsweep, heq⟩ :=
    monitor_cases w playback s
  · rwa [heq]
  · rwa [heq]
  rw [hgoing] at h
  have hswept := allTallied_sweep w playback 0 s.clock h
  rw [hsweep] at hswept
  rw [heq]
  refine hswept.mono fun hstopping => World.stopping_mono hstopping ?_
  have hpause := Nat.le_of_add_right_le (Clock.now_le_after w c monitorPause)
  dsimp only
  split
  · exact hpause
  · exact le_rfl

/-- In every state of every run, the plugins are tallied. -/
theorem allTallied_run (w : World) (sensor : Sensor) (n : Nat) :
    AllTallied (w.stopping (run w sensor n).clock.now) (run w sensor n).services := by
  induction n with
  | zero => exact (allTallied_start w sensor).mono (by simp)
  | succ n ih =>
      rw [run_succ]
      exact allTallied_monitor sensor.playback ih

/-- The end of the core, if it ends on its own. -/
def coreEnds (w : World) (sensor : Sensor) : Option (Nat × Int) :=
  (start w sensor).services.head?.bind fun core => core.proc.bind Process.ends

/-- Whenever the supervisor looks whether it is told to stop and is, the core still runs. -/
def InTime (w : World) (sensor : Sensor) (ended : Nat) : Prop :=
  ∀ n, (run w sensor n).result = none → ended ≤ (run w sensor n).clock.now →
    w.stopping (run w sensor n).clock.now = false

section Core

variable {w : World} {sensor : Sensor} {ended : Nat} {rc : Int}
  (hends : coreEnds w sensor = some (ended, rc))
include hends

/-- The core of the run, and how it answers. -/
theorem exists_core :
    ∃ core, (start w sensor).Led core ∧
      ∀ now, core.proc.bind (·.poll now) = if ended ≤ now then some rc else none := by
  obtain ⟨core, hled⟩ := led_start w sensor
  refine ⟨core, hled, fun now => ?_⟩
  obtain ⟨-, plugins, hservices, -⟩ := hled
  rw [coreEnds, hservices, List.head?_cons, Option.bind_some] at hends
  obtain ⟨p, hp, hpends⟩ := Option.bind_eq_some_iff.mp hends
  rw [hp, Option.bind_some, Process.poll, hpends]

/-- A core that can end has been spawned. -/
theorem start_result : (start w sensor).result = none := by
  have hplugins := fun c => startServices_plugins w 1 c sensor.plugin_not_critical
  rw [coreEnds] at hends
  simp only [start, Sensor.buildServices, startServices] at hends ⊢
  split
  · rfl
  next hstopping =>
    rw [if_neg hstopping] at hends
    obtain ⟨c', -, hfails | ⟨p, -, hruns⟩⟩ := spawn_cases w 0 { now := 0, steps := 0 } sensor.core
    · rw [hfails] at hends
      simp [Sensor.core] at hends
    · rw [hruns]
      exact if_pos (hplugins _)

end Core

theorem monitor_of_result {w : World} {playback : Bool} {s : State} {status : Int}
    (h : s.result = some status) : s.monitor w playback = s := by
  rw [State.monitor, h]

/-- What `run` returns. -/
def Returns (w : World) (sensor : Sensor) (status : Int) : Prop :=
  ∃ n, (run w sensor n).result = some status

theorem run_of_result {w : World} {sensor : Sensor} {n : Nat} {status : Int}
    (h : (run w sensor n).result = some status) (k : Nat) :
    run w sensor (n + k) = run w sensor n := by
  induction k with
  | zero => rfl
  | succ k ih => rw [← Nat.add_assoc, run_succ, ih, monitor_of_result h]

theorem Returns.unique {w : World} {sensor : Sensor} {status status' : Int}
    (h : Returns w sensor status) (h' : Returns w sensor status') : status = status' := by
  obtain ⟨n, hn⟩ := h
  obtain ⟨m, hm⟩ := h'
  have hn' := run_of_result hn m
  rw [Nat.add_comm, run_of_result hm n] at hn'
  rw [hn', hn] at hm
  exact Option.some.inj hm

/-- As long as the supervisor runs, it works for its core, and time goes by. -/
theorem led_run {w : World} {sensor : Sensor} {core : Service} (hled : (start w sensor).Led core)
    {n : Nat} (hrunning : (run w sensor n).result = none) :
    (run w sensor n).Led core ∧ ∀ k ≤ n, (run w sensor k).result = none ∧
      (run w sensor k).clock.now + (n - k) * monitorPause ≤ (run w sensor n).clock.now := by
  induction n with
  | zero =>
      refine ⟨hled, fun k hk => ?_⟩
      obtain rfl : k = 0 := Nat.le_zero.mp hk
      exact ⟨hrunning, by simp⟩
  | succ n ih =>
      have hnow := hrunning
      rw [run_succ] at hrunning ⊢
      have hbefore : (run w sensor n).result = none := by
        cases hresult : (run w sensor n).result with
        | none => rfl
        | some status =>
            rw [monitor_of_result hresult, hresult] at hrunning
            cases hrunning
      obtain ⟨hledn, hclock⟩ := ih hbefore
      obtain ⟨-, hstopped⟩ | ⟨-, rc, -, hended⟩ | ⟨-, -, hled', hpause⟩ :=
        monitor_cases_of_led w sensor.playback hledn hbefore
      · rw [hstopped] at hrunning
        cases hrunning
      · rw [hended] at hrunning
        cases hrunning
      refine ⟨hled', fun k hk => ?_⟩
      obtain rfl | hk := Nat.le_succ_iff.mp hk |>.symm
      · exact ⟨hnow, by simp [run_succ]⟩
      · obtain ⟨hk', hpast⟩ := hclock k hk
        rw [Nat.succ_sub hk, Nat.succ_mul]
        exact ⟨hk', by omega⟩

section Core

variable {w : World} {sensor : Sensor} {ended : Nat} {rc : Int}
  (hends : coreEnds w sensor = some (ended, rc))
include hends

/-- A turn after which the supervisor has left. -/
theorem exists_last_turn :
    ∃ n, (run w sensor n).result = none ∧ (run w sensor (n + 1)).result ≠ none := by
  obtain ⟨core, hled, hpoll⟩ := exists_core hends
  have hleft : ∃ n, (run w sensor n).result ≠ none := by
    by_contra hnever
    have hrunning : ∀ n, (run w sensor n).result = none := by
      intro n
      by_contra hresult
      exact hnever ⟨n, hresult⟩
    -- by its `ended`-th turn the core has ended
    obtain ⟨hledn, hclock⟩ := led_run hled (hrunning ended)
    have hnext := hrunning (ended + 1)
    rw [run_succ] at hnext
    obtain ⟨-, hstopped⟩ | ⟨-, rc', -, hended⟩ | ⟨halive, -⟩ :=
      monitor_cases_of_led w sensor.playback hledn (hrunning ended)
    · rw [hstopped] at hnext
      cases hnext
    · rw [hended] at hnext
      cases hnext
    · have hpause : ended * 1 ≤ ended * monitorPause := Nat.mul_le_mul_left ended (by decide)
      have hlate : ended ≤ ((run w sensor ended).clock.after w 0).now := by
        have hstart := (hclock 0 (Nat.zero_le _)).2
        have hlook := Clock.now_le_after w (run w sensor ended).clock 0
        rw [Nat.sub_zero] at hstart
        omega
      rw [hpoll, if_pos hlate] at halive
      cases halive
  obtain ⟨n, hn, hfirst⟩ := Nat.findX hleft
  cases n with
  | zero => exact absurd (start_result hends) hn
  | succ n => exact ⟨n, not_not.mp (hfirst n (Nat.lt_succ_self n)), hn⟩

/-- The status of a core that ends before the stop signal is what is returned, unless it is
another than 0 and the supervisor finds itself told to stop. -/
theorem exists_returns_iff (hstop : ∀ stopAt, w.stopAt = some stopAt → ended < stopAt) :
    ∃ status, Returns w sensor status ∧
      (status = coreStatus sensor.playback rc ↔
        coreStatus sensor.playback rc = 0 ∨ InTime w sensor ended) := by
  obtain ⟨core, hled, hpoll⟩ := exists_core hends
  obtain ⟨n, hrunning, hleft⟩ := exists_last_turn hends
  obtain ⟨hledn, hclock⟩ := led_run hled hrunning
  have hlast : ∀ k, (run w sensor k).result = none → k ≤ n := by
    intro k hk
    by_contra hmore
    exact hleft ((led_run hled hk).2 (n + 1) (by omega)).1
  rw [run_succ] at hleft
  obtain ⟨hstopping, hresult⟩ | ⟨hgoing, rc', hended, hresult⟩ | ⟨-, hresult, -⟩ :=
    monitor_cases_of_led w sensor.playback hledn hrunning
  · refine ⟨0, ⟨n + 1, by rw [run_succ, hresult]⟩, ?_⟩
    have hlate : ¬ InTime w sensor ended := by
      intro hintime
      obtain ⟨stopAt, hstopAt, hle⟩ := World.stopping_iff.mp hstopping
      rw [hintime n hrunning ((hstop stopAt hstopAt).le.trans hle)] at hstopping
      cases hstopping
    rw [or_iff_left hlate, eq_comm]
  · obtain rfl : rc = rc' := by
      rw [hpoll] at hended
      split at hended
      · exact Option.some.inj hended
      · cases hended
    refine ⟨coreStatus sensor.playback rc, ⟨n + 1, by rw [run_succ, hresult]⟩,
      iff_of_true rfl (.inr ?_)⟩
    intro k hk _
    by_contra hstopping
    have hpast := (hclock k (hlast k hk)).2
    rw [World.stopping_mono (Bool.eq_true_of_not_eq_false hstopping) (by omega)] at hgoing
    cases hgoing
  · exact absurd hresult hleft

end Core

end CamDriver.Supervisor
