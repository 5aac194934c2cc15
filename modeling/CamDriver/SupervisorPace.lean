import CamDriver.SupervisorRun
import Mathlib

/-!
# CamDriver.SupervisorPace

When the exits of a plugin are noticed in time, and what holds of every run of the supervisor
(`supervised`).

A turn of the loop takes its pause and at most a backoff for each service (`paced_monitor`),
and an exit is noticed in the turn it falls in or in the next one.  So a plugin is within its
restarts if its processes end two turns before they count as up for long
(`bounded_of_livesWithin`).
-/

namespace CamDriver.Supervisor

/-- No step takes longer than `delay`, on top of what it sleeps. -/
def World.DelaysWithin (w : World) (delay : Nat) : Prop := ∀ n, w.delay n ≤ delay

/-- No process of the service that ends lives longer than `life`. -/
def World.LivesWithin (w : World) (i life : Nat) : Prop :=
  ∀ attempt age rc, w.fate i attempt = .runs (some (age, rc)) → age ≤ life

/-- The longest turn of the loop. -/
def Sensor.turn (sensor : Sensor) (delay : Nat) : Nat :=
  sensor.buildServices.length * (restartBackoff + 5 * delay) + monitorPause + delay

/-! ## How long a turn takes -/

section Delays

variable {w : World} {delay : Nat} (hdelay : w.DelaysWithin delay)
include hdelay

/-- A sleep is late by no more than the delay. -/
theorem Clock.after_le (c : Clock) (sleep : Nat) : (c.after w sleep).now ≤ c.now + sleep + delay :=
  Nat.add_le_add_left (hdelay c.steps) _

/-- A spawn takes two delays at most, and one where it fails. -/
theorem now_spawn_le (i : Nat) (c : Clock) (s : Service) :
    (s.spawn w i c).1.now ≤ c.now + 2 * delay ∧
      ((s.spawn w i c).2.2 = false → (s.spawn w i c).1.now ≤ c.now + delay) := by
  have hfirst := Clock.after_le hdelay c 0
  have hsecond := Clock.after_le hdelay (c.after w 0) 0
  rw [Service.spawn]
  cases w.fate i s.attempts with
  | fails => exact ⟨by dsimp only; omega, fun _ => by dsimp only; omega⟩
  | runs life => exact ⟨by dsimp only; omega, fun h => by cases h⟩

/-- A respawn takes two delays at most. -/
theorem now_respawn_le (i : Nat) (c : Clock) (s : Service) :
    (s.respawn w i c).1.now ≤ c.now + 2 * delay := by
  obtain ⟨hspawn, hfailed⟩ := now_spawn_le hdelay i c s
  rw [Service.respawn]
  obtain ⟨⟨c', s', ok⟩, hr⟩ : ∃ r, s.spawn w i c = r := ⟨_, rfl⟩
  rw [hr] at hspawn hfailed ⊢
  cases ok with
  | true => exact hspawn
  | false =>
      have hlast := Clock.after_le hdelay c' 0
      have hfailed := hfailed rfl
      dsimp only at hfailed ⊢
      omega

/-- To handle an exit takes the backoff and four delays at most. -/
theorem now_handlePluginExit_le (i : Nat) (c : Clock) (s : Service) :
    (handlePluginExit w i c s).1.now ≤ c.now + restartBackoff + 4 * delay := by
  have hnoticed := Clock.after_le hdelay c 0
  have hslept := Clock.after_le hdelay (c.after w 0) restartBackoff
  simp only [handlePluginExit]
  split
  · dsimp only
    omega
  split
  · dsimp only
    omega
  split
  · dsimp only
    omega
  refine (now_respawn_le hdelay i ((c.after w 0).after w restartBackoff) _).trans ?_
  omega

/-- A sweep takes a backoff for each service at most. -/
theorem now_sweep_le (playback : Bool) (services : List Service) (i : Nat) (c : Clock) :
    (sweep w playback i c services).1.now ≤
      c.now + services.length * (restartBackoff + 5 * delay) := by
  induction services generalizing i c with
  | nil => simp [sweep]
  | cons s rest ih =>
      have hlook := Clock.after_le hdelay c 0
      rw [List.length_cons, Nat.succ_mul]
      obtain ⟨-, heq⟩ | ⟨rc, -, ⟨-, heq⟩ | ⟨-, c', s', hhandled, heq⟩⟩ :=
        sweep_cons_cases w playback i c s rest <;> rw [heq]
      · have hrest := ih (i + 1) (c.after w 0)
        dsimp only
        omega
      · dsimp only
        omega
      · have hhandle := now_handlePluginExit_le hdelay i (c.after w 0) s
        have hrest := ih (i + 1) c'
        rw [hhandled] at hhandle
        dsimp only at hhandle ⊢
        omega

/-- The plugins are spawned without a sleep. -/
theorem now_startServices_le {services : List Service} (h : ∀ s ∈ services, s.critical = false)
    (i : Nat) (c : Clock) :
    (startServices w i c services).1.now ≤ c.now + services.length * (2 * delay) := by
  induction services generalizing i c with
  | nil => simp [startServices]
  | cons s rest ih =>
      obtain ⟨hplugin, hrest⟩ := List.forall_mem_cons.mp h
      have hspawn := (now_spawn_le hdelay i c s).1
      rw [List.length_cons, Nat.succ_mul, startServices]
      split
      · dsimp only
        omega
      obtain ⟨c', -, hfails | ⟨p, -, hruns⟩⟩ := spawn_cases w i c s
      · rw [hfails] at hspawn ⊢
        have hrest := ih hrest (i + 1) c'
        dsimp only at hspawn ⊢
        rw [if_neg (by simp [hplugin])]
        dsimp only
        omega
      · rw [hruns] at hspawn ⊢
        have hrest := ih hrest (i + 1) c'
        dsimp only at hspawn ⊢
        rw [if_neg (by simp [hplugin])]
        omega

end Delays

/-! ## Where the exits fall -/

/-- A property of each service with its place in the list. -/
def AllAt (P : Nat → Service → Prop) : Nat → List Service → Prop
  | _, [] => True
  | i, s :: rest => P i s ∧ AllAt P (i + 1) rest

theorem AllAt.imp {P Q : Nat → Service → Prop} (hPQ : ∀ i s, P i s → Q i s) {i : Nat}
    {services : List Service} (h : AllAt P i services) : AllAt Q i services := by
  induction services generalizing i with
  | nil => trivial
  | cons s rest ih => exact ⟨hPQ i s h.1, ih h.2⟩

theorem AllAt.and {P Q : Nat → Service → Prop} {i : Nat} {services : List Service}
    (hP : AllAt P i services) (hQ : AllAt Q i services) :
    AllAt (fun i s => P i s ∧ Q i s) i services := by
  induction services generalizing i with
  | nil => trivial
  | cons s rest ih => exact ⟨⟨hP.1, hQ.1⟩, ih hP.2 hQ.2⟩

theorem allAt_of_forall {P : Nat → Service → Prop} {services : List Service}
    (h : ∀ s ∈ services, ∀ i, P i s) (i : Nat) : AllAt P i services := by
  induction services generalizing i with
  | nil => trivial
  | cons s rest ih =>
      obtain ⟨hs, hrest⟩ := List.forall_mem_cons.mp h
      exact ⟨hs i, ih hrest (i + 1)⟩

theorem AllAt.get {P : Nat → Service → Prop} {i k : Nat} {s : Service} {services : List Service}
    (h : AllAt P i services) (hs : services[k]? = some s) : P (i + k) s := by
  induction services generalizing i k with
  | nil => simp at hs
  | cons s' rest ih =>
      cases k with
      | zero =>
          obtain rfl := Option.some.inj hs
          exact h.1
      | succ k =>
          have hrest := ih h.2 (k := k) (by simpa using hs)
          rwa [Nat.add_right_comm, Nat.add_assoc] at hrest

/-- The process of the service, if it ends, ends soon after it was started, and not long
after `since` it was not yet time for that. -/
def Watched (life since : Nat) (s : Service) : Prop :=
  ∀ p, s.proc = some p → ∀ ends rc, p.ends = some (ends, rc) →
    ends ≤ s.startedAt + life ∧ since ≤ s.startedAt + life

/-- The exits of a service are noticed within that time. -/
def NoticedWithin (bound : Nat) (s : Service) : Prop := ∀ uptime ∈ s.uptimes, uptime ≤ bound

/-- A process that lives within its bound has ended that long after its start. -/
theorem StartedBy.ends_le {w : World} {i life startedAt : Nat} {p : Process}
    (hstarted : StartedBy w i p startedAt) (hlives : w.LivesWithin i life) {ends : Nat} {rc : Int}
    (hends : p.ends = some (ends, rc)) : ends ≤ startedAt + life := by
  obtain ⟨attempt, life', hfate, hage⟩ := hstarted
  obtain ⟨age, rfl, hle⟩ := hage ends rc hends
  have hshort := hlives attempt age rc hfate
  omega

/-- A poll reports an exit only once the process has ended. -/
theorem Process.poll_eq_some {p : Process} {now : Nat} {rc : Int} (h : p.poll now = some rc) :
    ∃ ends, p.ends = some (ends, rc) ∧ ends ≤ now := by
  rw [poll] at h
  split at h
  · next ends rc' heq =>
      split at h
      · next hle =>
          obtain rfl := Option.some.inj h
          exact ⟨ends, heq, hle⟩
      · cases h
  · cases h

/-- A service that is seen alive is watched from then on. -/
theorem Watched.of_alive {life since now : Nat} {s : Service} (h : Watched life since s)
    (halive : s.proc.bind (·.poll now) = none) : Watched life now s := by
  intro p hp ends rc hends
  obtain ⟨hle, -⟩ := h p hp ends rc hends
  have hlater : ¬ ends ≤ now := by
    intro hended
    rw [hp, Option.bind_some, Process.poll, hends] at halive
    simp [hended] at halive
  exact ⟨hle, by omega⟩

/-- A service watched since a moment is so since an earlier one. -/
theorem Watched.mono {life since earlier : Nat} {s : Service} (h : Watched life since s)
    (hle : earlier ≤ since) : Watched life earlier s := by
  intro p hp ends rc hends
  obtain ⟨hends, hsince⟩ := h p hp ends rc hends
  exact ⟨hends, hle.trans hsince⟩

section Lives

variable {w : World} {i life : Nat} (hlives : w.LivesWithin i life)
include hlives

/-- An exit that is handled is noticed within the time since the service was watched. -/
theorem watched_handlePluginExit {since : Nat} {c : Clock} {s : Service} {rc : Int}
    (hs : Watched life since s) (hpoll : s.proc.bind (·.poll c.now) = some rc) {bound : Nat}
    (hbound : NoticedWithin (life + bound) s)
    (hsoon : (handlePluginExit w i c s).1.now ≤ since + bound) :
    NoticedWithin (life + bound) (handlePluginExit w i c s).2 ∧
      (w.stopping (handlePluginExit w i c s).1.now = false →
        Watched life c.now (handlePluginExit w i c s).2) := by
  obtain ⟨p, hp, hpoll⟩ := Option.bind_eq_some_iff.mp hpoll
  obtain ⟨ends, hends, hended⟩ := Process.poll_eq_some hpoll
  obtain ⟨-, hsince⟩ := hs p hp ends rc hends
  obtain ⟨c', s', heq, hle, huptimes, -, -, hhandled⟩ := handlePluginExit_cases w i c s rfl
  rw [heq] at hsoon ⊢
  dsimp only at hsoon ⊢
  constructor
  · intro uptime huptime
    rw [huptimes] at huptime
    obtain hbefore | hnow := List.mem_append.mp huptime
    · exact hbound uptime hbefore
    · rw [List.mem_singleton.mp hnow]
      omega
  · intro hgoing p' hp' ends' rc' hends'
    cases hhandled with
    | disabled restart proc attempts | givenUp spent proc attempts =>
        rw [proc] at hp'
        cases hp'
    | stopped restart stopping spent proc attempts =>
        rw [stopping] at hgoing
        cases hgoing
    | respawned restart spent proc attempts startedAt hstarted =>
        refine ⟨?_, by omega⟩
        obtain hsame | hnew := hstarted
        · -- the dead process stays, and so does its end
          rw [hsame, hp] at hp'
          obtain rfl := Option.some.inj hp'
          rw [hends] at hends'
          obtain ⟨rfl, -⟩ := Prod.mk.inj (Option.some.inj hends')
          omega
        · exact (hnew p' hp').ends_le hlives hends'

/-- A sweep notices the exits that it finds within the time since the service was watched, and
goes on to watch it. -/
theorem watched_sweep (playback : Bool) {since now bound : Nat} {services : List Service} {k : Nat}
    {c : Clock} (hnow : now ≤ c.now)
    (h : AllAt (fun j s => j = i → Watched life since s ∧ NoticedWithin (life + bound) s)
      k services)
    (hsoon : (sweep w playback k c services).1.now ≤ since + bound) :
    AllAt (fun j s => j = i → NoticedWithin (life + bound) s ∧
      ((sweep w playback k c services).2.2 = none →
        w.stopping (sweep w playback k c services).1.now = false → Watched life now s)) k
      (sweep w playback k c services).2.1 := by
  induction services generalizing k c with
  | nil => trivial
  | cons s rest ih =>
      obtain ⟨hs, hrest⟩ := h
      have hlook : now ≤ (c.after w 0).now := hnow.trans (Clock.now_le_after w c 0)
      obtain ⟨halive, heq⟩ | ⟨rc, hpoll, ⟨-, heq⟩ | ⟨-, c', s', hhandled, heq⟩⟩ :=
        sweep_cons_cases w playback k c s rest <;> rw [heq] at hsoon ⊢
      · refine ⟨fun hk => ?_, ih hlook hrest hsoon⟩
        obtain ⟨hwatched, hbound⟩ := hs hk
        exact ⟨hbound, fun _ _ => (hwatched.of_alive halive).mono hlook⟩
      · -- the core has exited, and nothing is watched any more
        refine AllAt.imp (fun j s hj hji => ⟨(hj hji).2, fun hnone => ?_⟩)
          (show AllAt _ k (s :: rest) from ⟨hs, hrest⟩)
        cases hnone
      · have hle : c'.now ≤ (sweep w playback (k + 1) c' rest).1.now :=
          now_le_sweep w playback rest (k + 1) c'
        have hhandle := now_le_handlePluginExit w k (c.after w 0) s
        rw [hhandled] at hhandle
        refine ⟨fun hk => ?_, ih (hlook.trans hhandle) hrest hsoon⟩
        subst hk
        obtain ⟨hwatched, hbound⟩ := hs rfl
        have hnoticed := watched_handlePluginExit hlives hwatched hpoll hbound
          (by rw [hhandled]; exact hle.trans hsoon)
        rw [hhandled] at hnoticed
        refine ⟨hnoticed.1, fun _ hgoing => (hnoticed.2 ?_).mono hlook⟩
        by_contra hstopping
        rw [World.stopping_mono (Bool.eq_true_of_not_eq_false hstopping) hle] at hgoing
        cases hgoing

/-- A plugin is watched from its start. -/
theorem watched_startServices {services : List Service} (hfresh : ∀ s ∈ services, Fresh s)
    {since : Nat} {k : Nat} {c : Clock} (hsince : since ≤ c.now) (bound : Nat) :
    AllAt (fun j s => j = i → Watched life since s ∧ NoticedWithin bound s) k
      (startServices w k c services).2.1 := by
  have hidle : ∀ s : Service, s.proc = none → s.uptimes = [] →
      Watched life since s ∧ NoticedWithin bound s := by
    intro s hproc huptimes
    refine ⟨fun p hp => ?_, fun uptime huptime => ?_⟩
    · rw [hproc] at hp
      cases hp
    · rw [huptimes] at huptime
      cases huptime
  have hskipped : ∀ rest : List Service, (∀ s ∈ rest, Fresh s) → ∀ k,
      AllAt (fun j s => j = i → Watched life since s ∧ NoticedWithin bound s) k rest :=
    fun rest hrest => allAt_of_forall fun s hs _ _ =>
      hidle s (hrest s hs).proc (hrest s hs).uptimes
  induction services generalizing k c with
  | nil => trivial
  | cons s rest ih =>
      obtain ⟨hs, hrest⟩ := List.forall_mem_cons.mp hfresh
      rw [startServices]
      split
      · exact hskipped (s :: rest) hfresh k
      obtain ⟨c', hle, hfails | ⟨p, hstarted, hruns⟩⟩ := spawn_cases w k c s
      · rw [hfails]
        dsimp only
        split
        · exact ⟨fun _ => hidle _ hs.proc hs.uptimes, hskipped rest hrest (k + 1)⟩
        · exact ⟨fun _ => hidle _ hs.proc hs.uptimes, ih hrest (hsince.trans hle)⟩
      · rw [hruns]
        refine ⟨fun hk => ⟨?_, (hidle s hs.proc hs.uptimes).2⟩, ih hrest ?_⟩
        · subst hk
          rintro p' ⟨⟩ ends rc hends
          exact ⟨hstarted.ends_le hlives hends,
            (hsince.trans hle).trans (Nat.le_add_right c'.now life)⟩
        · split
          · exact (hsince.trans hle).trans
              (Nat.le_of_add_right_le (Clock.now_le_after w c' startupStagger))
          · exact hsince.trans hle

end Lives

/-! ## The run -/

/-- No service changes what it is. -/
theorem critical_sweep (w : World) (playback : Bool) (services : List Service) (i : Nat)
    (c : Clock) :
    (sweep w playback i c services).2.1.map Service.critical = services.map Service.critical := by
  induction services generalizing i c with
  | nil => rfl
  | cons s rest ih =>
      obtain ⟨-, heq⟩ | ⟨rc, -, ⟨-, heq⟩ | ⟨-, c', s', hhandled, heq⟩⟩ :=
        sweep_cons_cases w playback i c s rest <;> rw [heq]
      · rw [List.map_cons, ih, List.map_cons]
      · have hcritical := critical_handlePluginExit w i (c.after w 0) s
        rw [hhandled] at hcritical
        rw [List.map_cons, ih, List.map_cons, hcritical]

/-- A plugin through a run: its exits are noticed in time, and as long as the supervisor goes on
it was watched no longer than a turn ago. -/
structure Paced (w : World) (i life turn : Nat) (s : State) : Prop where
  noticed : AllAt (fun j p => j = i → NoticedWithin (life + 2 * turn) p) 0 s.services
  watched : s.result = none → w.stopping s.clock.now = false →
    ∃ since, s.clock.now ≤ since + turn ∧
      AllAt (fun j p => j = i → Watched life since p) 0 s.services

/-- One turn of the monitor keeps the pace. -/
theorem paced_monitor {w : World} {delay : Nat} (hdelay : w.DelaysWithin delay) {i life : Nat}
    (hlives : w.LivesWithin i life) (playback : Bool) {turn : Nat} {s : State}
    (hturn : s.services.length * (restartBackoff + 5 * delay) + monitorPause + delay ≤ turn)
    (h : Paced w i life turn s) : Paced w i life turn (s.monitor w playback) := by
  obtain ⟨-, heq⟩ | ⟨-, -, heq⟩ | ⟨hrunning, hgoing, c, services, status, hsweep, heq⟩ :=
    monitor_cases w playback s
  · rwa [heq]
  · rw [heq]
    exact ⟨h.noticed, fun hnone => by cases hnone⟩
  obtain ⟨since, hsince, hwatched⟩ := h.watched hrunning hgoing
  have hnow := now_sweep_le hdelay playback s.services 0 s.clock
  have hsoon : (sweep w playback 0 s.clock s.services).1.now ≤ since + 2 * turn := by omega
  have hswept := watched_sweep hlives playback (le_refl s.clock.now)
    ((hwatched.and h.noticed).imp fun j p hp hj => ⟨hp.1 hj, hp.2 hj⟩) hsoon
  rw [hsweep] at hnow hswept
  rw [heq]
  refine ⟨hswept.imp fun j p hp hj => (hp hj).1, fun hnone hgoing' => ⟨s.clock.now, ?_, ?_⟩⟩
  · have hpause := Clock.after_le hdelay c monitorPause
    dsimp only at hnone hnow ⊢
    rw [if_pos hnone]
    omega
  · refine hswept.imp fun j p hp hj => (hp hj).2 hnone ?_
    by_contra hstopping
    have hle := Nat.le_of_add_right_le (Clock.now_le_after w c monitorPause)
    dsimp only at hnone hgoing'
    rw [if_pos hnone, World.stopping_mono (Bool.eq_true_of_not_eq_false hstopping) hle] at hgoing'
    cases hgoing'

/-- A turn of the monitor leaves the critical flags alone. -/
theorem critical_monitor (w : World) (playback : Bool) (s : State) :
    (s.monitor w playback).services.map Service.critical = s.services.map Service.critical := by
  obtain ⟨-, heq⟩ | ⟨-, -, heq⟩ | ⟨-, -, c, services, status, hsweep, heq⟩ :=
    monitor_cases w playback s
  · rw [heq]
  · rw [heq]
  · have hcritical := critical_sweep w playback s.services 0 s.clock
    rw [hsweep] at hcritical
    rw [heq, ← hcritical]

/-- So does the launch. -/
theorem critical_launched {services services' : List Service}
    (h : List.Forall₂ Launched services services') :
    services'.map Service.critical = services.map Service.critical := by
  induction h with
  | nil => rfl
  | cons hs _ ih => rw [List.map_cons, hs.critical, ih, List.map_cons]

/-- The critical flags are those of the configuration, in every state. -/
theorem critical_run (w : World) (sensor : Sensor) (n : Nat) :
    (run w sensor n).services.map Service.critical =
      sensor.buildServices.map Service.critical := by
  induction n with
  | zero => exact critical_launched (startServices_launched w sensor.buildServices 0 _)
  | succ n ih => rw [run_succ, critical_monitor, ih]

/-- No service is ever lost or added. -/
theorem length_run (w : World) (sensor : Sensor) (n : Nat) :
    (run w sensor n).services.length = sensor.buildServices.length := by
  have hlen := congrArg List.length (critical_run w sensor n)
  rwa [List.length_map, List.length_map] at hlen

/-- The core is spawned before the plugins are watched. -/
theorem paced_start {w : World} {delay : Nat} (hdelay : w.DelaysWithin delay) {i life : Nat}
    (hlives : w.LivesWithin (i + 1) life) (sensor : Sensor) :
    Paced w (i + 1) life (sensor.turn delay) (start w sensor) := by
  have hplugins : ∀ s ∈ sensor.plugins.filterMap sensor.service, Fresh s :=
    fun s hs => sensor.fresh_buildServices s (List.mem_cons_of_mem _ hs)
  have hall := watched_startServices hlives (k := 0) sensor.fresh_buildServices
    (Nat.zero_le (Clock.now { now := 0, steps := 0 })) (life + 2 * sensor.turn delay)
  refine ⟨hall.imp fun j p hp hj => (hp hj).2, fun hresult _ => ?_⟩
  have hturn : (sensor.plugins.filterMap sensor.service).length * (2 * delay) ≤
      sensor.turn delay := by
    have hless := Nat.mul_le_mul_left (sensor.plugins.filterMap sensor.service).length
      (show 2 * delay ≤ restartBackoff + 5 * delay by omega)
    rw [Sensor.turn, Sensor.buildServices, List.length_cons,
      Nat.succ_mul _ (restartBackoff + 5 * delay)]
    omega
  have hwatched := hall.imp fun j p hp hj => (hp hj).1
  rw [start] at hresult ⊢
  rw [Sensor.buildServices, startServices] at hresult hwatched ⊢
  by_cases hstopping : w.stopping (Clock.now { now := 0, steps := 0 }) = true
  · rw [if_pos hstopping] at hwatched ⊢
    exact ⟨0, Nat.zero_le _, hwatched⟩
  rw [if_neg hstopping] at hresult ⊢
  obtain ⟨c', -, hfails | ⟨p, -, hruns⟩⟩ := spawn_cases w 0 { now := 0, steps := 0 } sensor.core
  · -- without a core the supervisor does not go on
    rw [hfails] at hresult
    simp [Sensor.core] at hresult
  · rw [hruns]
    have hplugins' := watched_startServices hlives (k := 1) hplugins
      (le_refl (c'.after w startupStagger).now) 0
    have hnow := now_startServices_le hdelay sensor.plugin_not_critical 1
      (c'.after w startupStagger)
    refine ⟨(c'.after w startupStagger).now, hnow.trans (Nat.add_le_add_left hturn _), ?_⟩
    exact ⟨fun hcore => absurd hcore (Nat.succ_ne_zero i).symm,
      hplugins'.imp fun j p hp hj => (hp hj).1⟩

/-- In every state of every run, a plugin is respawned no more than `RESTART_MAX` times, and
given up at the next exit, if its processes end two turns of the loop before they count as up
for long. -/
theorem bounded_of_livesWithin {w : World} {delay : Nat} (hdelay : w.DelaysWithin delay)
    {i life : Nat} (hlives : w.LivesWithin i life) {sensor : Sensor}
    (hshort : life + 2 * sensor.turn delay < restartReset) {n : Nat} {s : Service}
    (hs : (run w sensor n).services[i]? = some s) (hplugin : s.critical = false) :
    s.Bounded := by
  have hbuilt : sensor.buildServices[i]?.map Service.critical = some false := by
    rw [← List.getElem?_map, ← critical_run w sensor n, List.getElem?_map, hs, Option.map_some,
      hplugin]
  obtain _ | i := i
  · cases hbuilt
  have hpaced : ∀ n, Paced w (i + 1) life (sensor.turn delay) (run w sensor n) := by
    intro n
    induction n with
    | zero => exact paced_start hdelay hlives sensor
    | succ n ih =>
        rw [run_succ]
        refine paced_monitor hdelay hlives sensor.playback ?_ ih
        rw [length_run]
        exact le_rfl
  have hnoticed := ((hpaced n).noticed.get hs) (Nat.zero_add _)
  have htallied := allTallied_run w sensor n s (List.mem_of_getElem? hs) hplugin
  rw [htallied.bounded_iff_timely]
  intro _ uptime huptime
  exact (hnoticed uptime (List.mem_of_mem_take (List.mem_of_mem_tail huptime))).trans_lt hshort

/-! ## What holds of every run -/

/-- **Supervision**: in every state of every run, each plugin is respawned no more than
`RESTART_MAX` times and then given up, just if none of the exits that count is noticed late,
so of a plugin whose processes end two turns of the loop before they count as up for long;
and of a core that ends before the stop signal the status is returned, just if it is 0 or the
supervisor looks at the core before it finds itself told to stop. -/
theorem supervised (w : World) (sensor : Sensor) :
    (∀ n, ∀ s ∈ (run w sensor n).services, s.critical = false → (s.Bounded ↔ s.Timely)) ∧
    (∀ delay i life, w.DelaysWithin delay → w.LivesWithin i life →
      life + 2 * sensor.turn delay < restartReset → ∀ n s,
        (run w sensor n).services[i]? = some s → s.critical = false → s.Bounded) ∧
    ∀ ended rc, coreEnds w sensor = some (ended, rc) →
      (∀ stopAt, w.stopAt = some stopAt → ended < stopAt) →
      ∃ status, Returns w sensor status ∧
        (status = coreStatus sensor.playback rc ↔
          coreStatus sensor.playback rc = 0 ∨ InTime w sensor ended) :=
  ⟨fun n s hs hplugin => (allTallied_run w sensor n s hs hplugin).bounded_iff_timely,
    fun _ _ _ hdelay hlives hshort _ _ hs hplugin =>
      bounded_of_livesWithin hdelay hlives hshort hs hplugin,
    fun _ _ hends hstop => exists_returns_iff hends hstop⟩

/-- A sensor with one plugin. -/
def viewed : Sensor :=
  { executable := "python3", configPath := "config/camera.yaml", cameraType := "gige"
    socketPath := "/run/cam.sock"
    plugins := [{ name := "viewer", enabled := true, command := some ["viewer"], restart := true,
                  isolation := "process", params := [] }] }

/-- A core that ends after ten seconds, with a plugin that does not. -/
def deadCore (stopAt : Option Nat) : World :=
  { delay := fun _ => 0, stopAt
    fate := fun i _ => .runs (if i = 0 then some (10 * second + second / 5, 2) else none) }

/-- Without a stop signal the supervisor returns its status. -/
theorem supervised_deadCore : Returns (deadCore none) viewed 2 := by
  obtain ⟨status, hreturns, hstatus⟩ :=
    (supervised (deadCore none) viewed).2.2 (10 * second + second / 5) 2 (by decide)
      (fun stopAt h => by cases h)
  have hcore : status = 2 := hstatus.mpr (.inr fun _ _ _ => rfl)
  rwa [hcore] at hreturns

/-- No process of a service lives for `RESTART_RESET_S`. -/
def NeverStaysUp (w : World) (i : Nat) : Prop :=
  ∀ attempt life, w.fate i attempt = .runs life → ∃ age rc, life = some (age, rc) ∧
    age < restartReset

/-- A plugin that lives for 29.9 seconds, which the supervisor takes for 30. -/
def almostUp : World :=
  { delay := fun _ => 0, stopAt := none
    fate := fun i _ => .runs (if i = 0 then none else some (29 * second + 9 * (second / 10), 1)) }

/-- Neither half holds of every run: the plugin is respawned a sixth time, and a signal that
comes after the end of the core makes the status 0. -/
theorem not_supervised :
    (¬ ∀ w sensor n i s, NeverStaysUp w i → (run w sensor n).services[i]? = some s →
      s.critical = false → s.Bounded) ∧
    ¬ ∀ w sensor ended rc, coreEnds w sensor = some (ended, rc) →
      (∀ stopAt, w.stopAt = some stopAt → ended < stopAt) →
      Returns w sensor (coreStatus sensor.playback rc) := by
  constructor
  · intro hall
    have hviewer : (run almostUp viewed 365).services[1]?.map
        (fun s => (s.critical, s.attempts)) = some (false, 7) := by decide +kernel
    obtain ⟨s, hs, heq⟩ := Option.map_eq_some_iff.mp hviewer
    obtain ⟨hplugin, hattempts⟩ := Prod.mk.inj heq
    have hshort : NeverStaysUp almostUp 1 := by
      intro attempt life hlife
      cases hlife
      exact ⟨_, _, rfl, by decide⟩
    obtain ⟨hfew, -⟩ := hall almostUp viewed 365 1 s hshort hs hplugin
    rw [hattempts] at hfew
    exact absurd hfew (by decide)
  · intro hall
    have hcore := hall (deadCore (some (10 * second + second / 4))) viewed
      (10 * second + second / 5) 2 (by decide) (fun stopAt h => by cases h; decide)
    have hzero : Returns (deadCore (some (10 * second + second / 4))) viewed 0 :=
      ⟨18, by decide +kernel⟩
    exact absurd (hcore.unique hzero) (by decide)

end CamDriver.Supervisor
