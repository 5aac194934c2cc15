import Mathlib.Data.List.Induction
import CamDriver.Lib.Announce

/-!
# CamDriver.Presence

The presence of the control plane: `ZenohControl` from `start` to `close`.

`advertise` declares the queryables and the publisher of a plane before its token, and any
call of the session may fail; then everything is withdrawn and a timer tries again.  The
handler of a signal runs `close` between any two instructions of the main thread, so also
between a call of `advertise` and the assignment of what it returned; `Progress` says where
`advertise` is.  A handler that interrupts `_safe_close` itself is left out.  An `advertise`
that a `close` interrupts goes on, and may open a session of a plane that is closed; the
`close` at the end of the process withdraws that one too.

`presence_run` says what a consumer may rely on, whatever fails and whenever the signals come.
-/

namespace CamDriver

open Announce

/-! ## What is declared -/

/-- The services of one control session. -/
inductive Plane where
  | lifecycle | playback | health
deriving DecidableEq, Repr

/-- What can be queried. -/
inductive Endpoint where
  | lifecycle | changeState | configureRecording
  | playback | playbackControl
  | health
deriving DecidableEq, Repr

/-- What a session declares. -/
inductive Declaration where
  | queryable (e : Endpoint)
  | publisher (p : Plane)
  | token (p : Plane)
deriving DecidableEq, Repr

/-- The arguments of `ZenohControl`; `configures`: the lifecycle has `configure_recording`. -/
structure ControlSetup where
  keyBase : String
  configures : Bool
  playback : Bool
  playbackKey : String
  health : Bool
  healthKey : String
  enabled : Bool
deriving DecidableEq, Repr

/-- `self.playback is not None and self.playback_key`. -/
def ControlSetup.hasPlayback (setup : ControlSetup) : Bool :=
  setup.playback && setup.playbackKey != ""

/-- `self.health is not None and self.health_key`. -/
def ControlSetup.hasHealth (setup : ControlSetup) : Bool :=
  setup.health && setup.healthKey != ""

/-- The queryables of a plane, in their order. -/
def Plane.endpoints (setup : ControlSetup) : Plane → List Endpoint
  | .lifecycle =>
    [.lifecycle, .changeState] ++ if setup.configures then [.configureRecording] else []
  | .playback => [.playback, .playbackControl]
  | .health => [.health]

/-- What whoever sees the token of a plane relies on. -/
def needs (setup : ControlSetup) : Declaration → List Declaration
  | .token p => .publisher p :: (p.endpoints setup).map .queryable
  | .queryable _ | .publisher _ => []

/-- A statement of `advertise` that may fail. -/
inductive Action where
  | declare (d : Declaration)
  /-- a descriptor is read, to be published -/
  | describe
deriving DecidableEq, Repr

/-- The declarations of one plane: the token is the last. -/
def Plane.script (setup : ControlSetup) (p : Plane) : List Action :=
  (p.endpoints setup).map (fun e => .declare (.queryable e)) ++
    [.declare (.publisher p), .declare (.token p)]

/-- `advertise`, once the session is open. -/
def ControlSetup.script (setup : ControlSetup) : List Action :=
  Plane.lifecycle.script setup ++ [.describe] ++
    (if setup.hasPlayback then Plane.playback.script setup ++ [.describe] else []) ++
    (if setup.hasHealth then Plane.health.script setup else [])

def Action.declaration? : Action → Option Declaration
  | .declare d => some d
  | .describe => none

/-- What a list of statements declares. -/
def declarations (actions : List Action) : List Declaration :=
  actions.filterMap Action.declaration?

/-! ## The control plane -/

/-- Who called `advertise`. -/
inductive Caller where
  | start | retry
deriving DecidableEq, Repr

/-- Where the main thread is in `advertise`. -/
inductive Progress where
  | idle
  | opening (caller : Caller)
  /-- `self._open` has returned the session, which is not assigned yet -/
  | opened (caller : Caller) (s : Nat)
  | declaring (caller : Caller) (todo : List Action)
  /-- the call has returned the handle, which is not assigned yet -/
  | declared (caller : Caller) (h : Nat × Declaration) (todo : List Action)
deriving DecidableEq, Repr

/-- `ZenohControl`: a handle is the number of its session; `sessions` counts those that were
opened, `armed` says whether the timer of the retry is there. -/
structure ZenohControl where
  session : Option Nat
  token : Option Nat
  publisher : Option Nat
  playbackToken : Option Nat
  playbackPublisher : Option Nat
  healthToken : Option Nat
  healthPublisher : Option Nat
  queryables : List (Nat × Endpoint)
  closed : Bool
  armed : Bool
  progress : Progress
  sessions : Nat
  log : List (WireEvent Declaration)
deriving DecidableEq, Repr

/-- How withdrawing goes: the handles whose `undeclare` raises, and whether `close` does. -/
structure Teardown where
  refuses : Nat × Declaration → Bool
  closeFails : Bool

namespace ZenohControl

def init : ZenohControl :=
  { session := none, token := none, publisher := none, playbackToken := none,
    playbackPublisher := none, healthToken := none, healthPublisher := none, queryables := [],
    closed := false, armed := false, progress := .idle, sessions := 0, log := [] }

/-- `active`. -/
def active (c : ZenohControl) : Bool := c.token.isSome

def tokens (c : ZenohControl) : List (Nat × Declaration) :=
  (c.healthToken.map (·, .token .health)).toList ++
  (c.playbackToken.map (·, .token .playback)).toList ++
  (c.token.map (·, .token .lifecycle)).toList

def publishers (c : ZenohControl) : List (Nat × Declaration) :=
  (c.healthPublisher.map (·, .publisher .health)).toList ++
  (c.playbackPublisher.map (·, .publisher .playback)).toList ++
  (c.publisher.map (·, .publisher .lifecycle)).toList

/-- What `_safe_close` withdraws, in its order. -/
def handles (c : ZenohControl) : List (Nat × Declaration) :=
  c.tokens ++ (c.publishers ++ c.queryables.map fun q => (q.1, .queryable q.2))

/-- The assignment of a handle. -/
def store (c : ZenohControl) : Nat × Declaration → ZenohControl
  | (s, .queryable e) => { c with queryables := c.queryables ++ [(s, e)] }
  | (s, .publisher .lifecycle) => { c with publisher := some s }
  | (s, .publisher .playback) => { c with playbackPublisher := some s }
  | (s, .publisher .health) => { c with healthPublisher := some s }
  | (s, .token .lifecycle) => { c with token := some s }
  | (s, .token .playback) => { c with playbackToken := some s }
  | (s, .token .health) => { c with healthToken := some s }

/-- A handle that `_safe_close` cannot know of. -/
def pending (c : ZenohControl) : List (WireEvent Declaration) :=
  match c.progress with
  | .declared _ h _ => [.missed h.1 h.2]
  | _ => []

/-- The end of `_safe_close`. -/
def closing (c : ZenohControl) (t : Teardown) : List (WireEvent Declaration) :=
  (c.session.map fun s => if t.closeFails then .unclosed s else .closed s).toList

/-- `_safe_close`. -/
def safeClose (c : ZenohControl) (t : Teardown) : ZenohControl :=
  { c with
    session := none, token := none, publisher := none, playbackToken := none,
    playbackPublisher := none, healthToken := none, healthPublisher := none, queryables := [],
    log := c.log ++ c.pending ++ withdrawAll t.refuses c.handles ++ c.closing t }

/-- What the caller does with the answer of `advertise`. -/
def finish (c : ZenohControl) (caller : Caller) (ok : Bool) : ZenohControl :=
  match caller with
  | .start => { c with progress := .idle, armed := c.armed || !ok }
  | .retry => { c with progress := .idle, armed := c.armed && !ok }

/-- `advertise`, up to the call of `self._open`. -/
def advertise (setup : ControlSetup) (c : ZenohControl) (caller : Caller) : ZenohControl :=
  if ¬ setup.enabled then c.finish caller false
  else if c.session.isSome then c.finish caller c.active
  else { c with progress := .opening caller }

/-- The `except` of `advertise`. -/
def failed (c : ZenohControl) (caller : Caller) (t : Teardown) : ZenohControl :=
  (c.safeClose t).finish caller false

/-- The next instruction of `advertise`; `fails`: the call it makes raises. -/
def go (setup : ControlSetup) (c : ZenohControl) (fails : Bool) (t : Teardown) : ZenohControl :=
  match c.progress with
  | .idle => c
  | .opening caller =>
    if fails then c.failed caller t
    else { c with progress := .opened caller c.sessions, sessions := c.sessions + 1 }
  | .opened caller s =>
    { c with session := some s, progress := .declaring caller setup.script }
  | .declaring caller [] => c.finish caller true
  | .declaring caller (.describe :: todo) =>
    if fails then c.failed caller t else { c with progress := .declaring caller todo }
  | .declaring caller (.declare d :: todo) =>
    match c.session with
    -- a signal has closed it: `None` declares nothing
    | none => c.failed caller t
    | some s =>
      if fails then c.failed caller t
      else { c with progress := .declared caller (s, d) todo, log := c.log ++ [.declared s d] }
  | .declared caller h todo => { c.store h with progress := .declaring caller todo }

/-- `close`. -/
def close (c : ZenohControl) (t : Teardown) : ZenohControl :=
  { c with closed := true }.safeClose t

/-- `start`, where the main thread gets to it. -/
def start (setup : ControlSetup) (c : ZenohControl) : ZenohControl :=
  if c.progress = .idle then c.advertise setup .start else c

/-- `_retry`. -/
def retry (setup : ControlSetup) (c : ZenohControl) : ZenohControl :=
  if ¬ c.armed ∨ c.progress ≠ .idle then c
  else if c.closed then { c with armed := false }
  else c.advertise setup .retry

end ZenohControl

/-- What may come next; `close` is called by the handler of a signal, and at the end. -/
inductive PresenceEvent where
  | start
  | retry
  | go (fails : Bool) (t : Teardown)
  | close (t : Teardown)

namespace ZenohControl

def step (setup : ControlSetup) (c : ZenohControl) : PresenceEvent → ZenohControl
  | .start => c.start setup
  | .retry => c.retry setup
  | .go fails t => c.go setup fails t
  | .close t => c.close t

def run (setup : ControlSetup) (events : List PresenceEvent) : ZenohControl :=
  events.foldl (step setup) init

/-! ## The script -/

/-- `advertise` declares a token last of all that it stands for. -/
theorem bottomUp_script (setup : ControlSetup) :
    bottomUp (needs setup) [] (declarations setup.script) = true := by
  unfold ControlSetup.script Plane.script Plane.endpoints
  cases setup.hasPlayback <;> cases setup.hasHealth <;> cases hconf : setup.configures <;>
    simp [declarations, Action.declaration?, bottomUp, needs, Plane.endpoints, hconf,
      List.filterMap_cons]

/-- So what a declaration needs has been declared before it. -/
theorem needs_declared {setup : ControlSetup} {done todo : List Action} {d : Declaration}
    (h : setup.script = done ++ .declare d :: todo) {e : Declaration} (he : e ∈ needs setup d) :
    e ∈ declarations done := by
  have hordered := bottomUp_script setup
  rw [h] at hordered
  simp only [declarations, List.filterMap_append, List.filterMap_cons,
    Action.declaration?] at hordered ⊢
  simpa using mem_of_bottomUp hordered he

/-! ## The handles -/

theorem exists_token_of_mem_tokens {c : ZenohControl} {h : Nat × Declaration}
    (hmem : h ∈ c.tokens) : ∃ p, h.2 = .token p := by
  simp only [tokens, List.mem_append, Option.mem_toList, Option.map_eq_some_iff] at hmem
  rcases hmem with (⟨_, _, rfl⟩ | ⟨_, _, rfl⟩) | ⟨_, _, rfl⟩ <;> exact ⟨_, rfl⟩

theorem needs_of_mem_others (setup : ControlSetup) {c : ZenohControl} {h : Nat × Declaration}
    (hmem : h ∈ c.publishers ++ c.queryables.map fun q => (q.1, .queryable q.2)) :
    needs setup h.2 = [] := by
  simp only [publishers, List.mem_append, Option.mem_toList, Option.map_eq_some_iff,
    List.mem_map] at hmem
  rcases hmem with ((⟨_, _, rfl⟩ | ⟨_, _, rfl⟩) | ⟨_, _, rfl⟩) | ⟨_, _, rfl⟩ <;> rfl

/-- The tokens go first, so nothing goes that a later handle needs. -/
theorem topDown_handles (setup : ControlSetup) (c : ZenohControl) :
    TopDown (needs setup) c.handles := by
  have htoken : ∀ p d, Declaration.token p ∉ needs setup d := by
    intro p d
    cases d <;> simp [needs]
  refine List.pairwise_append.2 ⟨?_, ?_, ?_⟩
  · refine List.pairwise_of_forall_mem_list fun h hmem h' _ => ?_
    obtain ⟨p, hp⟩ := exists_token_of_mem_tokens hmem
    rw [hp]
    exact htoken p _
  · refine List.pairwise_of_forall_mem_list fun h _ h' hmem => ?_
    simp [needs_of_mem_others setup hmem]
  · intro h hmem h' hmem'
    simp [needs_of_mem_others setup hmem']

/-- An assigned handle is known. -/
theorem mem_handles_store_self (c : ZenohControl) (h : Nat × Declaration) :
    h ∈ (c.store h).handles := by
  obtain ⟨s, d⟩ := h
  rcases d with e | p | p
  · simp [store, handles]
  · cases p <;> simp [store, handles, publishers]
  · cases p <;> simp [store, handles, tokens]

/-- An assignment replaces no handle of the same session. -/
theorem mem_handles_store {c : ZenohControl} {s : Nat} {d d' : Declaration}
    (h : (s, d) ∈ c.handles) : (s, d) ∈ (c.store (s, d')).handles := by
  rcases d' with e | p | p
  · simp only [store, handles, tokens, publishers, List.map_append, List.mem_append] at h ⊢
    grind
  · cases p <;> simp only [store, handles, tokens, publishers, List.mem_append,
      Option.mem_toList, Option.map_eq_some_iff] at h ⊢ <;> grind
  · cases p <;> simp only [store, handles, tokens, publishers, List.mem_append,
      Option.mem_toList, Option.map_eq_some_iff] at h ⊢ <;> grind

/-! ## The invariant -/

/-- What is live of a session. -/
def On (c : ZenohControl) (s : Nat) (ds : List Declaration) : Prop :=
  (live c.log).filter (·.1 = s) = ds.map (s, ·)

/-- What has been declared, by where `advertise` is. -/
def Place (setup : ControlSetup) (c : ZenohControl) : Progress → Prop
  | .idle => ∀ s, c.session = some s → c.On s (declarations setup.script)
  | .opening _ => c.session = none
  | .opened _ s => c.session = none ∧ s < c.sessions ∧ ∀ h ∈ live c.log, h.1 ≠ s
  | .declaring _ todo => ∃ done, setup.script = done ++ todo ∧
      ∀ s, c.session = some s → c.On s (declarations done)
  | .declared _ h todo => (∃ done, setup.script = done ++ .declare h.2 :: todo ∧
      ∀ s, c.session = some s → s = h.1 ∧ c.On s (declarations done ++ [h.2])) ∧
      (c.session = none → .missed h.1 h.2 ∈ c.log)

/-- The invariant of the control plane. -/
structure Sound (setup : ControlSetup) (c : ZenohControl) : Prop where
  guarded : AlwaysGuarded (needs setup) c.log
  fresh : ∀ h ∈ live c.log, h.1 < c.sessions
  current : ∀ s, c.session = some s → s < c.sessions
  /-- `_safe_close` would withdraw all that is live, apart from what is left behind -/
  known : ∀ h ∈ live c.log,
    LeftBehind (c.log ++ c.pending) h ∨ c.session = some h.1 ∧ h ∈ c.handles
  /-- whatever is live is of the current session, or of one that could not be closed -/
  clean : ∀ h ∈ live c.log, c.session = some h.1 ∨ .unclosed h.1 ∈ c.log
  place : Place setup c c.progress

/-- A plane that has declared nothing. -/
theorem sound_init (setup : ControlSetup) : Sound setup init where
  guarded := alwaysGuarded_nil _
  fresh h hmem := by simp [init] at hmem
  current s hs := by simp [init] at hs
  known h hmem := by simp [init] at hmem
  clean h hmem := by simp [init] at hmem
  place := fun s hs => by simp [init] at hs

variable {setup : ControlSetup} {c : ZenohControl}

/-- A handle that was missed changes nothing on the wire. -/
theorem live_pending (c : ZenohControl) : live (c.log ++ c.pending) = live c.log := by
  unfold pending
  split
  · rw [live_append]
    rfl
  · rw [List.append_nil]

theorem alwaysGuarded_pending (h : Sound setup c) :
    AlwaysGuarded (needs setup) (c.log ++ c.pending) := by
  unfold pending
  split
  · exact h.guarded.same rfl
  · simpa using h.guarded

/-- What stays live when everything is withdrawn that is known of. -/
theorem mem_live_safeClose {t : Teardown} {h : Nat × Declaration}
    (hmem : h ∈ live (c.safeClose t).log) :
    h ∈ live c.log ∧ (h ∈ c.handles → t.refuses h = true) ∧
      ∀ s, c.session = some s → t.closeFails = false → h.1 ≠ s := by
  simp only [safeClose, closing] at hmem
  have hwithdrawn : ∀ {log}, log = c.log ++ c.pending ++ withdrawAll t.refuses c.handles →
      h ∈ live log → h ∈ live c.log ∧ (h ∈ c.handles → t.refuses h = true) := by
    rintro log rfl hlive
    rwa [mem_live_withdrawAll, live_pending] at hlive
  cases hsession : c.session with
  | none =>
      simp only [hsession, Option.map_none, Option.toList_none, List.append_nil] at hmem
      obtain ⟨hlive, hrefuses⟩ := hwithdrawn rfl hmem
      exact ⟨hlive, hrefuses, fun s hs => by simp at hs⟩
  | some s =>
      simp only [hsession, Option.map_some, Option.toList_some] at hmem
      rw [live_append] at hmem
      by_cases hfails : t.closeFails = true
      · simp only [hfails, if_true, WireEvent.next] at hmem
        obtain ⟨hlive, hrefuses⟩ := hwithdrawn rfl hmem
        exact ⟨hlive, hrefuses, fun _ _ hno => by simp [hfails] at hno⟩
      · simp only [hfails, WireEvent.next, List.mem_filter, ne_eq, decide_not,
          Bool.not_eq_true', decide_eq_false_iff_not, Bool.false_eq_true, if_false] at hmem
        obtain ⟨hlive, hrefuses⟩ := hwithdrawn rfl hmem.1
        refine ⟨hlive, hrefuses, fun s' hs' _ => ?_⟩
        cases hs'
        exact hmem.2

/-- What stays live behind `_safe_close` was refused, or missed. -/
theorem leftBehind_safeClose (h : Sound setup c) (t : Teardown) :
    ∀ d ∈ live (c.safeClose t).log, LeftBehind (c.safeClose t).log d := by
  intro d hmem
  obtain ⟨hlive, hrefuses, -⟩ := mem_live_safeClose hmem
  simp only [safeClose]
  rcases h.known d hlive with hleft | ⟨-, hhandle⟩
  · exact (hleft.append _).append _
  · have hrefused := refused_mem_withdrawAll hhandle (hrefuses hhandle)
    exact .inl (List.mem_append_left _ (List.mem_append_right _ hrefused))

/-- The tokens go first, so every moment of `_safe_close` is guarded. -/
theorem alwaysGuarded_safeClose (h : Sound setup c) (t : Teardown) :
    AlwaysGuarded (needs setup) (c.safeClose t).log := by
  have hwithdrawn : AlwaysGuarded (needs setup)
      (c.log ++ c.pending ++ withdrawAll t.refuses c.handles) := by
    refine alwaysGuarded_withdrawAll _ (topDown_handles setup c) (alwaysGuarded_pending h) ?_
    intro d _ x hlive
    rw [live_pending] at hlive
    exact (h.known _ hlive).imp id And.right
  unfold safeClose closing
  cases c.session with
  | none => simpa using hwithdrawn
  | some s =>
      simp only [Option.map_some, Option.toList_some]
      split
      · exact hwithdrawn.same rfl
      · exact alwaysGuarded_closed s hwithdrawn

/-- After `_safe_close` nothing is known any more, and what is live is of a session that
could not be closed. -/
theorem sound_safeClose (h : Sound setup c) (t : Teardown) {c' : ZenohControl}
    (hlog : c'.log = (c.safeClose t).log) (hsession : c'.session = none)
    (hsessions : c'.sessions = c.sessions)
    (hplace : Place setup c' c'.progress) : Sound setup c' where
  guarded := by
    rw [hlog]
    exact alwaysGuarded_safeClose h t
  fresh d hd := by
    rw [hlog] at hd
    rw [hsessions]
    exact h.fresh d (mem_live_safeClose hd).1
  current s hs := by simp [hsession] at hs
  known d hd := by
    rw [hlog] at hd ⊢
    exact .inl ((leftBehind_safeClose h t d hd).append _)
  clean d hd := by
    rw [hlog] at hd ⊢
    obtain ⟨hlive, -, hclosed⟩ := mem_live_safeClose hd
    right
    rcases h.clean d hlive with hcurrent | hunclosed
    · -- it is of the session that is being closed, so that failed
      have hfails : t.closeFails = true := by
        by_contra hcloses
        exact hclosed _ hcurrent (by simpa using hcloses) rfl
      simp [safeClose, closing, hcurrent, hfails]
    · simp [safeClose, hunclosed]
  place := hplace

/-! ## One event -/

/-- The timer and the place in `advertise` are all that changes. -/
theorem Sound.moved (h : Sound setup c) {c' : ZenohControl} (hpending : c.pending = [])
    (hc : c' = { c with progress := c'.progress, armed := c'.armed, sessions := c'.sessions })
    (hsessions : c.sessions ≤ c'.sessions)
    (hplace : Place setup c' c'.progress) : Sound setup c' := by
  have hlog : c'.log = c.log := by rw [hc]
  have hsession : c'.session = c.session := by rw [hc]
  have hhandles : c'.handles = c.handles := by rw [hc]; rfl
  refine ⟨hlog ▸ h.guarded, ?_, ?_, ?_, ?_, hplace⟩
  · intro d hd
    rw [hlog] at hd
    exact Nat.lt_of_lt_of_le (h.fresh d hd) hsessions
  · intro s hs
    rw [hsession] at hs
    exact Nat.lt_of_lt_of_le (h.current s hs) hsessions
  · intro d hd
    rw [hlog] at hd ⊢
    rw [hsession, hhandles]
    refine (h.known d hd).imp (fun hleft => ?_) id
    rw [hpending, List.append_nil] at hleft
    exact hleft.append _
  · intro d hd
    rw [hlog] at hd ⊢
    rw [hsession]
    exact h.clean d hd

/-- The caller of `advertise` goes on. -/
theorem Sound.finish (h : Sound setup c) (hpending : c.pending = [])
    (hplace : Place setup c .idle) (caller : Caller) (ok : Bool) :
    Sound setup (c.finish caller ok) := by
  cases caller <;> exact h.moved hpending rfl (Nat.le_refl _) hplace

theorem Sound.failed (h : Sound setup c) (caller : Caller) (t : Teardown) :
    Sound setup (c.failed caller t) := by
  unfold ZenohControl.failed ZenohControl.finish
  cases caller <;>
    exact sound_safeClose h t rfl rfl rfl fun s hs => by simp [safeClose] at hs

/-- `advertise` looks for a session, and begins to open one. -/
theorem Sound.advertise (h : Sound setup c) (hidle : c.progress = .idle) (caller : Caller) :
    Sound setup (c.advertise setup caller) := by
  have hpending : c.pending = [] := by simp [pending, hidle]
  have hplace := h.place
  rw [hidle] at hplace
  unfold ZenohControl.advertise
  split
  · exact h.finish hpending hplace caller false
  · split
    · exact h.finish hpending hplace caller c.active
    · next hsession => exact h.moved hpending rfl (Nat.le_refl _) (by simpa [Place] using hsession)

theorem Sound.start (h : Sound setup c) : Sound setup (c.start setup) := by
  unfold ZenohControl.start
  split
  · next hidle => exact h.advertise hidle .start
  · exact h

/-- The timer calls it only while the plane is not closed. -/
theorem Sound.retry (h : Sound setup c) : Sound setup (c.retry setup) := by
  unfold ZenohControl.retry
  split
  · exact h
  · next hready =>
      have hidle : c.progress = .idle := by
        by_contra hbusy
        exact hready (.inr hbusy)
      split
      · refine h.moved (by simp [pending, hidle]) rfl (Nat.le_refl _) ?_
        have hplace := h.place
        rw [hidle] at hplace
        show Place setup _ c.progress
        rw [hidle]
        exact hplace
      · exact h.advertise hidle .retry

/-- `close`, wherever the main thread is. -/
theorem Sound.close (h : Sound setup c) (t : Teardown) : Sound setup (c.close t) := by
  have hlog : (c.close t).log = (c.safeClose t).log := rfl
  have hnone : ∀ s, (c.close t).session ≠ some s := fun s hs => by
    simp [ZenohControl.close, safeClose] at hs
  refine sound_safeClose h t hlog rfl rfl ?_
  have hplace := h.place
  have hprogress : (c.close t).progress = c.progress := rfl
  rw [hprogress]
  cases hp : c.progress with
  | idle => exact fun s hs => absurd hs (hnone s)
  | opening caller => exact rfl
  | opened caller s =>
      rw [hp] at hplace
      refine ⟨rfl, hplace.2.1, fun d hd => ?_⟩
      rw [hlog] at hd
      exact hplace.2.2 d (mem_live_safeClose hd).1
  | declaring caller todo =>
      rw [hp] at hplace
      obtain ⟨done, hscript, -⟩ := hplace
      exact ⟨done, hscript, fun s hs => absurd hs (hnone s)⟩
  | declared caller d todo =>
      rw [hp] at hplace
      obtain ⟨⟨done, hscript, -⟩, -⟩ := hplace
      refine ⟨⟨done, hscript, fun s hs => absurd hs (hnone s)⟩, fun _ => ?_⟩
      have hpending : c.pending = [.missed d.1 d.2] := by simp [pending, hp]
      rw [hlog]
      simp [safeClose, hpending]

/-- A call has declared something: what it needs has been declared before. -/
theorem Sound.declared (h : Sound setup c) {caller : Caller} {d : Declaration}
    {todo : List Action} {s : Nat} (hprogress : c.progress = .declaring caller (.declare d :: todo))
    (hsession : c.session = some s) :
    Sound setup { c with
      progress := .declared caller (s, d) todo, log := c.log ++ [.declared s d] } := by
  have hplace := h.place
  rw [hprogress] at hplace
  obtain ⟨done, hscript, hon⟩ := hplace
  have hlive : live (c.log ++ [.declared s d]) = live c.log ++ [(s, d)] := live_append _ _
  constructor
  · refine alwaysGuarded_declared h.guarded fun e he => ?_
    have hdone : (s, e) ∈ (declarations done).map (s, ·) :=
      List.mem_map_of_mem (needs_declared hscript he)
    rw [← hon s hsession] at hdone
    exact List.mem_of_mem_filter hdone
  · intro x hx
    simp only [hlive, List.mem_append, List.mem_singleton] at hx
    rcases hx with hx | rfl
    · exact h.fresh x hx
    · exact h.current s hsession
  · exact h.current
  · intro x hx
    simp only [hlive, List.mem_append, List.mem_singleton] at hx
    rcases hx with hx | rfl
    · refine (h.known x hx).imp (fun hleft => ?_) id
      simp only [pending, hprogress, List.append_nil] at hleft
      exact (hleft.append _).append _
    · exact .inl (.inr (by simp [pending]))
  · intro x hx
    simp only [hlive, List.mem_append, List.mem_singleton] at hx
    rcases hx with hx | rfl
    · exact (h.clean x hx).imp id (List.mem_append_left _)
    · exact .inl hsession
  · refine ⟨⟨done, hscript, fun s' hs' => ?_⟩, fun hnone => by simp [hsession] at hnone⟩
    obtain rfl : s = s' := Option.some.inj (hsession.symm.trans hs')
    refine ⟨rfl, ?_⟩
    have hbefore := hon s hsession
    simp only [On] at hbefore ⊢
    rw [hlive, List.filter_append, hbefore]
    simp

/-- The handle is assigned: now `_safe_close` knows of it. -/
theorem Sound.stored (h : Sound setup c) {caller : Caller} {d : Nat × Declaration}
    {todo : List Action} (hprogress : c.progress = .declared caller d todo) :
    Sound setup { c.store d with progress := .declaring caller todo } := by
  have hplace := h.place
  rw [hprogress] at hplace
  obtain ⟨⟨done, hscript, hon⟩, hmissed⟩ := hplace
  have hframe : ∀ d : Nat × Declaration, (c.store d).log = c.log ∧
      (c.store d).session = c.session ∧ (c.store d).sessions = c.sessions := by
    rintro ⟨s, e | p | p⟩
    · exact ⟨rfl, rfl, rfl⟩
    · cases p <;> exact ⟨rfl, rfl, rfl⟩
    · cases p <;> exact ⟨rfl, rfl, rfl⟩
  obtain ⟨hlog, hsession, hsessions⟩ := hframe d
  constructor
  · simpa only [hlog] using h.guarded
  · simpa only [hlog, hsessions] using h.fresh
  · simpa only [hsession, hsessions] using h.current
  · intro x hx
    simp only [hlog, hsession] at hx ⊢
    rcases h.known x hx with hleft | ⟨hcurrent, hhandle⟩
    · rw [show c.pending = [.missed d.1 d.2] by simp [pending, hprogress]] at hleft
      simp only [LeftBehind, List.mem_append, List.mem_singleton, reduceCtorEq, or_false,
        WireEvent.missed.injEq] at hleft
      rcases hleft with hrefused | hmem | ⟨hs, hd⟩
      · exact .inl (.inl (List.mem_append_left _ hrefused))
      · exact .inl (.inr (List.mem_append_left _ hmem))
      · obtain rfl : x = d := Prod.ext hs hd
        cases hcurrent : c.session with
        | none => exact .inl (.inr (List.mem_append_left _ (hmissed hcurrent)))
        | some s =>
            obtain rfl := (hon s hcurrent).1
            exact .inr ⟨rfl, mem_handles_store_self c x⟩
    · refine .inr ⟨hcurrent, ?_⟩
      have heq := (hon _ hcurrent).1
      obtain ⟨s, e⟩ := x
      obtain ⟨s', e'⟩ := d
      cases heq
      exact mem_handles_store hhandle
  · simpa only [hlog, hsession] using h.clean
  · refine ⟨done ++ [.declare d.2], by simpa using hscript, fun s hs => ?_⟩
    rw [show ({ c.store d with progress := .declaring caller todo } : ZenohControl).session =
      c.session from hsession] at hs
    have hon := (hon s hs).2
    simp only [On, hlog] at hon ⊢
    rw [hon]
    simp [declarations, Action.declaration?]

/-- One instruction of `advertise`; the cases are those of `Progress`. -/
theorem Sound.go (h : Sound setup c) (fails : Bool) (t : Teardown) :
    Sound setup (c.go setup fails t) := by
  unfold ZenohControl.go
  have hplace := h.place
  split
  · exact h
  · next caller hp =>
      rw [hp] at hplace
      split
      · exact h.failed caller t
      · refine h.moved (by simp [pending, hp]) rfl (Nat.le_succ _) ?_
        exact ⟨hplace, Nat.lt_succ_self _, fun d hd => Nat.ne_of_lt (h.fresh d hd)⟩
  · next caller s hp =>
      rw [hp] at hplace
      obtain ⟨hnone, hs, hother⟩ := hplace
      refine ⟨h.guarded, h.fresh, fun s' hs' => ?_, fun d hd => ?_, fun d hd => ?_, ?_⟩
      · cases hs'
        exact hs
      · refine (h.known d hd).imp (fun hleft => ?_) fun hcurrent => by simp [hnone] at hcurrent
        simpa [pending, hp] using hleft
      · exact .inr ((h.clean d hd).resolve_left (by simp [hnone]))
      · refine ⟨[], rfl, fun s' hs' => ?_⟩
        cases hs'
        refine List.filter_eq_nil_iff.2 fun d hd => ?_
        simpa using hother d hd
  · next caller hp =>
      rw [hp] at hplace
      obtain ⟨done, hscript, hon⟩ := hplace
      rw [List.append_nil] at hscript
      refine h.finish (by simp [pending, hp]) (fun s hs => ?_) caller true
      rw [hscript]
      exact hon s hs
  · next caller todo hp =>
      rw [hp] at hplace
      obtain ⟨done, hscript, hon⟩ := hplace
      split
      · exact h.failed caller t
      · refine h.moved (by simp [pending, hp]) rfl (Nat.le_refl _) ?_
        refine ⟨done ++ [.describe], by simpa using hscript, fun s hs => ?_⟩
        have hdone : declarations (done ++ [.describe]) = declarations done := by
          simp [declarations, List.filterMap_cons, Action.declaration?]
        rw [hdone]
        exact hon s hs
  · next caller d todo hp =>
      split
      · exact h.failed caller t
      · next s hs =>
          split
          · exact h.failed caller t
          · exact h.declared hp hs
  · next caller d todo hp => exact h.stored hp

theorem Sound.step (h : Sound setup c) (event : PresenceEvent) :
    Sound setup (c.step setup event) := by
  cases event with
  | start => exact h.start
  | retry => exact h.retry
  | go fails t => exact h.go fails t
  | close t => exact h.close t

/-- In every state of every run. -/
theorem sound_run (setup : ControlSetup) (events : List PresenceEvent) :
    Sound setup (run setup events) := by
  induction events using List.reverseRecOn with
  | nil => exact sound_init setup
  | append_singleton events event ih =>
      rw [run, List.foldl_append]
      exact ih.step event

/-! ## After `close` -/

/-- Closed between two calls of the main loop. -/
structure Ended (c : ZenohControl) : Prop where
  closed : c.closed = true
  idle : c.progress = .idle
  session : c.session = none
  handles : c.handles = []

/-- A `close` between two calls leaves nothing to withdraw. -/
theorem ended_close (hidle : c.progress = .idle) (t : Teardown) : Ended (c.close t) :=
  ⟨rfl, hidle, rfl, rfl⟩

/-- Only `start` declares anything again. -/
theorem Ended.step (h : Ended c) {event : PresenceEvent} (hstart : event ≠ .start) :
    Ended (c.step setup event) ∧ (c.step setup event).log = c.log := by
  cases event with
  | start => exact absurd rfl hstart
  | retry =>
      unfold ZenohControl.step ZenohControl.retry
      dsimp only
      split
      · exact ⟨h, rfl⟩
      · rw [if_pos h.closed]
        exact ⟨⟨h.closed, h.idle, h.session, h.handles⟩, rfl⟩
  | go fails t =>
      simp only [ZenohControl.step, ZenohControl.go, h.idle]
      exact ⟨h, trivial⟩
  | close t =>
      refine ⟨ended_close h.idle t, ?_⟩
      have hpending : c.pending = [] := by simp [pending, h.idle]
      have hhandles : ({ c with closed := true } : ZenohControl).handles = [] := h.handles
      have hclosing : ({ c with closed := true } : ZenohControl).closing t = [] := by
        simp [closing, h.session]
      have hnothing : ({ c with closed := true } : ZenohControl).pending = [] := hpending
      simp [ZenohControl.step, ZenohControl.close, safeClose, hhandles, hclosing, hnothing,
        withdrawAll]

/-- From then on nothing happens on the wire. -/
theorem Ended.run (h : Ended c) {more : List PresenceEvent}
    (hstart : ∀ event ∈ more, event ≠ .start) :
    (more.foldl (ZenohControl.step setup) c).log = c.log := by
  induction more generalizing c with
  | nil => rfl
  | cons event more ih =>
      have hone : Ended (c.step setup event) ∧ (c.step setup event).log = c.log :=
        h.step (hstart event List.mem_cons_self)
      rw [List.foldl_cons, ih hone.1 fun e he => hstart e (List.mem_cons_of_mem _ he)]
      exact hone.2

/-! ## What a consumer may rely on -/

/-- What holds of the declarations of a control plane. -/
structure PresenceHolds (setup : ControlSetup) (c : ZenohControl) : Prop where
  /-- at every moment, whoever sees a token finds everything there that it stands for, unless
  withdrawing it failed or a signal came between its declaration and its assignment -/
  answerable : ∀ log, log <+: c.log → ∀ s p, (s, .token p) ∈ live log →
    LeftBehind log (s, .token p) ∨
      ((s, .publisher p) ∈ live log ∧ ∀ e ∈ p.endpoints setup, (s, .queryable e) ∈ live log)
  /-- between two calls, the session there is has declared all -/
  whole : c.progress = .idle → ∀ s, c.session = some s →
    (live c.log).filter (·.1 = s) = (declarations setup.script).map (s, ·)
  /-- whatever is live is of the session there is, or of one that could not be closed -/
  sole : ∀ h ∈ live c.log, c.session = some h.1 ∨ .unclosed h.1 ∈ c.log
  /-- after a `close` between two calls, whatever comes but a `start`, there is no more to
  see, and what is still live is of a session that could not be closed -/
  ended : c.progress = .idle → ∀ t (more : List PresenceEvent),
    (∀ event ∈ more, event ≠ PresenceEvent.start) →
    (more.foldl (ZenohControl.step setup) (c.close t)).log = (c.close t).log ∧
      ∀ h ∈ live (c.close t).log, .unclosed h.1 ∈ (c.close t).log

/-- **Presence**, whatever fails and whenever the signals come. -/
theorem presence_run (setup : ControlSetup) (events : List PresenceEvent) :
    PresenceHolds setup (run setup events) where
  answerable log hlog s p hmem := by
    have hguarded := (sound_run setup events).guarded log hlog (s, .token p) hmem
    refine hguarded.imp id fun hneeds => ⟨hneeds _ List.mem_cons_self, fun e he => ?_⟩
    exact hneeds _ (List.mem_cons_of_mem _ (List.mem_map_of_mem he))
  whole hidle := by
    have hplace := (sound_run setup events).place
    rw [hidle] at hplace
    exact hplace
  sole := (sound_run setup events).clean
  ended hidle t more hmore := by
    refine ⟨(ended_close hidle t).run hmore, fun d hd => ?_⟩
    exact (((sound_run setup events).close t).clean d hd).resolve_left nofun

end ZenohControl

end CamDriver
