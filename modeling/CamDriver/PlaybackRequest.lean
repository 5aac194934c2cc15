import CamDriver.ReplayPace

/-!
# CamDriver.PlaybackRequest

`PlaybackState.request` with everything it reads and changes: the ops with their
validation, the reply, and the source's restart hook, which may raise.

A request first disarms the start gate and, for a restart from the end, plays
again, and only then validates or runs the hook.  `refused_unchanged_iff` says
which refusals undo nothing of that because there is nothing to undo.
-/

namespace CamDriver

/-! ## Values -/

/-- A float of the language. -/
inductive PyFloat where
  | finite (q : ℚ)
  | posInf
  | negInf
  | nan
deriving DecidableEq, Repr

namespace PyFloat

/-- `x < 0`. -/
def isNegative : PyFloat → Bool
  | .finite q => q < 0
  | .negInf => true
  | .posInf | .nan => false

/-- `x == y`: a nan equals nothing. -/
def equals : PyFloat → PyFloat → Bool
  | .nan, _ | _, .nan => false
  | x, y => x = y

end PyFloat

/-- A value of a request's `params`; a missing key reads as `null`. -/
inductive Value where
  | null
  | bool (b : Bool)
  | int (i : Int)
  | float (x : PyFloat)
  | str (s : String)
  | other
deriving DecidableEq, Repr

/-- What the language itself provides: `float` of an integer (`none`: it overflows) and
of a text (`none`: it is no number), and `repr` of a text. -/
structure Builtins where
  floatOfInt : Int → Option PyFloat
  floatOfStr : String → Option PyFloat
  repr : String → String

/-- What `float` raises. -/
inductive FloatError where
  /-- `TypeError` or `ValueError` -/
  | notANumber
  | overflow
deriving DecidableEq, Repr

/-- `float(value)`. -/
def Builtins.float (py : Builtins) : Value → Except FloatError PyFloat
  | .null | .other => .error .notANumber
  | .bool b => .ok (.finite (if b then 1 else 0))
  | .int i => match py.floatOfInt i with
    | some x => .ok x
    | none => .error .overflow
  | .float x => .ok x
  | .str s => match py.floatOfStr s with
    | some x => .ok x
    | none => .error .notANumber

/-! ## The state -/

inductive PlaybackOp where
  | pause | resume | setSpeed | setLoop | restart
deriving DecidableEq, Repr

/-- The op of a request; `none`: it is none of the five. -/
def PlaybackOp.ofString : String → Option PlaybackOp
  | "pause" => some .pause
  | "resume" => some .resume
  | "set_speed" => some .setSpeed
  | "set_loop" => some .setLoop
  | "restart" => some .restart
  | _ => none

/-- The params an op reads. -/
structure PlaybackParams where
  speed : Value
  loop : Value
deriving DecidableEq, Repr

/-- `PlaybackState` with its pacer and counters. -/
structure PlaybackControl extends PlaybackState where
  pacer : Pacer PyFloat
  cycle : Nat
  frames : Nat
  positionNs : Int
  cycleBaseNs : Option Int
  restartable : Bool
  sinceUnixS : ℚ
  lastError : Option String
deriving DecidableEq, Repr

namespace PlaybackControl

/-- A playback at boot. -/
def boot (paused loop gateArmed restartable : Bool) (speed : PyFloat) (anchorSrcNs : Option Int) :
    PlaybackControl :=
  { PlaybackState.boot paused loop gateArmed with
    pacer := .start speed anchorSrcNs, cycle := 0, frames := 0, positionNs := 0,
    cycleBaseNs := none, restartable := restartable, sinceUnixS := 0, lastError := none }

/-- `mark_cycle`. -/
def markCycle (c : PlaybackControl) (cycle : Nat) : PlaybackControl :=
  { c with cycle := cycle, frames := 0, positionNs := 0, cycleBaseNs := none }

/-- `_release`. -/
def release (c : PlaybackControl) (now : Int) (clock : ℚ) : PlaybackControl :=
  { c with
    state := .playing
    sinceUnixS := clock
    pacer := (c.pacer.reset c.pacer.anchorSrcNs).anchorNow now }

end PlaybackControl

/-! ## The replies -/

/-- A reply, without its descriptor. -/
structure Reply where
  ok : Bool
  state : PlayState
  error : Option String
  noop : Bool
  pending : Bool
deriving DecidableEq, Repr

namespace PlaybackControl

/-- `_result(False, error=...)`. -/
def refuse (c : PlaybackControl) (error : String) : Reply :=
  { ok := false, state := c.state, error := some error, noop := false, pending := false }

/-- `_result(True, noop=...)`. -/
def accept (c : PlaybackControl) (noop pending : Bool) : Reply :=
  { ok := true, state := c.state, error := none, noop := noop, pending := pending }

end PlaybackControl

/-! ## The request -/

/-- The clocks a request reads, and whether the feeder takes a restart while the
request waits for it. -/
structure RequestEnv where
  now : Int
  clock : ℚ
  taken : Bool

/-- How the locked part of a request ends. -/
inductive Locked where
  | replies (reply : Reply)
  /-- an exception that nothing catches -/
  | raises
  | proceeds
deriving DecidableEq, Repr

namespace PlaybackControl

/-- The locked part has changed the state. -/
def changed (c : PlaybackControl) (env : RequestEnv) : PlaybackControl × Locked :=
  ({ c with sinceUnixS := env.clock, lastError := none }, .proceeds)

/-- One of the five ops; `cur` is the state the request found. -/
def apply (py : Builtins) (env : RequestEnv) (params : PlaybackParams) (cur : PlayState)
    (c : PlaybackControl) : PlaybackOp → PlaybackControl × Locked
  | .pause =>
    if cur = .paused then (c, .replies (c.accept true false))
    else { c with state := .paused }.changed env
  | .resume =>
    if cur = .playing then (c, .replies (c.accept true false))
    else if c.frames = 0 ∧ c.pacer.anchorSrcNs.isSome then
      (c.release env.now env.clock).changed env
    else { c with state := .playing, pacer := c.pacer.rebase env.now }.changed env
  | .setSpeed =>
    match py.float params.speed with
    | .error .notANumber => (c, .replies (c.refuse "'speed' must be a number >= 0"))
    | .error .overflow => (c, .raises)
    | .ok speed =>
      if speed.isNegative then (c, .replies (c.refuse "'speed' must be >= 0"))
      else if speed.equals c.pacer.speed then (c, .replies (c.accept true false))
      else { c with pacer := c.pacer.setSpeed speed env.now }.changed env
  | .setLoop =>
    match params.loop with
    | .bool loop =>
      if loop = c.loop then (c, .replies (c.accept true false))
      else { c with loop := loop }.changed env
    | _ => (c, .replies (c.refuse "'loop' must be true or false"))
  | .restart => { c with restartPending := true }.changed env

/-- `request`, under its lock. -/
def locked (py : Builtins) (env : RequestEnv) (op : String) (params : PlaybackParams)
    (c : PlaybackControl) : PlaybackControl × Locked :=
  let c := { c with gateArmed := false }
  match PlaybackOp.ofString op with
  | none => (c, .replies (c.refuse ("unknown op " ++ py.repr op)))
  | some known =>
    if c.state = .finished then
      if known = .restart ∧ c.restartable then
        { c with state := .playing }.apply py env params .finished known
      else (c, .replies (c.refuse "playback has finished"))
    else c.apply py env params c.state known

/-- `request` after a restart that nothing refused: it waits for the feeder. -/
def awaitTaken (c : PlaybackControl) (env : RequestEnv) : PlaybackControl × Reply :=
  let c := { c with restartPending := c.restartPending && !env.taken }
  (c, c.accept false c.restartPending)

end PlaybackControl

/-! ## The sources -/

/-- `ReplaySource`, as far as its restart hook reads and changes it; `built`: there is a
reader. -/
structure ReplaySide where
  cycle : Nat
  offset : Int
  skippedNs : Int
  finished : Bool
  failed : Bool
  idx : Nat
  sessionIdx : Nat
  built : Bool
deriving DecidableEq, Repr

/-- A source behind a playback. -/
inductive PlaybackSource where
  /-- `PcapSource`: its `_finished` and `_failed` -/
  | pcap (finished failed : Bool)
  | replay (cfg : PacedReplayConfig) (side : ReplaySide)

/-- What the restart hook meets: the flush seek, and the error of a rebuild that fails,
with whether it came after the session was activated. -/
structure RestartEnv where
  seekOk : Bool
  rebuild : Option (Bool × String)

/-- `_rebuild(self._first_idx)`. -/
def ReplaySide.rebuild (cfg : ReplayConfig) (env : RestartEnv) (side : ReplaySide) :
    ReplaySide × Option String :=
  let activated := { side with sessionIdx := cfg.firstIdx, idx := 0 }
  match env.rebuild with
  | none => (activated, none)
  | some (late, error) =>
    (if late then activated else side, some ("reader rebuild failed: " ++ error))

/-- `ReplaySource._restart`, as an operator's request calls it. -/
def ReplaySide.restart (cfg : PacedReplayConfig) (env : RestartEnv) (c : PlaybackControl)
    (side : ReplaySide) : (PlaybackControl × ReplaySide) × Option String :=
  let cycle := side.cycle + 1
  let offset := cfg.replay.offsetOf cycle
  let marked := c.markCycle cycle
  let c := { marked with
    restartPending := false
    pacer := marked.pacer.reset (some (cfg.epochNs + offset)) }
  let begun := { side with
    cycle := cycle, offset := offset, skippedNs := 0, finished := false, failed := false }
  let single := cfg.replay.sessionStamps.length = 1 ∨ side.sessionIdx = cfg.replay.firstIdx
  if single ∧ ¬ side.finished ∧ side.built then
    if env.seekOk then ((c, { begun with idx := 0 }), none)
    else
      let r := { begun with idx := 0 }.rebuild cfg.replay env
      ((c, r.1), r.2)
  else
    let r := begun.rebuild cfg.replay env
    ((c, r.1), r.2)

/-- `request`: the state after it, and the reply (`none`: an exception escapes). -/
def request (py : Builtins) (env : RequestEnv) (renv : RestartEnv) (op : String)
    (params : PlaybackParams) (c : PlaybackControl) (src : PlaybackSource) :
    (PlaybackControl × PlaybackSource) × Option Reply :=
  match c.locked py env op params with
  | (c, .replies reply) => ((c, src), some reply)
  | (c, .raises) => ((c, src), none)
  | (c, .proceeds) =>
    if op = "restart" then
      match src with
      | .pcap _ _ =>
        let r := c.awaitTaken env
        ((r.1, src), some r.2)
      | .replay cfg side =>
        match side.restart cfg renv c with
        | ((c, side), some error) =>
          let error := "restart failed: " ++ error
          let c := { c with restartPending := false, lastError := some error }
          ((c, .replay cfg side), some (c.refuse error))
        | ((c, side), none) =>
          let r := c.awaitTaken env
          ((r.1, .replay cfg side), some r.2)
    else ((c, src), some (c.accept false false))

/-! ## What goes on around the requests -/

/-- `note_frame`. -/
def PlaybackControl.noteFrame (c : PlaybackControl) (dataTsNs : Int) (cycleBaseNs : Option Int) :
    PlaybackControl :=
  let base := cycleBaseNs.getD (c.cycleBaseNs.getD dataTsNs)
  { c with
    cycleBaseNs := some base
    positionNs := max 0 (dataTsNs - base)
    frames := c.frames + 1 }

/-- A cycle ends and the next one begins: `_feed_loop` of a pcap, or the loop wrap of a
replay, where a failing rebuild ends the playback. -/
def nextCycle (renv : RestartEnv) (c : PlaybackControl) :
    PlaybackSource → PlaybackControl × PlaybackSource
  | .pcap finished failed => (c.markCycle (c.cycle + 1), .pcap finished failed)
  | .replay cfg side =>
    match side.restart cfg renv c with
    | ((c, side), none) => (c, .replay cfg side)
    | ((c, side), some _) => (c, .replay cfg { side with finished := true, failed := true })

/-- What happens to a playback and its source.  The sources' own threads, which decide
about the flags, the reader and the pacer's baseline, may move these at will. -/
inductive PlaybackEvent where
  | request (op : String) (params : PlaybackParams) (env : RequestEnv) (renv : RestartEnv)
  | fireGate
  /-- the request of a gate that found the playback paused -/
  | gateResume (env : RequestEnv) (renv : RestartEnv)
  | cancelGate
  | noteFrame (dataTsNs : Int) (cycleBaseNs : Option Int)
  | nextCycle (renv : RestartEnv)
  | takePreroll
  | takeRestart
  | waitIfPaused (cancel : Bool)
  | markFinished (clock : ℚ) (error : Option String)
  | pacerMoves (pacer : Pacer PyFloat)
  | pcapMoves (finished failed : Bool)
  | replayMoves (side : ReplaySide)

/-- The params of a request without any. -/
def PlaybackParams.none : PlaybackParams := { speed := .null, loop := .null }

/-- One event. -/
def PlaybackEvent.next (py : Builtins) :
    PlaybackControl × PlaybackSource → PlaybackEvent → Option (PlaybackControl × PlaybackSource)
  | (c, src), .request op params env renv => some (CamDriver.request py env renv op params c src).1
  | (c, src), .fireGate =>
    if c.gateArmed then some ({ c with toPlaybackState := c.fireGate }, src) else none
  | (c, src), .gateResume env renv =>
    if c.gateFiring then
      some (CamDriver.request py env renv "resume" .none { c with gateFiring := false } src).1
    else none
  | (c, src), .cancelGate => some ({ c with gateArmed := false }, src)
  | (c, src), .noteFrame dataTsNs cycleBaseNs => some (c.noteFrame dataTsNs cycleBaseNs, src)
  | (c, src), .nextCycle renv => some (CamDriver.nextCycle renv c src)
  | (c, src), .takePreroll => some ({ c with toPlaybackState := c.takePreroll }, src)
  | (c, src), .takeRestart => some ({ c with toPlaybackState := c.takeRestart }, src)
  | (c, src), .waitIfPaused cancel =>
    (c.toPlaybackState.waitIfPaused cancel).map fun r => ({ c with toPlaybackState := r.2 }, src)
  | (c, src), .markFinished clock error =>
    if c.state = .finished then some (c, src)
    else some ({ c with toPlaybackState := c.markFinished, sinceUnixS := clock,
                        lastError := error }, src)
  | (c, src), .pacerMoves pacer =>
    if pacer.speed = c.pacer.speed then some ({ c with pacer := pacer }, src) else none
  | (c, .pcap _ _), .pcapMoves finished failed => some (c, .pcap finished failed)
  | (c, .replay cfg old), .replayMoves side =>
    if side.cycle = old.cycle then some (c, .replay cfg side) else none
  | (_, .replay _ _), .pcapMoves _ _ | (_, .pcap _ _), .replayMoves _ => none

/-- How a playback starts. -/
structure PlaybackSetup where
  paused : Bool
  loop : Bool
  gateArmed : Bool
  speed : PyFloat
  /-- a replay's config; `none`: a pcap -/
  replay : Option PacedReplayConfig

/-- A playback and its source, once the source has started. -/
def PlaybackSetup.start (setup : PlaybackSetup) : PlaybackControl × PlaybackSource :=
  match setup.replay with
  | none =>
    (.boot setup.paused setup.loop setup.gateArmed false setup.speed none, .pcap false false)
  | some cfg =>
    let anchor := cfg.epochNs + cfg.replay.retimeOffset
    (.boot setup.paused setup.loop setup.gateArmed true setup.speed (some anchor),
      .replay cfg
        { cycle := 0, offset := cfg.replay.retimeOffset, skippedNs := 0, finished := false,
          failed := false, idx := 0, sessionIdx := cfg.replay.firstIdx, built := true })

/-! ## One cycle counter -/

/-- A replay and its playback count the same cycles. -/
def SameCycle : PlaybackControl × PlaybackSource → Prop
  | (_, .pcap _ _) => True
  | (c, .replay _ side) => c.cycle = side.cycle

/-- What an op can do: reply at once and leave the state alone, as a restart never does,
raise, or change the state within its cycle. -/
theorem apply_cases (py : Builtins) (env : RequestEnv) (params : PlaybackParams)
    (cur : PlayState) (c : PlaybackControl) (op : PlaybackOp) :
    (op ≠ .restart ∧ ∃ reply, c.apply py env params cur op = (c, .replies reply)) ∨
      c.apply py env params cur op = (c, .raises) ∨
      ∃ c', c.apply py env params cur op = (c', .proceeds) ∧ c'.cycle = c.cycle := by
  cases op with
  | pause =>
      simp only [PlaybackControl.apply]
      split
      · exact .inl ⟨nofun, _, rfl⟩
      · exact .inr (.inr ⟨_, rfl, rfl⟩)
  | resume =>
      simp only [PlaybackControl.apply]
      split
      · exact .inl ⟨nofun, _, rfl⟩
      · split <;> exact .inr (.inr ⟨_, rfl, rfl⟩)
  | setSpeed =>
      simp only [PlaybackControl.apply]
      split
      · exact .inl ⟨nofun, _, rfl⟩
      · exact .inr (.inl rfl)
      · split
        · exact .inl ⟨nofun, _, rfl⟩
        · split
          · exact .inl ⟨nofun, _, rfl⟩
          · exact .inr (.inr ⟨_, rfl, rfl⟩)
  | setLoop =>
      simp only [PlaybackControl.apply]
      split
      · split
        · exact .inl ⟨nofun, _, rfl⟩
        · exact .inr (.inr ⟨_, rfl, rfl⟩)
      · exact .inl ⟨nofun, _, rfl⟩
  | restart => exact .inr (.inr ⟨_, rfl, rfl⟩)

/-- Only the word itself asks for a restart. -/
theorem PlaybackOp.ofString_restart {op : String} :
    PlaybackOp.ofString op = some .restart ↔ op = "restart" := by
  constructor
  · intro h
    unfold PlaybackOp.ofString at h
    split at h <;> first | rfl | cases h
  · rintro rfl
    rfl

/-- What the locked part of a request can do: reply at once, with nothing but the gate
touched; raise; or go on, within the same cycle.  It replies to a restart only where the
playback has finished for good. -/
theorem locked_cases (py : Builtins) (env : RequestEnv) (op : String) (params : PlaybackParams)
    (c : PlaybackControl) :
    ((op = "restart" → c.state = .finished ∧ c.restartable = false) ∧
      ∃ reply, c.locked py env op params = ({ c with gateArmed := false }, .replies reply)) ∨
    (∃ c', c.locked py env op params = (c', .raises) ∧ c'.cycle = c.cycle) ∨
    (op = "restart" → ¬ (c.state = .finished ∧ c.restartable = false)) ∧
      ∃ c', c.locked py env op params = (c', .proceeds) ∧ c'.cycle = c.cycle := by
  simp only [PlaybackControl.locked]
  cases hop : PlaybackOp.ofString op with
  | none =>
      have hne : op ≠ "restart" := by
        intro h
        rw [PlaybackOp.ofString_restart.mpr h] at hop
        cases hop
      exact .inl ⟨fun h => absurd h hne, _, rfl⟩
  | some known =>
      have hknown : op = "restart" → known = .restart := by
        intro h
        rw [PlaybackOp.ofString_restart.mpr h] at hop
        exact (Option.some.inj hop).symm
      dsimp only
      split
      · next hfinished =>
          split
          · next hrestart =>
              have hgo : c.restartable ≠ false := by simp [hrestart.2]
              rcases apply_cases py env params .finished
                { c with gateArmed := false, state := .playing } known with
                ⟨hne, -⟩ | h | ⟨c', h, hcycle⟩
              · exact absurd hrestart.1 hne
              · exact .inr (.inl ⟨_, h, rfl⟩)
              · exact .inr (.inr ⟨fun _ hf => hgo hf.2, c', h, hcycle⟩)
          · next hrefused =>
              refine .inl ⟨fun h => ⟨hfinished, ?_⟩, _, rfl⟩
              simpa [hknown h] using hrefused
      · next hfinished =>
          rcases apply_cases py env params c.state { c with gateArmed := false } known with
            ⟨hne, reply, h⟩ | h | ⟨c', h, hcycle⟩
          · exact .inl ⟨fun hop => absurd (hknown hop) hne, reply, h⟩
          · exact .inr (.inl ⟨_, h, rfl⟩)
          · exact .inr (.inr ⟨fun _ hf => hfinished hf.1, c', h, hcycle⟩)

/-- What a request does under the lock leaves the cycle alone. -/
theorem cycle_locked (py : Builtins) (env : RequestEnv) (op : String) (params : PlaybackParams)
    (c : PlaybackControl) : (c.locked py env op params).1.cycle = c.cycle := by
  rcases locked_cases py env op params c with
    ⟨-, reply, h⟩ | ⟨c', h, hcycle⟩ | ⟨-, c', h, hcycle⟩
  · rw [h]
  · rw [h]
    exact hcycle
  · rw [h]
    exact hcycle

/-- The restart hook counts one cycle on, whether or not it raises. -/
theorem cycle_restart (cfg : PacedReplayConfig) (renv : RestartEnv) (c : PlaybackControl)
    (side : ReplaySide) :
    (side.restart cfg renv c).1.1.cycle = side.cycle + 1 ∧
      (side.restart cfg renv c).1.2.cycle = side.cycle + 1 := by
  have hrebuild : ∀ side : ReplaySide, (side.rebuild cfg.replay renv).1.cycle = side.cycle := by
    intro side
    unfold ReplaySide.rebuild
    split
    · rfl
    · split <;> rfl
  simp only [ReplaySide.restart]
  split
  · split
    · exact ⟨rfl, rfl⟩
    · exact ⟨rfl, hrebuild _⟩
  · exact ⟨rfl, hrebuild _⟩

/-- A restart takes the cycle to the source. -/
theorem sameCycle_restart (cfg : PacedReplayConfig) (renv : RestartEnv) (c : PlaybackControl)
    (side : ReplaySide) :
    (side.restart cfg renv c).1.1.cycle = (side.restart cfg renv c).1.2.cycle :=
  (cycle_restart cfg renv c side).1.trans (cycle_restart cfg renv c side).2.symm

/-- A request keeps the source on the cycle of the control. -/
theorem sameCycle_request (py : Builtins) (env : RequestEnv) (renv : RestartEnv) (op : String)
    (params : PlaybackParams) {c : PlaybackControl} {src : PlaybackSource}
    (h : SameCycle (c, src)) : SameCycle (request py env renv op params c src).1 := by
  cases src with
  | pcap finished failed =>
      unfold request
      split
      · trivial
      · trivial
      · split <;> trivial
  | replay cfg side =>
      have hcycle := cycle_locked py env op params c
      unfold request
      split
      · next heq =>
          rw [heq] at hcycle
          exact hcycle.trans h
      · next heq =>
          rw [heq] at hcycle
          exact hcycle.trans h
      · next c' heq =>
          rw [heq] at hcycle
          have hrestart := sameCycle_restart cfg renv c' side
          split
          · dsimp only
            split
            · next hr =>
                rw [hr] at hrestart
                exact hrestart
            · next hr =>
                rw [hr] at hrestart
                exact hrestart
          · exact hcycle.trans h

/-- So does the end of a cycle. -/
theorem sameCycle_nextCycle (renv : RestartEnv) (c : PlaybackControl) (src : PlaybackSource) :
    SameCycle (nextCycle renv c src) := by
  cases src with
  | pcap finished failed => trivial
  | replay cfg side =>
      have hrestart := sameCycle_restart cfg renv c side
      unfold nextCycle
      dsimp only
      split
      · next hr =>
          rw [hr] at hrestart
          exact hrestart
      · next hr =>
          rw [hr] at hrestart
          exact hrestart

theorem sameCycle_of_cycle_eq {c c' : PlaybackControl} {src : PlaybackSource}
    (h : SameCycle (c, src)) (hcycle : c'.cycle = c.cycle) : SameCycle (c', src) := by
  cases src with
  | pcap finished failed => trivial
  | replay cfg side => exact hcycle.trans h

/-- So does every event. -/
theorem sameCycle_next (py : Builtins) (s : PlaybackControl × PlaybackSource)
    (e : PlaybackEvent) (s' : PlaybackControl × PlaybackSource) (h : SameCycle s)
    (hs : e.next py s = some s') : SameCycle s' := by
  obtain ⟨c, src⟩ := s
  cases e with
  | request op params env renv =>
      cases hs
      exact sameCycle_request _ _ _ _ _ h
  | fireGate =>
      simp only [PlaybackEvent.next, Option.ite_none_right_eq_some] at hs
      cases hs.2
      exact sameCycle_of_cycle_eq h rfl
  | gateResume env renv =>
      simp only [PlaybackEvent.next, Option.ite_none_right_eq_some] at hs
      cases hs.2
      exact sameCycle_request _ _ _ _ _ (sameCycle_of_cycle_eq h rfl)
  | cancelGate =>
      cases hs
      exact sameCycle_of_cycle_eq h rfl
  | noteFrame dataTsNs cycleBaseNs =>
      cases hs
      exact sameCycle_of_cycle_eq h rfl
  | nextCycle renv =>
      cases hs
      exact sameCycle_nextCycle _ _ _
  | takePreroll =>
      cases hs
      exact sameCycle_of_cycle_eq h rfl
  | takeRestart =>
      cases hs
      exact sameCycle_of_cycle_eq h rfl
  | waitIfPaused cancel =>
      simp only [PlaybackEvent.next, Option.map_eq_some_iff] at hs
      obtain ⟨r, -, rfl⟩ := hs
      exact sameCycle_of_cycle_eq h rfl
  | markFinished clock error =>
      simp only [PlaybackEvent.next] at hs
      split at hs
      · cases hs
        exact h
      · cases hs
        exact sameCycle_of_cycle_eq h rfl
  | pacerMoves pacer =>
      simp only [PlaybackEvent.next, Option.ite_none_right_eq_some] at hs
      cases hs.2
      exact sameCycle_of_cycle_eq h rfl
  | pcapMoves finished failed =>
      cases src with
      | pcap _ _ =>
          cases hs
          trivial
      | replay _ _ => cases hs
  | replayMoves side =>
      cases src with
      | pcap _ _ => cases hs
      | replay cfg old =>
          simp only [PlaybackEvent.next, Option.ite_none_right_eq_some] at hs
          cases hs.2
          exact Eq.trans h hs.1.symm

/-- A player starts with both on cycle zero. -/
theorem sameCycle_start (setup : PlaybackSetup) : SameCycle setup.start := by
  unfold PlaybackSetup.start
  split
  · trivial
  · rfl

/-! ## Refusals -/

/-- What a request can change, as its caller sees it. -/
structure Observed where
  state : PlayState
  speed : PyFloat
  loop : Bool
  restartPending : Bool
  gateArmed : Bool
  cycle : Nat
  frames : Nat
  positionNs : Int
  finished : Bool
  failed : Bool
deriving DecidableEq, Repr

/-- The source's `_finished` and `_failed`. -/
def PlaybackSource.flags : PlaybackSource → Bool × Bool
  | .pcap finished failed => (finished, failed)
  | .replay _ side => (side.finished, side.failed)

def observe (s : PlaybackControl × PlaybackSource) : Observed :=
  { state := s.1.state
    speed := s.1.pacer.speed
    loop := s.1.loop
    restartPending := s.1.restartPending
    gateArmed := s.1.gateArmed
    cycle := s.1.cycle
    frames := s.1.frames
    positionNs := s.1.positionNs
    finished := s.2.flags.1
    failed := s.2.flags.2 }

/-- A refusal that only touches the gate shows nothing where the gate was not armed. -/
theorem observe_gateArmed_iff {c : PlaybackControl} {src : PlaybackSource} :
    observe ({ c with gateArmed := false }, src) = observe (c, src) ↔ c.gateArmed = false := by
  constructor
  · intro h
    exact (congrArg Observed.gateArmed h).symm
  · intro h
    simp [observe, h]

/-- **Refusals**: a refused request leaves everything as it was exactly when no start
gate was armed and it was not a restart that reached the source's hook. -/
theorem refused_unchanged_iff (py : Builtins) (setup : PlaybackSetup)
    (events : List PlaybackEvent) {s : PlaybackControl × PlaybackSource}
    (hrun : Machine.exec (fun s (e : PlaybackEvent) => e.next py s) setup.start events = some s)
    (op : String) (params : PlaybackParams) (env : RequestEnv) (renv : RestartEnv)
    {after : PlaybackControl × PlaybackSource} {reply : Reply}
    (hreq : request py env renv op params s.1 s.2 = (after, some reply))
    (hrefused : reply.ok = false) :
    observe after = observe s ↔
      s.1.gateArmed = false ∧
        (op = "restart" → s.1.state = .finished ∧ s.1.restartable = false) := by
  have hsame : SameCycle s := Machine.exec_inv (sameCycle_next py) (sameCycle_start setup) hrun
  obtain ⟨c, src⟩ := s
  rcases locked_cases py env op params c with
    ⟨hop, reply', h⟩ | ⟨c', h, -⟩ | ⟨hop, c', h, -⟩
  · simp only [request, h, Prod.mk.injEq] at hreq
    obtain ⟨rfl, -⟩ := hreq
    rw [observe_gateArmed_iff]
    exact ⟨fun hgate => ⟨hgate, hop⟩, And.left⟩
  · simp [request, h] at hreq
  · simp only [request, h] at hreq
    split at hreq
    · next hrestart =>
        have hno : ¬ (op = "restart" → c.state = .finished ∧ c.restartable = false) :=
          fun hyes => hop hrestart (hyes hrestart)
        refine iff_of_false ?_ fun hcond => hno hcond.2
        cases src with
        | pcap finished failed =>
            cases hreq
            cases hrefused
        | replay cfg side =>
            have hcycle := (cycle_restart cfg renv c' side).1
            dsimp only at hreq
            split at hreq
            · next c₁ side₁ error hr =>
                cases hreq
                rw [hr] at hcycle
                intro heq
                have hold : c.cycle = side.cycle := hsame
                have hnew : c₁.cycle = c.cycle := congrArg Observed.cycle heq
                dsimp only at hcycle
                omega
            · cases hreq
              cases hrefused
    · cases hreq
      cases hrefused

/-- A language without texts that are numbers. -/
def plainBuiltins : Builtins :=
  { floatOfInt := fun i => some (.finite i), floatOfStr := fun _ => none,
    repr := fun s => "'" ++ s ++ "'" }

/-- A replay of two frames, released at once. -/
def replaySetup : PlaybackSetup :=
  { paused := false, loop := false, gateArmed := false, speed := .finite 1,
    replay := some { replay := twoFrames, epochNs := 10, capNs := 0 } }

/-- It is played to its end. -/
def playedToEnd : List PlaybackEvent :=
  [.replayMoves
    { cycle := 0, offset := 0, skippedNs := 0, finished := true, failed := false, idx := 2,
      sessionIdx := 0, built := true },
   .markFinished 0 none]

/-- A request for a speed. -/
def PlaybackParams.ofSpeed (speed : Value) : PlaybackParams := { speed := speed, loop := .null }

def quietEnv : RequestEnv := { now := 0, clock := 0, taken := true }

/-- The parts of the session are gone. -/
def brokenReader : RestartEnv := { seekOk := false, rebuild := some (false, "no such file") }

/-- A restart from the end whose reader cannot be rebuilt is refused, and leaves the
playback playing in a cycle that has no frames. -/
theorem not_refused_unchanged :
    ¬ ∀ (py : Builtins) (setup : PlaybackSetup) (events : List PlaybackEvent)
      (s : PlaybackControl × PlaybackSource),
      Machine.exec (fun s (e : PlaybackEvent) => e.next py s) setup.start events = some s →
      ∀ (op : String) (params : PlaybackParams) (env : RequestEnv) (renv : RestartEnv)
        (after : PlaybackControl × PlaybackSource) (reply : Reply),
        request py env renv op params s.1 s.2 = (after, some reply) → reply.ok = false →
          observe after = observe s := by
  intro h
  have hsame := h plainBuiltins replaySetup playedToEnd _ rfl "restart" .none quietEnv brokenReader
    _ _ rfl rfl
  exact absurd hsame (by decide +kernel)

/-- A negative speed is refused, and nothing has changed. -/
theorem refused_unchanged_negativeSpeed :
    ∃ after reply,
      request plainBuiltins quietEnv brokenReader "set_speed" (.ofSpeed (.int (-1)))
          replaySetup.start.1 replaySetup.start.2 = (after, some reply) ∧
        reply.ok = false ∧ observe after = observe replaySetup.start :=
  ⟨_, _, rfl, rfl, (refused_unchanged_iff plainBuiltins replaySetup [] rfl "set_speed"
    (.ofSpeed (.int (-1))) quietEnv brokenReader rfl rfl).mpr ⟨rfl, nofun⟩⟩

end CamDriver
