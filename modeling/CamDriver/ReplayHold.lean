import CamDriver.ReplayRestart

/-!
# CamDriver.ReplayHold

A restart of a paused replay.

`_restart` takes the flag back before it seeks, and the seek waits for the
streaming thread.  A rebuild sets the cancel event that `wait_if_paused` looks
at; a seek does not, so a frame that is at its holds by then keeps the main loop
waiting for a `resume` that only the main loop could serve.
-/

namespace CamDriver

/-! ## Holds and restarts -/

/-- In `wait_if_paused`. -/
def StreamPc.waiting : StreamPc → Bool
  | .holding _ _ | .holdingAgain _ _ => true
  | _ => false

/-- At a hold of `_new_stamp`, or between the two. -/
def StreamPc.held : StreamPc → Bool
  | .holding _ _ | .pacing _ _ | .holdingAgain _ _ => true
  | _ => false

/-- The next statement is `take_preroll`. -/
def StreamPc.atPreroll : StreamPc → Bool
  | .inWindow _ _ => true
  | _ => false

/-- An operator's restart, up to the end of its seek. -/
def LoopPc.operator : LoopPc → Bool
  | .requested => true
  | .entered r | .begun r | .taken r | .unfinished r | .ready r | .seeking r => !r.loop
  | .idle | .halting _ _ | .nulling _ _ => false

/-- The next statement of an operator's restart is `take_restart`. -/
def LoopPc.takesFlag : LoopPc → Bool
  | .begun r => !r.loop
  | _ => false

/-- An operator's restart is past `take_restart`. -/
def LoopPc.flagTaken : LoopPc → Bool
  | .taken r | .unfinished r | .ready r | .seeking r => !r.loop
  | _ => false

/-- Paused, and no start gate will resume it. -/
structure PlaybackState.OnHold (pb : PlaybackState) : Prop where
  paused : pb.state = .paused
  gateArmed : pb.gateArmed = false
  gateFiring : pb.gateFiring = false

instance (pb : PlaybackState) : Decidable pb.OnHold :=
  decidable_of_iff (pb.state = .paused ∧ pb.gateArmed = false ∧ pb.gateFiring = false)
    ⟨fun ⟨h, h', h''⟩ => ⟨h, h', h''⟩, fun ⟨h, h', h''⟩ => ⟨h, h', h''⟩⟩

/-- The main loop waits in the flush seek of a requested restart for a frame
that is held until the main loop serves a `resume`. -/
structure Wedged (s : Replay) : Prop where
  seeking : ∃ r, s.main = .seeking r ∧ r.loop = false
  waiting : s.stream.waiting = true
  held : s.playback.waitIfPaused s.stopEvt = none
  onHold : s.playback.OnHold

/-- No restart that seeks takes the flag from a frame that is held, and none
comes to its holds after that. -/
def Released (cfg : ReplayConfig) (s : Replay) : ReplayStep → Prop
  | .main =>
    s.main.takesFlag = true → s.WillSeek cfg → s.playback.OnHold → s.stream.held = false
  | .stream =>
    s.main.flagTaken = true → s.WillSeek cfg → s.playback.OnHold → s.stream.atPreroll = true →
      s.playback.prerollPending = true
  | _ => True

instance (cfg : ReplayConfig) (s : Replay) : (l : ReplayStep) → Decidable (Released cfg s l)
  | .main | .stream => inferInstanceAs (Decidable (_ → _))
  | .newSample | .postEos | .pause | .resume | .setLoop _ | .requestRestart | .seekFails
  | .dispatch | .quiesce | .gate | .gateResume => isTrue trivial

/-- A wedged replay has no next step. -/
theorem step_of_wedged {s : Replay} (h : Wedged s) (cfg : ReplayConfig) (l : ReplayStep) :
    Replay.step cfg s l = none := by
  obtain ⟨r, hmain, -⟩ := h.seeking
  have hidle : s.main ≠ .idle := by rw [hmain]; nofun
  have whenIdle : ∀ t, s.whenIdle t = none := fun t => by rw [Replay.whenIdle, if_neg hidle]
  have hstream : s.stream ≠ .outside := fun hst => by
    have := h.waiting
    rw [hst] at this
    cases this
  cases l with
  | newSample | postEos => simp [Replay.step, hstream]
  | pause | resume | setLoop loop | requestRestart => exact whenIdle _
  | dispatch =>
      simp only [Replay.step]
      split
      · exact whenIdle _
      · rfl
  | quiesce =>
      simp only [Replay.step]
      split
      · exact whenIdle _
      · rfl
  | gate => simp [Replay.step, h.onHold.gateArmed]
  | gateResume => simp [Replay.step, h.onHold.gateFiring]
  | stream =>
      have hwait := h.waiting
      cases hst : s.stream with
      | holding f st | holdingAgain f st => simp [Replay.step, Replay.streamStep, hst, h.held]
      | _ => rw [hst] at hwait; cases hwait
  | main =>
      simp only [Replay.step, Replay.mainStep, hmain]
  | seekFails =>
      simp only [Replay.step, hmain]
      split
      · next hst => exact absurd hst hstream
      · rfl

/-! ## What the steps share -/

/-- The streaming thread only ever ends a pause, and only ever drops the flag. -/
structure StreamFrame (s s' : Replay) : Prop where
  main : s'.main = s.main
  sessionIdx : s'.sessionIdx = s.sessionIdx
  stopEvt : s'.stopEvt = s.stopEvt
  onHold : s'.playback.OnHold → s.playback.OnHold
  gateArmed : s'.playback.gateArmed = s.playback.gateArmed
  flag : s.playback.restartPending = false → s'.playback.restartPending = false
  held : s'.stream.held = true → s.stream.held = true ∨
    s.stream.atPreroll = true ∧ s.playback.prerollPending = false

theorem streamFrame_of_held {s : Replay} {cancel : Bool} {v : Verdict} {pb : PlaybackState}
    {pc : StreamPc} (h : s.playback.waitIfPaused cancel = some (v, pb))
    (hheld : pc.held = true → s.stream.held = true) :
    StreamFrame s { s with playback := pb, stream := pc } where
  main := rfl
  sessionIdx := rfl
  stopEvt := rfl
  onHold := by
    rcases waitIfPaused_eq_some h with rfl | rfl
    · exact id
    · exact fun ⟨hp, ha, hf⟩ => ⟨hp, ha, hf⟩
  gateArmed := by rcases waitIfPaused_eq_some h with rfl | rfl <;> rfl
  flag hf := by
    rcases waitIfPaused_eq_some h with rfl | rfl
    · exact hf
    · rfl
  held hpc := .inl (hheld hpc)

/-- A step that leaves the playback alone. -/
theorem streamFrame_of_same {s : Replay} {idx : Nat} {finished failed : Bool} {idles : List Nat}
    {stream : StreamPc} {log : List ReplayEvent}
    (hheld : stream.held = true → s.stream.held = true) :
    StreamFrame s { s with idx, finished, failed, idles, stream, log } :=
  ⟨rfl, rfl, rfl, id, rfl, id, fun h => .inl (hheld h)⟩

theorem streamFrame_of_streamStep (cfg : ReplayConfig) {s s' : Replay}
    (hs : s.streamStep cfg = some s') : StreamFrame s s' := by
  cases hpc : s.stream with
  | outside => simp [Replay.streamStep, hpc] at hs
  | entered f | indexed f idx | loaded f idx old | failing f | finishing f windowEnd
  | excessOut f st | stamped f st =>
      simp only [Replay.streamStep, hpc, Option.some.injEq] at hs
      subst hs
      exact streamFrame_of_same (fun h => by cases h)
  | pacing f st =>
      simp only [Replay.streamStep, hpc, Option.some.injEq] at hs
      subst hs
      exact streamFrame_of_same fun _ => by rw [hpc]; rfl
  | counted f idx =>
      simp only [Replay.streamStep, hpc] at hs
      split at hs
      · exact Option.some.inj hs ▸ streamFrame_of_same (fun h => by cases h)
      · exact Option.some.inj hs ▸ streamFrame_of_same (fun h => by cases h)
  | excess f =>
      simp only [Replay.streamStep, hpc, Option.some.injEq] at hs
      subst hs
      split
      · exact streamFrame_of_same (fun h => by cases h)
      · exact streamFrame_of_same (fun h => by cases h)
  | marking f gen windowEnd =>
      simp only [Replay.streamStep, hpc, Option.some.injEq] at hs
      subst hs
      exact ⟨rfl, rfl, rfl, (fun h => by cases h.paused), rfl, id, (fun h => by cases h)⟩
  | idling f gen windowEnd =>
      simp only [Replay.streamStep, hpc, Option.some.injEq] at hs
      subst hs
      cases windowEnd with
      | none => exact streamFrame_of_same (fun h => by cases h)
      | some st => exact streamFrame_of_same (fun h => by cases h)
  | lastRow f =>
      simp only [Replay.streamStep, hpc] at hs
      split at hs
      · exact Option.some.inj hs ▸ streamFrame_of_same (fun h => by cases h)
      · cases hs
  | shifted f st =>
      simp only [Replay.streamStep, hpc, Option.some.injEq] at hs
      subst hs
      split
      · exact streamFrame_of_same (fun h => by cases h)
      · split
        · exact streamFrame_of_same (fun h => by cases h)
        · exact streamFrame_of_same (fun h => by cases h)
  | pastEnd f st =>
      simp only [Replay.streamStep, hpc, Option.some.injEq] at hs
      subst hs
      split
      · exact streamFrame_of_same (fun h => by cases h)
      · exact streamFrame_of_same (fun h => by cases h)
  | inWindow f st =>
      simp only [Replay.streamStep, hpc, Option.some.injEq] at hs
      subst hs
      refine ⟨rfl, rfl, rfl, (fun h => { h with }), rfl, id, ?_⟩
      cases hpre : s.playback.prerollPending with
      | true => simp [StreamPc.held]
      | false => exact fun _ => .inr ⟨by rw [hpc]; rfl, rfl⟩
  | holding f st =>
      simp only [Replay.streamStep, hpc, Option.map_eq_some_iff] at hs
      obtain ⟨r, hr, rfl⟩ := hs
      exact streamFrame_of_held hr fun _ => by rw [hpc]; rfl
  | holdingAgain f st =>
      simp only [Replay.streamStep, hpc, Option.map_eq_some_iff] at hs
      obtain ⟨r, hr, rfl⟩ := hs
      exact streamFrame_of_held hr (fun h => by cases h)

/-! ## Invariants of every run -/

/-- A requested restart disarms the start gate; nothing sets the flag again
before it is done; only a rebuild sets the cancel event. -/
structure RestartInv (s : Replay) : Prop where
  gateArmed : s.main.operator = true → s.playback.gateArmed = false
  flag : s.main.flagTaken = true → s.playback.restartPending = false
  cancel : s.stopEvt = true → ∃ session restart, s.main = .nulling session restart

theorem operator_of_flagTaken {pc : LoopPc} (h : pc.flagTaken = true) : pc.operator = true := by
  cases pc with
  | taken r | unfinished r | ready r | seeking r => exact h
  | _ => cases h

/-- The cancel event is clear outside a rebuild. -/
theorem RestartInv.stopEvt_eq_false {s : Replay} (h : RestartInv s)
    (hmain : ∀ session restart, s.main ≠ .nulling session restart) : s.stopEvt = false := by
  cases hstop : s.stopEvt with
  | false => rfl
  | true =>
      obtain ⟨session, restart, hnull⟩ := h.cancel hstop
      exact absurd hnull (hmain session restart)

/-- No requested restart is under way. -/
theorem restartInv_of_quiet {s : Replay} (hmain : s.main.operator = false)
    (hstop : s.stopEvt = false) : RestartInv s where
  gateArmed hop := by rw [hmain] at hop; cases hop
  flag hft := by
    rw [operator_of_flagTaken hft] at hmain
    cases hmain
  cancel hs := by rw [hstop] at hs; cases hs

/-- A step of another thread. -/
theorem RestartInv.other {s s' : Replay} (h : RestartInv s) (hmain : s'.main = s.main)
    (hgate : s.playback.gateArmed = false → s'.playback.gateArmed = false)
    (hflag : s.playback.restartPending = false → s'.playback.restartPending = false)
    (hstop : s'.stopEvt = s.stopEvt) : RestartInv s' where
  gateArmed hop := hgate (h.gateArmed (hmain ▸ hop))
  flag hft := hflag (h.flag (hmain ▸ hft))
  cancel hs := by
    rw [hmain]
    exact h.cancel (hstop ▸ hs)

/-- A statement of a restart that only moves it on. -/
theorem RestartInv.moved {s s' : Replay} (h : RestartInv s)
    (hmain : ∀ session restart, s.main ≠ .nulling session restart)
    (hop : s'.main.operator = true → s.main.operator = true)
    (hft : s'.main.flagTaken = true → s'.playback.restartPending = false)
    (hgate : s'.playback.gateArmed = s.playback.gateArmed)
    (hstop : s'.stopEvt = s.stopEvt) : RestartInv s' where
  gateArmed h' := hgate.trans (h.gateArmed (hop h'))
  flag := hft
  cancel hs := by
    rw [hstop, h.stopEvt_eq_false hmain] at hs
    cases hs

theorem restartInv_mainStep {cfg : ReplayConfig} {s s' : Replay} (h : RestartInv s)
    (hs : s.mainStep cfg = some s') : RestartInv s' := by
  cases hpc : s.main with
  | idle => simp [Replay.mainStep, hpc] at hs
  | requested | entered r | begun r =>
      simp only [Replay.mainStep, hpc, Option.some.injEq] at hs
      subst hs
      exact h.moved (by simp [hpc]) (by rw [hpc]; exact id)
        (fun _ => by first | rfl | contradiction) rfl rfl
  | taken r | unfinished r =>
      simp only [Replay.mainStep, hpc, Option.some.injEq] at hs
      subst hs
      exact h.moved (by simp [hpc]) (by rw [hpc]; exact id)
        (fun hft => h.flag (by rw [hpc]; exact hft)) rfl rfl
  | ready r =>
      simp only [Replay.mainStep, hpc] at hs
      split at hs
      · obtain rfl := Option.some.inj hs
        exact h.moved (by simp [hpc]) (by rw [hpc]; exact id)
          (fun hft => h.flag (by rw [hpc]; exact hft)) rfl rfl
      · obtain rfl := Option.some.inj hs
        exact restartInv_of_quiet rfl (h.stopEvt_eq_false (by simp [hpc]))
  | seeking r =>
      cases hst : s.stream with
      | outside =>
          simp only [Replay.mainStep, hpc, hst, Option.some.injEq] at hs
          subst hs
          exact restartInv_of_quiet rfl (h.stopEvt_eq_false (by simp [hpc]))
      | _ => simp [Replay.mainStep, hpc, hst] at hs
  | halting session restart =>
      simp only [Replay.mainStep, hpc, Option.some.injEq] at hs
      subst hs
      exact ⟨(fun h => by cases h), (fun h => by cases h), fun _ => ⟨session, restart, rfl⟩⟩
  | nulling session restart =>
      cases hst : s.stream with
      | outside =>
          simp only [Replay.mainStep, hpc, hst, Option.some.injEq] at hs
          subst hs
          exact restartInv_of_quiet rfl rfl
      | _ => simp [Replay.mainStep, hpc, hst] at hs

/-- What only an idle main loop does starts no requested restart but by a request. -/
theorem operator_onEos (cfg : ReplayConfig) (s : Replay) (h : s.main = .idle) (m : EosMessage) :
    (Replay.onEos cfg s m).main.operator = false ∧
      (Replay.onEos cfg s m).stopEvt = s.stopEvt := by
  unfold Replay.onEos
  split
  · exact ⟨by rw [h]; rfl, rfl⟩
  · split
    · exact ⟨by show s.main.operator = false; rw [h]; rfl, rfl⟩
    · split
      · exact ⟨rfl, rfl⟩
      · split
        · exact ⟨by show s.main.operator = false; rw [h]; rfl, rfl⟩
        · exact ⟨rfl, rfl⟩

theorem restartInv_step (cfg : ReplayConfig) (s : Replay) (l : ReplayStep) (s' : Replay)
    (h : RestartInv s) (hs : Replay.step cfg s l = some s') : RestartInv s' := by
  have hstop : s.main = .idle → s.stopEvt = false := fun hpc =>
    h.stopEvt_eq_false (by simp [hpc])
  have quiet : s.main = .idle → s.main.operator = false := fun hpc => by rw [hpc]; rfl
  cases l with
  | newSample | postEos =>
      simp only [Replay.step] at hs
      split at hs
      · obtain rfl := Option.some.inj hs
        exact h.other rfl id id rfl
      · cases hs
  | stream =>
      have hframe := streamFrame_of_streamStep cfg hs
      exact h.other hframe.main hframe.gateArmed.trans hframe.flag hframe.stopEvt
  | pause | resume | setLoop loop =>
      obtain ⟨hpc, rfl⟩ := Replay.whenIdle_eq_some hs
      exact restartInv_of_quiet (quiet hpc) (hstop hpc)
  | requestRestart =>
      obtain ⟨hpc, rfl⟩ := Replay.whenIdle_eq_some hs
      refine ⟨fun _ => rfl, (fun h => by cases h), fun hs => ?_⟩
      have := hstop hpc
      rw [show s.stopEvt = true from hs] at this
      cases this
  | main => exact restartInv_mainStep h hs
  | seekFails =>
      simp only [Replay.step] at hs
      split at hs
      · next r hpc _ =>
          obtain rfl := Option.some.inj hs
          exact restartInv_of_quiet rfl (h.stopEvt_eq_false (by simp [hpc]))
      · cases hs
  | dispatch =>
      simp only [Replay.step] at hs
      split at hs
      · next m bus _ =>
          obtain ⟨hpc, rfl⟩ := Replay.whenIdle_eq_some hs
          have heos := operator_onEos cfg { s with bus := bus } hpc m
          exact restartInv_of_quiet heos.1 (heos.2.trans (hstop hpc))
      · cases hs
  | quiesce =>
      simp only [Replay.step] at hs
      split at hs
      · obtain ⟨hpc, rfl⟩ := Replay.whenIdle_eq_some hs
        exact restartInv_of_quiet (quiet hpc) (hstop hpc)
      · cases hs
  | gate | gateResume =>
      simp only [Replay.step] at hs
      split at hs
      · obtain rfl := Option.some.inj hs
        exact h.other rfl (fun _ => rfl) id rfl
      · cases hs

/-! ## What the condition keeps out -/

/-- No frame is at its holds while a restart that has taken the flag seeks. -/
def HoldInv (cfg : ReplayConfig) (s : Replay) : Prop :=
  s.main.flagTaken = true → s.WillSeek cfg → s.playback.OnHold → s.stream.held = false

theorem holdInv_mainStep {cfg : ReplayConfig} {s s' : Replay} (h : HoldInv cfg s)
    (hc : Released cfg s .main) (hs : s.mainStep cfg = some s') : HoldInv cfg s' := by
  cases hpc : s.main with
  | idle => simp [Replay.mainStep, hpc] at hs
  | requested | entered r =>
      simp only [Replay.mainStep, hpc, Option.some.injEq] at hs
      subst hs
      intro h
      cases h
  | begun r =>
      simp only [Replay.mainStep, hpc, Option.some.injEq] at hs
      subst hs
      intro hft hw hold
      exact hc (by rw [hpc]; exact hft) (by rw [Replay.WillSeek, hpc]; exact hw)
        ⟨hold.paused, hold.gateArmed, hold.gateFiring⟩
  | taken r | unfinished r =>
      simp only [Replay.mainStep, hpc, Option.some.injEq] at hs
      subst hs
      intro hft hw hold
      exact h (by rw [hpc]; exact hft) (by rw [Replay.WillSeek, hpc]; exact hw) hold
  | ready r =>
      simp only [Replay.mainStep, hpc] at hs
      split at hs
      · next hseek =>
          obtain rfl := Option.some.inj hs
          intro hft _ hold
          refine h (by rw [hpc]; exact hft) ?_ hold
          rw [Replay.WillSeek, hpc]
          exact ⟨hseek.1, by simpa using hseek.2⟩
      · obtain rfl := Option.some.inj hs
        intro h
        cases h
  | seeking r =>
      cases hst : s.stream with
      | outside =>
          simp only [Replay.mainStep, hpc, hst, Option.some.injEq] at hs
          subst hs
          intro h
          cases h
      | _ => simp [Replay.mainStep, hpc, hst] at hs
  | halting session restart =>
      simp only [Replay.mainStep, hpc, Option.some.injEq] at hs
      subst hs
      intro h
      cases h
  | nulling session restart =>
      cases hst : s.stream with
      | outside =>
          simp only [Replay.mainStep, hpc, hst, Option.some.injEq] at hs
          subst hs
          intro h
          cases h
      | _ => simp [Replay.mainStep, hpc, hst] at hs

/-- An idle main loop is in no restart. -/
theorem holdInv_of_quiet {cfg : ReplayConfig} {s : Replay} (h : s.main.operator = false) :
    HoldInv cfg s := by
  intro hft
  rw [operator_of_flagTaken hft] at h
  cases h

theorem willSeek_congr {cfg : ReplayConfig} {s s' : Replay} (hmain : s'.main = s.main)
    (hsession : s'.sessionIdx = s.sessionIdx) : s'.WillSeek cfg ↔ s.WillSeek cfg := by
  simp only [Replay.WillSeek, Replay.single, hmain, hsession]

theorem holdInv_step (cfg : ReplayConfig) (s : Replay) (l : ReplayStep) (s' : Replay)
    (h : HoldInv cfg s) (hc : Released cfg s l) (hs : Replay.step cfg s l = some s') :
    HoldInv cfg s' := by
  have quiet : s.main = .idle → s.main.operator = false := fun hpc => by rw [hpc]; rfl
  cases l with
  | newSample =>
      simp only [Replay.step] at hs
      split at hs
      · obtain rfl := Option.some.inj hs
        exact fun _ _ _ => rfl
      · cases hs
  | postEos =>
      simp only [Replay.step] at hs
      split at hs
      · obtain rfl := Option.some.inj hs
        exact h
      · cases hs
  | stream =>
      have hframe := streamFrame_of_streamStep cfg hs
      intro hft hw hold
      have hft' : s.main.flagTaken = true := hframe.main ▸ hft
      have hw' : s.WillSeek cfg := (willSeek_congr hframe.main hframe.sessionIdx).mp hw
      have hold' := hframe.onHold hold
      cases hheld : s'.stream.held with
      | false => rfl
      | true =>
          rcases hframe.held hheld with hst | ⟨hat, hpre⟩
          · rw [h hft' hw' hold'] at hst
            cases hst
          · rw [hc hft' hw' hold' hat] at hpre
            cases hpre
  | pause | resume | setLoop loop =>
      obtain ⟨hpc, rfl⟩ := Replay.whenIdle_eq_some hs
      exact holdInv_of_quiet (quiet hpc)
  | requestRestart =>
      obtain ⟨hpc, rfl⟩ := Replay.whenIdle_eq_some hs
      intro h
      cases h
  | main => exact holdInv_mainStep h hc hs
  | seekFails =>
      simp only [Replay.step] at hs
      split at hs
      · obtain rfl := Option.some.inj hs
        intro h
        cases h
      · cases hs
  | dispatch =>
      simp only [Replay.step] at hs
      split at hs
      · next m bus _ =>
          obtain ⟨hpc, rfl⟩ := Replay.whenIdle_eq_some hs
          exact holdInv_of_quiet
            (operator_onEos cfg { s with bus := bus } hpc m).1
      · cases hs
  | quiesce =>
      simp only [Replay.step] at hs
      split at hs
      · obtain ⟨hpc, rfl⟩ := Replay.whenIdle_eq_some hs
        exact holdInv_of_quiet (quiet hpc)
      · cases hs
  | gate =>
      simp only [Replay.step] at hs
      split at hs
      · obtain rfl := Option.some.inj hs
        intro _ _ hold
        -- the gate fires for a paused playback
        have hfiring : decide (s.playback.state = .paused) = false := hold.gateFiring
        exact absurd hold.paused (of_decide_eq_false hfiring)
      · cases hs
  | gateResume =>
      simp only [Replay.step] at hs
      split at hs
      · obtain rfl := Option.some.inj hs
        intro _ _ hold
        have hpaused : (if s.playback.state = .finished then PlayState.finished
          else .playing) = .paused := hold.paused
        split at hpaused <;> cases hpaused
      · cases hs

/-- A wedged replay is in a seek, with a frame at its holds. -/
theorem not_wedged_of_holdInv {cfg : ReplayConfig} {s : Replay} (h : HoldInv cfg s) :
    ¬ Wedged s := by
  intro hw
  obtain ⟨r, hmain, hloop⟩ := hw.seeking
  have hheld := h (by rw [hmain, LoopPc.flagTaken, hloop]; rfl)
    (by rw [Replay.WillSeek, hmain]; trivial) hw.onHold
  have hwait := hw.waiting
  cases hst : s.stream with
  | holding f st | holdingAgain f st => rw [hst] at hheld; cases hheld
  | _ => rw [hst] at hwait; cases hwait

/-! ## What breaking it leads to -/

/-- A restart that has taken the flag seeks, and a frame is at its holds. -/
structure Doomed (cfg : ReplayConfig) (s : Replay) : Prop where
  flagTaken : s.main.flagTaken = true
  willSeek : s.WillSeek cfg
  onHold : s.playback.OnHold
  held : s.stream.held = true
  flag : s.playback.restartPending = false
  stopEvt : s.stopEvt = false

/-- A step that breaks the condition leaves a doomed replay. -/
theorem doomed_of_not_released {cfg : ReplayConfig} (s : Replay) (l : ReplayStep) (s' : Replay)
    (h : RestartInv s) (hc : ¬ Released cfg s l) (hs : Replay.step cfg s l = some s') :
    Doomed cfg s' := by
  have hstop : s.main.operator = true → s.stopEvt = false := fun hop =>
    h.stopEvt_eq_false fun session restart hm => by rw [hm] at hop; cases hop
  cases l with
  | main =>
      simp only [Released, Classical.not_imp, Bool.not_eq_false] at hc
      obtain ⟨htakes, hwill, hold, hheld⟩ := hc
      cases hpc : s.main with
      | begun r =>
          rw [hpc] at htakes
          simp only [Replay.step, Replay.mainStep, hpc, Option.some.injEq] at hs
          subst hs
          rw [Replay.WillSeek, hpc] at hwill
          exact ⟨htakes, hwill, ⟨hold.paused, hold.gateArmed, hold.gateFiring⟩, hheld, rfl,
            hstop (by rw [hpc]; exact htakes)⟩
      | _ => rw [hpc] at htakes; cases htakes
  | stream =>
      simp only [Released, Classical.not_imp, Bool.not_eq_true] at hc
      obtain ⟨htaken, hwill, hold, hat, hpre⟩ := hc
      cases hst : s.stream with
      | inWindow f st =>
          simp only [Replay.step, Replay.streamStep, hst, hpre, Option.some.injEq] at hs
          subst hs
          exact ⟨htaken, hwill, ⟨hold.paused, hold.gateArmed, hold.gateFiring⟩, rfl,
            h.flag htaken, hstop (operator_of_flagTaken htaken)⟩
      | _ => rw [hst] at hat; cases hat
  | _ => exact absurd trivial hc

/-- The main loop's way from the flag to the seek. -/
theorem Doomed.mainStep {cfg : ReplayConfig} {s s' : Replay} (h : Doomed cfg s)
    (hs : s.mainStep cfg = some s') : Doomed cfg s' := by
  have htaken := h.flagTaken
  have hwill := h.willSeek
  cases hpc : s.main with
  | taken r | unfinished r =>
      rw [hpc] at htaken
      rw [Replay.WillSeek, hpc] at hwill
      simp only [Replay.mainStep, hpc, Option.some.injEq] at hs
      subst hs
      exact ⟨htaken, hwill, h.onHold, h.held, h.flag, h.stopEvt⟩
  | ready r =>
      rw [hpc] at htaken
      rw [Replay.WillSeek, hpc] at hwill
      simp only [Replay.mainStep, hpc, hwill, Bool.false_eq_true, not_false_eq_true, and_self,
        if_true, Option.some.injEq] at hs
      subst hs
      exact ⟨htaken, trivial, h.onHold, h.held, h.flag, h.stopEvt⟩
  | seeking r =>
      have hheld := h.held
      cases hst : s.stream with
      | outside => rw [hst] at hheld; cases hheld
      | _ => simp [Replay.mainStep, hpc, hst] at hs
  | _ => rw [hpc] at htaken; cases htaken

/-- The held frame only goes from one hold to the other. -/
theorem Doomed.streamStep {cfg : ReplayConfig} {s s' : Replay} (h : Doomed cfg s)
    (hs : s.streamStep cfg = some s') : Doomed cfg s' := by
  have hheld := h.held
  have hwait : s.playback.waitIfPaused s.stopEvt = none :=
    waitIfPaused_eq_none.mpr ⟨h.onHold.paused, h.stopEvt, h.flag⟩
  cases hst : s.stream with
  | holding f st | holdingAgain f st => simp [Replay.streamStep, hst, hwait] at hs
  | pacing f st =>
      simp only [Replay.streamStep, hst, Option.some.injEq] at hs
      subst hs
      exact ⟨h.flagTaken, h.willSeek, h.onHold, rfl, h.flag, h.stopEvt⟩
  | _ => rw [hst] at hheld; cases hheld

/-- There is no way out of a doomed replay. -/
theorem doomed_step {cfg : ReplayConfig} (s : Replay) (l : ReplayStep) (s' : Replay)
    (h : Doomed cfg s) (hs : Replay.step cfg s l = some s') : Doomed cfg s' := by
  have busy : s.main ≠ .idle := fun hpc => by
    have := h.flagTaken
    rw [hpc] at this
    cases this
  have inside : s.stream ≠ .outside := fun hst => by
    have := h.held
    rw [hst] at this
    cases this
  cases l with
  | newSample | postEos => simp [Replay.step, inside] at hs
  | stream => exact h.streamStep hs
  | main => exact h.mainStep hs
  | pause | resume | setLoop loop | requestRestart =>
      exact absurd (Replay.whenIdle_eq_some hs).1 busy
  | seekFails =>
      simp only [Replay.step] at hs
      split at hs
      · next hst => exact absurd hst inside
      · cases hs
  | dispatch | quiesce =>
      simp only [Replay.step] at hs
      split at hs
      · exact absurd (Replay.whenIdle_eq_some hs).1 busy
      · cases hs
  | gate => simp [Replay.step, h.onHold.gateArmed] at hs
  | gateResume => simp [Replay.step, h.onHold.gateFiring] at hs

/-- A doomed replay gets to its wedge: the frame to a hold, the main loop to the seek. -/
theorem wedged_of_doomed {cfg : ReplayConfig} {s : Replay} (h : Doomed cfg s) :
    ∃ w, Machine.Reachable (Replay.step cfg) s w ∧ Wedged w := by
  have atHold : ∀ t r, Doomed cfg t → t.main = .seeking r → t.stream.waiting = true →
      Wedged t := by
    intro t r ht hpc hwait
    refine ⟨⟨r, hpc, ?_⟩, hwait, ?_, ht.onHold⟩
    · simpa [hpc, LoopPc.flagTaken] using ht.flagTaken
    · exact waitIfPaused_eq_none.mpr ⟨ht.onHold.paused, ht.stopEvt, ht.flag⟩
  have atSeek : ∀ t r, Doomed cfg t → t.main = .seeking r →
      ∃ w, Machine.Reachable (Replay.step cfg) t w ∧ Wedged w := by
    intro t r ht hpc
    have hheld := ht.held
    cases hst : t.stream with
    | holding f st | holdingAgain f st =>
        exact ⟨t, .refl t, atHold t r ht hpc (by rw [hst]; rfl)⟩
    | pacing f st =>
        have hs : Replay.step cfg t .stream = some { t with stream := .holdingAgain f st } := by
          simp [Replay.step, Replay.streamStep, hst]
        exact ⟨_, .head hs (.refl _), atHold _ r (doomed_step _ _ _ ht hs) hpc rfl⟩
    | _ => rw [hst] at hheld; cases hheld
  have onward : ∀ t t', Doomed cfg t → Replay.step cfg t .main = some t' →
      (Doomed cfg t' → ∃ w, Machine.Reachable (Replay.step cfg) t' w ∧ Wedged w) →
      ∃ w, Machine.Reachable (Replay.step cfg) t w ∧ Wedged w := by
    intro t t' ht hs hnext
    obtain ⟨w, hreach, hw⟩ := hnext (doomed_step _ _ _ ht hs)
    exact ⟨w, .head hs hreach, hw⟩
  have atReady : ∀ t r, Doomed cfg t → t.main = .ready r →
      ∃ w, Machine.Reachable (Replay.step cfg) t w ∧ Wedged w := by
    intro t r ht hpc
    have hwill := ht.willSeek
    rw [Replay.WillSeek, hpc] at hwill
    exact onward t { t with idx := 0, main := .seeking r } ht
      (by simp [Replay.step, Replay.mainStep, hpc, hwill]) fun h' => atSeek _ r h' rfl
  have atUnfinished : ∀ t r, Doomed cfg t → t.main = .unfinished r →
      ∃ w, Machine.Reachable (Replay.step cfg) t w ∧ Wedged w := fun t r ht hpc =>
    onward t { t with failed := false, main := .ready r } ht
      (by simp [Replay.step, Replay.mainStep, hpc]) fun h' => atReady _ r h' rfl
  have htaken := h.flagTaken
  cases hpc : s.main with
  | seeking r => exact atSeek s r h hpc
  | ready r => exact atReady s r h hpc
  | unfinished r => exact atUnfinished s r h hpc
  | taken r =>
      exact onward s { s with finished := false, main := .unfinished r } h
        (by simp [Replay.step, Replay.mainStep, hpc]) fun h' => atUnfinished _ r h' rfl
  | _ => rw [hpc] at htaken; cases htaken

/-! ## Runs -/

theorem restartInv_init (cfg : ReplayConfig) (playback : PlaybackState) :
    RestartInv (Replay.init cfg playback) := restartInv_of_quiet rfl rfl

/-- **Restarts under pause**: a run in which no restart takes its flag from a held
frame never wedges, and one in which a restart does can only end in a wedge, with
no step left to either thread. -/
theorem not_wedged_iff_released (cfg : ReplayConfig) (playback : PlaybackState)
    (steps : List ReplayStep) (s : Replay)
    (h : Machine.exec (Replay.step cfg) (Replay.init cfg playback) steps = some s) :
    (Machine.Along (Replay.step cfg) (Released cfg) (Replay.init cfg playback) steps →
      ¬ Wedged s) ∧
    (¬ Machine.Along (Replay.step cfg) (Released cfg) (Replay.init cfg playback) steps →
      s.main ≠ .idle ∧
      ∃ w, Machine.Reachable (Replay.step cfg) s w ∧ Wedged w ∧
        ∀ l, Replay.step cfg w l = none) := by
  constructor
  · intro hc
    exact not_wedged_of_holdInv
      (Machine.exec_inv_along (holdInv_step cfg) (holdInv_of_quiet rfl) hc h)
  · intro hc
    have hdoomed : Doomed cfg s :=
      Machine.exec_of_not_along (restartInv_step cfg) doomed_of_not_released doomed_step
        (restartInv_init cfg playback) hc h
    obtain ⟨w, hreach, hw⟩ := wedged_of_doomed hdoomed
    refine ⟨fun hpc => ?_, w, hreach, hw, step_of_wedged hw cfg⟩
    have := hdoomed.flagTaken
    rw [hpc] at this
    cases this

/-- A pause that lands while the first frame is paced, and a restart whose flag
wakes the frame at its second hold. -/
def wokenRestart : List ReplayStep :=
  .newSample :: List.replicate 8 .stream ++ [.pause, .requestRestart, .main, .stream] ++
    List.replicate 5 .main ++ [.stream, .main]

/-- A pause that holds the first frame, and a restart. -/
def wedgedRestart : List ReplayStep :=
  [.pause, .newSample] ++ List.replicate 6 .stream ++ .requestRestart :: List.replicate 6 .main

/-- The main loop is back from the one restart, and never will be from the other. -/
theorem not_wedged_wokenRestart :
    (∃ s, Machine.exec (Replay.step twoFrames) (Replay.init twoFrames (.boot false true false))
        wokenRestart = some s ∧ s.main = .idle ∧ s.playback.state = .paused ∧ ¬ Wedged s) ∧
    ∃ s, Machine.exec (Replay.step twoFrames) (Replay.init twoFrames (.boot false true false))
        wedgedRestart = some s ∧ s.main ≠ .idle :=
  ⟨⟨_, rfl, rfl, rfl,
      (not_wedged_iff_released twoFrames (.boot false true false) wokenRestart _ rfl).1
        (by decide)⟩,
    ⟨_, rfl,
      ((not_wedged_iff_released twoFrames (.boot false true false) wedgedRestart _ rfl).2
        (by decide)).1⟩⟩

/-- Paused at the first hold, restarted: the seek waits for a frame that waits for
a `resume`. -/
theorem wedged_wedgedRestart :
    ¬ ∀ (cfg : ReplayConfig) (playback : PlaybackState) (steps : List ReplayStep) (s : Replay),
      Machine.exec (Replay.step cfg) (Replay.init cfg playback) steps = some s → ¬ Wedged s :=
  fun h => h twoFrames (.boot false true false) wedgedRestart _ rfl
    ⟨⟨⟨false, false⟩, rfl, rfl⟩, rfl, rfl, ⟨rfl, rfl, rfl⟩⟩

end CamDriver
