import CamDriver.Replay

/-!
# CamDriver.ReplayRestart

What keeps two cycles of a replay apart.

A restart that rebuilds the reader gives it a new generation; one that seeks
does not, and resets the row counter before the seek.  `Isolated` says when
neither lets a frame or an EOS of the old cycle into the new one: no callback is
in the middle of `_new_stamp` when the cycle moves on, none starts before the
seek returns, and a seek finds no EOS of its reader on the bus.
-/

namespace CamDriver

/-! ## Whose cycle it was -/

/-- The stamp of a frame: its row, shifted by its cycle's offset. -/
def HasStamp (cfg : ReplayConfig) (f : ReplayFrame) (st : FrameStamp) : Prop :=
  ((cfg.csvStamps f.session)[f.ordinal]?).map (shiftStamp · (cfg.offsetOf f.cycle)) = some st

instance (cfg : ReplayConfig) (f : ReplayFrame) (st : FrameStamp) : Decidable (HasStamp cfg f st) :=
  inferInstanceAs (Decidable (_ = _))

/-- Every frame has its own row under its own offset, and an end or a failure
is that of the cycle it ends. -/
def ReplayEvent.Own (cfg : ReplayConfig) : ReplayEvent → Prop
  | .stamped f st | .delivered f st => HasStamp cfg f st
  | .finished cycle now | .failed cycle now | .moved cycle now => cycle = now

instance (cfg : ReplayConfig) : (e : ReplayEvent) → Decidable (e.Own cfg)
  | .stamped _ _ | .delivered _ _ => inferInstanceAs (Decidable (HasStamp _ _ _))
  | .finished _ _ | .failed _ _ | .moved _ _ => inferInstanceAs (Decidable (_ = _))

/-! ## When a restart is isolated -/

/-- Nothing is left of `_new_stamp` but the holds and the return of the stamp. -/
def StreamPc.settled : StreamPc → Bool
  | .outside | .inWindow _ _ | .holding _ _ | .pacing _ _ | .holdingAgain _ _ | .stamped _ _ => true
  | _ => false

/-- The new cycle has begun, and its reader has not. -/
def LoopPc.shifting : LoopPc → Bool
  | .begun _ | .taken _ | .unfinished _ | .ready _ | .seeking _ => true
  | .halting _ restart | .nulling _ restart => restart
  | .idle | .requested | .entered _ => false

/-- The next statement of `_restart` begins the new cycle. -/
def LoopPc.entering : LoopPc → Bool
  | .entered _ => true
  | _ => false

namespace Replay

/-- The restart under way seeks. -/
def WillSeek (cfg : ReplayConfig) (s : Replay) : Prop :=
  match s.main with
  | .entered r | .begun r | .taken r | .unfinished r | .ready r =>
    s.single cfg ∧ r.wasFinished = false
  | .seeking _ => True
  | .idle | .requested | .halting _ _ | .nulling _ _ => False

instance (cfg : ReplayConfig) (s : Replay) : Decidable (s.WillSeek cfg) :=
  match h : s.main with
  | .entered r | .begun r | .taken r | .unfinished r | .ready r =>
    decidable_of_iff (s.single cfg ∧ r.wasFinished = false) (by simp [WillSeek, h])
  | .seeking _ => isTrue (by simp [WillSeek, h])
  | .idle | .requested | .halting _ _ | .nulling _ _ => isFalse (by simp [WillSeek, h])

/-- No EOS of the reader is on the bus. -/
def NoEos (s : Replay) : Prop := ∀ m ∈ s.bus, m.gen ≠ s.gen

instance (s : Replay) : Decidable s.NoEos := inferInstanceAs (Decidable (∀ m ∈ s.bus, _))

end Replay

/-- A restart meets no frame and no EOS of the cycle it ends. -/
def Isolated (cfg : ReplayConfig) (s : Replay) : ReplayStep → Prop
  | .newSample => s.main.shifting = false
  | .postEos => s.main.shifting = true → ¬ s.WillSeek cfg
  | .main => s.main.entering = true → s.stream.settled = true ∧ (s.WillSeek cfg → s.NoEos)
  | _ => True

instance (cfg : ReplayConfig) (s : Replay) : (l : ReplayStep) → Decidable (Isolated cfg s l)
  | .newSample => inferInstanceAs (Decidable (_ = _))
  | .postEos => inferInstanceAs (Decidable (_ → _))
  | .main => inferInstanceAs (Decidable (_ → _))
  | .stream | .pause | .resume | .setLoop _ | .requestRestart | .seekFails | .dispatch | .quiesce
  | .gate | .gateResume => isTrue trivial

/-! ## The invariant -/

/-- A frame of the current cycle and session, the reader's last one. -/
def Fresh (s : Replay) (f : ReplayFrame) : Prop :=
  f.cycle = s.cycle ∧ f.session = s.sessionIdx ∧ s.reader.pos = f.ordinal + 1

/-- What the streaming thread has read is what its frame should have. -/
def StreamOk (cfg : ReplayConfig) (s : Replay) : StreamPc → Prop
  | .outside => True
  | .entered f => Fresh s f ∧ s.idx = f.ordinal
  | .indexed f idx => Fresh s f ∧ s.idx = f.ordinal ∧ idx = f.ordinal
  | .loaded f idx old => Fresh s f ∧ s.idx = f.ordinal ∧ idx = f.ordinal ∧ old = f.ordinal
  | .counted f idx => Fresh s f ∧ s.idx = f.ordinal + 1 ∧ idx = f.ordinal
  | .excess f | .failing f => Fresh s f ∧ s.idx = f.ordinal + 1
  | .lastRow f | .excessOut f _ | .finishing f none | .marking f _ none | .idling f _ none =>
    Fresh s f ∧ s.idx = f.ordinal + 1 ∧ s.failed = true
  | .shifted f st | .pastEnd f st | .finishing f (some st) | .marking f _ (some st)
  | .idling f _ (some st) => Fresh s f ∧ s.idx = f.ordinal + 1 ∧ HasStamp cfg f st
  | .inWindow f st | .holding f st | .pacing f st | .holdingAgain f st | .stamped f st =>
    HasStamp cfg f st

/-- The invariant of a run whose restarts are isolated. -/
structure ReplayInv (cfg : ReplayConfig) (s : Replay) : Prop where
  offset : s.offset = cfg.offsetOf s.cycle
  quiet : s.main.shifting = true → s.stream.settled = true
  stream : StreamOk cfg s s.stream
  reader : s.main.shifting = false → s.reader.cycle = s.cycle ∧ s.reader.session = s.sessionIdx
  counted : s.main.shifting = false → s.stream.settled = true → s.idx = s.reader.pos
  seekIdx : ∀ r, s.main = .seeking r → s.idx = 0
  readerGen : s.reader.gen ≤ s.gen
  busGen : ∀ m ∈ s.bus, m.gen ≤ s.gen
  live : s.main.shifting = false → ∀ m ∈ s.bus, m.gen = s.gen → m.cycle = s.cycle
  noEos : s.main.shifting = true → s.WillSeek cfg → s.NoEos
  log : ∀ e ∈ s.log, e.Own cfg

theorem offsetOf_zero (cfg : ReplayConfig) : cfg.offsetOf 0 = cfg.retimeOffset := by
  simp [ReplayConfig.offsetOf]

theorem replayInv_init (cfg : ReplayConfig) (playback : PlaybackState) :
    ReplayInv cfg (Replay.init cfg playback) where
  offset := (offsetOf_zero cfg).symm
  quiet h := nomatch h
  stream := trivial
  reader _ := ⟨rfl, rfl⟩
  counted _ _ := rfl
  seekIdx _ h := nomatch h
  readerGen := Nat.le_refl 1
  busGen _ hm := absurd hm List.not_mem_nil
  live _ _ hm := absurd hm List.not_mem_nil
  noEos h := nomatch h
  log _ he := absurd he List.not_mem_nil

/-- While a frame is being stamped, no restart is shifting. -/
theorem ReplayInv.shifting_eq_false {cfg : ReplayConfig} {s : Replay} (h : ReplayInv cfg s)
    (hpc : s.stream.settled = false) : s.main.shifting = false := by
  cases hm : s.main.shifting with
  | false => rfl
  | true => rw [h.quiet hm] at hpc; cases hpc

/-- A step of the streaming thread: it moves on, and writes no more than the row
counter, the end flags and the log. -/
theorem ReplayInv.streamed {cfg : ReplayConfig} {s : Replay} (h : ReplayInv cfg s) {idx : Nat}
    {finished failed : Bool} {playback : PlaybackState} {idles : List Nat} {stream : StreamPc}
    {log : List ReplayEvent}
    (hstream : StreamOk cfg { s with idx, finished, failed, playback, idles, stream, log } stream)
    (hquiet : s.main.shifting = true → stream.settled = true)
    (hcounted : s.main.shifting = false → stream.settled = true → idx = s.reader.pos)
    (hidx : s.main.shifting = true → idx = s.idx)
    (hlog : ∀ e ∈ log, e ∈ s.log ∨ e.Own cfg) :
    ReplayInv cfg { s with idx, finished, failed, playback, idles, stream, log } where
  offset := h.offset
  quiet := hquiet
  stream := hstream
  reader := h.reader
  counted := hcounted
  seekIdx r hr := by
    have hm : s.main = .seeking r := hr
    exact (hidx (by rw [hm]; rfl)).trans (h.seekIdx r hm)
  readerGen := h.readerGen
  busGen := h.busGen
  live := h.live
  noEos := h.noEos
  log e he := (hlog e he).elim (h.log e) id

/-- A step of `_new_stamp` before its holds: no restart is shifting. -/
theorem ReplayInv.stamping {cfg : ReplayConfig} {s : Replay} (h : ReplayInv cfg s)
    (hpc : s.stream.settled = false) {idx : Nat} {finished failed : Bool}
    {playback : PlaybackState} {idles : List Nat} {stream : StreamPc} {log : List ReplayEvent}
    (hstream : StreamOk cfg { s with idx, finished, failed, playback, idles, stream, log } stream)
    (hcounted : stream.settled = true → idx = s.reader.pos)
    (hlog : ∀ e ∈ log, e ∈ s.log ∨ e.Own cfg) :
    ReplayInv cfg { s with idx, finished, failed, playback, idles, stream, log } := by
  have hm := h.shifting_eq_false hpc
  exact h.streamed hstream (fun hs => by rw [hm] at hs; cases hs) (fun _ => hcounted)
    (fun hs => by rw [hm] at hs; cases hs) hlog

/-- A step of the holds, or the return of the stamp. -/
theorem ReplayInv.held {cfg : ReplayConfig} {s : Replay} (h : ReplayInv cfg s)
    (hpc : s.stream.settled = true) {playback : PlaybackState} {stream : StreamPc}
    {log : List ReplayEvent}
    (hstream : StreamOk cfg { s with playback, stream, log } stream)
    (hsettled : stream.settled = true) (hlog : ∀ e ∈ log, e ∈ s.log ∨ e.Own cfg) :
    ReplayInv cfg { s with playback, stream, log } :=
  h.streamed hstream (fun _ => hsettled) (fun hm _ => h.counted hm hpc) (fun _ => rfl) hlog

/-- A delivered frame has its own stamp. -/
theorem deliver_log {cfg : ReplayConfig} {s : Replay} {f : ReplayFrame} {st : FrameStamp}
    (hst : s.failed = false → HasStamp cfg f st) :
    ∀ e ∈ (s.deliver cfg f st).log, e ∈ s.log ∨ e.Own cfg := by
  intro e he
  simp only [Replay.deliver] at he
  split at he
  · next hd =>
      rcases List.mem_append.mp he with he | he
      · exact .inl he
      · obtain rfl := List.mem_singleton.mp he
        refine .inr (hst ?_)
        cases hf : s.failed with
        | false => rfl
        | true => simp [Replay.deliverable, hf] at hd
  · exact .inl he

/-- **A step of the streaming thread** keeps the invariant. -/
theorem replayInv_streamStep {cfg : ReplayConfig} {s s' : Replay} (h : ReplayInv cfg s)
    (hs : s.streamStep cfg = some s') : ReplayInv cfg s' := by
  have hok := h.stream
  have old : ∀ e ∈ s.log, e ∈ s.log ∨ e.Own cfg := fun _ he => .inl he
  have new : ∀ e', e'.Own cfg → ∀ e ∈ s.log ++ [e'], e ∈ s.log ∨ e.Own cfg := by
    intro e' hown e he
    rcases List.mem_append.mp he with he | he
    · exact .inl he
    · exact .inr (List.mem_singleton.mp he ▸ hown)
  cases hpc : s.stream with
  | outside => simp [Replay.streamStep, hpc] at hs
  | entered f =>
      rw [hpc] at hok
      simp only [Replay.streamStep, hpc, Option.some.injEq] at hs
      obtain ⟨hfresh, hidx⟩ := hok
      exact hs ▸ h.stamping (by simp [hpc, StreamPc.settled]) ⟨hfresh, hidx, hidx⟩ nofun old
  | indexed f idx =>
      rw [hpc] at hok
      simp only [Replay.streamStep, hpc, Option.some.injEq] at hs
      obtain ⟨hfresh, hidx, hread⟩ := hok
      exact hs ▸ h.stamping (by simp [hpc, StreamPc.settled]) ⟨hfresh, hidx, hread, hidx⟩ nofun old
  | loaded f idx old' =>
      rw [hpc] at hok
      simp only [Replay.streamStep, hpc, Option.some.injEq] at hs
      obtain ⟨hfresh, hidx, hread, hold⟩ := hok
      refine hs ▸ h.stamping (by simp [hpc, StreamPc.settled]) ⟨hfresh, ?_, hread⟩ nofun old
      rw [hold]
  | counted f idx =>
      rw [hpc] at hok
      obtain ⟨hfresh, hidx, hread⟩ := hok
      simp only [Replay.streamStep, hpc] at hs
      cases hrow : (cfg.csvStamps s.sessionIdx)[idx]? with
      | none =>
          simp only [hrow, Option.some.injEq] at hs
          exact hs ▸ h.stamping (by simp [hpc, StreamPc.settled]) ⟨hfresh, hidx⟩ nofun old
      | some row =>
          simp only [hrow, Option.some.injEq] at hs
          have hst : HasStamp cfg f (shiftStamp row s.offset) := by
            rw [HasStamp, hfresh.1, hfresh.2.1, ← hread, hrow, h.offset, Option.map_some]
          exact hs ▸ h.stamping (by simp [hpc, StreamPc.settled]) ⟨hfresh, hidx, hst⟩ nofun
            (new _ hst)
  | excess f =>
      rw [hpc] at hok
      simp only [Replay.streamStep, hpc, Option.some.injEq] at hs
      obtain ⟨hfresh, hidx⟩ := hok
      subst hs
      split
      · next hf =>
          exact h.stamping (by simp [hpc, StreamPc.settled]) ⟨hfresh, hidx, hf⟩ nofun old
      · exact h.stamping (by simp [hpc, StreamPc.settled]) ⟨hfresh, hidx⟩ nofun old
  | failing f =>
      rw [hpc] at hok
      simp only [Replay.streamStep, hpc, Option.some.injEq] at hs
      obtain ⟨hfresh, hidx⟩ := hok
      exact hs ▸ h.stamping (by simp [hpc, StreamPc.settled]) ⟨hfresh, hidx, rfl⟩ nofun
        (new _ hfresh.1)
  | finishing f windowEnd =>
      rw [hpc] at hok
      simp only [Replay.streamStep, hpc, Option.some.injEq] at hs
      cases windowEnd with
      | none =>
          exact hs ▸ h.stamping (by simp [hpc, StreamPc.settled]) hok nofun (new _ hok.1.1)
      | some st =>
          exact hs ▸ h.stamping (by simp [hpc, StreamPc.settled]) hok nofun (new _ hok.1.1)
  | marking f gen windowEnd =>
      rw [hpc] at hok
      simp only [Replay.streamStep, hpc, Option.some.injEq] at hs
      cases windowEnd with
      | none => exact hs ▸ h.stamping (by simp [hpc, StreamPc.settled]) hok nofun old
      | some st => exact hs ▸ h.stamping (by simp [hpc, StreamPc.settled]) hok nofun old
  | idling f gen windowEnd =>
      rw [hpc] at hok
      simp only [Replay.streamStep, hpc, Option.some.injEq] at hs
      cases windowEnd with
      | none => exact hs ▸ h.stamping (by simp [hpc, StreamPc.settled]) hok nofun old
      | some st =>
          obtain ⟨hfresh, hidx, hst⟩ := hok
          exact hs ▸ h.stamping (by simp [hpc, StreamPc.settled]) hst
            (fun _ => hidx.trans hfresh.2.2.symm) old
  | lastRow f =>
      rw [hpc] at hok
      simp only [Replay.streamStep, hpc] at hs
      cases hrow : (cfg.csvStamps s.sessionIdx).getLast? with
      | none => simp [hrow] at hs
      | some row =>
          simp only [hrow, Option.some.injEq] at hs
          exact hs ▸ h.stamping (by simp [hpc, StreamPc.settled]) hok nofun old
  | excessOut f st =>
      rw [hpc] at hok
      obtain ⟨hfresh, hidx, hfailed⟩ := hok
      simp only [Replay.streamStep, hpc, Option.some.injEq] at hs
      exact hs ▸ h.stamping (by simp [hpc, StreamPc.settled]) trivial
        (fun _ => hidx.trans hfresh.2.2.symm)
        (deliver_log fun hf => by rw [hfailed] at hf; cases hf)
  | shifted f st =>
      rw [hpc] at hok
      obtain ⟨hfresh, hidx, hst⟩ := hok
      have hpos : s.idx = s.reader.pos := hidx.trans hfresh.2.2.symm
      simp only [Replay.streamStep, hpc, Option.some.injEq] at hs
      subst hs
      split
      · exact h.stamping (by simp [hpc, StreamPc.settled]) hst (fun _ => hpos) old
      · split
        · exact h.stamping (by simp [hpc, StreamPc.settled]) ⟨hfresh, hidx, hst⟩ nofun old
        · exact h.stamping (by simp [hpc, StreamPc.settled]) hst (fun _ => hpos) old
  | pastEnd f st =>
      rw [hpc] at hok
      obtain ⟨hfresh, hidx, hst⟩ := hok
      simp only [Replay.streamStep, hpc, Option.some.injEq] at hs
      subst hs
      split
      · exact h.stamping (by simp [hpc, StreamPc.settled]) hst
          (fun _ => hidx.trans hfresh.2.2.symm) old
      · exact h.stamping (by simp [hpc, StreamPc.settled]) ⟨hfresh, hidx, hst⟩ nofun old
  | inWindow f st =>
      rw [hpc] at hok
      simp only [Replay.streamStep, hpc, Option.some.injEq] at hs
      subst hs
      split
      · exact h.held (by simp [hpc, StreamPc.settled]) hok rfl old
      · exact h.held (by simp [hpc, StreamPc.settled]) hok rfl old
  | holding f st =>
      rw [hpc] at hok
      simp only [Replay.streamStep, hpc, Option.map_eq_some_iff] at hs
      obtain ⟨r, -, rfl⟩ := hs
      split
      · exact h.held (by simp [hpc, StreamPc.settled]) hok rfl old
      · exact h.held (by simp [hpc, StreamPc.settled]) hok rfl old
  | pacing f st =>
      rw [hpc] at hok
      simp only [Replay.streamStep, hpc, Option.some.injEq] at hs
      exact hs ▸ h.held (by simp [hpc, StreamPc.settled]) hok rfl old
  | holdingAgain f st =>
      rw [hpc] at hok
      simp only [Replay.streamStep, hpc, Option.map_eq_some_iff] at hs
      obtain ⟨r, -, rfl⟩ := hs
      exact h.held (by simp [hpc, StreamPc.settled]) hok rfl old
  | stamped f st =>
      rw [hpc] at hok
      simp only [Replay.streamStep, hpc, Option.some.injEq] at hs
      exact hs ▸ h.held (by simp [hpc, StreamPc.settled]) trivial rfl (deliver_log fun _ => hok)

/-- What the main loop does to the fields it shares leaves a settled thread its
stamp. -/
theorem StreamOk.settled {cfg : ReplayConfig} {s s' : Replay} (h : StreamOk cfg s s.stream)
    (hpc : s.stream.settled = true) (hstream : s'.stream = s.stream) :
    StreamOk cfg s' s'.stream := by
  rw [hstream]
  cases hs : s.stream with
  | outside => trivial
  | inWindow f st | holding f st | pacing f st | holdingAgain f st | stamped f st =>
      rw [hs] at h
      exact h
  | _ => rw [hs] at hpc; cases hpc

/-- A statement of `_restart` between the new cycle and the choice of the path. -/
theorem ReplayInv.shifted {cfg : ReplayConfig} {s : Replay} (h : ReplayInv cfg s)
    (hm : s.main.shifting = true) {playback : PlaybackState} {finished failed : Bool}
    {main : LoopPc} (hmain : main.shifting = true) (hseek : ∀ r, main ≠ .seeking r)
    (hwill : ({ s with playback, finished, failed, main } : Replay).WillSeek cfg →
      s.WillSeek cfg) :
    ReplayInv cfg { s with playback, finished, failed, main } where
  offset := h.offset
  quiet _ := h.quiet hm
  stream := h.stream.settled (h.quiet hm) rfl
  reader hm' := by rw [hmain] at hm'; cases hm'
  counted hm' := by rw [hmain] at hm'; cases hm'
  seekIdx r hr := absurd hr (hseek r)
  readerGen := h.readerGen
  busGen := h.busGen
  live hm' := by rw [hmain] at hm'; cases hm'
  noEos _ hw := h.noEos hm (hwill hw)
  log := h.log

/-- **A step of the main loop** keeps the invariant, if it begins a cycle only
when it is isolated. -/
theorem replayInv_mainStep {cfg : ReplayConfig} {s s' : Replay} (h : ReplayInv cfg s)
    (hc : Isolated cfg s .main) (hs : s.mainStep cfg = some s') : ReplayInv cfg s' := by
  cases hpc : s.main with
  | idle => simp [Replay.mainStep, hpc] at hs
  | requested =>
      have hm : s.main.shifting = false := by rw [hpc]; rfl
      simp only [Replay.mainStep, hpc, Option.some.injEq] at hs
      subst hs
      exact
        { offset := h.offset
          quiet := nofun
          stream := h.stream
          reader := fun _ => h.reader hm
          counted := fun _ => h.counted hm
          seekIdx := nofun
          readerGen := h.readerGen
          busGen := h.busGen
          live := fun _ => h.live hm
          noEos := nofun
          log := h.log }
  | entered r =>
      obtain ⟨hsettled, hnoEos⟩ := hc (by rw [hpc]; rfl)
      simp only [Replay.mainStep, hpc, Option.some.injEq] at hs
      subst hs
      exact
        { offset := rfl
          quiet := fun _ => hsettled
          stream := h.stream.settled hsettled rfl
          reader := nofun
          counted := nofun
          seekIdx := nofun
          readerGen := h.readerGen
          busGen := h.busGen
          live := nofun
          noEos := fun _ hw => hnoEos (by rw [Replay.WillSeek, hpc]; exact hw)
          log := h.log }
  | begun r =>
      simp only [Replay.mainStep, hpc, Option.some.injEq] at hs
      exact hs ▸ h.shifted (by rw [hpc]; rfl) rfl nofun
        (fun hw => by rw [Replay.WillSeek, hpc]; exact hw)
  | taken r =>
      simp only [Replay.mainStep, hpc, Option.some.injEq] at hs
      exact hs ▸ h.shifted (by rw [hpc]; rfl) rfl nofun
        (fun hw => by rw [Replay.WillSeek, hpc]; exact hw)
  | unfinished r =>
      simp only [Replay.mainStep, hpc, Option.some.injEq] at hs
      exact hs ▸ h.shifted (by rw [hpc]; rfl) rfl nofun
        (fun hw => by rw [Replay.WillSeek, hpc]; exact hw)
  | ready r =>
      have hm : s.main.shifting = true := by rw [hpc]; rfl
      simp only [Replay.mainStep, hpc] at hs
      split at hs
      · next hseek =>
          obtain rfl := Option.some.inj hs
          have hwill : s.WillSeek cfg := by
            rw [Replay.WillSeek, hpc]
            exact ⟨hseek.1, by simpa using hseek.2⟩
          exact
            { offset := h.offset
              quiet := fun _ => h.quiet hm
              stream := h.stream.settled (h.quiet hm) rfl
              reader := nofun
              counted := nofun
              seekIdx := fun _ _ => rfl
              readerGen := h.readerGen
              busGen := h.busGen
              live := nofun
              noEos := fun _ _ => h.noEos hm hwill
              log := h.log }
      · obtain rfl := Option.some.inj hs
        exact h.shifted hm rfl nofun (fun hw => hw.elim)
  | seeking r =>
      have hm : s.main.shifting = true := by rw [hpc]; rfl
      cases hst : s.stream with
      | outside =>
          simp only [Replay.mainStep, hpc, hst, Option.some.injEq] at hs
          subst hs
          have hnoEos : s.NoEos := h.noEos hm (by rw [Replay.WillSeek, hpc]; trivial)
          exact
            { offset := h.offset
              quiet := nofun
              stream := trivial
              reader := fun _ => ⟨rfl, rfl⟩
              counted := fun _ _ => h.seekIdx r hpc
              seekIdx := nofun
              readerGen := h.readerGen
              busGen := h.busGen
              live := fun _ m hm hgen => absurd hgen (hnoEos m hm)
              noEos := nofun
              log := h.log }
      | _ => simp [Replay.mainStep, hpc, hst] at hs
  | halting session restart =>
      simp only [Replay.mainStep, hpc, Option.some.injEq] at hs
      subst hs
      have hold : ∀ m ∈ s.bus, m.gen ≠ s.gen + 1 := fun m hm hgen => by
        have := h.busGen m hm
        omega
      exact
        { offset := h.offset
          quiet := fun hr => h.quiet (by rw [hpc]; exact hr)
          stream := h.stream
          reader := fun hr => h.reader (by rw [hpc]; exact hr)
          counted := fun hr => h.counted (by rw [hpc]; exact hr)
          seekIdx := nofun
          readerGen := Nat.le_succ_of_le h.readerGen
          busGen := fun m hm => Nat.le_succ_of_le (h.busGen m hm)
          live := fun _ m hm hgen => absurd hgen (hold m hm)
          noEos := fun _ hw => hw.elim
          log := h.log }
  | nulling session restart =>
      cases hst : s.stream with
      | outside =>
          simp only [Replay.mainStep, hpc, hst, Option.some.injEq] at hs
          subst hs
          have hold : ∀ m ∈ s.bus, m.gen ≠ s.gen + 1 := fun m hm hgen => by
            have := h.busGen m hm
            omega
          exact
            { offset := h.offset
              quiet := nofun
              stream := trivial
              reader := fun _ => ⟨rfl, rfl⟩
              counted := fun _ _ => rfl
              seekIdx := nofun
              readerGen := Nat.le_refl _
              busGen := fun m hm => Nat.le_succ_of_le (h.busGen m hm)
              live := fun _ m hm hgen => absurd hgen (hold m hm)
              noEos := nofun
              log := h.log }
      | _ => simp [Replay.mainStep, hpc, hst] at hs

/-- The reader delivers a frame to a source that is not shifting. -/
theorem replayInv_newSample {cfg : ReplayConfig} {s : Replay} (h : ReplayInv cfg s)
    (hm : s.main.shifting = false) (hst : s.stream = .outside) :
    ReplayInv cfg { s with
      stream := .entered { cycle := s.reader.cycle, session := s.reader.session,
                           ordinal := s.reader.pos }
      reader := { s.reader with pos := s.reader.pos + 1 } } where
  offset := h.offset
  quiet hs := by rw [hm] at hs; cases hs
  stream := ⟨⟨(h.reader hm).1, (h.reader hm).2, rfl⟩, h.counted hm (by rw [hst]; rfl)⟩
  reader := h.reader
  counted _ := nofun
  seekIdx := h.seekIdx
  readerGen := h.readerGen
  busGen := h.busGen
  live := h.live
  noEos := h.noEos
  log := h.log

/-- The reader posts EOS. -/
theorem replayInv_postEos {cfg : ReplayConfig} {s : Replay} (h : ReplayInv cfg s)
    (hc : s.main.shifting = true → ¬ s.WillSeek cfg) (hst : s.stream = .outside) :
    ReplayInv cfg { s with
      reader := { s.reader with ended := true }
      bus := s.bus ++ [{ gen := s.reader.gen, cycle := s.reader.cycle }] } where
  offset := h.offset
  quiet := h.quiet
  stream := by rw [hst]; trivial
  reader := h.reader
  counted := h.counted
  seekIdx := h.seekIdx
  readerGen := h.readerGen
  busGen m hm := by
    rcases List.mem_append.mp hm with hm | hm
    · exact h.busGen m hm
    · obtain rfl := List.mem_singleton.mp hm
      exact h.readerGen
  live hs m hm hgen := by
    rcases List.mem_append.mp hm with hm | hm
    · exact h.live hs m hm hgen
    · obtain rfl := List.mem_singleton.mp hm
      exact (h.reader hs).1
  noEos hs hw := absurd hw (hc hs)
  log := h.log

/-- An idle main loop that touches neither the cycle nor the reader's frames. -/
theorem ReplayInv.idle {cfg : ReplayConfig} {s : Replay} (h : ReplayInv cfg s)
    (hpc : s.main = .idle) {playback : PlaybackState} {finished failed paused : Bool}
    {idles : List Nat} {bus : List EosMessage} {main : LoopPc} {log : List ReplayEvent}
    (hfailed : s.failed = true → failed = true) (hbus : ∀ m ∈ bus, m ∈ s.bus)
    (hmain : main.shifting = false) (hseek : ∀ r, main ≠ .seeking r)
    (hlog : ∀ e ∈ log, e ∈ s.log ∨ e.Own cfg) :
    ReplayInv cfg { s with
      playback, finished, failed, idles, bus, main, log
      reader := { s.reader with paused := paused } } := by
  have hm : s.main.shifting = false := by rw [hpc]; rfl
  have hstream : StreamOk cfg { s with
      playback, finished, failed, idles, bus, main, log
      reader := { s.reader with paused := paused } } s.stream := by
    have hok := h.stream
    cases hs : s.stream with
    | finishing f windowEnd | marking f gen windowEnd | idling f gen windowEnd =>
        rw [hs] at hok
        cases windowEnd with
        | none => exact ⟨hok.1, hok.2.1, hfailed hok.2.2⟩
        | some st => exact hok
    | lastRow f | excessOut f st =>
        rw [hs] at hok
        exact ⟨hok.1, hok.2.1, hfailed hok.2.2⟩
    | _ =>
        rw [hs] at hok
        exact hok
  exact
    { offset := h.offset
      quiet := fun hr => by rw [hmain] at hr; cases hr
      stream := hstream
      reader := fun _ => h.reader hm
      counted := fun _ => h.counted hm
      seekIdx := fun r hr => absurd hr (hseek r)
      readerGen := h.readerGen
      busGen := fun m hm => h.busGen m (hbus m hm)
      live := fun _ m hmem hgen => h.live hm m (hbus m hmem) hgen
      noEos := fun hr => by rw [hmain] at hr; cases hr
      log := fun e he => (hlog e he).elim (h.log e) id }

/-- An EOS that the main loop takes off the bus is the current cycle's. -/
theorem replayInv_dispatch {cfg : ReplayConfig} {s : Replay} (h : ReplayInv cfg s)
    (hpc : s.main = .idle) {m : EosMessage} {bus : List EosMessage} (hbus : s.bus = m :: bus) :
    ReplayInv cfg (Replay.onEos cfg { s with bus := bus } m) := by
  have hsub : ∀ m' ∈ bus, m' ∈ s.bus := fun m' hm' => by
    rw [hbus]
    exact List.mem_cons_of_mem _ hm'
  have old : ∀ e ∈ s.log, e ∈ s.log ∨ e.Own cfg := fun _ he => .inl he
  unfold Replay.onEos
  split
  · exact h.idle hpc id hsub (by rw [hpc]; rfl) (fun r => by rw [hpc]; nofun) old
  · next hlive =>
      have hgen : m.gen = s.gen := by
        by_contra hne
        exact hlive (.inl hne)
      have hcycle : m.cycle = s.cycle :=
        h.live (by rw [hpc]; rfl) m (by rw [hbus]; exact List.mem_cons_self) hgen
      split
      · refine h.idle hpc (fun _ => rfl) hsub (by rw [hpc]; rfl) (fun r => by rw [hpc]; nofun) ?_
        intro e he
        simp only [List.append_assoc, List.mem_append, List.mem_cons, List.not_mem_nil,
          or_false] at he
        rcases he with he | rfl | rfl
        · exact .inl he
        · exact .inr hcycle
        · exact .inr hcycle
      · split
        · refine h.idle hpc id hsub rfl nofun fun e he => ?_
          rcases List.mem_append.mp he with he | he
          · exact .inl he
          · exact .inr (List.mem_singleton.mp he ▸ hcycle)
        · split
          · refine h.idle hpc id hsub (by rw [hpc]; rfl) (fun r => by rw [hpc]; nofun)
              fun e he => ?_
            rcases List.mem_append.mp he with he | he
            · exact .inl he
            · exact .inr (List.mem_singleton.mp he ▸ hcycle)
          · exact h.idle hpc id hsub rfl nofun old

/-- **Step lemma**: every step keeps the invariant, as long as restarts are
isolated. -/
theorem replayInv_step (cfg : ReplayConfig) (s : Replay) (l : ReplayStep) (s' : Replay)
    (h : ReplayInv cfg s) (hc : Isolated cfg s l) (hs : Replay.step cfg s l = some s') :
    ReplayInv cfg s' := by
  have old : ∀ e ∈ s.log, e ∈ s.log ∨ e.Own cfg := fun _ he => .inl he
  cases l with
  | newSample =>
      simp only [Replay.step] at hs
      split at hs
      · next hfree =>
          obtain rfl := Option.some.inj hs
          exact replayInv_newSample h hc hfree.1
      · cases hs
  | stream => exact replayInv_streamStep h hs
  | postEos =>
      simp only [Replay.step] at hs
      split at hs
      · next hfree =>
          obtain rfl := Option.some.inj hs
          exact replayInv_postEos h hc hfree.1
      · cases hs
  | pause =>
      obtain ⟨hpc, rfl⟩ := Replay.whenIdle_eq_some hs
      exact h.idle hpc id (fun _ hm => hm) (by rw [hpc]; rfl) (fun r => by rw [hpc]; nofun) old
  | resume =>
      obtain ⟨hpc, rfl⟩ := Replay.whenIdle_eq_some hs
      exact h.idle hpc id (fun _ hm => hm) (by rw [hpc]; rfl) (fun r => by rw [hpc]; nofun) old
  | setLoop loop =>
      obtain ⟨hpc, rfl⟩ := Replay.whenIdle_eq_some hs
      exact h.idle hpc id (fun _ hm => hm) (by rw [hpc]; rfl) (fun r => by rw [hpc]; nofun) old
  | requestRestart =>
      obtain ⟨hpc, rfl⟩ := Replay.whenIdle_eq_some hs
      exact h.idle hpc id (fun _ hm => hm) rfl nofun old
  | main => exact replayInv_mainStep h hc hs
  | seekFails =>
      cases hpc : s.main with
      | seeking r =>
          cases hst : s.stream with
          | outside =>
              simp only [Replay.step, hpc, hst, Option.some.injEq] at hs
              have hhalt : ReplayInv cfg { s with main := .halting cfg.firstIdx true } :=
                h.shifted (by rw [hpc]; rfl) rfl nofun fun hw => hw.elim
              simp only [hst] at hhalt
              exact hs ▸ hhalt
          | _ => simp [Replay.step, hpc, hst] at hs
      | _ => simp [Replay.step, hpc] at hs
  | dispatch =>
      cases hbus : s.bus with
      | nil => simp [Replay.step, hbus] at hs
      | cons m bus =>
          simp only [Replay.step, hbus] at hs
          obtain ⟨hpc, rfl⟩ := Replay.whenIdle_eq_some hs
          exact replayInv_dispatch h hpc hbus
  | quiesce =>
      cases hidles : s.idles with
      | nil => simp [Replay.step, hidles] at hs
      | cons gen idles =>
          simp only [Replay.step, hidles] at hs
          obtain ⟨hpc, rfl⟩ := Replay.whenIdle_eq_some hs
          exact h.idle hpc id (fun _ hm => hm) (by rw [hpc]; rfl) (fun r => by rw [hpc]; nofun) old
  | gate =>
      simp only [Replay.step] at hs
      split at hs
      · obtain rfl := Option.some.inj hs
        exact h.streamed h.stream h.quiet h.counted (fun _ => rfl) old
      · cases hs
  | gateResume =>
      simp only [Replay.step] at hs
      split at hs
      · obtain rfl := Option.some.inj hs
        exact h.streamed h.stream h.quiet h.counted (fun _ => rfl) old
      · cases hs

/-! ## Runs -/

/-- **Restart isolation**: in a run whose restarts are isolated, every frame has
its own row under its own cycle's offset, and nothing of one cycle ends, fails or
moves on another. -/
theorem own_of_isolated (cfg : ReplayConfig) (playback : PlaybackState) (steps : List ReplayStep)
    (s : Replay)
    (hc : Machine.Along (Replay.step cfg) (Isolated cfg) (Replay.init cfg playback) steps)
    (h : Machine.exec (Replay.step cfg) (Replay.init cfg playback) steps = some s) :
    ∀ e ∈ s.log, e.Own cfg :=
  (Machine.exec_inv_along (replayInv_step cfg) (replayInv_init cfg playback) hc h).log

/-- One session of two frames. -/
def twoFrames : ReplayConfig :=
  { sessionStamps := [[plainStamp 10, plainStamp 20]], fromNs := none, toNs := none,
    retimeOffset := 0, sessions_ne := by decide, rows_ne := by decide }

/-- A frame from its callback to the consumer. -/
def playFrame : List ReplayStep := .newSample :: List.replicate 10 .stream

/-- A loop wrap and an operator's restart, both by seek: the wrap after EOS, the
restart while a frame is at its first hold. -/
def quietRestarts : List ReplayStep :=
  playFrame ++ playFrame ++ [.postEos, .dispatch] ++ List.replicate 6 .main ++
    .newSample :: List.replicate 6 .stream ++ .requestRestart :: List.replicate 6 .main ++
    List.replicate 4 .stream ++ [.main] ++ playFrame

/-- The restart finds the second frame's callback not yet started: it starts
while the seek is under way. -/
def racedRestart : List ReplayStep :=
  playFrame ++ .requestRestart :: List.replicate 6 .main ++ playFrame ++ [.main] ++ playFrame

/-- Four cycles' frames, each with its own row. -/
theorem own_quietRestarts :
    ∃ s, Machine.exec (Replay.step twoFrames) (Replay.init twoFrames (.boot false true false))
        quietRestarts = some s ∧
      (s.log.filterMap fun
        | .delivered f st => some (f.cycle, f.ordinal, st.timestampNs)
        | _ => none) = [(0, 0, 10), (0, 1, 20), (1, 0, 30), (2, 0, 50)] ∧
      ∀ e ∈ s.log, e.Own twoFrames :=
  ⟨_, rfl, by decide,
    own_of_isolated twoFrames (.boot false true false) quietRestarts _ (by decide) rfl⟩

/-- The old cycle's frame takes the new cycle's first row: every row of the new
cycle is one frame late. -/
theorem not_own_racedRestart :
    ¬ ∀ (cfg : ReplayConfig) (playback : PlaybackState) (steps : List ReplayStep) (s : Replay),
      Machine.exec (Replay.step cfg) (Replay.init cfg playback) steps = some s →
        ∀ e ∈ s.log, e.Own cfg := by
  intro h
  have hrun := h twoFrames (.boot false true false) racedRestart _ rfl
    (.stamped { cycle := 1, session := 0, ordinal := 0 } (shiftStamp (plainStamp 20) 20))
    (by decide)
  exact absurd hrun (by decide)

end CamDriver
