import CamDriver.ReplayHold
import CamDriver.PcapOrder

/-!
# CamDriver.ReplayOrder

The timestamps a replay delivers, and with those of `CamDriver.PcapOrder` the
timestamps of both playback sources.

The cycle length of a replay is known before it starts, so cycles never overlap.
What can go wrong is a frame that gets an old row under a new offset, because
`_restart` moves the offset before the row counter.
-/

namespace CamDriver

/-! ## The recording -/

/-- The stamps of all sessions strictly increase. -/
def ReplayConfig.Increasing (cfg : ReplayConfig) : Prop :=
  cfg.sessionStamps.flatten.Pairwise fun a b => a.timestampNs < b.timestampNs

instance (cfg : ReplayConfig) : Decidable cfg.Increasing :=
  inferInstanceAs (Decidable (List.Pairwise _ _))

/-- A row of the recording. -/
def ReplayConfig.Row (cfg : ReplayConfig) (session ordinal : Nat) (row : FrameStamp) : Prop :=
  ∃ rows, cfg.sessionStamps[session]? = some rows ∧ rows[ordinal]? = some row

theorem ReplayConfig.row_of_csvStamps {cfg : ReplayConfig} {session ordinal : Nat}
    {row : FrameStamp} (h : (cfg.csvStamps session)[ordinal]? = some row) :
    cfg.Row session ordinal row := by
  rw [ReplayConfig.csvStamps, List.getD_eq_getElem?_getD] at h
  cases hrows : cfg.sessionStamps[session]? with
  | none => simp [hrows] at h
  | some rows => exact ⟨rows, hrows, by simpa [hrows] using h⟩

theorem ReplayConfig.Row.mem {cfg : ReplayConfig} {session ordinal : Nat} {row : FrameStamp}
    (h : cfg.Row session ordinal row) : row ∈ cfg.sessionStamps.flatten := by
  obtain ⟨rows, hrows, hrow⟩ := h
  exact List.mem_flatten_of_mem (List.mem_of_getElem? hrows) (List.mem_of_getElem? hrow)

/-- Rows increase within a session and from session to session. -/
theorem ReplayConfig.Row.lt {cfg : ReplayConfig} (hcfg : cfg.Increasing)
    {session ordinal session' ordinal' : Nat} {row row' : FrameStamp}
    (h : cfg.Row session ordinal row) (h' : cfg.Row session' ordinal' row')
    (hlt : session < session' ∨ session = session' ∧ ordinal < ordinal') :
    row.timestampNs < row'.timestampNs := by
  obtain ⟨rows, hrows, hrow⟩ := h
  obtain ⟨rows', hrows', hrow'⟩ := h'
  obtain ⟨within, across⟩ := List.pairwise_flatten.mp hcfg
  rcases hlt with hlt | ⟨rfl, hlt⟩
  · obtain ⟨hi, rfl⟩ := List.getElem?_eq_some_iff.mp hrows
    obtain ⟨hj, rfl⟩ := List.getElem?_eq_some_iff.mp hrows'
    exact List.pairwise_iff_getElem.mp across session session' hi hj hlt row
      (List.mem_of_getElem? hrow) row' (List.mem_of_getElem? hrow')
  · obtain rfl := Option.some.inj (hrows.symm.trans hrows')
    obtain ⟨hi, rfl⟩ := List.getElem?_eq_some_iff.mp hrow
    obtain ⟨hj, rfl⟩ := List.getElem?_eq_some_iff.mp hrow'
    exact List.pairwise_iff_getElem.mp (within rows (List.mem_of_getElem? hrows)) _ _ hi hj hlt

/-- No row lies outside the extent of the run. -/
theorem ReplayConfig.Increasing.extent {cfg : ReplayConfig} (hcfg : cfg.Increasing)
    {row : FrameStamp} (h : row ∈ cfg.sessionStamps.flatten) :
    cfg.allTs.headD 0 ≤ row.timestampNs ∧ row.timestampNs ≤ cfg.allTs.getLastD 0 := by
  have hts : cfg.allTs.Pairwise (· < ·) := List.pairwise_map.mpr hcfg
  have hmem : row.timestampNs ∈ cfg.allTs := List.mem_map_of_mem h
  generalize cfg.allTs = ts at hts hmem ⊢
  constructor
  · cases ts with
    | nil => cases hmem
    | cons t ts =>
        rcases List.mem_cons.mp hmem with heq | hmem
        · exact Int.le_of_eq heq.symm
        · exact Int.le_of_lt ((List.pairwise_cons.mp hts).1 _ hmem)
  · induction ts using List.reverseRecOn with
    | nil => cases hmem
    | append_singleton ts t _ =>
        rw [List.getLastD_eq_getLast?, List.getLast?_concat, Option.getD_some]
        rcases List.mem_append.mp hmem with hmem | hmem
        · exact Int.le_of_lt ((List.pairwise_append.mp hts).2.2 _ hmem _ (by simp))
        · exact Int.le_of_eq (List.mem_singleton.mp hmem)

/-- The cycle length exceeds the extent of the run. -/
theorem ReplayConfig.extent_lt_spanNs (cfg : ReplayConfig) :
    cfg.allTs.getLastD 0 - cfg.allTs.headD 0 < cfg.spanNs := by
  have hpos := medianIntervalNs_pos ((cfg.csvStamps 0).map FrameStamp.timestampNs)
  simp only [spanNs]
  omega

/-! ## The order of frames -/

/-- By cycle, then by session, then by row. -/
def ReplayFrame.Le (f g : ReplayFrame) : Prop :=
  f.cycle < g.cycle ∨ f.cycle = g.cycle ∧
    (f.session < g.session ∨ f.session = g.session ∧ f.ordinal ≤ g.ordinal)

theorem ReplayFrame.le_refl (f : ReplayFrame) : f.Le f := .inr ⟨rfl, .inr ⟨rfl, Nat.le_refl _⟩⟩

theorem ReplayFrame.Le.trans {f g k : ReplayFrame} (h : f.Le g) (h' : g.Le k) : f.Le k := by
  unfold Le at *
  omega

theorem hasStamp_row {cfg : ReplayConfig} {f : ReplayFrame} {st : FrameStamp}
    (h : HasStamp cfg f st) : ∃ row, cfg.Row f.session f.ordinal row ∧
      st.timestampNs = row.timestampNs + cfg.offsetOf f.cycle := by
  obtain ⟨row, hrow, rfl⟩ := Option.map_eq_some_iff.mp h
  exact ⟨row, cfg.row_of_csvStamps hrow, timestampNs_shiftStamp _ _⟩

/-- A later frame has a later stamp. -/
theorem timestampNs_lt {cfg : ReplayConfig} (hcfg : cfg.Increasing) {f g : ReplayFrame}
    {st st' : FrameStamp} (hf : HasStamp cfg f st) (hg : HasStamp cfg g st')
    (h : ReplayFrame.Le { f with ordinal := f.ordinal + 1 } g) :
    st.timestampNs < st'.timestampNs := by
  obtain ⟨row, hrow, hst⟩ := hasStamp_row hf
  obtain ⟨row', hrow', hst'⟩ := hasStamp_row hg
  rw [hst, hst']
  rcases h with hcycle | ⟨hcycle, h⟩
  · -- an earlier cycle: the span lies between the two
    have hcycle' : f.cycle + 1 ≤ g.cycle := hcycle
    obtain ⟨-, hlast⟩ := hcfg.extent hrow.mem
    obtain ⟨hfirst, -⟩ := hcfg.extent hrow'.mem
    have hspan := cfg.extent_lt_spanNs
    have hpos : 0 < cfg.spanNs := by
      have hle := hcfg.extent hrow.mem
      omega
    have hmul : ((f.cycle : Int) + 1) * cfg.spanNs ≤ (g.cycle : Int) * cfg.spanNs :=
      Int.mul_le_mul_of_nonneg_right (by omega) (Int.le_of_lt hpos)
    rw [Int.add_mul, Int.one_mul] at hmul
    simp only [ReplayConfig.offsetOf]
    omega
  · have hcycle' : f.cycle = g.cycle := hcycle
    have hlt := hrow.lt hcfg hrow' (by
      rcases h with h | ⟨hs, ho⟩
      · exact .inl h
      · exact .inr ⟨hs, ho⟩)
    rw [hcycle']
    omega

/-- A time before every stamp from a frame on. -/
def Ahead (cfg : ReplayConfig) (f : ReplayFrame) (t : Int) : Prop :=
  ∀ g st, HasStamp cfg g st → f.Le g → t < st.timestampNs

theorem Ahead.mono {cfg : ReplayConfig} {f g : ReplayFrame} {t : Int} (h : Ahead cfg f t)
    (hle : f.Le g) : Ahead cfg g t := fun k st hk hgk => h k st hk (hle.trans hgk)

/-! ## When rows and offsets move together -/

/-- In `_new_stamp`, with no row of the CSV in hand. -/
def StreamPc.unstamped : StreamPc → Bool
  | .entered _ | .indexed _ _ | .loaded _ _ _ | .counted _ _ | .excess _ | .failing _ | .lastRow _
  | .excessOut _ _ | .finishing _ none | .marking _ _ none | .idling _ _ none => true
  | _ => false

/-- The offset is the new cycle's, the row counter is not. -/
def LoopPc.stale : LoopPc → Bool
  | .begun _ | .taken _ | .unfinished _ | .ready _ => true
  | .halting _ restart | .nulling _ restart => restart
  | .idle | .requested | .entered _ | .seeking _ => false

/-- No frame is between its callback and its row when a cycle begins, none comes
in before the row counter is reset or the cancel event is set, and a seek that
fails has not counted any. -/
def InStep (s : Replay) : ReplayStep → Prop
  | .newSample => s.main.stale = true → s.stopEvt = true
  | .main => s.main.entering = true → s.stream.unstamped = false
  | .seekFails => s.idx = 0
  | _ => True

instance (s : Replay) : (l : ReplayStep) → Decidable (InStep s l)
  | .newSample | .main => inferInstanceAs (Decidable (_ → _))
  | .seekFails => inferInstanceAs (Decidable (_ = _))
  | .stream | .postEos | .pause | .resume | .setLoop _ | .requestRestart | .dispatch | .quiesce
  | .gate | .gateResume => isTrue trivial

/-! ## The invariant -/

/-- The timestamps a replay has delivered. -/
def Replay.timestamps (s : Replay) : List Int :=
  s.log.filterMap fun
    | .delivered _ st => some st.timestampNs
    | _ => none

/-- The frame whose row comes next. -/
def Replay.floor (cfg : ReplayConfig) (s : Replay) : ReplayFrame :=
  if s.main.stale then { cycle := s.cycle, session := cfg.firstIdx, ordinal := 0 }
  else { cycle := s.cycle, session := s.sessionIdx, ordinal := s.idx }

/-- A stamp in hand, unless it is cancelled, lies between what was delivered and
what comes next. -/
def StampOk (cfg : ReplayConfig) (s : Replay) (st : FrameStamp) : Prop :=
  s.stopEvt = false →
    (∀ t ∈ s.timestamps, t < st.timestampNs) ∧ Ahead cfg (s.floor cfg) st.timestampNs

/-- What the streaming thread has read is the row counter's. -/
def FlightOk (cfg : ReplayConfig) (s : Replay) : StreamPc → Prop
  | .outside | .entered _ | .excess _ | .failing _ => True
  | .indexed _ idx => s.idx = idx
  | .loaded _ idx old => s.idx = idx ∧ old = idx
  | .counted _ idx => s.idx = idx + 1 ∧ (s.stopEvt = false → ∀ t ∈ s.timestamps,
      Ahead cfg { cycle := s.cycle, session := s.sessionIdx, ordinal := idx } t)
  | .lastRow _ | .excessOut _ _ | .finishing _ none | .marking _ _ none | .idling _ _ none =>
    s.failed = true
  | .shifted _ st | .pastEnd _ st | .finishing _ (some st) | .marking _ _ (some st)
  | .idling _ _ (some st) | .inWindow _ st | .holding _ st | .pacing _ st | .holdingAgain _ st
  | .stamped _ st => StampOk cfg s st

/-- Where a rebuild leads to, and that a seek stays in the first session. -/
def LoopOk (cfg : ReplayConfig) (s : Replay) : LoopPc → Prop
  | .halting session false | .nulling session false =>
    s.sessionIdx < session ∧ session < cfg.sessionStamps.length
  | .halting session true | .nulling session true => session = cfg.firstIdx
  | .seeking _ => s.sessionIdx = cfg.firstIdx
  | _ => True

/-- The invariant of a run in which rows and offsets move together. -/
structure OrderInv (cfg : ReplayConfig) (s : Replay) : Prop where
  offset : s.offset = cfg.offsetOf s.cycle
  session : s.sessionIdx < cfg.sessionStamps.length
  loop : LoopOk cfg s s.main
  fresh : s.main.stale = true → s.stopEvt = false → s.stream.unstamped = false
  sorted : s.timestamps.Pairwise (· < ·)
  below : ∀ t ∈ s.timestamps, Ahead cfg (s.floor cfg) t
  flight : FlightOk cfg s s.stream

theorem orderInv_init (cfg : ReplayConfig) (playback : PlaybackState) :
    OrderInv cfg (Replay.init cfg playback) where
  offset := (offsetOf_zero cfg).symm
  session := cfg.firstIdx_lt
  loop := trivial
  fresh h := nomatch h
  sorted := List.Pairwise.nil
  below _ ht := absurd ht List.not_mem_nil
  flight := trivial

theorem StampOk.transfer {cfg : ReplayConfig} {s s' : Replay} {st : FrameStamp}
    (h : StampOk cfg s st) (hts : s'.timestamps = s.timestamps)
    (hfloor : (s.floor cfg).Le (s'.floor cfg)) (hstop : s'.stopEvt = false → s.stopEvt = false) :
    StampOk cfg s' st := by
  intro hs'
  obtain ⟨hbefore, hahead⟩ := h (hstop hs')
  exact ⟨hts ▸ hbefore, hahead.mono hfloor⟩

/-- What other threads do leaves the streaming thread its stamp, and its row if it
has none yet. -/
theorem FlightOk.transfer {cfg : ReplayConfig} {s s' : Replay} {pc : StreamPc}
    (h : FlightOk cfg s pc) (hts : s'.timestamps = s.timestamps)
    (hfloor : (s.floor cfg).Le (s'.floor cfg)) (hstop : s'.stopEvt = false → s.stopEvt = false)
    (hunstamped : pc.unstamped = true → s'.idx = s.idx ∧ s'.cycle = s.cycle ∧
      s'.sessionIdx = s.sessionIdx ∧ (s.failed = true → s'.failed = true)) :
    FlightOk cfg s' pc := by
  cases pc with
  | outside | entered f | excess f | failing f => trivial
  | indexed f idx => exact (hunstamped rfl).1.trans h
  | loaded f idx old => exact ⟨(hunstamped rfl).1.trans h.1, h.2⟩
  | counted f idx =>
      obtain ⟨hidx, hcycle, hsession, -⟩ := hunstamped rfl
      refine ⟨hidx.trans h.1, fun hs' => ?_⟩
      rw [hts, hcycle, hsession]
      exact h.2 (hstop hs')
  | lastRow f | excessOut f st => exact (hunstamped rfl).2.2.2 h
  | finishing f windowEnd | marking f gen windowEnd | idling f gen windowEnd =>
      cases windowEnd with
      | none => exact (hunstamped rfl).2.2.2 h
      | some st => exact StampOk.transfer h hts hfloor hstop
  | shifted f st | pastEnd f st | inWindow f st | holding f st | pacing f st | holdingAgain f st
  | stamped f st => exact StampOk.transfer h hts hfloor hstop

/-- A step that delivers nothing and does not touch the streaming thread. -/
theorem OrderInv.moved {cfg : ReplayConfig} {s s' : Replay} (h : OrderInv cfg s)
    (hoffset : s'.offset = cfg.offsetOf s'.cycle)
    (hsession : s'.sessionIdx < cfg.sessionStamps.length) (hloop : LoopOk cfg s' s'.main)
    (hstream : s'.stream = s.stream) (hts : s'.timestamps = s.timestamps)
    (hfloor : (s.floor cfg).Le (s'.floor cfg)) (hstop : s'.stopEvt = false → s.stopEvt = false)
    (hfresh : s'.main.stale = true → s'.stopEvt = false → s.stream.unstamped = false)
    (hunstamped : s.stream.unstamped = true → s'.idx = s.idx ∧ s'.cycle = s.cycle ∧
      s'.sessionIdx = s.sessionIdx ∧ (s.failed = true → s'.failed = true)) :
    OrderInv cfg s' where
  offset := hoffset
  session := hsession
  loop := hloop
  fresh := by rw [hstream]; exact hfresh
  sorted := by rw [hts]; exact h.sorted
  below := by
    rw [hts]
    exact fun t ht => (h.below t ht).mono hfloor
  flight := by
    rw [hstream]
    exact h.flight.transfer hts hfloor hstop hunstamped

/-- A step of the streaming thread that delivers nothing. -/
theorem OrderInv.streamed {cfg : ReplayConfig} {s : Replay} (h : OrderInv cfg s) {idx : Nat}
    {finished failed : Bool} {playback : PlaybackState} {idles : List Nat} {stream : StreamPc}
    {log : List ReplayEvent} (hidx : s.idx ≤ idx)
    (hts : ({ s with idx, finished, failed, playback, idles, stream, log } : Replay).timestamps =
      s.timestamps)
    (hfresh : stream.unstamped = true → s.stream.unstamped = true)
    (hflight : FlightOk cfg { s with idx, finished, failed, playback, idles, stream, log } stream) :
    OrderInv cfg { s with idx, finished, failed, playback, idles, stream, log } where
  offset := h.offset
  session := h.session
  loop := h.loop
  fresh hstale hstop := by
    cases hun : stream.unstamped with
    | false => rfl
    | true =>
        have hold : s.stream.unstamped = false := h.fresh hstale hstop
        rw [hfresh hun] at hold
        cases hold
  sorted := by rw [hts]; exact h.sorted
  below := by
    rw [hts]
    refine fun t ht => (h.below t ht).mono ?_
    unfold Replay.floor
    split
    · exact ReplayFrame.le_refl _
    · exact .inr ⟨rfl, .inr ⟨rfl, hidx⟩⟩
  flight := hflight

/-! ## The streaming thread -/

theorem timestamps_concat (log : List ReplayEvent) (e : ReplayEvent) (s : Replay) :
    ({ s with log := log ++ [e] } : Replay).timestamps =
      ({ s with log := log } : Replay).timestamps ++ match e with
        | .delivered _ st => [st.timestampNs]
        | _ => [] := by
  cases e <;> simp [Replay.timestamps]

/-- Without a row in hand, the row counter is the current cycle's. -/
theorem OrderInv.floor_eq {cfg : ReplayConfig} {s : Replay} (h : OrderInv cfg s)
    (hun : s.stream.unstamped = true) (hstop : s.stopEvt = false) :
    s.floor cfg = { cycle := s.cycle, session := s.sessionIdx, ordinal := s.idx } := by
  cases hstale : s.main.stale with
  | false => rw [Replay.floor, hstale]; rfl
  | true =>
      rw [h.fresh hstale hstop] at hun
      cases hun

/-- The row that `_new_stamp` reads comes after everything that was delivered. -/
theorem OrderInv.stamp {cfg : ReplayConfig} (hcfg : cfg.Increasing) {s : Replay}
    (h : OrderInv cfg s) {f : ReplayFrame} {idx : Nat} (hpc : s.stream = .counted f idx)
    {row : FrameStamp} (hrow : (cfg.csvStamps s.sessionIdx)[idx]? = some row) :
    StampOk cfg s (shiftStamp row s.offset) := by
  intro hstop
  have hflight := h.flight
  rw [hpc] at hflight
  obtain ⟨hidx, hahead⟩ := hflight
  have hst : HasStamp cfg { cycle := s.cycle, session := s.sessionIdx, ordinal := idx }
      (shiftStamp row s.offset) := by
    rw [HasStamp, hrow, h.offset, Option.map_some]
  refine ⟨fun t ht => hahead hstop t ht _ _ hst (ReplayFrame.le_refl _), fun g st hg hle => ?_⟩
  rw [h.floor_eq (by rw [hpc]; rfl) hstop, hidx] at hle
  exact timestampNs_lt hcfg hst hg hle

/-- A frame is handed over, or not. -/
theorem OrderInv.deliver {cfg : ReplayConfig} {s : Replay} (h : OrderInv cfg s) {f : ReplayFrame}
    {st : FrameStamp} (hst : s.failed = false → StampOk cfg s st) :
    OrderInv cfg (s.deliver cfg f st) := by
  unfold Replay.deliver
  split
  · next hd =>
      simp only [Replay.deliverable, Bool.and_eq_true, Bool.not_eq_true'] at hd
      obtain ⟨hbefore, hahead⟩ := hst hd.1.1.1 hd.1.1.2
      have hts : ({ s with stream := .outside, log := s.log ++ [.delivered f st] } :
          Replay).timestamps = s.timestamps ++ [st.timestampNs] := timestamps_concat _ _ _
      refine
        { offset := h.offset
          session := h.session
          loop := h.loop
          fresh := fun _ _ => rfl
          sorted := ?_
          below := fun t ht => ?_
          flight := trivial }
      · rw [hts, List.pairwise_append]
        refine ⟨h.sorted, List.pairwise_singleton _ _, fun t ht t' ht' => ?_⟩
        rw [List.mem_singleton.mp ht']
        exact hbefore t ht
      · rw [hts] at ht
        rcases List.mem_append.mp ht with ht | ht
        · exact h.below t ht
        · rw [List.mem_singleton.mp ht]
          exact hahead
  · exact h.streamed (Nat.le_refl _) rfl (fun h => by cases h) trivial

/-- **A step of the streaming thread** keeps the invariant. -/
theorem orderInv_streamStep {cfg : ReplayConfig} (hcfg : cfg.Increasing) {s s' : Replay}
    (h : OrderInv cfg s) (hs : s.streamStep cfg = some s') : OrderInv cfg s' := by
  have hok := h.flight
  have le := Nat.le_refl s.idx
  have refl := (s.floor cfg).le_refl
  cases hpc : s.stream with
  | outside => simp [Replay.streamStep, hpc] at hs
  | entered f =>
      simp only [Replay.streamStep, hpc, Option.some.injEq] at hs
      exact hs ▸ h.streamed le rfl (fun _ => by rw [hpc]; rfl) rfl
  | indexed f idx =>
      rw [hpc] at hok
      simp only [Replay.streamStep, hpc, Option.some.injEq] at hs
      have hidx : s.idx = idx := hok
      exact hs ▸ h.streamed le rfl (fun _ => by rw [hpc]; rfl) ⟨hidx, hidx⟩
  | loaded f idx old =>
      rw [hpc] at hok
      obtain ⟨hidx, hold⟩ := hok
      simp only [Replay.streamStep, hpc, Option.some.injEq] at hs
      subst hs
      refine h.streamed (by omega) rfl (fun _ => by rw [hpc]; rfl)
        ⟨congrArg (· + 1) hold, fun hstop t ht => ?_⟩
      have hbelow := h.below t ht
      rw [h.floor_eq (by rw [hpc]; rfl) hstop, hidx] at hbelow
      exact hbelow
  | counted f idx =>
      simp only [Replay.streamStep, hpc] at hs
      cases hrow : (cfg.csvStamps s.sessionIdx)[idx]? with
      | none =>
          simp only [hrow, Option.some.injEq] at hs
          exact hs ▸ h.streamed le rfl (fun _ => by rw [hpc]; rfl) trivial
      | some row =>
          simp only [hrow, Option.some.injEq] at hs
          subst hs
          have hts : ({ s with
              stream := .shifted f (shiftStamp row s.offset)
              log := s.log ++ [.stamped f (shiftStamp row s.offset)] } : Replay).timestamps =
              s.timestamps := (timestamps_concat _ _ _).trans (List.append_nil _)
          exact h.streamed le hts (fun h => by cases h)
            ((h.stamp hcfg hpc hrow).transfer hts refl id)
  | excess f =>
      simp only [Replay.streamStep, hpc, Option.some.injEq] at hs
      subst hs
      split
      · next hf => exact h.streamed le rfl (fun _ => by rw [hpc]; rfl) hf
      · exact h.streamed le rfl (fun _ => by rw [hpc]; rfl) trivial
  | failing f =>
      simp only [Replay.streamStep, hpc, Option.some.injEq] at hs
      exact hs ▸ h.streamed le ((timestamps_concat _ _ _).trans (List.append_nil _))
        (fun _ => by rw [hpc]; rfl) rfl
  | finishing f windowEnd =>
      rw [hpc] at hok
      simp only [Replay.streamStep, hpc, Option.some.injEq] at hs
      subst hs
      have hts : ({ s with
          finished := true
          stream := .marking f s.gen windowEnd
          log := s.log ++ [.finished f.cycle s.cycle] } : Replay).timestamps = s.timestamps :=
        (timestamps_concat _ _ _).trans (List.append_nil _)
      cases windowEnd with
      | none => exact h.streamed le hts (fun _ => by rw [hpc]; rfl) hok
      | some st => exact h.streamed le hts (fun h => by cases h) (StampOk.transfer hok hts refl id)
  | marking f gen windowEnd =>
      rw [hpc] at hok
      simp only [Replay.streamStep, hpc, Option.some.injEq] at hs
      subst hs
      cases windowEnd with
      | none => exact h.streamed le rfl (fun _ => by rw [hpc]; rfl) hok
      | some st => exact h.streamed le rfl (fun h => by cases h) hok
  | idling f gen windowEnd =>
      rw [hpc] at hok
      simp only [Replay.streamStep, hpc, Option.some.injEq] at hs
      subst hs
      cases windowEnd with
      | none => exact h.streamed le rfl (fun _ => by rw [hpc]; rfl) hok
      | some st => exact h.streamed le rfl (fun h => by cases h) hok
  | lastRow f =>
      rw [hpc] at hok
      simp only [Replay.streamStep, hpc] at hs
      split at hs
      · exact Option.some.inj hs ▸ h.streamed le rfl (fun _ => by rw [hpc]; rfl) hok
      · cases hs
  | excessOut f st =>
      rw [hpc] at hok
      simp only [Replay.streamStep, hpc, Option.some.injEq] at hs
      have hfailed : s.failed = true := hok
      exact hs ▸ h.deliver fun hf => by rw [hfailed] at hf; cases hf
  | shifted f st =>
      rw [hpc] at hok
      simp only [Replay.streamStep, hpc, Option.some.injEq] at hs
      subst hs
      split
      · exact h.streamed le rfl (fun h => by cases h) hok
      · split
        · exact h.streamed le rfl (fun h => by cases h) hok
        · exact h.streamed le rfl (fun h => by cases h) hok
  | pastEnd f st =>
      rw [hpc] at hok
      simp only [Replay.streamStep, hpc, Option.some.injEq] at hs
      subst hs
      split
      · exact h.streamed le rfl (fun h => by cases h) hok
      · exact h.streamed le rfl (fun h => by cases h) hok
  | inWindow f st =>
      rw [hpc] at hok
      simp only [Replay.streamStep, hpc, Option.some.injEq] at hs
      subst hs
      split
      · exact h.streamed le rfl (fun h => by cases h) hok
      · exact h.streamed le rfl (fun h => by cases h) hok
  | holding f st =>
      rw [hpc] at hok
      simp only [Replay.streamStep, hpc, Option.map_eq_some_iff] at hs
      obtain ⟨r, -, rfl⟩ := hs
      split
      · exact h.streamed le rfl (fun h => by cases h) hok
      · exact h.streamed le rfl (fun h => by cases h) hok
  | pacing f st =>
      rw [hpc] at hok
      simp only [Replay.streamStep, hpc, Option.some.injEq] at hs
      exact hs ▸ h.streamed le rfl (fun h => by cases h) hok
  | holdingAgain f st =>
      rw [hpc] at hok
      simp only [Replay.streamStep, hpc, Option.map_eq_some_iff] at hs
      obtain ⟨r, -, rfl⟩ := hs
      exact h.streamed le rfl (fun h => by cases h) hok
  | stamped f st =>
      rw [hpc] at hok
      simp only [Replay.streamStep, hpc, Option.some.injEq] at hs
      exact hs ▸ h.deliver fun _ => hok

/-! ## The main loop -/

/-- A statement of a restart before the counter is reset: no frame is without its
row, so nothing of what the streaming thread holds is read again. -/
theorem OrderInv.restarting {cfg : ReplayConfig} {s s' : Replay} (hinv : RestartInv s)
    (h : OrderInv cfg s) (hmain : s.main.stale = true)
    (hnull : ∀ session restart, s.main ≠ .nulling session restart)
    (hoffset : s'.offset = cfg.offsetOf s'.cycle) (hsession : s'.sessionIdx = s.sessionIdx)
    (hloop : LoopOk cfg s' s'.main) (hstream : s'.stream = s.stream)
    (hts : s'.timestamps = s.timestamps) (hfloor : (s.floor cfg).Le (s'.floor cfg)) :
    OrderInv cfg s' := by
  have hstop := hinv.stopEvt_eq_false hnull
  have hstamped := h.fresh hmain hstop
  exact h.moved hoffset (hsession ▸ h.session) hloop hstream hts hfloor (fun _ => hstop)
    (fun _ _ => hstamped) (fun hun => by rw [hstamped] at hun; cases hun)

/-- An idle main loop, and one that only starts something. -/
theorem OrderInv.idle {cfg : ReplayConfig} {s : Replay} (h : OrderInv cfg s)
    (hpc : s.main.stale = false) {playback : PlaybackState} {finished failed paused : Bool}
    {idles : List Nat} {bus : List EosMessage} {main : LoopPc} {log : List ReplayEvent}
    (hmain : main.stale = false)
    (hloop : LoopOk cfg { s with playback, finished, failed, idles, bus, main, log } main)
    (hfailed : s.failed = true → failed = true)
    (hts : ({ s with playback, finished, failed, idles, bus, main, log } : Replay).timestamps =
      s.timestamps) :
    OrderInv cfg { s with
      playback, finished, failed, idles, bus, main, log
      reader := { s.reader with paused := paused } } := by
  have hfloor : (s.floor cfg).Le (Replay.floor cfg { s with
      playback, finished, failed, idles, bus, main, log
      reader := { s.reader with paused := paused } }) := by
    rw [Replay.floor, Replay.floor, hpc, hmain]
    exact ReplayFrame.le_refl _
  have hloop' : LoopOk cfg { s with
      playback, finished, failed, idles, bus, main, log
      reader := { s.reader with paused := paused } } main := by
    cases main with
    | halting session restart | nulling session restart =>
        cases restart with
        | false => exact hloop
        | true => exact hloop
    | _ => exact hloop
  exact h.moved h.offset h.session hloop' rfl hts hfloor id
    (fun hs => by rw [hmain] at hs; cases hs) (fun _ => ⟨rfl, rfl, rfl, hfailed⟩)

theorem single_sessionIdx {cfg : ReplayConfig} {s : Replay} (h : s.single cfg)
    (hsession : s.sessionIdx < cfg.sessionStamps.length) : s.sessionIdx = cfg.firstIdx := by
  rcases h with hone | heq
  · have hfirst := cfg.firstIdx_lt
    omega
  · exact heq

/-- **A step of the main loop** keeps the invariant, if no frame is without its row
when a cycle begins. -/
theorem orderInv_mainStep {cfg : ReplayConfig} {s s' : Replay} (hinv : RestartInv s)
    (h : OrderInv cfg s) (hc : InStep s .main) (hs : s.mainStep cfg = some s') :
    OrderInv cfg s' := by
  have hloop := h.loop
  cases hpc : s.main with
  | idle => simp [Replay.mainStep, hpc] at hs
  | requested =>
      have hstale : s.main.stale = false := by rw [hpc]; rfl
      simp only [Replay.mainStep, hpc, Option.some.injEq] at hs
      exact hs ▸ h.idle hstale rfl trivial id rfl
  | entered r =>
      have hstamped := hc (by rw [hpc]; rfl)
      simp only [Replay.mainStep, hpc, Option.some.injEq] at hs
      subst hs
      refine h.moved rfl h.session trivial rfl rfl ?_ id (fun _ _ => hstamped)
        fun hun => by rw [hstamped] at hun; cases hun
      rw [Replay.floor, hpc]
      exact .inl (Nat.lt_succ_self s.cycle)
  | begun r | taken r | unfinished r =>
      simp only [Replay.mainStep, hpc, Option.some.injEq] at hs
      subst hs
      refine OrderInv.restarting hinv h (by rw [hpc]; rfl) (by simp [hpc]) h.offset rfl
        trivial rfl rfl ?_
      rw [Replay.floor, hpc]
      exact ReplayFrame.le_refl _
  | ready r =>
      simp only [Replay.mainStep, hpc] at hs
      split at hs
      · next hseek =>
          obtain rfl := Option.some.inj hs
          have hsession := single_sessionIdx hseek.1 h.session
          refine OrderInv.restarting hinv h (by rw [hpc]; rfl) (by simp [hpc]) h.offset rfl
            hsession rfl rfl ?_
          rw [Replay.floor, hpc]
          exact .inr ⟨rfl, .inr ⟨hsession.symm, Nat.le_refl _⟩⟩
      · obtain rfl := Option.some.inj hs
        refine OrderInv.restarting hinv h (by rw [hpc]; rfl) (by simp [hpc]) h.offset rfl
          rfl rfl rfl ?_
        rw [Replay.floor, hpc]
        exact ReplayFrame.le_refl _
  | seeking r =>
      cases hst : s.stream with
      | outside =>
          simp only [Replay.mainStep, hpc, hst, Option.some.injEq] at hs
          subst hs
          refine h.moved h.offset h.session trivial hst.symm rfl ?_ id (fun h => by cases h)
            fun hun => by rw [hst] at hun; cases hun
          rw [Replay.floor, hpc]
          exact ReplayFrame.le_refl _
      | _ => simp [Replay.mainStep, hpc, hst] at hs
  | halting session restart =>
      rw [hpc] at hloop
      simp only [Replay.mainStep, hpc, Option.some.injEq] at hs
      subst hs
      refine h.moved h.offset h.session ?_ rfl rfl ?_ (by simp) (by simp)
        fun _ => ⟨rfl, rfl, rfl, id⟩
      · cases restart with
        | false => exact hloop
        | true => exact hloop
      · rw [Replay.floor, hpc]
        exact ReplayFrame.le_refl _
  | nulling session restart =>
      rw [hpc] at hloop
      cases hst : s.stream with
      | outside =>
          simp only [Replay.mainStep, hpc, hst, Option.some.injEq] at hs
          subst hs
          have hsession : session < cfg.sessionStamps.length := by
            cases restart with
            | false => exact hloop.2
            | true =>
                have hfirst : session = cfg.firstIdx := hloop
                exact hfirst ▸ cfg.firstIdx_lt
          exact
            { offset := h.offset
              session := hsession
              loop := trivial
              fresh := (fun h => by cases h)
              sorted := h.sorted
              below := fun t ht => (h.below t ht).mono (by
                rw [Replay.floor, hpc]
                cases restart with
                | false => exact .inr ⟨rfl, .inl hloop.1⟩
                | true => exact .inr ⟨rfl, .inr ⟨Eq.symm hloop, Nat.le_refl _⟩⟩)
              flight := trivial }
      | _ => simp [Replay.mainStep, hpc, hst] at hs

/-- An EOS delivers nothing and begins no cycle itself. -/
theorem orderInv_onEos {cfg : ReplayConfig} {s : Replay} (h : OrderInv cfg s)
    (hpc : s.main = .idle) (m : EosMessage) (bus : List EosMessage) :
    OrderInv cfg (Replay.onEos cfg { s with bus := bus } m) := by
  have hstale : s.main.stale = false := by rw [hpc]; rfl
  have hmain : LoopOk cfg s s.main := by rw [hpc]; trivial
  have silent : ∀ e : ReplayEvent, (∀ f st, e ≠ .delivered f st) →
      ({ s with log := s.log ++ [e] } : Replay).timestamps = s.timestamps := by
    intro e he
    rw [timestamps_concat]
    cases e with
    | delivered f st => exact absurd rfl (he f st)
    | _ => exact List.append_nil _
  unfold Replay.onEos
  split
  · exact h.idle hstale hstale (by rw [hpc]; trivial) id rfl
  · split
    · refine h.idle hstale hstale (by rw [hpc]; trivial) (fun _ => rfl) ?_
      show ({ s with log := s.log ++ [_] ++ [_] } : Replay).timestamps = _
      rw [timestamps_concat, timestamps_concat]
      exact (List.append_nil _).trans (List.append_nil _)
    · split
      · next next hnext =>
          refine h.idle hstale rfl ?_ id (silent _ nofun)
          unfold Replay.nextSession at hnext
          split at hnext
          · next first rest hrows =>
              split at hnext
              · obtain rfl := Option.some.inj hnext
                exact ⟨Nat.lt_succ_self _, (List.getElem?_eq_some_iff.mp hrows).1⟩
              · cases hnext
          · cases hnext
      · split
        · exact h.idle hstale hstale (by rw [hpc]; trivial) id (silent _ nofun)
        · exact h.idle hstale rfl trivial id rfl

/-- **Step lemma**: every step keeps the invariant, as long as rows and offsets move
together. -/
theorem orderInv_step {cfg : ReplayConfig} (hcfg : cfg.Increasing) (s : Replay) (l : ReplayStep)
    (s' : Replay) (hinv : RestartInv s) (h : OrderInv cfg s) (hc : InStep s l)
    (hs : Replay.step cfg s l = some s') : OrderInv cfg s' := by
  have idle : ∀ playback, s.main = .idle → OrderInv cfg { s with playback := playback } :=
    fun playback hpc => h.idle (by rw [hpc]; rfl) (by rw [hpc]; rfl) (by rw [hpc]; trivial) id rfl
  cases l with
  | newSample =>
      simp only [Replay.step] at hs
      split at hs
      · obtain rfl := Option.some.inj hs
        refine
          { offset := h.offset
            session := h.session
            loop := h.loop
            fresh := fun hstale hstop => ?_
            sorted := h.sorted
            below := h.below
            flight := trivial }
        have hstop' : s.stopEvt = true := hc hstale
        rw [show s.stopEvt = false from hstop] at hstop'
        cases hstop'
      · cases hs
  | stream => exact orderInv_streamStep hcfg h hs
  | postEos =>
      simp only [Replay.step] at hs
      split at hs
      · obtain rfl := Option.some.inj hs
        exact h.moved h.offset h.session h.loop rfl rfl (ReplayFrame.le_refl _) id h.fresh
          fun _ => ⟨rfl, rfl, rfl, id⟩
      · cases hs
  | pause | resume | setLoop loop =>
      obtain ⟨hpc, rfl⟩ := Replay.whenIdle_eq_some hs
      exact idle _ hpc
  | requestRestart =>
      obtain ⟨hpc, rfl⟩ := Replay.whenIdle_eq_some hs
      exact h.idle (by rw [hpc]; rfl) rfl trivial id rfl
  | main => exact orderInv_mainStep hinv h hc hs
  | seekFails =>
      simp only [Replay.step] at hs
      split at hs
      · next r hpc hst =>
          obtain rfl := Option.some.inj hs
          have hloop := h.loop
          rw [hpc] at hloop
          have hidx : s.idx = 0 := hc
          refine h.moved h.offset h.session rfl rfl rfl ?_ id (fun _ _ => by rw [hst]; rfl)
            fun hun => by rw [hst] at hun; cases hun
          rw [Replay.floor, hpc]
          exact .inr ⟨rfl, .inr ⟨hloop, Nat.le_of_eq hidx⟩⟩
      · cases hs
  | dispatch =>
      simp only [Replay.step] at hs
      split at hs
      · obtain ⟨hpc, rfl⟩ := Replay.whenIdle_eq_some hs
        exact orderInv_onEos h hpc _ _
      · cases hs
  | quiesce =>
      simp only [Replay.step] at hs
      split at hs
      · obtain ⟨hpc, rfl⟩ := Replay.whenIdle_eq_some hs
        exact h.idle (by rw [hpc]; rfl) (by rw [hpc]; rfl) (by rw [hpc]; trivial) id rfl
      · cases hs
  | gate | gateResume =>
      simp only [Replay.step] at hs
      split at hs
      · obtain rfl := Option.some.inj hs
        exact h.moved h.offset h.session h.loop rfl rfl (ReplayFrame.le_refl _) id h.fresh
          fun _ => ⟨rfl, rfl, rfl, id⟩
      · cases hs

/-! ## Runs -/

/-- **Replay**: where rows and offsets move together, the timestamps strictly
increase. -/
theorem replay_timestamps_increase {cfg : ReplayConfig} (hcfg : cfg.Increasing)
    (playback : PlaybackState) (steps : List ReplayStep) (s : Replay)
    (hc : Machine.Along (Replay.step cfg) InStep (Replay.init cfg playback) steps)
    (h : Machine.exec (Replay.step cfg) (Replay.init cfg playback) steps = some s) :
    s.timestamps.Pairwise (· < ·) := by
  have hstep : ∀ s l s', RestartInv s ∧ OrderInv cfg s → InStep s l →
      Replay.step cfg s l = some s' → RestartInv s' ∧ OrderInv cfg s' :=
    fun s l s' hs hc h => ⟨restartInv_step cfg s l s' hs.1 h,
      orderInv_step hcfg s l s' hs.1 hs.2 hc h⟩
  exact (Machine.exec_inv_along hstep
    ⟨restartInv_init cfg playback, orderInv_init cfg playback⟩ hc h).2.sorted

/-! ## Both sources -/

/-- **Playback timestamps strictly increase**, across loop wraps and restarts, for
both sources, as long as a pcap's passes stay within the span and a replay's rows
and offsets move together. -/
theorem playback_timestamps_increase (playback : PlaybackState) :
    (∀ (cfg : PcapConfig), cfg.Increasing → ∀ (steps : List FeedStep) (s : PcapFeed),
        Machine.Along (PcapFeed.step cfg) (WithinSpan cfg) (PcapFeed.init playback) steps →
        Machine.exec (PcapFeed.step cfg) (PcapFeed.init playback) steps = some s →
          s.timestamps.Pairwise (· < ·)) ∧
    (∀ (cfg : ReplayConfig), cfg.Increasing → ∀ (steps : List ReplayStep) (s : Replay),
        Machine.Along (Replay.step cfg) InStep (Replay.init cfg playback) steps →
        Machine.exec (Replay.step cfg) (Replay.init cfg playback) steps = some s →
          s.timestamps.Pairwise (· < ·)) :=
  ⟨fun _ hcfg => pcap_timestamps_increase hcfg playback,
    fun _ hcfg => replay_timestamps_increase hcfg playback⟩

/-- A restart between the two frames' rows: the second frame has read the row
counter when the offset moves on, and takes its row under the new offset. -/
def staleRow : List ReplayStep :=
  playFrame ++ .newSample :: List.replicate 3 .stream ++ [.requestRestart, .main, .main] ++
    List.replicate 7 .stream ++ List.replicate 5 .main ++ playFrame

/-- A late restart of a pcap, and a loop wrap and a restart of a replay. -/
theorem playback_timestamps_increase_runs :
    (∃ s, Machine.exec (PcapFeed.step threeShots) (PcapFeed.init (.boot false true false))
        lateRestart = some s ∧ s.timestamps = [10, 20, 30, 40, 70, 80, 90, 100] ∧
      s.timestamps.Pairwise (· < ·)) ∧
    ∃ s, Machine.exec (Replay.step twoFrames) (Replay.init twoFrames (.boot false true false))
        quietRestarts = some s ∧ s.timestamps = [10, 20, 30, 50] ∧
      s.timestamps.Pairwise (· < ·) := by
  have hpcap : (Machine.exec (PcapFeed.step threeShots) (PcapFeed.init (.boot false true false))
      lateRestart).map PcapFeed.timestamps = some [10, 20, 30, 40, 70, 80, 90, 100] := by
    decide +kernel
  obtain ⟨s, hs, hts⟩ := Option.map_eq_some_iff.mp hpcap
  constructor
  · exact ⟨s, hs, hts, (playback_timestamps_increase (.boot false true false)).1 threeShots
      increasing_threeShots lateRestart s (by decide +kernel) hs⟩
  · exact ⟨_, rfl, by decide, (playback_timestamps_increase (.boot false true false)).2 twoFrames
      (by decide) quietRestarts _ (by decide) rfl⟩

/-- The short span of an early restart lets a pcap's next pass repeat a timestamp,
and a replay's stale row puts a frame behind the one before it. -/
theorem not_playback_timestamps_increase :
    (¬ ∀ (cfg : PcapConfig), cfg.Increasing →
      ∀ (playback : PlaybackState) (steps : List FeedStep) (s : PcapFeed),
        Machine.exec (PcapFeed.step cfg) (PcapFeed.init playback) steps = some s →
          s.timestamps.Pairwise (· < ·)) ∧
    ¬ ∀ (cfg : ReplayConfig), cfg.Increasing →
      ∀ (playback : PlaybackState) (steps : List ReplayStep) (s : Replay),
        Machine.exec (Replay.step cfg) (Replay.init cfg playback) steps = some s →
          s.timestamps.Pairwise (· < ·) := by
  constructor
  · intro h
    have hrun : (Machine.exec (PcapFeed.step threeShots) (PcapFeed.init (.boot false true false))
        earlyRestart).map PcapFeed.timestamps = some [10, 30, 40, 50, 50] := by
      decide +kernel
    obtain ⟨s, hs, hts⟩ := Option.map_eq_some_iff.mp hrun
    have hsorted := h threeShots increasing_threeShots (.boot false true false) earlyRestart s hs
    rw [hts] at hsorted
    exact absurd hsorted (by decide)
  · intro h
    have hsorted := h twoFrames (by decide) (.boot false true false) staleRow _ rfl
    exact absurd hsorted (by decide)

end CamDriver
