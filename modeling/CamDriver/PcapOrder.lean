import CamDriver.PcapFeed
import CamDriver.Uvc.CaptureSound

/-!
# CamDriver.PcapOrder

The timestamps a pcap source delivers.

Every pass is shifted past the one before it by the span, which the first pass
measures.  A restart in that pass cuts the measurement short: a later pass that
goes on further than it did runs into the pass after it.
-/

namespace CamDriver

/-! ## The recording -/

/-- The timestamp of frame `k` of a pass. -/
def PcapConfig.ts (cfg : PcapConfig) (k : Nat) : Int := (cfg.frames[k]?.map Prod.fst).getD 0

/-- A recording whose own timestamps increase: the packets never step back, and
no two frames of a pass share a timestamp. -/
structure PcapConfig.Increasing (cfg : PcapConfig) : Prop where
  packets : cfg.capture.1.Pairwise fun p q => p.ts ≤ q.ts
  frames : cfg.frames.Pairwise fun f g => f.1 < g.1

theorem PcapConfig.ts_eq {cfg : PcapConfig} {k : Nat} {f : Uvc.UvcFrame}
    (h : cfg.frames[k]? = some f) : cfg.ts k = f.1 := by
  simp [ts, h]

theorem PcapConfig.Increasing.ts_lt {cfg : PcapConfig} (h : cfg.Increasing) {i j : Nat}
    (hij : i < j) (hj : j < cfg.frames.length) : cfg.ts i < cfg.ts j := by
  have hi : i < cfg.frames.length := hij.trans hj
  rw [PcapConfig.ts_eq (List.getElem?_eq_getElem hi),
    PcapConfig.ts_eq (List.getElem?_eq_getElem hj)]
  exact List.pairwise_iff_getElem.mp h.frames i j hi hj hij

/-- A nanosecond at least lies between two frames. -/
theorem PcapConfig.Increasing.le_ts {cfg : PcapConfig} (h : cfg.Increasing) {k : Nat}
    (hk : k < cfg.frames.length) : cfg.ts 0 + k ≤ cfg.ts k := by
  induction k with
  | zero => simp
  | succ k ih =>
      have hstep := h.ts_lt (Nat.lt_add_one k) hk
      have hprev := ih (by omega)
      push_cast
      omega

/-! ## A pass under way -/

/-- The frames an extractor still yields. -/
def framesFrom (cfg : PcapConfig) (x : Uvc.Extractor) (ps : List Packet) : List Uvc.UvcFrame :=
  (Machine.history (Uvc.Extractor.step cfg.pin cfg.uvc) x ps).flatMap Prod.snd

theorem framesFrom_cons (cfg : PcapConfig) (x : Uvc.Extractor) (p : Packet) (ps : List Packet) :
    framesFrom cfg x (p :: ps) =
      (x.step cfg.pin cfg.uvc p).2 ++ framesFrom cfg (x.step cfg.pin cfg.uvc p).1 ps := by
  simp [framesFrom, Machine.history]

/-- What the extractor has yielded, is about to yield, and will yield. -/
structure Reading (cfg : PcapConfig) (s : PcapFeed) : Prop where
  frames : ∃ taken, taken.length = s.idx ∧
    cfg.frames = taken ++ s.out ++ framesFrom cfg s.ext s.rest
  framesOk : s.ext.asm.stats.framesOk = s.idx + s.out.length
  timed : s.ext.Timed
  sorted : s.rest.Pairwise fun p q => p.ts ≤ q.ts
  ahead : ∀ last ∈ s.ext.walk.lastTs, ∀ p ∈ s.rest, last ≤ p.ts
  within : ∀ k < s.ext.asm.stats.framesOk, s.ext.walk.Within (cfg.ts k)

namespace Reading

variable {cfg : PcapConfig} {s : PcapFeed}

/-- Everything read so far is part of the recording. -/
theorem framesOk_le (h : Reading cfg s) : s.ext.asm.stats.framesOk ≤ cfg.frames.length := by
  obtain ⟨taken, hlen, heq⟩ := h.frames
  rw [h.framesOk, heq]
  simp only [List.length_append]
  omega

theorem idx_le (h : Reading cfg s) : s.idx ≤ s.ext.asm.stats.framesOk := by
  rw [h.framesOk]
  omega

theorem reset (hpackets : cfg.capture.1.Pairwise fun p q => p.ts ≤ q.ts)
    (hext : s.ext = .reset) (hrest : s.rest = cfg.capture.1) (hout : s.out = [])
    (hidx : s.idx = 0) : Reading cfg s where
  frames := ⟨[], by simp [hidx], by simp [hext, hrest, hout, framesFrom]; rfl⟩
  framesOk := by rw [hext, hout, hidx]; rfl
  timed := hext ▸ Uvc.Extractor.timed_reset
  sorted := hrest ▸ hpackets
  ahead := by rw [hext]; nofun
  within k hk := by rw [hext] at hk; cases hk

/-- The next frame is the recording's. -/
theorem pulled (h : Reading cfg s) {frame : Uvc.UvcFrame} {out : List Uvc.UvcFrame}
    (hout : s.out = frame :: out) : cfg.frames[s.idx]? = some frame := by
  obtain ⟨taken, hlen, heq⟩ := h.frames
  rw [heq, hout, ← hlen]
  simp

/-- A frame is taken from the extractor. -/
theorem pull (h : Reading cfg s) {frame : Uvc.UvcFrame} {out : List Uvc.UvcFrame}
    (hout : s.out = frame :: out) {pc : FeedPc} :
    Reading cfg { s with out := out, idx := s.idx + 1, pc := pc } where
  frames := by
    obtain ⟨taken, hlen, heq⟩ := h.frames
    exact ⟨taken ++ [frame], by simp [hlen], by rw [heq, hout]; simp⟩
  framesOk := by
    have := h.framesOk
    rw [hout, List.length_cons] at this
    show s.ext.asm.stats.framesOk = s.idx + 1 + out.length
    omega
  timed := h.timed
  sorted := h.sorted
  ahead := h.ahead
  within := h.within

/-- The extractor reads a packet. -/
theorem read (h : Reading cfg s) {p : Packet} {rest : List Packet} (hout : s.out = [])
    (hrest : s.rest = p :: rest) :
    Reading cfg { s with
      ext := (s.ext.step cfg.pin cfg.uvc p).1
      out := (s.ext.step cfg.pin cfg.uvc p).2
      rest := rest } := by
  have hsorted := h.sorted
  rw [hrest] at hsorted
  obtain ⟨hp, hrestSorted⟩ := List.pairwise_cons.mp hsorted
  obtain ⟨hadv, htimed, hnew⟩ := Uvc.Extractor.step_timed cfg.pin cfg.uvc h.timed
    fun last hl => h.ahead last hl p (by rw [hrest]; exact List.mem_cons_self)
  obtain ⟨taken, hlen, heq⟩ := h.frames
  rw [hout, hrest, framesFrom_cons, List.append_nil, ← List.append_assoc] at heq
  have hcount : s.ext.asm.stats.framesOk = s.idx := by
    rw [h.framesOk, hout]
    rfl
  have hcount' := Uvc.framesOk_step cfg.pin cfg.uvc s.ext p
  refine
    { frames := ⟨taken, hlen, heq⟩
      framesOk := by
        show (s.ext.step cfg.pin cfg.uvc p).1.asm.stats.framesOk = _
        rw [hcount', hcount]
      timed := htimed
      sorted := hrestSorted
      ahead := fun last hl q hq => ?_
      within := fun k hk => ?_ }
  · rcases hadv.last last hl with rfl | hl
    · exact hp q hq
    · exact h.ahead last hl q (by rw [hrest]; exact List.mem_cons_of_mem _ hq)
  · rcases Nat.lt_or_ge k s.ext.asm.stats.framesOk with hold | hnewk
    · exact hadv.within _ (h.within k hold)
    · -- a frame that this packet has ended
      have hk' : k < (s.ext.step cfg.pin cfg.uvc p).1.asm.stats.framesOk := hk
      have hlt : k - s.idx < (s.ext.step cfg.pin cfg.uvc p).2.length := by omega
      have hget : cfg.frames[k]? = some ((s.ext.step cfg.pin cfg.uvc p).2[k - s.idx]) := by
        rw [heq, List.append_assoc, List.getElem?_append_right (by omega), hlen,
          List.getElem?_append_left hlt, List.getElem?_eq_getElem hlt]
      rw [PcapConfig.ts_eq hget]
      exact hnew _ (List.getElem_mem hlt)

theorem same {s' : PcapFeed} (h : Reading cfg s) (hidx : s'.idx = s.idx) (hext : s'.ext = s.ext)
    (hrest : s'.rest = s.rest) (hout : s'.out = s.out) : Reading cfg s' where
  frames := by rw [hidx, hext, hrest, hout]; exact h.frames
  framesOk := by rw [hidx, hext, hout]; exact h.framesOk
  timed := by rw [hext]; exact h.timed
  sorted := by rw [hrest]; exact h.sorted
  ahead := by rw [hext, hrest]; exact h.ahead
  within := by rw [hext]; exact h.within

/-- At the end of the capture everything has been read. -/
theorem ended (h : Reading cfg s) (hout : s.out = []) : s.ext.asm.stats.framesOk = s.idx := by
  rw [h.framesOk, hout]
  rfl

end Reading

/-! ## The measured span -/

/-- The span reaches beyond every frame that was read for it. -/
theorem ts_lt_measureSpan {cfg : PcapConfig} (hcfg : cfg.Increasing) {s : PcapFeed}
    (h : Reading cfg s) {k : Nat} (hk : k < s.ext.asm.stats.framesOk) :
    cfg.ts k - cfg.ts 0 < measureSpan s.ext := by
  generalize hm : s.ext.asm.stats.framesOk = m at hk
  have hlen : m ≤ cfg.frames.length := hm ▸ h.framesOk_le
  obtain ⟨first, hf, last, hl, hfirst, -⟩ := h.within 0 (by omega)
  obtain ⟨first', hf', last', hl', -, hlast⟩ := h.within (m - 1) (by omega)
  rw [Option.mem_def] at hf hl hf' hl'
  obtain rfl : last' = last := Option.some.inj (hl'.symm.trans hl)
  have hspread : cfg.ts 0 + (m - 1 : Nat) ≤ cfg.ts (m - 1) := hcfg.le_ts (by omega)
  have hk' : cfg.ts k ≤ cfg.ts (m - 1) := by
    rcases Nat.lt_or_ge k (m - 1) with hlt | hge
    · exact Int.le_of_lt (hcfg.ts_lt hlt (by omega))
    · rw [show k = m - 1 by omega]
  simp only [measureSpan, hf, hl, hm, Option.getD_some]
  split
  · next hone =>
      have hinterval : 1 ≤ (last' - first) / max 1 ((m : Int) - 1) := by
        rw [Int.max_eq_right (by omega)]
        exact Int.le_ediv_of_mul_le (by omega) (by omega)
      omega
  · have hpos : 0 < defaultIntervalNs := by decide
    omega

/-! ## When a span is long enough -/

/-- A pass that another one follows has delivered no frame beyond those the span
was measured from; the time zero of a relative capture is no measurement; and
where the wall clock found the offset zero, it has moved on since. -/
def WithinSpan (cfg : PcapConfig) (s : PcapFeed) : FeedStep → Prop
  | .feed now =>
    match s.pc with
    | .passed restarted =>
      (restarted = true ∨ s.playback.loop = true) →
        if s.span = 0 then s.ext.walk.lastTs = some 0 → s.log = []
        else s.delivered ≤ s.measured
    | .stamping _ _ =>
      cfg.wall = true ∧ s.retimeOffset = 0 ∧ s.cycle = 0 →
        ∀ e ∈ s.log.getLast?, e.1.timestampNs < now
    | _ => True
  | _ => True

instance (cfg : PcapConfig) (s : PcapFeed) : (l : FeedStep) → Decidable (WithinSpan cfg s l)
  | .feed now =>
    match h : s.pc with
    | .passed restarted =>
      decidable_of_iff ((restarted = true ∨ s.playback.loop = true) →
        if s.span = 0 then s.ext.walk.lastTs = some 0 → s.log = []
        else s.delivered ≤ s.measured) (by simp only [WithinSpan, h])
    | .stamping _ _ =>
      decidable_of_iff (cfg.wall = true ∧ s.retimeOffset = 0 ∧ s.cycle = 0 →
        ∀ e ∈ s.log.getLast?, e.1.timestampNs < now) (by simp only [WithinSpan, h])
    | .starting | .pulling | .stamped _ _ | .holding _ _ | .polling _ _ | .pacing _ _
    | .holdingAgain _ _ | .delivering _ _ | .closing | .done =>
      isTrue (by simp only [WithinSpan, h])
  | .pause | .resume | .setLoop _ | .requestRestart | .gate | .gateResume | .miniError | .stop =>
    isTrue trivial

/-! ## The invariant -/

/-- The frames a pass yields are shifted by this. -/
def PcapFeed.base (s : PcapFeed) : Int := s.retimeOffset + s.offset

/-- Everything delivered lies before `t`. -/
def PcapFeed.Before (s : PcapFeed) (t : Int) : Prop := ∀ e ∈ s.log, e.1.timestampNs < t

/-- Everything delivered lies before frame `k` of the pass, and no later than the
frame before it. -/
def Reach (cfg : PcapConfig) (s : PcapFeed) : Nat → Prop
  | 0 => s.Before (cfg.ts 0 + s.base)
  | k + 1 => ∀ e ∈ s.log, e.1.timestampNs ≤ cfg.ts k + s.base

/-- Frame `k` has been taken from the extractor and not been delivered. -/
structure InHand (cfg : PcapConfig) (s : PcapFeed) (k : Nat) : Prop where
  idx : s.idx = k + 1
  delivered : s.delivered = k
  before : s.Before (cfg.ts k + s.base)
  reach : s.span ≠ 0 → Reach cfg s k

/-- What holds where the feeder is. -/
def FeedOk (cfg : PcapConfig) (s : PcapFeed) : FeedPc → Prop
  | .starting => s.Before (cfg.ts 0 + s.base)
  | .pulling => Reading cfg s ∧ s.delivered = s.idx ∧ Reach cfg s s.idx
  | .stamping k frame =>
    Reading cfg s ∧ cfg.frames[k]? = some frame ∧ s.idx = k + 1 ∧ s.delivered = k ∧ Reach cfg s k
  | .stamped st _ | .holding st _ | .polling st _ | .pacing st _ | .holdingAgain st _
  | .delivering st _ =>
    Reading cfg s ∧ ∃ k, InHand cfg s k ∧ st.timestampNs = cfg.ts k + s.base
  | .passed true => Reading cfg s ∧ ∃ k, InHand cfg s k
  | .passed false =>
    Reading cfg s ∧ s.ext.asm.stats.framesOk = s.idx ∧ s.idx ≠ 0 ∧ s.delivered = s.idx ∧
      Reach cfg s s.idx
  | .closing | .done => True

/-- The shift of the current pass, and how far the span reaches. -/
structure Shifts (cfg : PcapConfig) (s : PcapFeed) : Prop where
  offset : s.offset = s.cycle * s.span
  first : s.cycle = 0 → s.span = 0
  nonneg : 0 ≤ s.span
  span : s.span ≠ 0 → ∀ k < s.measured, cfg.ts k - cfg.ts 0 < s.span

/-- There is no pass any more. -/
def FeedPc.final : FeedPc → Bool
  | .closing | .done => true
  | _ => false

/-- The invariant of a run whose passes stay within the span. -/
structure FeedInv (cfg : PcapConfig) (s : PcapFeed) : Prop where
  sorted : (s.log.map fun e => e.1.timestampNs).Pairwise (· < ·)
  shifts : s.pc.final = false → Shifts cfg s
  pc : FeedOk cfg s s.pc

theorem feedInv_init (cfg : PcapConfig) (playback : PlaybackState) :
    FeedInv cfg (PcapFeed.init playback) where
  sorted := List.Pairwise.nil
  shifts _ := ⟨rfl, fun _ => rfl, Int.le_refl 0, fun h => absurd rfl h⟩
  pc := nofun

/-- The next frame comes after everything that was delivered. -/
theorem Reach.before {cfg : PcapConfig} (hcfg : cfg.Increasing) {s : PcapFeed} {k : Nat}
    (h : Reach cfg s k) (hk : k < cfg.frames.length) : s.Before (cfg.ts k + s.base) := by
  cases k with
  | zero => exact h
  | succ k =>
      intro e he
      have hle := h e he
      have hlt := hcfg.ts_lt (Nat.lt_add_one k) hk
      omega

/-- A step that changes neither the cycle, the span nor the log. -/
theorem FeedInv.moved {cfg : PcapConfig} {s s' : PcapFeed} (h : FeedInv cfg s)
    (hcycle : s'.cycle = s.cycle) (hoffset : s'.offset = s.offset) (hspan : s'.span = s.span)
    (hmeasured : s'.measured = s.measured) (hlog : s'.log = s.log)
    (hfinal : s'.pc.final = false → s.pc.final = false) (hpc : FeedOk cfg s' s'.pc) :
    FeedInv cfg s' where
  sorted := by rw [hlog]; exact h.sorted
  shifts hf := by
    obtain ⟨h₁, h₂, h₃, h₄⟩ := h.shifts (hfinal hf)
    exact ⟨by rw [hoffset, hcycle, hspan]; exact h₁, by rw [hcycle, hspan]; exact h₂,
      by rw [hspan]; exact h₃, by rw [hspan, hmeasured]; exact h₄⟩
  pc := hpc

/-- The feeder gives up. -/
theorem feedInv_of_closing {cfg : PcapConfig} {s : PcapFeed} (hpc : s.pc = .closing)
    (hsorted : (s.log.map fun e => e.1.timestampNs).Pairwise (· < ·)) : FeedInv cfg s where
  sorted := hsorted
  shifts hf := by rw [hpc] at hf; cases hf
  pc := by rw [hpc]; trivial

/-- A step of the holds keeps the frame in hand. -/
theorem InHand.same {cfg : PcapConfig} {s : PcapFeed} {k : Nat} (h : InHand cfg s k)
    {playback : PlaybackState} {pc : FeedPc} : InHand cfg { s with playback, pc } k where
  idx := h.idx
  delivered := h.delivered
  before := h.before
  reach := h.reach

/-- A requested restart or an end of the process is no concern of the pass. -/
theorem FeedOk.same {cfg : PcapConfig} {s : PcapFeed} {pc : FeedPc} (h : FeedOk cfg s pc)
    {failed stopEvt : Bool} {playback : PlaybackState} :
    FeedOk cfg { s with failed, stopEvt, playback } pc := by
  have hand : ∀ {k}, InHand cfg s k → InHand cfg { s with failed, stopEvt, playback } k :=
    fun h => ⟨h.idx, h.delivered, h.before, h.reach⟩
  cases pc with
  | starting => exact h
  | pulling => exact ⟨h.1.same rfl rfl rfl rfl, h.2⟩
  | stamping k frame => exact ⟨h.1.same rfl rfl rfl rfl, h.2⟩
  | stamped st bytes | holding st bytes | polling st bytes | pacing st bytes
  | holdingAgain st bytes | delivering st bytes =>
      obtain ⟨hread, k, hk, hst⟩ := h
      exact ⟨hread.same rfl rfl rfl rfl, k, hand hk, hst⟩
  | passed restarted =>
      cases restarted with
      | false => exact ⟨h.1.same rfl rfl rfl rfl, h.2⟩
      | true =>
          obtain ⟨hread, k, hk⟩ := h
          exact ⟨hread.same rfl rfl rfl rfl, k, hand hk⟩
  | closing | done => trivial

/-! ## The end of a pass -/

/-- What a pass leaves behind for the one that follows it. -/
structure Ended (cfg : PcapConfig) (s : PcapFeed) : Prop where
  reading : Reading cfg s
  reach : s.span ≠ 0 → Reach cfg s s.delivered
  read : ∃ k < s.ext.asm.stats.framesOk, ∀ e ∈ s.log, e.1.timestampNs ≤ cfg.ts k + s.base

theorem ended_of_passed {cfg : PcapConfig} {s : PcapFeed} {restarted : Bool}
    (h : FeedOk cfg s (.passed restarted)) : Ended cfg s := by
  cases restarted with
  | true =>
      obtain ⟨hread, k, hk⟩ := h
      have hidx := hread.idx_le
      refine ⟨hread, fun hs => hk.delivered ▸ hk.reach hs, k, ?_, fun e he => ?_⟩
      · have := hk.idx
        omega
      · exact Int.le_of_lt (hk.before e he)
  | false =>
      obtain ⟨hread, hok, hne, hdel, hreach⟩ := h
      refine ⟨hread, fun _ => hdel ▸ hreach, s.idx - 1, by omega, ?_⟩
      rw [show s.idx = s.idx - 1 + 1 by omega] at hreach
      exact hreach

/-- Everything delivered lies before the first frame of the pass that follows. -/
theorem Ended.before {cfg : PcapConfig} (hcfg : cfg.Increasing) {s : PcapFeed}
    (h : Shifts cfg s) (hend : Ended cfg s)
    (hc : if s.span = 0 then s.ext.walk.lastTs = some 0 → s.log = []
      else s.delivered ≤ s.measured) :
    s.Before (cfg.ts 0 + (s.retimeOffset + ((s.cycle : Int) + 1) * s.measure.span)) := by
  intro e he
  have hnonneg := h.nonneg
  have hoffset := h.offset
  by_cases h0 : s.span = 0
  · -- the span is measured now, from at least one frame
    rw [if_pos h0] at hc
    rw [h0, Int.mul_zero] at hoffset
    obtain ⟨k, hk, hreach⟩ := hend.read
    obtain ⟨-, -, last, hl, -⟩ := hend.reading.within k hk
    rw [Option.mem_def] at hl
    have hne : last ≠ 0 := by
      rintro rfl
      rw [hc hl] at he
      cases he
    have hmeasure : s.measure.span = measureSpan s.ext := by
      rw [PcapFeed.measure, if_pos ⟨h0, by simp [hl, hne]⟩]
    have hshift := ts_lt_measureSpan hcfg hend.reading hk
    have hpos := ts_lt_measureSpan hcfg hend.reading (Nat.zero_lt_of_lt hk)
    have hmul : 0 ≤ (s.cycle : Int) * measureSpan s.ext :=
      Int.mul_nonneg (Int.natCast_nonneg _) (by omega)
    have hle : e.1.timestampNs ≤ cfg.ts k + (s.retimeOffset + s.offset) := hreach e he
    rw [hmeasure, Int.add_mul, Int.one_mul]
    omega
  · rw [if_neg h0] at hc
    have hmeasure : s.measure.span = s.span := by
      rw [PcapFeed.measure, if_neg fun hm => h0 hm.1]
    have hreach := hend.reach h0
    rw [hmeasure, Int.add_mul, Int.one_mul, ← hoffset]
    cases hdel : s.delivered with
    | zero =>
        rw [hdel] at hreach
        have hlt : e.1.timestampNs < cfg.ts 0 + (s.retimeOffset + s.offset) := hreach e he
        omega
    | succ k =>
        rw [hdel] at hreach
        have hle : e.1.timestampNs ≤ cfg.ts k + (s.retimeOffset + s.offset) := hreach e he
        have hlt := h.span h0 k (by omega)
        omega

/-- The span that is in force after a pass. -/
theorem Ended.span {cfg : PcapConfig} (hcfg : cfg.Increasing) {s : PcapFeed}
    (h : Shifts cfg s) (hend : Ended cfg s) :
    0 ≤ s.measure.span ∧ (s.measure.span ≠ 0 →
      ∀ k < s.measure.measured, cfg.ts k - cfg.ts 0 < s.measure.span) := by
  unfold PcapFeed.measure
  split
  · obtain ⟨k, hk, -⟩ := hend.read
    have hpos := ts_lt_measureSpan hcfg hend.reading (Nat.zero_lt_of_lt hk)
    refine ⟨?_, fun _ k hk => ts_lt_measureSpan hcfg hend.reading hk⟩
    show 0 ≤ measureSpan s.ext
    omega
  · exact ⟨h.nonneg, h.span⟩

/-- `measure` writes the span, and notes how many frames it is from. -/
theorem measure_eq (s : PcapFeed) :
    s.measure = { s with span := s.measure.span, measured := s.measure.measured } := by
  unfold PcapFeed.measure
  split
  · rfl
  · rfl

/-- **The end of a pass** within the span. -/
theorem feedInv_endPass {cfg : PcapConfig} (hcfg : cfg.Increasing) {s : PcapFeed}
    (h : FeedInv cfg s) {restarted : Bool} (hpc : s.pc = .passed restarted) {now : Int}
    (hc : WithinSpan cfg s (.feed now)) : FeedInv cfg (s.measure.endPass restarted) := by
  have hok := h.pc
  rw [hpc] at hok
  have hend := ended_of_passed hok
  have hshifts := h.shifts (by rw [hpc]; rfl)
  obtain ⟨hnonneg, hspan⟩ := hend.span hcfg hshifts
  have hsorted := h.sorted
  simp only [WithinSpan, hpc] at hc
  have hbefore := fun hgo => hend.before hcfg hshifts (hc hgo)
  rw [measure_eq]
  generalize s.measure.span = span at hnonneg hspan hbefore ⊢
  generalize s.measure.measured = measured at hspan ⊢
  unfold PcapFeed.endPass
  split
  · exact feedInv_of_closing rfl hsorted
  · split
    · exact feedInv_of_closing rfl hsorted
    · next hgo =>
        have hgo' : restarted = true ∨ s.playback.loop = true := by
          cases restarted with
          | true => exact .inl rfl
          | false => exact .inr (by simpa using hgo)
        refine ⟨hsorted, fun _ => ⟨?_, nofun, hnonneg, hspan⟩, hbefore hgo'⟩
        push_cast
        rfl

/-! ## Steps -/

theorem le_getLast_of_sorted {log : List (FrameStamp × List UInt8)}
    (h : (log.map fun e => e.1.timestampNs).Pairwise (· < ·)) {e : FrameStamp × List UInt8}
    (he : e ∈ log) : ∃ last ∈ log.getLast?, e.1.timestampNs ≤ last.1.timestampNs := by
  have hne : log ≠ [] := List.ne_nil_of_mem he
  refine ⟨log.getLast hne, List.getLast?_eq_some_getLast hne, ?_⟩
  rw [← List.dropLast_append_getLast hne] at he
  rcases List.mem_append.mp he with he | he
  · rw [← List.dropLast_append_getLast hne, List.map_append, List.pairwise_append] at h
    exact Int.le_of_lt (h.2.2 _ (List.mem_map_of_mem he) _ (by simp))
  · rw [List.mem_singleton.mp he]

/-- A frame is stamped: it comes after everything delivered, also when the offset
of `retime: wall` is resolved with it. -/
theorem feedInv_stamp {cfg : PcapConfig} (hcfg : cfg.Increasing) {s : PcapFeed}
    (h : FeedInv cfg s) {k : Nat} {frame : Uvc.UvcFrame} (hpc : s.pc = .stamping k frame)
    {now : Int} (hc : WithinSpan cfg s (.feed now)) :
    FeedInv cfg { s with
      retimeOffset := s.retime cfg now frame.1
      pc := .stamped (pcapStamp k (frame.1 + (s.retime cfg now frame.1 + s.offset))) frame.2 } := by
  have hok := h.pc
  rw [hpc] at hok
  obtain ⟨hread, hframe, hidx, hdel, hreach⟩ := hok
  have hts := PcapConfig.ts_eq hframe
  have hk : k < cfg.frames.length := (List.getElem?_eq_some_iff.mp hframe).1
  have hshifts := h.shifts (by rw [hpc]; rfl)
  refine h.moved rfl rfl rfl rfl rfl (fun _ => by rw [hpc]; rfl)
    ⟨hread.same rfl rfl rfl rfl, k, ⟨hidx, hdel, ?_, ?_⟩, ?_⟩
  · show s.Before (cfg.ts k + (s.retime cfg now frame.1 + s.offset))
    unfold PcapFeed.retime
    split
    · next hwall =>
        -- the offset puts this very frame at `now`
        have hoffset := hshifts.offset
        rw [hshifts.first hwall.2.1, Int.mul_zero] at hoffset
        intro e he
        obtain ⟨last, hl, hle⟩ := le_getLast_of_sorted h.sorted he
        simp only [WithinSpan, hpc] at hc
        have hlt := hc ⟨hwall.2.2, hwall.1, hwall.2.1⟩ last hl
        omega
    · exact hreach.before hcfg hk
  · intro hspan
    have hcycle : s.cycle ≠ 0 := fun h0 => hspan (hshifts.first h0)
    have hretime : s.retime cfg now frame.1 = s.retimeOffset := by
      rw [PcapFeed.retime, if_neg fun hwall => hcycle hwall.2.1]
    rw [hretime]
    exact hreach
  · show frame.1 + _ = cfg.ts k + _
    rw [hts]
    rfl

/-- A frame is delivered. -/
theorem feedInv_deliver {cfg : PcapConfig} {s : PcapFeed} (h : FeedInv cfg s) {st : FrameStamp}
    {bytes : List UInt8} (hpc : s.pc = .delivering st bytes) :
    FeedInv cfg { s with
      log := s.log ++ [(st, bytes)], delivered := s.delivered + 1, pc := .pulling } := by
  have hok := h.pc
  rw [hpc] at hok
  obtain ⟨hread, k, hk, hst⟩ := hok
  have hshifts := h.shifts (by rw [hpc]; rfl)
  refine ⟨?_, fun _ => ⟨hshifts.offset, hshifts.first, hshifts.nonneg, hshifts.span⟩,
    hread.same rfl rfl rfl rfl, ?_, ?_⟩
  · rw [List.map_append, List.pairwise_append]
    refine ⟨h.sorted, List.pairwise_singleton _ _, fun t ht t' ht' => ?_⟩
    obtain ⟨e, he, rfl⟩ := List.mem_map.mp ht
    obtain rfl := List.mem_singleton.mp ht'
    have hlt := hk.before e he
    show e.1.timestampNs < st.timestampNs
    omega
  · show s.delivered + 1 = s.idx
    rw [hk.idx, hk.delivered]
  · show Reach cfg _ s.idx
    rw [hk.idx]
    intro e he
    rcases List.mem_append.mp he with he | he
    · exact Int.le_of_lt (hk.before e he)
    · rw [List.mem_singleton.mp he]
      exact Int.le_of_eq hst

/-- What happens to a frame in hand before it is delivered. -/
theorem FeedInv.held {cfg : PcapConfig} {s : PcapFeed} (h : FeedInv cfg s) {st : FrameStamp}
    (bytes : List UInt8)
    (hok : Reading cfg s ∧ ∃ k, InHand cfg s k ∧ st.timestampNs = cfg.ts k + s.base)
    (hfinal : s.pc.final = false) {playback : PlaybackState} {pc : FeedPc}
    (hpc : pc = .closing ∨ pc = .passed true ∨ pc = .holding st bytes ∨ pc = .polling st bytes ∨
      pc = .pacing st bytes ∨ pc = .holdingAgain st bytes ∨ pc = .delivering st bytes) :
    FeedInv cfg { s with playback, pc } := by
  obtain ⟨hread, k, hk, hst⟩ := hok
  have hread' : Reading cfg { s with playback, pc } := hread.same rfl rfl rfl rfl
  refine h.moved rfl rfl rfl rfl rfl (fun _ => hfinal) ?_
  rcases hpc with rfl | rfl | rfl | rfl | rfl | rfl | rfl
  · trivial
  · exact ⟨hread', k, hk.same⟩
  all_goals exact ⟨hread', k, hk.same, hst⟩

/-- **A step of the feeder** keeps the invariant. -/
theorem feedInv_feedStep {cfg : PcapConfig} (hcfg : cfg.Increasing) {s s' : PcapFeed}
    (h : FeedInv cfg s) {now : Int} (hc : WithinSpan cfg s (.feed now))
    (hs : s.feedStep cfg now = some s') : FeedInv cfg s' := by
  have hok := h.pc
  cases hpc : s.pc with
  | starting =>
      rw [hpc] at hok
      simp only [PcapFeed.feedStep, hpc] at hs
      split at hs
      · obtain rfl := Option.some.inj hs
        exact feedInv_of_closing rfl h.sorted
      · obtain rfl := Option.some.inj hs
        refine h.moved rfl rfl rfl rfl rfl (fun _ => by rw [hpc]; rfl) ⟨?_, rfl, hok⟩
        exact .reset hcfg.packets rfl rfl rfl rfl
  | pulling =>
      rw [hpc] at hok
      obtain ⟨hread, hdel, hreach⟩ := hok
      have hfinal : s.pc.final = false := by rw [hpc]; rfl
      simp only [PcapFeed.feedStep, hpc] at hs
      cases hout : s.out with
      | cons frame out =>
          simp only [hout, Option.some.injEq] at hs
          subst hs
          exact h.moved rfl rfl rfl rfl rfl (fun _ => hfinal)
            ⟨hread.pull hout, hread.pulled hout, rfl, hdel, hreach⟩
      | nil =>
          cases hrest : s.rest with
          | cons p rest =>
              simp only [hout, hrest, Option.some.injEq] at hs
              subst hs
              exact h.moved rfl rfl rfl rfl rfl (fun _ => hfinal)
                ⟨(hread.read hout hrest).same rfl rfl rfl rfl, hdel, hreach⟩
          | nil =>
              simp only [hout, hrest] at hs
              split at hs
              · obtain rfl := Option.some.inj hs
                exact feedInv_of_closing rfl h.sorted
              · next hne =>
                  obtain rfl := Option.some.inj hs
                  have hended := hread.ended hout
                  refine h.moved rfl rfl rfl rfl rfl (fun _ => hfinal)
                    ⟨hread.same rfl rfl hrest.symm hout.symm, hended, ?_, hdel, hreach⟩
                  exact fun h0 => hne (.inr (hended.trans h0))
  | stamping k frame =>
      simp only [PcapFeed.feedStep, hpc] at hs
      split at hs
      · obtain rfl := Option.some.inj hs
        exact feedInv_of_closing rfl h.sorted
      · exact Option.some.inj hs ▸ feedInv_stamp hcfg h hpc hc
  | stamped st bytes =>
      rw [hpc] at hok
      simp only [PcapFeed.feedStep, hpc, Option.some.injEq] at hs
      subst hs
      refine h.held bytes hok (by rw [hpc]; rfl) ?_
      cases s.playback.prerollPending with
      | true => simp
      | false => simp
  | holding st bytes =>
      rw [hpc] at hok
      simp only [PcapFeed.feedStep, hpc, Option.map_eq_some_iff] at hs
      obtain ⟨⟨verdict, playback⟩, -, rfl⟩ := hs
      refine h.held bytes hok (by rw [hpc]; rfl) ?_
      cases verdict with
      | stop => simp
      | resume => simp
      | restart => simp
  | polling st bytes =>
      rw [hpc] at hok
      simp only [PcapFeed.feedStep, hpc, Option.some.injEq] at hs
      subst hs
      refine h.held bytes hok (by rw [hpc]; rfl) ?_
      cases s.playback.restartPending with
      | true => simp
      | false => simp
  | pacing st bytes =>
      rw [hpc] at hok
      simp only [PcapFeed.feedStep, hpc, Option.some.injEq] at hs
      subst hs
      refine h.held bytes hok (by rw [hpc]; rfl) ?_
      cases s.stopEvt with
      | true => simp
      | false => simp
  | holdingAgain st bytes =>
      rw [hpc] at hok
      simp only [PcapFeed.feedStep, hpc, Option.map_eq_some_iff] at hs
      obtain ⟨⟨verdict, playback⟩, -, rfl⟩ := hs
      refine h.held bytes hok (by rw [hpc]; rfl) ?_
      cases verdict with
      | stop => simp
      | resume => simp
      | restart => simp
  | delivering st bytes =>
      simp only [PcapFeed.feedStep, hpc, Option.some.injEq] at hs
      exact hs ▸ feedInv_deliver h hpc
  | passed restarted =>
      simp only [PcapFeed.feedStep, hpc, Option.some.injEq] at hs
      exact hs ▸ feedInv_endPass hcfg h hpc hc
  | closing =>
      simp only [PcapFeed.feedStep, hpc, Option.some.injEq] at hs
      subst hs
      exact ⟨h.sorted, nofun, trivial⟩
  | done => simp [PcapFeed.feedStep, hpc] at hs

/-- **Step lemma**: every step keeps the invariant, as long as passes stay within
the span. -/
theorem feedInv_step {cfg : PcapConfig} (hcfg : cfg.Increasing) (s : PcapFeed) (l : FeedStep)
    (s' : PcapFeed) (h : FeedInv cfg s) (hc : WithinSpan cfg s l)
    (hs : PcapFeed.step cfg s l = some s') : FeedInv cfg s' := by
  have flags : ∀ failed stopEvt playback,
      FeedInv cfg { s with failed := failed, stopEvt := stopEvt, playback := playback } :=
    fun failed stopEvt playback => h.moved rfl rfl rfl rfl rfl id h.pc.same
  cases l with
  | feed now => exact feedInv_feedStep hcfg h hc hs
  | pause | resume | setLoop loop | requestRestart | miniError | stop =>
      exact Option.some.inj hs ▸ flags _ _ _
  | gate | gateResume =>
      simp only [PcapFeed.step] at hs
      split at hs
      · exact Option.some.inj hs ▸ flags _ _ _
      · cases hs

/-! ## Runs -/

/-- The timestamps a source has delivered. -/
def PcapFeed.timestamps (s : PcapFeed) : List Int := s.log.map fun e => e.1.timestampNs

/-- **Pcap playback**: where no pass that is followed by another goes beyond what
the span was measured from, the timestamps strictly increase. -/
theorem pcap_timestamps_increase {cfg : PcapConfig} (hcfg : cfg.Increasing)
    (playback : PlaybackState) (steps : List FeedStep) (s : PcapFeed)
    (hc : Machine.Along (PcapFeed.step cfg) (WithinSpan cfg) (PcapFeed.init playback) steps)
    (h : Machine.exec (PcapFeed.step cfg) (PcapFeed.init playback) steps = some s) :
    s.timestamps.Pairwise (· < ·) :=
  (Machine.exec_inv_along (feedInv_step hcfg) (feedInv_init cfg playback) hc h).sorted

/-! ## Three frames -/

/-- Three JPEGs, each in a URB of its own. -/
def threeShots : PcapConfig :=
  { pin := ⟨1, 2, 1⟩, uvc := Uvc.mjpegConfig,
    capture := ([10, 20, 30].map (Uvc.bulkPacket · 0 [2, 2, 0xff, 0xd8, 0xff, 0xd9]), none),
    wall := false }

theorem increasing_threeShots : threeShots.Increasing where
  packets := by decide
  frames := by decide +kernel

/-- The feeder's next statements. -/
def feedFor (n : Nat) : List FeedStep := List.replicate n (.feed 0)

/-- A restart with the second frame in hand, and a pass that goes on to the third:
the span reaches from the first frame to the second only. -/
def earlyRestart : List FeedStep :=
  feedFor 12 ++ .requestRestart :: feedFor 4 ++ feedFor 30 ++ feedFor 10

/-- The same restart one pass later: the span is that of a whole pass. -/
def lateRestart : List FeedStep :=
  feedFor 30 ++ feedFor 12 ++ .requestRestart :: feedFor 4 ++ feedFor 30 ++ feedFor 10

end CamDriver
