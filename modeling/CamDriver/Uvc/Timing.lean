import CamDriver.Uvc.Extractor
import CamDriver.Uvc.Sound

/-!
# CamDriver.Uvc.Timing

When an extractor's frames begin, and how many there are: a frame begins at the
time of a completion, so in a capture whose packets are in order it begins
between the first and the last completion, and `frames_ok` counts the frames.
-/

namespace CamDriver.Uvc

/-! ## Counting -/

/-- The counter of good frames counts the frames that are yielded. -/
theorem framesOk_finalize (cfg : UvcConfig) (s : Assembler) :
    (s.finalize cfg).1.stats.framesOk = s.stats.framesOk + (s.finalize cfg).2.length := by
  simp only [Assembler.finalize]
  split
  · split
    · rfl
    · rfl
  · split
    · rfl
    · rfl

/-- A poisoning yields none. -/
theorem framesOk_poison (s : Assembler) : s.poison.stats.framesOk = s.stats.framesOk := by
  unfold Assembler.poison
  split
  · rfl
  · rfl

/-- A new frame ID may end a frame. -/
theorem framesOk_toggle (cfg : UvcConfig) (s : Assembler) (fid : Bool) (ts : Int) :
    (s.toggle cfg fid ts).1.stats.framesOk =
      s.stats.framesOk + (s.toggle cfg fid ts).2.length := by
  unfold Assembler.toggle
  split
  · rfl
  · exact framesOk_finalize cfg s

/-- So may an EOF. -/
theorem framesOk_accumulate (cfg : UvcConfig) (s : Assembler) (info : UInt8) (data : List UInt8)
    (ts : Int) :
    (s.accumulate cfg info data ts).1.stats.framesOk =
      s.stats.framesOk + (s.accumulate cfg info data ts).2.length := by
  unfold Assembler.accumulate
  split
  · rfl
  · have htoggle := framesOk_toggle cfg s (fidBit info) ts
    generalize s.toggle cfg (fidBit info) ts = r at htoggle ⊢
    split
    · have hfin := framesOk_finalize cfg { r.1 with buf := r.1.buf ++ data }
      show _ = s.stats.framesOk + (r.2 ++ _).length
      rw [List.length_append, ← Nat.add_assoc, ← htoggle]
      exact hfin
    · exact htoggle

theorem framesOk_asmStep (cfg : UvcConfig) (s : Assembler) (op : AsmOp) :
    (asmStep cfg s op).1.stats.framesOk = s.stats.framesOk + (asmStep cfg s op).2.length := by
  cases op with
  | lost => exact framesOk_poison _
  | overrun => rfl
  | feed payload ts =>
      show (s.feed cfg payload ts).1.stats.framesOk =
        s.stats.framesOk + (s.feed cfg payload ts).2.length
      unfold Assembler.feed
      split
      · exact framesOk_poison _
      · next hlen info _ =>
          unfold Assembler.feedData
          split
          · split
            · rfl
            · exact framesOk_accumulate cfg (s.begin (fidBit info) ts) info _ ts
          · split
            · rfl
            · exact framesOk_accumulate cfg (s.begin (fidBit info) ts) info _ ts
          · exact framesOk_accumulate cfg s info _ ts

/-- `frames_ok` counts what is yielded. -/
theorem framesOk_asmFinal (cfg : UvcConfig) (s : Assembler) (ops : List AsmOp) :
    (asmFinal cfg s ops).stats.framesOk = s.stats.framesOk + (asmFrames cfg s ops).length := by
  induction ops generalizing s with
  | nil => rfl
  | cons op ops ih =>
      rw [asmFinal_cons, asmFrames_cons, ih, framesOk_asmStep, List.length_append]
      omega

theorem framesOk_step (pin : Endpoint) (cfg : UvcConfig) (x : Extractor) (p : Packet) :
    (x.step pin cfg p).1.asm.stats.framesOk =
      x.asm.stats.framesOk + (x.step pin cfg p).2.length :=
  framesOk_asmFinal _ _ _

/-! ## Times -/

/-- A time between the first and the last completion. -/
def Walk.Within (w : Walk) (t : Int) : Prop :=
  ∃ first ∈ w.firstTs, ∃ last ∈ w.lastTs, first ≤ t ∧ t ≤ last

/-- Frames yielded from here on begin between the first and the last completion. -/
def AsmTimed (w : Walk) (s : Assembler) : Prop := s.phase = .accum → w.Within s.startTs

/-- What a step of the assembler keeps: its frames and its state are timed. -/
def Times (w : Walk) (r : Assembler × List UvcFrame) : Prop :=
  AsmTimed w r.1 ∧ ∀ f ∈ r.2, w.Within f.1

/-- A frame takes the time of its first payload, which the walk has seen. -/
theorem times_toggle (cfg : UvcConfig) {w : Walk} {s : Assembler} (fid : Bool) {ts : Int}
    (hs : w.Within s.startTs) (hts : w.Within ts) :
    w.Within (s.toggle cfg fid ts).1.startTs ∧ ∀ f ∈ (s.toggle cfg fid ts).2, w.Within f.1 := by
  unfold Assembler.toggle
  split
  · exact ⟨hs, nofun⟩
  · exact ⟨hts, fun f hf => by rw [mem_finalize hf]; exact hs⟩

/-- Data of a payload that the walk has seen. -/
theorem times_accumulate {cfg : UvcConfig} {w : Walk} {s : Assembler} {info : UInt8}
    {data : List UInt8} {ts : Int} (hs : w.Within s.startTs) (hts : w.Within ts) :
    Times w (s.accumulate cfg info data ts) := by
  unfold Assembler.accumulate
  split
  · exact ⟨nofun, nofun⟩
  · obtain ⟨hstart, hframes⟩ := times_toggle cfg (fidBit info) hs hts
    split
    · refine ⟨nofun, fun f hf => ?_⟩
      rcases List.mem_append.mp hf with hf | hf
      · exact hframes f hf
      · rw [mem_finalize hf]
        exact hstart
    · exact ⟨fun _ => hstart, hframes⟩

theorem times_asmStep (cfg : UvcConfig) {w : Walk} {s : Assembler} {op : AsmOp}
    (hs : AsmTimed w s) (hop : ∀ payload ts, op = .feed payload ts → w.Within ts) :
    Times w (asmStep cfg s op) := by
  cases op with
  | lost => exact ⟨fun h => absurd h (poison_phase _), nofun⟩
  | overrun => exact ⟨hs, nofun⟩
  | feed payload ts =>
      have hts := hop payload ts rfl
      show Times w (s.feed cfg payload ts)
      unfold Assembler.feed
      split
      · exact ⟨fun h => absurd h (poison_phase _), nofun⟩
      · unfold Assembler.feedData
        split
        · split
          · exact ⟨fun h => hs h, nofun⟩
          · exact times_accumulate hts hts
        · split
          · exact ⟨hs, nofun⟩
          · exact times_accumulate hts hts
        · next hphase => exact times_accumulate (hs hphase) hts

theorem times_ops (cfg : UvcConfig) {w : Walk} {s : Assembler} {ops : List AsmOp}
    (hs : AsmTimed w s) (hops : ∀ payload ts, .feed payload ts ∈ ops → w.Within ts) :
    Times w (asmFinal cfg s ops, asmFrames cfg s ops) := by
  induction ops generalizing s with
  | nil => exact ⟨hs, nofun⟩
  | cons op ops ih =>
      have hstep := times_asmStep cfg hs
        fun payload ts hop => hops payload ts (hop ▸ List.mem_cons_self)
      have hrest := ih hstep.1 fun payload ts h => hops payload ts (List.mem_cons_of_mem _ h)
      refine ⟨hrest.1, fun f hf => ?_⟩
      rcases List.mem_append.mp (asmFrames_cons cfg s op ops ▸ hf) with hf | hf
      · exact hstep.2 f hf
      · exact hrest.2 f hf

/-! ## The walk -/

/-- An unfinished bulk payload began between the first and the last completion. -/
def BulkTimed (w : Walk) (b : BulkState) : Prop := b.cont = true → w.Within b.pendingTs

/-- What is peeled off the pending bytes has their time, or that of the completion. -/
theorem ts_of_mem_peel {P : Int → Prop} (maxPayload : Nat) {ts : Int} (fuel : Nat) (hts : P ts)
    (pending : List UInt8) {pendingTs : Int} (hp : P pendingTs) :
    (∀ p ∈ (peelLoop maxPayload ts fuel pending pendingTs).fed, P p.2) ∧
      P (peelLoop maxPayload ts fuel pending pendingTs).restTs := by
  induction fuel generalizing pending pendingTs with
  | zero => exact ⟨fun _ hmem => (List.not_mem_nil hmem).elim, hp⟩
  | succ fuel ih =>
      unfold peelLoop
      split
      · refine ⟨fun p hmem => ?_, (ih _ hts).2⟩
        rcases List.mem_cons.mp hmem with rfl | hmem
        · exact hp
        · exact (ih _ hts).1 p hmem
      · exact ⟨(by simp), hp⟩

/-- A bulk completion that is appended. -/
theorem timed_append {w : Walk} {maxPayload : Nat} {b : BulkState} {u : Urb} {ts : Int}
    (hb : BulkTimed w b) (hts : w.Within ts) :
    BulkTimed w (b.append maxPayload u ts).1 ∧
      ∀ payload t, .feed payload t ∈ (b.append maxPayload u ts).2 → w.Within t := by
  have hpending : w.Within (if b.cont then b.pendingTs else ts) := by
    split
    · next hcont => exact hb hcont
    · exact hts
  simp only [BulkState.append]
  generalize (if b.cont = true then b.pending else []) ++ u.data = pending
  generalize (if b.cont = true then b.pendingTs else ts) = pendingTs at hpending ⊢
  obtain ⟨hfed, hrest⟩ := ts_of_mem_peel maxPayload pending.length hts pending hpending
  split
  · exact ⟨nofun, fun payload t h => by simp at h⟩
  · split
    · refine ⟨nofun, fun payload t h => ?_⟩
      split at h
      · obtain ⟨p, hp, heq⟩ := List.mem_map.mp h
        cases heq
        exact hfed p hp
      · rcases List.mem_append.mp h with h | h
        · obtain ⟨p, hp, heq⟩ := List.mem_map.mp h
          cases heq
          exact hfed p hp
        · cases List.mem_singleton.mp h
          exact hrest
    · refine ⟨fun _ => hrest, fun payload t h => ?_⟩
      obtain ⟨p, hp, heq⟩ := List.mem_map.mp h
      cases heq
      exact hfed p hp

/-- A bulk completion, with what it feeds. -/
theorem timed_feedBulk {w : Walk} (maxPayload : Nat) {b : BulkState} (u : Urb) {ts : Int}
    (hb : BulkTimed w b) (hts : w.Within ts) :
    BulkTimed w (b.feedBulk maxPayload u ts).1 ∧
      ∀ payload t, .feed payload t ∈ (b.feedBulk maxPayload u ts).2 → w.Within t := by
  unfold BulkState.feedBulk
  split
  · refine ⟨nofun, fun payload t h => ?_⟩
    simp only at h
    split at h
    · next hcont =>
        cases List.mem_singleton.mp h
        exact hb hcont.1
    · cases h
  · split
    · exact ⟨nofun, fun payload t h => by simp at h⟩
    · split
      · exact ⟨nofun, fun payload t h => by simp at h⟩
      · exact timed_append hb hts

/-- A packet moves the last completion on, if at all, to its own time. -/
structure Advances (w w' : Walk) (ts : Int) : Prop where
  within : ∀ t, w.Within t → w'.Within t
  last : ∀ last ∈ w'.lastTs, last = ts ∨ last ∈ w.lastTs

/-- The walk's own times are in order. -/
structure WalkTimed (w : Walk) : Prop where
  bulk : BulkTimed w w.bulk
  order : ∀ first ∈ w.firstTs, ∃ last ∈ w.lastTs, first ≤ last

/-- A completion is noted: its time is between the first and the last one. -/
theorem noteUrb_timed {w : Walk} {ts : Int} (h : WalkTimed w)
    (hlast : ∀ last ∈ w.lastTs, last ≤ ts) :
    Advances w (w.noteUrb ts) ts ∧ WalkTimed (w.noteUrb ts) ∧ (w.noteUrb ts).Within ts := by
  have hfirst : ∀ first ∈ (w.noteUrb ts).firstTs, first ≤ ts := by
    intro first hf
    cases hw : w.firstTs with
    | none =>
        simp only [Walk.noteUrb, hw, Option.none_or, Option.mem_some_iff] at hf
        omega
    | some a =>
        obtain ⟨b, hb, hle⟩ := h.order a hw
        simp only [Walk.noteUrb, hw, Option.some_or, Option.mem_some_iff] at hf
        exact hf ▸ hle.trans (hlast b hb)
  have hwithin : ∀ t, w.Within t → (w.noteUrb ts).Within t := by
    rintro t ⟨first, hf, last, hl, hle, hle'⟩
    refine ⟨first, ?_, ts, rfl, hle, hle'.trans (hlast last hl)⟩
    rw [Option.mem_def] at hf
    simp [Walk.noteUrb, hf]
  obtain ⟨first, hf⟩ : ∃ first, first ∈ (w.noteUrb ts).firstTs := by
    cases hw : w.firstTs with
    | none => exact ⟨ts, by simp [Walk.noteUrb, hw]⟩
    | some a => exact ⟨a, by simp [Walk.noteUrb, hw]⟩
  exact ⟨⟨hwithin, fun last hl => .inl (Option.some.inj hl).symm⟩,
    ⟨fun hcont => hwithin _ (h.bulk hcont), fun first hf => ⟨ts, rfl, hfirst first hf⟩⟩,
    ⟨first, hf, ts, rfl, hfirst first hf, Int.le_refl _⟩⟩

/-- A record advances the walk to its own time. -/
theorem record_timed (maxPayload : Nat) {w : Walk} {u : Urb} (h : WalkTimed w)
    (hlast : ∀ last ∈ w.lastTs, last ≤ u.ts) :
    Advances w (w.record maxPayload u).1 u.ts ∧ WalkTimed (w.record maxPayload u).1 ∧
      ∀ payload t, .feed payload t ∈ (w.record maxPayload u).2 →
        (w.record maxPayload u).1.Within t := by
  have refl : Advances w w u.ts := ⟨fun _ h => h, fun _ h => .inr h⟩
  unfold Walk.record
  split
  · split
    · exact ⟨⟨refl.within, refl.last⟩, ⟨h.bulk, h.order⟩, nofun⟩
    · exact ⟨refl, h, nofun⟩
  · split
    · exact ⟨refl, h, nofun⟩
    · obtain ⟨hadv, htimed, hts⟩ := noteUrb_timed h hlast
      simp only
      split
      · refine ⟨hadv, htimed, fun payload t hmem => ?_⟩
        obtain ⟨packet, -, heq⟩ := List.mem_map.mp hmem
        split at heq
        · cases heq
        · cases heq
          exact hts
      · split
        · obtain ⟨hbulk, hops⟩ := timed_feedBulk maxPayload u htimed.bulk hts
          exact ⟨⟨hadv.within, hadv.last⟩, ⟨hbulk, htimed.order⟩, hops⟩
        · exact ⟨hadv, htimed, nofun⟩

/-- A URB has the time of its record. -/
theorem ts_parseWith {e : Endian} {linktype : Nat} {ts : Int} {rec : List UInt8} {u : Urb}
    (h : parseWith e linktype ts rec = some u) : u.ts = ts := by
  simp only [parseWith] at h
  split at h
  · cases h
  · cases h
    rfl

/-- So it does in whichever byte order it is read. -/
theorem ts_parse {settled : Option Endian} {linktype : Nat} {ts : Int} {rec : List UInt8} {u : Urb}
    (h : (parse settled linktype ts rec).2 = some u) : u.ts = ts := by
  unfold parse at h
  split at h
  · exact ts_parseWith h
  · split at h
    · next hle hbe =>
        split at h
        · cases h
          exact ts_parseWith hle
        · cases h
          exact ts_parseWith hbe
    · exact ts_parseWith h

/-- So does the one that the endpoint selects. -/
theorem ts_selected {pin : Endpoint} {settled : Option Endian} {p : Packet} {u : Urb}
    (h : selected pin settled p = some u) : u.ts = p.ts := by
  unfold selected at h
  split at h
  · exact ts_parse (Option.filter_eq_some_iff.mp h).1
  · cases h

/-! ## The extractor -/

/-- Whatever the extractor is working on began between the first and the last
completion. -/
structure Extractor.Timed (x : Extractor) : Prop where
  walk : WalkTimed x.walk
  asm : AsmTimed x.walk x.asm

/-- A fresh extractor has no time yet. -/
theorem Extractor.timed_reset : Extractor.reset.Timed := ⟨⟨nofun, nofun⟩, nofun⟩

/-- **A packet** that is not older than the last completion: the frames it ends
begin between the first and the last completion. -/
theorem Extractor.step_timed (pin : Endpoint) (cfg : UvcConfig) {x : Extractor} {p : Packet}
    (h : x.Timed) (hlast : ∀ last ∈ x.walk.lastTs, last ≤ p.ts) :
    Advances x.walk (x.step pin cfg p).1.walk p.ts ∧ (x.step pin cfg p).1.Timed ∧
      ∀ f ∈ (x.step pin cfg p).2, (x.step pin cfg p).1.walk.Within f.1 := by
  have hwalk : Advances x.walk (x.walk.step pin cfg.maxPayload p).1 p.ts ∧
      WalkTimed (x.walk.step pin cfg.maxPayload p).1 ∧
      ∀ payload t, .feed payload t ∈ (x.walk.step pin cfg.maxPayload p).2 →
        (x.walk.step pin cfg.maxPayload p).1.Within t := by
    have hw : WalkTimed { x.walk with settled := settledAfter x.walk.settled p } :=
      ⟨h.walk.bulk, h.walk.order⟩
    unfold Walk.step
    cases hsel : selected pin x.walk.settled p with
    | none => exact ⟨⟨fun _ h => h, fun _ h => .inr h⟩, hw, nofun⟩
    | some u =>
        obtain ⟨hadv, hrec⟩ := record_timed cfg.maxPayload hw
          fun last hl => (ts_selected hsel).symm ▸ hlast last hl
        exact ⟨⟨hadv.within, fun last hl => ts_selected hsel ▸ hadv.last last hl⟩, hrec⟩
  obtain ⟨hadv, htimed, hops⟩ := hwalk
  have hasm := times_ops cfg (fun hp => hadv.within _ (h.asm hp)) hops
  exact ⟨hadv, ⟨htimed, hasm.1⟩, hasm.2⟩

end CamDriver.Uvc
