import CamDriver.Uvc.Assembler

/-!
# CamDriver.Uvc.Sound

Soundness of the assembler: a frame it yields is made of the data of an
uninterrupted run of fed payloads, all of them sane, of one frame ID, and none
but the last with an EOF (`emitted_of_mem_asmFrames`).
-/

namespace CamDriver.Uvc

/-! ## Frames made of payloads -/

/-- A payload with its time. -/
abbrev TimedPayload := List UInt8 × Int

def TimedPayload.op (p : TimedPayload) : AsmOp := .feed p.1 p.2

/-- The data behind a payload's header. -/
def payloadData (cfg : UvcConfig) (p : TimedPayload) : List UInt8 :=
  match parseUvcHeader cfg.strict p.1 with
  | some (hlen, _) => p.1.drop hlen
  | none => []

/-- A payload with a valid header, no ERR bit, and the given FID and EOF. -/
def Sane (cfg : UvcConfig) (fid eof : Bool) (p : TimedPayload) : Prop :=
  ∃ hlen info, parseUvcHeader cfg.strict p.1 = some (hlen, info) ∧ errBit info = false ∧
    fidBit info = fid ∧ eofBit info = eof

/-- The bytes a frame is emitted with. -/
def trimmed (cfg : UvcConfig) (bs : List UInt8) : List UInt8 :=
  if cfg.mjpeg then Assembler.rstripZeros bs else bs

/-- The payloads of one frame, up to its EOF or the toggle of its FID. -/
structure OneFrame (cfg : UvcConfig) (seg : List TimedPayload) : Prop where
  nonempty : seg ≠ []
  sane : ∃ fid, (∀ p ∈ seg.dropLast, Sane cfg fid false p) ∧
    ∀ p ∈ seg.getLast?, ∃ eof, Sane cfg fid eof p

/-- A frame with the bytes of `seg`, and the time of its first payload. -/
structure FrameFrom (cfg : UvcConfig) (seg : List TimedPayload) (f : UvcFrame) : Prop where
  one : OneFrame cfg seg
  ts : seg.head?.map Prod.snd = some f.1
  bytes : f.2 = trimmed cfg (seg.flatMap (payloadData cfg))

/-! ## One operation -/

/-- What a frame being assembled is made of: the payloads `seg`, or nothing yet
but the time of its first one. -/
structure Holding (cfg : UvcConfig) (s : Assembler) (seg : List TimedPayload) (fid : Bool)
    (ts : Int) : Prop where
  phase : s.phase = .accum
  fid_eq : s.fid = some fid
  sane : ∀ p ∈ seg, Sane cfg fid false p
  ts : s.startTs = (seg.head?.map Prod.snd).getD ts
  buf : s.buf = seg.flatMap (payloadData cfg)

/-- The assembler's frame is the last run of payloads fed. -/
def AsmInv (cfg : UvcConfig) (s : Assembler) (ops : List AsmOp) : Prop :=
  s.phase = .accum → ∃ pre seg fid, ops = pre ++ seg.map TimedPayload.op ∧ seg ≠ [] ∧
    Holding cfg s seg fid 0

/-- A frame made of payloads that were fed one after the other. -/
def Emitted (cfg : UvcConfig) (ops : List AsmOp) (f : UvcFrame) : Prop :=
  ∃ pre seg post, ops = pre ++ seg.map TimedPayload.op ++ post ∧ FrameFrom cfg seg f

theorem mem_finalize {cfg : UvcConfig} {s : Assembler} {f : UvcFrame}
    (h : f ∈ (s.finalize cfg).2) : f = (s.startTs, trimmed cfg s.buf) := by
  simp only [Assembler.finalize, trimmed] at h ⊢
  split at h
  · rename_i hm
    split at h
    · simpa [hm] using h
    · simp at h
  · rename_i hm
    split at h
    · simpa [hm] using h
    · simp at h

theorem Holding.ts_irrel {cfg : UvcConfig} {s : Assembler} {seg : List TimedPayload} {fid : Bool}
    {ts : Int} (h : Holding cfg s seg fid ts) (hne : seg ≠ []) (ts' : Int) :
    Holding cfg s seg fid ts' := by
  refine { h with ts := ?_ }
  rw [h.ts]
  cases seg with
  | nil => exact absurd rfl hne
  | cons p seg => rfl

/-- The payloads of a frame that is cut off by a toggle. -/
theorem Holding.frameFrom {cfg : UvcConfig} {s : Assembler} {seg : List TimedPayload} {fid : Bool}
    {ts : Int} (h : Holding cfg s seg fid ts) (hne : seg ≠ []) {f : UvcFrame}
    (hf : f ∈ (s.finalize cfg).2) : FrameFrom cfg seg f := by
  have hf := mem_finalize hf
  refine ⟨⟨hne, fid, fun p hp => h.sane p (List.dropLast_subset _ hp), fun p hp => ⟨false, ?_⟩⟩,
    ?_, ?_⟩
  · exact h.sane p (List.mem_of_getLast? hp)
  · rw [hf, h.ts]
    cases seg with
    | nil => exact absurd rfl hne
    | cons p seg => rfl
  · rw [hf, h.buf]

/-- One more payload of the same frame. -/
theorem Holding.append {cfg : UvcConfig} {s : Assembler} {seg : List TimedPayload} {fid : Bool}
    {p : TimedPayload} (h : Holding cfg s seg fid p.2) (hp : Sane cfg fid false p) :
    Holding cfg { s with buf := s.buf ++ payloadData cfg p } (seg ++ [p]) fid 0 := by
  refine ⟨h.phase, h.fid_eq, ?_, ?_, ?_⟩
  · intro q hq
    rcases List.mem_append.mp hq with hq | hq
    · exact h.sane q hq
    · rwa [List.mem_singleton.mp hq]
  · rw [h.ts]
    cases seg <;> rfl
  · rw [List.flatMap_append, ← h.buf]
    simp

/-- The payload with the EOF completes the frame. -/
theorem Holding.frameFrom_append {cfg : UvcConfig} {s : Assembler} {seg : List TimedPayload}
    {fid eof : Bool} {p : TimedPayload} (h : Holding cfg s seg fid p.2) (hp : Sane cfg fid eof p)
    {f : UvcFrame}
    (hf : f ∈ ({ s with buf := s.buf ++ payloadData cfg p }.finalize cfg).2) :
    FrameFrom cfg (seg ++ [p]) f := by
  have hf := mem_finalize hf
  refine ⟨⟨by simp, fid, ?_, ?_⟩, ?_, ?_⟩
  · rw [List.dropLast_concat]
    exact h.sane
  · rw [List.getLast?_concat]
    rintro q ⟨⟩
    exact ⟨eof, hp⟩
  · rw [hf]
    simp only [h.ts]
    cases seg <;> rfl
  · rw [hf, List.flatMap_append, ← h.buf]
    simp

/-- What an operation leaves and emits, the operations before it being `ops`. -/
def Keeps (cfg : UvcConfig) (ops : List AsmOp) (op : AsmOp)
    (r : Assembler × List UvcFrame) : Prop :=
  AsmInv cfg r.1 (ops ++ [op]) ∧ ∀ f ∈ r.2, Emitted cfg (ops ++ [op]) f

theorem keeps_of_ne_accum {cfg : UvcConfig} {ops : List AsmOp} {op : AsmOp} {s : Assembler}
    (h : s.phase ≠ .accum) : Keeps cfg ops op (s, []) :=
  ⟨fun hp => absurd hp h, by simp⟩

theorem poison_phase (s : Assembler) : s.poison.phase ≠ .accum := by
  unfold Assembler.poison
  split
  · simp [Assembler.dropFrame]
  · assumption

/-- A payload added to the frame that holds `seg`. -/
theorem keeps_grow {cfg : UvcConfig} {ops : List AsmOp} {s : Assembler} (pre : List AsmOp)
    (seg : List TimedPayload) (p : TimedPayload) {hlen : Nat} {info : UInt8}
    (hops : ops = pre ++ seg.map TimedPayload.op)
    (hpar : parseUvcHeader cfg.strict p.1 = some (hlen, info)) (herr : errBit info = false)
    (h : Holding cfg s seg (fidBit info) p.2) :
    Keeps cfg ops p.op
      (let grown := { s with buf := s.buf ++ p.1.drop hlen }
       if eofBit info then ({ (grown.finalize cfg).1 with phase := .await }, (grown.finalize cfg).2)
       else (grown, [])) := by
  have hdata : p.1.drop hlen = payloadData cfg p := by simp [payloadData, hpar]
  have hops' : ops ++ [p.op] = pre ++ (seg ++ [p]).map TimedPayload.op := by
    rw [hops, List.map_append, List.append_assoc]
    rfl
  rw [hdata]
  cases heof : eofBit info with
  | true =>
      have hsane : Sane cfg (fidBit info) true p := ⟨hlen, info, hpar, herr, rfl, heof⟩
      refine ⟨fun hp => by simp at hp, fun f hf => ⟨pre, seg ++ [p], [], ?_, ?_⟩⟩
      · rw [hops', List.append_nil]
      · exact h.frameFrom_append hsane hf
  | false =>
      have hsane : Sane cfg (fidBit info) false p := ⟨hlen, info, hpar, herr, rfl, heof⟩
      exact ⟨fun _ => ⟨pre, seg ++ [p], fidBit info, hops', by simp, h.append hsane⟩, by simp⟩

theorem Holding.begin {cfg : UvcConfig} (s : Assembler) (fid : Bool) (ts : Int) :
    Holding cfg (s.begin fid ts) [] fid ts :=
  ⟨rfl, rfl, by simp, rfl, rfl⟩

/-- A payload that starts a frame. -/
theorem keeps_begin {cfg : UvcConfig} (ops : List AsmOp) (s : Assembler) (p : TimedPayload)
    {hlen : Nat} {info : UInt8} (hpar : parseUvcHeader cfg.strict p.1 = some (hlen, info)) :
    Keeps cfg ops p.op
      ((s.begin (fidBit info) p.2).accumulate cfg info (p.1.drop hlen) p.2) := by
  cases herr : errBit info with
  | true =>
      simp only [Assembler.accumulate, herr, if_true]
      exact keeps_of_ne_accum (by simp [Assembler.dropFrame])
  | false =>
      have hops : ops = ops ++ [].map TimedPayload.op := by simp
      have hgrow := keeps_grow ops [] p hops hpar herr (.begin s (fidBit info) p.2)
      simpa [Assembler.accumulate, Assembler.toggle, Assembler.begin, herr] using hgrow

/-- A payload that reaches the assembler while it holds a frame. -/
theorem keeps_accumulate {cfg : UvcConfig} {ops : List AsmOp} {s : Assembler}
    (hinv : AsmInv cfg s ops) (hphase : s.phase = .accum) (p : TimedPayload) {hlen : Nat}
    {info : UInt8} (hpar : parseUvcHeader cfg.strict p.1 = some (hlen, info)) :
    Keeps cfg ops p.op (s.accumulate cfg info (p.1.drop hlen) p.2) := by
  obtain ⟨pre, seg, fid, hops, hne, hhold⟩ := hinv hphase
  cases herr : errBit info with
  | true =>
      simp only [Assembler.accumulate, herr, if_true]
      exact keeps_of_ne_accum (by simp [Assembler.dropFrame])
  | false =>
      by_cases hfid : s.fid = some (fidBit info)
      · have hf : fid = fidBit info := Option.some.inj (hhold.fid_eq ▸ hfid)
        subst hf
        have hgrow := keeps_grow pre seg p hops hpar herr (hhold.ts_irrel hne p.2)
        simpa [Assembler.accumulate, Assembler.toggle, herr, hfid] using hgrow
      · -- the toggle emits the frame held so far, and the payload starts the next one
        have hnew := keeps_begin ops (s.finalize cfg).1 p hpar
        have hacc : s.accumulate cfg info (p.1.drop hlen) p.2 =
            (((s.finalize cfg).1.begin (fidBit info) p.2).accumulate cfg info (p.1.drop hlen) p.2
              |>.map id ((s.finalize cfg).2 ++ ·)) := by
          simp only [Assembler.accumulate, Assembler.toggle, herr, if_neg hfid, Assembler.begin]
          cases eofBit info <;> simp
        rw [hacc]
        refine ⟨hnew.1, fun f hf => ?_⟩
        rcases List.mem_append.mp hf with hf | hf
        · refine ⟨pre, seg, [p.op], by rw [hops], hhold.frameFrom hne hf⟩
        · exact hnew.2 f hf

/-- **Assembler step**: what the assembler holds stays a run of fed payloads,
and what it emits is one. -/
theorem asmStep_keeps {cfg : UvcConfig} {ops : List AsmOp} {s : Assembler}
    (hinv : AsmInv cfg s ops) {op : AsmOp} (hop : op ≠ .overrun) :
    Keeps cfg ops op (asmStep cfg s op) := by
  cases op with
  | overrun => exact absurd rfl hop
  | lost => exact keeps_of_ne_accum (poison_phase _)
  | feed payload ts =>
      simp only [asmStep, Assembler.feed]
      cases hpar : parseUvcHeader cfg.strict payload with
      | none => exact keeps_of_ne_accum (poison_phase _)
      | some h =>
          obtain ⟨hlen, info⟩ := h
          have hnew := keeps_begin ops s (payload, ts) hpar
          simp only [Assembler.feedData]
          cases hphase : s.phase with
          | await =>
              dsimp only
              split
              · exact keeps_of_ne_accum (by simp [Assembler.noteTrailing, hphase])
              · exact hnew
          | skip =>
              dsimp only
              split
              · exact keeps_of_ne_accum (by simp [hphase])
              · exact hnew
          | accum => exact keeps_accumulate hinv hphase (payload, ts) hpar

theorem Emitted.append {cfg : UvcConfig} {ops : List AsmOp} {f : UvcFrame} (h : Emitted cfg ops f)
    (ops' : List AsmOp) : Emitted cfg (ops ++ ops') f := by
  obtain ⟨pre, seg, post, rfl, hf⟩ := h
  exact ⟨pre, seg, post ++ ops', by simp, hf⟩

/-- **Assembler soundness**: every frame is made of payloads that were fed one
after the other. -/
theorem emitted_of_mem_asmFrames {cfg : UvcConfig} {ops : List AsmOp} (hops : .overrun ∉ ops)
    {f : UvcFrame} (hf : f ∈ asmFrames cfg .reset ops) : Emitted cfg ops f := by
  suffices h : ∀ (done ops : List AsmOp) (s : Assembler), .overrun ∉ ops → AsmInv cfg s done →
      ∀ f ∈ asmFrames cfg s ops, Emitted cfg (done ++ ops) f from
    h [] ops .reset hops nofun f hf
  intro done ops
  induction ops generalizing done with
  | nil => exact fun _ _ _ f hf => by simp at hf
  | cons op ops ih =>
      intro s hno hinv f hf
      rw [List.mem_cons, not_or] at hno
      obtain ⟨hinv', hemit⟩ := asmStep_keeps hinv (fun h => hno.1 h.symm)
      rw [asmFrames_cons, List.mem_append] at hf
      rw [List.append_cons]
      rcases hf with hf | hf
      · exact (hemit f hf).append ops
      · exact ih (done ++ [op]) _ hno.2 hinv' f hf

end CamDriver.Uvc
