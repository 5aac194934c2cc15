import CamDriver.Uvc.Assembler

/-!
# CamDriver.Uvc.RoundTrip

Frames in, the same frames out: a description of the payload sequences a UVC
camera sends (`SentFrame`, `Sent`), and the theorem that the assembler gives
back exactly the frames they carry.

A frame is cut into payloads at arbitrary points, some of them header-only.
Its EOF is set on the last payload or lost; in the latter case the next
captured frame has the other FID.  After an EOF the camera may send
header-only keepalives, and the next frames may be lost altogether, so that
the next captured one repeats the FID.

The proof walks one payload at a time.  `Boundary` is the state between two
frames, `Filling` the state inside one, and `parts_run` is the induction over
the payloads of a frame.
-/

namespace CamDriver.Uvc

/-! ## What a camera sends -/

/-- One payload, with the time of its URB. -/
structure SentPayload where
  header : UvcHeader
  data : List UInt8
  ts : Int

def SentPayload.op (p : SentPayload) : AsmOp := .feed (p.header.encode p.data) p.ts

/-- One captured frame: its payloads, and what follows it on the wire. -/
structure SentFrame where
  parts : List SentPayload
  eofLost : Bool
  keepalives : List SentPayload
  lostAfter : Bool

namespace SentFrame

/-- The bytes the payloads carry. -/
def bytes (f : SentFrame) : List UInt8 := f.parts.flatMap SentPayload.data

def ops (f : SentFrame) : List AsmOp := (f.parts ++ f.keepalives).map SentPayload.op

/-- All payloads carry the frame's FID, EOF is on the last one or nowhere, and
keepalives and lost frames only follow an EOF. -/
structure Valid (f : SentFrame) (fid : Bool) : Prop where
  nonempty : f.bytes ≠ []
  parts_fid : ∀ p ∈ f.parts, p.header.fid = fid
  eof_init : ∀ p ∈ f.parts.dropLast, p.header.eof = false
  eof_last : ∀ p ∈ f.parts.getLast?, p.header.eof = !f.eofLost
  keepalives_fid : ∀ p ∈ f.keepalives, p.header.fid = fid ∧ p.data = []
  keepalives_eof : f.eofLost = true → f.keepalives = []
  lostAfter_eof : f.eofLost = true → f.lostAfter = false

end SentFrame

/-- A capture: FIDs alternate from frame to frame, except across lost frames,
and the last frame keeps its EOF. -/
def Sent : Bool → List SentFrame → Prop
  | _, [] => True
  | fid, f :: fs =>
    f.Valid fid ∧ (fs = [] → f.eofLost = false) ∧ Sent (if f.lostAfter then fid else !fid) fs

/-! ## One payload -/

/-- A payload with a device's header reaches the assembler as its info bits
and its data. -/
theorem asmStep_op {cfg : UvcConfig} (hs : cfg.strict = false) (s : Assembler) (p : SentPayload) :
    asmStep cfg s p.op = s.feedData cfg p.header.info p.data p.ts := by
  simp only [SentPayload.op, asmStep, Assembler.feed, hs, UvcHeader.parseUvcHeader_encode,
    UvcHeader.drop_length_encode]

/-- No payload was rejected so far. -/
structure AsmStats.Clean (stats : AsmStats) : Prop where
  sizeDrops : stats.sizeDrops = 0
  errFrames : stats.errFrames = 0
  badHeader : stats.badHeader = 0

/-- Inside a frame: `b` has been assembled. -/
structure Filling (s : Assembler) (fid : Bool) (b : List UInt8) : Prop where
  phase : s.phase = .accum
  fid_eq : s.fid = some fid
  buf : s.buf = b
  clean : s.stats.Clean

/-- Between two frames, the next one having the given FID: either the last
frame is finished, or it is complete and waits for the toggle. -/
inductive Boundary (n : Nat) (s : Assembler) (fid : Bool) : List (List UInt8) → Prop where
  | idle (phase : s.phase = .await) (clean : s.stats.Clean) : Boundary n s fid []
  | waiting (filling : Filling s (!fid) b) (size : b.length = n) : Boundary n s fid [b]

theorem Filling.begin {s : Assembler} (hc : s.stats.Clean) (fid : Bool) (ts : Int) :
    Filling (s.begin fid ts) fid [] :=
  ⟨rfl, rfl, rfl, hc⟩

/-- A frame of the expected size is emitted. -/
theorem finalize_of_length {cfg : UvcConfig} (hm : cfg.mjpeg = false) {s : Assembler}
    (hn : cfg.expectedSize = some s.buf.length) :
    s.finalize cfg = ({ s with buf := [] }.noteOk, [(s.startTs, s.buf)]) := by
  simp [Assembler.finalize, hm, hn]

/-- A payload of the current frame: its data is appended, and an EOF finalizes. -/
theorem accumulate_of_fid {cfg : UvcConfig} {s : Assembler} {p : SentPayload}
    (hfid : s.fid = some p.header.fid) :
    s.accumulate cfg p.header.info p.data p.ts =
      if p.header.eof then
        let f := { s with buf := s.buf ++ p.data }.finalize cfg
        ({ f.1 with phase := .await }, f.2)
      else ({ s with buf := s.buf ++ p.data }, []) := by
  simp [Assembler.accumulate, Assembler.toggle, hfid]

/-- A payload inside a frame, without EOF. -/
theorem accumulate_mid (cfg : UvcConfig) {s : Assembler} {fid : Bool} {b : List UInt8}
    (h : Filling s fid b) {p : SentPayload} (hf : p.header.fid = fid)
    (he : p.header.eof = false) :
    Filling (s.accumulate cfg p.header.info p.data p.ts).1 fid (b ++ p.data) ∧
      (s.accumulate cfg p.header.info p.data p.ts).2 = [] := by
  obtain ⟨hp, hfid, hbuf, hc⟩ := h
  rw [accumulate_of_fid (hf ▸ hfid), he]
  exact ⟨⟨hp, hfid, by simp [hbuf], hc⟩, rfl⟩

/-- The payload that carries a frame's EOF. -/
theorem accumulate_last {cfg : UvcConfig} (hm : cfg.mjpeg = false) {s : Assembler} {fid : Bool}
    {b : List UInt8} (h : Filling s fid b) {p : SentPayload} (hf : p.header.fid = fid)
    (he : p.header.eof = true) (hn : cfg.expectedSize = some (b ++ p.data).length) :
    let r := s.accumulate cfg p.header.info p.data p.ts
    r.1.phase = .await ∧ r.1.fid = some fid ∧ r.1.stats.Clean ∧
      r.2.map Prod.snd = [b ++ p.data] := by
  obtain ⟨hp, hfid, hbuf, hc⟩ := h
  rw [accumulate_of_fid (hf ▸ hfid), he]
  dsimp only
  rw [if_pos rfl, finalize_of_length hm (by simpa [hbuf] using hn)]
  exact ⟨rfl, hfid, ⟨hc.sizeDrops, hc.errFrames, hc.badHeader⟩, by simp [hbuf]⟩

/-- A payload at a frame boundary is a keepalive-like one without data, or it
starts the frame after emitting the one that waited. -/
theorem feedData_boundary {cfg : UvcConfig} (hm : cfg.mjpeg = false) {n : Nat}
    (hn : cfg.expectedSize = some n) {s : Assembler} {fid : Bool} {pend : List (List UInt8)}
    (h : Boundary n s fid pend) {p : SentPayload} (hf : p.header.fid = fid) :
    (p.data = [] ∧ s.feedData cfg p.header.info p.data p.ts = (s.noteTrailing, []) ∧ pend = []) ∨
    ∃ s₀ out, Filling s₀ fid [] ∧ out.map Prod.snd = pend ∧
      s.feedData cfg p.header.info p.data p.ts =
        ((s₀.accumulate cfg p.header.info p.data p.ts).1,
          out ++ (s₀.accumulate cfg p.header.info p.data p.ts).2) := by
  cases h with
  | idle hp hc =>
      by_cases hk : s.fid = some fid ∧ p.data = []
      · left
        simp [Assembler.feedData, hp, hf, hk]
      · right
        refine ⟨s.begin fid p.ts, [], Filling.begin hc fid p.ts, rfl, ?_⟩
        simp only [Assembler.feedData, hp, UvcHeader.fidBit_info, hf]
        rw [if_neg hk]
        rfl
  | @waiting b hfill hsize =>
      right
      obtain ⟨hp, hfid, hbuf, hc⟩ := hfill
      have hlen : cfg.expectedSize = some s.buf.length := by rw [hbuf, hsize, hn]
      have hfin := finalize_of_length hm hlen
      have hclean : ({ s with buf := [] }.noteOk).stats.Clean :=
        ⟨hc.sizeDrops, hc.errFrames, hc.badHeader⟩
      refine ⟨({ s with buf := [] }.noteOk).begin fid p.ts, [(s.startTs, s.buf)],
        Filling.begin hclean fid p.ts, by simp [hbuf], ?_⟩
      have hne : s.fid ≠ some fid := by rw [hfid]; simp
      rw [accumulate_of_fid (by rw [hf]; rfl)]
      simp only [Assembler.feedData, hp, Assembler.accumulate, Assembler.toggle,
        UvcHeader.errBit_info, UvcHeader.fidBit_info, UvcHeader.eofBit_info, hf, if_neg hne, hfin]
      cases p.header.eof <;> simp [Assembler.begin]

/-! ## The payloads of a frame -/

/-- Where the assembler stands within a frame: `b` is assembled, and `pend` is
what it still has to emit for the frame before. -/
inductive Within (n : Nat) (s : Assembler) (fid : Bool) :
    List UInt8 → List (List UInt8) → Prop where
  | start (h : Boundary n s fid pend) : Within n s fid [] pend
  | inside (h : Filling s fid b) : Within n s fid b []

/-- A payload without EOF extends what is assembled, and emits what waited. -/
theorem within_mid {cfg : UvcConfig} (hm : cfg.mjpeg = false) {n : Nat}
    (hn : cfg.expectedSize = some n) {s : Assembler} {fid : Bool} {b : List UInt8}
    {pend : List (List UInt8)} (h : Within n s fid b pend) {p : SentPayload}
    (hf : p.header.fid = fid) (he : p.header.eof = false) :
    Within n (s.feedData cfg p.header.info p.data p.ts).1 fid (b ++ p.data) [] ∧
      (s.feedData cfg p.header.info p.data p.ts).2.map Prod.snd = pend := by
  cases h with
  | start hb =>
      rcases feedData_boundary hm hn hb hf with ⟨hd, heq, rfl⟩ | ⟨s₀, out, hfill, hout, heq⟩
      · have hb' : Boundary n s.noteTrailing fid [] := by
          cases hb with
          | idle hp hc => exact .idle hp ⟨hc.sizeDrops, hc.errFrames, hc.badHeader⟩
        rw [heq, hd]
        exact ⟨.start hb', rfl⟩
      · obtain ⟨hfill', hnil⟩ := accumulate_mid cfg hfill hf he
        rw [heq, hnil, List.append_nil]
        exact ⟨.inside hfill', hout⟩
  | inside hfill =>
      obtain ⟨hfill', hnil⟩ := accumulate_mid cfg hfill hf he
      have hp : s.feedData cfg p.header.info p.data p.ts =
          s.accumulate cfg p.header.info p.data p.ts := by
        simp [Assembler.feedData, hfill.phase]
      rw [hp, hnil]
      exact ⟨.inside hfill', rfl⟩

/-- The payload with the EOF completes the frame. -/
theorem within_last {cfg : UvcConfig} (hm : cfg.mjpeg = false) {s : Assembler} {fid : Bool}
    {b : List UInt8} {pend : List (List UInt8)} {p : SentPayload}
    (hn : cfg.expectedSize = some (b ++ p.data).length) (hne : b ++ p.data ≠ [])
    (h : Within (b ++ p.data).length s fid b pend) (hf : p.header.fid = fid)
    (he : p.header.eof = true) :
    let r := s.feedData cfg p.header.info p.data p.ts
    r.1.phase = .await ∧ r.1.fid = some fid ∧ r.1.stats.Clean ∧
      r.2.map Prod.snd = pend ++ [b ++ p.data] := by
  cases h with
  | start hb =>
      rcases feedData_boundary hm hn hb hf with ⟨hd, -, -⟩ | ⟨s₀, out, hfill, hout, heq⟩
      · exact absurd hd hne
      · obtain ⟨h1, h2, h3, h4⟩ := accumulate_last hm hfill hf he hn
        rw [heq]
        exact ⟨h1, h2, h3, by rw [List.map_append, hout, h4]⟩
  | inside hfill =>
      have hp : s.feedData cfg p.header.info p.data p.ts =
          s.accumulate cfg p.header.info p.data p.ts := by
        simp [Assembler.feedData, hfill.phase]
      rw [hp]
      exact accumulate_last hm hfill hf he hn

/-- **Frame run**: the payloads of a frame, from `b` on.  With its EOF the frame
is emitted; without it the assembler holds the whole frame. -/
theorem parts_run {cfg : UvcConfig} (hm : cfg.mjpeg = false) (hs : cfg.strict = false)
    {fid eof : Bool} {pend : List (List UInt8)} :
    (parts : List SentPayload) → (s : Assembler) → (b : List UInt8) → parts ≠ [] →
    cfg.expectedSize = some (b ++ parts.flatMap SentPayload.data).length →
    b ++ parts.flatMap SentPayload.data ≠ [] →
    Within (b ++ parts.flatMap SentPayload.data).length s fid b pend →
    (∀ p ∈ parts, p.header.fid = fid) → (∀ p ∈ parts.dropLast, p.header.eof = false) →
    (∀ p ∈ parts.getLast?, p.header.eof = eof) →
    let s' := asmFinal cfg s (parts.map SentPayload.op)
    (asmFrames cfg s (parts.map SentPayload.op)).map Prod.snd =
        pend ++ (if eof then [b ++ parts.flatMap SentPayload.data] else []) ∧
      (eof = true → s'.phase = .await ∧ s'.fid = some fid ∧ s'.stats.Clean) ∧
      (eof = false → Filling s' fid (b ++ parts.flatMap SentPayload.data))
  | [], _, _, hne, _, _, _, _, _, _ => absurd rfl hne
  | [p], s, b, _, hn, hnb, hw, hfid, _, hlast => by
      simp only [List.flatMap_cons, List.flatMap_nil, List.append_nil] at hn hnb hw ⊢
      have hf := hfid p (by simp)
      have he : p.header.eof = eof := hlast p (by simp)
      simp only [List.map_cons, List.map_nil, asmFrames_cons, asmFrames_nil, asmFinal_cons,
        asmFinal_nil, asmStep_op hs, List.append_nil]
      cases eof with
      | true =>
          obtain ⟨h1, h2, h3, h4⟩ := within_last hm hn hnb hw hf he
          exact ⟨by simpa using h4, fun _ => ⟨h1, h2, h3⟩, nofun⟩
      | false =>
          obtain ⟨hw', hout⟩ := within_mid hm hn hw hf he
          refine ⟨by simpa using hout, nofun, fun _ => ?_⟩
          generalize hbd : b ++ p.data = bd at hw' hnb
          cases hw' with
          | start => exact absurd rfl hnb
          | inside h => exact h
  | p :: q :: ps, s, b, _, hn, hnb, hw, hfid, hinit, hlast => by
      have hf := hfid p (by simp)
      have he : p.header.eof = false := hinit p (by simp)
      obtain ⟨hw', hout⟩ := within_mid hm hn hw hf he
      have hassoc : b ++ (p :: q :: ps).flatMap SentPayload.data =
          b ++ p.data ++ (q :: ps).flatMap SentPayload.data := by simp
      rw [hassoc] at hn hnb hw' ⊢
      have ih := parts_run hm hs (q :: ps)
        (s.feedData cfg p.header.info p.data p.ts).1 (b ++ p.data) (by simp) hn hnb hw'
        (fun r hr => hfid r (List.mem_cons_of_mem _ hr))
        (fun r hr => hinit r
          (by simp only [List.dropLast_cons_cons]; exact List.mem_cons_of_mem _ hr))
        (fun r hr => hlast r (by simpa using hr))
      simp only [List.map_cons, asmFrames_cons, asmFinal_cons, asmStep_op hs, List.map_append,
        hout] at ih ⊢
      exact ⟨by rw [ih.1, List.nil_append], ih.2⟩

/-- Header-only payloads with the finished FID change nothing but a counter. -/
theorem keepalives_run {cfg : UvcConfig} (hs : cfg.strict = false) {fid : Bool}
    (ks : List SentPayload) {s : Assembler} (hp : s.phase = .await) (hf : s.fid = some fid)
    (hc : s.stats.Clean) (hk : ∀ p ∈ ks, p.header.fid = fid ∧ p.data = []) :
    let s' := asmFinal cfg s (ks.map SentPayload.op)
    asmFrames cfg s (ks.map SentPayload.op) = [] ∧
      s'.phase = .await ∧ s'.fid = some fid ∧ s'.stats.Clean := by
  induction ks generalizing s with
  | nil => exact ⟨rfl, hp, hf, hc⟩
  | cons p ks ih =>
      obtain ⟨hpf, hpd⟩ := hk p List.mem_cons_self
      have hstep : asmStep cfg s p.op = (s.noteTrailing, []) := by
        simp [asmStep_op hs, Assembler.feedData, hp, hf, hpf, hpd]
      simp only [List.map_cons, asmFrames_cons, asmFinal_cons, hstep, List.nil_append]
      exact ih hp hf ⟨hc.sizeDrops, hc.errFrames, hc.badHeader⟩
        (fun r hr => hk r (List.mem_cons_of_mem _ hr))

/-! ## Whole captures -/

/-- **One frame**: from a boundary, the frame that waited is emitted and, unless
its EOF was lost, the frame itself; the next boundary waits for the rest. -/
theorem frame_run {cfg : UvcConfig} (hm : cfg.mjpeg = false) (hs : cfg.strict = false)
    {f : SentFrame} {fid : Bool} {pend : List (List UInt8)} {s : Assembler} (hv : f.Valid fid)
    (hn : cfg.expectedSize = some f.bytes.length) (hb : Boundary f.bytes.length s fid pend) :
    (asmFrames cfg s f.ops).map Prod.snd = pend ++ (if f.eofLost then [] else [f.bytes]) ∧
      Boundary f.bytes.length (asmFinal cfg s f.ops) (if f.lostAfter then fid else !fid)
        (if f.eofLost then [f.bytes] else []) := by
  have hne : f.parts ≠ [] := fun h => hv.nonempty (by simp [SentFrame.bytes, h])
  obtain ⟨hout, heof, hlost⟩ := parts_run hm hs f.parts s [] hne hn hv.nonempty (.start hb)
    hv.parts_fid hv.eof_init hv.eof_last
  rw [SentFrame.ops, List.map_append, asmFrames_append, asmFinal_append, List.map_append, hout]
  cases he : f.eofLost with
  | false =>
      obtain ⟨hp, hf, hc⟩ := heof (by rw [he]; rfl)
      obtain ⟨hk, hp', hf', hc'⟩ := keepalives_run hs f.keepalives hp hf hc hv.keepalives_fid
      rw [hk]
      exact ⟨by simp [SentFrame.bytes], .idle hp' hc'⟩
  | true =>
      rw [hv.keepalives_eof he, hv.lostAfter_eof he]
      have hfill := hlost (by rw [he]; rfl)
      refine ⟨by simp, .waiting ?_ rfl⟩
      simpa [SentFrame.bytes] using hfill

/-- **Capture run**: from a boundary, the frame that waited and every frame of
the capture are emitted, and no counter of rejected payloads moves. -/
theorem sent_run {cfg : UvcConfig} (hm : cfg.mjpeg = false) (hs : cfg.strict = false) {n : Nat}
    (hn : cfg.expectedSize = some n) (fs : List SentFrame) {fid : Bool}
    {pend : List (List UInt8)} {s : Assembler} (hsent : Sent fid fs)
    (hlen : ∀ f ∈ fs, f.bytes.length = n) (hb : Boundary n s fid pend) (hne : fs = [] → pend = []) :
    let s' := asmFinal cfg s (fs.flatMap SentFrame.ops)
    (asmFrames cfg s (fs.flatMap SentFrame.ops)).map Prod.snd = pend ++ fs.map SentFrame.bytes ∧
      s'.phase = .await ∧ s'.stats.Clean := by
  induction fs generalizing fid pend s with
  | nil =>
      cases hb with
      | idle hp hc => exact ⟨rfl, hp, hc⟩
      | waiting => cases hne rfl
  | cons f fs ih =>
      obtain ⟨hv, hlast, hrest⟩ := hsent
      have hfn := hlen f List.mem_cons_self
      subst hfn
      obtain ⟨hout, hb'⟩ := frame_run hm hs hv hn hb
      have hne' : fs = [] → (if f.eofLost then [f.bytes] else []) = [] := fun h => by
        rw [hlast h]; rfl
      obtain ⟨ho, hp, hc⟩ := ih hrest (fun g hg => hlen g (List.mem_cons_of_mem _ hg)) hb' hne'
      rw [List.flatMap_cons, asmFrames_append, asmFinal_append, List.map_append, hout, ho]
      refine ⟨?_, hp, hc⟩
      cases f.eofLost <;> simp

/-- **UVC round trip**: the payloads of any capture, fed in order from the reset
state, yield exactly the frames sent, each once and in order, and nothing is
dropped or rejected on the way. -/
theorem frames_of_sent {cfg : UvcConfig} (hm : cfg.mjpeg = false) (hs : cfg.strict = false)
    {n : Nat} (hn : cfg.expectedSize = some n) {fid : Bool} {fs : List SentFrame}
    (hsent : Sent fid fs) (hlen : ∀ f ∈ fs, f.bytes.length = n) :
    let s' := asmFinal cfg .reset (fs.flatMap SentFrame.ops)
    (asmFrames cfg .reset (fs.flatMap SentFrame.ops)).map Prod.snd = fs.map SentFrame.bytes ∧
      s'.stats.sizeDrops = 0 ∧ s'.stats.errFrames = 0 ∧ s'.stats.badHeader = 0 := by
  have hb : Boundary n .reset fid [] := .idle rfl ⟨rfl, rfl, rfl⟩
  obtain ⟨ho, -, hc⟩ := sent_run hm hs hn fs hsent hlen hb (fun _ => rfl)
  exact ⟨ho, hc.sizeDrops, hc.errFrames, hc.badHeader⟩

/-- A bare payload header, as thermal cores send it. -/
def bareHeader (fid eof : Bool) : UvcHeader :=
  { fid, eof, res := false, sti := false, eoh := false, pts := none, scr := none, pad := [],
    pts_length := nofun, scr_length := nofun, fits := by decide }

/-- Three frames of two bytes: a frame in two payloads with a keepalive after
its EOF, one that loses its EOF and repeats the FID because the frame between
them was lost, and a last one that starts with a header-only payload. -/
def threeFrames : List SentFrame :=
  [{ parts := [⟨bareHeader false false, [1], 10⟩, ⟨bareHeader false true, [2], 11⟩],
     eofLost := false, keepalives := [⟨bareHeader false true, [], 12⟩], lostAfter := true },
   { parts := [⟨bareHeader false false, [3, 4], 30⟩],
     eofLost := true, keepalives := [], lostAfter := false },
   { parts := [⟨bareHeader true false, [], 40⟩, ⟨bareHeader true true, [5, 6], 41⟩],
     eofLost := false, keepalives := [], lostAfter := false }]

theorem sent_threeFrames : Sent false threeFrames := by
  refine ⟨⟨?_, ?_, ?_, ?_, ?_, ?_, ?_⟩, by decide, ⟨?_, ?_, ?_, ?_, ?_, ?_, ?_⟩, by decide,
    ⟨?_, ?_, ?_, ?_, ?_, ?_, ?_⟩, by decide, trivial⟩ <;> simp [bareHeader, SentFrame.bytes]

theorem frames_of_threeFrames :
    let cfg : UvcConfig :=
      { expectedSize := some 2, mjpeg := false, maxPayload := 0, strict := false }
    let s' := asmFinal cfg .reset (threeFrames.flatMap SentFrame.ops)
    (asmFrames cfg .reset (threeFrames.flatMap SentFrame.ops)).map Prod.snd =
        [[1, 2], [3, 4], [5, 6]] ∧
      s'.stats.sizeDrops = 0 ∧ s'.stats.errFrames = 0 ∧ s'.stats.badHeader = 0 :=
  frames_of_sent rfl rfl rfl sent_threeFrames (by simp [threeFrames, SentFrame.bytes])

end CamDriver.Uvc
