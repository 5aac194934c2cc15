import CamDriver.Uvc.Sound

/-!
# CamDriver.Uvc.FrameTime

When a frame carries the time of its first data byte.

`Dated` is the assembler with one thing more on record: the time of the payload that
contributed the first byte of the frame being assembled.  Without it, it is the assembler
(`map_fst_datedFrames`).  The assembler takes the time of the payload that begins a frame,
which need not bring any data.
-/

namespace CamDriver.Uvc

/-- A frame, with the time of the payload its first byte is from. -/
abbrev DatedFrame := UvcFrame × Option Int

/-- The assembler, with the time of the payload the first byte of its frame is from. -/
structure Dated where
  asm : Assembler
  first : Option Int
deriving DecidableEq, Repr

namespace Dated

/-! ## The assembler, on record -/

def reset : Dated := { asm := .reset, first := none }

def finalize (cfg : UvcConfig) (d : Dated) : Dated × List DatedFrame :=
  let r := d.asm.finalize cfg
  ({ asm := r.1, first := none }, r.2.map (·, d.first))

def begin (d : Dated) (fid : Bool) (ts : Int) : Dated :=
  { asm := d.asm.begin fid ts, first := none }

def toggle (cfg : UvcConfig) (d : Dated) (fid : Bool) (ts : Int) : Dated × List DatedFrame :=
  if d.asm.fid = some fid then (d, [])
  else
    let r := d.finalize cfg
    (r.1.begin fid ts, r.2)

/-- The data of a payload at `ts`: its first byte is the frame's where there is none
yet. -/
def grow (d : Dated) (data : List UInt8) (ts : Int) : Dated :=
  { asm := { d.asm with buf := d.asm.buf ++ data }
    first := d.first.or (if data = [] then none else some ts) }

def accumulate (cfg : UvcConfig) (d : Dated) (info : UInt8) (data : List UInt8) (ts : Int) :
    Dated × List DatedFrame :=
  if errBit info then ({ asm := d.asm.noteErr.dropFrame, first := none }, [])
  else
    let r := d.toggle cfg (fidBit info) ts
    let grown := r.1.grow data ts
    if eofBit info then
      let f := grown.finalize cfg
      ({ f.1 with asm := { f.1.asm with phase := .await } }, r.2 ++ f.2)
    else (grown, r.2)

def feedData (cfg : UvcConfig) (d : Dated) (info : UInt8) (data : List UInt8) (ts : Int) :
    Dated × List DatedFrame :=
  match d.asm.phase with
  | .await =>
    if d.asm.fid = some (fidBit info) ∧ data = [] then ({ d with asm := d.asm.noteTrailing }, [])
    else (d.begin (fidBit info) ts).accumulate cfg info data ts
  | .skip =>
    if d.asm.fid = some (fidBit info) then (d, [])
    else (d.begin (fidBit info) ts).accumulate cfg info data ts
  | .accum => d.accumulate cfg info data ts

def feed (cfg : UvcConfig) (d : Dated) (p : TimedPayload) : Dated × List DatedFrame :=
  match parseUvcHeader cfg.strict p.1 with
  | none => ({ asm := d.asm.noteBadHeader.poison, first := none }, [])
  | some (hlen, info) => d.feedData cfg info (p.1.drop hlen) p.2

/-! ## The record alone is added -/

/-- Without the record, the one is the other. -/
structure Erases (r : Dated × List DatedFrame) (s : Assembler × List UvcFrame) : Prop where
  asm : r.1.asm = s.1
  frames : r.2.map Prod.fst = s.2

/-- The record is not looked at when a frame ends. -/
theorem finalize_erases (cfg : UvcConfig) (d : Dated) :
    Erases (d.finalize cfg) (d.asm.finalize cfg) :=
  ⟨rfl, by simp [finalize, Function.comp_def]⟩

/-- Nor is it when the frame ID changes. -/
theorem toggle_erases (cfg : UvcConfig) (d : Dated) (fid : Bool) (ts : Int) :
    Erases (d.toggle cfg fid ts) (d.asm.toggle cfg fid ts) := by
  unfold toggle Assembler.toggle
  split
  · exact ⟨rfl, rfl⟩
  · exact ⟨rfl, (finalize_erases cfg d).frames⟩

theorem accumulate_erases (cfg : UvcConfig) (d : Dated) (info : UInt8) (data : List UInt8)
    (ts : Int) : Erases (d.accumulate cfg info data ts) (d.asm.accumulate cfg info data ts) := by
  unfold accumulate Assembler.accumulate
  split
  · exact ⟨rfl, rfl⟩
  · have toggled := toggle_erases cfg d (fidBit info) ts
    have finalized := finalize_erases cfg ((d.toggle cfg (fidBit info) ts).1.grow data ts)
    dsimp only [grow] at finalized ⊢
    rw [toggled.asm] at finalized ⊢
    split
    · exact ⟨congrArg (fun s => { s with phase := .await }) finalized.asm,
        by rw [List.map_append, toggled.frames, finalized.frames]⟩
    · exact ⟨rfl, toggled.frames⟩

theorem feedData_erases (cfg : UvcConfig) (d : Dated) (info : UInt8) (data : List UInt8)
    (ts : Int) : Erases (d.feedData cfg info data ts) (d.asm.feedData cfg info data ts) := by
  have begun := accumulate_erases cfg (d.begin (fidBit info) ts) info data ts
  unfold feedData Assembler.feedData
  cases d.asm.phase with
  | await =>
      dsimp only
      split
      · exact ⟨rfl, rfl⟩
      · exact begun
  | skip =>
      dsimp only
      split
      · exact ⟨rfl, rfl⟩
      · exact begun
  | accum => exact accumulate_erases cfg d info data ts

/-- So it is not over a whole payload. -/
theorem feed_erases (cfg : UvcConfig) (d : Dated) (p : TimedPayload) :
    Erases (d.feed cfg p) (asmStep cfg d.asm p.op) := by
  rw [TimedPayload.op, asmStep, feed, Assembler.feed]
  cases parseUvcHeader cfg.strict p.1 with
  | none => exact ⟨rfl, rfl⟩
  | some header => exact feedData_erases cfg d header.2 _ p.2

end Dated

/-- The frames some payloads yield, each with the time its first byte came at. -/
def datedFrames (cfg : UvcConfig) (d : Dated) (payloads : List TimedPayload) :
    List DatedFrame :=
  (Machine.history (Dated.feed cfg) d payloads).flatMap Prod.snd

/-- The frames are those of the extractor. -/
theorem map_fst_datedFrames (cfg : UvcConfig) (d : Dated) (payloads : List TimedPayload) :
    (datedFrames cfg d payloads).map Prod.fst =
      asmFrames cfg d.asm (payloads.map TimedPayload.op) := by
  induction payloads generalizing d with
  | nil => rfl
  | cons p payloads ih =>
      have erased := Dated.feed_erases cfg d p
      calc (datedFrames cfg d (p :: payloads)).map Prod.fst
          = (d.feed cfg p).2.map Prod.fst ++
              (datedFrames cfg (d.feed cfg p).1 payloads).map Prod.fst := by
            rw [datedFrames, Machine.history, List.flatMap_cons, List.map_append]
            rfl
        _ = asmFrames cfg d.asm ((p :: payloads).map TimedPayload.op) := by
            rw [ih, erased.frames, erased.asm, List.map_cons, asmFrames_cons]

/-! ## Frames in time -/

namespace Dated

/-- A payload that brings the first data of a frame an earlier one began has its time. -/
def Prompt (cfg : UvcConfig) (d : Dated) (p : TimedPayload) : Prop :=
  ∀ hlen info, parseUvcHeader cfg.strict p.1 = some (hlen, info) → errBit info = false →
    d.asm.phase = .accum → d.asm.fid = some (fidBit info) → d.first = none →
    p.1.drop hlen ≠ [] → p.2 = d.asm.startTs

/-- The frame being assembled has the time of its first byte. -/
def InTime (d : Dated) : Prop := ∀ t ∈ d.first, d.asm.startTs = t

/-- A frame has the time of its first byte. -/
def Truthful (f : DatedFrame) : Prop := ∀ t ∈ f.2, f.1.1 = t

/-- What a step leaves is in time, and what it yields is truthful. -/
def Keeps (r : Dated × List DatedFrame) : Prop := InTime r.1 ∧ ∀ f ∈ r.2, Truthful f

/-- Nothing is recorded yet. -/
theorem inTime_of_none {d : Dated} (h : d.first = none) : InTime d := by
  intro t ht
  rw [h] at ht
  cases ht

/-- A frame that ends has the time on record. -/
theorem keeps_finalize {cfg : UvcConfig} {d : Dated} (h : InTime d) : Keeps (d.finalize cfg) := by
  refine ⟨inTime_of_none rfl, ?_⟩
  intro f hf t ht
  obtain ⟨frame, hframe, rfl⟩ := List.mem_map.1 hf
  rw [mem_finalize hframe]
  exact h t ht

/-- So has the one that a new frame ID ends. -/
theorem keeps_toggle (cfg : UvcConfig) {d : Dated} (h : InTime d) (fid : Bool) (ts : Int) :
    Keeps (d.toggle cfg fid ts) := by
  unfold toggle
  split
  · exact ⟨h, by simp⟩
  · exact ⟨inTime_of_none rfl, (keeps_finalize h).2⟩

/-- Data come to a frame; the first of them date it. -/
theorem inTime_grow {d : Dated} (h : InTime d) {data : List UInt8} {ts : Int}
    (hts : d.first = none → data ≠ [] → ts = d.asm.startTs) : InTime (d.grow data ts) := by
  intro t ht
  rw [grow] at ht
  cases hfirst : d.first with
  | some time =>
      rw [hfirst] at ht
      cases ht
      exact h t hfirst
  | none =>
      rw [hfirst, Option.none_or] at ht
      by_cases hdata : data = []
      · rw [if_pos hdata] at ht
        cases ht
      · rw [if_neg hdata] at ht
        cases ht
        exact (hts hfirst hdata).symm

/-- After the toggle, data that comes first comes from the payload that began the frame, or
from one at its time. -/
theorem keeps_accumulate {cfg : UvcConfig} {d : Dated} (h : InTime d) {info : UInt8}
    {data : List UInt8} {ts : Int}
    (hts : errBit info = false → d.asm.fid = some (fidBit info) → d.first = none → data ≠ [] →
      ts = d.asm.startTs) :
    Keeps (d.accumulate cfg info data ts) := by
  unfold accumulate
  split
  · exact ⟨inTime_of_none rfl, by simp⟩
  · next herr =>
      have toggled := keeps_toggle cfg h (fidBit info) ts
      have grown : InTime ((d.toggle cfg (fidBit info) ts).1.grow data ts) := by
        refine inTime_grow toggled.1 ?_
        unfold toggle
        split
        · next hfid => exact hts (by simpa using herr) hfid
        · exact fun _ _ => rfl
      dsimp only
      split
      · refine ⟨inTime_of_none rfl, ?_⟩
        intro f hf
        obtain hf | hf := List.mem_append.1 hf
        · exact toggled.2 f hf
        · exact (keeps_finalize grown).2 f hf
      · exact ⟨grown, toggled.2⟩

/-- A payload that comes promptly. -/
theorem keeps_feed {cfg : UvcConfig} {d : Dated} (h : InTime d) {p : TimedPayload}
    (hp : Prompt cfg d p) : Keeps (d.feed cfg p) := by
  unfold feed
  split
  · exact ⟨inTime_of_none rfl, by simp⟩
  · next hlen info hparse =>
      -- a payload that begins the frame it adds to is the first one of it
      have begun : Keeps ((d.begin (fidBit info) p.2).accumulate cfg info (p.1.drop hlen) p.2) :=
        keeps_accumulate (inTime_of_none rfl) fun _ _ _ _ => rfl
      unfold feedData
      split
      · split
        · exact ⟨h, by simp⟩
        · exact begun
      · split
        · exact ⟨h, by simp⟩
        · exact begun
      · next hphase =>
          exact keeps_accumulate h fun herr hfid hfirst hdata =>
            hp hlen info hparse herr hphase hfid hfirst hdata

/-- So in a run whose payloads do, every frame has the time of its first byte. -/
theorem truthful_of_prompt {cfg : UvcConfig} {d : Dated} (h : InTime d)
    {payloads : List TimedPayload} (hp : Machine.Meets (Dated.feed cfg) (Prompt cfg) d payloads) :
    ∀ f ∈ datedFrames cfg d payloads, Truthful f := by
  intro f hf
  obtain ⟨e, he, hmem⟩ := List.mem_flatMap.1 hf
  have step : ∀ d p, InTime d → Prompt cfg d p →
      InTime (d.feed cfg p).1 ∧ ∀ f ∈ (d.feed cfg p).2, Truthful f :=
    fun _ _ hd hp => keeps_feed hd hp
  exact Machine.forall_history_of_meets (D := fun _ frames => ∀ f ∈ frames, Truthful f) step h hp
    e he f hmem

end Dated

/-- Where every payload that brings the first data of a frame has the time of the payload
that began it, the frames of the extractor have the times of their first bytes. -/
theorem frames_truthful (cfg : UvcConfig) (payloads : List TimedPayload)
    (h : Machine.Meets (Dated.feed cfg) (Dated.Prompt cfg) .reset payloads) :
    (datedFrames cfg .reset payloads).map Prod.fst =
        asmFrames cfg .reset (payloads.map TimedPayload.op) ∧
      ∀ f ∈ datedFrames cfg .reset payloads, ∀ t ∈ f.2, f.1.1 = t :=
  ⟨map_fst_datedFrames cfg .reset payloads,
    Dated.truthful_of_prompt (Dated.inTime_of_none rfl) h⟩

/-- A frame that a header alone begins, and that data at the same time follows. -/
theorem frames_truthful_header :
    (datedFrames ⟨some 1, false, 0, false⟩ .reset [([2, 0x80], 7), ([2, 0x82, 0xaa], 7)]).map
        Prod.fst =
        asmFrames ⟨some 1, false, 0, false⟩ .reset
          ([([2, 0x80], 7), ([2, 0x82, 0xaa], 7)].map TimedPayload.op) ∧
      ∀ f ∈ datedFrames ⟨some 1, false, 0, false⟩ .reset [([2, 0x80], 7), ([2, 0x82, 0xaa], 7)],
        ∀ t ∈ f.2, f.1.1 = t := by
  refine frames_truthful _ _ ⟨?_, ?_, trivial⟩
  · intro hlen info _ _ hphase
    cases hphase
  · intro hlen info _ _ _ _ _ _
    rfl

/-- A header alone begins a frame 7 ns before its first data byte. -/
theorem not_frames_truthful :
    ¬ ∀ (cfg : UvcConfig) (payloads : List TimedPayload),
      (payloads.map Prod.snd).Pairwise (· ≤ ·) →
        ∀ f ∈ datedFrames cfg .reset payloads, ∀ t ∈ f.2, f.1.1 = t := by
  intro truthful
  have late := truthful ⟨some 1, false, 0, false⟩ [([2, 0x80], 0), ([2, 0x82, 0xaa], 7)]
    (by decide) ((0, [0xaa]), some 7) (by decide) 7 rfl
  exact absurd late (by decide)

end CamDriver.Uvc
