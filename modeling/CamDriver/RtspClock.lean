import Mathlib.Data.List.Basic
import CamDriver.GstStamps

/-!
# CamDriver.RtspClock

The capture times of `RtspSource`: a frame carries the sender's clock, reconstructed from
RTCP, or the source extrapolates along the PTS from the last frame that did.

`onSenderClock_run` says when a stamp is on the sender's clock, over any frames, with or
without the meta and with or without a PTS, and any number of reopens; a stream that is not
the one the pipelines were built for ends the run.
-/

namespace CamDriver

/-- A `GstReferenceTimestampMeta`; `ntp`: its reference is `timestamp/x-ntp`. -/
structure ReferenceMeta where
  timestamp : Int
  ntp : Bool
deriving DecidableEq, Repr

/-- `_NTP_EPOCH_OFFSET_NS`. -/
def ntpEpochOffsetNs : Int := 2208988800 * 1000000000

/-- The time of a meta, in the Unix epoch. -/
def ReferenceMeta.unixNs (m : ReferenceMeta) : Int :=
  if m.ntp then m.timestamp - ntpEpochOffsetNs else m.timestamp

/-- A frame as it came, and its stamp. -/
structure RtspFrame where
  pts : Option Int
  reference : Option ReferenceMeta
  stamp : FrameStamp
deriving DecidableEq, Repr

/-- What the probe of the stream finds: codec and size. -/
structure StreamShape where
  codec : String
  width : Nat
  height : Nat
deriving DecidableEq, Repr

/-- `RtspSource`; `frames` are those of the running incarnation, the last one last. -/
structure RtspSource where
  shape : StreamShape
  stamps : StampSource
  anchor : Option (Int × Int)
  frames : List RtspFrame
deriving DecidableEq, Repr

/-- What `open` comes to: a probe wins over the config. -/
def RtspSource.opened (config : StreamShape) (probed : Option StreamShape) : RtspSource :=
  { shape := probed.getD config, stamps := .init, anchor := none, frames := [] }

namespace RtspSource

/-- `_extract_capture`. -/
def extractCapture (anchor : Option (Int × Int)) (pts : Option Int)
    (reference : Option ReferenceMeta) :
    Option (Int × TimestampSource) × Option (Int × Int) :=
  match reference with
  | some m => (some (m.unixNs, .rtpNtp), (pts.map fun p => (p, m.unixNs)).orElse fun _ => anchor)
  | none =>
    match anchor, pts with
    | some (aPts, aTs), some p => (some (aTs + (p - aPts), .rtpNtp), anchor)
    | _, _ => (none, anchor)

/-- `_new_stamp`. -/
def newStamp (s : RtspSource) (now : Int) (pts : Option Int) (reference : Option ReferenceMeta) :
    FrameStamp × RtspSource :=
  let e := extractCapture s.anchor pts reference
  let r := s.stamps.newStamp now { pts, capture := e.1 }
  (r.1, { s with
    stamps := r.2, anchor := e.2, frames := s.frames ++ [{ pts, reference, stamp := r.1 }] })

/-- `_stamp_probe` of the base class, with its `_new_stamp`. -/
def stampProbe (s : RtspSource) (cameNs now : Int) (pts : Option Int)
    (reference : Option ReferenceMeta) : RtspSource :=
  { (s.newStamp now pts reference).2 with
    stamps := s.stamps.stampProbe cameNs now
      { pts, capture := (extractCapture s.anchor pts reference).1 } }

/-- `_stamp_for` of the base class, of either branch: where a stamp is kept, no other is made. -/
def stampFor (s : RtspSource) (now : Int) (pts : Option Int) (reference : Option ReferenceMeta) :
    FrameStamp × RtspSource :=
  if s.stamps.stamps.entries = [] then s.newStamp now pts reference
  else ((s.stamps.stampFor now { pts, capture := none }).1, s)

/-- `reopen`, up to what a probe finds; `none`: `SourceConfigChanged`. -/
def reopen (s : RtspSource) (probed : Option StreamShape) : Option RtspSource :=
  if probed.getD s.shape = s.shape then
    some { s with anchor := none, frames := [], stamps := { s.stamps with lastDataNs := 0 } }
  else none

end RtspSource

inductive RtspEvent where
  | probe (cameNs now : Int) (pts : Option Int) (reference : Option ReferenceMeta)
  | lookup (now : Int) (pts : Option Int) (reference : Option ReferenceMeta)
  | reopen (probed : Option StreamShape)
deriving DecidableEq, Repr

namespace RtspSource

def next (s : RtspSource) : RtspEvent → Option RtspSource
  | .probe cameNs now pts reference => some (s.stampProbe cameNs now pts reference)
  | .lookup now pts reference => some (s.stampFor now pts reference).2
  | .reopen probed => s.reopen probed

/-! ## The law of the stamps -/

/-- What a frame is extrapolated from: its PTS, with the time that it says. -/
def anchorOf (f : RtspFrame) : Option (Int × Int) :=
  f.pts.bind fun p => f.reference.map fun m => (p, m.unixNs)

/-- The last of them. -/
def lastAnchor (frames : List RtspFrame) : Option (Int × Int) := frames.reverse.findSome? anchorOf

/-- What a stamp is, after the frames that came before. -/
def Lawful (before : List RtspFrame) (f : RtspFrame) : Prop :=
  match (extractCapture (lastAnchor before) f.pts f.reference).1 with
  | some (ts, source) => f.stamp.timestampNs = ts ∧ f.stamp.source = source
  | none => f.stamp.timestampNs = f.stamp.systemNs ∧ f.stamp.source = .system

/-- The invariant: the anchor is that of the frames of the running incarnation. -/
structure Anchored (s : RtspSource) : Prop where
  anchor : s.anchor = lastAnchor s.frames
  lawful : ∀ before f after, s.frames = before ++ f :: after → Lawful before f

/-- A frame that can be extrapolated from is the anchor from now on. -/
theorem lastAnchor_concat (frames : List RtspFrame) (f : RtspFrame) :
    lastAnchor (frames ++ [f]) = (anchorOf f).or (lastAnchor frames) := by
  rw [lastAnchor, List.reverse_append, List.reverse_singleton, List.singleton_append,
    List.findSome?_cons]
  cases anchorOf f <;> rfl

/-- `_extract_capture` keeps the anchor that way too. -/
theorem extractCapture_anchor (anchor : Option (Int × Int)) (pts : Option Int)
    (reference : Option ReferenceMeta) (stamp : FrameStamp) :
    (extractCapture anchor pts reference).2 = (anchorOf { pts, reference, stamp }).or anchor := by
  unfold extractCapture anchorOf
  cases reference <;> cases pts <;> cases anchor <;> rfl

/-- A new stamp is lawful, and the anchor follows. -/
theorem anchored_newStamp {s : RtspSource} (h : Anchored s) (now : Int) (pts : Option Int)
    (reference : Option ReferenceMeta) : Anchored (s.newStamp now pts reference).2 where
  anchor := by
    simp only [newStamp]
    rw [lastAnchor_concat, extractCapture_anchor, h.anchor]
  lawful before f after heq := by
    simp only [newStamp] at heq
    rcases Machine.split_concat heq with ⟨after', heq⟩ | ⟨rfl, rfl⟩
    · exact h.lawful before f after' heq
    · simp only [Lawful, ← h.anchor, StampSource.newStamp]
      cases (extractCapture s.anchor pts reference).1 <;> exact ⟨rfl, rfl⟩

/-- Probes, lookups and reopens keep the invariant; a reopen forgets frames and anchor. -/
theorem anchored_next {s s' : RtspSource} {event : RtspEvent} (h : Anchored s)
    (hs : s.next event = some s') : Anchored s' := by
  cases event with
  | probe cameNs now pts reference =>
      cases hs
      have hnew := anchored_newStamp h now pts reference
      exact ⟨hnew.anchor, hnew.lawful⟩
  | lookup now pts reference =>
      cases hs
      unfold stampFor
      split
      · exact anchored_newStamp h now pts reference
      · exact h
  | reopen probed =>
      simp only [next, reopen, Option.ite_none_right_eq_some, Option.some.injEq] at hs
      obtain ⟨-, rfl⟩ := hs
      refine ⟨rfl, fun before f after heq => ?_⟩
      simp at heq

/-! ## What the stamps say -/

/-- Frames of one sender's clock: where they say the time, it is their PTS and an offset. -/
def OneClock (frames : List RtspFrame) (offset : Int) : Prop :=
  ∀ f ∈ frames, ∀ p ∈ f.pts, ∀ m ∈ f.reference, m.unixNs = p + offset

/-- The stamps of an incarnation. -/
structure OnSenderClock (frames : List RtspFrame) : Prop where
  /-- behind a frame with meta and PTS, a frame with a PTS never falls back to arrival -/
  locked : ∀ before f after, frames = before ++ f :: after → f.pts.isSome = true →
    (∃ g ∈ before, g.pts.isSome = true ∧ g.reference.isSome = true) → f.stamp.source = .rtpNtp
  /-- where the frames are of one clock, so are the stamps, with or without a meta -/
  aligned : ∀ offset, OneClock frames offset → ∀ f ∈ frames, f.stamp.source = .rtpNtp →
    ∀ p ∈ f.pts, f.stamp.timestampNs = p + offset
  /-- a frame that says the time is stamped with it -/
  said : ∀ f ∈ frames, ∀ m ∈ f.reference,
    f.stamp.timestampNs = m.unixNs ∧ f.stamp.source = .rtpNtp
  /-- arrival is all there is for a frame without a meta, if it has no PTS or no frame with
  meta and PTS came before -/
  warmUp : ∀ before f after, frames = before ++ f :: after → f.reference = none →
    (f.pts = none ∨ ∀ g ∈ before, g.pts = none ∨ g.reference = none) →
      f.stamp.source = .system ∧ f.stamp.timestampNs = f.stamp.systemNs

/-- There is nothing to extrapolate from. -/
theorem lastAnchor_eq_none_iff {frames : List RtspFrame} :
    lastAnchor frames = none ↔ ∀ g ∈ frames, g.pts = none ∨ g.reference = none := by
  simp only [lastAnchor, List.findSome?_eq_none_iff, List.mem_reverse]
  refine forall₂_congr fun g _ => ?_
  unfold anchorOf
  cases g.pts <;> cases g.reference <;> simp

/-- It is the PTS and the time of a frame that came before. -/
theorem exists_of_lastAnchor {frames : List RtspFrame} {a : Int × Int}
    (h : lastAnchor frames = some a) :
    ∃ g ∈ frames, ∃ m ∈ g.reference, a.1 ∈ g.pts ∧ a.2 = m.unixNs := by
  obtain ⟨g, hg, hanchor⟩ := List.exists_of_findSome?_eq_some h
  simp only [anchorOf, Option.bind_eq_some_iff, Option.map_eq_some_iff] at hanchor
  obtain ⟨p, hp, m, hm, rfl⟩ := hanchor
  exact ⟨g, List.mem_reverse.1 hg, m, hm, hp, rfl⟩

/-- What the stamps say follows from the law of each of them: by the frame's own meta, and
without one by the anchor. -/
theorem Anchored.onSenderClock {s : RtspSource} (h : Anchored s) : OnSenderClock s.frames where
  locked before f after heq hpts := by
    rintro ⟨g, hg, hgpts, hgref⟩
    have hlaw := h.lawful before f after heq
    obtain ⟨p, hp⟩ := Option.isSome_iff_exists.1 hpts
    cases hanchor : lastAnchor before with
    | none =>
        rcases lastAnchor_eq_none_iff.1 hanchor g hg with hnone | hnone
        · simp [hnone] at hgpts
        · simp [hnone] at hgref
    | some a =>
        unfold Lawful extractCapture at hlaw
        rw [hanchor, hp] at hlaw
        cases hreference : f.reference with
        | none =>
            rw [hreference] at hlaw
            exact hlaw.2
        | some m =>
            rw [hreference] at hlaw
            exact hlaw.2
  aligned offset hclock f hf hsource p hp := by
    obtain ⟨before, after, heq⟩ := List.append_of_mem hf
    have hlaw := h.lawful before f after heq
    unfold Lawful extractCapture at hlaw
    rw [Option.mem_def.1 hp] at hlaw
    cases hreference : f.reference with
    | some m =>
        rw [hreference] at hlaw
        rw [hlaw.1, hclock f hf p hp m hreference]
    | none =>
        rw [hreference] at hlaw
        cases hanchor : lastAnchor before with
        | none =>
            rw [hanchor] at hlaw
            rw [hlaw.2] at hsource
            cases hsource
        | some a =>
            rw [hanchor] at hlaw
            obtain ⟨g, hg, m, hm, hgpts, htime⟩ := exists_of_lastAnchor hanchor
            have hgmem : g ∈ s.frames := by
              rw [heq]
              exact List.mem_append_left _ hg
            have hanchored := hclock g hgmem a.1 hgpts m hm
            rw [hlaw.1]
            omega
  said f hf m hm := by
    obtain ⟨before, after, heq⟩ := List.append_of_mem hf
    have hlaw := h.lawful before f after heq
    unfold Lawful extractCapture at hlaw
    rwa [Option.mem_def.1 hm] at hlaw
  warmUp before f after heq hnone hbefore := by
    have hlaw := h.lawful before f after heq
    unfold Lawful extractCapture at hlaw
    rw [hnone] at hlaw
    rcases hbefore with hpts | hbefore
    · -- an anchor is of no use without a PTS
      rw [hpts] at hlaw
      cases hanchor : lastAnchor before <;> rw [hanchor] at hlaw <;> exact hlaw.symm
    · rw [lastAnchor_eq_none_iff.2 hbefore] at hlaw
      exact hlaw.symm

/-- **The sender's clock**, in every incarnation of every run. -/
theorem onSenderClock_run (config : StreamShape) (probed : Option StreamShape)
    (events : List RtspEvent) {s : RtspSource}
    (h : Machine.exec next (opened config probed) events = some s) : OnSenderClock s.frames :=
  (Machine.exec_inv (I := Anchored) (fun _ _ _ hs hnext => anchored_next hs hnext)
    ⟨rfl, fun before f after heq => by simp [opened] at heq⟩ h).onSenderClock

/-- A stream that is opened anew; the second of its frames comes without the meta. -/
def reopenedStream : List RtspEvent :=
  [.probe 0 5 none none, .reopen none,
   .probe 0 10 (some 100) (some { timestamp := ntpEpochOffsetNs + 7, ntp := true }),
   .probe 0 20 (some 140) none, .lookup 21 (some 140) none]

/-- The reference time of the one frame, and 40 ns of PTS behind it. -/
theorem onSenderClock_reopenedStream :
    ∃ s, Machine.exec next (opened ⟨"h264", 1280, 720⟩ none) reopenedStream = some s ∧
      s.frames.map (fun f => f.stamp.timestampNs) = [7, 47] ∧ OnSenderClock s.frames :=
  ⟨_, rfl, by decide, onSenderClock_run ⟨"h264", 1280, 720⟩ none reopenedStream rfl⟩

end RtspSource

end CamDriver
