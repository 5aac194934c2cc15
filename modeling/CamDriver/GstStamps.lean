import CamDriver.Lib.FifoMap
import CamDriver.Lib.Machine
import CamDriver.Timestamps

/-!
# CamDriver.GstStamps

Stamps of a `GstPipelineSource`: a probe in front of the tee stamps each buffer once and
remembers the stamp under the buffer's PTS; the encoded and the decode branch look it up.

The map outlives a reopen.  A PTS that recurs in the next incarnation overwrites its entry and
keeps the entry's age, so it can be forgotten before 240 further buffers are stamped.
-/

namespace CamDriver

/-! ## The source -/

/-- A buffer: its PTS, if that is valid, and what `_extract_capture` reads off it. -/
structure GstBuffer where
  pts : Option Int
  capture : Option (Int × TimestampSource)
deriving DecidableEq, Repr

/-- `GstPipelineSource`, as far as it stamps. -/
structure StampSource where
  frameId : Int
  stamps : FifoMap Int FrameStamp
  lastDataNs : Int
deriving DecidableEq, Repr

/-- The stamps that are kept. -/
def stampsKept : Nat := 240

namespace StampSource

def init : StampSource := { frameId := 0, stamps := .empty, lastDataNs := 0 }

/-- `_new_stamp`, when `time_ns()` reads `now`. -/
def newStamp (s : StampSource) (now : Int) (buf : GstBuffer) : FrameStamp × StampSource :=
  let st : FrameStamp :=
    match buf.capture with
    | some (ns, prov) =>
      { frameId := s.frameId, timestampNs := ns, source := prov, systemNs := now, cameraNs := ns,
        chunkNs := none }
    | none =>
      { frameId := s.frameId, timestampNs := now, source := .system, systemNs := now,
        cameraNs := buf.pts.getD now, chunkNs := none }
  (st, { s with frameId := s.frameId + 1, lastDataNs := now })

/-- `_stamp_probe`; a buffer without a PTS is kept under the time it came at. -/
def stampProbe (s : StampSource) (cameNs now : Int) (buf : GstBuffer) : StampSource :=
  let r := s.newStamp now buf
  { r.2 with stamps := (r.2.stamps.set (buf.pts.getD cameNs) r.1).trim stampsKept }

/-- `_stamp_for`. -/
def stampFor (s : StampSource) (now : Int) (buf : GstBuffer) : FrameStamp × StampSource :=
  match buf.pts.bind s.stamps.get with
  | some st => (st, s)
  | none =>
    match s.stamps.entries.getLast? with
    | some e => (e.2, s)
    | none => s.newStamp now buf

end StampSource

/-! ## Branches and incarnations -/

/-- A buffer that went through the probe. -/
structure StampedBuffer where
  pts : Int
  capture : Option (Int × TimestampSource)
  stamp : FrameStamp
deriving DecidableEq, Repr

def StampedBuffer.buffer (b : StampedBuffer) : GstBuffer :=
  { pts := some b.pts, capture := b.capture }

/-- The source and the buffers stamped so far; those of the running pipeline begin at
`first`. -/
structure PreTee where
  source : StampSource
  stamped : List StampedBuffer
  first : Nat
deriving DecidableEq, Repr

inductive PreTeeEvent where
  | probe (cameNs now : Int) (pts : Int) (capture : Option (Int × TimestampSource))
  /-- `_on_enc` of buffer `i`, which has passed a queue -/
  | encoded (i : Nat) (now : Int)
  /-- `_on_raw` of what became of buffer `i` in the decoder -/
  | decoded (i : Nat) (now : Int) (buf : GstBuffer)
  /-- `reopen` and `start` -/
  | reopen
deriving DecidableEq, Repr

namespace PreTee

def init : PreTee := { source := .init, stamped := [], first := 0 }

/-- Buffer `i` is of the running pipeline, and fewer than 240 were stamped behind it. -/
def MayHandle (s : PreTee) (i : Nat) : Prop :=
  s.first ≤ i ∧ i < s.stamped.length ∧ s.stamped.length ≤ i + stampsKept

instance (s : PreTee) (i : Nat) : Decidable (s.MayHandle i) :=
  inferInstanceAs (Decidable (_ ∧ _ ∧ _))

/-- The stamp the probe has minted for a buffer, and the buffer. -/
def probed (s : PreTee) (now pts : Int) (capture : Option (Int × TimestampSource)) :
    StampedBuffer :=
  { pts := pts, capture := capture,
    stamp := (s.source.newStamp now { pts := some pts, capture := capture }).1 }

/-- One event; within one incarnation no PTS comes twice. -/
def next (s : PreTee) : PreTeeEvent → Option PreTee
  | .probe cameNs now pts capture =>
    if pts ∉ (s.stamped.drop s.first).map (·.pts) then
      some { s with
        source := s.source.stampProbe cameNs now { pts := some pts, capture := capture }
        stamped := s.stamped ++ [s.probed now pts capture] }
    else none
  | .encoded i now =>
    if s.MayHandle i then
      s.stamped[i]?.map fun b => { s with source := (s.source.stampFor now b.buffer).2 }
    else none
  | .decoded i now buf =>
    if s.MayHandle i then some { s with source := (s.source.stampFor now buf).2 } else none
  | .reopen =>
    some { s with first := s.stamped.length, source := { s.source with lastDataNs := 0 } }

/-- The PTS of the buffers stamped so far. -/
def ptsStamped (s : PreTee) : List Int := s.stamped.map (·.pts)

/-- What the branches rely on: the encoded branch delivers a buffer with its own stamp, no
lookup mints an id or touches the map, and the ids count the buffers. -/
structure Correlated (s : PreTee) (event : PreTeeEvent) : Prop where
  encoded : ∀ i now b, event = .encoded i now → s.MayHandle i → s.stamped[i]? = some b →
    (s.source.stampFor now b.buffer).1 = b.stamp
  lookups : ∀ i now buf, s.MayHandle i → (s.source.stampFor now buf).2 = s.source
  ids : ∀ (i : Nat) (b : StampedBuffer), s.stamped[i]? = some b → b.stamp.frameId = i

/-- A buffer that the encoded branch comes to has a PTS that was inserted among the last 240:
fewer than 240 PTS that were new have been stamped since its own was new. -/
def InsertedLately (s : PreTee) (event : PreTeeEvent) : Prop :=
  ∀ i now b, event = .encoded i now → s.MayHandle i → s.stamped[i]? = some b →
    b.pts ∈ (FifoMap.inserted stampsKept s.ptsStamped).rtake stampsKept

/-! ## What holds at all times -/

/-- What was written to the map. -/
def written (s : PreTee) : List (Int × FrameStamp) := s.stamped.map fun b => (b.pts, b.stamp)

structure StampInv (s : PreTee) : Prop where
  stamps : s.source.stamps = FifoMap.writes stampsKept s.written
  frameId : s.source.frameId = s.stamped.length
  ids : ∀ (i : Nat) (b : StampedBuffer), s.stamped[i]? = some b → b.stamp.frameId = i
  distinct : ((s.stamped.drop s.first).map (·.pts)).Nodup
  first : s.first ≤ s.stamped.length

theorem frameId_newStamp (s : StampSource) (now : Int) (buf : GstBuffer) :
    (s.newStamp now buf).1.frameId = s.frameId := by
  simp only [StampSource.newStamp]
  split <;> rfl

theorem stampInv_init : StampInv init :=
  ⟨rfl, rfl, by simp [init], by simp [init], le_rfl⟩

/-- A lookup in a map that holds something leaves the source as it is. -/
theorem stampFor_of_ne_nil {s : StampSource} (hne : s.stamps.entries.getLast? ≠ none) (now : Int)
    (buf : GstBuffer) : (s.stampFor now buf).2 = s := by
  rw [StampSource.stampFor]
  split
  · rfl
  · split
    · rfl
    · next hnone => exact absurd hnone hne

theorem StampInv.written_ne_nil {s : PreTee} {i : Nat} (hi : s.MayHandle i) : s.written ≠ [] := by
  have hlt := hi.2.1
  rw [← List.length_pos_iff, written, List.length_map]
  omega

/-- Where a branch handles a buffer, the map holds something. -/
theorem StampInv.stampFor_eq {s : PreTee} (h : StampInv s) {i : Nat} (hi : s.MayHandle i)
    (now : Int) (buf : GstBuffer) : (s.source.stampFor now buf).2 = s.source := by
  obtain ⟨e, -, hlast⟩ := FifoMap.getLast?_writes (n := stampsKept) (by decide)
    (StampInv.written_ne_nil hi)
  refine stampFor_of_ne_nil ?_ now buf
  rw [h.stamps, hlast]
  simp

theorem stampInv_next {s s' : PreTee} {event : PreTeeEvent} (h : StampInv s)
    (hs : s.next event = some s') : StampInv s' := by
  cases event with
  | probe cameNs now pts capture =>
      simp only [next, Option.ite_none_right_eq_some, Option.some.injEq] at hs
      obtain ⟨hnew, rfl⟩ := hs
      refine ⟨?_, ?_, ?_, ?_, ?_⟩
      · rw [written, List.map_append, List.map_singleton, FifoMap.writes_concat, ← written,
          ← h.stamps]
        rfl
      · simp [StampSource.stampProbe, StampSource.newStamp, h.frameId]
      · intro i b hb
        rw [List.getElem?_append] at hb
        split at hb
        · exact h.ids i b hb
        · next hle =>
            rw [List.getElem?_singleton, Option.ite_none_right_eq_some] at hb
            obtain ⟨hlast, hb⟩ := hb
            cases hb
            rw [probed, frameId_newStamp, h.frameId]
            omega
      · rw [List.drop_append_of_le_length h.first, List.map_append, List.map_singleton]
        refine List.nodup_append.mpr ⟨h.distinct, by simp, ?_⟩
        rintro p hp q hlast rfl
        cases List.mem_singleton.mp hlast
        exact hnew hp
      · simpa using Nat.le_succ_of_le h.first
  | encoded i now =>
      simp only [next, Option.ite_none_right_eq_some, Option.map_eq_some_iff] at hs
      obtain ⟨hi, b, -, rfl⟩ := hs
      rw [h.stampFor_eq hi]
      exact h
  | decoded i now buf =>
      simp only [next, Option.ite_none_right_eq_some, Option.some.injEq] at hs
      obtain ⟨hi, rfl⟩ := hs
      rw [h.stampFor_eq hi]
      exact h
  | reopen =>
      cases hs
      exact ⟨h.stamps, h.frameId, h.ids, by simp, le_rfl⟩

/-- The stamp of a buffer of the running pipeline was the last to be written under its PTS. -/
theorem StampInv.lookup_written {s : PreTee} (h : StampInv s) {i : Nat} (hi : s.first ≤ i)
    {b : StampedBuffer} (hb : s.stamped[i]? = some b) :
    s.written.reverse.lookup b.pts = some b.stamp := by
  obtain ⟨hlt, rfl⟩ := List.getElem?_eq_some_iff.mp hb
  have hlater : s.stamped[i].pts ∉ (s.stamped.drop (i + 1)).map (·.pts) := by
    have hnodup : ((s.stamped.drop i).map (·.pts)).Nodup := by
      have hdrop : s.stamped.drop i = (s.stamped.drop s.first).drop (i - s.first) := by
        rw [List.drop_drop, Nat.add_sub_cancel' hi]
      rw [hdrop]
      exact h.distinct.sublist ((List.drop_sublist _ _).map _)
    rw [List.drop_eq_getElem_cons hlt, List.map_cons] at hnodup
    exact (List.nodup_cons.mp hnodup).1
  have hwritten : s.written = (s.stamped.take i).map (fun b => (b.pts, b.stamp)) ++
      (s.stamped[i].pts, s.stamped[i].stamp) ::
        (s.stamped.drop (i + 1)).map fun b => (b.pts, b.stamp) := by
    rw [written, ← List.map_cons (f := fun b : StampedBuffer => (b.pts, b.stamp)),
      ← List.map_append, ← List.drop_eq_getElem_cons hlt, List.take_append_drop]
  rw [hwritten]
  refine FifoMap.lookup_reverse_append ?_ _
  rw [List.map_map]
  exact hlater

/-- **One handling**: a branch finds the stamp of a buffer exactly if its PTS was inserted
lately. -/
theorem StampInv.stampFor_eq_iff {s : PreTee} (h : StampInv s) {i : Nat} (hi : s.MayHandle i)
    {b : StampedBuffer} (hb : s.stamped[i]? = some b) (now : Int) :
    (s.source.stampFor now b.buffer).1 = b.stamp ↔
      b.pts ∈ (FifoMap.inserted stampsKept s.ptsStamped).rtake stampsKept := by
  have hkeys : s.written.map Prod.fst = s.ptsStamped := by
    simp [written, ptsStamped]
  have hget := FifoMap.get_writes stampsKept s.written b.pts
  rw [← h.stamps, hkeys, h.lookup_written hi.1 hb] at hget
  rw [StampSource.stampFor, StampedBuffer.buffer, Option.bind_some, hget]
  by_cases hin : b.pts ∈ (FifoMap.inserted stampsKept s.ptsStamped).rtake stampsKept
  · simp [hin]
  · rw [if_neg hin]
    simp only [hin, iff_false]
    obtain ⟨e, hmem, hlast⟩ := FifoMap.getLast?_writes (n := stampsKept) (by decide)
      (StampInv.written_ne_nil hi)
    rw [h.stamps, hlast]
    intro hstamp
    obtain ⟨hkept, hwritten⟩ := FifoMap.remembers_writes stampsKept s.written
    have hkey : e.1 ∈ (FifoMap.inserted stampsKept s.ptsStamped).rtake stampsKept := by
      rw [← hkeys, ← hkept]
      exact List.mem_map_of_mem hmem
    have hmem' : (e.1, e.2) ∈ s.written := by
      obtain ⟨before, after, heq, -⟩ := List.lookup_eq_some_iff.mp (hwritten e hmem)
      rw [← List.mem_reverse, heq]
      simp
    obtain ⟨b', hb', heq⟩ := List.mem_map.mp hmem'
    obtain ⟨j, hj⟩ := List.mem_iff_getElem?.mp hb'
    have hid := h.ids i b hb
    have hid' := h.ids j b' hj
    rw [(Prod.mk.inj heq).2] at hid'
    have hij : j = i := by
      have hstamp' : e.2.frameId = b.stamp.frameId := congrArg FrameStamp.frameId hstamp
      omega
    rw [hij, hb] at hj
    cases hj
    exact hin ((Prod.mk.inj heq).1 ▸ hkey)

/-- A PTS that was new when its buffer was stamped is found by each branch. -/
theorem insertedLately_of_new {s : PreTee} {i : Nat} (hi : s.MayHandle i) {b : StampedBuffer}
    (hb : s.stamped[i]? = some b)
    (hnew : b.pts ∉ (FifoMap.inserted stampsKept (s.ptsStamped.take i)).rtake stampsKept) :
    b.pts ∈ (FifoMap.inserted stampsKept s.ptsStamped).rtake stampsKept := by
  obtain ⟨hlt, rfl⟩ := List.getElem?_eq_some_iff.mp hb
  have hlt' : i < s.ptsStamped.length := by simpa [ptsStamped] using hlt
  have hpts : s.ptsStamped[i] = s.stamped[i].pts := by simp [ptsStamped]
  obtain ⟨extra, heq, hlen⟩ := FifoMap.inserted_append stampsKept (s.ptsStamped.take i ++
    [s.stamped[i].pts]) (s.ptsStamped.drop (i + 1))
  have hwhole : s.ptsStamped.take i ++ [s.stamped[i].pts] ++ s.ptsStamped.drop (i + 1) =
      s.ptsStamped := by
    rw [List.append_assoc, List.singleton_append, ← hpts, List.getElem_cons_drop,
      List.take_append_drop]
  rw [hwhole, FifoMap.inserted_concat, if_neg hnew] at heq
  have hshort : extra.length < stampsKept := by
    have := hi.2.2
    rw [List.length_drop] at hlen
    simp only [ptsStamped, List.length_map] at hlen
    omega
  rw [heq, List.rtake, List.append_assoc, List.length_append, List.drop_append_of_le_length]
  · simp
  · simp only [List.length_append, List.length_singleton]
    omega

/-! ## Runs -/

theorem stampInv_of_exec {events : List PreTeeEvent} {s : PreTee}
    (h : Machine.exec next init events = some s) : StampInv s :=
  Machine.exec_inv (fun _ _ _ hs hnext => stampInv_next hs hnext) stampInv_init h

/-- **Stamp correlation**: throughout a run the branches find what they rely on, exactly if
each buffer that the encoded branch comes to has a PTS that was inserted lately. -/
theorem correlated_iff_insertedLately (events : List PreTeeEvent) :
    Machine.Along next Correlated init events ↔
      Machine.Along next InsertedLately init events := by
  rw [Machine.along_iff, Machine.along_iff]
  constructor
  · intro h before event after s hsplit hrun i now b hevent hi hb
    have hinv := stampInv_of_exec hrun
    exact (hinv.stampFor_eq_iff hi hb now).mp
      ((h before event after s hsplit hrun).encoded i now b hevent hi hb)
  · intro h before event after s hsplit hrun
    have hinv := stampInv_of_exec hrun
    exact ⟨fun i now b hevent hi hb => (hinv.stampFor_eq_iff hi hb now).mpr
        (h before event after s hsplit hrun i now b hevent hi hb),
      fun i now buf hi => hinv.stampFor_eq hi now buf, hinv.ids⟩

/-- The first incarnation of a run: buffers with different PTS. -/
def firstBuffers (pts : List Int) : List PreTeeEvent := pts.map fun p => .probe p p p none

theorem next_probe {s : PreTee} {pts : Int} (h : pts ∉ (s.stamped.drop s.first).map (·.pts))
    (cameNs now : Int) (capture : Option (Int × TimestampSource)) :
    ∃ s', s.next (.probe cameNs now pts capture) = some s' ∧
      s'.stamped = s.stamped ++ [s.probed now pts capture] ∧ s'.first = s.first := by
  rw [next, if_pos h]
  exact ⟨_, rfl, rfl, rfl⟩

theorem exec_firstBuffers {pts : List Int} (h : pts.Nodup) :
    ∃ s, Machine.exec next init (firstBuffers pts) = some s ∧ s.ptsStamped = pts ∧
      s.first = 0 := by
  induction pts using List.reverseRecOn with
  | nil => exact ⟨init, rfl, rfl, rfl⟩
  | append_singleton pts p ih =>
      rw [List.nodup_append] at h
      obtain ⟨s, hs, hpts, hfirst⟩ := ih h.1
      have hnew : p ∉ (s.stamped.drop s.first).map (·.pts) := by
        rw [hfirst, List.drop_zero, ← ptsStamped, hpts]
        exact fun hp => h.2.2 p hp p (by simp) rfl
      obtain ⟨s', hnext, hstamped, hfirst'⟩ := next_probe hnew p p none
      refine ⟨s', ?_, ?_, hfirst'.trans hfirst⟩
      · rw [firstBuffers, List.map_append, ← firstBuffers, Machine.exec_append, hs,
          Option.bind_some, List.map_singleton, Machine.exec_cons, hnext, Option.bind_some,
          Machine.exec_nil]
      · rw [ptsStamped, hstamped, List.map_append, ← ptsStamped, hpts]
        rfl

/-- 240 buffers with different PTS. -/
def fullMap : List Int := (List.range 240).map (fun i : Nat => (i : Int))

/-- They fill the map; after a reopen the first PTS recurs, and one more buffer comes: the
encoded branch is at the buffer before that. -/
def recurringPts : List PreTeeEvent :=
  firstBuffers fullMap ++ [.reopen, .probe 240 240 0 none, .probe 241 241 1000 none]

/-- It delivers that buffer with the stamp of the last one. -/
theorem not_correlated :
    ¬ ∀ events : List PreTeeEvent, Machine.Along next Correlated init events := by
  intro h
  have hnodup : fullMap.Nodup := List.nodup_range.map fun _ _ => Int.ofNat_inj.mp
  obtain ⟨s, hs, hpts, -⟩ := exec_firstBuffers hnodup
  have hlength : s.stamped.length = 240 := by
    have := congrArg List.length hpts
    simpa [ptsStamped, fullMap] using this
  obtain ⟨s₀, hreopen, hstamped₀, hfirst₀⟩ : ∃ s₀, s.next .reopen = some s₀ ∧
      s₀.stamped = s.stamped ∧ s₀.first = s.stamped.length := ⟨_, rfl, rfl, rfl⟩
  have hnew₀ : (0 : Int) ∉ (s₀.stamped.drop s₀.first).map (·.pts) := by
    simp [hstamped₀, hfirst₀]
  obtain ⟨s₁, hs₁, hstamped₁, hfirst₁⟩ := next_probe hnew₀ 240 240 none
  have hnew₁ : (1000 : Int) ∉ (s₁.stamped.drop s₁.first).map (·.pts) := by
    simp [hstamped₁, hfirst₁, hstamped₀, hfirst₀, probed]
  obtain ⟨s', hs', hstamped', hfirst'⟩ := next_probe hnew₁ 241 241 none
  have hrun : Machine.exec next init recurringPts = some s' := by
    rw [recurringPts, Machine.exec_append, hs, Option.bind_some, Machine.exec_cons, hreopen,
      Option.bind_some, Machine.exec_cons, hs₁, Option.bind_some, Machine.exec_cons, hs',
      Option.bind_some, Machine.exec_nil]
  have hpts' : s'.ptsStamped = fullMap ++ [0] ++ [1000] := by
    rw [ptsStamped, hstamped', hstamped₁, hstamped₀, List.map_append, List.map_append,
      ← ptsStamped, hpts]
    rfl
  have hlength' : s'.stamped.length = 242 := by
    rw [hstamped', hstamped₁, hstamped₀, List.length_append, List.length_append, hlength]
    rfl
  have hfirst : s'.first = 240 := hfirst'.trans (hfirst₁.trans (hfirst₀.trans hlength))
  have hb : s'.stamped[240]? = some (s₀.probed 240 0 none) := by
    rw [hstamped', hstamped₁, hstamped₀, List.append_assoc,
      List.getElem?_append_right hlength.le, hlength]
    rfl
  have hi : s'.MayHandle 240 := ⟨hfirst.le, by omega, by rw [hlength']; decide⟩
  have hcorr := Machine.along_iff.mp (h (recurringPts ++ [.encoded 240 242])) recurringPts
    (.encoded 240 242) [] s' rfl hrun
  have hlate := ((stampInv_of_exec hrun).stampFor_eq_iff hi hb 242).mp
    (hcorr.encoded 240 242 _ rfl hi hb)
  rw [hpts', FifoMap.inserted_concat, FifoMap.inserted_concat,
    FifoMap.inserted_of_nodup _ hnodup] at hlate
  have hzero : (s₀.probed 240 0 none).pts = 0 := rfl
  rw [hzero] at hlate
  exact absurd hlate (by decide +kernel)

end PreTee

end CamDriver
