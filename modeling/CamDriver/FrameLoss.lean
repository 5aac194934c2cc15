import CamDriver.DropStats
import Mathlib

/-!
# CamDriver.FrameLoss

What `frames_missing` attests: the frames a source sent and the core never got.

The counter only looks at consecutive arrivals.  An arrival ahead of the one before it counts
every id it skips as missing, whether that frame is lost, late, or came before.  Where the
skipped ids are lost ones (`SentFrames.SkipsLost`), no id is counted twice, and the count is a
lower bound of the loss; a frame that is only late is counted as missing
(`not_framesMissing_le`).
-/

namespace CamDriver

/-- `_account`, as far as losses go. -/
def DropStats.account (d : DropStats) (discontinuity : Bool) (frameId : Int) : DropStats :=
  (if discontinuity then d.resync else d).observeFrame frameId

/-! ## SentFrames -/

/-- A frame as it arrives.  The epoch says after how many resets of the source's counter it
was sent; nobody tells the core. -/
structure Arrival where
  discontinuity : Bool
  epoch : Nat
  frameId : Int
deriving DecidableEq, Repr

/-- The frame, whatever came before it. -/
def Arrival.sentId (a : Arrival) : (_ : Nat) × Int := ⟨a.epoch, a.frameId⟩

/-- The counters after the frame. -/
def receive (d : DropStats) (a : Arrival) : DropStats := d.account a.discontinuity a.frameId

/-- The counters after all of them. -/
def received (arrivals : List Arrival) : DropStats := arrivals.foldl receive .init

theorem received_concat (arrivals : List Arrival) (b : Arrival) :
    received (arrivals ++ [b]) = receive (received arrivals) b := by
  simp [received]

/-- It is the last one from now on. -/
theorem lastFid_receive (d : DropStats) (a : Arrival) :
    (receive d a).lastFid = some a.frameId := by
  simp [receive, DropStats.account]

/-- So the last id is that of the last arrival. -/
theorem lastFid_received (arrivals : List Arrival) :
    (received arrivals).lastFid = arrivals.getLast?.map Arrival.frameId := by
  induction arrivals using List.reverseRecOn with
  | nil => rfl
  | append_singleton arrivals b _ =>
      rw [received_concat, lastFid_receive, List.getLast?_concat, Option.map_some]

/-! ## Skipped ids -/

/-- The ids between two consecutive arrivals; none where a discontinuity is known. -/
noncomputable def skipped (a b : Arrival) : Finset ((_ : Nat) × Int) :=
  if b.discontinuity then ∅
  else (Finset.Ioo a.frameId b.frameId).map ⟨Sigma.mk b.epoch, sigma_mk_injective⟩

/-- Between two arrivals of one epoch the ids between them are skipped. -/
theorem mem_skipped {a b : Arrival} {id : (_ : Nat) × Int} :
    id ∈ skipped a b ↔ b.discontinuity = false ∧ id.1 = b.epoch ∧
      a.frameId < id.2 ∧ id.2 < b.frameId := by
  obtain ⟨epoch, frameId⟩ := id
  rw [skipped]
  split
  · next h => simp [h]
  · next h =>
      simp [h]
      grind

/-- The gap in front of an arrival is the number of ids it skips. -/
theorem gapBefore_eq_card {d : DropStats} {a : Arrival} (h : d.lastFid = some a.frameId)
    (b : Arrival) :
    (if b.discontinuity then d.resync else d).gapBefore b.frameId = (skipped a b).card := by
  rw [skipped]
  split
  · rfl
  · rw [Finset.card_map, Int.card_Ioo, DropStats.gapBefore, h]
    dsimp only
    split <;> omega

/-- The first frame counts nothing. -/
theorem gapBefore_first {d : DropStats} (h : d.lastFid = none) (b : Arrival) :
    (if b.discontinuity then d.resync else d).gapBefore b.frameId = 0 := by
  split
  · rfl
  · rw [DropStats.gapBefore, h]

/-- A gap counts its frames. -/
theorem framesMissing_receive (d : DropStats) (b : Arrival) :
    (receive d b).framesMissing =
      d.framesMissing + (if b.discontinuity then d.resync else d).gapBefore b.frameId := by
  rw [receive, DropStats.account, DropStats.framesMissing_observeFrame]
  split <;> rfl

/-- It counts itself, unless a discontinuity is told. -/
theorem sourceGaps_receive (d : DropStats) (b : Arrival) :
    (receive d b).sourceGaps = d.sourceGaps +
      if 0 < (if b.discontinuity then d.resync else d).gapBefore b.frameId then 1 else 0 := by
  rw [receive, DropStats.account, DropStats.sourceGaps_observeFrame]
  congr 1
  split <;> rfl

/-- The ids an arrival skips: none, if it is the first. -/
noncomputable def skippedAfter (before : List Arrival) (b : Arrival) : Finset ((_ : Nat) × Int) :=
  (before.getLast?.map (skipped · b)).getD ∅

/-- An arrival counts the ids it skips. -/
theorem received_next (before : List Arrival) (b : Arrival) :
    (received (before ++ [b])).framesMissing =
        (received before).framesMissing + (skippedAfter before b).card ∧
      (received (before ++ [b])).sourceGaps =
        (received before).sourceGaps + if skippedAfter before b = ∅ then 0 else 1 := by
  have hlast := lastFid_received before
  have hgap : (if b.discontinuity then (received before).resync
      else received before).gapBefore b.frameId = (skippedAfter before b).card := by
    rw [skippedAfter]
    cases hbefore : before.getLast? with
    | none =>
        rw [hbefore] at hlast
        exact gapBefore_first hlast b
    | some a =>
        rw [hbefore] at hlast
        exact gapBefore_eq_card hlast b
  have hpos : (0 : Int) < (skippedAfter before b).card ↔ ¬ skippedAfter before b = ∅ := by
    rw [Int.natCast_pos, Finset.card_pos, Finset.nonempty_iff_ne_empty]
  rw [received_concat, framesMissing_receive, sourceGaps_receive, hgap]
  refine ⟨rfl, ?_⟩
  simp only [hpos, ite_not]

/-! ## What is lost -/

/-- What a source sent, and how it arrives: in each epoch the ids from the first to the last,
each of them at most once, in any order. -/
structure SentFrames where
  epochs : Nat
  first : Nat → Int
  last : Nat → Int
  arrivals : List Arrival
  sent : ∀ a ∈ arrivals, a.epoch < epochs ∧ first a.epoch ≤ a.frameId ∧ a.frameId ≤ last a.epoch
  once : (arrivals.map Arrival.sentId).Nodup

namespace SentFrames

variable (d : SentFrames)

/-- The frames that are never delivered. -/
noncomputable def lost : Finset ((_ : Nat) × Int) :=
  ((Finset.range d.epochs).sigma fun epoch => Finset.Icc (d.first epoch) (d.last epoch)) \
    (d.arrivals.map Arrival.sentId).toFinset

/-- The attested loss is none of frames that were delivered. -/
def Truthful (before : List Arrival) : Prop :=
  (received before).framesMissing ≤ d.lost.card ∧
    (d.lost = ∅ → (received before).sourceGaps = 0)

/-- Only lost frames are skipped. -/
def SkipsLost : Prop := d.arrivals.IsChain fun a b => skipped a b ⊆ d.lost

variable {d}

/-- What arrives is not lost. -/
theorem sentId_notMem_lost {a : Arrival} (h : a ∈ d.arrivals) : a.sentId ∉ d.lost := by
  rw [lost, Finset.mem_sdiff, not_and_not_right]
  intro _
  exact List.mem_toFinset.2 (List.mem_map_of_mem h)

/-- The lost frames that are counted: each behind an arrival it was skipped for, with only
lost ones between the two. -/
structure Counts (d : SentFrames) (before : List Arrival) (counted : Finset ((_ : Nat) × Int)) :
    Prop where
  framesMissing : (received before).framesMissing = counted.card
  lost : counted ⊆ d.lost
  behind : ∀ id ∈ counted, ∃ a ∈ before, a.epoch = id.1 ∧ id.2 < a.frameId ∧
    ∀ i, id.2 ≤ i → i < a.frameId → ⟨a.epoch, i⟩ ∈ d.lost

/-- Nothing has arrived yet. -/
theorem counts_nil (d : SentFrames) : d.Counts [] ∅ :=
  ⟨rfl, Finset.empty_subset _, nofun⟩

/-- What the next arrival skips. -/
theorem mem_skippedAfter {before : List Arrival} {b : Arrival} {id : (_ : Nat) × Int} :
    id ∈ skippedAfter before b ↔ ∃ a, before.getLast? = some a ∧ id ∈ skipped a b := by
  rw [skippedAfter]
  cases before.getLast? <;> simp

/-- An id that is skipped once is not skipped again: the arrival that skips it further ahead
would skip the nearer one, which is delivered. -/
theorem Counts.disjoint {before : List Arrival} {b : Arrival} {counted : Finset ((_ : Nat) × Int)}
    (h : d.Counts before counted) (hmem : ∀ a ∈ before ++ [b], a ∈ d.arrivals)
    (honce : ((before ++ [b]).map Arrival.sentId).Nodup)
    (hskips : skippedAfter before b ⊆ d.lost) : Disjoint counted (skippedAfter before b) := by
  refine Finset.disjoint_left.2 fun id hcounted hskipped => ?_
  obtain ⟨a, ha, hepoch, hbehind, hbetween⟩ := h.behind id hcounted
  obtain ⟨l, hl, hid⟩ := mem_skippedAfter.1 hskipped
  obtain ⟨hdisc, hepoch', hahead, hbehind'⟩ := mem_skipped.1 hid
  have hsame : a.epoch = b.epoch := hepoch.trans hepoch'
  have hne : a.sentId ≠ b.sentId := by
    rw [List.map_append, List.nodup_append] at honce
    exact honce.2.2 _ (List.mem_map_of_mem ha) _ (List.mem_singleton_self _)
  rcases lt_trichotomy a.frameId b.frameId with hlt | heq | hgt
  · have hagain : a.sentId ∈ skipped l b := mem_skipped.2 ⟨hdisc, hsame, hahead.trans hbehind, hlt⟩
    exact sentId_notMem_lost (hmem a (List.mem_append_left _ ha))
      (hskips (mem_skippedAfter.2 ⟨l, hl, hagain⟩))
  · exact hne (by rw [Arrival.sentId, Arrival.sentId, hsame, heq])
  · have hlost := hbetween b.frameId hbehind'.le hgt
    rw [hsame] at hlost
    exact sentId_notMem_lost (hmem b (by simp)) hlost

/-- The next arrival counts what it skips, and that was lost. -/
theorem Counts.next {before : List Arrival} {b : Arrival} {counted : Finset ((_ : Nat) × Int)}
    (h : d.Counts before counted) (hmem : ∀ a ∈ before ++ [b], a ∈ d.arrivals)
    (honce : ((before ++ [b]).map Arrival.sentId).Nodup)
    (hskips : skippedAfter before b ⊆ d.lost) :
    d.Counts (before ++ [b]) (counted ∪ skippedAfter before b) where
  framesMissing := by
    rw [(received_next before b).1, h.framesMissing,
      Finset.card_union_of_disjoint (h.disjoint hmem honce hskips)]
    push_cast
    rfl
  lost := Finset.union_subset h.lost hskips
  behind id hid := by
    obtain hid | hid := Finset.mem_union.1 hid
    · obtain ⟨a, ha, hrest⟩ := h.behind id hid
      exact ⟨a, List.mem_append_left _ ha, hrest⟩
    · obtain ⟨l, hl, hid'⟩ := mem_skippedAfter.1 hid
      obtain ⟨hdisc, hepoch, hahead, hbehind⟩ := mem_skipped.1 hid'
      refine ⟨b, by simp, hepoch.symm, hbehind, fun i hi hib => ?_⟩
      exact hskips (mem_skippedAfter.2
        ⟨l, hl, mem_skipped.2 ⟨hdisc, rfl, hahead.trans_le hi, hib⟩⟩)

/-- One arrival behind others skips lost frames only. -/
theorem SkipsLost.skippedAfter_subset (h : d.SkipsLost) {before after : List Arrival} {b : Arrival}
    (hsplit : d.arrivals = before ++ b :: after) : skippedAfter before b ⊆ d.lost := by
  rw [SkipsLost, hsplit, List.isChain_append] at h
  intro id hid
  obtain ⟨l, hl, hid⟩ := mem_skippedAfter.1 hid
  exact h.2.2 l hl b rfl hid

/-- So what is counted is lost, up to any arrival. -/
theorem SkipsLost.counts (h : d.SkipsLost) {before after : List Arrival}
    (hsplit : d.arrivals = before ++ after) : ∃ counted, d.Counts before counted := by
  induction before using List.reverseRecOn generalizing after with
  | nil => exact ⟨∅, counts_nil d⟩
  | append_singleton before b ih =>
      have hsplit' : d.arrivals = before ++ b :: after := by simpa using hsplit
      obtain ⟨counted, hcounts⟩ := ih hsplit'
      have honce := d.once
      rw [hsplit, List.map_append] at honce
      refine ⟨_, hcounts.next ?_ honce.of_append_left (h.skippedAfter_subset hsplit')⟩
      intro a ha
      rw [hsplit]
      exact List.mem_append_left _ ha

/-- No gap is counted exactly where nothing is skipped. -/
theorem sourceGaps_eq_zero_iff (arrivals : List Arrival) :
    0 ≤ (received arrivals).sourceGaps ∧ ((received arrivals).sourceGaps = 0 ↔
      arrivals.IsChain fun a b => skipped a b = ∅) := by
  induction arrivals using List.reverseRecOn with
  | nil => exact ⟨le_rfl, by simp [received, DropStats.init]⟩
  | append_singleton before b ih =>
      have hnone : (∀ a ∈ before.getLast?, skipped a b = ∅) ↔ skippedAfter before b = ∅ := by
        rw [skippedAfter]
        cases before.getLast? <;> simp
      have hchain : (before ++ [b]).IsChain (fun a b => skipped a b = ∅) ↔
          before.IsChain (fun a b => skipped a b = ∅) ∧ skippedAfter before b = ∅ := by
        rw [List.isChain_append, ← hnone]
        simp
      rw [(received_next before b).2, hchain, ← ih.2]
      split
      · next hempty => simpa [hempty] using ih.1
      · next hskips =>
          simp only [hskips, and_false, iff_false]
          omega

/-- Where nothing is lost, the counters are right exactly if nothing is skipped. -/
theorem truthful_iff_of_lossless (h : d.lost = ∅) : d.Truthful d.arrivals ↔ d.SkipsLost := by
  have hgaps := (sourceGaps_eq_zero_iff d.arrivals).2
  have hskips : d.SkipsLost ↔ d.arrivals.IsChain fun a b => skipped a b = ∅ := by
    simp only [SkipsLost, h, Finset.subset_empty]
  rw [hskips, ← hgaps]
  constructor
  · intro htruth
    exact htruth.2 h
  · intro hzero
    refine ⟨?_, fun _ => hzero⟩
    obtain ⟨counted, hcounts⟩ := SkipsLost.counts (hskips.2 (hgaps.1 hzero))
      (List.append_nil d.arrivals).symm
    rw [hcounts.framesMissing]
    exact_mod_cast Finset.card_le_card hcounts.lost

/-- Where every id an arrival skips is of a lost frame, the attested loss is never overstated;
and where no frame is lost, it is overstated otherwise. -/
theorem truthful_of_skipsLost (d : SentFrames) :
    (d.SkipsLost → ∀ before after, d.arrivals = before ++ after → d.Truthful before) ∧
      (d.lost = ∅ → (d.Truthful d.arrivals ↔ d.SkipsLost)) := by
  refine ⟨fun h before after hsplit => ?_, truthful_iff_of_lossless⟩
  obtain ⟨counted, hcounts⟩ := h.counts hsplit
  constructor
  · rw [hcounts.framesMissing]
    exact_mod_cast Finset.card_le_card hcounts.lost
  · intro hlossless
    rw [SkipsLost, hlossless, hsplit] at h
    refine (sourceGaps_eq_zero_iff before).2.2 (h.left_of_append.imp ?_)
    intro a b hskips
    exact Finset.subset_empty.1 hskips

/-! ## Frames in order -/

/-- The frames of an epoch arrive in the order they were sent, and the epochs come one after
the other. -/
def InOrder (d : SentFrames) : Prop :=
  d.arrivals.Pairwise fun a b =>
    a.epoch < b.epoch ∨ a.epoch = b.epoch ∧ a.frameId < b.frameId

/-- A reset that nobody tells takes the counter back. -/
def ResetsBack (d : SentFrames) : Prop :=
  d.arrivals.IsChain fun a b =>
    a.epoch ≠ b.epoch → b.discontinuity = false → d.first b.epoch ≤ a.frameId + 1

/-- Frames in order skip lost frames only. -/
theorem skipsLost_of_inOrder (hin : d.InOrder) (hback : d.ResetsBack) : d.SkipsLost := by
  refine List.isChain_iff_forall_rel_of_append_cons_cons.2 fun a b before after hsplit => ?_
  have hreset := List.isChain_iff_forall_rel_of_append_cons_cons.1 hback hsplit
  rw [InOrder, hsplit, List.pairwise_append, List.pairwise_cons, List.pairwise_cons] at hin
  obtain ⟨-, ⟨hafterA, hafterB, -⟩, hbefore⟩ := hin
  have hab := hafterA b List.mem_cons_self
  have ha := d.sent a (by simp [hsplit])
  have hb := d.sent b (by simp [hsplit])
  rintro ⟨epoch, i⟩ hid
  obtain ⟨hdisc, rfl, hahead, hbehind⟩ := mem_skipped.1 hid
  dsimp only at hahead hbehind hafterB
  have hfirst : d.first b.epoch ≤ i := by
    by_cases hsame : a.epoch = b.epoch
    · rw [← hsame]
      omega
    · have := hreset hsame hdisc
      omega
  rw [lost, Finset.mem_sdiff, Finset.mem_sigma, Finset.mem_range, Finset.mem_Icc]
  refine ⟨⟨hb.1, hfirst, hbehind.le.trans hb.2.2⟩, fun harrived => ?_⟩
  obtain ⟨c, hc, hid'⟩ := List.mem_map.1 (List.mem_toFinset.1 harrived)
  obtain ⟨hepoch, hframe⟩ : c.epoch = b.epoch ∧ c.frameId = i := by
    simpa [Arrival.sentId] using hid'
  rw [hsplit, List.mem_append, List.mem_cons, List.mem_cons] at hc
  obtain hc | rfl | rfl | hc := hc
  · have := hbefore c hc a List.mem_cons_self
    omega
  · omega
  · omega
  · have := hafterB c hc
    omega

end SentFrames

/-! ## Three frames -/

/-- Three frames, of which the second is lost. -/
def secondLost : SentFrames where
  epochs := 1
  first _ := 1
  last _ := 3
  arrivals := [⟨false, 0, 1⟩, ⟨false, 0, 3⟩]
  sent := by decide
  once := by decide

/-- The second of three frames is lost. -/
theorem truthful_secondLost : secondLost.Truthful secondLost.arrivals :=
  secondLost.truthful_of_skipsLost.1
    (SentFrames.skipsLost_of_inOrder (by simp [SentFrames.InOrder, secondLost])
      (by simp [SentFrames.ResetsBack, secondLost]))
    _ [] (List.append_nil _).symm

/-- Three frames, of which the second comes last. -/
def secondLate : SentFrames where
  epochs := 1
  first _ := 1
  last _ := 3
  arrivals := [⟨false, 0, 1⟩, ⟨false, 0, 3⟩, ⟨false, 0, 2⟩]
  sent := by decide
  once := by decide

/-- A frame that is late is counted as missing. -/
theorem not_framesMissing_le : ¬ ∀ d : SentFrames, d.Truthful d.arrivals := by
  intro truthful
  have lossless : secondLate.lost = ∅ := by decide +kernel
  have gaps : (received secondLate.arrivals).sourceGaps = 1 := by decide
  exact absurd ((truthful secondLate).2 lossless) (by rw [gaps]; decide)

end CamDriver
