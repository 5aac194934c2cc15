import Mathlib.Data.Fintype.Card
import CamDriver.Uvc.CaptureSound
import CamDriver.Uvc.Probe
import CamDriver.Uvc.RoundTrip

/-!
# CamDriver.Uvc.ProbeFinds

When the probe finds the video stream of a capture.

The score of a stream only depends on its blocks (`score_ge_iff`), and with a
single video stream in the capture the probe takes it exactly if its blocks
look like UVC payloads (`LooksLikeUvc`).  Isochronous packets always do.  A
bulk payload that spans URBs does not: the buffers behind its first one are
taken for payloads, and have no header.
-/

namespace CamDriver.Uvc

/-! ## What the score says -/

/-- The blocks that start with a sane header. -/
def headers (blocks : List (List UInt8)) : Nat := blocks.countP fun b => (blockFid b).isSome

/-- The FIDs of the blocks that start with a sane header. -/
def fidsOf (blocks : List (List UInt8)) : Finset Bool := (blocks.filterMap blockFid).toFinset

/-- Nine in ten of the first blocks with data start with a header, and both FIDs
are among those that do. -/
def LooksLikeUvc (blocks : List (List UInt8)) : Prop :=
  let data := blocks.filter (· ≠ [])
  9 * (data.take scoreSamples).length ≤ 10 * headers (data.take scoreSamples) ∧
    fidsOf (data.take scoreFidPayloads) = Finset.univ

instance (blocks : List (List UInt8)) : Decidable (LooksLikeUvc blocks) :=
  inferInstanceAs (Decidable (_ ∧ _))

theorem headers_append (bs bs' : List (List UInt8)) :
    headers (bs ++ bs') = headers bs + headers bs' := List.countP_append

theorem fidsOf_append (bs bs' : List (List UInt8)) :
    fidsOf (bs ++ bs') = fidsOf bs ∪ fidsOf bs' := by
  rw [fidsOf, List.filterMap_append, List.toFinset_append]
  rfl

theorem fidsOf_singleton (b : List UInt8) : fidsOf [b] = (blockFid b).toFinset := by
  cases h : blockFid b <;> simp [fidsOf, h]

namespace ScoreState

/-- The counts behind the blocks `bs`, none of them empty. -/
structure Scored (bs : List (List UInt8)) (s : ScoreState) : Prop where
  sampled : s.sampled = min scoreSamples bs.length
  plausibleCount : s.plausibleCount = headers (bs.take scoreSamples)
  fids_subset : s.fids ⊆ fidsOf (bs.take scoreFidPayloads)
  watching : ¬ s.Settled →
    s.seen = min scoreFidPayloads bs.length ∧ s.fids = fidsOf (bs.take scoreFidPayloads)

theorem scored_init : Scored [] init :=
  ⟨rfl, rfl, Finset.empty_subset _, fun _ => ⟨rfl, rfl⟩⟩

/-- **Block step**: one more block with data. -/
theorem Scored.feed {bs : List (List UInt8)} {s : ScoreState} (h : Scored bs s)
    {b : List UInt8} (hb : b ≠ []) : Scored (bs ++ [b]) (s.feed b) := by
  have hsampled := h.sampled
  have hle : scoreSamples ≤ scoreFidPayloads := by decide
  have hmono : fidsOf (bs.take scoreFidPayloads) ⊆ fidsOf ((bs ++ [b]).take scoreFidPayloads) := by
    rw [List.take_append, fidsOf_append]
    exact Finset.subset_union_left
  by_cases hset : s.Settled
  · -- nothing more is counted
    have hlen : scoreSamples ≤ bs.length := by
      have := hset.1
      omega
    rw [ScoreState.feed, if_pos (.inr (.inl hset))]
    refine ⟨?_, ?_, h.fids_subset.trans hmono, fun hn => absurd hset hn⟩
    · rw [h.sampled, List.length_append]
      omega
    · rw [h.plausibleCount, List.take_append_of_le_length hlen]
  · obtain ⟨hseen, hfids⟩ := h.watching hset
    by_cases hfull : scoreFidPayloads ≤ s.seen
    · -- the window of the FID watch is over
      have hlen : scoreFidPayloads ≤ bs.length := by omega
      rw [ScoreState.feed, if_pos (.inr (.inr hfull))]
      refine ⟨?_, ?_, h.fids_subset.trans hmono, fun _ => ⟨?_, ?_⟩⟩
      · rw [h.sampled, List.length_append]
        omega
      · rw [h.plausibleCount, List.take_append_of_le_length (hle.trans hlen)]
      · rw [hseen, List.length_append]
        omega
      · rw [hfids, List.take_append_of_le_length hlen]
    · have hlen : bs.length < scoreFidPayloads := by omega
      have hunion : s.fids ∪ (blockFid b).toFinset =
          fidsOf ((bs ++ [b]).take scoreFidPayloads) := by
        rw [hfids, List.take_of_length_le (by omega),
          List.take_of_length_le (by rw [List.length_append, List.length_singleton]; omega),
          fidsOf_append, fidsOf_singleton]
      rw [ScoreState.feed, if_neg (not_or.mpr ⟨hb, not_or.mpr ⟨hset, hfull⟩⟩)]
      refine ⟨?_, ?_, hunion.subset, fun _ => ⟨?_, hunion⟩⟩
      · simp only [List.length_append, List.length_singleton]
        split <;> omega
      · by_cases hsampling : s.sampled < scoreSamples
        · rw [List.take_of_length_le (by rw [List.length_append, List.length_singleton]; omega),
            headers_append, ← List.take_of_length_le (i := scoreSamples) (by omega : bs.length ≤ _),
            ← h.plausibleCount]
          by_cases hhead : (blockFid b).isSome <;> simp [headers, hsampling, hhead]
        · rw [List.take_append_of_le_length (by omega), ← h.plausibleCount]
          simp [hsampling]
      · simp only [List.length_append, List.length_singleton]
        omega

/-- **Score run**. -/
theorem Scored.foldl {bs : List (List UInt8)} {s : ScoreState} (h : Scored bs s)
    (bs' : List (List UInt8)) :
    Scored (bs ++ bs'.filter (· ≠ [])) (bs'.foldl ScoreState.feed s) := by
  induction bs' generalizing bs s with
  | nil => simpa using h
  | cons b bs' ih =>
      by_cases hb : b = []
      · have hfeed : s.feed b = s := if_pos (.inl hb)
        rw [List.foldl_cons, hfeed, List.filter_cons_of_neg (by simpa using hb)]
        exact ih h
      · simpa [hb] using ih (h.feed hb)

/-- Both FIDs among the blocks, if and only if more than one was noted. -/
theorem Scored.one_lt_card_iff {bs : List (List UInt8)} {s : ScoreState} (h : Scored bs s) :
    1 < s.fids.card ↔ fidsOf (bs.take scoreFidPayloads) = Finset.univ := by
  have huniv (t : Finset Bool) : 1 < t.card ↔ t = Finset.univ := by
    have hle : t.card ≤ Fintype.card Bool := Finset.card_le_univ t
    rw [← Finset.card_eq_iff_eq_univ]
    rw [Fintype.card_bool] at hle ⊢
    omega
  constructor
  · intro hcard
    exact (huniv _).mp (hcard.trans_le (Finset.card_le_card h.fids_subset))
  · intro hall
    by_contra hcard
    have hfids := (h.watching fun hset => hcard hset.2).2
    exact hcard ((huniv _).mpr (hfids.trans hall))

theorem Scored.sampled_pos {bs : List (List UInt8)} {s : ScoreState} (h : Scored bs s)
    (hcard : 1 < s.fids.card) : 0 < s.sampled := by
  cases bs with
  | nil =>
      have hle := Finset.card_le_card h.fids_subset
      exact absurd (hcard.trans_le hle) (by decide)
  | cons b bs =>
      rw [h.sampled]
      exact Nat.lt_min.mpr ⟨by decide, Nat.succ_pos _⟩

/-- The gate on a share of at most 1, which one FID alone halves. -/
theorem score_ge_iff_counts {s : ScoreState} (hle : s.plausibleCount ≤ s.sampled)
    (hpos : 1 < s.fids.card → 0 < s.sampled) :
    9 / 10 ≤ s.score ↔ 9 * s.sampled ≤ 10 * s.plausibleCount ∧ 1 < s.fids.card := by
  by_cases hzero : s.sampled = 0
  · have hcard : ¬ 1 < s.fids.card := fun hcard => by
      have := hpos hcard
      omega
    simp only [score, if_pos hzero, hcard, and_false, iff_false]
    norm_num
  · have hs : (0 : ℚ) < s.sampled := by exact_mod_cast Nat.pos_of_ne_zero hzero
    have hfrac : 9 / 10 ≤ (s.plausibleCount / s.sampled : ℚ) ↔
        9 * s.sampled ≤ 10 * s.plausibleCount := by
      rw [div_le_div_iff₀ (by norm_num) hs, mul_comm (s.plausibleCount : ℚ)]
      exact_mod_cast Iff.rfl
    have hone : (s.plausibleCount / s.sampled : ℚ) ≤ 1 :=
      (div_le_one hs).mpr (by exact_mod_cast hle)
    by_cases hcard : 1 < s.fids.card
    · rw [score, if_neg hzero, if_pos hcard, hfrac]
      exact (and_iff_left hcard).symm
    · rw [score, if_neg hzero, if_neg hcard]
      refine ⟨fun hge => ?_, fun h => absurd h.2 hcard⟩
      linarith

/-- **Score**: the gate of the probe, read off the blocks. -/
theorem score_ge_iff (blocks : List (List UInt8)) :
    9 / 10 ≤ (blocks.foldl ScoreState.feed init).score ↔ LooksLikeUvc blocks := by
  have h : Scored (blocks.filter (· ≠ [])) _ := scored_init.foldl blocks
  have hlen := h.sampled
  rw [← List.length_take] at hlen
  have hle : headers ((blocks.filter (· ≠ [])).take scoreSamples) ≤
      ((blocks.filter (· ≠ [])).take scoreSamples).length := List.countP_le_length
  rw [← h.plausibleCount, ← hlen] at hle
  rw [score_ge_iff_counts hle h.sampled_pos, LooksLikeUvc, ← h.one_lt_card_iff, ← h.plausibleCount,
    ← hlen]

end ScoreState

/-! ## The streams of a capture -/

/-- The parser over a capture: the record of a packet, with the byte order of
its descriptors. -/
def readStep (settled : Option Endian) (p : Packet) : Option Endian × Option (Endian × Urb) :=
  let settled' := settledAfter settled p
  (settled', (readUrb settled p).map fun u => (settled'.getD .little, u))

/-- The IN completions of a capture, control transfers apart. -/
def completions (ps : List Packet) : List (Endian × Urb) :=
  ((Machine.history readStep none ps).filterMap Prod.snd).filter fun r => r.2.Counted

/-- The blocks of a stream among some completions. -/
def blocksOf (k : StreamKey) (rs : List (Endian × Urb)) : List (List UInt8) :=
  (rs.filter fun r => r.2.streamKey = k).flatMap fun r => r.2.blocks r.1

/-- The data blocks of a stream. -/
def streamBlocks (k : StreamKey) (ps : List Packet) : List (List UInt8) :=
  blocksOf k (completions ps)

/-- `k` is an isochronous or bulk IN endpoint, and no other one is in the capture. -/
def OnlyVideo (k : StreamKey) (ps : List Packet) : Prop :=
  k.Video ∧ ∀ r ∈ completions ps, r.2.streamKey.Video → r.2.streamKey = k

instance (k : StreamKey) (ps : List Packet) : Decidable (OnlyVideo k ps) :=
  inferInstanceAs (Decidable (_ ∧ _))

/-- The completions of a capture, counted. -/
def noteAll (stats : List StreamStats) (rs : List (Endian × Urb)) : List StreamStats :=
  rs.foldl (fun stats r => StreamStats.note r.2.streamKey (r.2.blocks r.1) stats) stats

namespace ProbeState

theorem vsCtrl_kept (s : ProbeState) (commit : Bool) (u : Urb) :
    (s.vsCtrl commit u).stats = s.stats ∧ (s.vsCtrl commit u).settled = s.settled ∧
      (s.vsCtrl commit u).linktypes = s.linktypes := by
  simp only [vsCtrl]
  split_ifs <;> exact ⟨rfl, rfl, rfl⟩

/-- Control transfers count for nothing but the negotiation. -/
theorem control_kept (s : ProbeState) (u : Urb) :
    (s.control u).stats = s.stats ∧ (s.control u).settled = s.settled ∧
      (s.control u).linktypes = s.linktypes := by
  simp only [control]
  split_ifs
  · exact s.vsCtrl_kept _ u
  · exact ⟨rfl, rfl, rfl⟩
  · exact ⟨rfl, rfl, rfl⟩
  · split
    · exact ⟨rfl, rfl, rfl⟩
    · split_ifs
      · exact vsCtrl_kept _ false u
      · exact ⟨rfl, rfl, rfl⟩
  · exact ⟨rfl, rfl, rfl⟩

/-- What a record does to the counts. -/
theorem record_kept (s : ProbeState) (u : Urb) :
    (s.record u).stats =
        (if u.Counted then
          StreamStats.note u.streamKey (u.blocks (s.settled.getD .little)) s.stats
        else s.stats) ∧
      (s.record u).settled = s.settled ∧ (s.record u).linktypes = s.linktypes := by
  simp only [record]
  by_cases hctrl : u.xfer = xferCtrl
  · have hcount : ¬ u.Counted := by
      rintro ⟨-, -, h⟩
      rw [hctrl] at h
      exact absurd h (by decide)
    rw [if_pos hctrl, if_neg hcount]
    exact control_kept _ u
  · rw [if_neg hctrl]
    split_ifs <;> exact ⟨rfl, rfl, rfl⟩

/-- **Packet step** of the counts: a packet is one more completion, or none. -/
theorem step_kept (s : ProbeState) (p : Packet) :
    (s.step p).stats =
        noteAll s.stats ((readStep s.settled p).2.toList.filter fun r => r.2.Counted) ∧
      (s.step p).settled = (readStep s.settled p).1 ∧
      (s.step p).linktypes =
        if p.linktype ∈ s.linktypes then s.linktypes else s.linktypes ++ [p.linktype] := by
  cases hread : readUrb s.settled p with
  | none => simp [step, readStep, hread, noteAll]
  | some u =>
      obtain ⟨hstats, hsettled, hlinktypes⟩ := record_kept
        { s with
          packets := s.packets + 1,
          linktypes := if p.linktype ∈ s.linktypes then s.linktypes
            else s.linktypes ++ [p.linktype],
          settled := settledAfter s.settled p } u
      simp only [step, readStep, hread]
      refine ⟨hstats.trans ?_, hsettled, hlinktypes⟩
      by_cases hcount : u.Counted <;> simp [noteAll, hcount]

/-- **Capture run** of the counts. -/
theorem foldl_kept (ps : List Packet) :
    (ps.foldl step init).stats = noteAll [] (completions ps) ∧
      (ps.foldl step init).settled = Machine.final readStep none ps ∧
      ∀ p ∈ ps, p.linktype ∈ (ps.foldl step init).linktypes := by
  induction ps using List.reverseRecOn with
  | nil => exact ⟨rfl, rfl, by simp⟩
  | append_singleton ps p ih =>
      obtain ⟨hstats, hsettled, hlinktypes⟩ := ih
      obtain ⟨hstats', hsettled', hlinktypes'⟩ := step_kept (ps.foldl step init) p
      rw [List.foldl_append, List.foldl_cons, List.foldl_nil, hstats', hsettled', hlinktypes',
        hstats, hsettled]
      refine ⟨?_, ?_, ?_⟩
      · have hsplit : completions (ps ++ [p]) = completions ps ++
            ((readStep (Machine.final readStep none ps) p).2.toList.filter
              fun r => r.2.Counted) := by
          rw [completions, Machine.history_append, List.filterMap_append, List.filter_append]
          cases h : (readStep (Machine.final readStep none ps) p).2 <;>
            simp [Machine.history, h, completions]
        rw [hsplit, noteAll, noteAll, noteAll, List.foldl_append]
      · rw [Machine.final_append]
        rfl
      · intro q hq
        rw [List.mem_append, List.mem_singleton] at hq
        rcases hq with hq | rfl
        · have := hlinktypes q hq
          split_ifs
          · exact this
          · exact List.mem_append_left _ this
        · split_ifs with hmem
          · exact hmem
          · simp

end ProbeState

/-! ## A single video stream -/

/-- The video streams of the counts: none yet, or `k` with the score of its blocks. -/
inductive Solo (k : StreamKey) (blocks : List (List UInt8)) : List StreamStats → Prop where
  | absent (h : blocks = []) : Solo k blocks []
  | present (s : StreamStats) (hkey : s.key = k)
      (hscore : s.score = blocks.foldl ScoreState.feed .init) : Solo k blocks [s]

theorem filter_note_of_not_video {key : StreamKey} (hkey : ¬ key.Video)
    (blocks : List (List UInt8)) (stats : List StreamStats) :
    (StreamStats.note key blocks stats).filter (·.key.Video) = stats.filter (·.key.Video) := by
  induction stats with
  | nil => simp [StreamStats.note, StreamStats.new, hkey]
  | cons s stats ih =>
      rw [StreamStats.note]
      split_ifs with hs
      · simp [hs, hkey]
      · rw [List.filter_cons, List.filter_cons, ih]

/-- A completion of the only video stream is counted where the stream is. -/
theorem filter_note_of_video {key : StreamKey} (hkey : key.Video) (blocks : List (List UInt8))
    {stats : List StreamStats} (h : ∀ s ∈ stats, s.key.Video → s.key = key) :
    (StreamStats.note key blocks stats).filter (·.key.Video) =
      match stats.filter (·.key.Video) with
      | [] => [(StreamStats.new key).add blocks]
      | s :: rest => s.add blocks :: rest := by
  induction stats with
  | nil => simp [StreamStats.note, StreamStats.new, hkey]
  | cons s stats ih =>
      have ih := ih fun s hs => h s (List.mem_cons_of_mem _ hs)
      rw [StreamStats.note]
      by_cases hs : s.key = key
      · simp [hs, hkey]
      · have hvideo : ¬ s.key.Video := fun hv => hs (h s List.mem_cons_self hv)
        rw [if_neg hs, List.filter_cons_of_neg (by simpa using hvideo), ih,
          List.filter_cons_of_neg (by simpa using hvideo)]

/-- **Completion step**: one more completion of a capture with one video stream. -/
theorem Solo.note {k : StreamKey} (hk : k.Video) {blocks : List (List UInt8)}
    {stats : List StreamStats} (h : Solo k blocks (stats.filter (·.key.Video)))
    {key : StreamKey} (hkey : key.Video → key = k) (bs : List (List UInt8)) :
    Solo k (blocks ++ if key = k then bs else [])
      ((StreamStats.note key bs stats).filter (·.key.Video)) := by
  by_cases hvideo : key.Video
  · obtain rfl := hkey hvideo
    have honly : ∀ s ∈ stats, s.key.Video → s.key = key := by
      intro s hs hv
      have hmem : s ∈ stats.filter (·.key.Video) := List.mem_filter.mpr ⟨hs, by simpa using hv⟩
      generalize stats.filter (·.key.Video) = video at h hmem
      cases h with
      | absent _ => cases hmem
      | present s' hkey' _ => rw [List.mem_singleton.mp hmem, hkey']
    rw [filter_note_of_video hvideo bs honly, if_pos rfl]
    generalize stats.filter (·.key.Video) = video at h
    cases h with
    | absent hnil =>
        refine .present _ rfl ?_
        simp [StreamStats.add, StreamStats.new, hvideo, hnil]
    | present s hs hscore =>
        refine .present _ hs ?_
        simp [StreamStats.add, hs, hvideo, hscore]
  · have hne : key ≠ k := fun he => hvideo (he ▸ hk)
    rw [filter_note_of_not_video hvideo, if_neg hne, List.append_nil]
    exact h

theorem Solo.noteAll {k : StreamKey} (hk : k.Video) {blocks : List (List UInt8)}
    {stats : List StreamStats} (h : Solo k blocks (stats.filter (·.key.Video)))
    {rs : List (Endian × Urb)} (hrs : ∀ r ∈ rs, r.2.streamKey.Video → r.2.streamKey = k) :
    Solo k (blocks ++ blocksOf k rs)
      ((Uvc.noteAll stats rs).filter (·.key.Video)) := by
  induction rs generalizing blocks stats with
  | nil => simpa [Uvc.noteAll, blocksOf] using h
  | cons r rs ih =>
      have hr := hrs r List.mem_cons_self
      have ih := ih (h.note hk hr (r.2.blocks r.1)) fun r hr => hrs r (List.mem_cons_of_mem _ hr)
      rw [Uvc.noteAll, List.foldl_cons, blocksOf]
      by_cases hkey : r.2.streamKey = k
      · rw [if_pos hkey, List.append_assoc] at ih
        rw [List.filter_cons_of_pos (by simpa using hkey), List.flatMap_cons]
        exact ih
      · rw [if_neg hkey, List.append_nil] at ih
        rw [List.filter_cons_of_neg (by simpa using hkey)]
        exact ih

/-- One video stream stays one behind the sort. -/
theorem Solo.filter_streams {s : ProbeState} {k : StreamKey} {blocks : List (List UInt8)}
    (h : Solo k blocks (s.stats.filter (·.key.Video))) :
    s.streams.filter (·.key.Video) = (s.stats.filter (·.key.Video)).map s.info := by
  have hperm : (s.streams.filter (·.key.Video)).Perm
      ((s.stats.filter (·.key.Video)).map s.info) := by
    have hmap : (s.stats.map s.info).filter (·.key.Video) =
        (s.stats.filter (·.key.Video)).map s.info := List.filter_map
    rw [← hmap]
    exact (List.mergeSort_perm _ _).filter _
  generalize s.stats.filter (·.key.Video) = video at h hperm ⊢
  cases h with
  | absent _ => exact hperm.eq_nil
  | present x _ _ => exact List.perm_singleton.mp hperm

theorem fidsOf_nil_ne : fidsOf [] ≠ Finset.univ := by decide

/-- The best stream of a capture with one video stream. -/
theorem Solo.best_iff {s : ProbeState} {k : StreamKey} {blocks : List (List UInt8)}
    (h : Solo k blocks (s.stats.filter (·.key.Video))) :
    (∃ info ∈ s.streams.find? fun info => info.key.Video ∧ 9 / 10 ≤ info.uvcScore,
      info.key = k) ↔ LooksLikeUvc blocks := by
  have hfind : (s.streams.find? fun info => info.key.Video ∧ 9 / 10 ≤ info.uvcScore) =
      ((s.stats.filter (·.key.Video)).map s.info).find? fun info => 9 / 10 ≤ info.uvcScore := by
    rw [← h.filter_streams, List.find?_filter]
    simp
  rw [hfind]
  generalize s.stats.filter (·.key.Video) = video at h
  cases h with
  | absent hnil =>
      subst hnil
      refine ⟨fun ⟨_, hmem, _⟩ => absurd hmem (by simp), fun h => ?_⟩
      exact absurd h.2 (by simpa using fidsOf_nil_ne)
  | present x hkey hscore =>
      rw [← ScoreState.score_ge_iff, ← hscore]
      by_cases hgate : 9 / 10 ≤ x.score.score
      · simp [ProbeState.info, hgate, hkey]
      · simp [ProbeState.info, hgate]

/-! ## Finding the stream -/

theorem solo_completions {k : StreamKey} {ps : List Packet} (h : OnlyVideo k ps) :
    Solo k (streamBlocks k ps)
      ((ps.foldl ProbeState.step .init).stats.filter (·.key.Video)) := by
  rw [(ProbeState.foldl_kept ps).1]
  exact @Solo.noteAll k h.1 [] [] (.absent rfl) _ h.2

/-- The payload size the probe reads for a stream's device. -/
def negotiatedPayload (k : StreamKey) (ps : List Packet) : Nat :=
  let s := ps.foldl ProbeState.step .init
  (((s.committed (k.bus, k.dev)).or (s.negotiated (k.bus, k.dev))).map
    Negotiated.maxPayloadSize).getD 0

/-- The extractor can play the stream: it is fed the payloads of the frames
`fs`, and nothing else. -/
def Plays (k : StreamKey) (ps : List Packet) (fs : List SentFrame) : Prop :=
  walkOps k.endpoint (negotiatedPayload k ps) .reset ps = fs.flatMap SentFrame.ops

instance (k : StreamKey) (ps : List Packet) (fs : List SentFrame) : Decidable (Plays k ps fs) :=
  inferInstanceAs (Decidable (_ = _))

/-- The probe takes the stream for the best one, and without pins its frames,
of `n` bytes each, are extracted. -/
def Finds (k : StreamKey) (ps : List Packet) (n : Nat) (fs : List SentFrame) : Prop :=
  (∃ pr, probe none (ps, none) = .ok pr ∧ ∃ info ∈ pr.best, info.key = k) ∧
    ∃ frames, iterFrames none none none (some n) false none false (ps, none) = .ok (frames, none) ∧
      frames.map Prod.snd = fs.map SentFrame.bytes

theorem exists_isUsb_of_read {settled : Option Endian} {ps : List Packet} {r : Endian × Urb}
    (h : r ∈ (Machine.history readStep settled ps).filterMap Prod.snd) : ∃ p ∈ ps, IsUsb p := by
  induction ps generalizing settled with
  | nil => cases h
  | cons p ps ih =>
      by_cases husb : IsUsb p
      · exact ⟨p, List.mem_cons_self, husb⟩
      · have hnone : (readStep settled p).2 = none := by simp [readStep, readUrb, husb]
        simp only [Machine.history, List.filterMap_cons, hnone] at h
        obtain ⟨q, hq, husb'⟩ := ih h
        exact ⟨q, List.mem_cons_of_mem _ hq, husb'⟩

theorem best_of_probe {ps : List Packet} {pr : ProbeResult}
    (h : probe none (ps, none) = .ok pr) :
    pr.best = (ps.foldl ProbeState.step .init).streams.find?
      fun info => info.key.Video ∧ 9 / 10 ≤ info.uvcScore := by
  simp only [probe, Option.filter_none, ProbeState.result] at h
  split_ifs at h
  cases h
  rfl

/-- A capture with a usbmon record is not refused. -/
theorem probe_ok {ps : List Packet} (h : ∃ p ∈ ps, IsUsb p) :
    ∃ pr, probe none (ps, none) = .ok pr := by
  obtain ⟨p, hp, husb⟩ := h
  simp only [probe, Option.filter_none, ProbeState.result]
  rw [if_pos ⟨p.linktype, (ProbeState.foldl_kept ps).2.2 p hp, husb⟩]
  exact ⟨_, rfl⟩

theorem maxPayload_of_mem {ps : List Packet} {info : StreamInfo}
    (h : info ∈ (ps.foldl ProbeState.step .init).streams) :
    info.maxPayload = negotiatedPayload info.key ps := by
  obtain ⟨x, -, rfl⟩ := List.mem_map.mp (List.mem_mergeSort.mp h)
  rfl

/-- Without pins the best stream is extracted, with its negotiated payload size. -/
theorem iterFrames_of_best {ps : List Packet} {pr : ProbeResult} {info : StreamInfo}
    (hprobe : probe none (ps, none) = .ok pr) (hbest : info ∈ pr.best)
    (expectedSize : Option Nat) (mjpeg strict : Bool) :
    iterFrames none none none expectedSize mjpeg none strict (ps, none) =
      .ok (extractFrames info.key.endpoint
        { expectedSize, mjpeg, maxPayload := negotiatedPayload info.key ps, strict } ps, none) := by
  have hmem : info ∈ (ps.foldl ProbeState.step .init).streams := by
    have hbest := hbest
    rw [best_of_probe hprobe] at hbest
    exact List.mem_of_find?_eq_some hbest
  have hselect : selectStream pr none none none = .ok info := by
    rw [selectStream, if_pos ⟨rfl, rfl, rfl⟩, Option.mem_def.mp hbest]
  rw [← maxPayload_of_mem hmem]
  simp only [iterFrames, hprobe]
  change (selectStream pr none none none >>= _) = _
  rw [hselect]
  rfl

/-- The probe only finds a stream whose blocks look like UVC payloads. -/
theorem looksLikeUvc_of_finds {k : StreamKey} {ps : List Packet} (honly : OnlyVideo k ps)
    {n : Nat} {fs : List SentFrame} (h : Finds k ps n fs) :
    LooksLikeUvc (streamBlocks k ps) := by
  obtain ⟨⟨pr, hprobe, hbest⟩, -⟩ := h
  rw [best_of_probe hprobe] at hbest
  exact (solo_completions honly).best_iff.mp hbest

/-- **Probe**: in a capture whose only video stream is one the extractor can
play, the probe finds that stream and its frames are extracted if and only if
its blocks look like UVC payloads. -/
theorem finds_iff {k : StreamKey} {ps : List Packet} (honly : OnlyVideo k ps) {fid : Bool}
    {fs : List SentFrame} (hsent : Sent fid fs) {n : Nat} (hlen : ∀ f ∈ fs, f.bytes.length = n)
    (hplays : Plays k ps fs) : Finds k ps n fs ↔ LooksLikeUvc (streamBlocks k ps) := by
  constructor
  · exact looksLikeUvc_of_finds honly
  · intro hlooks
    have husb : ∃ p ∈ ps, IsUsb p := by
      cases hc : completions ps with
      | nil =>
          rw [streamBlocks, hc] at hlooks
          exact absurd hlooks.2 fidsOf_nil_ne
      | cons r rs =>
          have hr : r ∈ completions ps := by simp [hc]
          exact exists_isUsb_of_read (List.mem_filter.mp hr).1
    obtain ⟨pr, hprobe⟩ := probe_ok husb
    obtain ⟨info, hbest, hkey⟩ := (solo_completions honly).best_iff.mpr hlooks
    rw [← best_of_probe hprobe] at hbest
    refine ⟨⟨pr, hprobe, info, hbest, hkey⟩, _, iterFrames_of_best hprobe hbest _ _ _, ?_⟩
    rw [hkey, extractFrames_eq, hplays]
    exact (frames_of_sent rfl rfl rfl hsent hlen).1

/-! ## Streams the extractor can play -/

/-- The records the extractor looks at. -/
def endpointUrbs (pin : Endpoint) (settled : Option Endian) (ps : List Packet) :
    List (Endian × Urb) :=
  ((Machine.history readStep settled ps).filterMap Prod.snd).filter fun r => pin.Selects r.2

/-- A bulk record as the bulk half of the extractor sees it. -/
def Urb.event (u : Urb) : Option BulkEvent :=
  if u.type = typeS then some (.submit u.key u.length)
  else if u.type = typeC then some (.complete u)
  else none

theorem endpointUrbs_cons (pin : Endpoint) (settled : Option Endian) (p : Packet)
    (ps : List Packet) :
    endpointUrbs pin settled (p :: ps) =
      ((selected pin settled p).toList.map fun u => ((settledAfter settled p).getD .little, u)) ++
        endpointUrbs pin (settledAfter settled p) ps := by
  have hsel : selected pin settled p = (readUrb settled p).filter (pin.Selects ·) := by
    rw [selected, readUrb]
    split <;> rfl
  rw [endpointUrbs, hsel]
  cases h : readUrb settled p with
  | none => simp [Machine.history, readStep, h, endpointUrbs]
  | some u =>
      by_cases hpin : pin.Selects u <;>
        simp [Machine.history, readStep, h, hpin, endpointUrbs, Option.filter]

/-- On a bulk endpoint the walk is the bulk half of the extractor. -/
theorem walkOps_of_bulk {pin : Endpoint} {maxPayload : Nat} {ps : List Packet} {w : Walk}
    (h : ∀ r ∈ endpointUrbs pin w.settled ps, r.2.xfer = xferBulk) :
    walkOps pin maxPayload w ps =
      bulkOps maxPayload w.bulk ((endpointUrbs pin w.settled ps).filterMap (·.2.event)) := by
  induction ps generalizing w with
  | nil => rfl
  | cons p ps ih =>
      rw [endpointUrbs_cons] at h ⊢
      have ih (w' : Walk) (hw : w'.settled = settledAfter w.settled p) :=
        ih (w := w') fun r hr => h r (List.mem_append_right _ (hw ▸ hr))
      rw [walkOps_cons]
      simp only [Walk.step]
      cases hsel : selected pin w.settled p with
      | none => exact ih _ rfl
      | some u =>
          have hbulk : u.xfer = xferBulk :=
            h ((settledAfter w.settled p).getD .little, u) (by simp [hsel])
          have hiso : u.xfer ≠ xferIso := by rw [hbulk]; decide
          by_cases hs : u.type = typeS
          · simp only [Walk.record, if_pos hs, if_pos hbulk, Option.toList_some, List.map_cons,
              List.map_nil, List.singleton_append, List.filterMap_cons, Urb.event, bulkOps_cons]
            exact ih _ rfl
          · by_cases hc : u.type = typeC
            · simp only [Walk.record, if_neg hs, if_neg (not_not.mpr hc), if_neg hiso,
                if_pos hbulk, Option.toList_some, List.map_cons, List.map_nil,
                List.singleton_append, List.filterMap_cons, Urb.event, if_pos hc, bulkOps_cons]
              exact congrArg _ (ih _ rfl)
            · simp only [Walk.record, if_neg hs, if_pos hc, Option.toList_some, List.map_cons,
                List.map_nil, List.singleton_append, List.filterMap_cons, Urb.event, if_neg hc]
              exact ih _ rfl

def SentPayload.bulk (p : SentPayload) : BulkPayload :=
  { bytes := p.header.encode p.data, ts := p.ts }

/-- The payloads of a capture, in order. -/
def sentPayloads (fs : List SentFrame) : List SentPayload :=
  fs.flatMap fun f => f.parts ++ f.keepalives

/-- A bulk stream whose payloads are cut into URBs in any way the bus allows can
be played, as long as no URB finds and brings more than the bound together. -/
theorem plays_of_cut {k : StreamKey} {ps : List Packet} {fs : List SentFrame} {loads : List Nat}
    (hbulk : ∀ r ∈ endpointUrbs k.endpoint none ps, r.2.xfer = xferBulk)
    (hcut : Cut (negotiatedPayload k ps) (fun _ => none) []
      ((sentPayloads fs).map SentPayload.bulk)
      ((endpointUrbs k.endpoint none ps).filterMap (·.2.event)) loads)
    (hsize : Sizes (negotiatedPayload k ps) ((sentPayloads fs).map SentPayload.bulk))
    (hloads : ∀ n ∈ loads, n ≤ bulkLimit) : Plays k ps fs := by
  have hops := (bulkOps_of_cut hcut (Sync.reset _ _) hsize hloads).1
  rw [Plays, walkOps_of_bulk hbulk]
  refine hops.trans ?_
  rw [List.map_map, sentPayloads, List.map_flatMap]
  rfl

/-! ## Isochronous streams -/

theorem fedPayloads_isoOps (e : Endian) {u : Urb} (hx : u.xfer = xferIso) :
    (fedPayloads (Walk.isoOps e u)).map Prod.fst = u.blocks e := by
  rw [fedPayloads, Walk.isoOps, List.filterMap_map, List.map_filterMap, Urb.blocks, if_pos hx]
  refine List.filterMap_congr fun packet _ => ?_
  obtain ⟨payload, lost⟩ := packet
  cases lost <;> rfl

/-- On an isochronous endpoint the assembler is fed the blocks that are scored. -/
theorem fedPayloads_walkOps {pin : Endpoint} {maxPayload : Nat} {ps : List Packet} {w : Walk}
    (h : ∀ r ∈ endpointUrbs pin w.settled ps, r.2.type = typeC → r.2.xfer ≠ xferBulk) :
    (fedPayloads (walkOps pin maxPayload w ps)).map Prod.fst =
      ((endpointUrbs pin w.settled ps).filter
        fun r => r.2.type = typeC ∧ r.2.xfer = xferIso).flatMap fun r => r.2.blocks r.1 := by
  induction ps generalizing w with
  | nil => rfl
  | cons p ps ih =>
      rw [endpointUrbs_cons] at h ⊢
      have ih (w' : Walk) (hw : w'.settled = settledAfter w.settled p) :=
        ih (w := w') fun r hr => h r (List.mem_append_right _ (hw ▸ hr))
      rw [walkOps_cons, fedPayloads_append, List.map_append, List.filter_append,
        List.flatMap_append]
      simp only [Walk.step]
      cases hsel : selected pin w.settled p with
      | none => exact ih _ rfl
      | some u =>
          have hbulk : u.type = typeC → u.xfer ≠ xferBulk :=
            h ((settledAfter w.settled p).getD .little, u) (by simp [hsel])
          by_cases hc : u.type = typeC
          · have hs : u.type ≠ typeS := by rw [hc]; decide
            by_cases hx : u.xfer = xferIso
            · simp only [Walk.record, if_neg hs, if_neg (not_not.mpr hc), if_pos hx]
              refine congrArg₂ _ ?_ (ih _ rfl)
              simpa [hc, hx, Walk.noteUrb] using fedPayloads_isoOps _ hx
            · simp only [Walk.record, if_neg hs, if_neg (not_not.mpr hc), if_neg hx,
                if_neg (hbulk hc)]
              refine congrArg₂ _ ?_ (ih _ rfl)
              simp [hx, fedPayloads]
          · by_cases hs : u.type = typeS
            · simp only [Walk.record, if_pos hs]
              refine congrArg₂ _ ?_ ?_
              · simp [hc, fedPayloads]
              · split <;> exact ih _ rfl
            · simp only [Walk.record, if_neg hs, if_pos hc]
              refine congrArg₂ _ ?_ (ih _ rfl)
              simp [hc, fedPayloads]

/-- The blocks of an isochronous stream are what the assembler is fed. -/
theorem streamBlocks_of_iso {k : StreamKey} {ps : List Packet} (hx : k.xfer = xferIso)
    (hep : k.ep < 128) (honly : OnlyVideo k ps) (maxPayload : Nat) :
    (fedPayloads (walkOps k.endpoint maxPayload .reset ps)).map Prod.fst = streamBlocks k ps := by
  have hiff (u : Urb) : (u.type = typeC ∧ u.xfer = xferIso) ∧ k.endpoint.Selects u ↔
      u.streamKey = k ∧ u.Counted := by
    constructor
    · rintro ⟨⟨hc, hxu⟩, hdev, hbus, hin, hepu⟩
      have hepu : u.ep = k.ep := hepu.trans (Nat.mod_eq_of_lt hep)
      refine ⟨?_, hc, hin, .inl hxu⟩
      rw [Urb.streamKey, hdev, hbus, hepu, hxu, ← hx]
      rfl
    · rintro ⟨rfl, hc, hin, -⟩
      exact ⟨⟨hc, hx⟩, rfl, rfl, hin, (Nat.mod_eq_of_lt hep).symm⟩
  have hbulk : ∀ r ∈ endpointUrbs k.endpoint none ps, r.2.type = typeC → r.2.xfer ≠ xferBulk := by
    intro r hr hc hxr
    obtain ⟨hread, hsel⟩ := List.mem_filter.mp hr
    have hcount : r.2.Counted := ⟨hc, (of_decide_eq_true hsel).2.2.1, .inr (.inl hxr)⟩
    have hkey := honly.2 r (List.mem_filter.mpr ⟨hread, by simpa using hcount⟩) (.inr hxr)
    have hxk : r.2.xfer = k.xfer := by rw [← hkey]; rfl
    rw [hxk, hx] at hxr
    exact absurd hxr (by decide)
  rw [fedPayloads_walkOps hbulk, streamBlocks, blocksOf, completions, List.filter_filter]
  change (((List.filterMap _ _).filter _).filter _).flatMap _ = _
  rw [List.filter_filter]
  refine congrArg (List.flatMap _) (List.filter_congr fun r _ => ?_)
  rw [← Bool.decide_and, ← Bool.decide_and]
  exact decide_eq_decide.mpr (hiff r.2)

theorem blockFid_encode (p : SentPayload) :
    blockFid (p.header.encode p.data) = some p.header.fid := by
  rw [blockFid, UvcHeader.parseUvcHeader_encode, Option.map_some, UvcHeader.fidBit_info]

/-- Blocks that all start with a header only need both FIDs. -/
theorem looksLikeUvc_of_headers {blocks : List (List UInt8)} (h : ∀ b ∈ blocks, blockFid b ≠ none) :
    LooksLikeUvc blocks ↔ fidsOf (blocks.take scoreFidPayloads) = Finset.univ := by
  have hdata : blocks.filter (· ≠ []) = blocks := by
    refine List.filter_eq_self.mpr fun b hb => ?_
    have := h b hb
    cases b with
    | nil => exact absurd rfl this
    | cons _ _ => rfl
  have hall : headers (blocks.take scoreSamples) = (blocks.take scoreSamples).length :=
    List.countP_eq_length.mpr fun b hb => Option.isSome_iff_ne_none.mpr
      (h b (List.mem_of_mem_take hb))
  rw [LooksLikeUvc, hdata, hall]
  exact and_iff_right (Nat.mul_le_mul_right _ (by decide))

/-- **Isochronous streams**: all the probe needs from a stream the extractor can
play is both FIDs. -/
theorem looksLikeUvc_of_iso {k : StreamKey} {ps : List Packet} (hx : k.xfer = xferIso)
    (hep : k.ep < 128) (honly : OnlyVideo k ps) {fs : List SentFrame} (hplays : Plays k ps fs) :
    LooksLikeUvc (streamBlocks k ps) ↔
      fidsOf ((streamBlocks k ps).take scoreFidPayloads) = Finset.univ := by
  refine looksLikeUvc_of_headers fun b hb => ?_
  rw [← streamBlocks_of_iso hx hep honly (negotiatedPayload k ps), hplays] at hb
  obtain ⟨⟨payload, ts⟩, hfed, rfl⟩ := List.mem_map.mp hb
  obtain ⟨op, hop, hfed⟩ := List.mem_filterMap.mp hfed
  obtain ⟨f, -, hop⟩ := List.mem_flatMap.mp hop
  obtain ⟨p, -, rfl⟩ := List.mem_map.mp hop
  cases hfed
  simp [blockFid_encode]

/-! ## A payload across two URBs -/

/-- The submission of a bulk URB of `length` bytes on endpoint 1 of device 2 on
bus 1. -/
def submitPacket (ts : Int) (length : Nat) : Packet :=
  { linktype := linktypeUsbmon64, ts,
    record := Endian.little.encode 8 7 ++ [0x53, 3, 0x81, 2, 1, 0, 0x2d, 0x3c] ++
      List.replicate 12 0 ++ Endian.little.encode 4 (2 ^ 32 - 115) ++
      Endian.little.encode 4 length ++ Endian.little.encode 4 0 ++ List.replicate 24 0 }

/-- A frame of two bytes in one payload. -/
def onePayloadFrame (fid : Bool) (ts : Int) : SentFrame :=
  { parts := [⟨bareHeader fid true, [9, 9], ts⟩], eofLost := false, keepalives := [],
    lostAfter := false }

def twoFrames : List SentFrame := [onePayloadFrame false 10, onePayloadFrame true 20]

theorem sent_twoFrames : Sent false twoFrames := by
  refine ⟨⟨?_, ?_, ?_, ?_, ?_, ?_, ?_⟩, by decide, ⟨?_, ?_, ?_, ?_, ?_, ?_, ?_⟩, by decide,
    trivial⟩ <;> simp [bareHeader, onePayloadFrame, SentFrame.bytes]

theorem length_twoFrames : ∀ f ∈ twoFrames, f.bytes.length = 2 := by
  simp [twoFrames, onePayloadFrame, SentFrame.bytes]

def bulkKey : StreamKey := { bus := 1, dev := 2, ep := 1, xfer := xferBulk }

/-- Each frame in one URB. -/
def wholeCapture : List Packet :=
  [submitPacket 9 8, bulkPacket 10 0 [2, 2, 9, 9], submitPacket 19 8, bulkPacket 20 0 [2, 3, 9, 9]]

/-- Each frame in a full URB and a short one. -/
def spanningCapture : List Packet :=
  [submitPacket 8 3, bulkPacket 10 0 [2, 2, 9], submitPacket 11 3, bulkPacket 12 0 [9],
    submitPacket 18 3, bulkPacket 20 0 [2, 3, 9], submitPacket 21 3, bulkPacket 22 0 [9]]

theorem finds_wholeCapture : Finds bulkKey wholeCapture 2 twoFrames :=
  (finds_iff (by decide +kernel) sent_twoFrames length_twoFrames (by decide +kernel)).mpr
    (by decide +kernel)

/-- The claimed law, for every stream the extractor can play.  The second half of
each of these payloads is scored as a payload without a header. -/
theorem not_finds :
    ¬ ∀ (k : StreamKey) (ps : List Packet) (fid : Bool) (fs : List SentFrame) (n : Nat),
      OnlyVideo k ps → Sent fid fs → (∀ f ∈ fs, f.bytes.length = n) → Plays k ps fs →
      fidsOf (((streamBlocks k ps).filter (· ≠ [])).take scoreFidPayloads) = Finset.univ →
      Finds k ps n fs := by
  intro h
  have honly : OnlyVideo bulkKey spanningCapture := by decide +kernel
  have hplays : Plays bulkKey spanningCapture twoFrames := by decide +kernel
  have hfids : fidsOf (((streamBlocks bulkKey spanningCapture).filter (· ≠ [])).take
      scoreFidPayloads) = Finset.univ := by
    decide +kernel
  have hfinds := h _ _ _ _ _ honly sent_twoFrames length_twoFrames hplays hfids
  exact absurd (looksLikeUvc_of_finds honly hfinds) (by decide +kernel)

end CamDriver.Uvc
