import Mathlib
import CamDriver.PlaybackSpeed
import CamDriver.ReplayCut

/-!
# CamDriver.ReplayDuration

The duration of a replay, and the positions of its frames.

`open` takes what the cap removes from every gap of the recording off the duration, and rounds it
to three digits of a second; a pass only skips the gaps it crosses (`PlaysGap`), and its positions
are whole nanoseconds.  `allPlaced_exec` says where a pass puts a frame, whatever the duration;
`KeepsTime` says when the rounded duration has room for it.
-/

namespace CamDriver

/-! ## Gaps -/

/-- A gap loses no more than itself. -/
theorem excessNs_le {cap : Nat} {gap : Int} (h : 0 ≤ gap) : excessNs cap gap ≤ gap := by
  unfold excessNs
  split <;> omega

theorem sum_filter_add {α : Type} (f : α → Int) (p : α → Bool) (l : List α) :
    ((l.filter p).map f).sum + ((l.filter fun a => !p a).map f).sum = (l.map f).sum := by
  induction l with
  | nil => rfl
  | cons a l ih =>
      cases hp : p a <;> simp [hp] <;> omega

/-- The boundaries of two stretches of sessions that share one. -/
theorem boundaries_append (l r : List (List FrameStamp)) (a : List FrameStamp) :
    boundaries (l ++ a :: r) = boundaries (l ++ [a]) ++ boundaries (a :: r) := by
  induction l with
  | nil => rfl
  | cons x l ih =>
      cases l with
      | nil => rfl
      | cons y l => exact congrArg ((x, y) :: ·) ih

/-- The excess adds up over them. -/
theorem excessSum_append (cap : Nat) (l r : List (List FrameStamp)) (a : List FrameStamp) :
    excessSum cap (l ++ a :: r) = excessSum cap (l ++ [a]) + excessSum cap (a :: r) := by
  rw [excessSum, boundaries_append, List.map_append, List.sum_append]
  rfl

/-- A boundary joins two sessions of the recording. -/
theorem mem_boundaries {sessions : List (List FrameStamp)} {a b : List FrameStamp}
    (h : (a, b) ∈ boundaries sessions) : a ∈ sessions.dropLast ∧ b ∈ sessions.tail := by
  induction sessions with
  | nil => cases h
  | cons x sessions ih =>
      cases sessions with
      | nil => cases h
      | cons y rest =>
          rcases List.mem_cons.mp h with heq | h
          · cases heq
            simp
          · obtain ⟨ha, hb⟩ := ih h
            exact ⟨List.mem_cons_of_mem _ ha, List.mem_cons_of_mem _ hb⟩

/-- **Gaps**: what the cap removes behind a row fits between it and any instant
that no later session starts after. -/
theorem add_excessSum_le (cap : Nat) {e : Int} {rest : List (List FrameStamp)} :
    ∀ {rows : List FrameStamp} {row : FrameStamp}, row ∈ rows →
      Increases (rows :: rest).flatten → (∀ rows' ∈ rest, rows' ≠ []) →
      row.timestampNs ≤ e → (∀ rows' ∈ rest, ∀ first ∈ rows'.head?, first.timestampNs ≤ e) →
      row.timestampNs + excessSum cap (rows :: rest) ≤ e := by
  induction rest with
  | nil =>
      intro rows row _ _ _ he _
      simpa [excessSum, boundaries] using he
  | cons next rest ih =>
      intro rows row hrow hinc hne _ hheads
      have hnext := hne next List.mem_cons_self
      obtain ⟨first, next, rfl⟩ := List.exists_cons_of_ne_nil hnext
      have hlast := List.getLast?_eq_some_getLast (List.ne_nil_of_mem hrow)
      rw [List.flatten_cons] at hinc
      obtain ⟨hrows, hrest, hcross⟩ := List.pairwise_append.mp hinc
      have hle : row.timestampNs ≤ (rows.getLast (List.ne_nil_of_mem hrow)).timestampNs :=
        Increases.le_last hrows hlast hrow
      have hgap : 0 ≤ gapNs rows (first :: next) := by
        have := hcross _ (List.getLast_mem (List.ne_nil_of_mem hrow)) first (by simp)
        simp only [gapNs, hlast, List.head?_cons, Option.map_some, Option.getD_some]
        omega
      have hexcess := @excessNs_le cap _ hgap
      have ih := @ih (first :: next) first List.mem_cons_self hrest
        (fun rows' h => hne rows' (List.mem_cons_of_mem _ h))
        (hheads _ List.mem_cons_self first rfl)
        (fun rows' h => hheads rows' (List.mem_cons_of_mem _ h))
      have hsum : excessSum cap (rows :: (first :: next) :: rest) =
          excessNs cap (gapNs rows (first :: next)) + excessSum cap ((first :: next) :: rest) := rfl
      simp only [gapNs, hlast, List.head?_cons, Option.map_some, Option.getD_some] at hexcess hsum
      omega

/-! ## The gaps of a cycle -/

namespace ReplayTimeline

variable (tl : ReplayTimeline)

/-- A cycle crosses the gap between two sessions. -/
def PlaysGap (ab : List FrameStamp × List FrameStamp) : Bool := tl.EndsIn ab.1 && tl.Reaches ab.2

/-- The playing time of a cycle: the timeline up to its end, less what the cap
removes from the gaps that are played. -/
def effectiveNs : Int :=
  tl.endNs - tl.epochNs -
    (((boundaries tl.sessionStamps).filter tl.PlaysGap).map
      fun ab => excessNs tl.capNs (gapNs ab.1 ab.2)).sum

/-- Without a cap the timeline is as long as the stamps say. -/
theorem effectiveNs_of_uncapped (hcap : tl.capNs = 0) :
    tl.effectiveNs = tl.endNs - tl.epochNs := by
  simp [effectiveNs, excessNs, hcap]

/-- What the cap removes from the gaps that no cycle crosses. -/
def leftOutNs : Int :=
  (((boundaries tl.sessionStamps).filter fun ab => !tl.PlaysGap ab).map
    fun ab => excessNs tl.capNs (gapNs ab.1 ab.2)).sum

/-- The duration leaves out the excess of every gap. -/
theorem durationNs_eq : tl.durationNs = tl.effectiveNs - tl.leftOutNs := by
  have hsum := sum_filter_add
    (fun ab : List FrameStamp × List FrameStamp => excessNs tl.capNs (gapNs ab.1 ab.2))
    tl.PlaysGap (boundaries tl.sessionStamps)
  rw [durationNs, effectiveNs, leftOutNs, excessSum]
  omega

/-- The first session of the range is one of the recording. -/
theorem csvStamps_mem : tl.csvStamps tl.firstIdx ∈ tl.sessionStamps := by
  rw [ReplayConfig.csvStamps, List.getD_eq_getElem?_getD, List.getElem?_eq_getElem tl.firstIdx_lt]
  exact List.getElem_mem _

/-- The first session of a cycle reaches into the window, if the run does. -/
theorem endsIn_firstIdx (hfrom : ∀ fromNs ∈ tl.fromNs, fromNs ≤ tl.allTs.getLastD 0) :
    tl.EndsIn (tl.csvStamps tl.firstIdx) = true := by
  cases hf : tl.fromNs with
  | none => simp [EndsIn, hf, List.getLast?_eq_some_getLast (tl.rows_ne _ tl.csvStamps_mem)]
  | some fromNs =>
      have hle := hfrom fromNs hf
      cases hfind : tl.sessionStamps.findIdx? fun rows =>
          rows.getLast?.any fun last => fromNs ≤ last.timestampNs with
      | none =>
          -- the last session ends with the last frame
          obtain ⟨init, rows, hsplit⟩ := List.eq_nil_or_concat tl.sessionStamps |>.resolve_left
            tl.sessions_ne
          have hmem : rows ∈ tl.sessionStamps := by simp [hsplit]
          have hlast := List.getLast?_eq_some_getLast (tl.rows_ne rows hmem)
          have hshort := List.findIdx?_eq_none_iff.mp hfind rows hmem
          have hts : tl.allTs.getLastD 0 = (rows.getLast (tl.rows_ne rows hmem)).timestampNs := by
            rw [ReplayConfig.allTs, List.getLastD_eq_getLast?, List.getLast?_map, hsplit]
            simp [hlast]
          rw [hlast, Option.any_some, decide_eq_false_iff_not] at hshort
          exact absurd (hts ▸ hle) hshort
      | some first =>
          obtain ⟨hlt, hreach, -⟩ := List.findIdx?_eq_some_iff_getElem.mp hfind
          have hidx : tl.firstIdx = first := by simp [ReplayConfig.firstIdx, hf, hfind]
          rw [hidx, ReplayConfig.csvStamps, List.getD_eq_getElem?_getD,
            List.getElem?_eq_getElem hlt, Option.getD_some]
          simpa [EndsIn, hf] using hreach

/-- So is every session that is played. -/
theorem played_subset {rows : List FrameStamp} (h : rows ∈ tl.played) : rows ∈ tl.sessionStamps :=
  List.mem_of_mem_drop (tl.played_prefix.subset h)

/-- Their stamps increase with those of the recording. -/
theorem increases_played (hinc : tl.Increasing) : Increases tl.played.flatten :=
  hinc.sublist (tl.played_prefix.sublist.trans (List.drop_sublist _ _)).flatten

/-- The sessions of a cycle end in the window or behind it. -/
theorem endsIn_of_played (hinc : tl.Increasing)
    (hfrom : ∀ fromNs ∈ tl.fromNs, fromNs ≤ tl.allTs.getLastD 0) {rows : List FrameStamp}
    (h : rows ∈ tl.played) : tl.EndsIn rows = true := by
  have hfirst := tl.endsIn_firstIdx hfrom
  have hsorted := tl.increases_played hinc
  have hne := tl.rows_ne rows (tl.played_subset h)
  rw [played, List.flatten_cons] at hsorted
  rcases List.mem_cons.mp h with rfl | h
  · exact hfirst
  · obtain ⟨last, hlast, hle⟩ := (Option.any_eq_true _ _).mp hfirst
    have hlt := (List.pairwise_append.mp hsorted).2.2 last (List.mem_of_getLast? hlast)
      (rows.getLast hne) (List.mem_flatten.mpr ⟨rows, h, List.getLast_mem hne⟩)
    rw [EndsIn, List.getLast?_eq_some_getLast hne, Option.any_some]
    cases hf : tl.fromNs with
    | none => rfl
    | some fromNs =>
        have hle : fromNs ≤ last.timestampNs := by simpa [hf] using hle
        simpa using hle.trans hlt.le

/-- Behind the range no session reaches it again. -/
theorem not_reaches_of_after (hinc : tl.Increasing) {rows : List FrameStamp}
    (h : rows ∈ (tl.sessionStamps.drop (tl.firstIdx + 1)).dropWhile tl.Reaches) :
    tl.Reaches rows = false := by
  have hne := tl.rows_ne rows (List.mem_of_mem_drop ((List.dropWhile_sublist _).mem h))
  obtain ⟨first, rows, rfl⟩ := List.exists_cons_of_ne_nil hne
  have hbeyond := tl.beyond_of_after hinc (List.mem_flatten.mpr ⟨_, h, List.mem_cons_self⟩)
  obtain ⟨toNs, hto, hle⟩ := (Option.any_eq_true _ _).mp hbeyond
  have hle := of_decide_eq_true hle
  simp [Reaches, hto, hle]

/-- The gaps of the recording that a cycle crosses are those of its sessions. -/
theorem filter_boundaries (hinc : tl.Increasing)
    (hfrom : ∀ fromNs ∈ tl.fromNs, fromNs ≤ tl.allTs.getLastD 0) :
    (boundaries tl.sessionStamps).filter tl.PlaysGap = boundaries tl.played := by
  have hsplit : tl.sessionStamps = tl.sessionStamps.take tl.firstIdx ++
      tl.csvStamps tl.firstIdx ::
        ((tl.sessionStamps.drop (tl.firstIdx + 1)).takeWhile tl.Reaches ++
          (tl.sessionStamps.drop (tl.firstIdx + 1)).dropWhile tl.Reaches) := by
    rw [List.takeWhile_append_dropWhile, ← drop_firstIdx, List.take_append_drop]
  have hplayed : tl.played = tl.csvStamps tl.firstIdx ::
      (tl.sessionStamps.drop (tl.firstIdx + 1)).takeWhile tl.Reaches := rfl
  have hbefore : (boundaries (tl.sessionStamps.take tl.firstIdx ++
      [tl.csvStamps tl.firstIdx])).filter tl.PlaysGap = [] := by
    refine List.filter_eq_nil_iff.mpr fun ab hab => ?_
    have ha := (mem_boundaries hab).1
    rw [List.dropLast_concat] at ha
    simp [PlaysGap, tl.not_endsIn_of_before ha]
  have hmiddle : (boundaries tl.played).filter tl.PlaysGap = boundaries tl.played := by
    refine List.filter_eq_self.mpr fun ab hab => ?_
    obtain ⟨ha, hb⟩ := mem_boundaries hab
    rw [hplayed, List.tail_cons] at hb
    rw [PlaysGap, tl.endsIn_of_played hinc hfrom (List.dropLast_subset _ ha),
      List.mem_takeWhile_imp hb]
    rfl
  have hlast := tl.played.dropLast_concat_getLast (by simp [hplayed])
  have hafter : (boundaries (tl.played.getLast (by simp [hplayed]) ::
      (tl.sessionStamps.drop (tl.firstIdx + 1)).dropWhile tl.Reaches)).filter tl.PlaysGap = [] := by
    refine List.filter_eq_nil_iff.mpr fun ab hab => ?_
    have hb := (mem_boundaries hab).2
    simp [PlaysGap, tl.not_reaches_of_after hinc hb]
  rw [hsplit, boundaries_append, List.filter_append, hbefore, List.nil_append, ← List.cons_append,
    ← hplayed]
  nth_rewrite 1 [← hlast]
  rw [List.append_assoc, List.singleton_append, boundaries_append, List.filter_append, hafter,
    List.append_nil, hlast, hmiddle]

/-- The length of the timeline is the window less the excess of the gaps in it. -/
theorem effectiveNs_eq (hinc : tl.Increasing)
    (hfrom : ∀ fromNs ∈ tl.fromNs, fromNs ≤ tl.allTs.getLastD 0) :
    tl.effectiveNs = tl.endNs - tl.epochNs - excessSum tl.capNs tl.played := by
  rw [effectiveNs, tl.filter_boundaries hinc hfrom]
  rfl

/-- `duration_s`; `open` raises where this does. -/
def durationS : Except NumberError PyFloat := secondsOf tl.durationNs

/-- The last frame of the window is the latest. -/
theorem le_last_of_window (hinc : tl.Increasing) {last row : FrameStamp}
    (hlast : tl.window.getLast? = some last) (hrow : row ∈ tl.window) :
    row.timestampNs ≤ last.timestampNs :=
  Increases.le_last (hinc.sublist List.filter_sublist) hlast hrow

end ReplayTimeline

/-! ## Positions -/

/-- A frame that a cycle has put in its place, in the session `rows`: at the time since the zero,
less what the cap removes from the gaps in front of that session. -/
structure Placed (tl : ReplayTimeline) (d : Delivered) (before : List (List FrameStamp))
    (rows : List FrameStamp) (after : List (List FrameStamp)) : Prop where
  split : tl.played = before ++ rows :: after
  mem : d.row ∈ rows
  window : tl.InWindow d.row = true
  position : d.positionNs =
    max 0 (d.row.timestampNs - tl.epochNs - excessSum tl.capNs (before ++ [rows]))

/-- So have been all frames that were delivered. -/
def AllPlaced (tl : ReplayTimeline) (s : ReplayPass) : Prop :=
  ∀ d ∈ s.delivered, ∃ before rows after, Placed tl d before rows after

/-- A restart delivers nothing. -/
theorem ReplayPass.delivered_restart (tl : ReplayTimeline) (s : ReplayPass) :
    (s.restart tl).delivered = s.delivered := by
  simp only [ReplayPass.restart]
  split <;> rfl

/-- Nor does the end of a session. -/
theorem ReplayPass.delivered_onEos (tl : ReplayTimeline) (s : ReplayPass) :
    (s.onEos tl).delivered = s.delivered := by
  simp only [ReplayPass.onEos]
  split_ifs
  · rfl
  · rfl
  · split
    · rfl
    · exact s.delivered_restart tl
  · split <;> rfl

/-- **Step lemma**: a step puts a frame of the window in its place, or delivers none. -/
theorem allPlaced_step {tl : ReplayTimeline} {s s' : ReplayPass} {l : PassStep}
    (h : ∃ before rows after, InCycle tl s before rows after) (hall : AllPlaced tl s)
    (hs : ReplayPass.step tl s l = some s') : AllPlaced tl s' := by
  obtain ⟨before, rows, after, h⟩ := h
  cases l with
  | frame =>
      simp only [ReplayPass.step, h.csvStamps, Option.ite_none_right_eq_some] at hs
      obtain ⟨hlt, hs⟩ := hs
      obtain rfl := Option.some.inj hs
      rw [h.newStamp_eq (List.getElem?_eq_getElem hlt)]
      split_ifs with hfrom hto
      · exact hall
      · exact hall
      · have hwindow : tl.InWindow rows[s.idx] = true := by
          rw [ReplayTimeline.InWindow, Bool.and_eq_true]
          constructor
          · cases hf : tl.fromNs with
            | none => rfl
            | some fromNs => simpa [hf] using hfrom
          · cases ht : tl.toNs with
            | none => rfl
            | some toNs => simpa [ht] using hto
        intro d hd
        rcases List.mem_append.mp hd with hd | hd
        · exact hall d hd
        · obtain rfl := List.mem_singleton.mp hd
          exact ⟨before, rows, after, h.split, List.getElem_mem hlt, hwindow, by rw [h.skipped]⟩
  | eos =>
      simp only [ReplayPass.step, h.csvStamps, Option.ite_none_right_eq_some] at hs
      obtain ⟨-, hs⟩ := hs
      obtain rfl := Option.some.inj hs
      rw [AllPlaced, s.delivered_onEos tl]
      exact hall
  | restart =>
      obtain rfl := Option.some.inj hs
      rw [AllPlaced, s.delivered_restart tl]
      exact hall

/-- **Run lemma**: whatever a pass has delivered is in its place. -/
theorem allPlaced_exec {tl : ReplayTimeline} {ls : List PassStep} {s : ReplayPass}
    (hs : Machine.exec (ReplayPass.step tl) (.init tl) ls = some s) : AllPlaced tl s := by
  have hstep : ∀ s l s',
      (∃ before rows after, InCycle tl s before rows after) ∧ AllPlaced tl s →
      ReplayPass.step tl s l = some s' →
      (∃ before rows after, InCycle tl s' before rows after) ∧ AllPlaced tl s' :=
    fun s l s' h hs => ⟨inCycle_step h.1 hs, allPlaced_step h.1 h.2 hs⟩
  have hinit : AllPlaced tl (.init tl) := fun d hd => absurd hd List.not_mem_nil
  exact (Machine.exec_inv hstep ⟨⟨_, _, _, .init tl⟩, hinit⟩ hs).2

/-- A cycle that is left alone delivers every frame of the window. -/
theorem exists_delivered {tl : ReplayTimeline} (hinc : tl.Increasing) :
    ∃ ls s, Machine.exec (ReplayPass.step tl) (.init tl) ls = some s ∧
      ∀ row ∈ tl.window, ∃ d ∈ s.delivered, d.row = row := by
  obtain ⟨ls, s, hls, hs, hend⟩ := (InCycle.init tl).exec_ends
  refine ⟨ls, s, hs, fun row hrow => ?_⟩
  rw [← (deliversWindow hinc).delivered ls s hls hs 0 hend] at hrow
  obtain ⟨d, hd, rfl⟩ := List.mem_map.mp hrow
  exact ⟨d, (List.mem_filter.mp hd).1, rfl⟩

namespace Placed

variable {tl : ReplayTimeline} {d : Delivered} {before : List (List FrameStamp)}
  {rows : List FrameStamp} {after : List (List FrameStamp)} (h : Placed tl d before rows after)
  (hinc : tl.Increasing)
include h hinc

/-- The sessions behind the frame's start inside the window. -/
theorem head_mem_window {rows' : List FrameStamp} (hrows' : rows' ∈ after) {first : FrameStamp}
    (hfirst : first ∈ rows'.head?) : first ∈ tl.window := by
  have hmem : rows' ∈ tl.played := by simp [h.split, hrows']
  have hfirst' : first ∈ rows' := List.mem_of_mem_head? hfirst
  have htail : rows' ∈ (tl.sessionStamps.drop (tl.firstIdx + 1)).takeWhile tl.Reaches := by
    have hplayed : tl.played.tail = (before ++ rows :: after).tail := by rw [h.split]
    change rows' ∈ tl.played.tail
    rw [hplayed]
    cases before with
    | nil => exact hrows'
    | cons _ _ => simp [hrows']
  have hlater : d.row.timestampNs < first.timestampNs := by
    have hsorted := tl.increases_played hinc
    rw [h.split, List.flatten_append, List.flatten_cons] at hsorted
    exact (List.pairwise_append.mp (List.pairwise_append.mp hsorted).2.1).2.2 _ h.mem _
      (List.mem_flatten.mpr ⟨rows', hrows', hfirst'⟩)
  have hreach : tl.Reaches rows' = true := List.mem_takeWhile_imp htail
  rw [ReplayTimeline.Reaches, Option.mem_def.mp hfirst, Option.any_some] at hreach
  have hfrom : tl.fromNs.all (· ≤ first.timestampNs) = true := by
    have hrow := (Bool.and_eq_true_iff.mp h.window).1
    cases hf : tl.fromNs with
    | none => rfl
    | some fromNs =>
        have hle : fromNs ≤ d.row.timestampNs := by simpa [hf] using hrow
        simpa using hle.trans hlater.le
  rw [tl.window_eq hinc]
  exact List.mem_filter.mpr ⟨List.mem_flatten.mpr ⟨rows', hmem, hfirst'⟩,
    Bool.and_eq_true_iff.mpr ⟨hfrom, hreach⟩⟩

/-- A row that is delivered lies in the window. -/
theorem mem_window : d.row ∈ tl.window := by
  rw [tl.window_eq hinc]
  refine List.mem_filter.mpr ⟨List.mem_flatten.mpr ⟨rows, ?_, h.mem⟩, h.window⟩
  rw [h.split]
  simp

variable (hfrom : ∀ fromNs ∈ tl.fromNs, fromNs ≤ tl.allTs.getLastD 0) {last : FrameStamp}
  (hlast : tl.window.getLast? = some last)
include hfrom hlast

/-- A frame's position is as far from the playing time as the last frame's at least. -/
theorem position_le : d.row.timestampNs - tl.epochNs - excessSum tl.capNs (before ++ [rows]) ≤
    tl.effectiveNs - (tl.endNs - last.timestampNs) := by
  have hsorted := tl.increases_played hinc
  have hne : ∀ rows' ∈ rows :: after, rows' ≠ [] := fun rows' h' =>
    tl.rows_ne _ (tl.played_subset (by rw [h.split]; exact List.mem_append_right _ h'))
  rw [h.split, List.flatten_append] at hsorted
  have hsum := add_excessSum_le tl.capNs h.mem (List.pairwise_append.mp hsorted).2.1
    (fun rows' h' => hne _ (List.mem_cons_of_mem _ h'))
    (tl.le_last_of_window hinc hlast (h.mem_window hinc))
    (fun rows' h' first hfirst =>
      tl.le_last_of_window hinc hlast (h.head_mem_window hinc h' hfirst))
  have hparts := excessSum_append tl.capNs before after rows
  rw [tl.effectiveNs_eq hinc hfrom, h.split]
  omega

/-- Behind the last frame a cycle crosses no gap. -/
theorem position_last (hrow : d.row = last) :
    d.row.timestampNs - tl.epochNs - excessSum tl.capNs (before ++ [rows]) =
      tl.effectiveNs - (tl.endNs - last.timestampNs) := by
  cases after with
  | nil =>
      rw [tl.effectiveNs_eq hinc hfrom, h.split, hrow]
      omega
  | cons next rest =>
      -- its first frame would be a later one of the window
      have hne := tl.rows_ne next (tl.played_subset (by simp [h.split]))
      obtain ⟨first, next, rfl⟩ := List.exists_cons_of_ne_nil hne
      have hin : first ∈ tl.window := h.head_mem_window hinc List.mem_cons_self rfl
      have hle := tl.le_last_of_window hinc hlast hin
      have hsorted := tl.increases_played hinc
      rw [h.split, List.flatten_append, List.flatten_cons] at hsorted
      have hlt := (List.pairwise_append.mp (List.pairwise_append.mp hsorted).2.1).2.2 _ h.mem first
        (by simp)
      rw [hrow] at hlt
      omega

end Placed

/-! ## The rounded duration -/

/-- No frame was delivered at a position outside the duration of `ns`. -/
def Inside (ns : Int) (s : ReplayPass) : Prop :=
  ∀ d ∈ s.delivered, 0 ≤ d.positionNs ∧ d.positionNs ≤ ns

/-- The duration is positive, it is the playing time of a cycle with the digits that `open` keeps,
and no frame of any cycle is delivered at a position outside it. -/
structure InsideDuration (tl : ReplayTimeline) (duration : PyFloat) : Prop where
  pos : duration.isPositive = true
  effective : secondsOf tl.effectiveNs = .ok duration
  inside : ∃ ns, duration.toNs = .ok ns ∧
    ∀ ls s, Machine.exec (ReplayPass.step tl) (.init tl) ls = some s → Inside ns s

/-- The playing time of a cycle comes to `seconds`, and these to `ns`; for every frame of the
window there is room in them. -/
structure KeepsTime (tl : ReplayTimeline) (seconds : PyFloat) (ns : Int) : Prop where
  seconds_eq : secondsOf tl.effectiveNs = .ok seconds
  ns_eq : seconds.toNs = .ok ns
  /-- the playing time does not round to nothing -/
  pos : seconds.isPositive = true
  /-- what the cap removes from the gaps that no cycle crosses is lost in the rounding -/
  leftOut : secondsOf (tl.effectiveNs - tl.leftOutNs) = .ok seconds
  /-- and rounding takes no more off than the time from any frame of the window to the end -/
  room : ∀ row ∈ tl.window, tl.effectiveNs - ns ≤ tl.endNs - row.timestampNs

/-- **Duration**: positions stay inside the duration, and the duration is the playing time of a
cycle, if and only if rounding to three digits keeps the time of the cycle. -/
theorem insideDuration_iff {r : ReplayRequest} {tl : ReplayTimeline} {duration : PyFloat}
    (hopen : openReplay r = .ok tl) (hduration : tl.durationS = .ok duration)
    (hinc : Increases r.sessionStamps.flatten) :
    InsideDuration tl duration ↔ ∃ seconds ns, KeepsTime tl seconds ns := by
  have hopened := opened_of_openReplay hopen
  have hinc := increasing_of_opened hopened hinc
  rw [ReplayTimeline.durationS, tl.durationNs_eq] at hduration
  constructor
  · rintro ⟨hpos, heff, ns, hns, hinside⟩
    refine ⟨duration, ns, heff, hns, hpos, hduration, fun row hrow => ?_⟩
    -- the last frame of the window is delivered in some run
    have hlast := List.getLast?_eq_some_getLast (List.ne_nil_of_mem hrow)
    generalize tl.window.getLast _ = last at hlast
    obtain ⟨ls, s, hs, hdelivered⟩ := exists_delivered hinc
    obtain ⟨d, hd, hlast'⟩ := hdelivered last (List.mem_of_getLast? hlast)
    obtain ⟨before, rows, after, h⟩ := allPlaced_exec hs d hd
    have heq := h.position_last hinc hopened.from_le hlast hlast'
    have hle := (hinside ls s hs d hd).2
    rw [h.position] at hle
    have hlatest := tl.le_last_of_window hinc hlast hrow
    have := le_max_right 0 (d.row.timestampNs - tl.epochNs - excessSum tl.capNs (before ++ [rows]))
    omega
  · rintro ⟨seconds, ns, heff, hns, hpos, hleft, hroom⟩
    obtain rfl := Except.ok.inj (hduration.symm.trans hleft)
    refine ⟨hpos, heff, ns, hns, fun ls s hs d hd => ?_⟩
    obtain ⟨before, rows, after, h⟩ := allPlaced_exec hs d hd
    have hlast := List.getLast?_eq_some_getLast (List.ne_nil_of_mem (h.mem_window hinc))
    generalize tl.window.getLast _ = last at hlast
    have hle := h.position_le hinc hopened.from_le hlast
    have hroom := hroom last (List.mem_of_getLast? hlast)
    rw [h.position]
    exact ⟨le_max_left _ _, max_le (toNs_nonneg hpos hns) (by omega)⟩

/-! ## Windows that a duration does not fit -/

/-- A frame at 0 and at 125 ms, and one at 1125 ms in another session; a gap plays for 125 ms at
most. -/
def cappedRequest (toOffsetNs : Option Int) : ReplayRequest :=
  { sessionStamps := [[plainStamp 0, plainStamp 125000000], [plainStamp 1125000000]],
    epochUnixNs := none, fromOffsetNs := none, toOffsetNs, gapMaxNs := 125000000, wallNs := none,
    loop := false }

def cappedTimeline (toNs : Option Int) : ReplayTimeline :=
  { sessionStamps := [[plainStamp 0, plainStamp 125000000], [plainStamp 1125000000]],
    fromNs := none, toNs, retimeOffset := 0, sessions_ne := by decide, rows_ne := by decide,
    epochNs := 0, capNs := 125000000, loop := false }

/-- Three frames of 30 a second. -/
def steadyRequest (toOffsetNs : Option Int) : ReplayRequest :=
  { sessionStamps := [[plainStamp 0, plainStamp 33333333, plainStamp 66666666]],
    epochUnixNs := none, fromOffsetNs := none, toOffsetNs, gapMaxNs := 0, wallNs := none,
    loop := false }

def steadyTimeline (toNs : Option Int) : ReplayTimeline :=
  { sessionStamps := [[plainStamp 0, plainStamp 33333333, plainStamp 66666666]],
    fromNs := none, toNs, retimeOffset := 0, sessions_ne := by decide, rows_ne := by decide,
    epochNs := 0, capNs := 0, loop := false }

/-- The whole run takes 375 ms. -/
theorem insideDuration_cappedTimeline : InsideDuration (cappedTimeline none) (.finite (3 / 8)) := by
  have hns : secondsOf 375000000 = .ok (.finite (3 / 8)) := by
    rw [secondsOf_eq (inRange_of_abs_le (by decide +kernel))]
    exact congrArg (Except.ok ∘ PyFloat.finite) (by decide +kernel)
  refine (@insideDuration_iff (cappedRequest none) _ _ rfl hns (by decide)).mpr
    ⟨.finite (3 / 8), 375000000, hns, ?_, by decide +kernel, hns, by decide⟩
  rw [toNs_eq (inRange_of_abs_le (by decide +kernel))]
  exact congrArg Except.ok (by decide +kernel)

/-- The claimed law fails where the window ends in front of a gap that the duration is shortened
by, where it is so short that it rounds to nothing, and where a frame lies in what the rounding
takes off. -/
theorem not_insideDuration :
    (∃ duration, openReplay (cappedRequest (some 125000000)) =
          .ok (cappedTimeline (some 125000000)) ∧
        (cappedTimeline (some 125000000)).durationS = .ok duration ∧
        ¬ InsideDuration (cappedTimeline (some 125000000)) duration) ∧
      (∃ duration, openReplay (steadyRequest (some 400000)) = .ok (steadyTimeline (some 400000)) ∧
        (steadyTimeline (some 400000)).durationS = .ok duration ∧
        ¬ InsideDuration (steadyTimeline (some 400000)) duration) ∧
      (∃ duration, openReplay (steadyRequest (some 33400000)) =
          .ok (steadyTimeline (some 33400000)) ∧
        (steadyTimeline (some 33400000)).durationS = .ok duration ∧
        ¬ InsideDuration (steadyTimeline (some 33400000)) duration) ∧
      ¬ ∀ (r : ReplayRequest) (tl : ReplayTimeline) (duration : PyFloat),
        Increases r.sessionStamps.flatten → openReplay r = .ok tl →
        tl.durationS = .ok duration → InsideDuration tl duration := by
  have hbefore : (cappedTimeline (some 125000000)).durationS = .ok (.finite (-3 / 4)) := by
    change secondsOf (-750000000) = _
    rw [secondsOf_eq (inRange_of_abs_le (by decide +kernel))]
    exact congrArg (Except.ok ∘ PyFloat.finite) (by decide +kernel)
  have hshort : (steadyTimeline (some 400000)).durationS = .ok (.finite 0) := by
    change secondsOf 400000 = _
    rw [secondsOf_eq (inRange_of_abs_le (by decide +kernel))]
    exact congrArg (Except.ok ∘ PyFloat.finite) (by decide +kernel)
  have hcut : (steadyTimeline (some 33400000)).durationS =
      .ok (.finite (Binary64.nearest (33 / 1000))) := by
    change secondsOf 33400000 = _
    rw [secondsOf_eq (inRange_of_abs_le (by decide +kernel))]
    exact congrArg (Except.ok ∘ PyFloat.finite) (by decide +kernel)
  have hnegative : ¬ InsideDuration (cappedTimeline (some 125000000)) (.finite (-3 / 4)) :=
    fun h => absurd h.pos (by decide +kernel)
  refine ⟨⟨_, rfl, hbefore, hnegative⟩,
    ⟨_, rfl, hshort, fun h => absurd h.pos (by decide +kernel)⟩, ⟨_, rfl, hcut, fun h => ?_⟩,
    fun h => hnegative (h (cappedRequest (some 125000000)) _ _ (by decide) rfl hbefore)⟩
  obtain ⟨ns, hns, hinside⟩ := h.inside
  rw [toNs_eq (inRange_of_abs_le (by decide +kernel))] at hns
  have hns : 33000000 = ns := (by decide +kernel : _ = _).symm.trans (Except.ok.inj hns)
  obtain ⟨s, hs⟩ : ∃ s, Machine.exec (ReplayPass.step (steadyTimeline (some 33400000)))
      (.init (steadyTimeline (some 33400000))) [.frame, .frame] = some s := ⟨_, rfl⟩
  have hlast : s.delivered.getLast?.map Delivered.positionNs = some 33333333 := by
    obtain rfl := Option.some.inj hs
    rfl
  obtain ⟨d, hd, hposition⟩ := Option.map_eq_some_iff.mp hlast
  have hle := (hinside _ s hs d (List.mem_of_getLast? hd)).2
  omega

end CamDriver
