import Mathlib.Data.List.Flatten
import CamDriver.ReplayOrder
import CamDriver.ReplayTimeline

/-!
# CamDriver.ReplayCut

How a recording was cut into sessions, and what its replay delivers.

Every cycle delivers the frames of the window, however they are cut
(`CutInv`).  What a cycle does at its end depends on the cut: a frame behind the
window finishes the playback, whether it loops or not, and whether one is read
depends on where the last session of the cycle ends (`EndsInside`).
-/

namespace CamDriver

namespace ReplayTimeline

variable (tl : ReplayTimeline)

/-- `from <= ts < to`. -/
def InWindow (row : FrameStamp) : Bool :=
  tl.fromNs.all (· ≤ row.timestampNs) && tl.toNs.all (row.timestampNs < ·)

/-- A session does not end in front of the window. -/
def EndsIn (rows : List FrameStamp) : Bool :=
  rows.getLast?.any fun last => tl.fromNs.all (· ≤ last.timestampNs)

/-- A frame behind the window. -/
def Beyond (row : FrameStamp) : Bool := tl.toNs.any (· ≤ row.timestampNs)

/-- The frames of the window. -/
def window : List FrameStamp := tl.sessionStamps.flatten.filter tl.InWindow

/-- A frame that ends the playback: it is not skipped as one before the window. -/
def Ends (row : FrameStamp) : Bool := tl.fromNs.all (· ≤ row.timestampNs) && tl.Beyond row

/-- A session that a cycle plays has a frame that ends the playback. -/
def EndsInside : Prop := ∃ rows ∈ tl.played, ∃ row ∈ rows, tl.Ends row = true

instance : Decidable tl.EndsInside := inferInstanceAs (Decidable (∃ rows ∈ _, _))

theorem not_inWindow_of_beyond {row : FrameStamp} (h : tl.Beyond row = true) :
    tl.InWindow row = false := by
  obtain ⟨toNs, hto, hle⟩ := (Option.any_eq_true _ _).mp h
  have hle := of_decide_eq_true hle
  simp [InWindow, hto, hle]

/-- A session that ends in front of the window does not start a cycle. -/
theorem not_endsIn_of_before {rows : List FrameStamp}
    (h : rows ∈ tl.sessionStamps.take tl.firstIdx) : tl.EndsIn rows = false := by
  obtain ⟨i, hi, rfl⟩ := List.mem_take_iff_getElem.mp h
  have hi : i < tl.firstIdx := (Nat.lt_min.mp hi).1
  cases hfrom : tl.fromNs with
  | none => simp [ReplayConfig.firstIdx, hfrom] at hi
  | some fromNs =>
      simp only [ReplayConfig.firstIdx, hfrom] at hi
      cases hfind : tl.sessionStamps.findIdx? fun rows =>
          rows.getLast?.any fun last => fromNs ≤ last.timestampNs with
      | none => simp [hfind] at hi
      | some first =>
          rw [hfind, Option.getD_some] at hi
          have hshort := (List.findIdx?_eq_some_iff_getElem.mp hfind).2.2 i hi
          simpa [EndsIn, hfrom] using hshort

/-- The rows of the sessions before the first one of a cycle lie before the window. -/
theorem not_inWindow_of_before (hinc : tl.Increasing) {row : FrameStamp}
    (h : row ∈ (tl.sessionStamps.take tl.firstIdx).flatten) : tl.InWindow row = false := by
  obtain ⟨rows, hrows, hrow⟩ := List.mem_flatten.mp h
  have hsorted : Increases rows := (List.pairwise_flatten.mp hinc).1 _ (List.mem_of_mem_take hrows)
  have hlast := List.getLast?_eq_some_getLast (List.ne_nil_of_mem hrow)
  have hshort := tl.not_endsIn_of_before hrows
  have hle := hsorted.le_last hlast hrow
  rw [EndsIn, hlast, Option.any_some] at hshort
  cases hfrom : tl.fromNs with
  | none => simp [hfrom] at hshort
  | some fromNs =>
      simp only [hfrom, Option.all_some, decide_eq_false_iff_not] at hshort
      have hlt : ¬ fromNs ≤ row.timestampNs := fun hle' => hshort (hle'.trans hle)
      simp [InWindow, hfrom, hlt]

/-- The rows behind the sessions of a cycle lie behind the window. -/
theorem beyond_of_after (hinc : tl.Increasing) {row : FrameStamp}
    (h : row ∈ ((tl.sessionStamps.drop (tl.firstIdx + 1)).dropWhile tl.Reaches).flatten) :
    tl.Beyond row = true := by
  have hsorted : Increases
      ((tl.sessionStamps.drop (tl.firstIdx + 1)).dropWhile tl.Reaches).flatten := by
    refine List.Pairwise.sublist (List.Sublist.flatten ?_) hinc
    exact (List.dropWhile_sublist _).trans (List.drop_sublist _ _)
  have hne : ∀ rows ∈ (tl.sessionStamps.drop (tl.firstIdx + 1)).dropWhile tl.Reaches,
      rows ≠ [] := fun rows hrows =>
    tl.rows_ne rows (List.mem_of_mem_drop ((List.dropWhile_sublist _).mem hrows))
  have hstop := List.head?_dropWhile_not tl.Reaches (tl.sessionStamps.drop (tl.firstIdx + 1))
  generalize (tl.sessionStamps.drop (tl.firstIdx + 1)).dropWhile tl.Reaches = rest at *
  cases rest with
  | nil => cases h
  | cons rows rest =>
      cases rows with
      | nil => exact absurd rfl (hne [] List.mem_cons_self)
      | cons first rows =>
          have hle := hsorted.head_le rfl h
          cases hto : tl.toNs with
          | none => simp [Reaches, hto] at hstop
          | some toNs =>
              have hfirst : toNs ≤ first.timestampNs := by simpa [Reaches, hto] using hstop
              simpa [Beyond, hto] using hfirst.trans hle

/-- A cycle plays all frames of the window. -/
theorem window_eq (hinc : tl.Increasing) :
    tl.window = tl.played.flatten.filter tl.InWindow := by
  have hsplit : tl.sessionStamps.flatten = (tl.sessionStamps.take tl.firstIdx).flatten ++
      (tl.played.flatten ++
        ((tl.sessionStamps.drop (tl.firstIdx + 1)).dropWhile tl.Reaches).flatten) := by
    rw [← List.flatten_append, ← List.flatten_append, played, List.cons_append,
      List.takeWhile_append_dropWhile, ← drop_firstIdx, List.take_append_drop]
  have hbefore : (tl.sessionStamps.take tl.firstIdx).flatten.filter tl.InWindow = [] :=
    List.filter_eq_nil_iff.mpr fun row hrow => by
      simp [tl.not_inWindow_of_before hinc hrow]
  have hafter : ((tl.sessionStamps.drop (tl.firstIdx + 1)).dropWhile tl.Reaches).flatten.filter
      tl.InWindow = [] :=
    List.filter_eq_nil_iff.mpr fun row hrow => by
      simp [tl.not_inWindow_of_beyond (tl.beyond_of_after hinc hrow)]
  rw [window, hsplit, List.filter_append, List.filter_append, hbefore, hafter, List.nil_append,
    List.append_nil]

end ReplayTimeline

/-! ## What a pass has delivered -/

/-- The frames delivered in a cycle. -/
def deliveredIn (ds : List Delivered) (cycle : Nat) : List FrameStamp :=
  (ds.filter (·.cycle = cycle)).map Delivered.row

theorem deliveredIn_concat (ds : List Delivered) (d : Delivered) (cycle : Nat) :
    deliveredIn (ds ++ [d]) cycle =
      deliveredIn ds cycle ++ if d.cycle = cycle then [d.row] else [] := by
  by_cases h : d.cycle = cycle <;> simp [deliveredIn, h]

/-- What a source does at the end of a cycle. -/
inductive CycleEnd where
  | finishes | nextCycle
deriving DecidableEq, Repr

/-- How a cycle has ended, if it has. -/
def ReplayPass.cycleEnd (s : ReplayPass) (cycle : Nat) : Option CycleEnd :=
  if cycle < s.cycle then some .nextCycle
  else if cycle = s.cycle ∧ s.finished = true then some .finishes
  else none

/-- The pass without restarts: every cycle delivers the window, and `s` is in
the sessions `before`, `rows` and `after` of the current one. -/
structure CutInv (tl : ReplayTimeline) (s : ReplayPass) (before : List (List FrameStamp))
    (rows : List FrameStamp) (after : List (List FrameStamp)) : Prop where
  cycle : InCycle tl s before rows after
  past : ∀ c < s.cycle, deliveredIn s.delivered c = tl.window
  current : deliveredIn s.delivered s.cycle =
    (before.flatten ++ rows.take s.idx).filter tl.InWindow
  future : ∀ c > s.cycle, deliveredIn s.delivered c = []
  ahead : s.finished = false →
    ∀ row ∈ before.flatten ++ rows.take s.idx, tl.Ends row = false
  done : s.finished = true →
    deliveredIn s.delivered s.cycle = tl.window ∧ (tl.loop = false ∨ tl.EndsInside)
  looped : 0 < s.cycle → tl.loop = true ∧ ¬ tl.EndsInside

theorem take_succ_of_getElem? {rows : List FrameStamp} {i : Nat} {row : FrameStamp}
    (h : rows[i]? = some row) : rows.take (i + 1) = rows.take i ++ [row] := by
  obtain ⟨hlt, rfl⟩ := List.getElem?_eq_some_iff.mp h
  exact List.take_succ_eq_append_getElem hlt

namespace CutInv

variable {tl : ReplayTimeline} {s : ReplayPass} {before : List (List FrameStamp)}
  {rows : List FrameStamp} {after : List (List FrameStamp)}

theorem init (tl : ReplayTimeline) :
    CutInv tl (.init tl) [] (tl.csvStamps tl.firstIdx)
      ((tl.sessionStamps.drop (tl.firstIdx + 1)).takeWhile tl.Reaches) where
  cycle := .init tl
  past c h := absurd h (Nat.not_lt_zero c)
  current := by simp [ReplayPass.init, deliveredIn]
  future _ _ := rfl
  ahead _ row h := by simp [ReplayPass.init] at h
  done h := by cases h
  looped h := absurd h (Nat.lt_irrefl 0)

theorem flatten_played (h : CutInv tl s before rows after) :
    tl.played.flatten =
      (before.flatten ++ rows.take s.idx) ++ (rows.drop s.idx ++ after.flatten) := by
  rw [h.cycle.split, List.flatten_append, List.flatten_cons, List.append_assoc,
    ← List.append_assoc (rows.take _), List.take_append_drop]

/-- A frame behind the window is read: nothing of the window is left. -/
theorem window_of_ends (hinc : tl.Increasing) (h : CutInv tl s before rows after)
    {row : FrameStamp} (hrow : rows[s.idx]? = some row) (hends : tl.Ends row = true) :
    deliveredIn s.delivered s.cycle = tl.window ∧ tl.EndsInside := by
  have hbeyond : tl.Beyond row = true := ((Bool.and_eq_true _ _).mp hends).2
  have hdrop : rows.drop s.idx = row :: rows.drop (s.idx + 1) := by
    obtain ⟨hlt, rfl⟩ := List.getElem?_eq_some_iff.mp hrow
    exact List.drop_eq_getElem_cons hlt
  have hsorted : Increases (rows.drop s.idx ++ after.flatten) := by
    have hall : Increases tl.played.flatten :=
      hinc.sublist (tl.played_prefix.sublist.trans (List.drop_sublist _ _)).flatten
    rw [h.flatten_played] at hall
    exact (List.pairwise_append.mp hall).2.1
  obtain ⟨toNs, hto, hle⟩ := (Option.any_eq_true _ _).mp hbeyond
  have hrest : (rows.drop s.idx ++ after.flatten).filter tl.InWindow = [] := by
    refine List.filter_eq_nil_iff.mpr fun row' hrow' => ?_
    have hle' := hsorted.head_le (by rw [hdrop]; rfl) hrow'
    have hbeyond' : tl.Beyond row' = true :=
      (Option.any_eq_true _ _).mpr
        ⟨toNs, hto, decide_eq_true ((of_decide_eq_true hle).trans hle')⟩
    simp [tl.not_inWindow_of_beyond hbeyond']
  refine ⟨?_, rows, ?_, row, List.mem_of_getElem? hrow, hends⟩
  · rw [h.current, tl.window_eq hinc, h.flatten_played, List.filter_append _ (rows.drop _ ++ _),
      hrest, List.append_nil]
  · rw [h.cycle.split]
    simp

/-- The row that is read next does not end the playback. -/
theorem ahead_concat (h : CutInv tl s before rows after) {row : FrameStamp}
    (hrow : rows[s.idx]? = some row) (hends : tl.Ends row = false) (hfin : s.finished = false) :
    ∀ row' ∈ before.flatten ++ rows.take (s.idx + 1), tl.Ends row' = false := by
  rw [take_succ_of_getElem? hrow, ← List.append_assoc]
  intro row' hrow'
  rcases List.mem_append.mp hrow' with hrow' | hrow'
  · exact h.ahead hfin row' hrow'
  · rw [List.mem_singleton.mp hrow', hends]

/-- **Frame step**: the window decides about a frame. -/
theorem frame (hinc : tl.Increasing) (h : CutInv tl s before rows after) {row : FrameStamp}
    (hrow : rows[s.idx]? = some row) : CutInv tl (s.newStamp tl) before rows after := by
  have hread := h.cycle.read hrow
  have hconcat : (before.flatten ++ rows.take (s.idx + 1)).filter tl.InWindow =
      deliveredIn s.delivered s.cycle ++ [row].filter tl.InWindow := by
    rw [h.current, ← List.filter_append, List.append_assoc, take_succ_of_getElem? hrow]
  rw [h.cycle.newStamp_eq hrow] at hread ⊢
  by_cases hfrom : tl.fromNs.any (row.timestampNs < ·) = true
  · -- in front of the window
    obtain ⟨fromNs, hf, hlt⟩ := (Option.any_eq_true _ _).mp hfrom
    have hlt := of_decide_eq_true hlt
    have hout : tl.InWindow row = false := by simp [ReplayTimeline.InWindow, hf, hlt]
    have hends : tl.Ends row = false := by simp [ReplayTimeline.Ends, hf, hlt]
    rw [if_pos hfrom] at hread ⊢
    refine ⟨hread, h.past, ?_, h.future, h.ahead_concat hrow hends, h.done, h.looped⟩
    rw [hconcat]
    simp [hout, deliveredIn]
  · have hsome : tl.fromNs.all (· ≤ row.timestampNs) = true := by
      cases hf : tl.fromNs with
      | none => rfl
      | some fromNs => simpa [hf] using hfrom
    rw [if_neg hfrom] at hread ⊢
    by_cases hto : tl.toNs.any (· ≤ row.timestampNs) = true
    · -- behind it
      have hends : tl.Ends row = true := (Bool.and_eq_true _ _).mpr ⟨hsome, hto⟩
      have hout : tl.InWindow row = false := tl.not_inWindow_of_beyond hto
      obtain ⟨hall, hinside⟩ := h.window_of_ends hinc hrow hends
      rw [if_pos hto] at hread ⊢
      refine ⟨hread, h.past, ?_, h.future, (fun hf => by cases hf),
        fun _ => ⟨hall, .inr hinside⟩, h.looped⟩
      rw [hconcat]
      simp [hout, deliveredIn]
    · have hends : tl.Ends row = false := by
        simp [ReplayTimeline.Ends, ReplayTimeline.Beyond, hto]
      have hin : tl.InWindow row = true := by
        rw [ReplayTimeline.InWindow, hsome, Bool.true_and]
        cases ht : tl.toNs with
        | none => rfl
        | some toNs => simpa [ht] using hto
      have hfin : s.finished = false := by
        cases hfin : s.finished with
        | false => rfl
        | true =>
            have hdone := (h.done hfin).1
            rw [h.current, tl.window_eq hinc, h.flatten_played,
              List.filter_append _ (rows.drop _ ++ _), List.self_eq_append_right] at hdone
            have hmem : row ∈ rows.drop s.idx ++ after.flatten :=
              List.mem_append_left _ (List.mem_of_getElem? (i := 0)
                (by rw [List.getElem?_drop]; exact hrow))
            exact absurd hin (List.filter_eq_nil_iff.mp hdone row hmem)
      rw [if_neg hto] at hread ⊢
      refine ⟨hread, fun c hc => ?_, ?_, fun c hc => ?_, h.ahead_concat hrow hends,
        (fun hf => by cases hfin.symm.trans hf), h.looped⟩
      · rw [deliveredIn_concat, if_neg (Nat.ne_of_gt hc), List.append_nil]
        exact h.past c hc
      · rw [deliveredIn_concat, if_pos rfl, hconcat, List.filter_cons_of_pos hin]
        rfl
      · rw [deliveredIn_concat, if_neg (Nat.ne_of_lt hc), List.append_nil]
        exact h.future c hc

/-- EOS of a session that is not the last one of the cycle. -/
theorem eos_next {next : List FrameStamp} {rest : List (List FrameStamp)}
    (h : CutInv tl s before rows (next :: rest)) (hend : s.idx = rows.length)
    (hfin : s.finished = false) : CutInv tl (s.onEos tl) (before ++ [rows]) next rest := by
  have hcycle := h.cycle.next hend hfin
  have hread : (before ++ [rows]).flatten ++ next.take 0 =
      before.flatten ++ rows.take s.idx := by
    rw [hend, List.take_length, List.take_zero, List.append_nil, List.flatten_append,
      List.flatten_singleton]
  rw [h.cycle.onEos_next hend hfin] at hcycle ⊢
  exact
    { cycle := hcycle
      past := h.past
      current := by
        change deliveredIn s.delivered s.cycle = _
        rw [hread, h.current]
      future := h.future
      ahead := fun _ => by
        rw [hread]
        exact h.ahead hfin
      done := fun hf => by cases hfin.symm.trans hf
      looped := h.looped }

/-- At the end of the last session of a cycle the window has been delivered, and
no frame has ended the playback. -/
theorem window_of_last (hinc : tl.Increasing) (h : CutInv tl s before rows [])
    (hend : s.idx = rows.length) (hfin : s.finished = false) :
    deliveredIn s.delivered s.cycle = tl.window ∧ ¬ tl.EndsInside := by
  have hplayed := h.flatten_played
  rw [hend, List.drop_length, List.flatten_nil, List.append_nil, List.append_nil, ← hend] at hplayed
  constructor
  · rw [h.current, tl.window_eq hinc, hplayed]
  · rintro ⟨rows', hrows', row, hrow, hends⟩
    have hmem : row ∈ tl.played.flatten := List.mem_flatten.mpr ⟨rows', hrows', hrow⟩
    rw [hplayed] at hmem
    rw [h.ahead hfin row hmem] at hends
    cases hends

/-- **EOS step**: the window or the last session of the run ends a cycle. -/
theorem eos (hinc : tl.Increasing) (h : CutInv tl s before rows after)
    (hend : s.idx = rows.length) :
    ∃ before rows after, CutInv tl (s.onEos tl) before rows after := by
  cases hfin : s.finished with
  | true =>
      have hsame : s.onEos tl = s := by rw [ReplayPass.onEos, if_pos hfin]
      exact ⟨_, _, _, hsame ▸ h⟩
  | false =>
      cases after with
      | cons next rest => exact ⟨_, _, _, h.eos_next hend hfin⟩
      | nil =>
          obtain ⟨hwindow, hinside⟩ := h.window_of_last hinc hend hfin
          rw [h.cycle.onEos_last hend hfin]
          cases hloop : tl.loop with
          | false =>
              exact ⟨_, _, _,
                { cycle := { h.cycle with }
                  past := h.past
                  current := h.current
                  future := h.future
                  ahead := (fun hf => by cases hf)
                  done := fun _ => ⟨hwindow, .inl hloop⟩
                  looped := h.looped }⟩
          | true =>
              have hcycle := h.cycle.restart
              rw [h.cycle.restart_eq] at hcycle
              rw [if_pos rfl, h.cycle.restart_eq]
              refine ⟨_, _, _, hcycle, fun c hc => ?_, ?_, fun c hc => ?_, fun _ row hrow => ?_,
                (fun hf => by cases hf), fun _ => ⟨hloop, hinside⟩⟩
              · rcases Nat.lt_succ_iff_lt_or_eq.mp hc with hc | rfl
                · exact h.past c hc
                · exact hwindow
              · simpa using h.future (s.cycle + 1) (Nat.lt_succ_self _)
              · exact h.future c (Nat.lt_of_succ_lt hc)
              · simp at hrow

end CutInv

/-- The reader's own steps. -/
def PassStep.Plain (l : PassStep) : Prop := l ≠ .restart

instance (l : PassStep) : Decidable l.Plain := inferInstanceAs (Decidable (_ ≠ _))

/-- **Step lemma** of a pass without restarts. -/
theorem cutInv_step {tl : ReplayTimeline} (hinc : tl.Increasing) {s s' : ReplayPass} {l : PassStep}
    (h : ∃ before rows after, CutInv tl s before rows after) (hl : l.Plain)
    (hs : ReplayPass.step tl s l = some s') :
    ∃ before rows after, CutInv tl s' before rows after := by
  obtain ⟨before, rows, after, h⟩ := h
  cases l with
  | frame =>
      simp only [ReplayPass.step, h.cycle.csvStamps, Option.ite_none_right_eq_some] at hs
      obtain ⟨hlt, hs⟩ := hs
      obtain rfl := Option.some.inj hs
      exact ⟨_, _, _, h.frame hinc (List.getElem?_eq_getElem hlt)⟩
  | eos =>
      simp only [ReplayPass.step, h.cycle.csvStamps, Option.ite_none_right_eq_some] at hs
      obtain ⟨hend, hs⟩ := hs
      obtain rfl := Option.some.inj hs
      exact h.eos hinc hend
  | restart => exact absurd rfl hl

/-- **Run lemma** of a pass without restarts. -/
theorem cutInv_exec {tl : ReplayTimeline} (hinc : tl.Increasing) {s s' : ReplayPass}
    {ls : List PassStep} (hls : ∀ l ∈ ls, l.Plain)
    (h : ∃ before rows after, CutInv tl s before rows after)
    (hs : Machine.exec (ReplayPass.step tl) s ls = some s') :
    ∃ before rows after, CutInv tl s' before rows after := by
  induction ls generalizing s with
  | nil =>
      obtain rfl := Option.some.inj hs
      exact h
  | cons l ls ih =>
      rw [Machine.exec_cons, Option.bind_eq_some_iff] at hs
      obtain ⟨s₁, h₁, h₂⟩ := hs
      exact ih (fun l hl => hls l (List.mem_cons_of_mem _ hl))
        (cutInv_step hinc h (hls l List.mem_cons_self) h₁) h₂

/-! ## The end of a cycle -/

theorem InCycle.cycle_newStamp {tl : ReplayTimeline} {s : ReplayPass}
    {before : List (List FrameStamp)} {rows : List FrameStamp} {after : List (List FrameStamp)}
    (h : InCycle tl s before rows after) {row : FrameStamp} (hrow : rows[s.idx]? = some row) :
    (s.newStamp tl).cycle = s.cycle ∧ (s.newStamp tl).idx = s.idx + 1 := by
  rw [h.newStamp_eq hrow]
  split_ifs <;> exact ⟨rfl, rfl⟩

/-- The reader delivers the rest of a session. -/
theorem InCycle.exec_frames {tl : ReplayTimeline} {before : List (List FrameStamp)}
    {rows : List FrameStamp} {after : List (List FrameStamp)} (n : Nat) {s : ReplayPass}
    (h : InCycle tl s before rows after) (hn : s.idx + n = rows.length) :
    ∃ s', Machine.exec (ReplayPass.step tl) s (List.replicate n .frame) = some s' ∧
      InCycle tl s' before rows after ∧ s'.idx = rows.length ∧ s'.cycle = s.cycle := by
  induction n generalizing s with
  | zero => exact ⟨s, rfl, h, hn, rfl⟩
  | succ n ih =>
      have hlt : s.idx < rows.length := by omega
      have hrow := List.getElem?_eq_getElem hlt
      obtain ⟨hcycle, hidx⟩ := h.cycle_newStamp hrow
      obtain ⟨s', hs', hread, hend, hcycle'⟩ := ih (h.read hrow) (by omega)
      refine ⟨s', ?_, hread, hend, hcycle'.trans hcycle⟩
      rw [List.replicate_succ, Machine.exec_cons, ReplayPass.step, h.csvStamps, if_pos hlt]
      exact hs'

/-- EOS behind the rest of a session. -/
theorem InCycle.exec_session {tl : ReplayTimeline} {before : List (List FrameStamp)}
    {rows : List FrameStamp} {after : List (List FrameStamp)} {s : ReplayPass}
    (h : InCycle tl s before rows after) :
    ∃ s₁, InCycle tl s₁ before rows after ∧ s₁.idx = rows.length ∧ s₁.cycle = s.cycle ∧
      Machine.exec (ReplayPass.step tl) s
        (List.replicate (rows.length - s.idx) .frame ++ [.eos]) = some (s₁.onEos tl) := by
  obtain ⟨s₁, hs₁, h₁, hend, hcycle⟩ := h.exec_frames _ (Nat.add_sub_of_le h.idx_le)
  refine ⟨s₁, h₁, hend, hcycle, ?_⟩
  rw [Machine.exec_append, hs₁, Option.bind_some, Machine.exec_cons, ReplayPass.step, h₁.csvStamps,
    if_pos hend]
  rfl

/-- **Every cycle ends**: the reader's own steps lead to its end. -/
theorem InCycle.exec_ends {tl : ReplayTimeline} {before : List (List FrameStamp)}
    {rows : List FrameStamp} {after : List (List FrameStamp)} {s : ReplayPass}
    (h : InCycle tl s before rows after) :
    ∃ ls s', (∀ l ∈ ls, PassStep.Plain l) ∧
      Machine.exec (ReplayPass.step tl) s ls = some s' ∧ s'.cycleEnd s.cycle ≠ none := by
  have hplain (n : Nat) : ∀ l ∈ List.replicate n PassStep.frame ++ [.eos], l.Plain := by
    intro l hl
    rcases List.mem_append.mp hl with hl | hl
    · rw [List.eq_of_mem_replicate hl]
      decide
    · rw [List.mem_singleton.mp hl]
      decide
  induction after generalizing s before rows with
  | nil =>
      obtain ⟨s₁, h₁, hend, hcycle, hs₁⟩ := h.exec_session
      refine ⟨_, _, hplain _, hs₁, ?_⟩
      cases hfin : s₁.finished with
      | true =>
          rw [ReplayPass.onEos, if_pos hfin]
          simp [ReplayPass.cycleEnd, hcycle, hfin]
      | false =>
          rw [h₁.onEos_last hend hfin, ← hcycle]
          cases tl.loop with
          | true =>
              rw [if_pos rfl, h₁.restart_eq]
              simp [ReplayPass.cycleEnd]
          | false => simp [ReplayPass.cycleEnd]
  | cons next rest ih =>
      obtain ⟨s₁, h₁, hend, hcycle, hs₁⟩ := h.exec_session
      cases hfin : s₁.finished with
      | true =>
          refine ⟨_, _, hplain _, hs₁, ?_⟩
          rw [ReplayPass.onEos, if_pos hfin]
          simp [ReplayPass.cycleEnd, hcycle, hfin]
      | false =>
          obtain ⟨ls, s', hls, hs', hends⟩ := ih (h₁.next hend hfin)
          refine ⟨_ ++ ls, s', ?_, by rw [Machine.exec_append, hs₁]; exact hs', ?_⟩
          · intro l hl
            rcases List.mem_append.mp hl with hl | hl
            · exact hplain _ l hl
            · exact hls l hl
          · rw [← hcycle]
            rwa [h₁.onEos_next hend hfin] at hends

/-! ## Two cuts -/

/-- The frames of each cycle are those of the window, and each cycle that has
begun can end. -/
structure DeliversWindow (tl : ReplayTimeline) : Prop where
  delivered : ∀ ls s, (∀ l ∈ ls, PassStep.Plain l) →
    Machine.exec (ReplayPass.step tl) (.init tl) ls = some s →
    ∀ c, s.cycleEnd c ≠ none → deliveredIn s.delivered c = tl.window
  ends : ∀ ls s, (∀ l ∈ ls, PassStep.Plain l) →
    Machine.exec (ReplayPass.step tl) (.init tl) ls = some s →
    ∃ ls' s', (∀ l ∈ ls', PassStep.Plain l) ∧
      Machine.exec (ReplayPass.step tl) s ls' = some s' ∧ s'.cycleEnd s.cycle ≠ none

/-- Two replays that end each cycle alike. -/
def SameEnds (tl₁ tl₂ : ReplayTimeline) : Prop :=
  ∀ ls₁ ls₂ s₁ s₂, (∀ l ∈ ls₁, PassStep.Plain l) → (∀ l ∈ ls₂, PassStep.Plain l) →
    Machine.exec (ReplayPass.step tl₁) (.init tl₁) ls₁ = some s₁ →
    Machine.exec (ReplayPass.step tl₂) (.init tl₂) ls₂ = some s₂ →
    ∀ c e₁ e₂, s₁.cycleEnd c = some e₁ → s₂.cycleEnd c = some e₂ → e₁ = e₂

/-- The same frames in each cycle, and the same action at its end. -/
structure SameReplay (tl₁ tl₂ : ReplayTimeline) : Prop where
  window_eq : tl₁.window = tl₂.window
  left : DeliversWindow tl₁
  right : DeliversWindow tl₂
  ends : SameEnds tl₁ tl₂

/-- How a cycle of a pass without restarts ends. -/
def ReplayTimeline.action (tl : ReplayTimeline) : CycleEnd :=
  if tl.loop = true ∧ ¬ tl.EndsInside then .nextCycle else .finishes

namespace CutInv

variable {tl : ReplayTimeline} {s : ReplayPass} {before : List (List FrameStamp)}
  {rows : List FrameStamp} {after : List (List FrameStamp)}

theorem cycleEnd_eq (h : CutInv tl s before rows after) {c : Nat} {e : CycleEnd}
    (he : s.cycleEnd c = some e) : e = tl.action := by
  rw [ReplayPass.cycleEnd] at he
  split_ifs at he with hpast hdone
  · obtain rfl := Option.some.inj he
    exact (if_pos (h.looped (Nat.zero_lt_of_lt hpast))).symm
  · obtain rfl := Option.some.inj he
    refine (if_neg fun hc => ?_).symm
    rcases (h.done hdone.2).2 with hloop | hinside
    · exact absurd hc.1 (by simp [hloop])
    · exact hc.2 hinside

theorem delivered_eq (h : CutInv tl s before rows after) {c : Nat} (hc : s.cycleEnd c ≠ none) :
    deliveredIn s.delivered c = tl.window := by
  rw [ReplayPass.cycleEnd] at hc
  split_ifs at hc with hpast hdone
  · exact h.past c hpast
  · rw [hdone.1]
    exact (h.done hdone.2).1
  · exact absurd rfl hc

end CutInv

theorem deliversWindow {tl : ReplayTimeline} (hinc : tl.Increasing) : DeliversWindow tl where
  delivered ls s hls hs c hc := by
    obtain ⟨_, _, _, h⟩ := cutInv_exec hinc hls ⟨_, _, _, .init tl⟩ hs
    exact h.delivered_eq hc
  ends ls s hls hs := by
    obtain ⟨_, _, _, h⟩ := cutInv_exec hinc hls ⟨_, _, _, .init tl⟩ hs
    exact h.cycle.exec_ends

/-- **Ends**: what two replays do at the end of a cycle is decided before they start. -/
theorem sameEnds_iff {tl₁ tl₂ : ReplayTimeline} (h₁ : tl₁.Increasing) (h₂ : tl₂.Increasing) :
    SameEnds tl₁ tl₂ ↔ tl₁.action = tl₂.action := by
  have hends : ∀ {tl : ReplayTimeline}, tl.Increasing → ∃ ls s, (∀ l ∈ ls, PassStep.Plain l) ∧
      Machine.exec (ReplayPass.step tl) (.init tl) ls = some s ∧ s.cycleEnd 0 = some tl.action := by
    intro tl hinc
    obtain ⟨ls, s, hls, hs, hend⟩ := (InCycle.init tl).exec_ends
    obtain ⟨e, he⟩ := Option.ne_none_iff_exists'.mp hend
    obtain ⟨_, _, _, h⟩ := cutInv_exec hinc hls ⟨_, _, _, .init tl⟩ hs
    exact ⟨ls, s, hls, hs, h.cycleEnd_eq he ▸ he⟩
  constructor
  · intro hsame
    obtain ⟨ls₁, s₁, hls₁, hs₁, he₁⟩ := hends h₁
    obtain ⟨ls₂, s₂, hls₂, hs₂, he₂⟩ := hends h₂
    exact hsame ls₁ ls₂ s₁ s₂ hls₁ hls₂ hs₁ hs₂ 0 _ _ he₁ he₂
  · intro haction ls₁ ls₂ s₁ s₂ hls₁ hls₂ hs₁ hs₂ c e₁ e₂ he₁ he₂
    obtain ⟨_, _, _, h₁⟩ := cutInv_exec h₁ hls₁ ⟨_, _, _, .init tl₁⟩ hs₁
    obtain ⟨_, _, _, h₂⟩ := cutInv_exec h₂ hls₂ ⟨_, _, _, .init tl₂⟩ hs₂
    rw [h₁.cycleEnd_eq he₁, h₂.cycleEnd_eq he₂, haction]

theorem increasing_of_opened {r : ReplayRequest} {tl : ReplayTimeline} (h : Opened r tl)
    (hinc : Increases r.sessionStamps.flatten) : tl.Increasing := by
  rw [ReplayConfig.Increasing, h.sessions_eq]
  exact hinc

/-- The window only depends on the frames. -/
theorem window_of_opened {r : ReplayRequest} {tl : ReplayTimeline} (h : Opened r tl) :
    tl.window = r.sessionStamps.flatten.filter fun row =>
      r.fromNs.all (· ≤ row.timestampNs) &&
        (r.toOffsetNs.map (r.epochNs + ·)).all (row.timestampNs < ·) := by
  rw [ReplayTimeline.window, h.sessions_eq]
  refine List.filter_congr fun row _ => ?_
  rw [ReplayTimeline.InWindow, h.from_eq, h.to_eq]

/-- **Cuts**: two ways to cut the frames of a recording into sessions replay alike
if and only if the playback does not loop, or frames behind the window end it
in both cuts or in none. -/
theorem sameReplay_iff {r : ReplayRequest} {frames : List FrameStamp} (hinc : Increases frames)
    {cut₁ cut₂ : List (List FrameStamp)} (hcut₁ : cut₁.flatten = frames)
    (hcut₂ : cut₂.flatten = frames) {tl₁ tl₂ : ReplayTimeline}
    (hopen₁ : openReplay { r with sessionStamps := cut₁ } = .ok tl₁)
    (hopen₂ : openReplay { r with sessionStamps := cut₂ } = .ok tl₂) :
    SameReplay tl₁ tl₂ ↔ (r.loop = true → (tl₁.EndsInside ↔ tl₂.EndsInside)) := by
  subst hcut₁
  have h₁ := opened_of_openReplay hopen₁
  have h₂ := opened_of_openReplay hopen₂
  have hinc₁ := increasing_of_opened h₁ hinc
  have hinc₂ := increasing_of_opened h₂ (show Increases cut₂.flatten from hcut₂ ▸ hinc)
  have hwindow : tl₁.window = tl₂.window := by
    rw [window_of_opened h₁, window_of_opened h₂]
    simp only [ReplayRequest.fromNs, ReplayRequest.epochNs, hcut₂]
  have haction : tl₁.action = tl₂.action ↔
      (r.loop = true → (tl₁.EndsInside ↔ tl₂.EndsInside)) := by
    simp only [ReplayTimeline.action, h₁.loop_eq, h₂.loop_eq]
    by_cases hloop : r.loop = true <;> by_cases he₁ : tl₁.EndsInside <;>
      by_cases he₂ : tl₂.EndsInside <;> simp [hloop, he₁, he₂]
  rw [← haction, ← sameEnds_iff hinc₁ hinc₂]
  exact ⟨SameReplay.ends, fun h => ⟨hwindow, deliversWindow hinc₁, deliversWindow hinc₂, h⟩⟩

/-! ## Two frames in one session or in two -/

/-- Two frames, 10 ns apart, looped. -/
def cutRequest (sessionStamps : List (List FrameStamp)) (toOffsetNs : Option Int) :
    ReplayRequest :=
  { sessionStamps, epochUnixNs := none, fromOffsetNs := none, toOffsetNs, gapMaxNs := 0,
    wallNs := none, loop := true }

def oneSession (toNs : Option Int) : ReplayTimeline :=
  { sessionStamps := [[plainStamp 0, plainStamp 10]], fromNs := none, toNs, retimeOffset := 0,
    sessions_ne := by decide, rows_ne := by decide, epochNs := 0, capNs := 0, loop := true }

def twoSessions (toNs : Option Int) : ReplayTimeline :=
  { sessionStamps := [[plainStamp 0], [plainStamp 10]], fromNs := none, toNs, retimeOffset := 0,
    sessions_ne := by decide, rows_ne := by decide, epochNs := 0, capNs := 0, loop := true }

theorem sameReplay_wholeRun : SameReplay (oneSession none) (twoSessions none) :=
  (@sameReplay_iff (cutRequest [] none) [plainStamp 0, plainStamp 10] (by decide)
    [[plainStamp 0, plainStamp 10]] [[plainStamp 0], [plainStamp 10]] rfl rfl _ _ rfl rfl).mpr
    (by decide)

/-- The claimed law, for every window.  A window that ends between the two frames
finishes the looping playback of one session, and not that of two. -/
theorem not_sameReplay :
    ¬ ∀ (r : ReplayRequest) (frames : List FrameStamp) (cut₁ cut₂ : List (List FrameStamp))
      (tl₁ tl₂ : ReplayTimeline), Increases frames → cut₁.flatten = frames →
      cut₂.flatten = frames → openReplay { r with sessionStamps := cut₁ } = .ok tl₁ →
      openReplay { r with sessionStamps := cut₂ } = .ok tl₂ → SameReplay tl₁ tl₂ := by
  intro h
  have hsame : SameReplay (oneSession (some 5)) (twoSessions (some 5)) :=
    h (cutRequest [] (some 5)) [plainStamp 0, plainStamp 10] [[plainStamp 0, plainStamp 10]]
      [[plainStamp 0], [plainStamp 10]] _ _ (by decide) rfl rfl rfl rfl
  have haction := (sameEnds_iff (by decide) (by decide)).mp hsame.ends
  exact absurd haction (by decide)

end CamDriver
