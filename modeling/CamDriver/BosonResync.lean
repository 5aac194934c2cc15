import CamDriver.BosonFraming

/-!
# CamDriver.BosonResync

When the splitter finds an intact frame behind noise.

The splitter pairs the first start marker with the first end marker.  A start marker of
the noise that no end marker follows swallows the frame: what comes out begins with it,
and has more bytes than the frame (`lt_length_of_swallowed`), so it never decodes to the
fields of the frame.
-/

namespace CamDriver

namespace Boson

/-- Every start marker has an end marker behind it. -/
def Closed (noise : List UInt8) : Prop :=
  ∀ before behind, noise = before ++ startByte :: behind → endByte ∈ behind

theorem closed_iff {noise : List UInt8} :
    Closed noise ↔ Framing.unfinished startByte endByte [] noise = [] :=
  (Framing.unfinished_eq_nil_iff (by decide)).symm

/-- A frame that stands in the noise decodes to what the command says. -/
def Repeats (noise : List UInt8) (c : Command) : Prop :=
  ∃ before inner behind, noise = before ++ startByte :: inner ++ endByte :: behind ∧
    Closed before ∧ endByte ∉ inner ∧
    ∃ fields, decodeFrame (startByte :: inner ++ [endByte]) = .ok fields ∧ c.Means fields

/-- Some frame that comes out says what the command does. -/
def Yields (frames : List (List UInt8)) (c : Command) : Prop :=
  ∃ frame ∈ frames, ∃ fields, decodeFrame frame = .ok fields ∧ c.Means fields

/-! ## A swallowed frame -/

theorem map_eq_ok {α β : Type} {f : α → β} {x : Except String α} {b : β}
    (h : x.map f = .ok b) : ∃ a, x = .ok a ∧ f a = b := by
  cases x with
  | error e => cases h
  | ok a => exact ⟨a, rfl, Except.ok.inj h⟩

/-- What a frame unescapes to is longer with a start marker in front of it. -/
theorem lt_length_of_swallowed {noise inner body : List UInt8}
    (h : unescape (noise ++ startByte :: escape inner) = .ok body) :
    inner.length < body.length := by
  induction noise using unescape.induct generalizing body with
  | case1 =>
      rw [List.nil_append, unescape_cons (by decide), unescape_escape] at h
      cases h
      exact Nat.lt_succ_self _
  | case2 =>
      -- the start marker is what the escape of the noise stands in front of
      have swallowed : unescape (escByte :: startByte :: escape inner) =
          (unescape (escape inner)).map ((startByte + 0x0d) :: ·) := rfl
      rw [List.singleton_append, swallowed, unescape_escape] at h
      cases h
      exact Nat.lt_succ_self _
  | case3 next noise ih =>
      have escaped : unescape (escByte :: next :: (noise ++ startByte :: escape inner)) =
          (unescape (noise ++ startByte :: escape inner)).map ((next + 0x0d) :: ·) := rfl
      rw [List.cons_append, List.cons_append, escaped] at h
      obtain ⟨rest, hrest, rfl⟩ := map_eq_ok h
      exact (ih hrest).trans (Nat.lt_succ_self _)
  | case4 b noise hb ih =>
      rw [List.cons_append, unescape_cons hb] at h
      obtain ⟨rest, hrest, rfl⟩ := map_eq_ok h
      exact (ih hrest).trans (Nat.lt_succ_self _)

theorem length_of_decodeBody {body : List UInt8} {fields : Fields}
    (h : decodeBody body = .ok fields) : body.length = 15 + fields.payload.length := by
  rw [decodeBody] at h
  split at h
  · cases h
  · split at h
    · cases h
    · next hlen _ =>
        cases h
        rw [List.length_drop, List.length_take]
        omega

/-- A swallowed frame says something else. -/
theorem not_means_swallowed {noise : List UInt8} {c : Command} {fields : Fields}
    (h : decodeFrame (startByte :: noise ++ c.frame) = .ok fields) : ¬ c.Means fields := by
  intro means
  have frame : startByte :: noise ++ c.frame = startByte :: (noise ++ startByte ::
      escape (Fields.body ⟨seqOf c.seq, c.functionId, c.status, c.payload⟩)) ++ [endByte] := by
    simp [Command.frame, encodeFrame]
  rw [frame, decodeFrame_markers] at h
  cases hbody : unescape (noise ++ startByte ::
      escape (Fields.body ⟨seqOf c.seq, c.functionId, c.status, c.payload⟩)) with
  | error e =>
      rw [hbody] at h
      cases h
  | ok body =>
      rw [hbody] at h
      have longer := lt_length_of_swallowed hbody
      have length := length_of_decodeBody h
      rw [Fields.length_body] at longer
      have payload := congrArg List.length means.payload
      dsimp only at longer
      omega

/-! ## Frames behind noise -/

theorem yields_of_noise {noise : List UInt8} {c : Command} :
    Yields (Framing.frames startByte endByte [] noise) c ↔ Repeats noise c := by
  simp only [Yields, Repeats, Framing.mem_frames, closed_iff]
  constructor
  · rintro ⟨_, ⟨before, inner, behind, rfl, hbefore, hinner, rfl⟩, hmeans⟩
    exact ⟨before, inner, behind, rfl, hbefore, hinner, hmeans⟩
  · rintro ⟨before, inner, behind, rfl, hbefore, hinner, hmeans⟩
    exact ⟨_, ⟨before, inner, behind, rfl, hbefore, hinner, rfl⟩, hmeans⟩

theorem Command.frame_eq (c : Command) :
    ∃ inner, c.frame = startByte :: (inner ++ [endByte]) ∧ endByte ∉ inner :=
  ⟨_, rfl, end_notMem_escape _⟩

/-- Behind noise that is closed, the frame comes out as it is. -/
theorem frames_of_closed {noise : List UInt8} (h : Closed noise) (c : Command) :
    Framing.frames startByte endByte [] (noise ++ c.frame) =
      Framing.frames startByte endByte [] noise ++ [c.frame] := by
  obtain ⟨inner, hframe, hinner⟩ := c.frame_eq
  rw [Framing.frames_append, closed_iff.1 h, hframe, (Framing.begins _).1,
    (Framing.finishes hinner).1]
  rfl

/-- Behind noise that is not, it comes out as the end of a longer one. -/
theorem frames_of_not_closed {noise : List UInt8} (h : ¬ Closed noise) (c : Command) :
    ∃ swallowing, Framing.frames startByte endByte [] (noise ++ c.frame) =
      Framing.frames startByte endByte [] noise ++ [startByte :: swallowing ++ c.frame] := by
  rw [closed_iff] at h
  obtain hoff | ⟨before, swallowing, -, -, -, hon⟩ :=
    @Framing.unfinished_begins _ _ startByte endByte noise
  · exact absurd hoff h
  · obtain ⟨inner, hframe, hinner⟩ := c.frame_eq
    have kept : endByte ∉ startByte :: inner :=
      List.not_mem_cons_of_ne_of_not_mem (by decide) hinner
    refine ⟨swallowing, ?_⟩
    rw [Framing.frames_append, hon, hframe, ← List.cons_append, (Framing.finishes kept).1]
    simp [Framing.frames, Machine.history]

/-- A start marker alone hides every frame behind it. -/
theorem lost_behind_start (c : Command) :
    ¬ ∃ frame ∈ FrameSplitter.feedAll [startByte :: c.frame],
      ∃ fields, decodeFrame frame = .ok fields ∧ c.Means fields := by
  rintro ⟨frame, hmem, fields, hdecode, hmeans⟩
  have unmatched : ¬ Closed [startByte] := fun closed => List.not_mem_nil (closed [] [] rfl)
  obtain ⟨swallowing, hframes⟩ := frames_of_not_closed unmatched c
  rw [FrameSplitter.feedAll_eq, List.flatten_singleton, ← List.singleton_append, hframes,
    Framing.frames_singleton] at hmem
  cases List.mem_singleton.1 hmem
  exact not_means_swallowed hdecode hmeans

/-- The intact frame is among those the splitter yields exactly if no start marker of the
noise is left without an end marker, or the frame stood in the noise before. -/
theorem splitter_resync {noise : List UInt8} {c : Command} {chunks : List (List UInt8)}
    (h : chunks.flatten = noise ++ c.frame) :
    (∃ frame ∈ FrameSplitter.feedAll chunks,
        ∃ fields, decodeFrame frame = .ok fields ∧ c.Means fields) ↔
      Closed noise ∨ Repeats noise c := by
  rw [FrameSplitter.feedAll_eq, h]
  by_cases hclosed : Closed noise
  · rw [frames_of_closed hclosed]
    exact iff_of_true ⟨c.frame, by simp, c.decodeFrame_frame⟩ (.inl hclosed)
  · obtain ⟨swallowing, hframes⟩ := frames_of_not_closed hclosed c
    rw [hframes, ← yields_of_noise, or_iff_right hclosed]
    constructor
    · rintro ⟨frame, hmem, fields, hdecode, hmeans⟩
      obtain hmem | hmem := List.mem_append.1 hmem
      · exact ⟨frame, hmem, fields, hdecode, hmeans⟩
      · cases List.mem_singleton.1 hmem
        exact absurd hmeans (not_means_swallowed hdecode)
    · rintro ⟨frame, hmem, hmeans⟩
      exact ⟨frame, List.mem_append_left _ hmem, hmeans⟩

/-- Noise that ends in the middle of an escape is dropped. -/
theorem splitter_resync_escape :
    (∃ frame ∈ FrameSplitter.feedAll [[0x00, 0x9e], encodeFrame 1 0x00020002 0 []],
        ∃ fields, decodeFrame frame = .ok fields ∧
          (⟨1, 0x00020002, 0, []⟩ : Command).Means fields) ↔
      Closed [0x00, 0x9e] ∨ Repeats [0x00, 0x9e] ⟨1, 0x00020002, 0, []⟩ :=
  splitter_resync (by simp [Command.frame])

/-- A start marker in front of a frame, and no frame says what was sent. -/
theorem not_splitter_resync :
    ¬ ∀ (noise : List UInt8) (c : Command) (chunks : List (List UInt8)),
      chunks.flatten = noise ++ c.frame →
        ∃ frame ∈ FrameSplitter.feedAll chunks,
          ∃ fields, decodeFrame frame = .ok fields ∧ c.Means fields := by
  intro resync
  exact lost_behind_start ⟨1, 0x00020002, 0, []⟩
    (resync [startByte] _ [startByte :: Command.frame _] (by simp))

end Boson

end CamDriver
