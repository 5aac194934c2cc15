import CamDriver.Lib.Machine

/-!
# CamDriver.Lib.Framing

Frames between markers, cut out of a stream that comes in chunks.

`extract` takes the whole frames off a buffer: from the first start marker to the
first stop marker behind it, and again from there.  `step` is the same one element
at a time; its state is the frame that is not finished, `[]` outside of one.  The two
agree (`extract_eq`), so it does not matter how a stream is cut (`feedAll_eq`).

What was in front of a frame is told by the markers in it: the stream is outside of a
frame where every start marker has a stop marker behind it (`unfinished_eq_nil_iff`).

Nothing here depends on what the elements are.
-/

namespace Framing

variable {α : Type*} [DecidableEq α] (start stop : α)

/-! ## A buffer -/

/-- What is in front of the first marker and what is behind it. -/
def cutAt (mark : α) : List α → Option (List α × List α)
  | [] => none
  | x :: xs => if x = mark then some ([], xs) else (cutAt mark xs).map (Prod.map (x :: ·) id)

/-- There is no cut where the mark is missing. -/
theorem cutAt_eq_none {mark : α} {xs : List α} (h : cutAt mark xs = none) : mark ∉ xs := by
  induction xs with
  | nil => exact List.not_mem_nil
  | cons x xs ih =>
      rw [cutAt] at h
      split at h
      · cases h
      · next hx =>
          rw [Option.map_eq_none_iff] at h
          exact List.not_mem_cons_of_ne_of_not_mem (Ne.symm hx) (ih h)

/-- A cut is at the first mark. -/
theorem cutAt_eq_some {mark : α} {xs before behind : List α}
    (h : cutAt mark xs = some (before, behind)) :
    xs = before ++ mark :: behind ∧ mark ∉ before := by
  induction xs generalizing before with
  | nil => cases h
  | cons x xs ih =>
      rw [cutAt] at h
      split at h
      · next hx =>
          cases h
          exact ⟨congrArg (· :: _) hx, List.not_mem_nil⟩
      · next hx =>
          obtain ⟨⟨before', behind'⟩, hcut, heq⟩ := Option.map_eq_some_iff.1 h
          cases heq
          obtain ⟨rfl, hmem⟩ := ih hcut
          exact ⟨rfl, List.not_mem_cons_of_ne_of_not_mem (Ne.symm hx) hmem⟩

/-- What is behind a cut is shorter. -/
theorem length_of_cutAt {mark : α} {xs before behind : List α}
    (h : cutAt mark xs = some (before, behind)) : behind.length < xs.length := by
  rw [(cutAt_eq_some h).1, List.length_append, List.length_cons]
  omega

/-- The whole frames of a buffer, markers included, and what is left of it. -/
def extract (buf : List α) : List (List α) × List α :=
  match hstart : cutAt start buf with
  | none => ([], [])
  | some (_, body) =>
    match hstop : cutAt stop body with
    | none => ([], start :: body)
    | some (inner, behind) =>
      have := Nat.lt_trans (length_of_cutAt hstop) (length_of_cutAt hstart)
      let r := extract behind
      ((start :: inner ++ [stop]) :: r.1, r.2)
termination_by buf.length

/-- A chunk is put behind the buffer, and the whole frames are taken off. -/
def feed (buf chunk : List α) : List α × List (List α) :=
  let r := extract start stop (buf ++ chunk)
  (r.2, r.1)

/-- The frames a stream gives, chunk by chunk. -/
def feedAll (chunks : List (List α)) : List (List α) :=
  (Machine.history (feed start stop) [] chunks).flatMap Prod.snd

variable {start stop}

/-- A buffer without a start mark is dropped. -/
theorem extract_of_noise {buf : List α} (h : cutAt start buf = none) :
    extract start stop buf = ([], []) := by
  rw [extract]
  split <;> simp_all

/-- A frame that has begun and not ended is kept. -/
theorem extract_of_open {buf noise body : List α} (h : cutAt start buf = some (noise, body))
    (h' : cutAt stop body = none) : extract start stop buf = ([], start :: body) := by
  rw [extract]
  split <;> grind

/-- A whole frame is taken, and the rest behind it is looked at again. -/
theorem extract_of_frame {buf noise body inner behind : List α}
    (h : cutAt start buf = some (noise, body)) (h' : cutAt stop body = some (inner, behind)) :
    extract start stop buf = ((start :: inner ++ [stop]) :: (extract start stop behind).1,
      (extract start stop behind).2) := by
  rw [extract]
  split <;> grind

variable (start stop)

/-! ## One element at a time -/

/-- The unfinished frame and the frame that is finished, if one is. -/
def step (buf : List α) (x : α) : List α × Option (List α) :=
  match buf with
  | [] => if x = start then ([x], none) else ([], none)
  | _ :: _ => if x = stop then ([], some (buf ++ [x])) else (buf ++ [x], none)

/-- The frame that is not finished after some elements. -/
def unfinished (buf xs : List α) : List α := Machine.final (step start stop) buf xs

/-- The frames that are finished in some elements. -/
def frames (buf xs : List α) : List (List α) :=
  (Machine.history (step start stop) buf xs).filterMap Prod.snd

variable {start stop}

/-- What is left behind two stretches of items. -/
theorem unfinished_append (buf xs ys : List α) :
    unfinished start stop buf (xs ++ ys) =
      unfinished start stop (unfinished start stop buf xs) ys :=
  Machine.final_append _ _ _ _

/-- The frames of two stretches. -/
theorem frames_append (buf xs ys : List α) :
    frames start stop buf (xs ++ ys) =
      frames start stop buf xs ++ frames start stop (unfinished start stop buf xs) ys := by
  rw [frames, Machine.history_append, List.filterMap_append]
  rfl

theorem unfinished_cons (buf : List α) (x : α) (xs : List α) :
    unfinished start stop buf (x :: xs) =
      unfinished start stop (step start stop buf x).1 xs := rfl

theorem frames_cons (buf : List α) (x : α) (xs : List α) :
    frames start stop buf (x :: xs) =
      (step start stop buf x).2.toList ++ frames start stop (step start stop buf x).1 xs := by
  rw [frames, Machine.history, List.filterMap_cons]
  cases (step start stop buf x).2 with
  | none => rfl
  | some f => rfl

/-- One item completes one frame at most. -/
theorem frames_singleton (buf : List α) (x : α) :
    frames start stop buf [x] = (step start stop buf x).2.toList := by
  rw [frames_cons]
  exact List.append_nil _

/-- Outside of a frame, all is dropped up to a start marker. -/
theorem outside {xs : List α} (h : start ∉ xs) :
    frames start stop [] xs = [] ∧ unfinished start stop [] xs = [] := by
  induction xs with
  | nil => exact ⟨rfl, rfl⟩
  | cons x xs ih =>
      rw [List.mem_cons, not_or] at h
      have skip : step start stop [] x = ([], none) := if_neg fun hx => h.1 hx.symm
      rw [frames_cons, unfinished_cons, skip]
      exact ih h.2

/-- Inside of a frame, all is kept up to a stop marker. -/
theorem inside {s : α} {body xs : List α} (h : stop ∉ xs) :
    frames start stop (s :: body) xs = [] ∧
      unfinished start stop (s :: body) xs = s :: body ++ xs := by
  induction xs generalizing body with
  | nil => exact ⟨rfl, (List.append_nil _).symm⟩
  | cons x xs ih =>
      rw [List.mem_cons, not_or] at h
      have keep : step start stop (s :: body) x = (s :: (body ++ [x]), none) :=
        if_neg fun hx => h.1 hx.symm
      rw [frames_cons, unfinished_cons, keep]
      obtain ⟨hframes, hunfinished⟩ := @ih (body ++ [x]) h.2
      refine ⟨hframes, ?_⟩
      rw [hunfinished, List.cons_append, List.cons_append, List.append_assoc,
        List.singleton_append]

/-- A stop marker finishes the frame. -/
theorem finishes {s : α} {body xs ys : List α} (h : stop ∉ xs) :
    frames start stop (s :: body) (xs ++ stop :: ys) =
        (s :: body ++ xs ++ [stop]) :: frames start stop [] ys ∧
      unfinished start stop (s :: body) (xs ++ stop :: ys) = unfinished start stop [] ys := by
  obtain ⟨hframes, hunfinished⟩ := @inside _ _ start stop s body _ h
  have close : step start stop (s :: body ++ xs) stop = ([], some (s :: body ++ xs ++ [stop])) :=
    if_pos rfl
  rw [frames_append, unfinished_append, hframes, hunfinished, frames_cons, unfinished_cons, close]
  exact ⟨rfl, rfl⟩

/-- A start marker outside of a frame begins one. -/
theorem begins (xs : List α) :
    frames start stop [] (start :: xs) = frames start stop [start] xs ∧
      unfinished start stop [] (start :: xs) = unfinished start stop [start] xs := by
  have openFrame : step start stop [] start = ([start], none) := if_pos rfl
  rw [frames_cons, unfinished_cons, openFrame]
  exact ⟨rfl, rfl⟩

/-- A stream of whole frames. -/
theorem frames_flatten {bodies : List (List α)} (h : ∀ body ∈ bodies, stop ∉ body) :
    frames start stop [] (bodies.flatMap fun body => start :: body ++ [stop]) =
      bodies.map fun body => start :: body ++ [stop] := by
  induction bodies with
  | nil => rfl
  | cons body bodies ih =>
      rw [List.forall_mem_cons] at h
      rw [List.flatMap_cons, List.append_assoc, List.cons_append, (begins _).1,
        List.singleton_append, (finishes h.1).1, ih h.2]
      rfl

/-! ## Chunks -/

/-- The frames of a buffer are those of its elements in turn. -/
theorem extract_eq (buf : List α) :
    extract start stop buf = (frames start stop [] buf, unfinished start stop [] buf) := by
  induction buf using extract.induct start stop with
  | case1 buf hnone =>
      obtain ⟨hframes, hunfinished⟩ := @outside _ _ start stop _ (cutAt_eq_none hnone)
      rw [extract_of_noise hnone, hframes, hunfinished]
  | case2 buf noise body hstart hnone =>
      rw [extract_of_open hstart hnone]
      obtain ⟨rfl, hnoise⟩ := cutAt_eq_some hstart
      obtain ⟨hdrop, hoff⟩ := @outside _ _ start stop _ hnoise
      obtain ⟨hkeep, hon⟩ := @inside _ _ start stop start [] _
        (cutAt_eq_none hnone)
      rw [frames_append, unfinished_append, hdrop, hoff, (begins _).1, (begins _).2, hkeep, hon]
      rfl
  | case3 buf noise body hstart inner behind hstop _ ih =>
      rw [extract_of_frame hstart hstop, ih]
      obtain ⟨rfl, hnoise⟩ := cutAt_eq_some hstart
      obtain ⟨rfl, hinner⟩ := cutAt_eq_some hstop
      obtain ⟨hdrop, hoff⟩ := @outside _ _ start stop _ hnoise
      obtain ⟨hframes, hunfinished⟩ := @finishes _ _ start stop start [] _ behind
        hinner
      rw [frames_append, unfinished_append, hdrop, hoff, (begins _).1, (begins _).2, hframes,
        hunfinished]
      rfl

/-- What a buffer is between two chunks: a frame that is not finished. -/
def Unfinished (start stop : α) (buf : List α) : Prop :=
  buf = [] ∨ ∃ body, buf = start :: body ∧ stop ∉ body

/-- What is left is always an unfinished frame. -/
theorem unfinished_keeps {buf : List α} (h : Unfinished start stop buf) (xs : List α) :
    Unfinished start stop (unfinished start stop buf xs) := by
  induction xs generalizing buf with
  | nil => exact h
  | cons x xs ih =>
      apply ih
      obtain rfl | ⟨body, rfl, hbody⟩ := h
      · by_cases hx : x = start
        · exact .inr ⟨[], by simp [step, hx], List.not_mem_nil⟩
        · exact .inl (by simp [step, hx])
      · by_cases hx : x = stop
        · exact .inl (by simp [step, hx])
        · exact .inr ⟨body ++ [x], by simp [step, hx], by simp [hbody, Ne.symm hx]⟩

/-- An unfinished frame gives no frame when it is fed again. -/
theorem frames_of_unfinished {buf : List α} (h : Unfinished start stop buf) :
    frames start stop [] buf = [] ∧ unfinished start stop [] buf = buf := by
  obtain rfl | ⟨body, rfl, hbody⟩ := h
  · exact ⟨rfl, rfl⟩
  · rw [(begins body).1, (begins body).2]
    exact inside hbody

/-- To feed a chunk at once is to feed it item by item. -/
theorem feed_eq {buf : List α} (h : Unfinished start stop buf) (chunk : List α) :
    feed start stop buf chunk = (unfinished start stop buf chunk, frames start stop buf chunk) := by
  rw [feed, extract_eq, frames_append, unfinished_append, (frames_of_unfinished h).1,
    (frames_of_unfinished h).2]
  rfl

/-- It does not matter how a stream is cut into chunks. -/
theorem feedAll_eq (chunks : List (List α)) :
    feedAll start stop chunks = frames start stop [] chunks.flatten := by
  have from_buffer : ∀ {buf : List α}, Unfinished start stop buf →
      (Machine.history (feed start stop) buf chunks).flatMap Prod.snd =
        frames start stop buf chunks.flatten := by
    induction chunks with
    | nil => exact fun _ => rfl
    | cons chunk chunks ih =>
        intro buf h
        rw [Machine.history, List.flatMap_cons, feed_eq h, ih (unfinished_keeps h chunk),
          List.flatten_cons, frames_append]
  exact from_buffer (.inl rfl)

/-! ## What is in front of a frame -/

/-- A frame that has begun stays open until its end mark. -/
theorem unfinished_ne_nil {buf xs : List α} (hbuf : buf ≠ []) (h : stop ∉ xs) :
    unfinished start stop buf xs ≠ [] := by
  cases buf with
  | nil => exact absurd rfl hbuf
  | cons s body =>
      rw [(inside h).2]
      exact List.cons_ne_nil _ _

/-- The frame that is not finished begins at a start marker outside of a frame, and has
all that came in since. -/
theorem unfinished_begins (xs : List α) :
    unfinished start stop [] xs = [] ∨
      ∃ before body, xs = before ++ start :: body ∧ unfinished start stop [] before = [] ∧
        stop ∉ body ∧ unfinished start stop [] xs = start :: body := by
  induction xs using List.reverseRecOn with
  | nil => exact .inl rfl
  | append_singleton xs x ih =>
      rw [unfinished_append]
      obtain hoff | ⟨before, body, rfl, hbefore, hbody, hon⟩ := ih
      · rw [hoff]
        by_cases hx : x = start
        · exact .inr ⟨xs, [], by rw [hx], hoff, List.not_mem_nil, by rw [hx]; exact (begins []).2⟩
        · exact .inl (outside (by simpa using Ne.symm hx)).2
      · rw [hon]
        by_cases hx : x = stop
        · rw [hx]
          exact .inl (@finishes _ _ start stop _ _ [] [] List.not_mem_nil).2
        · have other : stop ∉ [x] := by simpa using Ne.symm hx
          exact .inr ⟨before, body ++ [x], by simp, hbefore, by simp [hbody, Ne.symm hx],
            (inside other).2⟩

/-- The stream is outside of a frame where every start marker has a stop marker behind
it. -/
theorem unfinished_eq_nil_iff (hne : start ≠ stop) {xs : List α} :
    unfinished start stop [] xs = [] ↔
      ∀ before behind, xs = before ++ start :: behind → stop ∈ behind := by
  constructor
  · rintro hoff before behind rfl
    by_contra hstop
    rw [unfinished_append, unfinished_cons] at hoff
    refine unfinished_ne_nil ?_ hstop hoff
    cases unfinished start stop [] before with
    | nil => simp [step]
    | cons s body => simp [step, hne]
  · intro h
    obtain hoff | ⟨before, body, hxs, -, hbody, -⟩ := @unfinished_begins _ _ start stop xs
    · exact hoff
    · exact absurd (h before body hxs) hbody

/-- A frame begins at a start marker outside of a frame, and ends at the first stop marker
behind it. -/
theorem mem_frames {f xs : List α} :
    f ∈ frames start stop [] xs ↔
      ∃ before body behind, xs = before ++ start :: body ++ stop :: behind ∧
        unfinished start stop [] before = [] ∧ stop ∉ body ∧ f = start :: body ++ [stop] := by
  constructor
  · induction xs using List.reverseRecOn with
    | nil => exact fun h => absurd h List.not_mem_nil
    | append_singleton xs x ih =>
        intro h
        rw [frames_append, List.mem_append] at h
        obtain h | h := h
        · obtain ⟨before, body, behind, rfl, hbefore, hbody, rfl⟩ := ih h
          exact ⟨before, body, behind ++ [x], by simp, hbefore, hbody, rfl⟩
        · obtain hoff | ⟨before, body, hxs, hbefore, hbody, hon⟩ :=
            @unfinished_begins _ _ start stop xs
          · rw [hoff, frames_singleton] at h
            by_cases hx : x = start <;> simp [step, hx] at h
          · rw [hon, frames_singleton] at h
            by_cases hx : x = stop
            · rw [step, if_pos hx, hx] at h
              exact ⟨before, body, [], by rw [hxs, hx], hbefore, hbody, List.mem_singleton.1 h⟩
            · rw [step, if_neg hx] at h
              cases h
  · rintro ⟨before, body, behind, rfl, hbefore, hbody, rfl⟩
    rw [List.append_assoc, frames_append, hbefore, List.cons_append, (begins _).1,
      (finishes hbody).1]
    exact List.mem_append_right _ List.mem_cons_self

end Framing
