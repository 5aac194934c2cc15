import Mathlib.Data.List.Basic

/-!
# CamDriver.Lib.Stream

Reading a stream of chunks that may be cut off anywhere.

A stream is a list of chunks, each encoded in the state the chunks before it
lead to; some chunks carry outputs.  `Reads` says what a reader does with one
whole chunk and with a proper prefix of one, and `Reads.take` is what it then
does with every prefix of every stream: it gives the outputs of the chunks that
lie within the prefix, and stops.

Nothing here depends on a file format.
-/

namespace Stream

variable {σ κ ω α ε : Type*} (enc : σ → κ → List α) (next : σ → κ → σ) (out : σ → κ → List ω)

/-- The elements of a stream of chunks. -/
def encode : σ → List κ → List α
  | _, [] => []
  | s, k :: ks => enc s k ++ encode (next s k) ks

/-- The outputs of a stream that starts at `off`, each with the offset its
chunk ends at. -/
def layout : σ → Nat → List κ → List (Nat × ω)
  | _, _, [] => []
  | s, off, k :: ks =>
    let stop := off + (enc s k).length
    (out s k).map (stop, ·) ++ layout (next s k) stop ks

/-- Every chunk may stand where it stands. -/
def Valid (ok : σ → κ → Prop) : σ → List κ → Prop
  | _, [] => True
  | s, k :: ks => ok s k ∧ Valid ok (next s k) ks

instance (ok : σ → κ → Prop) [∀ s k, Decidable (ok s k)] (s : σ) (ks : List κ) :
    Decidable (Valid next ok s ks) :=
  match ks with
  | [] => isTrue trivial
  | k :: ks =>
    have := instDecidableValid ok (next s k) ks
    inferInstanceAs (Decidable (_ ∧ _))

theorem Valid.and {next : σ → κ → σ} {ok ok' : σ → κ → Prop} {s : σ} {ks : List κ}
    (h : Valid next ok s ks) (h' : Valid next ok' s ks) :
    Valid next (fun s k => ok s k ∧ ok' s k) s ks := by
  induction ks generalizing s with
  | nil => trivial
  | cons k ks ih => exact ⟨⟨h.1, h'.1⟩, ih h.2 h'.2⟩

/-- Where the state does not matter, every chunk is checked by itself. -/
theorem valid_of_forall {next : σ → κ → σ} {p : κ → Prop} {s : σ} {ks : List κ}
    (h : ∀ k ∈ ks, p k) : Valid next (fun _ k => p k) s ks := by
  induction ks generalizing s with
  | nil => trivial
  | cons k ks ih => exact ⟨h k List.mem_cons_self, ih fun k hk => h k (List.mem_cons_of_mem _ hk)⟩

/-- The outputs of the chunks that lie within the first `n` elements. -/
def within (s : σ) (ks : List κ) (n : Nat) : List ω :=
  ((layout enc next out s 0 ks).filter (·.1 ≤ n)).map Prod.snd

theorem le_of_mem_layout {s : σ} {off : Nat} {ks : List κ} {e : Nat × ω}
    (h : e ∈ layout enc next out s off ks) : off ≤ e.1 := by
  induction ks generalizing s off with
  | nil => simp [layout] at h
  | cons k ks ih =>
      simp only [layout, List.mem_append, List.mem_map] at h
      rcases h with ⟨o, -, rfl⟩ | h
      · exact Nat.le_add_right ..
      · exact Nat.le_trans (Nat.le_add_right ..) (ih h)

/-- An output and the end of its chunk, by the chunks before it. -/
theorem mem_layout {s : σ} {off stop : Nat} {ks : List κ} {o : ω} :
    (stop, o) ∈ layout enc next out s off ks ↔
      ∃ before k after, ks = before ++ k :: after ∧
        stop = off + (encode enc next s (before ++ [k])).length ∧
        o ∈ out (before.foldl next s) k := by
  induction ks generalizing s off with
  | nil => simp [layout]
  | cons k ks ih =>
      simp only [layout, List.mem_append, List.mem_map, Prod.mk.injEq, ih]
      constructor
      · rintro (⟨_, ho, rfl, rfl⟩ | ⟨before, k', after, rfl, rfl, ho⟩)
        · exact ⟨[], k, ks, rfl, by simp [encode], ho⟩
        · exact ⟨k :: before, k', after, rfl, by simp [encode, Nat.add_assoc], ho⟩
      · rintro ⟨before, k', after, hks, rfl, ho⟩
        cases before with
        | nil =>
            cases hks
            exact .inl ⟨o, ho, by simp [encode], rfl⟩
        | cons b before =>
            cases hks
            exact .inr ⟨before, k', after, rfl, by simp [encode, Nat.add_assoc], ho⟩

/-- What a reader does with one chunk: it knows its state and offset, and
answers with outputs and possibly an error. -/
structure Reads (ok : σ → κ → Prop) (read : σ → Nat → List α → List ω × Option ε) : Prop where
  nil : ∀ s off, read s off [] = ([], none)
  whole : ∀ s off k rest, ok s k → read s off (enc s k ++ rest) =
    let r := read (next s k) (off + (enc s k).length) rest
    (out s k ++ r.1, r.2)
  cut : ∀ s off k n, ok s k → n < (enc s k).length → read s off ((enc s k).take n) = ([], none)

variable {enc next out}

/-- Nothing that starts behind the cut is within it. -/
theorem filter_layout_eq_nil {s : σ} {off n : Nat} {ks : List κ} (h : n < off) :
    (layout enc next out s off ks).filter (·.1 ≤ n) = [] := by
  rw [List.filter_eq_nil_iff]
  intro e he
  have hle := le_of_mem_layout enc next out he
  simp only [decide_eq_true_eq]
  omega

/-- **Reading a prefix**: the outputs of the chunks within it, and no error. -/
theorem Reads.take {ok : σ → κ → Prop} {read : σ → Nat → List α → List ω × Option ε}
    (h : Reads enc next out ok read) {s : σ} {ks : List κ} (hok : Valid next ok s ks)
    (off n : Nat) :
    read s off ((encode enc next s ks).take n) =
      (((layout enc next out s off ks).filter (·.1 ≤ off + n)).map Prod.snd, none) := by
  induction ks generalizing s off n with
  | nil => simpa [encode, layout] using h.nil s off
  | cons k ks ih =>
      obtain ⟨hk, hok⟩ := hok
      have hstop : off + (enc s k).length ≤ off + n ↔ (enc s k).length ≤ n := by omega
      simp only [encode, layout, List.filter_append, List.map_append, List.filter_map]
      rcases Nat.lt_or_ge n (enc s k).length with hlt | hge
      · rw [List.take_append_of_le_length (Nat.le_of_lt hlt), h.cut s off k n hk hlt,
          filter_layout_eq_nil (by omega)]
        simp [Function.comp_def, hstop, hlt]
      · obtain ⟨m, rfl⟩ := Nat.exists_eq_add_of_le hge
        rw [List.take_length_add_append, h.whole s off k _ hk, ih hok]
        simp [Function.comp_def, Nat.add_assoc]

end Stream
