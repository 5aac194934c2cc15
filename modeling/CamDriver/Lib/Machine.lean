import Mathlib.Algebra.GroupWithZero.Nat
import Mathlib.Data.List.Induction

/-!
# CamDriver.Lib.Machine

Runs of state machines, in the two forms the development uses.

* A *total* machine `step : σ → α → σ × ω` answers every input.  Its run is
  described by `final` (the last state) and `history` (every input with the
  answer it got).  `inv_history` is the induction rule for invariants that
  relate the state to everything answered so far, and
  `history_filter_of_silent` erases the inputs that leave the state alone.
* A *partial* machine `next : σ → α → Option σ` is a labelled transition
  system whose labels are enabled in some states only.  `exec` follows a list
  of labels, `exec_inv` is the invariant rule, and `exec_inv_along` is its
  form for runs in which every step also meets a side condition.

Nothing here depends on what the machines model.
-/

namespace Machine

variable {σ α ω : Type*}

/-! ## Histories that go on -/

/-- An entry of a history that went on is of what there was, or of what came. -/
theorem split_append {xs ys before after : List α} {a : α} (h : xs ++ ys = before ++ a :: after) :
    (∃ after', xs = before ++ a :: after') ∨
      ∃ before', before = xs ++ before' ∧ ys = before' ++ a :: after := by
  rcases List.append_eq_append_iff.1 h with ⟨as, hbefore, hys⟩ | ⟨bs, hxs, hafter⟩
  · exact .inr ⟨as, hbefore, hys⟩
  · cases bs with
    | nil => exact .inr ⟨[], by simpa using hxs.symm, by simpa using hafter.symm⟩
    | cons b bs =>
        simp only [List.cons_append, List.cons.injEq] at hafter
        exact .inl ⟨bs, by rw [hxs, ← hafter.1]⟩

/-- The same, where one entry came. -/
theorem split_concat {xs before after : List α} {x a : α} (h : xs ++ [x] = before ++ a :: after) :
    (∃ after', xs = before ++ a :: after') ∨ (before = xs ∧ a = x) := by
  refine (split_append h).imp id ?_
  rintro ⟨before', hbefore, hone⟩
  cases before' with
  | nil =>
      simp only [List.nil_append, List.cons.injEq] at hone
      exact ⟨by simpa using hbefore, hone.1.symm⟩
  | cons b before' => simp at hone

/-! ## Total machines -/

section Total

variable (step : σ → α → σ × ω)

/-- The state after a list of inputs. -/
def final (s : σ) (as : List α) : σ := as.foldl (fun s a => (step s a).1) s

/-- Every input of a run, with the answer the machine gave to it. -/
def history : σ → List α → List (α × ω)
  | _, [] => []
  | s, a :: as => (a, (step s a).2) :: history (step s a).1 as

/-- Every step of a run meets the condition `C`. -/
def Meets (C : σ → α → Prop) : σ → List α → Prop
  | _, [] => True
  | s, a :: as => C s a ∧ Meets C (step s a).1 as

instance (C : σ → α → Prop) [∀ s a, Decidable (C s a)] (s : σ) (as : List α) :
    Decidable (Meets step C s as) :=
  match as with
  | [] => isTrue trivial
  | a :: as =>
    have := instDecidableMeets C (step s a).1 as
    inferInstanceAs (Decidable (_ ∧ _))

@[simp] theorem final_nil (s : σ) : final step s [] = s := rfl

@[simp] theorem final_cons (s : σ) (a : α) (as : List α) :
    final step s (a :: as) = final step (step s a).1 as := rfl

theorem final_append (s : σ) (as bs : List α) :
    final step s (as ++ bs) = final step (final step s as) bs := by
  simp [final]

theorem history_append (s : σ) (as bs : List α) :
    history step s (as ++ bs) = history step s as ++ history step (final step s as) bs := by
  induction as generalizing s with
  | nil => rfl
  | cons a as ih => simp [history, ih]

variable {step}

/-- **History rule**: a relation between the state and the answers so far that
holds at the start and survives one more input holds after every run. -/
theorem inv_history {I : σ → List (α × ω) → Prop} {s₀ : σ} (h0 : I s₀ [])
    (hstep : ∀ s h a, I s h → I (step s a).1 (h ++ [(a, (step s a).2)])) (as : List α) :
    I (final step s₀ as) (history step s₀ as) := by
  induction as using List.reverseRecOn with
  | nil => exact h0
  | append_singleton as a ih =>
      rw [final_append, history_append]
      exact hstep _ _ _ ih

/-- **Answer rule**: along a run whose inputs all meet `C`, an invariant gives what it says of
each answer. -/
theorem forall_history_of_meets {I : σ → Prop} {C : σ → α → Prop} {D : α → ω → Prop}
    (hstep : ∀ s a, I s → C s a → I (step s a).1 ∧ D a (step s a).2) {s : σ} {as : List α}
    (hs : I s) (hC : Meets step C s as) : ∀ e ∈ history step s as, D e.1 e.2 := by
  induction as generalizing s with
  | nil => exact fun e he => absurd he List.not_mem_nil
  | cons a as ih =>
      obtain ⟨hnext, hanswer⟩ := hstep s a hs hC.1
      intro e he
      obtain rfl | he := List.mem_cons.1 he
      · exact hanswer
      · exact ih hnext hC.2 e he

/-- **Lock rule**: a machine that stays `free` until an input locks it, and is right about
every input from then on, is right about a run exactly if each `bad` input comes behind one
that locks. -/
theorem meets_iff_of_lock {C : σ → α → Prop} {free locked : σ} {bad lock : α → Prop}
    (hfree : ∀ a, C free a ↔ ¬ bad a)
    (hopen : ∀ a, ¬ bad a → ¬ lock a → (step free a).1 = free)
    (hlock : ∀ a, lock a → ¬ bad a ∧ (step free a).1 = locked)
    (hlocked : ∀ a, C locked a ∧ (step locked a).1 = locked) (as : List α) :
    Meets step C free as ↔
      ∀ pre a post, as = pre ++ a :: post → bad a → ∃ b ∈ pre, lock b := by
  have hall (as : List α) : Meets step C locked as := by
    induction as with
    | nil => trivial
    | cons a as ih =>
        refine ⟨(hlocked a).1, ?_⟩
        rw [(hlocked a).2]
        exact ih
  induction as with
  | nil => simp [Meets]
  | cons a as ih =>
      rw [Meets, hfree]
      constructor
      · rintro ⟨hgood, hrest⟩ pre b post hsplit hbad
        cases pre with
        | nil =>
            cases List.head_eq_of_cons_eq hsplit
            exact absurd hbad hgood
        | cons a' pre =>
            obtain ⟨rfl, rfl⟩ := List.cons.inj hsplit
            by_cases ha : lock a
            · exact ⟨a, by simp, ha⟩
            · rw [hopen a hgood ha] at hrest
              obtain ⟨c, hmem, hc⟩ := ih.mp hrest pre b post rfl hbad
              exact ⟨c, by simp [hmem], hc⟩
      · intro h
        have hgood : ¬ bad a := by
          intro hbad
          obtain ⟨b, hmem, -⟩ := h [] a as rfl hbad
          cases hmem
        refine ⟨hgood, ?_⟩
        by_cases ha : lock a
        · rw [(hlock a ha).2]
          exact hall as
        · rw [hopen a hgood ha]
          refine ih.mpr ?_
          rintro pre b post rfl hbad
          obtain ⟨c, hmem, hc⟩ := h (a :: pre) b post rfl hbad
          cases hmem with
          | head => exact absurd hc ha
          | tail _ hmem => exact ⟨c, hmem, hc⟩

/-- Inputs that leave the state alone can be dropped from a run: every other
input still gets the same answer. -/
theorem history_filter_of_silent {p : α → Bool} (hp : ∀ s a, p a = false → (step s a).1 = s)
    (s : σ) (as : List α) :
    history step s (as.filter p) = (history step s as).filter (fun e => p e.1) := by
  induction as generalizing s with
  | nil => rfl
  | cons a as ih =>
      cases ha : p a with
      | false =>
          rw [List.filter_cons_of_neg (by simp [ha]), ih]
          simp [history, ha, hp s a ha]
      | true => simp [history, ha, ih]

end Total

/-! ## Partial machines -/

section Partial

variable (next : σ → α → Option σ)

/-- Follow a list of labels; `none` as soon as one of them is not enabled. -/
def exec : σ → List α → Option σ
  | s, [] => some s
  | s, a :: as => (next s a).bind fun s' => exec s' as

/-- The states some list of labels leads to. -/
def Reachable (s₀ s : σ) : Prop := ∃ as, exec next s₀ as = some s

/-- Every step a run takes meets the side condition `C`. -/
def Along (C : σ → α → Prop) : σ → List α → Prop
  | _, [] => True
  | s, a :: as => C s a ∧
    match next s a with
    | none => True
    | some s' => Along C s' as

instance decidableAlong (C : σ → α → Prop) [∀ s a, Decidable (C s a)] :
    (s : σ) → (as : List α) → Decidable (Along next C s as)
  | _, [] => isTrue trivial
  | s, a :: as =>
    have : Decidable (match next s a with
        | none => True
        | some s' => Along next C s' as) :=
      match next s a with
      | none => isTrue trivial
      | some s' => decidableAlong C s' as
    inferInstanceAs (Decidable (C s a ∧ _))

@[simp] theorem exec_nil (s : σ) : exec next s [] = some s := rfl

@[simp] theorem exec_cons (s : σ) (a : α) (as : List α) :
    exec next s (a :: as) = (next s a).bind fun s' => exec next s' as := rfl

theorem exec_append (s : σ) (as bs : List α) :
    exec next s (as ++ bs) = (exec next s as).bind fun s' => exec next s' bs := by
  induction as generalizing s with
  | nil => rfl
  | cons a as ih =>
      cases h : next s a with
      | none => simp [h]
      | some s' => simp [h, ih]

variable {next}

theorem Along.and {C D : σ → α → Prop} {s : σ} {as : List α} (hC : Along next C s as)
    (hD : Along next D s as) : Along next (fun s a => C s a ∧ D s a) s as := by
  induction as generalizing s with
  | nil => trivial
  | cons a as ih =>
      refine ⟨⟨hC.1, hD.1⟩, ?_⟩
      have hC' := hC.2
      have hD' := hD.2
      cases hs : next s a with
      | none => trivial
      | some s' =>
          rw [hs] at hC' hD'
          exact ih hC' hD'

theorem Along.of_append {C : σ → α → Prop} {s t : σ} {as bs : List α}
    (hC : Along next C s (as ++ bs)) (h : exec next s as = some t) : Along next C t bs := by
  induction as generalizing s with
  | nil => exact Option.some.inj h ▸ hC
  | cons a as ih =>
      rw [exec_cons, Option.bind_eq_some_iff] at h
      obtain ⟨s', hs', hrest⟩ := h
      have hC' := hC.2
      rw [hs'] at hC'
      exact ih hC' hrest

/-- The steps of a run meet `C` where every step does, in the state it is taken in. -/
theorem along_iff {C : σ → α → Prop} {s : σ} {as : List α} : Along next C s as ↔
    ∀ before a after t, as = before ++ a :: after → exec next s before = some t → C t a := by
  constructor
  · intro h before a after t has hrun
    have hrest : Along next C t (a :: after) := Along.of_append (has ▸ h) hrun
    exact hrest.1
  · intro h
    induction as generalizing s with
    | nil => trivial
    | cons a as ih =>
        refine ⟨h [] a as s rfl rfl, ?_⟩
        cases hs : next s a with
        | none => trivial
        | some s' =>
            refine ih fun before b after t has hrun =>
              h (a :: before) b after t (by rw [has]; rfl) ?_
            rw [exec_cons, hs, Option.bind_some, hrun]

/-- One more step. -/
theorem along_concat {C : σ → α → Prop} {s t : σ} {as : List α} {a : α}
    (h : exec next s as = some t) :
    Along next C s (as ++ [a]) ↔ Along next C s as ∧ C t a := by
  induction as generalizing s with
  | nil =>
      cases Option.some.inj h
      simp only [List.nil_append, Along, true_and]
      refine and_iff_left ?_
      split <;> trivial
  | cons b as ih =>
      rw [exec_cons, Option.bind_eq_some_iff] at h
      obtain ⟨s', hs', hrest⟩ := h
      simp only [List.cons_append, Along, hs', ih hrest, and_assoc]

/-- **Invariant rule with the past**: a relation between the steps taken and the state that
holds at the start and survives one more step holds after every run. -/
theorem exec_inv_history {I : List α → σ → Prop} {s₀ : σ} (h0 : I [] s₀)
    (hstep : ∀ as s a s', exec next s₀ as = some s → I as s → next s a = some s' →
      I (as ++ [a]) s')
    {s : σ} {as : List α} (h : exec next s₀ as = some s) : I as s := by
  induction as using List.reverseRecOn generalizing s with
  | nil => exact Option.some.inj h ▸ h0
  | append_singleton as a ih =>
      rw [exec_append, Option.bind_eq_some_iff] at h
      obtain ⟨t, ht, hlast⟩ := h
      rw [exec_cons, Option.bind_eq_some_iff] at hlast
      obtain ⟨s', hs', hnil⟩ := hlast
      cases Option.some.inj hnil
      exact hstep as t a _ ht (ih ht) hs'

/-- **Invariant rule**: what every enabled step preserves holds after a run. -/
theorem exec_inv {I : σ → Prop} (hstep : ∀ s a s', I s → next s a = some s' → I s')
    {s s' : σ} {as : List α} (hs : I s) (h : exec next s as = some s') : I s' := by
  induction as generalizing s with
  | nil => simpa [← Option.some.inj h] using hs
  | cons a as ih =>
      rw [exec_cons, Option.bind_eq_some_iff] at h
      obtain ⟨s₁, h₁, h₂⟩ := h
      exact ih (hstep s a s₁ hs h₁) h₂

/-- **Invariant rule under a side condition**: steps that meet `C` preserve `I`,
so a run whose steps all meet `C` preserves it. -/
theorem exec_inv_along {I : σ → Prop} {C : σ → α → Prop}
    (hstep : ∀ s a s', I s → C s a → next s a = some s' → I s')
    {s s' : σ} {as : List α} (hs : I s) (hC : Along next C s as)
    (h : exec next s as = some s') : I s' := by
  induction as generalizing s with
  | nil => simpa [← Option.some.inj h] using hs
  | cons a as ih =>
      rw [exec_cons, Option.bind_eq_some_iff] at h
      obtain ⟨s₁, h₁, h₂⟩ := h
      have hrest : Along next C s₁ as := by simpa only [Along, h₁] using hC.2
      exact ih (hstep s a s₁ hs hC.1 h₁) hrest h₂

/-- **Consequence rule**: along a run whose steps all meet `C`, an invariant `I` gives what
`I` and `C` say about each step. -/
theorem Along.of_inv {I : σ → Prop} {C D : σ → α → Prop}
    (hstep : ∀ s a s', I s → C s a → next s a = some s' → I s')
    (hD : ∀ s a, I s → C s a → D s a) {s : σ} {as : List α} (hs : I s)
    (hC : Along next C s as) : Along next D s as := by
  induction as generalizing s with
  | nil => trivial
  | cons a as ih =>
      refine ⟨hD s a hs hC.1, ?_⟩
      have hrest := hC.2
      cases hnext : next s a with
      | none => trivial
      | some s' =>
          rw [hnext] at hrest
          exact ih (hstep s a s' hs hC.1 hnext) hrest

/-- What every step of an invariant's states does, every step of a run does. -/
theorem Along.of_inv_all {I : σ → Prop} {D : σ → α → Prop}
    (hstep : ∀ s a s', I s → next s a = some s' → I s') (hD : ∀ s a, I s → D s a) {s : σ}
    (hs : I s) (as : List α) : Along next D s as := by
  have htrue : Along next (fun _ _ => True) s as := by
    induction as generalizing s with
    | nil => trivial
    | cons a as ih =>
        refine ⟨trivial, ?_⟩
        cases hnext : next s a with
        | none => trivial
        | some s' => exact ih (hstep s a s' hs hnext)
  exact htrue.of_inv (fun s a s' h _ hs => hstep s a s' h hs) (fun s a h _ => hD s a h) hs

/-- **Breaking the side condition**: where a step that does not meet `C` leads into
`D`, and no step leads out of it, a run that breaks `C` ends in `D`. -/
theorem exec_of_not_along {I D : σ → Prop} {C : σ → α → Prop}
    (hstep : ∀ s a s', I s → next s a = some s' → I s')
    (hbreak : ∀ s a s', I s → ¬ C s a → next s a = some s' → D s')
    (hkeep : ∀ s a s', D s → next s a = some s' → D s')
    {s s' : σ} {as : List α} (hs : I s) (hC : ¬ Along next C s as)
    (h : exec next s as = some s') : D s' := by
  induction as generalizing s with
  | nil => exact absurd trivial hC
  | cons a as ih =>
      rw [exec_cons, Option.bind_eq_some_iff] at h
      obtain ⟨s₁, h₁, h₂⟩ := h
      by_cases ha : C s a
      · refine ih (hstep s a s₁ hs h₁) (fun hrest => hC ⟨ha, ?_⟩) h₂
        rw [h₁]
        exact hrest
      · exact exec_inv hkeep (hbreak s a s₁ hs ha h₁) h₂

/-- **Variant rule**: where every step takes its cost off a measure, a run takes the sum. -/
theorem exec_variant {I : σ → Prop} {P : α → Prop} {μ : σ → Nat} {cost : α → Nat}
    (hstep : ∀ s a s', I s → P a → next s a = some s' → I s' ∧ cost a + μ s' ≤ μ s) {s s' : σ}
    {as : List α} (hs : I s) (hP : ∀ a ∈ as, P a) (h : exec next s as = some s') :
    I s' ∧ (as.map cost).sum + μ s' ≤ μ s := by
  induction as generalizing s with
  | nil =>
      obtain rfl := Option.some.inj h
      exact ⟨hs, by simp⟩
  | cons a as ih =>
      rw [exec_cons, Option.bind_eq_some_iff] at h
      obtain ⟨t, ht, hrest⟩ := h
      obtain ⟨hI, hle⟩ := hstep s a t hs (hP a List.mem_cons_self) ht
      obtain ⟨hI', hle'⟩ := ih hI (fun b hb => hP b (List.mem_cons_of_mem a hb)) hrest
      refine ⟨hI', ?_⟩
      rw [List.map_cons, List.sum_cons]
      omega

theorem Reachable.refl (s : σ) : Reachable next s s := ⟨[], rfl⟩

theorem Reachable.head {s s' s'' : σ} {a : α} (h : next s a = some s')
    (h' : Reachable next s' s'') : Reachable next s s'' := by
  obtain ⟨as, has⟩ := h'
  exact ⟨a :: as, by rw [exec_cons, h, Option.bind_some, has]⟩

theorem Reachable.trans {s₀ s s' : σ} (h : Reachable next s₀ s) (h' : Reachable next s s') :
    Reachable next s₀ s' := by
  obtain ⟨as, has⟩ := h
  obtain ⟨bs, hbs⟩ := h'
  exact ⟨as ++ bs, by rw [exec_append, has, Option.bind_some, hbs]⟩

theorem Reachable.inv {I : σ → Prop} (hstep : ∀ s a s', I s → next s a = some s' → I s')
    {s₀ s : σ} (h0 : I s₀) (h : Reachable next s₀ s) : I s := by
  obtain ⟨as, has⟩ := h
  exact exec_inv hstep h0 has

end Partial

end Machine
