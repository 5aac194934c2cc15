import Mathlib

/-!
# CamDriver.Lib.Effects

Programs that change a state and may fail, and what they keep.

A failure does not take back what was changed before it, so the programs are those of
`EStateM`.  `Keeps I m R` says that `m` keeps the invariant `I` however it ends, and
that `R` holds of what it returns; there is a rule for each way to build a program.

Nothing here depends on what the programs do.
-/

namespace Effects

variable {σ ε α β : Type}

/-- `m` keeps `I`, and what it returns meets `R`. -/
def Keeps (I : σ → Prop) (m : EStateM ε σ α) (R : α → Prop) : Prop :=
  ∀ s, I s → match m.run s with
    | .ok a s' => I s' ∧ R a
    | .error _ s' => I s'

/-- `try: ... except`, for the errors that `caught` tells what to do with; the others go
on. -/
def attempt (caught : ε → Option β) (m : EStateM ε σ α) : EStateM ε σ (Except β α) := fun s =>
  match m.run s with
  | .ok a s' => .ok (.ok a) s'
  | .error e s' => match caught e with
    | some b => .ok (.error b) s'
    | none => .error e s'

/-- `try: ... except`, where the state is put in order and the error goes on. -/
def cleanup (f : ε → σ → σ) (m : EStateM ε σ α) : EStateM ε σ α := fun s =>
  match m.run s with
  | .ok a s' => .ok a s'
  | .error e s' => .error e (f e s')

variable {I : σ → Prop} {R : α → Prop}

/-- A weaker result. -/
theorem mono {m : EStateM ε σ α} {R' : α → Prop} (h : Keeps I m R) (hR : ∀ a, R a → R' a) :
    Keeps I m R' := by
  intro s hs
  have kept := h s hs
  split at kept
  · exact ⟨kept.1, hR _ kept.2⟩
  · exact kept

/-- The pure step keeps any invariant. -/
theorem ret {a : α} (h : R a) : Keeps I (pure a : EStateM ε σ α) R := fun _ hs => ⟨hs, h⟩

/-- So does a failure, which leaves the state alone. -/
theorem fail (e : ε) : Keeps I (throw e : EStateM ε σ α) R := fun _ hs => hs

/-- Two steps in sequence, the second from what the first returns. -/
theorem seq {m : EStateM ε σ α} {f : α → EStateM ε σ β} {Q : β → Prop} (hm : Keeps I m R)
    (hf : ∀ a, R a → Keeps I (f a) Q) : Keeps I (m >>= f) Q := by
  intro s hs
  have kept := hm s hs
  simp only [EStateM.run, bind, EStateM.bind] at kept ⊢
  cases hrun : m s with
  | ok a s' =>
      rw [hrun] at kept
      exact hf a kept.2 s' kept.1
  | error e s' =>
      rw [hrun] at kept
      exact kept

/-- What is read off the state. -/
theorem read {f : σ → α} (h : ∀ s, I s → R (f s)) :
    Keeps I (do return f (← get) : EStateM ε σ α) R := fun s hs => ⟨hs, h s hs⟩

/-- To read the state gives one that satisfies the invariant. -/
theorem here : Keeps I (get : EStateM ε σ σ) I := fun _ hs => ⟨hs, hs⟩

/-- To set a state that satisfies it. -/
theorem put {s : σ} (h : I s) : Keeps I (set s : EStateM ε σ PUnit) fun _ => True :=
  fun _ _ => ⟨h, trivial⟩

/-- To apply a function that keeps it. -/
theorem change {f : σ → σ} (h : ∀ s, I s → I (f s)) :
    Keeps I (modify f : EStateM ε σ PUnit) fun _ => True := fun s hs => ⟨h s hs, trivial⟩

/-- A branch keeps it if both arms do. -/
theorem ite {p : Prop} [Decidable p] {m n : EStateM ε σ α} (hm : p → Keeps I m R)
    (hn : ¬ p → Keeps I n R) : Keeps I (if p then m else n) R := by
  split
  · next hp => exact hm hp
  · next hp => exact hn hp

/-- An error that is caught is one more result. -/
theorem tried {caught : ε → Option β} {m : EStateM ε σ α} (h : Keeps I m R) :
    Keeps I (attempt caught m) fun r => ∀ a, r = .ok a → R a := by
  intro s hs
  have kept := h s hs
  simp only [attempt, EStateM.run] at kept ⊢
  cases hrun : m s with
  | ok a s' =>
      rw [hrun] at kept
      refine ⟨kept.1, ?_⟩
      intro a' ha
      cases ha
      exact kept.2
  | error e s' =>
      rw [hrun] at kept
      dsimp only
      cases caught e with
      | some b => exact ⟨kept, fun a ha => by cases ha⟩
      | none => exact kept

/-- A clean-up keeps it where its function does, on either way out. -/
theorem cleaned {f : ε → σ → σ} {m : EStateM ε σ α} (h : Keeps I m R)
    (hf : ∀ e s, I s → I (f e s)) : Keeps I (cleanup f m) R := by
  intro s hs
  have kept := h s hs
  simp only [cleanup, EStateM.run] at kept ⊢
  cases hrun : m s with
  | ok a s' =>
      rw [hrun] at kept
      exact kept
  | error e s' =>
      rw [hrun] at kept
      exact hf e s' kept

/-- A loop over a list: what holds of what it carries holds after every round. -/
theorem loop {f : β → α → EStateM ε σ β} {Q : β → Prop} {as : List α}
    (hf : ∀ a ∈ as, ∀ b, Q b → Keeps I (f b a) Q) {b : β} (hb : Q b) :
    Keeps I (as.foldlM f b) Q := by
  induction as generalizing b with
  | nil => exact ret hb
  | cons a as ih =>
      rw [List.foldlM_cons]
      refine seq (hf a List.mem_cons_self b hb) fun b' hb' => ?_
      exact ih (fun a' ha' => hf a' (List.mem_cons_of_mem _ ha')) hb'

end Effects
