import Mathlib.Data.List.Induction
import Mathlib.Data.List.MinMax
import Mathlib.Order.Bounds.Basic
import Mathlib.Order.Defs.LinearOrder

/-!
# CamDriver.Lib.Extremes

The first of the greatest elements of a list: what is left when each element is compared with
the one kept so far, and takes its place only if it is greater.  And the least value of a list
that grows.

Nothing here depends on what the elements are.
-/

namespace Extremes

variable {α β : Type*} [LinearOrder β] (f : α → β)

/-- The one kept so far, or a greater one. -/
def keep (kept a : α) : α := if f kept < f a then a else kept

/-- The first of the greatest elements. -/
def FirstMax (xs : List α) (m : α) : Prop :=
  ∃ before after, xs = before ++ m :: after ∧ (∀ x ∈ before, f x < f m) ∧ ∀ x ∈ after, f x ≤ f m

variable {f}

theorem FirstMax.mem {xs : List α} {m : α} (h : FirstMax f xs m) : m ∈ xs := by
  obtain ⟨before, after, rfl, -, -⟩ := h
  simp

theorem FirstMax.le {xs : List α} {m x : α} (h : FirstMax f xs m) (hx : x ∈ xs) : f x ≤ f m := by
  obtain ⟨before, after, rfl, hbefore, hafter⟩ := h
  rw [List.mem_append, List.mem_cons] at hx
  obtain hx | rfl | hx := hx
  · exact (hbefore x hx).le
  · exact le_rfl
  · exact hafter x hx

/-- The greatest value, as Mathlib has it. -/
theorem FirstMax.isGreatest {xs : List α} {m : α} (h : FirstMax f xs m) :
    IsGreatest {y | ∃ x ∈ xs, f x = y} (f m) := by
  refine ⟨⟨m, h.mem, rfl⟩, ?_⟩
  rintro y ⟨x, hx, rfl⟩
  exact h.le hx

/-- One more element behind the others. -/
theorem FirstMax.concat {xs : List α} {m : α} (h : FirstMax f xs m) (a : α) :
    FirstMax f (xs ++ [a]) (keep f m a) := by
  rw [keep]
  split
  · next hlt =>
      exact ⟨xs, [], rfl, fun x hx => (h.le hx).trans_lt hlt, nofun⟩
  · next hle =>
      obtain ⟨before, after, rfl, hbefore, hafter⟩ := h
      refine ⟨before, after ++ [a], by simp, hbefore, ?_⟩
      intro x hx
      rw [List.mem_append, List.mem_singleton] at hx
      obtain hx | rfl := hx
      · exact hafter x hx
      · exact not_lt.1 hle

theorem firstMax_singleton (a : α) : FirstMax f [a] a := ⟨[], [], rfl, nofun, nofun⟩

/-- Keeping the greater one finds the first of the greatest. -/
theorem firstMax_foldl (a : α) (xs : List α) : FirstMax f (a :: xs) (xs.foldl (keep f) a) := by
  induction xs using List.reverseRecOn with
  | nil => exact firstMax_singleton a
  | append_singleton xs x ih =>
      rw [List.foldl_append, ← List.cons_append]
      exact ih.concat x

/-! ## The least so far -/

/-- The least of the values, `z` where there are none. -/
def least (z : β) (xs : List β) : β := xs.minimum.untopD z

variable {z a : β} {xs ys : List β}

theorem minimum_eq_least (h : xs ≠ []) : xs.minimum = ((least z xs : β) : WithTop β) := by
  obtain ⟨m, hm⟩ := WithTop.ne_top_iff_exists.1 (mt List.minimum_eq_top.1 h)
  rw [least, ← hm, WithTop.untopD_coe]

theorem least_mem (h : xs ≠ []) : least z xs ∈ xs := List.minimum_mem (minimum_eq_least h)

theorem least_le (ha : a ∈ xs) : least z xs ≤ a :=
  List.minimum_le_of_mem ha (minimum_eq_least (List.ne_nil_of_mem ha))

/-- What comes in can only lower it. -/
theorem least_append_le (h : xs ≠ []) (ys : List β) : least z (xs ++ ys) ≤ least z xs :=
  least_le (List.mem_append_left ys (least_mem h))

/-- What is above it leaves it alone. -/
theorem least_append_of_le (h : xs ≠ []) (hys : ∀ a ∈ ys, least z xs ≤ a) :
    least z (xs ++ ys) = least z xs := by
  refine le_antisymm (least_append_le h ys) ?_
  obtain hmem | hmem :=
    List.mem_append.1 (least_mem (z := z) (List.append_ne_nil_of_left_ne_nil h ys))
  · exact least_le hmem
  · exact hys _ hmem

theorem least_concat_of_lt (h : ∀ x ∈ xs, a ≤ x) : least z (xs ++ [a]) = a := by
  have hne : xs ++ [a] ≠ [] := by simp
  refine le_antisymm (least_le (by simp)) ?_
  obtain hmem | hmem := List.mem_append.1 (least_mem (z := z) hne)
  · exact h _ hmem
  · exact (List.mem_singleton.1 hmem).ge

end Extremes
