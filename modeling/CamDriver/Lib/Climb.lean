import Mathlib.Data.List.Forall2
import Mathlib.Order.SuccPred.Basic

/-!
# CamDriver.Lib.Climb

A list made strictly increasing: each element is kept where it is above those before it, and
is lifted right above the last one otherwise.

`climb_le` says that no strictly increasing list above the first one is lower anywhere.
-/

namespace Climb

variable {α : Type*} [LinearOrder α] [SuccOrder α]

/-- The element, or what is right above the last one. -/
def lift (last : Option α) (x : α) : α :=
  match last with
  | some l => max x (Order.succ l)
  | none => x

/-- The list behind the last element. -/
def climb (last : Option α) : List α → List α
  | [] => []
  | x :: xs => lift last x :: climb (some (lift last x)) xs

variable {last : Option α} {xs ys : List α}

/-- A value is lifted, never lowered. -/
theorem le_lift (last : Option α) (x : α) : x ≤ lift last x := by
  cases last with
  | none => exact le_rfl
  | some l => exact le_max_left _ _

/-- No further than to the next value above the last. -/
theorem lift_le {x y : α} (hx : x ≤ y) (hlast : ∀ l ∈ last, l < y) : lift last x ≤ y := by
  cases last with
  | none => exact hx
  | some l => exact max_le hx (Order.succ_le_of_lt (hlast l rfl))

/-- Each value of a climb is at least the one it stands for. -/
theorem forall₂_climb (last : Option α) (xs : List α) :
    List.Forall₂ (· ≤ ·) xs (climb last xs) := by
  induction xs generalizing last with
  | nil => exact .nil
  | cons x xs ih => exact .cons (le_lift last x) (ih _)

/-- One more element behind the list. -/
theorem climb_concat (last : Option α) (xs : List α) (x : α) :
    climb last (xs ++ [x]) =
      climb last xs ++ [lift ((climb last xs).getLast?.or last) x] := by
  induction xs generalizing last with
  | nil => rfl
  | cons y xs ih =>
      have hlast : (lift last y :: climb (some (lift last y)) xs).getLast?.or last =
          (climb (some (lift last y)) xs).getLast?.or (some (lift last y)) := by
        rw [List.getLast?_cons]
        cases (climb (some (lift last y)) xs).getLast? <;> rfl
      rw [List.cons_append, climb, climb, ih, hlast, List.cons_append]

section NoMaxOrder

variable [NoMaxOrder α]

/-- A lifted value lies above the last. -/
theorem lt_lift {l : α} (x : α) : l < lift (some l) x :=
  lt_of_lt_of_le (Order.lt_succ l) (le_max_right _ _)

/-- So does every value of a climb. -/
theorem lt_of_mem_climb {l y : α} (h : y ∈ climb (some l) xs) : l < y := by
  induction xs generalizing l with
  | nil => cases h
  | cons x xs ih =>
      rcases List.mem_cons.1 h with rfl | h
      · exact lt_lift x
      · exact (lt_lift x).trans (ih h)

/-- A climb increases strictly. -/
theorem pairwise_climb (last : Option α) (xs : List α) : (climb last xs).Pairwise (· < ·) := by
  induction xs generalizing last with
  | nil => exact .nil
  | cons x xs ih => exact .cons (fun y hy => lt_of_mem_climb hy) (ih _)

end NoMaxOrder

/-- **The climb is the lowest**: no strictly increasing list above the first one is lower. -/
theorem climb_le (hlast : ∀ l ∈ last, ∀ y ∈ ys, l < y) (hys : ys.Pairwise (· < ·))
    (h : List.Forall₂ (· ≤ ·) xs ys) : List.Forall₂ (· ≤ ·) (climb last xs) ys := by
  induction h generalizing last with
  | nil => exact .nil
  | cons hxy _ ih =>
      obtain ⟨hfirst, hrest⟩ := List.pairwise_cons.1 hys
      have hle := lift_le hxy fun l hl => hlast l hl _ List.mem_cons_self
      refine .cons hle (ih ?_ hrest)
      rintro l ⟨⟩ y hy
      exact lt_of_le_of_lt hle (hfirst y hy)

end Climb
