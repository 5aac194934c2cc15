import Mathlib.Data.List.Induction
import Mathlib.Order.Basic

/-!
# CamDriver.Lib.Budget

A budget of `limit` tries that some events refill.  Each event takes one try, a refilling one
out of a full budget; the event that finds none left is the last one (`none`).

`spent_eq_none_iff` says what the first event past the limit finds: none left, just if no event
after the first has refilled.
-/

namespace Budget

variable (limit : Nat)

/-- The tries used after one more event. -/
def spend : Option Nat → Bool → Option Nat
  | none, _ => none
  | some used, refills =>
    let used := if refills then 0 else used
    if limit ≤ used then none else some (used + 1)

/-- The tries used after a list of events. -/
def spent (events : List Bool) : Option Nat := events.foldl (spend limit) (some 0)

@[simp] theorem spent_nil : spent limit [] = some 0 := rfl

theorem spent_concat (events : List Bool) (refills : Bool) :
    spent limit (events ++ [refills]) = spend limit (spent limit events) refills := by
  simp [spent]

/-- Once there is none left, there is none left. -/
theorem spent_append_of_none {events : List Bool} (h : spent limit events = none)
    (more : List Bool) : spent limit (events ++ more) = none := by
  induction more using List.reverseRecOn with
  | nil => rwa [List.append_nil]
  | append_singleton more refills ih => rw [← List.append_assoc, spent_concat, ih, spend]

theorem tail_concat {events : List Bool} (refills : Bool) (h : events ≠ []) :
    (events ++ [refills]).tail = events.tail ++ [refills] :=
  List.tail_append_of_ne_nil h

/-- Whether an event finds all tries that the ones before it could take in use. -/
theorem used_eq_length_iff {events : List Bool} {used : Nat} (hused : used ≤ events.length)
    (hall : used = events.length ↔ ∀ r ∈ events.tail, r = false) (refills : Bool) :
    (if refills then 0 else used) = events.length ↔
      ∀ r ∈ (events ++ [refills]).tail, r = false := by
  by_cases hnil : events = []
  · subst hnil
    have hzero : used = 0 := Nat.le_zero.mp hused
    simp [hzero]
  · have hpos : 0 < events.length := List.length_pos_iff.mpr hnil
    rw [tail_concat refills hnil]
    cases refills with
    | false => simp [hall]
    | true => simpa using (Nat.ne_of_lt hpos)

/-- Up to the limit there are tries left, and all that were taken are in use just if no event
after the first has refilled. -/
theorem spent_of_length_le {events : List Bool} (h : events.length ≤ limit) :
    ∃ used, spent limit events = some used ∧ used ≤ events.length ∧
      (used = events.length ↔ ∀ r ∈ events.tail, r = false) := by
  induction events using List.reverseRecOn with
  | nil => exact ⟨0, rfl, Nat.le_refl 0, by simp⟩
  | append_singleton events refills ih =>
      rw [List.length_append, List.length_singleton] at h
      obtain ⟨used, hspent, hle, hall⟩ := ih (by omega)
      have hused : (if refills then 0 else used) ≤ used := by split <;> omega
      refine ⟨(if refills then 0 else used) + 1, ?_, ?_, ?_⟩
      · rw [spent_concat, hspent, spend]
        exact if_neg (by omega)
      · rw [List.length_append, List.length_singleton]
        omega
      · rw [List.length_append, List.length_singleton, Nat.add_right_cancel_iff]
        exact used_eq_length_iff hle hall refills

/-- The first event past the limit finds none left just if no event after the first has
refilled. -/
theorem spent_eq_none_iff {events : List Bool} (h : events.length = limit + 1) :
    spent limit events = none ↔ ∀ r ∈ events.tail, r = false := by
  induction events using List.reverseRecOn with
  | nil => simp at h
  | append_singleton events refills =>
      rw [List.length_append, List.length_singleton, Nat.add_right_cancel_iff] at h
      obtain ⟨used, hspent, hle, hall⟩ := spent_of_length_le limit (Nat.le_of_eq h)
      have hused : (if refills then 0 else used) ≤ used := by split <;> omega
      rw [← used_eq_length_iff hle hall refills, spent_concat, hspent, spend]
      simp only [ite_eq_left_iff, reduceCtorEq, imp_false, not_not]
      omega

end Budget
