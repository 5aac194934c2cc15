import Mathlib.Logic.Function.Basic
import CamDriver.Uvc.Assembler
import CamDriver.Uvc.Usbmon

/-!
# CamDriver.Uvc.Bulk

`_feed_bulk`: a bulk payload is assembled from the URBs that carry it before it
is fed.  It ends in a short URB, in a zero-length one, at `max_payload` bytes,
or with every URB whose requested length is not known.
-/

namespace CamDriver.Uvc

/-! ## Peeling payloads -/

/-- What a buffer is cut into: whole payloads, each with its time, and the rest. -/
structure Peeled (α : Type) where
  fed : List (List α × Int)
  rest : List α
  restTs : Int
deriving DecidableEq, Repr

/-- The `while` loop of `_feed_bulk`: cut payloads of `maxPayload` off the front.
Each round removes something, so the buffer's length is fuel enough. -/
def peelLoop (maxPayload : Nat) (ts : Int) : Nat → List α → Int → Peeled α
  | 0, pending, pendingTs => { fed := [], rest := pending, restTs := pendingTs }
  | fuel + 1, pending, pendingTs =>
    if maxPayload ≠ 0 ∧ maxPayload ≤ pending.length then
      let r := peelLoop maxPayload ts fuel (pending.drop maxPayload) ts
      { r with fed := (pending.take maxPayload, pendingTs) :: r.fed }
    else { fed := [], rest := pending, restTs := pendingTs }

def peel (maxPayload : Nat) (ts : Int) (pending : List α) (pendingTs : Int) : Peeled α :=
  peelLoop maxPayload ts pending.length pending pendingTs

theorem peelLoop_of_lt {maxPayload : Nat} {pending : List α} (ts : Int) (fuel : Nat)
    (pendingTs : Int) (h : maxPayload ≠ 0 → pending.length < maxPayload) :
    peelLoop maxPayload ts fuel pending pendingTs =
      { fed := [], rest := pending, restTs := pendingTs } := by
  cases fuel with
  | zero => rfl
  | succ fuel =>
      rw [peelLoop, if_neg]
      rintro ⟨h0, hle⟩
      have hlt := h h0
      omega

/-- Any fuel from the buffer's length on gives the same result. -/
theorem peelLoop_eq_peel (maxPayload : Nat) (ts : Int) (fuel : Nat) (pending : List α)
    (pendingTs : Int) (h : pending.length ≤ fuel) :
    peelLoop maxPayload ts fuel pending pendingTs = peel maxPayload ts pending pendingTs := by
  suffices hfuel : ∀ (f g : Nat) (p : List α) (t : Int), p.length ≤ f → p.length ≤ g →
      peelLoop maxPayload ts f p t = peelLoop maxPayload ts g p t from
    hfuel _ _ _ _ h (Nat.le_refl _)
  intro f
  induction f with
  | zero =>
      intro g p t hf _
      have hp : maxPayload ≠ 0 → p.length < maxPayload := fun h0 => by omega
      rw [peelLoop_of_lt ts 0 t hp, peelLoop_of_lt ts g t hp]
  | succ f ih =>
      intro g p t hf hg
      by_cases hm : maxPayload ≠ 0 ∧ maxPayload ≤ p.length
      · obtain ⟨g, rfl⟩ : ∃ g', g = g' + 1 := ⟨g - 1, by omega⟩
        have hd : (p.drop maxPayload).length < p.length := by
          rw [List.length_drop]
          omega
        simp only [peelLoop, if_pos hm, ih g (p.drop maxPayload) ts (by omega) (by omega)]
      · have hp : maxPayload ≠ 0 → p.length < maxPayload := fun h0 => by omega
        rw [peelLoop_of_lt ts _ t hp, peelLoop_of_lt ts g t hp]

/-- The loop's condition fails: nothing is cut off. -/
theorem peel_of_lt {maxPayload : Nat} {pending : List α} (ts pendingTs : Int)
    (h : maxPayload ≠ 0 → pending.length < maxPayload) :
    peel maxPayload ts pending pendingTs =
      { fed := [], rest := pending, restTs := pendingTs } :=
  peelLoop_of_lt ts _ pendingTs h

/-- One round of the loop. -/
theorem peel_append {maxPayload : Nat} {payload : List α} (hp : payload.length = maxPayload)
    (h0 : maxPayload ≠ 0) (tail : List α) (ts pendingTs : Int) :
    peel maxPayload ts (payload ++ tail) pendingTs =
      { peel maxPayload ts tail ts with
        fed := (payload, pendingTs) :: (peel maxPayload ts tail ts).fed } := by
  have hlen : (payload ++ tail).length = (payload ++ tail).length - 1 + 1 := by
    rw [List.length_append]
    omega
  rw [peel, hlen, peelLoop, if_pos ⟨h0, by rw [List.length_append]; omega⟩,
    List.drop_left' hp, List.take_left' hp,
    peelLoop_eq_peel _ _ _ _ _ (by rw [List.length_append]; omega)]

/-- What the loop leaves is less than a payload. -/
theorem length_rest_peel (maxPayload : Nat) (ts : Int) (pending : List α) (pendingTs : Int)
    (h0 : maxPayload ≠ 0) : (peel maxPayload ts pending pendingTs).rest.length < maxPayload := by
  induction hn : pending.length using Nat.strongRecOn generalizing pending pendingTs with
  | ind n ih =>
      rcases Nat.lt_or_ge pending.length maxPayload with h | h
      · rwa [peel_of_lt _ _ fun _ => h]
      · have hd : (pending.drop maxPayload).length < n := by
          rw [List.length_drop]
          omega
        rw [← List.take_append_drop maxPayload pending,
          peel_append (by rw [List.length_take]; omega) h0]
        exact ih _ hd (pending.drop maxPayload) ts rfl

/-- Nothing is lost and nothing is made up. -/
theorem flatten_peel (maxPayload : Nat) (ts : Int) (pending : List α) (pendingTs : Int) :
    ((peel maxPayload ts pending pendingTs).fed.flatMap Prod.fst) ++
      (peel maxPayload ts pending pendingTs).rest = pending := by
  induction hn : pending.length using Nat.strongRecOn generalizing pending pendingTs with
  | ind n ih =>
      by_cases h0 : maxPayload ≠ 0 ∧ maxPayload ≤ pending.length
      · have hd : (pending.drop maxPayload).length < n := by
          rw [List.length_drop]
          omega
        have hrest := ih _ hd (pending.drop maxPayload) ts rfl
        conv_rhs => rw [← List.take_append_drop maxPayload pending]
        conv_lhs => rw [← List.take_append_drop maxPayload pending]
        rw [peel_append (by rw [List.length_take]; omega) h0.1]
        simp only [List.flatMap_cons, List.append_assoc, hrest]
      · rw [peel_of_lt _ _ fun h => by omega]
        rfl

/-- The loop only looks at lengths. -/
theorem peel_map {α β : Type} (f : α → β) (maxPayload : Nat) (ts : Int) (pending : List α)
    (pendingTs : Int) :
    peel maxPayload ts (pending.map f) pendingTs =
      { fed := (peel maxPayload ts pending pendingTs).fed.map fun p => (p.1.map f, p.2),
        rest := (peel maxPayload ts pending pendingTs).rest.map f,
        restTs := (peel maxPayload ts pending pendingTs).restTs } := by
  simp only [peel, List.length_map]
  generalize pending.length = fuel
  induction fuel generalizing pending pendingTs with
  | zero => rfl
  | succ fuel ih =>
      simp only [peelLoop, List.length_map, ← List.map_drop, ← List.map_take, ih]
      split <;> rfl

/-! ## URBs -/

/-- The bulk half of the extractor: `cont` while a payload is unfinished,
`req` the requested lengths of the submissions in flight. -/
structure BulkState where
  cont : Bool
  pending : List UInt8
  pendingTs : Int
  req : Nat × Nat → Option Nat

/-- `64 * 1024 * 1024`: pending bytes above this are given up. -/
def bulkLimit : Nat := 64 * 1024 * 1024

namespace BulkState

def reset : BulkState := { cont := false, pending := [], pendingTs := 0, req := fun _ => none }

/-- Give the pending bytes up. -/
def clear (s : BulkState) : BulkState := { s with pending := [], cont := false }

/-- `_req_len.pop`. -/
def popReq (s : BulkState) (key : Nat × Nat) : BulkState :=
  { s with req := Function.update s.req key none }

/-- A submission announces the requested length of its URB. -/
def submit (s : BulkState) (key : Nat × Nat) (length : Nat) : BulkState :=
  { s with req := Function.update s.req key (some length) }

/-- `_feed_bulk` for a URB that was captured whole: append, peel, and end the
payload if the URB is short or nothing tells. -/
def append (maxPayload : Nat) (s : BulkState) (u : Urb) (ts : Int) : BulkState × List AsmOp :=
  let req := s.req u.key
  let short := ∃ r ∈ req, u.length < r
  let pending := (if s.cont then s.pending else []) ++ u.data
  let pendingTs := if s.cont then s.pendingTs else ts
  let s := { s.popReq u.key with pending, pendingTs }
  if bulkLimit < pending.length then (s.clear, [.overrun])
  else
    let r := peel maxPayload ts pending pendingTs
    let fed := r.fed.map fun p => .feed p.1 p.2
    let s := { s with pending := r.rest, pendingTs := r.restTs }
    if short ∨ req = none then
      (s.clear, if r.rest = [] then fed else fed ++ [.feed r.rest r.restTs])
    else ({ s with cont := r.rest ≠ [] }, fed)

/-- `_feed_bulk`. -/
def feedBulk (maxPayload : Nat) (s : BulkState) (u : Urb) (ts : Int) : BulkState × List AsmOp :=
  if u.length = 0 then
    ((s.popReq u.key).clear,
      if s.cont ∧ s.pending ≠ [] then [.feed s.pending s.pendingTs] else [])
  else if ¬ u.hasData then ((s.popReq u.key).clear, [.lost])
  else if u.data.length < u.length then (s.clear, [.lost])
  else s.append maxPayload u ts

end BulkState

/-- A bulk record of the endpoint. -/
inductive BulkEvent where
  | submit (key : Nat × Nat) (length : Nat)
  | complete (urb : Urb)
deriving DecidableEq, Repr

/-- One bulk record: a submission is noted, a completion is fed. -/
def bulkStep (maxPayload : Nat) (s : BulkState) : BulkEvent → BulkState × List AsmOp
  | .submit key length => (s.submit key length, [])
  | .complete u => s.feedBulk maxPayload u u.ts

/-- The operations a list of bulk records leads to. -/
def bulkOps (maxPayload : Nat) (s : BulkState) (evs : List BulkEvent) : List AsmOp :=
  (Machine.history (bulkStep maxPayload) s evs).flatMap Prod.snd

/-- The bulk state after a list of records. -/
def bulkFinal (maxPayload : Nat) (s : BulkState) (evs : List BulkEvent) : BulkState :=
  Machine.final (bulkStep maxPayload) s evs

theorem bulkOps_cons (maxPayload : Nat) (s : BulkState) (ev : BulkEvent) (evs : List BulkEvent) :
    bulkOps maxPayload s (ev :: evs) =
      (bulkStep maxPayload s ev).2 ++ bulkOps maxPayload (bulkStep maxPayload s ev).1 evs := by
  simp [bulkOps, Machine.history]

theorem bulkFinal_cons (maxPayload : Nat) (s : BulkState) (ev : BulkEvent)
    (evs : List BulkEvent) :
    bulkFinal maxPayload s (ev :: evs) =
      bulkFinal maxPayload (bulkStep maxPayload s ev).1 evs := rfl

end CamDriver.Uvc
