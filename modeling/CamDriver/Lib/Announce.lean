import Mathlib.Data.List.Basic

/-!
# CamDriver.Lib.Announce

Declarations that are announced to others one by one, and withdrawn one by one.

A log tells what happened on the wire; what is live after it is computed.  Some
declarations *need* others: whoever sees one of them relies on the others being there.
A log is *guarded* if after every prefix of it, whatever is live has what it needs, apart
from what was left behind: a declaration whose withdrawal failed, or which its owner had
not noted down yet when it withdrew all it knew of.

`alwaysGuarded_declared` is the rule for declaring, which an order that is `bottomUp` can
always use; `alwaysGuarded_withdrawAll` is the one for withdrawing a list whose order is
`TopDown`, whichever of the withdrawals fail.

Nothing here depends on what is declared.
-/

namespace Announce

variable {δ : Type*} [DecidableEq δ]

/-- What happens on the wire, with the number of the session. -/
inductive WireEvent (δ : Type*) where
  | declared (s : Nat) (d : δ)
  | withdrawn (s : Nat) (d : δ)
  /-- a withdrawal that failed -/
  | refused (s : Nat) (d : δ)
  /-- everything was withdrawn that was known of, and this was not -/
  | missed (s : Nat) (d : δ)
  | closed (s : Nat)
  /-- closing the session failed -/
  | unclosed (s : Nat)
deriving DecidableEq, Repr

/-- What one event does to the declarations that are live. -/
def WireEvent.next (live : List (Nat × δ)) : WireEvent δ → List (Nat × δ)
  | .declared s d => live ++ [(s, d)]
  | .withdrawn s d => live.filter (· ≠ (s, d))
  | .closed s => live.filter (·.1 ≠ s)
  | .refused _ _ | .missed _ _ | .unclosed _ => live

/-- What is live after a log. -/
def live (log : List (WireEvent δ)) : List (Nat × δ) := log.foldl WireEvent.next []

omit [DecidableEq δ] in
/-- A declaration that is left behind. -/
def LeftBehind (log : List (WireEvent δ)) (h : Nat × δ) : Prop :=
  .refused h.1 h.2 ∈ log ∨ .missed h.1 h.2 ∈ log

/-- Whatever is live has what it needs, or is left behind. -/
def Guarded (needs : δ → List δ) (log : List (WireEvent δ)) : Prop :=
  ∀ h ∈ live log, LeftBehind log h ∨ ∀ e ∈ needs h.2, (h.1, e) ∈ live log

/-- At every moment. -/
def AlwaysGuarded (needs : δ → List δ) (log : List (WireEvent δ)) : Prop :=
  ∀ l, l <+: log → Guarded needs l

@[simp] theorem live_nil : live ([] : List (WireEvent δ)) = [] := rfl

/-- What is live after one event more. -/
theorem live_append (log : List (WireEvent δ)) (event : WireEvent δ) :
    live (log ++ [event]) = event.next (live log) := by
  simp [live]

omit [DecidableEq δ] in
/-- What a session has left behind stays so. -/
theorem LeftBehind.append {log : List (WireEvent δ)} {h : Nat × δ} (hleft : LeftBehind log h)
    (more : List (WireEvent δ)) : LeftBehind (log ++ more) h :=
  hleft.imp (List.mem_append_left _) (List.mem_append_left _)

theorem alwaysGuarded_nil (needs : δ → List δ) : AlwaysGuarded needs [] := by
  intro l hl h hmem
  rw [List.prefix_nil.1 hl] at hmem
  simp at hmem

/-- What is guarded at every moment is so now. -/
theorem AlwaysGuarded.now {needs : δ → List δ} {log : List (WireEvent δ)}
    (h : AlwaysGuarded needs log) : Guarded needs log := h log (List.prefix_refl log)

/-- One event more that leaves the network guarded. -/
theorem AlwaysGuarded.snoc {needs : δ → List δ} {log : List (WireEvent δ)} {event : WireEvent δ}
    (h : AlwaysGuarded needs log) (hnow : Guarded needs (log ++ [event])) :
    AlwaysGuarded needs (log ++ [event]) := by
  intro l hl
  rcases List.prefix_concat_iff.1 hl with rfl | hl
  · exact hnow
  · exact h l hl

/-- An order of declarations in which everything comes after what it needs; `done` is
there already. -/
def bottomUp (needs : δ → List δ) (done : List δ) : List δ → Bool
  | [] => true
  | d :: ds => (needs d).all (· ∈ done) && bottomUp needs (done ++ [d]) ds

/-- In a bottom-up order each declaration comes behind those that it needs. -/
theorem mem_of_bottomUp {needs : δ → List δ} {done before after : List δ} {d : δ}
    (h : bottomUp needs done (before ++ d :: after) = true) {e : δ} (he : e ∈ needs d) :
    e ∈ done ++ before := by
  induction before generalizing done with
  | nil =>
      simp only [List.nil_append, bottomUp, Bool.and_eq_true, List.all_eq_true] at h
      simpa using h.1 e he
  | cons b before ih =>
      simp only [List.cons_append, bottomUp, Bool.and_eq_true] at h
      simpa using ih h.2

/-! ## One event -/

/-- An event that leaves alone what is live. -/
theorem AlwaysGuarded.same {needs : δ → List δ} {log : List (WireEvent δ)} {event : WireEvent δ}
    (h : AlwaysGuarded needs log) (hsame : event.next (live log) = live log) :
    AlwaysGuarded needs (log ++ [event]) := by
  apply h.snoc
  intro d hd
  rw [live_append, hsame] at hd ⊢
  exact (h.now d hd).imp (fun hleft => hleft.append _) id

/-- Declaring something whose needs are live. -/
theorem alwaysGuarded_declared {needs : δ → List δ} {log : List (WireEvent δ)} {s : Nat} {d : δ}
    (h : AlwaysGuarded needs log) (hneeds : ∀ e ∈ needs d, (s, e) ∈ live log) :
    AlwaysGuarded needs (log ++ [.declared s d]) := by
  apply h.snoc
  intro x hx
  simp only [live_append, WireEvent.next, List.mem_append, List.mem_singleton] at hx ⊢
  rcases hx with hx | rfl
  · exact (h.now x hx).imp (fun hleft => hleft.append _) fun hlive e he => .inl (hlive e he)
  · exact .inr fun e he => .inl (hneeds e he)

/-- Closing a session takes a declaration and what it needs away together. -/
theorem alwaysGuarded_closed {needs : δ → List δ} {log : List (WireEvent δ)} (s : Nat)
    (h : AlwaysGuarded needs log) : AlwaysGuarded needs (log ++ [.closed s]) := by
  apply h.snoc
  intro x hx
  simp only [live_append, WireEvent.next, List.mem_filter, decide_not, Bool.not_eq_true',
    decide_eq_false_iff_not] at hx ⊢
  exact (h.now x hx.1).imp (fun hleft => hleft.append _) fun hlive e he => ⟨hlive e he, hx.2⟩

/-- Withdrawing something, where whatever needs it is left behind. -/
theorem alwaysGuarded_withdrawn {needs : δ → List δ} {log : List (WireEvent δ)} {s : Nat} {d : δ}
    (h : AlwaysGuarded needs log)
    (hneeded : ∀ x, d ∈ needs x → x ≠ d → (s, x) ∈ live log → LeftBehind log (s, x)) :
    AlwaysGuarded needs (log ++ [.withdrawn s d]) := by
  apply h.snoc
  intro x hx
  simp only [live_append, WireEvent.next, List.mem_filter, ne_eq, decide_not, Bool.not_eq_true',
    decide_eq_false_iff_not] at hx ⊢
  rcases h.now x hx.1 with hleft | hlive
  · exact .inl (hleft.append _)
  · by_cases hd : x.1 = s ∧ d ∈ needs x.2
    · obtain ⟨rfl, hneed⟩ := hd
      have hne : x.2 ≠ d := fun heq => hx.2 (by rw [← heq])
      exact .inl ((hneeded x.2 hneed hne hx.1).append _)
    · refine .inr fun e he => ⟨hlive e he, ?_⟩
      rintro heq
      cases heq
      exact hd ⟨rfl, he⟩

/-! ## Withdrawing everything -/

/-- One withdrawal; `refuses` tells whether it fails. -/
def withdraw (refuses : Nat × δ → Bool) (h : Nat × δ) : WireEvent δ :=
  if refuses h then .refused h.1 h.2 else .withdrawn h.1 h.2

/-- Withdraws one after the other, and goes on after a failure. -/
def withdrawAll (refuses : Nat × δ → Bool) (hs : List (Nat × δ)) : List (WireEvent δ) :=
  hs.map (withdraw refuses)

omit [DecidableEq δ] in
/-- An order of withdrawals in which nothing goes that a later one needs. -/
def TopDown (needs : δ → List δ) (hs : List (Nat × δ)) : Prop :=
  hs.Pairwise fun h h' => h.2 ∉ needs h'.2

/-- A withdrawal takes one declaration away, unless it is refused. -/
theorem mem_live_withdraw {refuses : Nat × δ → Bool} {log : List (WireEvent δ)} {h x : Nat × δ} :
    x ∈ live (log ++ [withdraw refuses h]) ↔ x ∈ live log ∧ (x = h → refuses h = true) := by
  rw [live_append]
  unfold withdraw
  split <;> simp_all [WireEvent.next]

/-- **Withdrawing in the right order** guards every moment of it: all that is live of the
session, or left behind already, is among what is withdrawn. -/
theorem alwaysGuarded_withdrawAll {needs : δ → List δ} (refuses : Nat × δ → Bool)
    {hs : List (Nat × δ)} (horder : TopDown needs hs) {log : List (WireEvent δ)}
    (h : AlwaysGuarded needs log)
    (hall : ∀ d ∈ hs, ∀ x, (d.1, x) ∈ live log → LeftBehind log (d.1, x) ∨ (d.1, x) ∈ hs) :
    AlwaysGuarded needs (log ++ withdrawAll refuses hs) := by
  induction hs generalizing log with
  | nil => simpa [withdrawAll] using h
  | cons d hs ih =>
      obtain ⟨hfirst, hrest⟩ := List.pairwise_cons.1 horder
      have hone : AlwaysGuarded needs (log ++ [withdraw refuses d]) := by
        unfold withdraw
        split
        · exact h.same rfl
        · refine alwaysGuarded_withdrawn h fun x hneed hne hlive => ?_
          rcases hall d List.mem_cons_self x hlive with hleft | hmem
          · exact hleft
          · rcases List.mem_cons.1 hmem with heq | hmem
            · exact absurd (congrArg Prod.snd heq) hne
            · exact absurd hneed (hfirst _ hmem)
      have htail := ih hrest hone fun e he x hlive => by
        rw [mem_live_withdraw] at hlive
        rcases hall e (List.mem_cons_of_mem _ he) x hlive.1 with hleft | hmem
        · exact .inl (hleft.append _)
        · rcases List.mem_cons.1 hmem with heq | hmem
          · have hrefused := hlive.2 heq
            subst heq
            exact .inl (.inl (by simp [withdraw, hrefused]))
          · exact .inr hmem
      simpa [withdrawAll, List.append_assoc] using htail

/-- What withdrawing leaves live: what it did not try, or what was refused. -/
theorem mem_live_withdrawAll {refuses : Nat × δ → Bool} {hs : List (Nat × δ)}
    {log : List (WireEvent δ)} {x : Nat × δ} :
    x ∈ live (log ++ withdrawAll refuses hs) ↔ x ∈ live log ∧ (x ∈ hs → refuses x = true) := by
  induction hs generalizing log with
  | nil => simp [withdrawAll]
  | cons d hs ih =>
      have hsplit : log ++ withdrawAll refuses (d :: hs) =
          (log ++ [withdraw refuses d]) ++ withdrawAll refuses hs := by
        simp [withdrawAll]
      rw [hsplit, ih, mem_live_withdraw, and_assoc, List.mem_cons]
      constructor
      · rintro ⟨hlive, hd, hhs⟩
        exact ⟨hlive, fun hx => hx.elim (fun heq => heq ▸ hd heq) hhs⟩
      · rintro ⟨hlive, hx⟩
        exact ⟨hlive, fun heq => heq ▸ hx (.inl heq), fun hmem => hx (.inr hmem)⟩

omit [DecidableEq δ] in
/-- A refusal is in the log. -/
theorem refused_mem_withdrawAll {refuses : Nat × δ → Bool} {hs : List (Nat × δ)} {x : Nat × δ}
    (hx : x ∈ hs) (hrefused : refuses x = true) : .refused x.1 x.2 ∈ withdrawAll refuses hs :=
  List.mem_map.2 ⟨x, hx, by simp [withdraw, hrefused]⟩

end Announce
