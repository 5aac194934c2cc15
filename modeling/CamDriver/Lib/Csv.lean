import Mathlib.Data.List.Basic

/-!
# CamDriver.Lib.Csv

Comma-separated text, as far as it needs no quoting: a *plain* field has no
separator, line end or quote.  `line` is the text of a row, `readRows` reads
rows back (blank lines are skipped), and `parseInt` reads back the decimal
`intText`.

`readRows_lines` is the round trip: reading the lines of plain rows gives the
rows.
-/

namespace Csv

/-- Text, one character at a time. -/
abbrev Text := List Char

/-! ## Rows and lines -/

/-- A character that a field can hold without quoting. -/
def PlainChar (c : Char) : Prop := c ≠ ',' ∧ c ≠ '\r' ∧ c ≠ '\n' ∧ c ≠ '"'

instance (c : Char) : Decidable (PlainChar c) := inferInstanceAs (Decidable (_ ∧ _))

/-- A field that needs no quoting. -/
def Plain (field : Text) : Prop := ∀ c ∈ field, PlainChar c

instance (field : Text) : Decidable (Plain field) := List.decidableBAll _ field

/-- A row of plain fields that is not a blank line. -/
def PlainRow (row : List Text) : Prop := (∀ field ∈ row, Plain field) ∧ row ≠ [] ∧ row ≠ [[]]

instance (row : List Text) : Decidable (PlainRow row) := inferInstanceAs (Decidable (_ ∧ _))

/-- The line of a row: its fields, separated by commas, and the line end. -/
def line : List Text → Text
  | [] => ['\r', '\n']
  | [field] => field ++ ['\r', '\n']
  | field :: row => field ++ ',' :: line row

/-- The end of a line; a blank line is no row. -/
def endRow (row : List Text) (field : Text) : List (List Text) :=
  if row = [] ∧ field = [] then [] else [row ++ [field]]

/-- Read rows: `row` holds the finished fields of the current line, `field` the
characters of its last one. -/
def readFrom (row : List Text) (field : Text) : Text → List (List Text)
  | [] => endRow row field
  | c :: cs =>
    if c = ',' then readFrom (row ++ [field]) [] cs
    else if c = '\r' ∨ c = '\n' then endRow row field ++ readFrom [] [] cs
    else readFrom row (field ++ [c]) cs

/-- The rows of a text. -/
def readRows (text : Text) : List (List Text) := readFrom [] [] text

@[simp] theorem readFrom_comma (row : List Text) (field cs : Text) :
    readFrom row field (',' :: cs) = readFrom (row ++ [field]) [] cs := by
  simp [readFrom]

/-- A line end finishes the row, and its second character is a blank line. -/
@[simp] theorem readFrom_lineEnd (row : List Text) (field cs : Text) :
    readFrom row field ('\r' :: '\n' :: cs) = endRow row field ++ readRows cs := by
  simp [readFrom, endRow, readRows]

/-- Plain characters go into the current field. -/
theorem readFrom_plain (row : List Text) (acc : Text) {field : Text} (h : Plain field)
    (cs : Text) : readFrom row acc (field ++ cs) = readFrom row (acc ++ field) cs := by
  induction field generalizing acc with
  | nil => simp
  | cons c field ih =>
      obtain ⟨hcomma, hcr, hlf, -⟩ := h c List.mem_cons_self
      have hrest := ih (acc ++ [c]) fun d hd => h d (List.mem_cons_of_mem _ hd)
      simp only [List.cons_append, readFrom, hcomma, hcr, hlf, or_self, if_false]
      rw [hrest, List.append_assoc, List.singleton_append]

/-- Reading a line adds its row to the fields already read. -/
theorem readFrom_line {row : List Text} (hrow : ∀ field ∈ row, Plain field) (hne : row ≠ [])
    (done : List Text) (hblank : done ≠ [] ∨ row ≠ [[]]) (cs : Text) :
    readFrom done [] (line row ++ cs) = (done ++ row) :: readRows cs := by
  induction row generalizing done with
  | nil => exact absurd rfl hne
  | cons field row ih =>
      have hfield := hrow field List.mem_cons_self
      cases row with
      | nil =>
          have hnot : ¬ (done = [] ∧ field = []) := by
            rintro ⟨hd, hf⟩
            rcases hblank with h | h
            · exact h hd
            · exact h (by rw [hf])
          rw [line, List.append_assoc, readFrom_plain _ _ hfield]
          simp [endRow, hnot]
      | cons field' row =>
          have hrest := ih (fun f hf => hrow f (List.mem_cons_of_mem _ hf))
            (List.cons_ne_nil _ _) (done ++ [field]) (.inl (by simp))
          rw [line, List.append_assoc, readFrom_plain _ _ hfield, List.cons_append, readFrom_comma,
            List.nil_append, hrest, List.append_assoc, List.singleton_append]
          exact List.cons_ne_nil _ _

/-- **Round trip**: the lines of plain rows read back as the rows. -/
theorem readRows_lines {rows : List (List Text)} (h : ∀ row ∈ rows, PlainRow row) :
    readRows (rows.flatMap line) = rows := by
  induction rows with
  | nil => rfl
  | cons row rows ih =>
      obtain ⟨hplain, hne, hblank⟩ := h row List.mem_cons_self
      rw [List.flatMap_cons, readRows, readFrom_line hplain hne [] (.inr hblank), List.nil_append,
        ih fun r hr => h r (List.mem_cons_of_mem _ hr)]

/-! ## Decimal integers -/

/-- The decimal text of a natural number. -/
def natText (n : Nat) : Text := Nat.toDigits 10 n

/-- The decimal text of an integer. -/
def intText : Int → Text
  | .ofNat n => natText n
  | .negSucc n => '-' :: natText (n + 1)

/-- A nonempty string of decimal digits. -/
def parseNat (t : Text) : Option Nat :=
  if t ≠ [] ∧ t.all Char.isDigit then some (Nat.ofDigitChars 10 t 0) else none

/-- Decimal digits with an optional sign. -/
def parseInt : Text → Option Int
  | '-' :: t => (parseNat t).map fun n => -(n : Int)
  | '+' :: t => (parseNat t).map fun n => (n : Int)
  | t => (parseNat t).map fun n => (n : Int)

theorem isDigit_of_mem_natText {n : Nat} {c : Char} (h : c ∈ natText n) : c.isDigit :=
  Nat.isDigit_of_mem_toDigits (by decide) (by decide) h

@[simp] theorem parseNat_natText (n : Nat) : parseNat (natText n) = some n := by
  have hne : natText n ≠ [] := Nat.toDigits_ne_nil
  have hall : (natText n).all Char.isDigit :=
    List.all_eq_true.mpr fun c hc => isDigit_of_mem_natText hc
  rw [parseNat, if_pos ⟨hne, hall⟩, natText, Nat.ofDigitChars_ten_toDigits]

theorem plainChar_of_isDigit {c : Char} (h : c.isDigit) : PlainChar c := by
  refine ⟨?_, ?_, ?_, ?_⟩ <;> rintro rfl <;> exact absurd h (by decide)

theorem plain_natText (n : Nat) : Plain (natText n) :=
  fun _ hc => plainChar_of_isDigit (isDigit_of_mem_natText hc)

theorem plain_intText (i : Int) : Plain (intText i) := by
  cases i with
  | ofNat n => exact plain_natText n
  | negSucc n =>
      intro c hc
      rcases List.mem_cons.mp hc with rfl | hc
      · decide
      · exact plain_natText _ c hc

theorem intText_ne_nil (i : Int) : intText i ≠ [] := by
  cases i with
  | ofNat n => exact Nat.toDigits_ne_nil
  | negSucc n => exact List.cons_ne_nil _ _

/-- **Round trip**: the decimal text of an integer reads back. -/
@[simp] theorem parseInt_intText (i : Int) : parseInt (intText i) = some i := by
  cases i with
  | negSucc n => simp [intText, parseInt, Int.negSucc_eq]
  | ofNat n =>
      obtain ⟨c, t, ht⟩ := List.exists_cons_of_ne_nil
        (Nat.toDigits_ne_nil : Nat.toDigits 10 n ≠ [])
      have hdigit : c.isDigit := isDigit_of_mem_natText (show c ∈ natText n by simp [natText, ht])
      have hminus : c ≠ '-' := by rintro rfl; exact absurd hdigit (by decide)
      have hplus : c ≠ '+' := by rintro rfl; exact absurd hdigit (by decide)
      have hparse : parseNat (c :: t) = some n := ht ▸ parseNat_natText n
      have htext : intText (.ofNat n) = c :: t := ht
      rw [htext, parseInt.eq_def]
      split
      · exact absurd (List.cons.inj ‹_›).1 hminus
      · exact absurd (List.cons.inj ‹_›).1 hplus
      · simp [hparse]

end Csv
