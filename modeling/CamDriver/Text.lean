import Mathlib.Data.List.Basic
import Mathlib.Data.List.DropRight
import CamDriver.Lib.Csv

/-!
# CamDriver.Text

What the source does with short texts: stripping, folding case, looking for a token,
and reading a run of characters off the front.

Case is folded over ASCII only: no other letter folds to one that the source compares
with.
-/

namespace CamDriver

/-- A white space character of `str.strip` and of the pattern `\s`. -/
def isSpace (c : Char) : Bool :=
  let n := c.toNat
  (9 ≤ n && n ≤ 13) || (28 ≤ n && n ≤ 32) || n == 0x85 || n == 0xa0 || n == 0x1680 ||
    (0x2000 ≤ n && n ≤ 0x200a) || n == 0x2028 || n == 0x2029 || n == 0x202f || n == 0x205f ||
    n == 0x3000

/-- `s.strip()`. -/
def strip (text : List Char) : List Char := (text.dropWhile isSpace).rdropWhile isSpace

/-- `s.strip().lower()`. -/
def stripLower (s : String) : List Char :=
  (((s.toList.dropWhile isSpace).reverse.dropWhile isSpace).reverse).map Char.toLower

/-- Decimal digits, in groups with `_` between them. -/
def digits? (text : List Char) : Option Nat :=
  if (text.splitOn '_').all (fun group => group ≠ [] ∧ group.all Char.isDigit) then
    Csv.parseNat (text.filter (· ≠ '_'))
  else none

/-- `int(s)`, where it does not raise. -/
def intOf (text : List Char) : Option Int :=
  match strip text with
  | '-' :: rest => (digits? rest).map fun n => -(n : Int)
  | '+' :: rest => (digits? rest).map fun n => (n : Int)
  | rest => (digits? rest).map fun n => (n : Int)

/-- The text behind a token, if it starts with it. -/
def afterToken (token : String) (text : List Char) : Option (List Char) :=
  if token.toList <+: text then some (text.drop token.toList.length) else none

/-- The run of such characters at the front (a pattern's `[...]+`); `none`: there is
none. -/
def runOf (p : Char → Bool) (text : List Char) : Option (List Char) :=
  match text.takeWhile p with
  | [] => none
  | found => some found

/-- The first place of a text where `f` finds something (`re.search`). -/
def searchFirst {α : Type} (f : List Char → Option α) : List Char → Option α
  | [] => f []
  | c :: text =>
    match f (c :: text) with
    | some found => some found
    | none => searchFirst f text

/-- `token in text`. -/
def isIn (token text : String) : Bool := (searchFirst (afterToken token) text.toList).isSome

end CamDriver
