import BoxPuzzle.Text.Blank

/-!
# Whole numbers in decimal

A numeral is an optional single `+` followed by one or more ASCII digits; leading zeros are
allowed. Numbers are read against an upper limit and written without sign or leading zeros.

* `NumeralError`, `NumeralError.message`: why a text is no numeral;
* `readDigits`, `readNumeral`: reading from the left, so that the first fault met decides;
* `readNat?`, `readInt?`: reading without a limit;
* `readWord?`: a 32-bit number with blanks around it;
* `numeral`: writing.
-/

namespace BoxPuzzle

/-! ## Reading -/

/-- Why a text is not a numeral within the limit. -/
inductive NumeralError where
  /-- There is no character at all. -/
  | empty
  /-- A character that is not a digit, or a sign with no digit after it. -/
  | badDigit
  /-- The number exceeds the limit. -/
  | tooLarge
deriving DecidableEq, Repr

/-- The fault in words. -/
def NumeralError.message : NumeralError → String
  | empty => "cannot parse integer from empty string"
  | badDigit => "invalid digit found in string"
  | tooLarge => "number too large to fit in target type"

/-- The value of an ASCII digit. -/
def digitValue (c : Char) : Nat := c.toNat - '0'.toNat

/-- Reads the digits `cs` after a part of value `acc`. -/
def readDigits (limit : Nat) (acc : Nat) : List Char → Except NumeralError Nat
  | [] => .ok acc
  | c :: cs =>
    if c.isDigit then
      if 10 * acc + digitValue c ≤ limit then readDigits limit (10 * acc + digitValue c) cs
      else .error .tooLarge
    else .error .badDigit

/-- Reads a numeral of value at most `limit`. -/
def readNumeral (limit : Nat) : List Char → Except NumeralError Nat
  | [] => .error .empty
  | ['+'] => .error .badDigit
  | '+' :: c :: cs => readDigits limit 0 (c :: cs)
  | cs => readDigits limit 0 cs

/-- The number spelled by digits alone. -/
def digitsValue (cs : List Char) : Nat := cs.foldl (fun n c => 10 * n + digitValue c) 0

/-- Reads one or more digits, without limit. -/
def readNat? (cs : List Char) : Option Nat :=
  if cs ≠ [] ∧ cs.all Char.isDigit then some (digitsValue cs) else none

/-- Reads one or more digits after an optional sign, without limit. -/
def readInt? : List Char → Option Int
  | '+' :: cs => (readNat? cs).map Int.ofNat
  | '-' :: cs => (readNat? cs).map fun n => -(Int.ofNat n)
  | cs => (readNat? cs).map Int.ofNat

/-- The largest 32-bit number. -/
def maxWord : Nat := 4294967295

/-- Reads a 32-bit number that may have blanks around it. -/
def readWord? (cs : List Char) : Option UInt32 :=
  (readNumeral maxWord (strip cs)).toOption.map UInt32.ofNat

/-! ## Writing -/

/-- The decimal digits of `n`. -/
def numeral (n : Nat) : List Char := Nat.toDigits 10 n

/-- The decimal text of `n`. -/
def decimalText (n : Nat) : String := String.ofList (numeral n)

end BoxPuzzle
