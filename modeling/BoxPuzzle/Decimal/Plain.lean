import BoxPuzzle.Decimal.Shortest
import BoxPuzzle.Text.Numeral

/-!
# Plain decimal text

Doubles are written with their shortest digits and never with an exponent: zeros fill the places
up to the point. They are read from digits with an optional point and an optional exponent.

* `plainDigits`, `Double.text`, `floatText`: writing;
* `DecimalError`, `readFloat`: reading.
-/

namespace BoxPuzzle

/-! ## Writing -/

/-- The number `n · 10 ^ e` in positional notation. -/
def plainDigits (n : Nat) (e : Int) : List Char :=
  let ds := numeral n
  let places := (-e).toNat
  if places = 0 then ds ++ List.replicate e.toNat '0'
  else
    let padded := List.replicate (places + 1 - ds.length) '0' ++ ds
    padded.take (padded.length - places) ++ '.' :: padded.drop (padded.length - places)

/-- The text of a double. -/
def Double.text : Double → String
  | .nan => "NaN"
  | .infinite negative => if negative then "-inf" else "inf"
  | .finite negative mantissa exponent =>
    let digits :=
      if mantissa = 0 then ['0']
      else
        let d := shortestDigits mantissa exponent
        plainDigits d.1 d.2
    String.ofList (if negative then '-' :: digits else digits)

/-- The text of a floating-point number. -/
def floatText (x : Float) : String := (Double.ofFloat x).text

/-! ## Reading -/

/-- Why a text is not a decimal number. -/
inductive DecimalError where
  /-- There is no character at all. -/
  | empty
  /-- The text has another form. -/
  | invalid
deriving DecidableEq, Repr

/-- The fault in words. -/
def DecimalError.message : DecimalError → String
  | empty => "cannot parse float from empty string"
  | invalid => "invalid float literal"

/-- The exponent after a mantissa: nothing, or `e`, an optional sign and digits. -/
def exponentPart? : List Char → Option Int
  | [] => some 0
  | c :: cs =>
    if c = 'e' ∨ c = 'E' then readInt? cs else none

/-- The digits after the point, if there is one, and what follows them. -/
def fractionPart (cs : List Char) : List Char × List Char :=
  match cs with
  | '.' :: rest => (rest.takeWhile Char.isDigit, rest.dropWhile Char.isDigit)
  | _ => ([], cs)

/-- Reads a number without sign: a name or digits. -/
def readUnsigned? (negative : Bool) (cs : List Char) : Option Float :=
  let name := cs.map Char.toLower
  if name = ['i', 'n', 'f'] ∨ name = ['i', 'n', 'f', 'i', 'n', 'i', 't', 'y'] then
    some (signedFloat negative infinityBits)
  else if name = ['n', 'a', 'n'] then some (signedFloat false (infinityBits + fractionCount / 2))
  else
    let whole := cs.takeWhile Char.isDigit
    let (fraction, rest) := fractionPart (cs.dropWhile Char.isDigit)
    let digits := whole ++ fraction
    if digits = [] then none
    else
      (exponentPart? rest).map fun e =>
        nearestDecimal negative (digitsValue digits) (e - Int.ofNat fraction.length)

/-- Reads a decimal number, or the name of infinity or of no number, as the nearest double. -/
def readFloat (cs : List Char) : Except DecimalError Float :=
  let read? : Option Float :=
    match cs with
    | '-' :: rest => readUnsigned? true rest
    | '+' :: rest => readUnsigned? false rest
    | _ => readUnsigned? false cs
  match read? with
  | some x => .ok x
  | none => .error (if cs = [] then .empty else .invalid)

end BoxPuzzle
