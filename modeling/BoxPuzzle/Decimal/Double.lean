/-!
# Binary doubles

A finite double is `mantissa · 2 ^ exponent` with a mantissa below `2 ^ 53` and an exponent of at
least `-1074`. A rational number is rounded to the nearest double, a tie to the even mantissa.

* `Double`, `Double.ofFloat`: what a double stands for;
* `roundQuotient`: a quotient rounded to the nearest whole number;
* `floorLog`: the binary order of magnitude of a quotient;
* `nearestBits`, `nearestFloat`: the double nearest to a rational number.
-/

namespace BoxPuzzle

/-- The value of a double. -/
inductive Double where
  | nan
  | infinite (negative : Bool)
  | finite (negative : Bool) (mantissa : Nat) (exponent : Int)
deriving DecidableEq, Repr

/-- The number of fractions that doubles with one exponent have. -/
def fractionCount : Nat := Nat.pow 2 52

/-- The bit that marks a negative double. -/
def signBit : Nat := Nat.pow 2 63

/-- The value with the given bits: a sign bit, eleven of exponent and 52 of fraction. -/
def Double.ofBits (bits : Nat) : Double :=
  let negative := decide (signBit ≤ bits)
  let field := bits / fractionCount % 2048
  let fraction := bits % fractionCount
  if field = 2047 then if fraction = 0 then .infinite negative else .nan
  else if field = 0 then .finite negative fraction (-1074)
  else .finite negative (fractionCount + fraction) (Int.ofNat field - 1075)

/-- The value of a floating-point number. -/
def Double.ofFloat (x : Float) : Double := .ofBits x.toBits.toNat

/-! ## Rounding -/

/-- The whole number nearest to `num / den`, a tie to the even one. -/
def roundQuotient (num den : Nat) : Nat :=
  let q := num / den
  let r := num % den
  if den < 2 * r ∨ (2 * r = den ∧ q % 2 = 1) then q + 1 else q

/-- The power `2 ^ e`, as numerator and denominator. -/
def twoPow (e : Int) : Nat × Nat := (Nat.pow 2 e.toNat, Nat.pow 2 (-e).toNat)

/-- The exponent `e` with `2 ^ e ≤ num / den < 2 ^ (e + 1)`, for positive arguments. -/
def floorLog (num den : Nat) : Int :=
  let e : Int := Int.ofNat num.log2 - Int.ofNat den.log2
  let p := twoPow e
  if den * p.1 ≤ num * p.2 then e else e - 1

/-- The bits of positive infinity. -/
def infinityBits : Nat := 2047 * fractionCount

/-- The bits of the double nearest to `num / den`. Consecutive doubles have consecutive bits, so
a mantissa that rounds up to the next power of two needs no care. -/
def nearestBits (num den : Nat) : Nat :=
  if num = 0 then 0
  else
    let e := max (-1074) (floorLog num den - 52)
    let p := twoPow e
    min infinityBits ((e + 1074).toNat * fractionCount + roundQuotient (num * p.2) (den * p.1))

/-- The double with these bits and this sign. -/
def signedFloat (negative : Bool) (bits : Nat) : Float :=
  .ofBits (UInt64.ofNat (bits + if negative then signBit else 0))

/-- The double nearest to `± num / den`. -/
def nearestFloat (negative : Bool) (num den : Nat) : Float :=
  signedFloat negative (nearestBits num den)

/-- The double nearest to `± n · 10 ^ e`. Numbers far outside the range of doubles are settled by
their number of digits. -/
def nearestDecimal (negative : Bool) (n : Nat) (e : Int) : Float :=
  let magnitude := Int.ofNat (Nat.toDigits 10 n).length + e
  if n = 0 ∨ magnitude < -330 then signedFloat negative 0
  else if 310 < magnitude then signedFloat negative infinityBits
  else nearestFloat negative (n * Nat.pow 10 e.toNat) (Nat.pow 10 (-e).toNat)

end BoxPuzzle
