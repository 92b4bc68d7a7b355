/-!
# Binary64 magnitudes

The finite non-negative values of the 64-bit binary format, held exactly as
`mantissa * 2 ^ exponent`, and the two operations that reading a decimal number
needs.  Every result is the format's nearest value to the exact one; of two
nearest values it is the one with the even mantissa.

## Main definitions

* `Magnitude` — a value of the format.
* `nearest?` — the value nearest to a fraction, unless it lies beyond the format.
* `scale?` — a value times a power of ten, as a decimal numeral with an exponent
  is evaluated.
-/

namespace RemoteBatch.Decimal

/-- The value `mantissa * 2 ^ exponent`.  Values of the format have a mantissa
below `2 ^ 53` and an exponent from `-1074` to `971`. -/
structure Magnitude where
  mantissa : Nat
  exponent : Int
  deriving DecidableEq, Repr, Inhabited

/-- The whole number nearest to `num / den`; a tie goes to the even one. -/
def roundDiv (num den : Nat) : Nat :=
  let q := num / den
  let r := num % den
  if 2 * r < den then q
  else if den < 2 * r then q + 1
  else if q % 2 = 0 then q else q + 1

/-- `n * 2 ^ e` as a fraction. -/
def shifted (n : Nat) (e : Int) : Nat × Nat :=
  (n * Nat.pow 2 e.toNat, Nat.pow 2 (-e).toNat)

namespace Magnitude

/-- Zero. -/
def zero : Magnitude := ⟨0, 0⟩

/-- A magnitude as a fraction. -/
def toFraction (x : Magnitude) : Nat × Nat := shifted x.mantissa x.exponent

/-- The exponent of the highest power of two that is at most `num / den`. -/
def topBit (num den : Nat) : Int :=
  let guess : Int := (num.log2 : Int) - den.log2
  let (up, down) := shifted 1 guess
  if den * up ≤ num * down then guess else guess - 1

/-- The magnitude nearest to `num / den`, or `none` if that is too large. -/
def nearest? (num den : Nat) : Option Magnitude :=
  if num = 0 then some zero
  else
    let e := max (topBit num den - 52) (-1074)
    let (up, down) := shifted 1 (-e)
    let m := roundDiv (num * up) (den * down)
    let rounded : Magnitude := if m = Nat.pow 2 53 then ⟨Nat.pow 2 52, e + 1⟩ else ⟨m, e⟩
    if 971 < rounded.exponent then none else some rounded

/-- The nearest magnitude to a product. -/
def mul? (x y : Magnitude) : Option Magnitude :=
  let (a, b) := x.toFraction
  let (c, d) := y.toFraction
  nearest? (a * c) (b * d)

/-- The nearest magnitude to a quotient. -/
def div? (x y : Magnitude) : Option Magnitude :=
  let (a, b) := x.toFraction
  let (c, d) := y.toFraction
  nearest? (a * d) (b * c)

/-- The magnitude nearest to `10 ^ k`. -/
def powerOfTen? (k : Nat) : Option Magnitude := nearest? (Nat.pow 10 k) 1

/-- `x` times `10 ^ e`, in steps of at most 308 powers, each step rounded.
`none` if the result is too large. -/
def scale? (x : Magnitude) (e : Int) : Option Magnitude :=
  if e.natAbs ≤ 308 then do
    let power ← powerOfTen? e.natAbs
    if 0 ≤ e then x.mul? power else x.div? power
  else if x.mantissa = 0 then some zero
  else if 0 ≤ e then none
  else do
    let power ← powerOfTen? 308
    let smaller ← x.div? power
    smaller.scale? (e + 308)
  termination_by e.natAbs
  decreasing_by omega

end Magnitude

end RemoteBatch.Decimal
