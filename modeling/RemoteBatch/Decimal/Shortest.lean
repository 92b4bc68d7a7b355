import RemoteBatch.Decimal.Binary64

/-!
# Shortest decimals

The shortest decimal numeral that reads back as a given binary64 value.  The
decimals that read back are those in an interval around the value; on the grid of
decimals with a given number of digits it is enough to try the value's two
neighbours, and the first grid with a hit wins.

## Main definitions

* `Digits` — a decimal value `digits * 10 ^ exponent`.
* `shortest` — the fewest digits that read back, nearest to the value.
-/

namespace RemoteBatch.Decimal

/-- The value `digits * 10 ^ exponent`. -/
structure Digits where
  digits : Nat
  exponent : Int
  deriving DecidableEq, Repr, Inhabited

namespace Digits

/-- The same value without trailing zeros. -/
def normalize (d : Digits) : Digits :=
  if d.digits ≠ 0 ∧ d.digits % 10 = 0 then normalize ⟨d.digits / 10, d.exponent + 1⟩ else d
  termination_by d.digits
  decreasing_by omega

/-- The value as a fraction. -/
def toFraction (d : Digits) : Nat × Nat :=
  (d.digits * Nat.pow 10 d.exponent.toNat, Nat.pow 10 (-d.exponent).toNat)

end Digits

/-- The exponent of the highest power of ten that is at most `num / den`. -/
def topDigit (num den : Nat) : Int :=
  if den ≤ num then ((Nat.toDigits 10 (num / den)).length : Int) - 1
  else
    let length := (Nat.toDigits 10 (den / num)).length
    if num * Nat.pow 10 (length - 1) = den then 1 - (length : Int) else -(length : Int)

/-- The fractions that read back as a magnitude: the ends of the interval around
it, and whether the ends belong to it. -/
structure Interval where
  low : Nat × Nat
  high : Nat × Nat
  closed : Bool

namespace Interval

/-- Whether a fraction lies in the interval. -/
def contains (i : Interval) (num den : Nat) : Bool :=
  let below := i.low.1 * den
  let above := i.high.1 * den
  if i.closed then below ≤ num * i.low.2 && num * i.high.2 ≤ above
  else below < num * i.low.2 && num * i.high.2 < above

/-- The interval of a magnitude: half a step up, and half a step down, where the
step below a power of two is half as long. -/
def around (x : Magnitude) : Interval :=
  let down := if x.mantissa = Nat.pow 2 52 ∧ -1074 < x.exponent then 1 else 2
  { low := shifted (4 * x.mantissa - down) (x.exponent - 2)
    high := shifted (4 * x.mantissa + 2) (x.exponent - 2)
    closed := x.mantissa % 2 = 0 }

end Interval

/-- The decimal with `count` digits that is nearest to `num / den` among those in
the interval, if one is there.  Of two equally near ones it is the even one. -/
def onGrid? (i : Interval) (num den count : Nat) : Option Digits :=
  let step := topDigit num den - count + 1
  let below : Digits := ⟨num * Nat.pow 10 (-step).toNat / (den * Nat.pow 10 step.toNat), step⟩
  let above : Digits := ⟨below.digits + 1, step⟩
  let hit (d : Digits) : Bool := i.contains d.toFraction.1 d.toFraction.2
  let middle := roundDiv (num * Nat.pow 10 (-step).toNat) (den * Nat.pow 10 step.toNat)
  let near := if middle = below.digits then below else above
  let far := if middle = below.digits then above else below
  if hit near then some near else if hit far then some far else none

/-- The fewest digits that read back as a nonzero magnitude; seventeen always do. -/
def shortest (x : Magnitude) : Digits :=
  let (num, den) := x.toFraction
  let i := Interval.around x
  match (List.range 17).findSome? fun n => onGrid? i num den (n + 1) with
  | some d => d.normalize
  | none => ⟨0, 0⟩

end RemoteBatch.Decimal
