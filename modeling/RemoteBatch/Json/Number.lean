import RemoteBatch.Decimal.Shortest
import RemoteBatch.Json.Token

/-!
# JSON numbers

The value of a numeral.  A numeral without point and exponent is a whole number
if 64 bits hold it; every other numeral is a binary64 value.  That value is
evaluated from the digits that fit 64 bits, taken from the left, and the power of
ten that remains; later digits do not count.

## Main definitions

* `Number` — the values.
* `Number.ofNumeral?` — the value of a numeral, unless it is too large.
* `Number.text` — the shortest text that reads back.
-/

namespace RemoteBatch.Json

open Decimal

/-- The value of a number. -/
inductive Number
  /-- A whole number below `2 ^ 64`. -/
  | natural (n : Nat)
  /-- The whole number `-n`, where `n` is from one to `2 ^ 63`. -/
  | negative (n : Nat)
  /-- A binary64 value with its sign. -/
  | real (minus : Bool) (x : Magnitude)
  deriving DecidableEq, Repr, Inhabited

/-- Appends digits to a number while it stays below `2 ^ 64`; the number and how
many digits it took. -/
def absorb (n : Nat) : List Char → Nat × Nat
  | [] => (n, 0)
  | c :: cs =>
    let next := n * 10 + (c.toNat - 48)
    if next < UInt64.size then
      let (m, taken) := absorb next cs
      (m, taken + 1)
    else (n, 0)

namespace Number

/-- The signed value of exponent digits. -/
def exponentValue : Option (Bool × List Char) → Int
  | none => 0
  | some (true, digits) => -(Nat.ofDigitChars 10 digits 0 : Int)
  | some (false, digits) => Nat.ofDigitChars 10 digits 0

/-- The binary64 value of `n * 10 ^ e`, with the sign given. -/
def real? (minus : Bool) (n : Nat) (e : Int) : Option Number := do
  let x ← Magnitude.nearest? n 1
  let scaled ← x.scale? e
  some (.real minus scaled)

/-- The value of a numeral, or `none` if it is beyond binary64. -/
def ofNumeral? (numeral : Numeral) : Option Number :=
  let (n, taken) := absorb 0 numeral.whole
  let dropped := numeral.whole.length - taken
  match numeral.fraction, numeral.exponent with
  | none, none =>
    if 0 < dropped then real? numeral.negative n dropped
    else if !numeral.negative then some (.natural n)
    else if 0 < n ∧ n ≤ Nat.pow 2 63 then some (.negative n)
    else real? true n 0
  | fraction, exponent =>
    let (m, places) := absorb n (fraction.getD [])
    real? numeral.negative m (dropped - places + exponentValue exponent)

/-- Zeros. -/
def zeros (n : Int) : List Char := List.replicate n.toNat '0'

/-- The text of a decimal value: positional from `0.00001` to below `10 ^ 16` and
then always with a point, otherwise one digit before the point and an exponent
with its sign. -/
def layout (d : Digits) : List Char :=
  let digits := Nat.toDigits 10 d.digits
  let point := (digits.length : Int) + d.exponent
  if 0 ≤ d.exponent ∧ point ≤ 16 then digits ++ zeros d.exponent ++ ['.', '0']
  else if 0 < point ∧ point ≤ 16 then
    digits.take point.toNat ++ '.' :: digits.drop point.toNat
  else if -5 < point ∧ point ≤ 0 then '0' :: '.' :: zeros (-point) ++ digits
  else
    digits.take 1 ++ (if digits.length = 1 then [] else '.' :: digits.drop 1)
      ++ 'e' :: (if point - 1 < 0 then '-' else '+')
      :: Nat.toDigits 10 (point - 1).natAbs

/-- The text of a number. -/
def text : Number → String
  | .natural n => numeral n
  | .negative n => "-" ++ numeral n
  | .real minus x =>
    (if minus then "-" else "")
      ++ if x.mantissa = 0 then "0.0" else String.ofList (layout (shortest x))

end Number

end RemoteBatch.Json
