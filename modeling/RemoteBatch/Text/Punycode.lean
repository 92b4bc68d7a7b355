/-!
# Punycode

Text of any script in the letters, digits and hyphens of a host name.  The ASCII
characters come first; the others follow as the steps from one insertion to the
next, each a number in base 36 with thresholds that adapt to the steps so far.

## Main definitions

* `punycode` — the encoding of a text.
* `readPunycode?` — the text of an encoding.
-/

namespace RemoteBatch.Text

/-- The digit for a number below 36. -/
def punyDigit (n : Nat) : Char := if n < 26 then Char.ofNat (97 + n) else Char.ofNat (22 + n)

/-- The value of a digit of either case. -/
def punyValue? (c : Char) : Option Nat :=
  if '0' ≤ c ∧ c ≤ '9' then some (c.toNat - 22)
  else if 'a' ≤ c ∧ c ≤ 'z' then some (c.toNat - 97)
  else if 'A' ≤ c ∧ c ≤ 'Z' then some (c.toNat - 65)
  else none

/-- The threshold of the digit at position `k`, which counts in steps of 36. -/
def punyThreshold (bias k : Nat) : Nat := max 1 (min 26 (k - bias))

/-- How often a number must be divided by 35 to be at most 455, times 36, and what
is left of it. -/
def punyReduce (k delta : Nat) : Nat × Nat :=
  if 455 < delta then punyReduce (k + 36) (delta / 35) else (k, delta)
  termination_by delta
  decreasing_by omega

/-- The bias after a step, given how many characters are in place. -/
def punyAdapt (delta count : Nat) (first : Bool) : Nat :=
  let delta := if first then delta / 700 else delta / 2
  let (k, rest) := punyReduce 0 (delta + delta / count)
  k + 36 * rest / (rest + 38)

/-- The digits of a step from position `k` on. -/
def punyDigits (bias k step : Nat) : List Char :=
  let t := punyThreshold bias k
  if h : step < t then [punyDigit step]
  else
    punyDigit (t + (step - t) % (36 - t)) :: punyDigits bias (k + 36) ((step - t) / (36 - t))
  termination_by step
  decreasing_by
    have h₁ : 1 ≤ punyThreshold bias k := Nat.le_max_left _ _
    calc (step - punyThreshold bias k) / (36 - punyThreshold bias k)
        ≤ step - punyThreshold bias k := Nat.div_le_self _ _
      _ < step := by omega

/-- How far an encoding has come. -/
structure PunyState where
  digits : List Char
  delta : Nat
  bias : Nat
  count : Nat

/-- What one character does while the characters `code` are inserted. -/
def punyVisit (basic code : Nat) (s : PunyState) (c : Char) : PunyState :=
  if c.toNat < code then { s with delta := s.delta + 1 }
  else if c.toNat = code then
    { digits := s.digits ++ punyDigits s.bias 36 s.delta
      delta := 0
      bias := punyAdapt s.delta (s.count + 1) (s.count == basic)
      count := s.count + 1 }
  else s

/-- Inserts the characters of the given code points, which come in order; `next`
is the least code point not yet considered. -/
def punyInsert (cs : List Char) (basic : Nat) : (next : Nat) → List Nat → PunyState → PunyState
  | _, [], s => s
  | next, code :: codes, s =>
    let s := { s with delta := s.delta + (code - next) * (s.count + 1) }
    let s := cs.foldl (punyVisit basic code) s
    punyInsert cs basic (code + 1) codes { s with delta := s.delta + 1 }

/-- Whether a character is ASCII. -/
def isAscii (c : Char) : Bool := c.toNat < 0x80

/-- The encoding of a text. -/
def punycode (cs : List Char) : List Char :=
  let basic := cs.filter isAscii
  let codes := ((cs.filter (!isAscii ·)).map Char.toNat).mergeSort.eraseDups
  let start := if basic.isEmpty then [] else basic ++ ['-']
  (punyInsert cs basic.length 0x80 codes ⟨start, 0, 72, basic.length⟩).digits

/-- One step and what follows its digits. -/
def readStep? (bias : Nat) : (k weight step : Nat) → List Char → Option (Nat × List Char)
  | _, _, _, [] => none
  | k, weight, step, c :: cs => do
    let d ← punyValue? c
    let t := punyThreshold bias k
    let step := step + d * weight
    if d < t then some (step, cs) else readStep? bias (k + 36) (weight * (36 - t)) step cs

theorem length_readStep?_lt {bias k weight step n : Nat} {cs rest : List Char}
    (h : readStep? bias k weight step cs = some (n, rest)) : rest.length < cs.length := by
  induction cs generalizing k weight step with
  | nil => simp [readStep?] at h
  | cons c cs ih =>
    simp only [readStep?, Option.bind_eq_bind, Option.bind_eq_some_iff] at h
    obtain ⟨d, _, h⟩ := h
    split at h
    · simp at h; simp [h.2]
    · exact Nat.lt_succ_of_lt (ih h)

/-- The characters after all steps, where `done` are in place and `code` and
`place` say where the last one was inserted. -/
def readSteps? (bias code place : Nat) (done : List Char) (cs : List Char) :
    Option (List Char) :=
  if cs.isEmpty then some done
  else match _h : readStep? bias 36 1 0 cs with
    | none => none
    | some (step, rest) =>
      let count := done.length + 1
      let reached := place + step
      let code := code + reached / count
      let place := reached % count
      if code.isValidChar then
        readSteps? (punyAdapt step count (done.all isAscii)) code (place + 1)
          (done.take place ++ Char.ofNat code :: done.drop place) rest
      else none
  termination_by cs.length
  decreasing_by exact length_readStep?_lt ‹_›

/-- The text of an encoding. -/
def readPunycode? (cs : List Char) : Option (List Char) :=
  let tail := (cs.reverse.takeWhile (· != '-')).reverse
  let basic := cs.take (cs.length - tail.length - 1)
  if basic.all isAscii then readSteps? 72 0x80 0 basic tail else none

end RemoteBatch.Text
