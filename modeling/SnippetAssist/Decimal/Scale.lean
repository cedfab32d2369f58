/-!
# From decimal parts to a double

How the JSON reader turns a decimal number into a double. The significand, which fits 64 bits,
is rounded to a double once; that double is then multiplied or divided by one power of ten, each
power being the double nearest to it. A negative exponent beyond 308 is first brought into range
by dividing by `1e308`, and a positive exponent whose product overflows is refused.

The result is the nearest double for all short inputs; only long significands or large
exponents can round twice, and the reader's answer is this double, not the nearest one.
-/

namespace SnippetAssist.Decimal

/-- The double nearest to `n`, a tie going to the even neighbour. Above `2^64` the bits below
the top 64 are folded into one sticky bit, which keeps the single rounding exact. -/
def natToFloat (n : Nat) : Float :=
  if n < Nat.pow 2 64 then n.toUInt64.toFloat
  else
    let s := n.log2 - 63
    let t := n >>> s
    let t := if t <<< s == n then t else t ||| 1
    t.toUInt64.toFloat.scaleB s

/-- The double nearest to `10 ^ k`. -/
def pow10 (k : Nat) : Float := natToFloat (Nat.pow 10 k)

/-- The largest power of ten that the reader multiplies or divides by in one step. -/
def maxStep : Nat := 308

/-- Divides `f` by `10 ^ k`, in steps of `10 ^ 308` while `k` is larger than that. -/
def divPow10 (f : Float) (k : Nat) : Float :=
  if k ≤ maxStep then f / pow10 k
  else if f == 0 then f
  else divPow10 (f / pow10 maxStep) (k - maxStep)
termination_by k
decreasing_by simp_all only [maxStep, Nat.not_le]; omega

/-- The double that the reader makes of `significand · 10 ^ exponent`, negated unless
`positive`; `none` when the value overflows. -/
def ofParts (positive : Bool) (significand : Nat) (exponent : Int) : Option Float :=
  let f := natToFloat significand
  let magnitude :=
    if exponent < 0 then some (divPow10 f exponent.natAbs)
    else if exponent.toNat ≤ maxStep then
      let g := f * pow10 exponent.toNat
      if g.isInf then none else some g
    else if f == 0 then some f
    else none
  magnitude.map fun g => if positive then g else -g

end SnippetAssist.Decimal
