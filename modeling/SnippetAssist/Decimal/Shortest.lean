/-!
# Shortest decimal of a double

The fewest significant digits that read back as the same double, and the text made of them.

A finite positive double is `m · 2^q` exactly. Every real strictly between it and the halfway
points to its two neighbours reads back as it, and so do the halfway points themselves when `m`
is even. For each grid `10^k`, coarsest first, the two grid points around the value are tested
against that interval: the first grid with a hit gives the digits, the nearer of two hits wins,
and an exact tie goes to the even digit string.

The text puts the digits positionally when the decimal point falls within the first sixteen
places or at most five places to the left, keeping `.0` on whole numbers; otherwise it writes one
digit, a point if more follow, and `e` with the exponent (no plus sign).
-/

namespace SnippetAssist.Decimal

/-- Compares `x · 2^e` with `d · 10^k`, exactly. -/
def compareScaled (x : Nat) (e : Int) (d : Nat) (k : Int) : Ordering :=
  compare (x * Nat.pow 2 e.toNat * Nat.pow 10 (-k).toNat)
    (d * Nat.pow 10 k.toNat * Nat.pow 2 (-e).toNat)

/-- A finite positive double as `mantissa · 2^exponent`, with the interval of reals that read back
as it: from `4·mantissa - below` to `4·mantissa + 2`, in units of `2^(exponent - 2)`. The interval
is narrower below at the bottom of a binade, and it is closed when the mantissa is even. -/
structure Binary where
  mantissa : Nat
  exponent : Int
  below : Nat
  closed : Bool

/-- The binary form of the magnitude of `x`; `none` for zero, infinities and NaN. -/
def Binary.ofFloat? (x : Float) : Option Binary :=
  let bits := x.toBits.toNat
  let field : Nat := (bits / Nat.pow 2 52) % Nat.pow 2 11
  let fraction : Nat := bits % Nat.pow 2 52
  if field = 0x7FF then none
  else if field = 0 then
    if fraction = 0 then none
    else some ⟨fraction, -1074, 2, fraction % 2 == 0⟩
  else
    let m := fraction + Nat.pow 2 52
    some ⟨m, (field : Int) - 1075, if fraction = 0 ∧ field > 1 then 1 else 2, m % 2 == 0⟩

namespace Binary

/-- `d · 10^k` lies in the interval that reads back as `b`. -/
def holds (b : Binary) (d : Nat) (k : Int) : Bool :=
  let e := b.exponent - 2
  let low := compareScaled (4 * b.mantissa - b.below) e d k
  let high := compareScaled (4 * b.mantissa + 2) e d k
  (low == .lt || (b.closed && low == .eq)) && (high == .gt || (b.closed && high == .eq))

/-- The digits of the grid point `d · 10^k` that stands for `b` on the grid `10^k`, if the
interval holds one of the two grid points around the value. -/
def hitOn (b : Binary) (k : Int) : Option Nat :=
  let e := b.exponent - 2
  let num := 4 * b.mantissa * Nat.pow 2 e.toNat * Nat.pow 10 (-k).toNat
  let den := Nat.pow 10 k.toNat * Nat.pow 2 (-e).toNat
  let lo := num / den
  let hi := lo + 1
  if num % den == 0 then some lo
  else
    match b.holds lo k, b.holds hi k with
    | true, true =>
      let downward := num - lo * den
      let upward := hi * den - num
      if downward < upward then some lo
      else if upward < downward then some hi
      else if lo % 2 == 0 then some lo
      else some hi
    | true, false => some lo
    | false, true => some hi
    | false, false => none

/-- Raises `k` while `10^(k+1)` is at most the value, at most `n` times. -/
def raiseLog10 (b : Binary) : Nat → Int → Int
  | 0, k => k
  | n + 1, k =>
    if compareScaled b.mantissa b.exponent 1 (k + 1) != .lt then b.raiseLog10 n (k + 1) else k

/-- `⌊log₁₀⌋` of the value: an estimate from the bit length, corrected by exact comparisons. -/
def floorLog10 (b : Binary) : Int :=
  let estimate : Int := ((b.mantissa.log2 : Int) + b.exponent) * 30103 / 100000
  b.raiseLog10 6 (estimate - 2)

/-- The first grid from `10^k` down, over `n` grids, that holds a point of the interval. -/
def search (b : Binary) : Nat → Int → Nat × Int
  | 0, k => (b.mantissa, k)
  | n + 1, k =>
    match b.hitOn k with
    | some d => (d, k)
    | none => b.search n (k - 1)

end Binary

/-- Moves trailing zeros of the digits into the exponent, at most `n` of them. -/
def dropTrailingZeros : Nat → Nat → Int → Nat × Int
  | 0, d, k => (d, k)
  | n + 1, d, k => if d ≠ 0 ∧ d % 10 = 0 then dropTrailingZeros n (d / 10) (k + 1) else (d, k)

/-- The shortest digits `d` and exponent `k` with `d · 10^k` reading back as `|x|`, for a finite
non-zero `x`. Seventeen significant digits always suffice, so the search spans eighteen grids
below the first that lies above the value. -/
def shortest? (x : Float) : Option (Nat × Int) :=
  (Binary.ofFloat? x).map fun b =>
    let (d, k) := b.search 19 (b.floorLog10 + 1)
    dropTrailingZeros 20 d k

/-- `n` zeros. -/
def zeros (n : Nat) : List Char := List.replicate n '0'

/-- The text of `d · 10^k`, where `d` has no trailing zero: positional when the point falls
within the first sixteen places or at most five places to the left of the digits, otherwise
one digit, the rest after a point, and the exponent after `e`. -/
def layout (d : Nat) (k : Int) : String :=
  let ds := (Nat.repr d).toList
  let len : Int := ds.length
  let point := len + k
  let chars :=
    if 0 ≤ k ∧ point ≤ 16 then ds ++ zeros k.toNat ++ ['.', '0']
    else if 0 < point ∧ point ≤ 16 then ds.take point.toNat ++ '.' :: ds.drop point.toNat
    else if -5 < point ∧ point ≤ 0 then ['0', '.'] ++ zeros (-point).toNat ++ ds
    else
      let mantissa := if ds.length = 1 then ds else ds.take 1 ++ '.' :: ds.drop 1
      mantissa ++ 'e' :: (toString (point - 1)).toList
  String.ofList chars

/-- The shortest text that reads back as `x`: `0.0` for zero, a minus sign when the sign bit is
set, and `null` for the values JSON cannot write. -/
def render (x : Float) : String :=
  let sign := if x.toBits.toNat ≥ Nat.pow 2 63 then "-" else ""
  if x.isNaN || x.isInf then "null"
  else match shortest? x with
    | some (d, k) => sign ++ layout d k
    | none => sign ++ "0.0"

end SnippetAssist.Decimal
