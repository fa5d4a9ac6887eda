/-!
# Finite binary floating-point numbers

Numbers of the form `± m · 2 ^ q` with `m < 2 ^ 53` and `-1074 ≤ q ≤ 971`, where either `2 ^ 52 ≤ m` or
`q = -1074`: the finite values of the 64-bit binary format. Arithmetic is exact on the side of the
natural numbers, followed by one rounding to the nearest value, a tie going to the even significand.

* `Binary64.ofRatio?` rounds a quotient of natural numbers.
* `Binary64.scale?` multiplies or divides by a power of ten, each factor rounded on its own.
-/

namespace WidgetTemplates

/-- A finite number of the 64-bit binary format: its sign, which zero has too, its significand, and the exponent of the
unit that the significand counts. -/
structure Binary64 where
  negative : Bool
  significand : Nat
  exponent : Int
deriving DecidableEq, Repr

namespace Binary64

/-- The least significand of a value above the least exponent, `2 ^ 52`. -/
def leastNormal : Nat := 0x10000000000000

/-- `x · 2 ^ e` as a quotient of natural numbers. -/
def scaledRatio (x : Nat) (e : Int) : Nat × Nat :=
  if 0 ≤ e then (x * Nat.pow 2 e.toNat, 1) else (x, Nat.pow 2 (-e).toNat)

/-- The natural number nearest to `num / den`, a tie going to the even one. -/
def roundHalfEven (num den : Nat) : Nat :=
  let floor := num / den
  let rest := 2 * (num % den)
  if rest < den then floor
  else if den < rest then floor + 1
  else floor + floor % 2

/-- The largest `e` with `2 ^ e ≤ num / den`, for a positive quotient. -/
def floorLog2 (num den : Nat) : Int :=
  let guess : Int := (Nat.log2 num : Int) - (Nat.log2 den : Int)
  let reached :=
    if 0 ≤ guess then den * Nat.pow 2 guess.toNat ≤ num else den ≤ num * Nat.pow 2 (-guess).toNat
  if reached then guess else guess - 1

/-- The value nearest to `num / den`, or nothing when that lies beyond the largest finite value. -/
def ofRatio? (negative : Bool) (num den : Nat) : Option Binary64 :=
  if num == 0 then some ⟨negative, 0, -1074⟩
  else
    let q := max (floorLog2 num den - 52) (-1074)
    let m := if 0 ≤ q then roundHalfEven num (den * Nat.pow 2 q.toNat)
      else roundHalfEven (num * Nat.pow 2 (-q).toNat) den
    let (m, q) := if m == 2 * leastNormal then (leastNormal, q + 1) else (m, q)
    if 971 < q then none else some ⟨negative, m, q⟩

/-- The quotient of the magnitude of `x` by `2 ^ shift` as natural numbers. -/
def ratio (x : Binary64) : Nat × Nat := scaledRatio x.significand x.exponent

/-- The product of two values, rounded once. -/
def mul? (x y : Binary64) : Option Binary64 :=
  let (a, b) := x.ratio
  let (c, d) := y.ratio
  ofRatio? (x.negative != y.negative) (a * c) (b * d)

/-- The quotient of two values, rounded once; the divisor is not zero. -/
def div? (x y : Binary64) : Option Binary64 :=
  let (a, b) := x.ratio
  let (c, d) := y.ratio
  ofRatio? (x.negative != y.negative) (a * d) (b * c)

/-- The value nearest to `10 ^ n`. -/
def tenPow? (n : Nat) : Option Binary64 := ofRatio? false (Nat.pow 10 n) 1

/-- `x · 10 ^ e`. A factor beyond `10 ^ 308` cannot be written as one value: a number other than zero
overflows upward, and downward it is divided by `10 ^ 308` until the rest of the exponent fits. -/
def scale? : Nat → Binary64 → Int → Option Binary64
  | 0, _, _ => none
  | fuel + 1, x, e =>
    if e.natAbs ≤ 308 then
      match tenPow? e.natAbs with
      | some p => if 0 ≤ e then mul? x p else div? x p
      | none => none
    else if x.significand == 0 then some x
    else if 0 ≤ e then none
    else
      match tenPow? 308 with
      | some p =>
        match div? x p with
        | some y => scale? fuel y (e + 308)
        | none => none
      | none => none

/-- The value read from a decimal significand and a power of ten. -/
def ofDecimal? (negative : Bool) (significand : Nat) (e : Int) : Option Binary64 :=
  match ofRatio? false significand 1 with
  | some x => (scale? (e.natAbs / 308 + 2) x e).map fun y => { y with negative := negative }
  | none => none

/-! ## Shortest decimal form -/

/-- The largest `e` with `10 ^ e ≤ num / den`, for a positive quotient. -/
def floorLog10 (num den : Nat) : Int :=
  let guess := (floorLog2 num den * 30103).fdiv 100000
  let reached (e : Int) : Bool :=
    if 0 ≤ e then decide (den * Nat.pow 10 e.toNat ≤ num) else decide (den ≤ num * Nat.pow 10 (-e).toNat)
  if reached (guess + 1) then guess + 1 else if reached guess then guess else guess - 1

/-- The points of the grid of `10 ^ e` that read back as the value `± m · 2 ^ q`, as multiples of
`10 ^ e`: of the two grid neighbours of the value the nearer one that lies in the interval of reals
rounding to it. The ends of that interval belong to it when the significand is even. -/
def gridPoint? (m : Nat) (q e : Int) : Option Nat :=
  let low := if m == leastNormal && q != -1074 then 4 * m - 1 else 4 * m - 2
  let high := 4 * m + 2
  -- `x / 4 · 2 ^ q` against `y · 10 ^ e`, both times a common denominator
  let binary (x : Nat) : Nat :=
    (if 0 ≤ q - 2 then x * Nat.pow 2 (q - 2).toNat else x) * (if 0 ≤ e then 1 else Nat.pow 10 (-e).toNat)
  let decimal (y : Nat) : Nat :=
    (if 0 ≤ e then y * Nat.pow 10 e.toNat else y) * (if 0 ≤ q - 2 then 1 else Nat.pow 2 (2 - q).toNat)
  let floor := binary (4 * m) / decimal 1
  let inside (y : Nat) : Bool :=
    if m % 2 == 0 then decide (binary low ≤ decimal y ∧ decimal y ≤ binary high)
    else decide (binary low < decimal y ∧ decimal y < binary high)
  match inside floor, inside (floor + 1) with
  | true, true =>
    if binary (4 * m) - decimal floor ≤ decimal (floor + 1) - binary (4 * m) then some floor
    else some (floor + 1)
  | true, false => some floor
  | false, true => some (floor + 1)
  | false, false => none

/-- The first grid, from the coarsest on, with a point that reads back: the decimal significand and
its exponent. -/
def shortestFrom (m : Nat) (q : Int) : Nat → Int → Nat × Int
  | 0, e => (m, e)
  | fuel + 1, e =>
    match gridPoint? m q e with
    | some d => (d, e)
    | none => shortestFrom m q fuel (e - 1)

/-- The decimal significand without its last zeros. -/
def dropZeros : Nat → Nat × Int → Nat × Int
  | 0, p => p
  | fuel + 1, (d, e) => if d != 0 && d % 10 == 0 then dropZeros fuel (d / 10, e + 1) else (d, e)

/-- The fewest decimal digits that read back as the magnitude of `x`, and the exponent of the last. -/
def shortest (x : Binary64) : Nat × Int :=
  if x.significand == 0 then (0, 0)
  else
    let (num, den) := x.ratio
    dropZeros 20 (shortestFrom x.significand x.exponent 18 (floorLog10 num den))

end Binary64

end WidgetTemplates
