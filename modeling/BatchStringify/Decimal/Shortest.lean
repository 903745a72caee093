import BatchStringify.Decimal.Binary

/-!
# Shortest decimal digits

Of the decimals that read back to a given floating-point number, the one with the fewest digits,
and of several such the nearest to the number, the larger of two that are equally near.

A decimal reads back to `m · 2 ^ q` if it lies between the midpoints to the two neighbouring
numbers; the midpoints themselves count exactly if `m` is even. Below a power of two the lower
neighbour is only half a step away.
-/

namespace BatchStringify.Decimal

open Binary (Format)

/-- The decimal number `digits · 10 ^ exponent`. -/
structure Digits where
  digits : Nat
  exponent : Int
  deriving DecidableEq, Repr

/-- A positive fraction. -/
structure Fraction where
  num : Nat
  den : Nat

/-- The fraction `n · 2 ^ q`. -/
def Fraction.ofBinary (n : Nat) (q : Int) : Fraction :=
  if 0 ≤ q then ⟨n * Nat.pow 2 q.toNat, 1⟩ else ⟨n, Nat.pow 2 (-q).toNat⟩

/-- The fraction divided by `10 ^ e`. -/
def Fraction.scaled (x : Fraction) (e : Int) : Fraction :=
  if 0 ≤ e then ⟨x.num, x.den * Nat.pow 10 e.toNat⟩ else ⟨x.num * Nat.pow 10 (-e).toNat, x.den⟩

/-- The decimals that read back to a number, as the two ends of an interval around it. -/
structure Interval where
  low : Fraction
  value : Fraction
  high : Fraction
  /-- Whether the ends belong to it. -/
  closed : Bool

/-- The interval of the number `m · 2 ^ q`. -/
def Interval.around (f : Format) (m : Nat) (q : Int) : Interval :=
  let below := if m = f.hiddenBit then 4 * m - 1 else 4 * m - 2
  { low := .ofBinary below (q - 2)
    value := .ofBinary (4 * m) (q - 2)
    high := .ofBinary (4 * m + 2) (q - 2)
    closed := m % 2 = 0 }

/-- Whether `d · 10 ^ e` lies in the interval. -/
def Interval.contains (i : Interval) (d : Nat) (e : Int) : Bool :=
  let low := i.low.scaled e
  let high := i.high.scaled e
  if i.closed then decide (low.num ≤ d * low.den ∧ d * high.den ≤ high.num)
  else decide (low.num < d * low.den ∧ d * high.den < high.num)

/-- The point of the grid of `10 ^ e` that lies in the interval, the nearer one if there are two. -/
def Interval.gridPoint? (i : Interval) (e : Int) : Option Nat :=
  let value := i.value.scaled e
  let d := value.num / value.den
  match i.contains d e, i.contains (d + 1) e with
  | false, false => none
  | true, false => some d
  | false, true => some (d + 1)
  | true, true => some (if 2 * (value.num % value.den) < value.den then d else d + 1)

/-- The number of digits that a natural number is written with. -/
def width (n : Nat) : Nat := (Nat.toDigits 10 n).length

/-- The least `k` from `k₀` on with `10 ^ k · x ≥ 1`, looked for in `fuel` steps. -/
def leadingZeros (x : Fraction) : Nat → Nat → Nat
  | 0, k => k
  | fuel + 1, k => if x.den ≤ x.num * Nat.pow 10 k then k else leadingZeros x fuel (k + 1)

/-- The position of the point: the number lies in `[10 ^ (k - 1), 10 ^ k)`. -/
def pointOf (x : Fraction) : Int :=
  if x.den ≤ x.num then width (x.num / x.den)
  else 1 - (leadingZeros x (x.den.log2 + 1) 0 : Int)

/-- The same number without zeros at its end, which moves at most `fuel` of them. -/
def Digits.trim : Nat → Digits → Digits
  | 0, x => x
  | fuel + 1, x =>
    if x.digits % 10 = 0 ∧ x.digits ≠ 0 then
      Digits.trim fuel ⟨x.digits / 10, x.exponent + 1⟩
    else x

/-- Tries grids of `n`, `n + 1`, … digits. -/
def Interval.shortestFrom (i : Interval) (point : Int) : Nat → Nat → Digits
  | 0, n => ⟨0, point - n⟩
  | fuel + 1, n =>
    match i.gridPoint? (point - n) with
    | some d => Digits.trim (n + 1) ⟨d, point - n⟩
    | none => i.shortestFrom point fuel (n + 1)

/-- The shortest decimal that reads back to the positive number `m · 2 ^ q`: seventeen digits
always suffice for a format of at most 64 bits. -/
def shortest (f : Format) (m : Nat) (q : Int) : Digits :=
  let i := Interval.around f m q
  i.shortestFrom (pointOf i.value) 18 1

end BatchStringify.Decimal
