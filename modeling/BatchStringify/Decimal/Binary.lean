/-!
# Binary floating-point numbers

A format has a significand of fixed width and a range of exponents; its bit patterns stand for
`± m · 2 ^ q`, for infinities and for not-a-number. `Format.decode` reads a pattern and
`Format.nearest` is the pattern of the number nearest to a fraction, a tie going to the even
significand. All arithmetic is on natural numbers.
-/

namespace BatchStringify.Binary

/-- The layout of a binary interchange format. -/
structure Format where
  /-- The number of stored significand bits. -/
  fractionBits : Nat
  /-- The number of exponent bits. -/
  exponentBits : Nat

/-- Numbers of 32 bits. -/
def single : Format := ⟨23, 8⟩

/-- Numbers of 64 bits. -/
def double : Format := ⟨52, 11⟩

/-- What a bit pattern stands for. -/
inductive Number where
  | nan
  | infinite (negative : Bool)
  /-- The number `± m · 2 ^ q`. -/
  | finite (negative : Bool) (m : Nat) (q : Int)

namespace Format

variable (f : Format)

/-- The exponent field of infinities and not-a-number. -/
def topExponent : Nat := Nat.pow 2 f.exponentBits - 1

/-- The least exponent, shared by zero, the subnormal numbers and the first normal ones. -/
def leastExponent : Int := 2 - Nat.pow 2 (f.exponentBits - 1) - f.fractionBits

/-- The significand of a power of two among the normal numbers. -/
def hiddenBit : Nat := Nat.pow 2 f.fractionBits

/-- Reads a bit pattern. -/
def decode (bits : Nat) : Number :=
  let fraction := bits % f.hiddenBit
  let exponent := bits / f.hiddenBit % Nat.pow 2 f.exponentBits
  let negative := decide (bits / (f.hiddenBit * Nat.pow 2 f.exponentBits) % 2 = 1)
  if exponent = f.topExponent then
    if fraction = 0 then .infinite negative else .nan
  else if exponent = 0 then .finite negative fraction f.leastExponent
  else .finite negative (f.hiddenBit + fraction) (f.leastExponent + (exponent - 1 : Nat))

/-- The quotient `num / den` rounded to the nearest natural number, a tie to the even one. -/
def roundEven (num den : Nat) : Nat :=
  let low := num / den
  let twice := 2 * (num % den)
  if twice < den ∨ (twice = den ∧ low % 2 = 0) then low else low + 1

/-- The pattern without sign of the number nearest to `num / den`, infinity if it is too large. -/
def nearest (num den : Nat) : Nat :=
  if num = 0 then 0 else
    -- the exponent at which the significand has its full width, or the least one
    let wide : Int := (num.log2 : Int) - den.log2 - f.fractionBits
    let scaled (q : Int) : Nat × Nat :=
      if 0 ≤ q then (num, den * Nat.pow 2 q.toNat) else (num * Nat.pow 2 (-q).toNat, den)
    let full : Int :=
      let (n, d) := scaled wide
      if n < f.hiddenBit * d then wide - 1 else wide
    let q := max full f.leastExponent
    let m := let (n, d) := scaled q; roundEven n d
    let steps := (q - f.leastExponent).toNat
    -- a significand that reached the next power of two carries into the exponent by itself
    min (steps * f.hiddenBit + m) (f.topExponent * f.hiddenBit)

end Format

end BatchStringify.Binary
