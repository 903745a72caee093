import BatchStringify.Decimal.Binary
import BatchStringify.Text.Digits

/-!
# Numerals

Numbers as they are written in decimal digits: whole numbers with and without a sign, and
floating-point numbers of 64 bits, which are read as the nearest one.
-/

namespace BatchStringify.Decimal

open Text (digitsValue)

/-- The bits of the number nearest to `n · 10 ^ e`, which is infinity if that is too large. Powers
that are out of reach in any case are not computed. -/
def nearest (n : Nat) (e : Int) : Nat :=
  let magnitude := (Nat.toDigits 10 n).length + e
  if n = 0 ∨ magnitude < -400 then 0
  else if 400 < magnitude then Binary.double.nearest (Nat.pow 10 400) 1
  else if 0 ≤ e then Binary.double.nearest (n * Nat.pow 10 e.toNat) 1
  else Binary.double.nearest n (Nat.pow 10 (-e).toNat)

/-- The bits of positive infinity. -/
def infinityBits : Nat := 0x7FF0000000000000

/-- The bits that stand for no number. -/
def notANumberBits : Nat := 0x7FF8000000000000

/-- The bits of negative zero. -/
def negativeZeroBits : Nat := 0x8000000000000000

/-- The bits of a number with its sign. -/
def signedBits (negative : Bool) (bits : Nat) : Nat :=
  if negative then negativeZeroBits + bits else bits

/-- Whether a text starts with a minus sign, and the text behind its sign. -/
def splitSign : List Char → Bool × List Char
  | '-' :: rest => (true, rest)
  | '+' :: rest => (false, rest)
  | text => (false, text)

/-- The number that a text of digits spells. -/
def digits? (text : List Char) : Option Nat :=
  if text.isEmpty || text.any (!·.isDigit) then none else some (digitsValue 10 text)

/-- A whole number with or without a plus sign. -/
def unsigned? (text : List Char) : Option Nat :=
  match text with
  | '+' :: rest => digits? rest
  | _ => digits? text

/-- A whole number with or without a sign. -/
def signed? (text : List Char) : Option Int :=
  let (negative, rest) := splitSign text
  (digits? rest).map fun n => if negative then -n else n

/-- The bits of a floating-point number: digits with at most one point among them, before or behind
them, and perhaps an exponent; or the words for infinity and for no number, in any case. -/
def real? (text : List Char) : Option Nat :=
  let (negative, text) := splitSign text
  let word := String.ofList (text.map Char.toLower)
  if word = "inf" ∨ word = "infinity" then some (signedBits negative infinityBits)
  else if word = "nan" then some notANumberBits
  else
    let (whole, rest) := text.span Char.isDigit
    let (fraction, rest) := match rest with
      | '.' :: rest => rest.span Char.isDigit
      | _ => ([], rest)
    let n := digitsValue 10 (whole ++ fraction)
    let bits (exponent : Int) : Nat :=
      signedBits negative (nearest n (exponent - fraction.length))
    if whole.isEmpty && fraction.isEmpty then none
    else
      match rest with
      | [] => some (bits 0)
      | c :: exponent => if c = 'e' ∨ c = 'E' then (signed? exponent).map bits else none

end BatchStringify.Decimal
