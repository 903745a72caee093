import BatchStringify.Decimal.Numeral
import BatchStringify.Toml.Space
import BatchStringify.Toml.Text
import BatchStringify.Toml.Value

/-!
# Numbers and dates

Integers of 64 bits in four bases, floating-point numbers, dates and times. Digits can be grouped
by single underscores. A decimal number has no leading zeros, and a floating-point number must not
be too large for its format.
-/

namespace BatchStringify.Toml

open Text (Reader digitsValue hexDigit?)
open Text.Reader
open Decimal (infinityBits notANumberBits signedBits)

/-- Whether every underscore stands between two digits; the flag says if a digit comes before. -/
def wellGrouped : Bool → List Char → Bool
  | afterDigit, [] => afterDigit
  | afterDigit, '_' :: rest => afterDigit && wellGrouped false rest
  | _, _ :: rest => wellGrouped true rest

/-- Takes grouped digits and leaves the underscores out. -/
def groupedDigits (isDigit : Char → Bool) : Reader (List Char) := do
  let text ← takeWhile fun c => isDigit c || c = '_'
  check (wellGrouped false text)
  return text.filter (· ≠ '_')

/-- Takes a sign and says whether it is negative. -/
def sign : Reader Bool := do
  match ← peek with
  | some '-' =>
    char '-'
    return true
  | some '+' =>
    char '+'
    return false
  | _ => return false

/-- Takes the digits of a decimal number without leading zeros. -/
def wholeDigits : Reader (List Char) := do
  let digits ← groupedDigits Char.isDigit
  check (digits.length = 1 || digits.head? ≠ some '0')
  return digits

/-- The integer of a sign and a magnitude, if it has 64 bits. -/
def signedInteger (negative : Bool) (n : Nat) : Reader Value := do
  let i : Int := if negative then -n else n
  check (decide (-0x8000000000000000 ≤ i) && decide (i ≤ 0x7FFFFFFFFFFFFFFF))
  return .integer i

/-- Takes an integer in a base other than ten. -/
def basedInteger (mark : String) (base : Nat) : Reader Value := do
  literal mark
  let digits ← groupedDigits fun c => (hexDigit? c).any (· < base)
  signedInteger false (digitsValue base digits)

/-- Takes an integer. -/
def integer : Reader Value :=
  basedInteger "0x" 16 <|> basedInteger "0o" 8 <|> basedInteger "0b" 2 <|> do
    let negative ← sign
    signedInteger negative (digitsValue 10 (← wholeDigits))

/-- Takes the fraction of a number. -/
def fractionDigits : Reader (List Char) := do
  char '.'
  groupedDigits Char.isDigit

/-- Takes the exponent of a number. -/
def exponent : Reader Int := do
  let _ ← charWhere fun c => c = 'e' || c = 'E'
  let negative ← sign
  let n := digitsValue 10 (← groupedDigits Char.isDigit)
  return if negative then -n else n

/-- Takes a floating-point number with digits. -/
def digitFloat : Reader Value := do
  let negative ← sign
  let whole ← wholeDigits
  let fraction ← maybe fractionDigits
  let exp ← maybe exponent
  check (fraction.isSome || exp.isSome)
  let fraction := fraction.getD []
  let bits := Decimal.nearest (digitsValue 10 (whole ++ fraction)) (exp.getD 0 - fraction.length)
  let bits := signedBits negative bits
  check (bits ≠ infinityBits)
  return .float bits

/-- Takes infinity or not-a-number. -/
def specialFloat : Reader Value := do
  let negative ← sign
  (do literal "inf"; return .float (signedBits negative infinityBits)) <|>
    (do literal "nan"; return .float (signedBits negative notANumberBits))

/-- Takes a number of exactly that many decimal digits. -/
def fixedNumber : Nat → Nat → Reader Nat
  | 0, n => pure n
  | k + 1, n => do
    let c ← charWhere Char.isDigit
    fixedNumber k (10 * n + (c.toNat - '0'.toNat))

/-- The number of days of a month. -/
def daysIn (year month : Nat) : Nat :=
  if month = 2 then
    if year % 4 = 0 ∧ (year % 100 ≠ 0 ∨ year % 400 = 0) then 29 else 28
  else if month ∈ [4, 6, 9, 11] then 30 else 31

/-- Takes a date. -/
def fullDate : Reader Unit := do
  let year ← fixedNumber 4 0
  char '-'
  let month ← fixedNumber 2 0
  check (decide (1 ≤ month) && decide (month ≤ 12))
  char '-'
  let day ← fixedNumber 2 0
  check (decide (1 ≤ day) && decide (day ≤ daysIn year month))

/-- Takes an hour and a minute. -/
def hourMinute : Reader Unit := do
  check (decide ((← fixedNumber 2 0) ≤ 23))
  char ':'
  check (decide ((← fixedNumber 2 0) ≤ 59))

/-- Takes a time of day. -/
def timeOfDay : Reader Unit := do
  hourMinute
  char ':'
  check (decide ((← fixedNumber 2 0) ≤ 60))
  skip do
    char '.'
    let _ ← charWhere Char.isDigit
    let _ ← takeWhile Char.isDigit

/-- Takes the offset of a time. -/
def offset : Reader Unit := do
  match ← next with
  | 'Z' | 'z' => return ()
  | '+' | '-' => hourMinute
  | _ => fail

/-- Takes a date, a time, or a date with a time and perhaps an offset. -/
def date : Reader Value := do
  dated <|> timeOfDay
  return .date
where
  /-- Takes a date with whatever belongs to it. -/
  dated : Reader Unit := do
    fullDate
    skip do
      let _ ← charWhere fun c => c = 'T' || c = 't' || c = ' '
      timeOfDay
      skip offset

/-- Takes a date or a number. -/
def dateOrNumber : Reader Value := date <|> digitFloat <|> specialFloat <|> integer

end BatchStringify.Toml
