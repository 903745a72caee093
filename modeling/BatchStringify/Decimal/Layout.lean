import BatchStringify.Decimal.Shortest

/-!
# Layout of decimal numbers

How the shortest digits of a floating-point number are set: always positionally, or with an
exponent outside a range of magnitudes, and with or without `.0` behind a whole number.
-/

namespace BatchStringify.Decimal

open Binary (Format Number)

/-- The choices of a layout. -/
structure Layout where
  /-- Whether a positional whole number ends in `.0`. -/
  marksWhole : Bool
  /-- The least and the greatest position of the point that are still written positionally;
  `none` writes every number positionally. -/
  positional : Option (Int × Int)

/-- Positional, and whole numbers without a point. -/
def Layout.plain : Layout := ⟨false, none⟩

/-- Positional, and whole numbers with `.0`. -/
def Layout.marked : Layout := ⟨true, none⟩

/-- Positional with `.0` from 1e-4 to below 1e16, with an exponent outside. -/
def Layout.descriptive : Layout := ⟨true, some (-3, 16)⟩

/-- A number of zeros. -/
def zeros (n : Nat) : String := String.ofList (List.replicate n '0')

namespace Layout

variable (l : Layout)

/-- Digits with the point behind the first `point` of them. -/
def setPositional (digits : List Char) (point : Int) : String :=
  if point ≤ 0 then "0." ++ zeros (-point).toNat ++ String.ofList digits
  else
    let whole := point.toNat
    if digits.length ≤ whole then
      String.ofList digits ++ zeros (whole - digits.length) ++ (if l.marksWhole then ".0" else "")
    else String.ofList (digits.take whole) ++ "." ++ String.ofList (digits.drop whole)

/-- One digit, the others behind a point, and the exponent. -/
def setScientific (digits : List Char) (point : Int) : String :=
  String.ofList (digits.take 1) ++
    (if digits.length ≤ 1 then "" else "." ++ String.ofList (digits.drop 1)) ++
    "e" ++ toString (point - 1)

/-- The text of a positive decimal. -/
def text (x : Digits) : String :=
  let digits := Nat.toDigits 10 x.digits
  let point := (digits.length : Int) + x.exponent
  match l.positional with
  | none => l.setPositional digits point
  | some (least, greatest) =>
    if least ≤ point ∧ point ≤ greatest then l.setPositional digits point
    else setScientific digits point

/-- The text of a floating-point number given by its bits. -/
def ofBits (f : Format) (bits : Nat) : String :=
  match f.decode bits with
  | .nan => "NaN"
  | .infinite negative => (if negative then "-" else "") ++ "inf"
  | .finite negative m q =>
    (if negative then "-" else "") ++
      (if m = 0 then (if l.marksWhole then "0.0" else "0") else l.text (shortest f m q))

end Layout

end BatchStringify.Decimal
