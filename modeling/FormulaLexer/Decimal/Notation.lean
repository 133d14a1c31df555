import FormulaLexer.Decimal.Shortest

namespace FormulaLexer

namespace Decimal

/-- Positional notation, with at least one digit on each side of the point. -/
def positional (d : Decimal) : List Char :=
  let digits := Nat.toDigits 10 d.coefficient
  if 0 ≤ d.exponent then digits ++ List.replicate d.exponent.toNat '0' ++ ['.', '0']
  else
    let places := (-d.exponent).toNat
    let padded := List.replicate (places + 1 - digits.length) '0' ++ digits
    padded.take (padded.length - places) ++ '.' :: padded.drop (padded.length - places)

def pointAfterFirst : List Char → List Char
  | first :: second :: more => first :: '.' :: second :: more
  | digits => digits

/-- Scientific notation, with the exponent of the first digit. -/
def scientific (d : Decimal) : List Char :=
  let digits := Nat.toDigits 10 d.coefficient
  pointAfterFirst digits ++ 'e' :: (d.exponent + (digits.length - 1 : Nat)).repr.toList

end Decimal

namespace Binary64

/-- Whether the absolute value is at least `10 ^ -4` and less than `10 ^ 16`. -/
def isPositional (x : Binary64) : Bool :=
  unitsPerOne ≤ x.units * Nat.pow 10 4 && x.units < Nat.pow 10 16 * unitsPerOne

def unsignedText (x : Binary64) : List Char :=
  if x.isZero then ['0', '.', '0']
  else if x.isInfinite then ['i', 'n', 'f']
  else
    let d := (ofMagnitude x.magnitude).shortestDecimal
    if x.isPositional then d.positional else d.scientific

/-- The text of a number. The sign of a zero is shown, that of a NaN is not. -/
def text (x : Binary64) : String :=
  if x.isNaN then "NaN"
  else String.ofList (if x.isNegative then '-' :: x.unsignedText else x.unsignedText)

end Binary64

end FormulaLexer
