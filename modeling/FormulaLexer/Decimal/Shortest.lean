import FormulaLexer.Decimal.Basic

namespace FormulaLexer

/-- The first decimal found among the exponents `e`, `e - 1`, …, and the last resort at the exponent
`e - steps` when none is found before. -/
def Decimal.search (find? : Int → Option Decimal) (last : Int → Decimal) : Nat → Int → Decimal
  | 0, e => last e
  | steps + 1, e =>
    match find? e with
    | some d => d
    | none => search find? last steps (e - 1)

namespace Binary64

/-- The multiple of `10 ^ e` just below the number, or the number itself. -/
def truncateAt (x : Binary64) (e : Int) : Decimal :=
  ⟨x.units * Nat.pow 10 (-e).toNat / (unitsPerOne * Nat.pow 10 e.toNat), e⟩

/-- The two multiples of `10 ^ e` around the number are its quotient by `10 ^ e`, rounded down, and
the next one. Only those that read back count; of two, the nearer is taken, and the upper one when
the number is midway. -/
def decimalAt? (x : Binary64) (e : Int) : Option Decimal :=
  let n := x.units * Nat.pow 10 (-e).toNat
  let d := unitsPerOne * Nat.pow 10 e.toNat
  let lower : Decimal := ⟨n / d, e⟩
  let upper : Decimal := ⟨n / d + 1, e⟩
  if lower.toBinary64 = x then
    if upper.toBinary64 = x ∧ d ≤ 2 * (n % d) then some upper else some lower
  else if upper.toBinary64 = x then some upper
  else none

/-- An exponent whose power of ten is at least twice the number, so that no multiple of a greater
power is near it. -/
def coarsestExponent (x : Binary64) : Int :=
  if unitsPerOne ≤ x.units then (Nat.toDigits 10 (x.units / unitsPerOne)).length + 1
  else 2 - (Nat.toDigits 10 (unitsPerOne / x.units)).length

/-- An exponent whose power of ten divides the least positive number, and so all others. -/
def finestExponent : Int := -leastExponent

/-- The decimal with the fewest digits that reads back as the positive finite number `x`, and of
those the nearest. -/
def shortestDecimal (x : Binary64) : Decimal :=
  Decimal.search x.decimalAt? x.truncateAt (x.coarsestExponent - finestExponent).toNat
    x.coarsestExponent

end Binary64

end FormulaLexer
