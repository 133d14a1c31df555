import FormulaLexer.Binary64.Basic

namespace FormulaLexer

/-- The natural number nearest to `n / d`; the middle between two goes to the even one. -/
def roundDiv (n d : Nat) : Nat :=
  let floor := n / d
  let twice := 2 * (n % d)
  if twice < d then floor
  else if d < twice then floor + 1
  else floor + floor % 2

namespace Binary64

/-- The exponent `p` for which `n / d` units are rounded to a multiple of `2 ^ p`: the one that
leaves 53 significant bits, or 0 where there are fewer. -/
def roundingExponent (n d : Nat) : Nat := (n / d).log2 - 52

/-- The magnitude that `n / d` is rounded to, before those that are too great are made infinite. A
significand that rounds up to `2 ^ 53` carries into the exponent field. -/
def nearestMagnitude (n d : Nat) : Nat :=
  let scaled := n * unitsPerOne
  let p := roundingExponent scaled d
  p * Nat.pow 2 52 + roundDiv scaled (d * Nat.pow 2 p)

/-- The binary64 number nearest to `n / d`, halves to even. -/
def ofQuotient (n d : Nat) : Binary64 :=
  ofMagnitude (min (nearestMagnitude n d) infinityMagnitude)

end Binary64

end FormulaLexer
