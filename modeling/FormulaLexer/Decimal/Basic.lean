import FormulaLexer.Binary64.Rounding

namespace FormulaLexer

/-- The decimal number `coefficient · 10 ^ exponent`. -/
structure Decimal where
  coefficient : Nat
  exponent : Int
deriving DecidableEq

namespace Decimal

/-- The number is `d.numerator / d.denominator`. -/
def numerator (d : Decimal) : Nat := d.coefficient * Nat.pow 10 d.exponent.toNat

def denominator (d : Decimal) : Nat := Nat.pow 10 (-d.exponent).toNat

def toBinary64 (d : Decimal) : Binary64 := Binary64.ofQuotient d.numerator d.denominator

end Decimal

end FormulaLexer
