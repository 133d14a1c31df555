namespace FormulaLexer

/-- A binary64 number, or one of the patterns that stand for no number. -/
structure Binary64 where
  bits : UInt64
deriving DecidableEq

namespace Binary64

/-- The pattern without its sign bit, which grows with the absolute value. -/
def magnitude (x : Binary64) : Nat := x.bits.toNat % Nat.pow 2 63

def isNegative (x : Binary64) : Bool := Nat.pow 2 63 ≤ x.bits.toNat

/-- The magnitude of the infinities, just above that of every finite number. -/
def infinityMagnitude : Nat := 2047 * Nat.pow 2 52

def isFinite (x : Binary64) : Bool := x.magnitude < infinityMagnitude

def isInfinite (x : Binary64) : Bool := x.magnitude = infinityMagnitude

def isNaN (x : Binary64) : Bool := infinityMagnitude < x.magnitude

def isZero (x : Binary64) : Bool := x.magnitude = 0

def ofMagnitude (n : Nat) : Binary64 := ⟨UInt64.ofNat n⟩

/-- The least positive number is `2 ^ -leastExponent`. -/
def leastExponent : Nat := 1074

def unitsPerOne : Nat := Nat.pow 2 leastExponent

/-- How often the least positive number goes into a finite number, without its sign. Magnitudes
below `2 ^ 52` are the subnormal numbers, which lack the implicit leading bit. -/
def units (x : Binary64) : Nat :=
  let field := x.magnitude / Nat.pow 2 52
  if field = 0 then x.magnitude
  else (Nat.pow 2 52 + x.magnitude % Nat.pow 2 52) * Nat.pow 2 (field - 1)

/-- Equality of the numbers denoted: the two zeros are equal, and no NaN equals anything. -/
def numericEq (x y : Binary64) : Bool :=
  !x.isNaN && !y.isNaN && (x = y || (x.isZero && y.isZero))

theorem unitsPerOne_pos : 0 < unitsPerOne := by
  unfold unitsPerOne
  generalize leastExponent = n
  exact Nat.two_pow_pos n

theorem isNaN_of_isFinite {x : Binary64} (h : x.isFinite = true) : x.isNaN = false := by
  simp only [isNaN, isFinite, decide_eq_true_eq, decide_eq_false_iff_not] at *
  omega

theorem numericEq_self (x : Binary64) : x.numericEq x = !x.isNaN := by
  simp [numericEq]

end Binary64

end FormulaLexer
