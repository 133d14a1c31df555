import FormulaLexer.Binary64.Rounding
import Mathlib.Algebra.Group.Nat.Defs

namespace FormulaLexer

theorem roundDiv_mul_right {k : Nat} (hk : 0 < k) (n d : Nat) :
    roundDiv (n * k) (d * k) = roundDiv n d := by
  have htwice : 2 * (n % d * k) = 2 * (n % d) * k := (Nat.mul_assoc _ _ _).symm
  simp only [roundDiv, Nat.mul_div_mul_right _ _ hk, Nat.mul_mod_mul_right, htwice,
    Nat.mul_lt_mul_right hk]

theorem roundDiv_mul_self {d : Nat} (hd : 0 < d) (n : Nat) : roundDiv (n * d) d = n := by
  simp only [roundDiv, Nat.mul_mod_left, Nat.mul_zero, if_pos hd, Nat.mul_div_cancel _ hd]

namespace Binary64

/-- The quotient alone matters, not the terms it is given in. -/
theorem ofQuotient_mul_right {k : Nat} (hk : 0 < k) (n d : Nat) :
    ofQuotient (n * k) (d * k) = ofQuotient n d := by
  have hn : n * k * unitsPerOne = n * unitsPerOne * k := Nat.mul_right_comm _ _ _
  have hd (p : Nat) : d * k * p = d * p * k := Nat.mul_right_comm _ _ _
  simp only [ofQuotient, nearestMagnitude, roundingExponent, hn, hd, Nat.mul_div_mul_right _ _ hk,
    roundDiv_mul_right hk]

variable {x : Binary64}

/-- A finite number is `x.significand` times the power `x.scale` of 2. -/
def scale (x : Binary64) : Nat := x.magnitude / Nat.pow 2 52 - 1

def significand (x : Binary64) : Nat := x.magnitude - x.scale * Nat.pow 2 52

theorem magnitude_eq (x : Binary64) : x.scale * Nat.pow 2 52 + x.significand = x.magnitude := by
  simp only [significand, scale, Nat.pow_eq]
  omega

theorem significand_lt (x : Binary64) : x.significand < Nat.pow 2 53 := by
  simp only [significand, scale, Nat.pow_eq]
  omega

theorem le_significand (h : x.scale ≠ 0) : Nat.pow 2 52 ≤ x.significand := by
  simp only [significand, scale, Nat.pow_eq] at *
  omega

theorem units_eq (x : Binary64) : x.units = x.significand * Nat.pow 2 x.scale := by
  simp only [units]
  split
  · rename_i h
    simp only [significand, scale, h]
    simp
  · rename_i h
    have hs : x.significand = Nat.pow 2 52 + x.magnitude % Nat.pow 2 52 := by
      simp only [significand, scale, Nat.pow_eq] at *
      omega
    rw [hs, scale]

theorem le_units {k : Nat} (hk : k ≤ x.scale) (h0 : x.scale ≠ 0) :
    Nat.pow 2 52 * Nat.pow 2 k ≤ x.units := by
  rw [units_eq]
  exact Nat.mul_le_mul (le_significand h0) (Nat.pow_le_pow_right (by decide) hk)

theorem log2_mul_two_pow_sub {s k : Nat} (hs : s < Nat.pow 2 53) (hk : k ≠ 0 → Nat.pow 2 52 ≤ s) :
    (s * Nat.pow 2 k).log2 - 52 = k := by
  simp only [Nat.pow_eq] at *
  by_cases h : k = 0
  · subst h
    rw [Nat.pow_zero, Nat.mul_one]
    by_cases h0 : s = 0
    · subst h0
      rfl
    · have hlog := (Nat.log2_lt h0).mpr hs
      omega
  · have hpos : 0 < 2 ^ k := Nat.two_pow_pos k
    have hlow : 2 ^ (52 + k) ≤ s * 2 ^ k := by
      rw [Nat.pow_add]
      exact Nat.mul_le_mul_right _ (hk h)
    have hhigh : s * 2 ^ k < 2 ^ (52 + k + 1) := by
      rw [Nat.add_right_comm, Nat.pow_add]
      exact Nat.mul_lt_mul_of_pos_right hs hpos
    have hne : s * 2 ^ k ≠ 0 := by
      have := hk h
      exact Nat.mul_ne_zero (by omega) (Nat.ne_of_gt hpos)
    rw [(Nat.log2_eq_iff hne).mpr ⟨hlow, hhigh⟩]
    omega

theorem ofMagnitude_magnitude (hs : x.isNegative = false) : ofMagnitude x.magnitude = x := by
  have hlt : x.bits.toNat < Nat.pow 2 63 := by simpa [isNegative] using hs
  rw [ofMagnitude, magnitude, Nat.mod_eq_of_lt hlt, UInt64.ofNat_toNat]

theorem ofQuotient_of_exact {n d : Nat} (hf : x.isFinite = true) (hs : x.isNegative = false)
    (hd : 0 < d) (h : n * unitsPerOne = x.units * d) : ofQuotient n d = x := by
  have hp : roundingExponent (x.units * d) d = x.scale := by
    rw [roundingExponent, Nat.mul_div_cancel _ hd, units_eq]
    exact log2_mul_two_pow_sub x.significand_lt le_significand
  have hround : roundDiv (x.units * d) (d * Nat.pow 2 x.scale) = x.significand := by
    rw [units_eq, Nat.mul_assoc, Nat.mul_comm _ d]
    exact roundDiv_mul_self (Nat.mul_pos hd (Nat.pow_pos (by decide))) _
  have hm : x.magnitude ≤ infinityMagnitude := Nat.le_of_lt (of_decide_eq_true hf)
  simp only [ofQuotient, nearestMagnitude, h, hp, hround, magnitude_eq, Nat.min_eq_left hm]
  exact ofMagnitude_magnitude hs

variable {n : Nat}

theorem infinityMagnitude_lt : infinityMagnitude < Nat.pow 2 63 := by
  decide +kernel

theorem toNat_bits_ofMagnitude (h : n < Nat.pow 2 63) : (ofMagnitude n).bits.toNat = n := by
  have hlt : Nat.pow 2 63 < UInt64.size := by decide +kernel
  exact UInt64.toNat_ofNat_of_lt' (Nat.lt_trans h hlt)

theorem isNegative_ofMagnitude (h : n < Nat.pow 2 63) : (ofMagnitude n).isNegative = false := by
  rw [isNegative, toNat_bits_ofMagnitude h]
  exact decide_eq_false (Nat.not_le_of_lt h)

theorem magnitude_ofMagnitude (h : n < Nat.pow 2 63) : (ofMagnitude n).magnitude = n := by
  rw [magnitude, toNat_bits_ofMagnitude h, Nat.mod_eq_of_lt h]

theorem ofQuotient_class (n d : Nat) :
    (ofQuotient n d).isNegative = false ∧ (ofQuotient n d).isNaN = false := by
  rw [ofQuotient]
  have hle := Nat.min_le_right (nearestMagnitude n d) infinityMagnitude
  have hlt := Nat.lt_of_le_of_lt hle infinityMagnitude_lt
  apply And.intro (isNegative_ofMagnitude hlt)
  rw [isNaN, magnitude_ofMagnitude hlt]
  exact decide_eq_false (Nat.not_lt_of_le hle)

end Binary64

end FormulaLexer
