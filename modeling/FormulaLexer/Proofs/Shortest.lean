import FormulaLexer.Decimal.Shortest
import FormulaLexer.Proofs.Rounding

namespace FormulaLexer

variable {x : Binary64} {e : Int} {d : Decimal}

namespace Decimal

/-- A search keeps to what holds of all that is found on the way and of the last resort. -/
theorem search_induction {motive : Decimal → Prop} {find? : Int → Option Decimal}
    {last : Int → Decimal} (found : ∀ e d, find? e = some d → motive d) (steps : Nat)
    (resort : motive (last (e - steps))) : motive (search find? last steps e) := by
  induction steps generalizing e with
  | zero =>
    rw [Int.ofNat_zero, Int.sub_zero] at resort
    exact resort
  | succ steps ih =>
    rw [search]
    split
    · rename_i d hd
      exact found e d hd
    · apply ih
      rw [Int.sub_sub, Int.add_comm]
      exact resort

theorem toBinary64_of_places (n places : Nat) :
    (Decimal.mk n (-(places : Int))).toBinary64 = Binary64.ofQuotient n (Nat.pow 10 places) := by
  have hn : n * Nat.pow 10 (-(places : Int)).toNat = n := by
    rw [Int.toNat_neg_natCast, Nat.pow_eq, Nat.pow_zero, Nat.mul_one]
  rw [toBinary64, numerator, denominator, hn, Int.neg_neg, Int.toNat_natCast]

theorem toBinary64_of_natCast (n e : Nat) :
    (Decimal.mk n e).toBinary64 = Binary64.ofQuotient (n * Nat.pow 10 e) 1 := by
  have hd : Nat.pow 10 (-(e : Int)).toNat = 1 := by
    rw [Int.toNat_neg_natCast, Nat.pow_eq, Nat.pow_zero]
  rw [toBinary64, numerator, denominator, hd, Int.toNat_natCast]

end Decimal

namespace Binary64

theorem toBinary64_of_decimalAt? (h : x.decimalAt? e = some d) : d.toBinary64 = x := by
  simp only [decimalAt?] at h
  split at h
  · rename_i hlower
    split at h
    · rename_i hupper
      exact Option.some.inj h ▸ hupper.1
    · exact Option.some.inj h ▸ hlower
  · split at h
    · rename_i hupper
      exact Option.some.inj h ▸ hupper
    · cases h

theorem unitsPerOne_mul : unitsPerOne * Nat.pow 5 leastExponent = Nat.pow 10 leastExponent := by
  unfold unitsPerOne
  generalize leastExponent = n
  exact (Nat.mul_pow 2 5 n).symm

theorem toBinary64_truncateAt {places : Nat}
    (hp : unitsPerOne * Nat.pow 5 places = Nat.pow 10 places) (hf : x.isFinite = true)
    (hs : x.isNegative = false) : (x.truncateAt (-(places : Int))).toBinary64 = x := by
  have hn : x.units * Nat.pow 10 places / unitsPerOne = x.units * Nat.pow 5 places := by
    rw [← hp, Nat.mul_left_comm, Nat.mul_div_cancel_left _ unitsPerOne_pos]
  have hd : unitsPerOne * Nat.pow 10 (-(places : Int)).toNat = unitsPerOne := by
    rw [Int.toNat_neg_natCast, Nat.pow_eq, Nat.pow_zero, Nat.mul_one]
  have hten : 0 < Nat.pow 10 places := Nat.pow_pos (by decide)
  rw [truncateAt, hd, Int.neg_neg, Int.toNat_natCast, hn, Decimal.toBinary64_of_places]
  apply ofQuotient_of_exact hf hs hten
  rw [← hp, Nat.mul_assoc, Nat.mul_comm unitsPerOne]

theorem length_toDigits_le {n places : Nat} (h : n ≤ Nat.pow 10 places) :
    (Nat.toDigits 10 n).length ≤ places + 1 := by
  apply (Nat.length_toDigits_le_iff (by decide) (Nat.succ_pos places)).mpr
  have hlt : 10 ^ places < 10 ^ (places + 1) := Nat.pow_lt_pow_succ (by decide)
  exact Nat.lt_of_le_of_lt h hlt

theorem unitsPerOne_le {places : Nat}
    (hp : unitsPerOne * Nat.pow 5 places = Nat.pow 10 places) :
    unitsPerOne ≤ Nat.pow 10 places := by
  have hfive : 0 < Nat.pow 5 places := Nat.pow_pos (by decide)
  rw [← hp]
  exact Nat.le_mul_of_pos_right _ hfive

theorem finestExponent_le_coarsestExponent (x : Binary64) :
    finestExponent ≤ x.coarsestExponent := by
  have hle : unitsPerOne ≤ Nat.pow 10 leastExponent := unitsPerOne_le unitsPerOne_mul
  have hlen : (Nat.toDigits 10 (unitsPerOne / x.units)).length ≤ leastExponent + 1 :=
    length_toDigits_le (Nat.le_trans (Nat.div_le_self _ _) hle)
  rw [finestExponent, coarsestExponent]
  split <;> omega

theorem toBinary64_shortestDecimal (hf : x.isFinite = true) (hs : x.isNegative = false) :
    x.shortestDecimal.toBinary64 = x := by
  have hle := x.finestExponent_le_coarsestExponent
  have hend : x.coarsestExponent - (x.coarsestExponent - finestExponent).toNat =
      -(leastExponent : Int) := by
    rw [Int.toNat_of_nonneg (by omega), Int.sub_sub_self]
    rfl
  apply Decimal.search_induction (fun e d => toBinary64_of_decimalAt?)
  -- Where the search ends nothing is cut off.
  rw [hend]
  exact toBinary64_truncateAt unitsPerOne_mul hf hs

end Binary64

end FormulaLexer
