import FormulaLexer.Proofs.Notation
import Mathlib.Order.Monotone.Basic
import Mathlib.Tactic.Linarith

namespace FormulaLexer

theorem roundDiv_bounds (n d : Nat) : n / d ≤ roundDiv n d ∧ roundDiv n d ≤ n / d + 1 := by
  simp only [roundDiv]
  split
  · omega
  · split <;> omega

theorem div_lt_roundDiv_iff {n d : Nat} :
    n / d < roundDiv n d ↔ d < 2 * (n % d) ∨ d = 2 * (n % d) ∧ n / d % 2 = 1 := by
  simp only [roundDiv]
  split
  · omega
  · split <;> omega

namespace Binary64

variable {n d k m p t : Nat}

/-- The units of the number with this magnitude. Behind the finite numbers the count goes on in the
same way. -/
def unitsAt (m : Nat) : Nat :=
  (m - (m / Nat.pow 2 52 - 1) * Nat.pow 2 52) * Nat.pow 2 (m / Nat.pow 2 52 - 1)

theorem units_eq_unitsAt (x : Binary64) : x.units = unitsAt x.magnitude := x.units_eq

/-- A significand of 53 bits may be rounded up to one more, which is carried. -/
theorem unitsAt_add (ht : t ≤ Nat.pow 2 53) (hp : p ≠ 0 → Nat.pow 2 52 ≤ t) :
    unitsAt (p * Nat.pow 2 52 + t) = t * Nat.pow 2 p := by
  simp only [Nat.pow_eq] at ht hp
  rcases Nat.lt_or_eq_of_le ht with hlt | rfl
  · have hscale : (p * 2 ^ 52 + t) / 2 ^ 52 - 1 = p := by omega
    simp only [unitsAt, Nat.pow_eq, hscale, Nat.add_sub_cancel_left]
  · have hscale : (p * 2 ^ 52 + 2 ^ 53) / 2 ^ 52 - 1 = p + 1 := by omega
    have hsignificand : p * 2 ^ 52 + 2 ^ 53 - (p + 1) * 2 ^ 52 = 2 ^ 52 := by omega
    simp only [unitsAt, Nat.pow_eq, hscale, hsignificand, Nat.pow_succ 2 p]
    omega

theorem exists_eq_add (m : Nat) :
    ∃ p t, m = p * Nat.pow 2 52 + t ∧ t < Nat.pow 2 53 ∧ (p ≠ 0 → Nat.pow 2 52 ≤ t) := by
  refine ⟨m / Nat.pow 2 52 - 1, m - (m / Nat.pow 2 52 - 1) * Nat.pow 2 52, ?_, ?_, ?_⟩
  all_goals
    simp only [Nat.pow_eq]
    omega

theorem unitsAt_lt_succ (m : Nat) : unitsAt m < unitsAt (m + 1) := by
  obtain ⟨p, t, rfl, ht, hp⟩ := exists_eq_add m
  have hp' : p ≠ 0 → Nat.pow 2 52 ≤ t + 1 := fun h => Nat.le_succ_of_le (hp h)
  rw [Nat.add_assoc, unitsAt_add (Nat.le_of_lt ht) hp, unitsAt_add ht hp']
  exact Nat.mul_lt_mul_of_pos_right (Nat.lt_succ_self t) (Nat.two_pow_pos p)

theorem strictMono_unitsAt : StrictMono unitsAt := strictMono_nat_of_lt_succ unitsAt_lt_succ

/-- A quotient is rounded to a significand of at most 53 bits, and of no fewer unless it is
subnormal. -/
theorem quotient_bounds (n d : Nat) :
    n / (d * Nat.pow 2 (roundingExponent n d)) < Nat.pow 2 53 ∧
      (roundingExponent n d ≠ 0 →
        Nat.pow 2 52 ≤ n / (d * Nat.pow 2 (roundingExponent n d))) := by
  rw [← Nat.div_div_eq_div_mul, roundingExponent]
  generalize n / d = q
  simp only [Nat.pow_eq]
  have hpos : 0 < 2 ^ (q.log2 - 52) := Nat.two_pow_pos _
  rw [Nat.div_lt_iff_lt_mul hpos, Nat.le_div_iff_mul_le hpos, ← Nat.pow_add, ← Nat.pow_add]
  apply And.intro
  · apply Nat.lt_of_lt_of_le (Nat.lt_log2_self (n := q))
    exact Nat.pow_le_pow_right (by decide) (by omega)
  · intro hp
    have hq : q ≠ 0 := by
      intro h
      exact hp (by rw [h]; rfl)
    apply Nat.le_trans _ (Nat.log2_self_le hq)
    exact Nat.pow_le_pow_right (by decide) (by omega)

/-- A quotient is between two numbers next to each other, and rounded to one of them. -/
theorem exists_bracket (n : Nat) (hd : 0 < d) :
    ∃ m, unitsAt m * d ≤ n * unitsPerOne ∧ n * unitsPerOne < unitsAt (m + 1) * d ∧
      m ≤ nearestMagnitude n d ∧ nearestMagnitude n d ≤ m + 1 ∧
      (m < nearestMagnitude n d ↔
        (unitsAt m + unitsAt (m + 1)) * d < 2 * (n * unitsPerOne) ∨
          (unitsAt m + unitsAt (m + 1)) * d = 2 * (n * unitsPerOne) ∧ m % 2 = 1) := by
  rw [nearestMagnitude]
  generalize n * unitsPerOne = scaled
  obtain ⟨ht, hp⟩ := quotient_bounds scaled d
  generalize roundingExponent scaled d = p at ht hp
  have hpos : 0 < d * Nat.pow 2 p := Nat.mul_pos hd (Nat.two_pow_pos p)
  have hmod := Nat.mod_lt scaled hpos
  have hdiv := Nat.div_add_mod scaled (d * Nat.pow 2 p)
  obtain ⟨hle, hge⟩ := roundDiv_bounds scaled (d * Nat.pow 2 p)
  have hup := @div_lt_roundDiv_iff scaled (d * Nat.pow 2 p)
  generalize roundDiv scaled (d * Nat.pow 2 p) = rounded at *
  generalize scaled / (d * Nat.pow 2 p) = t at *
  generalize scaled % (d * Nat.pow 2 p) = rest at *
  have hp' : p ≠ 0 → Nat.pow 2 52 ≤ t + 1 := fun h => Nat.le_succ_of_le (hp h)
  have hlow : unitsAt (p * Nat.pow 2 52 + t) * d = d * Nat.pow 2 p * t := by
    rw [unitsAt_add (Nat.le_of_lt ht) hp, Nat.mul_assoc, Nat.mul_comm, Nat.mul_comm _ d]
  have hhigh : unitsAt (p * Nat.pow 2 52 + (t + 1)) * d =
      d * Nat.pow 2 p * t + d * Nat.pow 2 p := by
    rw [unitsAt_add ht hp', Nat.mul_assoc, Nat.mul_comm, Nat.mul_comm _ d, Nat.mul_succ]
  refine ⟨p * Nat.pow 2 52 + t, ?_, ?_, by omega, by omega, ?_⟩
  · omega
  · rw [Nat.add_assoc]
    omega
  · have hodd : (p * Nat.pow 2 52 + t) % 2 = t % 2 := by
      simp only [Nat.pow_eq]
      omega
    rw [Nat.add_mul, Nat.add_assoc, hlow, hhigh, hodd, Nat.add_lt_add_iff_left, hup, ← hdiv]
    omega

def valueAt (m : Nat) : ℚ := unitsAt m / unitsPerOne

/-- The number `r` is beyond the middle between the numbers with the magnitudes `m` and `m + 1`, or
at the middle when that goes to the second, which is the even one. -/
def Past (m : Nat) (r : ℚ) : Prop :=
  valueAt m + valueAt (m + 1) < 2 * r ∨ valueAt m + valueAt (m + 1) = 2 * r ∧ m % 2 = 1

def Rounds (r : ℚ) (m : Nat) : Prop := ∀ k, k < m ↔ Past k r

theorem absValue_eq_valueAt (x : Binary64) : x.absValue = valueAt x.magnitude := by
  rw [absValue, units_eq_unitsAt, valueAt]

theorem past_div_iff (hd : 0 < d) :
    Past k (n / d) ↔
      (unitsAt k + unitsAt (k + 1)) * d < 2 * (n * unitsPerOne) ∨
        (unitsAt k + unitsAt (k + 1)) * d = 2 * (n * unitsPerOne) ∧ k % 2 = 1 := by
  have hpos := unitsPerOne_pos
  rw [Past, valueAt, valueAt]
  generalize unitsPerOne = u at *
  have hu : (0 : ℚ) < u := Nat.cast_pos.mpr hpos
  have hd' : (0 : ℚ) < d := Nat.cast_pos.mpr hd
  rw [← add_div, ← mul_div_assoc, div_lt_div_iff₀ hu hd', div_eq_div_iff hu.ne' hd'.ne', mul_assoc]
  norm_cast

theorem rounds_nearestMagnitude (n : Nat) (hd : 0 < d) :
    Rounds (n / d) (nearestMagnitude n d) := by
  intro k
  rw [past_div_iff hd]
  obtain ⟨m, hlow, hhigh, hle, hge, hup⟩ := exists_bracket n hd
  have hmono {i j : Nat} (h : i ≤ j) : unitsAt i * d ≤ unitsAt j * d :=
    Nat.mul_le_mul_right d (strictMono_unitsAt.monotone h)
  have hlt : unitsAt k * d < unitsAt (k + 1) * d :=
    Nat.mul_lt_mul_of_pos_right (unitsAt_lt_succ k) hd
  rw [Nat.add_mul]
  rcases Nat.lt_trichotomy k m with hk | rfl | hk
  · -- Both numbers are at most the quotient.
    have hnext : unitsAt (k + 1) * d ≤ unitsAt m * d := hmono hk
    exact iff_of_true (by omega) (.inl (by omega))
  · rwa [Nat.add_mul] at hup
  · -- Both numbers are greater than the quotient.
    have hnext : unitsAt (m + 1) * d ≤ unitsAt k * d := hmono hk
    exact iff_of_false (by omega) (by omega)

section Rounds

variable {r r' : ℚ} {m' : Nat}

theorem strictMono_valueAt : StrictMono valueAt := by
  have hu : (0 : ℚ) < unitsPerOne := Nat.cast_pos.mpr unitsPerOne_pos
  intro i j h
  exact div_lt_div_of_pos_right (Nat.cast_lt.mpr (strictMono_unitsAt h)) hu

theorem Past.mono (h : Past m r) (hr : r ≤ r') : Past m r' := by
  rcases hr.eq_or_lt with rfl | hlt
  · exact h
  · rcases h with h | ⟨h, -⟩
    · exact .inl (by linarith)
    · exact .inl (by linarith)

theorem Past.le (h : Past m r) : valueAt m + valueAt (m + 1) ≤ 2 * r := by
  rcases h with h | ⟨h, -⟩
  · exact h.le
  · exact h.le

theorem le_of_not_past (h : ¬ Past m r) : 2 * r ≤ valueAt m + valueAt (m + 1) :=
  not_lt.mp fun hlt => h (.inl hlt)

/-- A greater number is not rounded to a smaller one. -/
theorem Rounds.mono (h : Rounds r m) (h' : Rounds r' m') (hr : r ≤ r') : m ≤ m' := by
  apply Nat.le_of_not_lt
  intro hlt
  have hpast := ((h m').mp hlt).mono hr
  exact Nat.lt_irrefl m' ((h' m').mpr hpast)

/-- No number below is nearer, and one as near is odd. -/
theorem Rounds.of_lt (h : Rounds r m) (hk : k < m) :
    |r - valueAt m| ≤ |r - valueAt k| ∧ (|r - valueAt m| = |r - valueAt k| → m % 2 = 0) := by
  obtain ⟨j, rfl⟩ := Nat.exists_eq_succ_of_ne_zero (Nat.ne_zero_of_lt hk)
  have hpast := (h j).mp (Nat.lt_succ_self j)
  have hle := hpast.le
  have hkj : valueAt k ≤ valueAt j := strictMono_valueAt.monotone (Nat.le_of_lt_succ hk)
  have hj : valueAt j < valueAt (j + 1) := strictMono_valueAt (Nat.lt_succ_self j)
  have hdist : |r - valueAt (j + 1)| ≤ r - valueAt j := abs_le.mpr ⟨by linarith, by linarith⟩
  have hself := le_abs_self (r - valueAt k)
  apply And.intro (by linarith)
  intro he
  have hmiddle : valueAt j + valueAt (j + 1) = 2 * r := by
    rcases abs_cases (r - valueAt (j + 1)) with ⟨ha, -⟩ | ⟨ha, -⟩
    · linarith
    · linarith
  rcases hpast with hlt | ⟨-, hodd⟩
  · linarith
  · omega

theorem Rounds.of_gt (h : Rounds r m) (hk : m < k) :
    |r - valueAt m| ≤ |r - valueAt k| ∧ (|r - valueAt m| = |r - valueAt k| → m % 2 = 0) := by
  have hpast : ¬ Past m r := fun hp => Nat.lt_irrefl m ((h m).mpr hp)
  have hle := le_of_not_past hpast
  have hkm : valueAt (m + 1) ≤ valueAt k := strictMono_valueAt.monotone hk
  have hm : valueAt m < valueAt (m + 1) := strictMono_valueAt (Nat.lt_succ_self m)
  have hdist : |r - valueAt m| ≤ valueAt (m + 1) - r := abs_le.mpr ⟨by linarith, by linarith⟩
  have hself := neg_abs_le (r - valueAt k)
  apply And.intro (by linarith)
  intro he
  have hmiddle : valueAt m + valueAt (m + 1) = 2 * r := by
    rcases abs_cases (r - valueAt m) with ⟨ha, -⟩ | ⟨ha, -⟩
    · linarith
    · linarith
  rcases Nat.mod_two_eq_zero_or_one m with heven | hodd
  · exact heven
  · exact absurd (.inr ⟨hmiddle, hodd⟩) hpast

theorem Rounds.abs_sub_le (h : Rounds r m) (k : Nat) : |r - valueAt m| ≤ |r - valueAt k| := by
  rcases Nat.lt_trichotomy k m with hk | rfl | hk
  · exact (h.of_lt hk).1
  · exact le_refl _
  · exact (h.of_gt hk).1

theorem Rounds.even_of_eq (h : Rounds r m) (hk : k ≠ m)
    (he : |r - valueAt m| = |r - valueAt k|) : m % 2 = 0 := by
  rcases Nat.lt_or_gt_of_ne hk with hlt | hgt
  · exact (h.of_lt hlt).2 he
  · exact (h.of_gt hgt).2 he

end Rounds

end Binary64

end FormulaLexer
