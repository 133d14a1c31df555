import FormulaLexer.Proofs.Grammar
import FormulaLexer.Proofs.Nearest
import Mathlib.Algebra.Order.Ring.WithTop
import Mathlib.Tactic.FieldSimp
import Mathlib.Tactic.Ring

namespace FormulaLexer

namespace Binary64

variable {x : Binary64} {r : ℚ} {n d k t : Nat}

/-- The number that a finite pattern stands for. -/
def value (x : Binary64) : ℚ := if x.isNegative then -x.absValue else x.absValue

/-- The number that a pattern stands for, or infinity. -/
def extended (x : Binary64) : WithTop ℚ := if x.isInfinite then ⊤ else x.value

/-- Rounding to the nearest number makes `x` of the number `r`, which is not negative. What is in the
middle goes to the number with the even significand. From the middle between the greatest number and
the next that there would be, all goes to infinity. -/
structure IsNearest (r : ℚ) (x : Binary64) : Prop where
  isNegative : x.isNegative = false
  isNaN : x.isNaN = false
  isInfinite_iff : x.isInfinite = true ↔ 2 ^ 1024 - 2 ^ 970 ≤ r
  eq_zero_iff : x = ⟨0⟩ ↔ r ≤ 1 / 2 ^ 1075
  nearest : x.isInfinite = false →
    ∀ y : Binary64, y.isFinite = true → |r - x.value| ≤ |r - y.value|
  even : x.isInfinite = false →
    ∀ y : Binary64, y.isFinite = true → y.value ≠ x.value →
      |r - x.value| = |r - y.value| → x.significand % 2 = 0

theorem cast_unitsPerOne : (unitsPerOne : ℚ) = 2 ^ leastExponent := by
  unfold unitsPerOne
  generalize leastExponent = n
  exact Nat.cast_pow 2 n

theorem valueAt_zero : valueAt 0 = 0 := by
  have h : unitsAt 0 = 0 := by decide
  rw [valueAt, h, Nat.cast_zero, zero_div]

theorem valueAt_nonneg (m : Nat) : 0 ≤ valueAt m := by
  rw [← valueAt_zero]
  exact strictMono_valueAt.monotone (Nat.zero_le m)

/-- Half of the least positive number is rounded down. -/
theorem past_zero_iff : Past 0 r ↔ 1 / 2 ^ 1075 < r := by
  have hone : unitsAt 1 = 1 := by decide
  have hpow : (2 : ℚ) ^ 1075 = unitsPerOne * 2 := by
    rw [cast_unitsPerOne]
    exact pow_succ 2 leastExponent
  have hu : (unitsPerOne : ℚ) ≠ 0 := Nat.cast_ne_zero.mpr unitsPerOne_pos.ne'
  have hvalue : valueAt 0 + valueAt 1 = 2 * (1 / 2 ^ 1075) := by
    rw [valueAt_zero, zero_add, valueAt, hone, Nat.cast_one, hpow]
    generalize (unitsPerOne : ℚ) = u at hu
    field_simp
  have heven : ¬ 0 % 2 = 1 := by decide
  rw [Past, hvalue, mul_lt_mul_iff_right₀ two_pos]
  exact or_iff_left fun h => heven h.2

theorem valueAt_add (ht : t ≤ Nat.pow 2 53) (hle : Nat.pow 2 52 ≤ t) :
    valueAt ((leastExponent + k) * Nat.pow 2 52 + t) = t * 2 ^ k := by
  have hu : (unitsPerOne : ℚ) ≠ 0 := Nat.cast_ne_zero.mpr unitsPerOne_pos.ne'
  rw [valueAt, unitsAt_add ht fun _ => hle, two_pow_leastExponent_add, Nat.mul_left_comm,
    Nat.cast_mul, mul_div_cancel_left₀ _ hu, Nat.cast_mul, Nat.pow_eq, Nat.cast_pow]
  rfl

/-- The number with the greatest magnitude is odd, so the middle behind it is rounded up. -/
theorem past_last_iff : Past (infinityMagnitude - 1) r ↔ 2 ^ 1024 - 2 ^ 970 ≤ r := by
  have hlast : infinityMagnitude - 1 =
      (leastExponent + 971) * Nat.pow 2 52 + (Nat.pow 2 53 - 1) := by decide +kernel
  have hnext : infinityMagnitude - 1 + 1 =
      (leastExponent + 971) * Nat.pow 2 52 + Nat.pow 2 53 := by decide +kernel
  have hodd : (infinityMagnitude - 1) % 2 = 1 := by decide +kernel
  have hvalue : valueAt (infinityMagnitude - 1) + valueAt (infinityMagnitude - 1 + 1) =
      2 * (2 ^ 1024 - 2 ^ 970) := by
    have hlarge : (2 : ℚ) ^ 1024 = 2 ^ 54 * 2 ^ 970 := pow_add 2 54 970
    have hstep : (2 : ℚ) ^ 971 = 2 * 2 ^ 970 := pow_succ' 2 970
    rw [hnext, hlast, valueAt_add (by decide) (by decide), valueAt_add (by decide) (by decide),
      hlarge, hstep]
    generalize (2 : ℚ) ^ 970 = w
    norm_num
    ring
  rw [Past, hvalue, and_iff_left hodd, ← le_iff_lt_or_eq]
  exact mul_le_mul_iff_right₀ two_pos

theorem magnitude_ofQuotient (n d : Nat) :
    (ofQuotient n d).magnitude = min (nearestMagnitude n d) infinityMagnitude := by
  rw [ofQuotient]
  exact magnitude_ofMagnitude (Nat.lt_of_le_of_lt (Nat.min_le_right _ _) infinityMagnitude_lt)

theorem isInfinite_ofQuotient_iff :
    (ofQuotient n d).isInfinite = true ↔ infinityMagnitude - 1 < nearestMagnitude n d := by
  have hpos : 0 < infinityMagnitude := by decide
  rw [isInfinite, decide_eq_true_eq, magnitude_ofQuotient]
  omega

theorem ofQuotient_eq_zero_iff : ofQuotient n d = ⟨0⟩ ↔ ¬ 0 < nearestMagnitude n d := by
  have hpos : 0 < infinityMagnitude := by decide
  have hm := magnitude_ofQuotient n d
  apply Iff.intro
  · intro h
    have hzero : (ofQuotient n d).magnitude = 0 := by
      rw [h]
      rfl
    omega
  · intro h
    exact eq_zero_of_isZero (ofQuotient_class n d).1 (decide_eq_true (by omega))

theorem magnitude_ofQuotient_of_isInfinite (h : (ofQuotient n d).isInfinite = false) :
    (ofQuotient n d).magnitude = nearestMagnitude n d := by
  have hn := mt isInfinite_ofQuotient_iff.mpr (Bool.eq_false_iff.mp h)
  rw [magnitude_ofQuotient]
  omega

theorem value_eq_valueAt (h : x.isNegative = false) : x.value = valueAt x.magnitude := by
  rw [value, h, ← absValue_eq_valueAt]
  rfl

theorem absValue_nonneg (x : Binary64) : 0 ≤ x.absValue := by
  rw [absValue_eq_valueAt]
  exact valueAt_nonneg _

theorem abs_sub_absValue_le (hr : 0 ≤ r) (y : Binary64) : |r - y.absValue| ≤ |r - y.value| := by
  have hy := y.absValue_nonneg
  rw [value]
  split
  · rw [abs_of_nonneg (by linarith : 0 ≤ r - -y.absValue)]
    exact abs_le.mpr ⟨by linarith, by linarith⟩
  · exact le_refl _

theorem eq_absValue_of_abs_eq (hr : 0 < r) {y : Binary64}
    (h : |r - y.absValue| = |r - y.value|) : y.value = y.absValue := by
  have hy := y.absValue_nonneg
  rw [value] at h ⊢
  split
  · rename_i hs
    rw [if_pos hs, abs_of_nonneg (by linarith : 0 ≤ r - -y.absValue)] at h
    rcases abs_cases (r - y.absValue) with ⟨ha, -⟩ | ⟨ha, -⟩
    · linarith
    · linarith
  · rfl

theorem Rounds.eq_zero (h : Rounds 0 k) : k = 0 := by
  apply Nat.eq_zero_of_not_pos
  intro hk
  have hle := ((h 0).mp hk).le
  have hlt : valueAt 0 < valueAt (0 + 1) := strictMono_valueAt (Nat.lt_succ_self 0)
  rw [valueAt_zero] at hle hlt
  linarith

theorem significand_mod_two (x : Binary64) : x.significand % 2 = x.magnitude % 2 := by
  have h := x.magnitude_eq
  simp only [Nat.pow_eq] at h
  omega

theorem isNearest_ofQuotient (n : Nat) (hd : 0 < d) : IsNearest (n / d) (ofQuotient n d) := by
  have hrounds := rounds_nearestMagnitude n hd
  have hr : (0 : ℚ) ≤ n / d := by positivity
  generalize (n / d : ℚ) = r at *
  obtain ⟨hneg, hnan⟩ := ofQuotient_class n d
  have hvalue := value_eq_valueAt hneg
  refine ⟨hneg, hnan, ?_, ?_, ?_, ?_⟩
  · rw [isInfinite_ofQuotient_iff, hrounds, past_last_iff]
  · rw [ofQuotient_eq_zero_iff, hrounds, past_zero_iff, not_lt]
  · intro hi y hy
    rw [hvalue, magnitude_ofQuotient_of_isInfinite hi]
    apply le_trans (hrounds.abs_sub_le y.magnitude)
    rw [← absValue_eq_valueAt]
    exact abs_sub_absValue_le hr y
  · intro hi y hy hne he
    rw [hvalue, magnitude_ofQuotient_of_isInfinite hi] at hne he
    rw [significand_mod_two, magnitude_ofQuotient_of_isInfinite hi]
    have hle := hrounds.abs_sub_le y.magnitude
    have habs := abs_sub_absValue_le hr y
    rw [← absValue_eq_valueAt] at hle
    rcases hr.eq_or_lt with rfl | hpos
    · rw [hrounds.eq_zero]
    · have hv := eq_absValue_of_abs_eq hpos (le_antisymm habs (he ▸ hle))
      rw [hv, absValue_eq_valueAt] at hne he
      exact hrounds.even_of_eq (fun hk => hne (congrArg valueAt hk)) he

theorem nearestMagnitude_le {n' d' : Nat} (hd : 0 < d) (hd' : 0 < d')
    (h : (n / d : ℚ) ≤ n' / d') : nearestMagnitude n d ≤ nearestMagnitude n' d' :=
  (rounds_nearestMagnitude n hd).mono (rounds_nearestMagnitude n' hd') h

theorem ofQuotient_congr {n' d' : Nat} (hd : 0 < d) (hd' : 0 < d') (h : (n / d : ℚ) = n' / d') :
    ofQuotient n d = ofQuotient n' d' := by
  have hle := nearestMagnitude_le hd hd' h.le
  have hge := nearestMagnitude_le hd' hd h.ge
  rw [ofQuotient, ofQuotient, Nat.le_antisymm hle hge]

theorem extended_ofQuotient_le {n' d' : Nat} (hd : 0 < d) (hd' : 0 < d')
    (h : (n / d : ℚ) ≤ n' / d') : (ofQuotient n d).extended ≤ (ofQuotient n' d').extended := by
  have hle := nearestMagnitude_le hd hd' h
  rw [extended, extended]
  cases hi' : (ofQuotient n' d').isInfinite with
  | true => exact le_top
  | false =>
    have hi : (ofQuotient n d).isInfinite = false := by
      rw [Bool.eq_false_iff, ne_eq, isInfinite_ofQuotient_iff] at hi' ⊢
      exact fun hlt => hi' (Nat.lt_of_lt_of_le hlt hle)
    rw [hi, value_eq_valueAt (ofQuotient_class n d).1, value_eq_valueAt (ofQuotient_class n' d').1,
      magnitude_ofQuotient_of_isInfinite hi, magnitude_ofQuotient_of_isInfinite hi']
    exact WithTop.coe_le_coe.mpr (strictMono_valueAt.monotone hle)

end Binary64

/-- Digits with a point among or after them. -/
structure PointLiteral where
  whole : List Char
  fraction : List Char
  whole_ne_nil : whole ≠ []
  isDigit_whole : ∀ c ∈ whole, c.isDigit = true
  isDigit_fraction : ∀ c ∈ fraction, c.isDigit = true

namespace PointLiteral

def text (l : PointLiteral) : String := String.ofList (l.whole ++ '.' :: l.fraction)

/-- The rational number that the digits denote. -/
def value (l : PointLiteral) : ℚ :=
  decimalValue l.whole + decimalValue l.fraction / 10 ^ l.fraction.length

/-- The literal with zeros put before and behind it. -/
def pad (l : PointLiteral) (before behind : Nat) : PointLiteral where
  whole := List.replicate before '0' ++ l.whole
  fraction := l.fraction ++ List.replicate behind '0'
  whole_ne_nil := List.append_ne_nil_of_right_ne_nil _ l.whole_ne_nil
  isDigit_whole := List.forall_mem_append.mpr ⟨isDigit_replicate_zero before, l.isDigit_whole⟩
  isDigit_fraction := List.forall_mem_append.mpr ⟨l.isDigit_fraction, isDigit_replicate_zero behind⟩

def float (l : PointLiteral) : Binary64 :=
  Binary64.ofQuotient (decimalValue (l.whole ++ l.fraction)) (Nat.pow 10 l.fraction.length)

theorem value_eq_div (l : PointLiteral) :
    l.value =
      (decimalValue (l.whole ++ l.fraction) : ℚ) / (Nat.pow 10 l.fraction.length : Nat) := by
  rw [value, decimalValue_append, Nat.pow_eq]
  push_cast
  field_simp

theorem value_pad (l : PointLiteral) (before behind : Nat) :
    (l.pad before behind).value = l.value := by
  simp only [value, pad, decimalValue_append, decimalValue_replicate_zero, List.length_append,
    List.length_replicate]
  push_cast
  rw [pow_add]
  field_simp
  ring

theorem tokenize_eq_float (l : PointLiteral) (file? : Option String) :
    tokenize l.text file? = .ok [.ofLiteral (.float l.float)] := by
  have hv : (Word.float l.whole l.fraction).Valid :=
    ⟨l.whole_ne_nil, l.isDigit_whole, l.isDigit_fraction⟩
  have ht := Word.Valid.tokenize_chars hv file?
  rwa [Word.token, Decimal.toBinary64_of_places] at ht

theorem denominator_pos (l : PointLiteral) : 0 < Nat.pow 10 l.fraction.length :=
  Nat.pow_pos (by decide)

theorem isNearest_float (l : PointLiteral) : l.float.IsNearest l.value := by
  rw [value_eq_div]
  exact Binary64.isNearest_ofQuotient _ l.denominator_pos

theorem float_congr {l l' : PointLiteral} (h : l.value = l'.value) : l.float = l'.float := by
  rw [value_eq_div, value_eq_div] at h
  exact Binary64.ofQuotient_congr l.denominator_pos l'.denominator_pos h

theorem extended_float_le {l l' : PointLiteral} (h : l.value ≤ l'.value) :
    l.float.extended ≤ l'.float.extended := by
  rw [value_eq_div, value_eq_div] at h
  exact Binary64.extended_ofQuotient_le l.denominator_pos l'.denominator_pos h

/-- A literal with a point is one token, whose value is the number nearest to the one that its digits
denote. Literals that denote the same number have the same value, as with more zeros before or
behind, and one that denotes a greater number has no smaller value. -/
theorem tokenize_nearest (l : PointLiteral) (file? : Option String) :
    ∃ x : Binary64, tokenize l.text file? = .ok [.ofLiteral (.float x)] ∧
      x.IsNearest l.value ∧
      (∀ before behind, tokenize (l.pad before behind).text file? = tokenize l.text file?) ∧
      (∀ l' : PointLiteral, l.value = l'.value →
        tokenize l'.text file? = .ok [.ofLiteral (.float x)]) ∧
      ∀ l' : PointLiteral, l.value ≤ l'.value →
        ∃ y : Binary64, tokenize l'.text file? = .ok [.ofLiteral (.float y)] ∧
          x.extended ≤ y.extended := by
  refine ⟨l.float, l.tokenize_eq_float file?, l.isNearest_float, ?_, ?_, ?_⟩
  · intro before behind
    rw [tokenize_eq_float, tokenize_eq_float, float_congr (l.value_pad before behind)]
  · intro l' h
    rw [l'.tokenize_eq_float file?, float_congr h]
  · intro l' h
    exact ⟨l'.float, l'.tokenize_eq_float file?, extended_float_le h⟩

/-- The odd number in the middle between two numbers. -/
def halfway : PointLiteral where
  whole := "9007199254740993".toList
  fraction := []
  whole_ne_nil := by decide
  isDigit_whole := List.all_eq_true.mp (by decide)
  isDigit_fraction := List.all_eq_true.mp (by decide)

theorem tokenize_nearest_halfway :
    tokenize "9007199254740993." none = .ok [.ofLiteral (.float ⟨0x4340000000000000⟩)] ∧
      Binary64.IsNearest halfway.value ⟨0x4340000000000000⟩ ∧
      tokenize "0009007199254740993.0" none =
        .ok [.ofLiteral (.float ⟨0x4340000000000000⟩)] := by
  obtain ⟨x, ht, hn, hpad, -⟩ := halfway.tokenize_nearest none
  have htext : halfway.text = "9007199254740993." := by decide
  have htext' : (halfway.pad 3 1).text = "0009007199254740993.0" := by decide
  have hfloat : halfway.float = ⟨0x4340000000000000⟩ := by decide +kernel
  have hx : x = halfway.float := by
    have he := ht.symm.trans (halfway.tokenize_eq_float none)
    simp only [Token.ofLiteral, Except.ok.injEq, List.cons.injEq, Token.mk.injEq] at he
    exact Literal.float.inj (Option.some.inj he.1.2)
  have hpad := hpad 3 1
  rw [ht, htext', hx, hfloat] at hpad
  rw [htext, hx, hfloat] at ht
  rw [hx, hfloat] at hn
  exact ⟨ht, hn, hpad⟩

end PointLiteral

end FormulaLexer
