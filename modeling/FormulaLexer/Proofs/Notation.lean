import FormulaLexer.Proofs.Layout
import FormulaLexer.Proofs.Shortest
import Mathlib.Tactic.Positivity

namespace FormulaLexer

variable {x : Binary64}

namespace Binary64

def absValue (x : Binary64) : ℚ := x.units / unitsPerOne

theorem isPositional_iff :
    x.isPositional = true ↔ 1 / 10 ^ 4 ≤ x.absValue ∧ x.absValue < 10 ^ 16 := by
  have hten : (0 : ℚ) < 10 ^ 4 := by positivity
  have hpos := unitsPerOne_pos
  rw [absValue, isPositional, Bool.and_eq_true, decide_eq_true_eq, decide_eq_true_eq]
  generalize unitsPerOne = u at *
  have hu : (0 : ℚ) < u := Nat.cast_pos.mpr hpos
  rw [div_le_div_iff₀ hten hu, div_lt_iff₀ hu, one_mul, Nat.pow_eq, Nat.pow_eq]
  norm_cast

/-- The range of the numbers that are shown in positional notation. -/
def InPositionalRange (x : Binary64) : Prop :=
  x.isZero = true ∨ 1 / 10 ^ 4 ≤ x.absValue ∧ x.absValue < 10 ^ 16

theorem inPositionalRange_iff :
    x.InPositionalRange ↔ x.isZero = true ∨ x.isPositional = true :=
  or_congr_right isPositional_iff.symm

instance (x : Binary64) : Decidable x.InPositionalRange :=
  decidable_of_iff _ inPositionalRange_iff.symm

theorem two_pow_leastExponent_add (k : Nat) :
    Nat.pow 2 (leastExponent + k) = unitsPerOne * Nat.pow 2 k := by
  unfold unitsPerOne
  generalize leastExponent = n
  exact Nat.pow_add 2 n k

theorem isFinite_of_isPositional (h : x.isPositional = true) : x.isFinite = true := by
  simp only [isPositional, Bool.and_eq_true, decide_eq_true_eq] at h
  by_contra hn
  have hm : infinityMagnitude ≤ x.magnitude := by simpa [isFinite] using hn
  have hscale : leastExponent + 2 ≤ x.scale := by
    have hl : leastExponent = 1074 := rfl
    simp only [infinityMagnitude, scale, Nat.pow_eq] at *
    omega
  have hle := le_units hscale (by omega)
  rw [two_pow_leastExponent_add] at hle
  have hten : Nat.pow 10 16 ≤ Nat.pow 2 52 * Nat.pow 2 2 := by decide
  have hmul := Nat.mul_le_mul_right unitsPerOne hten
  rw [Nat.mul_right_comm, Nat.mul_assoc] at hmul
  omega

theorem toList_text (hn : x.isNaN = false) (hs : x.isNegative = false) :
    x.text.toList = x.unsignedText := by
  rw [text, hn, hs]
  exact String.toList_ofList

theorem unsignedText_of_isFinite (hs : x.isNegative = false) (hf : x.isFinite = true)
    (hz : x.isZero = false) :
    x.unsignedText =
      if x.isPositional then x.shortestDecimal.positional else x.shortestDecimal.scientific := by
  have hi : x.isInfinite = false := by
    simp only [isFinite, isInfinite, decide_eq_true_eq, decide_eq_false_iff_not] at *
    omega
  have hz' : ¬ x.isZero = true := Bool.eq_false_iff.mp hz
  have hi' : ¬ x.isInfinite = true := Bool.eq_false_iff.mp hi
  rw [unsignedText, if_neg hz', if_neg hi', ofMagnitude_magnitude hs]

theorem eq_zero_of_isZero (hs : x.isNegative = false) (hz : x.isZero = true) : x = ⟨0⟩ := by
  have hm : x.magnitude = 0 := of_decide_eq_true hz
  rw [← ofMagnitude_magnitude hs, hm]
  rfl

theorem exists_decimal (hs : x.isNegative = false) (hx : x.InPositionalRange) :
    ∃ d : Decimal, x.text.toList = d.positional ∧ d.toBinary64 = x := by
  cases hz : x.isZero with
  | true =>
    rw [eq_zero_of_isZero hs hz]
    exact ⟨⟨0, 0⟩, by decide +kernel, by decide +kernel⟩
  | false =>
    have hp : x.isPositional = true := (inPositionalRange_iff.mp hx).resolve_left (by simp [hz])
    have hf := isFinite_of_isPositional hp
    apply Exists.intro x.shortestDecimal
    apply And.intro
    · rw [toList_text (isNaN_of_isFinite hf) hs, unsignedText_of_isFinite hs hf hz, if_pos hp]
    · exact toBinary64_shortestDecimal hf hs

end Binary64

theorem decimalValue_append (cs ds : List Char) :
    decimalValue (cs ++ ds) = decimalValue cs * 10 ^ ds.length + decimalValue ds := by
  induction cs with
  | nil => simp [decimalValue]
  | cons c cs ih =>
    rw [List.cons_append, decimalValue, decimalValue, ih, List.length_append, Nat.pow_add,
      Nat.add_mul, Nat.mul_assoc, Nat.add_assoc]

theorem decimalValue_replicate_zero (n : Nat) : decimalValue (List.replicate n '0') = 0 := by
  induction n with
  | zero => rfl
  | succ n ih =>
    rw [List.replicate_succ, decimalValue, ih]
    simp

theorem decimalValue_toDigits (n : Nat) : decimalValue (Nat.toDigits 10 n) = n := by
  rw [← ofDigitChars_eq_decimalValue, Nat.ofDigitChars_toDigits (by decide) (by decide)]

theorem isDigit_toDigits (n : Nat) : ∀ c ∈ Nat.toDigits 10 n, c.isDigit = true := by
  intro c hc
  exact Nat.isDigit_of_mem_toDigits (by decide) (by decide) hc

theorem isDigit_replicate_zero (n : Nat) : ∀ c ∈ List.replicate n '0', c.isDigit = true := by
  intro c hc
  rw [List.eq_of_mem_replicate hc]
  rfl

namespace Word

theorem exists_integer {n : Int} (h : 0 ≤ n) :
    ∃ w : Word, w.Valid ∧ w.chars = (Literal.integer n).text.toList ∧
      w.token = .ofLiteral (.integer n) := by
  obtain ⟨m, rfl⟩ := Int.eq_ofNat_of_zero_le h
  have htext : (Literal.integer m).text.toList = Nat.toDigits 10 m := Nat.toList_repr
  refine ⟨.integer (Nat.toDigits 10 m), ⟨Nat.toDigits_ne_nil, isDigit_toDigits m⟩, htext.symm, ?_⟩
  rw [token, decimalValue_toDigits]
  rfl

theorem exists_positional_of_natCast (n e : Nat) :
    ∃ w : Word, w.Valid ∧ w.chars = (Decimal.mk n e).positional ∧
      w.token = .ofLiteral (.float (Decimal.mk n e).toBinary64) := by
  have hne : Nat.toDigits 10 n ++ List.replicate e '0' ≠ [] :=
    List.append_ne_nil_of_left_ne_nil Nat.toDigits_ne_nil _
  have hd := List.forall_mem_append.mpr ⟨isDigit_toDigits n, isDigit_replicate_zero e⟩
  have hvalue : decimalValue (Nat.toDigits 10 n ++ List.replicate e '0' ++ ['0']) =
      n * Nat.pow 10 e * 10 := by
    simp only [decimalValue_append, decimalValue_toDigits, decimalValue_replicate_zero,
      List.length_replicate]
    rfl
  -- The zero behind the point multiplies both terms of the quotient by ten.
  have hscale : (Decimal.mk (n * Nat.pow 10 e * 10) (-(1 : Nat))).toBinary64 =
      (Decimal.mk n e).toBinary64 := by
    rw [Decimal.toBinary64_of_places, Decimal.toBinary64_of_natCast]
    exact Binary64.ofQuotient_mul_right (by decide) _ 1
  refine ⟨.float (Nat.toDigits 10 n ++ List.replicate e '0') ['0'],
    ⟨hne, hd, isDigit_replicate_zero 1⟩, ?_, ?_⟩
  · rw [chars, Decimal.positional, if_pos (Int.natCast_nonneg e), Int.toNat_natCast]
  · rw [token, hvalue, List.length_singleton, hscale]
    rfl

theorem exists_split {digits : List Char} {places : Nat} (hd : ∀ c ∈ digits, c.isDigit = true)
    (hp : places < digits.length) :
    ∃ w : Word, w.Valid ∧
      w.chars = digits.take (digits.length - places) ++
        '.' :: digits.drop (digits.length - places) ∧
      w.token =
        .ofLiteral (.float (Decimal.mk (decimalValue digits) (-(places : Int))).toBinary64) := by
  have hne : digits.take (digits.length - places) ≠ [] := by
    apply List.ne_nil_of_length_pos
    rw [List.length_take]
    omega
  have hplaces : (digits.drop (digits.length - places)).length = places := by
    rw [List.length_drop]
    omega
  refine ⟨.float (digits.take (digits.length - places)) (digits.drop (digits.length - places)),
    ⟨hne, fun c hc => hd c (List.mem_of_mem_take hc), fun c hc => hd c (List.mem_of_mem_drop hc)⟩,
    rfl, ?_⟩
  rw [token, List.take_append_drop, hplaces]
  rfl

theorem exists_positional_of_places {n places : Nat} (h : 0 < places) :
    ∃ w : Word, w.Valid ∧ w.chars = (Decimal.mk n (-(places : Int))).positional ∧
      w.token = .ofLiteral (.float (Decimal.mk n (-(places : Int))).toBinary64) := by
  have hd := List.forall_mem_append.mpr
    ⟨isDigit_replicate_zero (places + 1 - (Nat.toDigits 10 n).length), isDigit_toDigits n⟩
  have hp : places < (List.replicate (places + 1 - (Nat.toDigits 10 n).length) '0' ++
      Nat.toDigits 10 n).length := by
    rw [List.length_append, List.length_replicate]
    omega
  obtain ⟨w, hw, hc, ht⟩ := exists_split hd hp
  rw [decimalValue_append, decimalValue_replicate_zero, decimalValue_toDigits, Nat.zero_mul,
    Nat.zero_add] at ht
  have hneg : ¬ (0 : Int) ≤ -(places : Int) := by omega
  refine ⟨w, hw, ?_, ht⟩
  simp only [hc, Decimal.positional, if_neg hneg, Int.neg_neg, Int.toNat_natCast]

/-- The notation of a decimal is read as the decimal is rounded. -/
theorem exists_positional (d : Decimal) :
    ∃ w : Word, w.Valid ∧ w.chars = d.positional ∧ w.token = .ofLiteral (.float d.toBinary64) := by
  obtain ⟨n, e⟩ := d
  by_cases h : 0 ≤ e
  · obtain ⟨k, rfl⟩ := Int.eq_ofNat_of_zero_le h
    exact exists_positional_of_natCast n k
  · obtain ⟨places, rfl⟩ : ∃ places : Nat, e = -(places : Int) := ⟨(-e).toNat, by omega⟩
    exact exists_positional_of_places (by omega)

theorem exists_float (hs : x.isNegative = false) (hx : x.InPositionalRange) :
    ∃ w : Word, w.Valid ∧ w.chars = (Literal.float x).text.toList ∧
      w.token = .ofLiteral (.float x) := by
  obtain ⟨d, htext, hd⟩ := Binary64.exists_decimal hs hx
  obtain ⟨w, hw, hc, ht⟩ := exists_positional d
  rw [hd] at ht
  exact ⟨w, hw, hc.trans htext.symm, ht⟩

end Word

end FormulaLexer
