import FormulaLexer.Lexeme
import FormulaLexer.Text.Span
import Mathlib.Algebra.Group.Nat.Defs

namespace FormulaLexer

open Text

variable {text digits whole fraction rest : List Char}

/-- Digits, with at most one point among or after them. -/
inductive IsNumber : List Char → Prop
  | integer {digits : List Char} (hne : digits ≠ []) (hd : ∀ c ∈ digits, c.isDigit = true) :
      IsNumber digits
  | float {whole fraction : List Char} (hne : whole ≠ [])
      (hw : ∀ c ∈ whole, c.isDigit = true) (hf : ∀ c ∈ fraction, c.isDigit = true) :
      IsNumber (whole ++ '.' :: fraction)

/-- The number `text` cannot be continued by the first character of `rest`. -/
def Ends (text rest : List Char) : Prop :=
  ∀ c, rest.head? = some c → c.isDigit = false ∧ (c = '.' → '.' ∈ text)

/-- The value of decimal digits, each counted by its place. -/
def decimalValue : List Char → Nat
  | [] => 0
  | c :: cs => (c.toNat - '0'.toNat) * 10 ^ cs.length + decimalValue cs

theorem ends_nil (text : List Char) : Ends text [] := nofun

theorem ends_cons_iff {c : Char} {cs : List Char} :
    Ends text (c :: cs) ↔ c.isDigit = false ∧ (c = '.' → '.' ∈ text) := by
  apply Iff.intro
  · intro h
    exact h c rfl
  · intro h d hd
    cases hd
    exact h

theorem ne_point_of_isDigit {c : Char} (h : c.isDigit = true) : c ≠ '.' := by
  intro he
  have hp : ('.').isDigit = false := rfl
  exact absurd (he ▸ h) (Bool.eq_false_iff.mp hp)

theorem not_mem_of_isDigit {c : Char} (hc : c.isDigit = false)
    (hd : ∀ d ∈ digits, d.isDigit = true) : c ∉ digits := by
  intro h
  rw [hd c h] at hc
  cases hc

theorem point_not_mem (hd : ∀ c ∈ digits, c.isDigit = true) : '.' ∉ digits :=
  not_mem_of_isDigit rfl hd

theorem IsNumber.ne_nil (h : IsNumber text) : text ≠ [] := by
  cases h with
  | integer hne => exact hne
  | float => simp

theorem IsNumber.not_mem {c : Char} (h : IsNumber text) (hd : c.isDigit = false)
    (hp : c ≠ '.') : c ∉ text := by
  cases h with
  | integer hne hi => exact not_mem_of_isDigit hd hi
  | float hne hw hf =>
    intro h
    rcases List.mem_append.mp h with h | h
    · exact not_mem_of_isDigit hd hw h
    · rcases List.mem_cons.mp h with h | h
      · exact hp h
      · exact not_mem_of_isDigit hd hf h

/-- A character within a number is a digit, or the point with only digits before it. -/
theorem IsNumber.digit_or_point {u v : List Char} {c : Char} (h : IsNumber (u ++ c :: v)) :
    c.isDigit = true ∨ c = '.' ∧ u ≠ [] ∧ ∀ d ∈ u, d.isDigit = true := by
  generalize he : u ++ c :: v = text at h
  cases h with
  | integer hne hd => exact .inl (hd c (he ▸ by simp))
  | float hne hw hf =>
    rcases List.append_eq_append_iff.mp he with ⟨x, hx, hy⟩ | ⟨x, hx, hy⟩
    · cases x with
      | nil =>
        rw [List.append_nil] at hx
        obtain ⟨rfl, -⟩ := List.cons.inj hy
        exact .inr ⟨rfl, hx ▸ hne, hx ▸ hw⟩
      | cons d ds =>
        obtain ⟨rfl, -⟩ := List.cons.inj hy
        exact .inl (hw c (hx ▸ by simp))
    · cases x with
      | nil =>
        rw [List.append_nil] at hx
        obtain ⟨rfl, -⟩ := List.cons.inj hy
        exact .inr ⟨rfl, hx ▸ hne, hx ▸ hw⟩
      | cons d ds =>
        obtain ⟨-, rfl⟩ := List.cons.inj hy
        exact .inl (hf c (by simp))

theorem IsNumber.isDigit_head {c : Char} {cs : List Char} (h : IsNumber (c :: cs)) :
    c.isDigit = true := by
  generalize he : c :: cs = text at h
  cases h with
  | integer hne hd => exact hd c (he ▸ List.mem_cons_self)
  | @float whole fraction hne hw hf =>
    cases whole with
    | nil => exact absurd rfl hne
    | cons d ds =>
      rw [List.cons_append, List.cons.injEq] at he
      rw [he.1]
      exact hw d List.mem_cons_self

theorem isDigit_head_point (cs : List Char) :
    ∀ c, ('.' :: cs).head? = some c → c.isDigit = false := by
  intro c hc
  cases hc
  rfl

theorem Ends.isDigit_head (h : Ends text rest) :
    ∀ c, rest.head? = some c → c.isDigit = false := by
  intro c hc
  exact (h c hc).1

theorem numberText_integer (hd : ∀ c ∈ digits, c.isDigit = true) (he : Ends digits rest) :
    numberText (digits ++ rest) = digits := by
  have hr := he.isDigit_head
  simp only [numberText, takeWhile_append_of_head hd hr, dropWhile_append_of_head hd hr]
  split
  · exact absurd ((he '.' rfl).2 rfl) (point_not_mem hd)
  · exact List.append_nil _

theorem numberText_float (hw : ∀ c ∈ whole, c.isDigit = true)
    (hf : ∀ c ∈ fraction, c.isDigit = true)
    (hr : ∀ c, rest.head? = some c → c.isDigit = false) :
    numberText (whole ++ '.' :: (fraction ++ rest)) = whole ++ '.' :: fraction := by
  have hp := isDigit_head_point (fraction ++ rest)
  simp only [numberText, takeWhile_append_of_head hw hp, dropWhile_append_of_head hw hp,
    takeWhile_append_of_head hf hr]

theorem IsNumber.numberText_append (h : IsNumber text) (he : Ends text rest) :
    numberText (text ++ rest) = text := by
  cases h with
  | integer hne hd => exact numberText_integer hd he
  | float hne hw hf =>
    rw [List.append_assoc, List.cons_append]
    exact numberText_float hw hf he.isDigit_head

theorem isDigit_of_mem_takeWhile (cs : List Char) :
    ∀ c ∈ cs.takeWhile Char.isDigit, c.isDigit = true :=
  List.all_eq_true.mp List.all_takeWhile

theorem isNumber_numberText {c : Char} (cs : List Char) (hc : c.isDigit = true) :
    IsNumber (numberText (c :: cs)) := by
  have hne : (c :: cs).takeWhile Char.isDigit ≠ [] := by
    rw [List.takeWhile_cons_of_pos hc]
    exact List.cons_ne_nil _ _
  simp only [numberText]
  split
  · exact .float hne (isDigit_of_mem_takeWhile _) (isDigit_of_mem_takeWhile _)
  · rw [List.append_nil]
    exact .integer hne (isDigit_of_mem_takeWhile _)

theorem isDigit_head_dropWhile {cs : List Char} {c : Char}
    (h : (cs.dropWhile Char.isDigit).head? = some c) : c.isDigit = false := by
  have hn := List.head?_dropWhile_not Char.isDigit cs
  rw [h] at hn
  exact hn

theorem numberText_append_rest (cs : List Char) :
    ∃ rest, cs = numberText cs ++ rest ∧ Ends (numberText cs) rest := by
  have hcs : cs = cs.takeWhile Char.isDigit ++ cs.dropWhile Char.isDigit :=
    List.takeWhile_append_dropWhile.symm
  simp only [numberText]
  split
  · rename_i more h
    apply Exists.intro (more.dropWhile Char.isDigit)
    apply And.intro
    · rw [List.append_assoc, List.cons_append, List.takeWhile_append_dropWhile, ← h]
      exact hcs
    · intro c hc
      exact ⟨isDigit_head_dropWhile hc, fun _ => by simp⟩
  · rename_i hp
    apply Exists.intro (cs.dropWhile Char.isDigit)
    apply And.intro
    · rw [List.append_nil]
      exact hcs
    · intro c hc
      have hne : c ≠ '.' := by
        intro he
        obtain ⟨more, h⟩ := List.head?_eq_some_iff.mp hc
        exact hp more (he ▸ h)
      exact ⟨isDigit_head_dropWhile hc, (absurd · hne)⟩

theorem ends_numberText {cs : List Char} (h : numberText cs ++ rest = cs) :
    Ends (numberText cs) rest := by
  obtain ⟨rest', hr, he⟩ := numberText_append_rest cs
  have hrest : rest = rest' := List.append_cancel_left (h.trans hr)
  rw [hrest]
  exact he

theorem ofDigitChars_eq_decimalValue (digits : List Char) :
    Nat.ofDigitChars 10 digits 0 = decimalValue digits := by
  induction digits with
  | nil => rfl
  | cons c cs ih =>
    rw [Nat.ofDigitChars_cons, Nat.ofDigitChars_eq_ofDigitChars_zero, ih, decimalValue]
    rw [Nat.mul_zero, Nat.zero_add, Nat.mul_comm]

theorem read?_integer (hne : digits ≠ []) (hd : ∀ c ∈ digits, c.isDigit = true) :
    Literal.read? digits = some (.integer (decimalValue digits)) := by
  have ht : (digits ++ []).takeWhile Char.isDigit = digits := takeWhile_append_of_head hd nofun
  have hr : (digits ++ []).dropWhile Char.isDigit = [] := dropWhile_append_of_head hd nofun
  rw [List.append_nil] at ht hr
  simp only [Literal.read?, ht, hr, if_neg hne, ofDigitChars_eq_decimalValue]

theorem read?_float (hne : whole ≠ []) (hw : ∀ c ∈ whole, c.isDigit = true)
    (hf : ∀ c ∈ fraction, c.isDigit = true) :
    Literal.read? (whole ++ '.' :: fraction) =
      some (.float
        (Decimal.mk (decimalValue (whole ++ fraction)) (-fraction.length)).toBinary64) := by
  have hp := isDigit_head_point fraction
  simp only [Literal.read?, takeWhile_append_of_head hw hp, dropWhile_append_of_head hw hp,
    if_neg hne, List.all_eq_true.mpr hf, if_true, ofDigitChars_eq_decimalValue]

theorem IsNumber.exists_read? (h : IsNumber text) : ∃ value, Literal.read? text = some value := by
  cases h with
  | integer hne hd => exact ⟨_, read?_integer hne hd⟩
  | float hne hw hf => exact ⟨_, read?_float hne hw hf⟩

end FormulaLexer
