import FormulaLexer.Proofs.Grammar
import FormulaLexer.Proofs.Notation
import FormulaLexer.Text.Digits
import Mathlib.Algebra.BigOperators.Fin

namespace FormulaLexer

variable {c : Char} {digits : List Char}

/-- Digits without the zeros in front, of which one is kept when there is nothing else. -/
def trimZeros (digits : List Char) : List Char :=
  let rest := digits.dropWhile (· = '0')
  if rest = [] then ['0'] else rest

theorem trimZeros_cons_zero (digits : List Char) : trimZeros ('0' :: digits) = trimZeros digits :=
  rfl

theorem trimZeros_cons_of_ne (hc : c ≠ '0') (digits : List Char) :
    trimZeros (c :: digits) = c :: digits := by
  simp [trimZeros, hc]

theorem toDigits_digit (hc : c.isDigit = true) : Nat.toDigits 10 (c.toNat - '0'.toNat) = [c] := by
  obtain ⟨hlow, hhigh⟩ := Char.isDigit_iff_toNat.mp hc
  have hnine : '9'.toNat = '0'.toNat + 9 := rfl
  have hlt : c.toNat - '0'.toNat < 10 := by omega
  have hchar : Nat.digitChar (c.toNat - '0'.toNat) = c := by
    apply Char.toNat_inj.mp
    rw [Nat.toNat_digitChar_of_lt_ten hlt]
    exact Nat.add_sub_cancel' hlow
  rw [Nat.toDigits_of_lt_base hlt, hchar]

theorem toDigits_append {n : Nat} (hn : 0 < n) (hd : ∀ c ∈ digits, c.isDigit = true) :
    Nat.toDigits 10 n ++ digits = Nat.toDigits 10 (Nat.ofDigitChars 10 digits n) := by
  induction digits generalizing n with
  | nil => rw [List.append_nil, Nat.ofDigitChars_nil]
  | cons c digits ih =>
    obtain ⟨hc, hd⟩ := List.forall_mem_cons.mp hd
    have hlt : c.toNat - '0'.toNat < 10 := by
      have hhigh : c.toNat ≤ '9'.toNat := (Char.isDigit_iff_toNat.mp hc).2
      have hnine : '9'.toNat = '0'.toNat + 9 := rfl
      omega
    have hstep : Nat.toDigits 10 n ++ [c] = Nat.toDigits 10 (10 * n + (c.toNat - '0'.toNat)) := by
      rw [← Nat.toDigits_append_toDigits (by decide) hn hlt, toDigits_digit hc]
    rw [Nat.ofDigitChars_cons, ← ih (by omega) hd, ← hstep, List.append_assoc]
    rfl

/-- The value of digits is written as the digits without the zeros in front. -/
theorem toDigits_decimalValue_eq (hd : ∀ c ∈ digits, c.isDigit = true) :
    Nat.toDigits 10 (decimalValue digits) = trimZeros digits := by
  induction digits with
  | nil => rfl
  | cons c digits ih =>
    obtain ⟨hc, hds⟩ := List.forall_mem_cons.mp hd
    by_cases hzero : c = '0'
    · subst hzero
      rw [trimZeros_cons_zero, ← ih hds, decimalValue, Nat.sub_self, Nat.zero_mul, Nat.zero_add]
    · have hpos : 0 < c.toNat - '0'.toNat := by
        have hlow : '0'.toNat ≤ c.toNat := (Char.isDigit_iff_toNat.mp hc).1
        have hne : c.toNat ≠ '0'.toNat := fun h => hzero (Char.toNat_inj.mp h)
        omega
      rw [trimZeros_cons_of_ne hzero, ← ofDigitChars_eq_decimalValue, Nat.ofDigitChars_cons,
        Nat.mul_zero, Nat.zero_add, ← toDigits_append hpos hds, toDigits_digit hc]
      rfl

structure Numeral where
  digits : List Char
  ne_nil : digits ≠ []
  isDigit : ∀ c ∈ digits, c.isDigit = true

namespace Numeral

def text (l : Numeral) : String := String.ofList l.digits

/-- The integer that the digits denote, each of them counted by its place. -/
def value (l : Numeral) : Nat :=
  ∑ i : Fin l.digits.length, (l.digits[i].toNat - '0'.toNat) * 10 ^ (l.digits.length - 1 - i)

def ofNat (n : Nat) : Numeral where
  digits := Nat.toDigits 10 n
  ne_nil := Nat.toDigits_ne_nil
  isDigit := isDigit_toDigits n

theorem sum_eq_decimalValue (digits : List Char) :
    ∑ i : Fin digits.length, (digits[i].toNat - '0'.toNat) * 10 ^ (digits.length - 1 - i) =
      decimalValue digits := by
  induction digits with
  | nil => rfl
  | cons c digits ih =>
    have hplace (i : Fin digits.length) :
        (c :: digits).length - 1 - (i.succ : Fin (digits.length + 1)) = digits.length - 1 - i := by
      rw [List.length_cons, Fin.val_succ]
      omega
    calc
      _ = (c.toNat - '0'.toNat) * 10 ^ digits.length +
          ∑ i : Fin digits.length, (digits[i].toNat - '0'.toNat) *
            10 ^ ((c :: digits).length - 1 - (i.succ : Fin (digits.length + 1))) :=
        Fin.sum_univ_succ _
      _ = decimalValue (c :: digits) := by
        simp only [hplace, ih]
        rfl

theorem value_eq_decimalValue (l : Numeral) : l.value = decimalValue l.digits :=
  sum_eq_decimalValue l.digits

theorem repr_value (l : Numeral) : l.value.repr = String.ofList (trimZeros l.digits) := by
  rw [value_eq_decimalValue, Nat.repr_eq_ofList_toDigits, toDigits_decimalValue_eq l.isDigit]

theorem value_eq_iff {l l' : Numeral} :
    l.value = l'.value ↔ trimZeros l.digits = trimZeros l'.digits := by
  rw [value_eq_decimalValue, value_eq_decimalValue, ← toDigits_decimalValue_eq l.isDigit,
    ← toDigits_decimalValue_eq l'.isDigit, Text.toDigits_inj (by decide) (by decide)]

theorem value_ofNat (n : Nat) : (ofNat n).value = n := by
  rw [value_eq_decimalValue]
  exact decimalValue_toDigits n

theorem tokenize_eq_integer (l : Numeral) (file? : Option String) :
    tokenize l.text file? = .ok [.ofLiteral (.integer l.value)] := by
  have hv : (Word.integer l.digits).Valid := ⟨l.ne_nil, l.isDigit⟩
  rw [value_eq_decimalValue]
  exact Word.Valid.tokenize_chars hv file?

/-- A numeral is one token, whose value is the integer that its digits denote, and which is shown by
them without the zeros in front. Numerals are equal as tokens if they are the same without these
zeros, and not otherwise. Every natural number is read from its own digits. -/
theorem tokenize_exact (file? : Option String) :
    (∀ l : Numeral, ∃ t : Token, tokenize l.text file? = .ok [t] ∧ t.kind = .integer ∧
      t.integer? = some (l.value : Int) ∧
      t.text = "INT:" ++ String.ofList (trimZeros l.digits) ∧
      ∀ l' : Numeral, ∃ t' : Token, tokenize l'.text file? = .ok [t'] ∧
        (t = t' ↔ trimZeros l.digits = trimZeros l'.digits) ∧
        (t.numericEq t' = true ↔ trimZeros l.digits = trimZeros l'.digits)) ∧
    ∀ n : Nat, tokenize n.repr file? = .ok [.ofLiteral (.integer n)] := by
  apply And.intro
  · intro l
    refine ⟨_, l.tokenize_eq_integer file?, rfl, rfl, ?_, ?_⟩
    · rw [← repr_value]
      rfl
    · intro l'
      refine ⟨_, l'.tokenize_eq_integer file?, ?_, ?_⟩
      · rw [← value_eq_iff]
        simp [Token.ofLiteral, Literal.kind]
      · rw [← value_eq_iff]
        simp [Token.numericEq, Token.ofLiteral, Literal.numericEq, Literal.kind]
  · intro n
    have htext : (ofNat n).text = n.repr := Nat.repr_eq_ofList_toDigits.symm
    rw [← htext, tokenize_eq_integer, value_ofNat]

end Numeral

end FormulaLexer
