import FormulaLexer.Proofs.Offence
import FormulaLexer.Proofs.Token

namespace FormulaLexer

open Lexeme

variable {x : Binary64} {c : Char} {u v : List Char}

theorem getElem?_append_cons_iff (hu : c ∉ u) (hv : c ∉ v) (j : Nat) :
    (u ++ c :: v)[j]? = some c ↔ j = u.length := by
  apply Iff.intro
  · intro h
    rcases Nat.lt_trichotomy j u.length with hlt | he | hgt
    · rw [List.getElem?_append_left hlt] at h
      exact absurd (List.mem_of_getElem? h) hu
    · exact he
    · obtain ⟨i, rfl⟩ := Nat.exists_eq_add_of_lt hgt
      rw [Nat.add_assoc, List.getElem?_append_right (Nat.le_add_right _ _),
        Nat.add_sub_cancel_left, List.getElem?_cons_succ] at h
      exact absurd (List.mem_of_getElem? h) hv
  · intro h
    rw [h]
    simp

theorem toList_repr (n : Int) : n.repr.toList =
    if n < 0 then '-' :: Nat.toDigits 10 n.natAbs else Nat.toDigits 10 n.natAbs := by
  cases n with
  | ofNat n =>
    have hn : ¬ Int.ofNat n < 0 := Int.not_lt.mpr (Int.natCast_nonneg n)
    rw [if_neg hn, Int.repr, Nat.toList_repr]
    rfl
  | negSucc n =>
    rw [if_pos (Int.negSucc_lt_zero n), Int.repr, String.toList_append, Nat.toList_repr]
    rfl

theorem not_mem_repr (hd : c.isDigit = false) (hm : c ≠ '-') (n : Int) : c ∉ n.repr.toList := by
  have hdigits := not_mem_of_isDigit hd (isDigit_toDigits n.natAbs)
  rw [toList_repr]
  split
  · exact List.not_mem_cons_of_ne_of_not_mem hm hdigits
  · exact hdigits

/-- The `e` of scientific notation stands between a number and an exponent without an `e`. -/
theorem Decimal.exists_scientific (d : Decimal) :
    ∃ mantissa exponent, d.scientific = mantissa ++ 'e' :: exponent ∧ IsNumber mantissa ∧
      'e' ∉ exponent := by
  have hd := isDigit_toDigits d.coefficient
  have hne : Nat.toDigits 10 d.coefficient ≠ [] := Nat.toDigits_ne_nil
  have he (n : Int) : 'e' ∉ n.repr.toList := not_mem_repr rfl (by decide) n
  rw [scientific]
  generalize Nat.toDigits 10 d.coefficient = digits at hd hne
  cases digits with
  | nil => exact absurd rfl hne
  | cons first rest =>
    cases rest with
    | nil => exact ⟨_, _, rfl, .integer hne hd, he _⟩
    | cons second more =>
      obtain ⟨hfirst, hmore⟩ := List.forall_mem_cons.mp hd
      exact ⟨_, _, rfl, .float (List.cons_ne_nil _ _) (List.forall_mem_singleton.mpr hfirst) hmore,
        he _⟩

theorem split_number_stray {text rest : List Char} (hn : IsNumber text) (hs : (stray c).Valid)
    (hp : c ≠ '.') :
    split (text ++ c :: rest) = [.number text] ++ .stray c :: split rest := by
  have hends : (number text).Apart ((stray c).chars ++ rest) :=
    ends_cons_iff.mpr ⟨hs.2.1, (absurd · hp)⟩
  have hnumber : split (text ++ c :: rest) = .number text :: split (c :: rest) :=
    split_append (show (number text).Valid from hn) hends
  have hstray : split (c :: rest) = .stray c :: split rest :=
    split_append (show (stray c).Valid from hs) trivial
  rw [hnumber, hstray]
  rfl

/-- A text goes wrong at the only character of its kind. -/
structure GoesWrongAt (text : String) (file? : Option String) (c : Char) (k : Nat) : Prop where
  only : ∀ j, text.toList[j]? = some c ↔ j = k
  error : tokenize text file? = .error ⟨.illegalCharacter (String.singleton c),
    ⟨k, 0, k, file?.getD defaultFile, text⟩, ⟨k + 1, 0, k + 1, file?.getD defaultFile, text⟩⟩

theorem goesWrongAt_of_stray {text : String} {before after : List Lexeme}
    (hs : split text.toList = before ++ .stray c :: after) (hc : Clean before)
    (hbefore : c ∉ before.flatMap chars) (hafter : c ∉ after.flatMap chars) (hl : c ≠ '\n')
    (file? : Option String) : GoesWrongAt text file? c (before.flatMap chars).length := by
  have htext := append_stray hs
  have he := tokenize_eq_error_of_stray file? hs hc rfl
  rw [if_neg hl, if_neg hl] at he
  apply GoesWrongAt.mk _ he
  intro j
  rw [htext]
  exact getElem?_append_cons_iff hbefore hafter j

theorem goesWrongAt_of_scientific {text : String} {d : Decimal} (h : text.toList = d.scientific)
    (file? : Option String) : ∃ k, GoesWrongAt text file? 'e' k := by
  obtain ⟨mantissa, exponent, hd, hm, he⟩ := d.exists_scientific
  have hs : split (mantissa ++ 'e' :: exponent) =
      [.number mantissa] ++ .stray 'e' :: split exponent :=
    split_number_stray hm ⟨rfl, rfl, rfl⟩ (by decide)
  have hbefore : 'e' ∉ [number mantissa].flatMap chars := by
    rw [List.flatMap_singleton]
    exact hm.not_mem rfl (by decide)
  rw [← hd, ← h] at hs
  exact ⟨_, goesWrongAt_of_stray hs (by simp [Clean]) hbefore
    (by rwa [flatMap_chars_split]) (by decide) file?⟩

namespace Binary64

theorem isFinite_or_isInfinite (hn : x.isNaN = false) :
    x.isFinite = true ∨ x.isInfinite = true := by
  simp only [isNaN, isFinite, isInfinite, decide_eq_true_eq, decide_eq_false_iff_not] at *
  omega

theorem toList_text_of_not_inPositionalRange (hs : x.isNegative = false) (hf : x.isFinite = true)
    (hx : ¬ x.InPositionalRange) : x.text.toList = x.shortestDecimal.scientific := by
  have hz : x.isZero = false := Bool.eq_false_iff.mpr fun h => hx (.inl h)
  have hp : ¬ x.isPositional = true := fun h => hx (inPositionalRange_iff.mpr (.inr h))
  rw [toList_text (isNaN_of_isFinite hf) hs, unsignedText_of_isFinite hs hf hz, if_neg hp]

theorem toList_text_of_isInfinite (hs : x.isNegative = false) (hi : x.isInfinite = true) :
    x.text.toList = ['i', 'n', 'f'] := by
  have hm : x.magnitude = infinityMagnitude := of_decide_eq_true hi
  have hx : x = ofMagnitude infinityMagnitude := by rw [← ofMagnitude_magnitude hs, hm]
  rw [hx]
  decide +kernel

theorem tokenize_text_of_inPositionalRange (hs : x.isNegative = false) (hx : x.InPositionalRange)
    (file? : Option String) :
    tokenize (Literal.float x).text file? = .ok [.ofLiteral (.float x)] := by
  obtain ⟨w, hw, hc, ht⟩ := Word.exists_float hs hx
  have hword := hw.tokenize_chars file?
  rwa [hc, String.ofList_toList, ht] at hword

theorem goesWrongAt_of_isInfinite (hs : x.isNegative = false) (hi : x.isInfinite = true)
    (file? : Option String) : GoesWrongAt (Literal.float x).text file? 'i' 0 := by
  have hsplit : split (Literal.float x).text.toList =
      [] ++ .stray 'i' :: [.stray 'n', .stray 'f'] := by
    rw [Literal.text, toList_text_of_isInfinite hs hi]
    decide +kernel
  exact goesWrongAt_of_stray hsplit (by simp [Clean]) (by simp) (by decide) (by decide) file?

end Binary64

theorem Lexeme.Valid.coherent {l : Lexeme} {t : Token} (h : l.Valid) (ht : l.token? = some t) :
    t.Coherent := by
  cases l with
  | blank c => cases ht
  | stray c => cases ht
  | operator c kind =>
    have hw : (Word.operator c kind).Valid := operator?_eq_some_iff.mp h
    obtain rfl := Option.some.inj ht
    exact hw.coherent
  | number text =>
    obtain ⟨hw, -, hl⟩ := Word.ofNumber_valid h
    rw [← hl, hw.token?_lexeme] at ht
    obtain rfl := Option.some.inj ht
    exact hw.coherent

/-- All that a scan emits is coherent, also before a fault. -/
theorem Cursor.coherent_of_scan {c : Cursor} {t : Token} (ht : t ∈ c.scan.tokens) :
    t.Coherent := by
  have hvalid := (division_split c.rest).valid
  have htokens : ∃ ls ⊆ split c.rest, c.scan.tokens = ls.filterMap token? := by
    rcases clean_or_stray (split c.rest) with hc | ⟨before, ch, after, hs, hc⟩
    · exact ⟨_, List.Subset.refl _, by rw [Scan.tokens, scan_of_clean hc, token_emissions]⟩
    · refine ⟨before, ?_, by rw [Scan.tokens, scan_of_stray hs hc, token_emissions]⟩
      rw [hs]
      exact List.subset_append_left _ _
  obtain ⟨ls, hls, htokens⟩ := htokens
  rw [htokens] at ht
  obtain ⟨l, hl, hlt⟩ := List.mem_filterMap.mp ht
  exact (hvalid l (hls hl)).coherent hlt

/-- The text of a float that a scan reads is read again as the same float if it is in positional
notation. Otherwise it goes wrong at the `e` of its exponent, or at the beginning when it is
infinite. -/
theorem Cursor.tokenize_text_of_scan {c : Cursor} {t : Token} (ht : t ∈ c.scan.tokens)
    (hx : t.float? = some x) (file? : Option String) :
    (x.InPositionalRange →
      tokenize (Literal.float x).text file? = .ok [.ofLiteral (.float x)]) ∧
    (¬ x.InPositionalRange →
      (x.isFinite = true ∧ ∃ k, GoesWrongAt (Literal.float x).text file? 'e' k) ∨
      (x.isInfinite = true ∧ GoesWrongAt (Literal.float x).text file? 'i' 0)) := by
  obtain ⟨hs, hn⟩ := (coherent_of_scan ht).float x hx
  apply And.intro
  · intro hr
    exact Binary64.tokenize_text_of_inPositionalRange hs hr file?
  · intro hr
    rcases Binary64.isFinite_or_isInfinite hn with hf | hi
    · have htext := Binary64.toList_text_of_not_inPositionalRange hs hf hr
      exact .inl ⟨hf, goesWrongAt_of_scientific htext file?⟩
    · exact .inr ⟨hi, Binary64.goesWrongAt_of_isInfinite hs hi file?⟩

theorem Cursor.tokenize_text_of_scan_large :
    (start "0.5 20000000000000000.#" none).scan.tokens =
        [.ofLiteral (.float ⟨0x3fe0000000000000⟩), .ofLiteral (.float ⟨0x4351c37937e08000⟩)] ∧
      tokenize "0.5" none = .ok [.ofLiteral (.float ⟨0x3fe0000000000000⟩)] ∧
      GoesWrongAt "2e16" none 'e' 1 := by
  have hscan : (start "0.5 20000000000000000.#" none).scan.tokens =
      [.ofLiteral (.float ⟨0x3fe0000000000000⟩), .ofLiteral (.float ⟨0x4351c37937e08000⟩)] := by
    decide +kernel
  have hhalf : (Literal.float ⟨0x3fe0000000000000⟩).text = "0.5" := by decide +kernel
  have hlarge : (Literal.float ⟨0x4351c37937e08000⟩).text = "2e16" := by decide +kernel
  have hrange : Binary64.InPositionalRange ⟨0x3fe0000000000000⟩ := by decide +kernel
  have hnot : ¬ Binary64.InPositionalRange ⟨0x4351c37937e08000⟩ := by decide +kernel
  have hmem : .ofLiteral (.float ⟨0x4351c37937e08000⟩) ∈
      (start "0.5 20000000000000000.#" none).scan.tokens := by
    rw [hscan]
    exact List.mem_cons_of_mem _ List.mem_cons_self
  have hok := (tokenize_text_of_scan (hscan ▸ List.mem_cons_self) rfl none).1 hrange
  have hwrong := (tokenize_text_of_scan hmem rfl none).2 hnot
  rw [hhalf] at hok
  rw [hlarge] at hwrong
  rcases hwrong with ⟨-, k, hk⟩ | ⟨hi, -⟩
  · obtain rfl : 1 = k := (hk.only 1).mp rfl
    exact ⟨hscan, hok, hk⟩
  · cases hi

end FormulaLexer
