import FormulaLexer.Proofs.Reprint
import FormulaLexer.Text.Digits
import FormulaLexer.Text.Span

namespace FormulaLexer

variable {x y : Binary64} {c : Char} {cs : List Char} {d d' : Decimal}

/-- A sign is told from the digits behind it. -/
theorem eq_of_signed {u v : List Char} {s t : Prop} [Decidable s] [Decidable t]
    (hu : u.head? ≠ some '-') (hv : v.head? ≠ some '-')
    (h : (if s then '-' :: u else u) = if t then '-' :: v else v) : (s ↔ t) ∧ u = v := by
  by_cases hs : s
  · rw [if_pos hs] at h
    by_cases ht : t
    · rw [if_pos ht] at h
      exact ⟨iff_of_true hs ht, (List.cons.inj h).2⟩
    · rw [if_neg ht] at h
      exact absurd (congrArg List.head? h).symm hv
  · rw [if_neg hs] at h
    by_cases ht : t
    · rw [if_pos ht] at h
      exact absurd (congrArg List.head? h) hu
    · rw [if_neg ht] at h
      exact ⟨iff_of_false hs ht, h⟩

theorem eq_of_repr {m n : Int} (h : m.repr = n.repr) : m = n := by
  have hunsigned (k : Int) : (Nat.toDigits 10 k.natAbs).head? ≠ some '-' :=
    fun hk => not_mem_of_isDigit rfl (isDigit_toDigits _) (List.mem_of_head? hk)
  have htext := congrArg String.toList h
  rw [toList_repr, toList_repr] at htext
  obtain ⟨hs, hdigits⟩ := eq_of_signed (hunsigned m) (hunsigned n) htext
  have habs := (Text.toDigits_inj (by decide) (by decide)).mp hdigits
  omega

namespace Decimal

theorem isNumber_positional (d : Decimal) : IsNumber d.positional ∧ '.' ∈ d.positional := by
  obtain ⟨w, hw, hc, ht⟩ := Word.exists_positional d
  rw [← hc]
  cases w with
  | operator c kind => simp [Word.token, Token.ofLiteral] at ht
  | integer digits => simp [Word.token, Token.ofLiteral] at ht
  | float whole fraction =>
    obtain ⟨hne, hwhole, hfraction⟩ := hw
    exact ⟨.float hne hwhole hfraction, List.mem_append_right _ List.mem_cons_self⟩

theorem toBinary64_eq_of_positional (h : d.positional = d'.positional) :
    d.toBinary64 = d'.toBinary64 := by
  obtain ⟨w, hw, hc, ht⟩ := Word.exists_positional d
  obtain ⟨w', hw', hc', ht'⟩ := Word.exists_positional d'
  have htokens := hw.tokenize_chars none
  rw [hc, h, ← hc', hw'.tokenize_chars none, ht, ht'] at htokens
  simp only [Except.ok.injEq, List.cons.injEq, Token.ofLiteral, Token.mk.injEq, Option.some.injEq,
    Literal.float.injEq] at htokens
  exact htokens.1.2.symm

theorem filter_pointAfterFirst (hd : ∀ c ∈ cs, c.isDigit = true) :
    (pointAfterFirst cs).filter Char.isDigit = cs := by
  have hself := List.filter_eq_self.mpr hd
  cases cs with
  | nil => rfl
  | cons first rest =>
    cases rest with
    | nil => exact hself
    | cons second more =>
      have hfirst := hd first List.mem_cons_self
      rw [List.filter_cons_of_pos hfirst] at hself
      rw [pointAfterFirst, List.filter_cons_of_pos hfirst, List.filter_cons_of_neg (by decide),
        hself]

theorem mem_pointAfterFirst (hp : c ≠ '.') (h : c ∈ pointAfterFirst cs) : c ∈ cs := by
  cases cs with
  | nil => exact h
  | cons first rest =>
    cases rest with
    | nil => exact h
    | cons second more => simpa [pointAfterFirst, hp] using h

theorem not_mem_mantissa (hd : c.isDigit = false) (hp : c ≠ '.') (n : Nat) :
    c ∉ pointAfterFirst (Nat.toDigits 10 n) :=
  fun h => not_mem_of_isDigit hd (isDigit_toDigits n) (mem_pointAfterFirst hp h)

/-- Scientific notation has no character but digits, the point, the sign and the `e`. -/
theorem not_mem_scientific (hd : c.isDigit = false) (hp : c ≠ '.') (hm : c ≠ '-') (he : c ≠ 'e') :
    c ∉ d.scientific := by
  rw [scientific, List.mem_append, List.mem_cons]
  intro h
  rcases h with h | h | h
  · exact not_mem_mantissa hd hp _ h
  · exact he h
  · exact not_mem_repr hd hm _ h

/-- Scientific notation shows a decimal with all of its digits. -/
theorem eq_of_scientific (h : d.scientific = d'.scientific) : d = d' := by
  rw [scientific, scientific, List.append_cons_inj_of_notMem
    (not_mem_mantissa rfl (by decide) _) (not_mem_repr rfl (by decide) _)] at h
  obtain ⟨hmantissa, -, hexponent⟩ := h
  have hdigits := congrArg (List.filter Char.isDigit) hmantissa
  rw [filter_pointAfterFirst (isDigit_toDigits _), filter_pointAfterFirst (isDigit_toDigits _)]
    at hdigits
  have hcoefficient := (Text.toDigits_inj (by decide) (by decide)).mp hdigits
  have hsum := eq_of_repr (String.toList_inj.mp hexponent)
  rw [hdigits] at hsum
  obtain ⟨n, e⟩ := d
  obtain ⟨n', e'⟩ := d'
  rw [mk.injEq]
  exact ⟨hcoefficient, add_right_cancel hsum⟩

end Decimal

namespace Binary64

/-- The ways in which a number without a sign is shown. -/
inductive Shows : List Char → Binary64 → Prop
  | positional (d : Decimal) : Shows d.positional d.toBinary64
  | scientific (d : Decimal) : Shows d.scientific d.toBinary64
  | infinite : Shows ['i', 'n', 'f'] (ofMagnitude infinityMagnitude)

theorem positional_ne_scientific (d d' : Decimal) : d.positional ≠ d'.scientific := by
  intro h
  have he : 'e' ∈ d.positional := by
    rw [h, Decimal.scientific]
    exact List.mem_append_right _ List.mem_cons_self
  exact d.isNumber_positional.1.not_mem rfl (by decide) he

theorem positional_ne_infinite (d : Decimal) : d.positional ≠ ['i', 'n', 'f'] := by
  intro h
  have hi : 'i' ∈ d.positional := h ▸ List.mem_cons_self
  exact d.isNumber_positional.1.not_mem rfl (by decide) hi

theorem scientific_ne_infinite (d : Decimal) : d.scientific ≠ ['i', 'n', 'f'] := by
  intro h
  have hi : 'i' ∈ d.scientific := h ▸ List.mem_cons_self
  exact Decimal.not_mem_scientific rfl (by decide) (by decide) (by decide) hi

theorem Shows.unique (h : Shows cs x) (h' : Shows cs y) : x = y := by
  cases h with
  | positional d =>
    generalize hd : d.positional = cs at h'
    cases h' with
    | positional d' => exact Decimal.toBinary64_eq_of_positional hd
    | scientific d' => exact absurd hd (positional_ne_scientific d d')
    | infinite => exact absurd hd (positional_ne_infinite d)
  | scientific d =>
    generalize hd : d.scientific = cs at h'
    cases h' with
    | positional d' => exact absurd hd.symm (positional_ne_scientific d' d)
    | scientific d' => rw [Decimal.eq_of_scientific hd]
    | infinite => exact absurd hd (scientific_ne_infinite d)
  | infinite =>
    generalize hi : ['i', 'n', 'f'] = cs at h'
    cases h' with
    | positional d' => exact absurd hi.symm (positional_ne_infinite d')
    | scientific d' => exact absurd hi.symm (scientific_ne_infinite d')
    | infinite => rfl

/-- The text is not that of an integer, and neither has a sign nor stands for what is no number. -/
structure Marked (cs : List Char) : Prop where
  mark : ∃ c ∈ cs, c.isDigit = false ∧ c ≠ '-'
  unsigned : cs.head? ≠ some '-'
  number : 'N' ∉ cs

theorem Shows.marked (h : Shows cs x) : Marked cs := by
  have hminus : ('-').isDigit = false := rfl
  have hhead {text : List Char} (ht : IsNumber text) (rest : List Char) :
      (text ++ rest).head? ≠ some '-' := by
    intro hh
    cases text with
    | nil => exact ht.ne_nil rfl
    | cons c cs =>
      obtain rfl := Option.some.inj hh
      rw [ht.isDigit_head] at hminus
      cases hminus
  cases h with
  | positional d =>
    obtain ⟨hn, hp⟩ := d.isNumber_positional
    have hh := hhead hn []
    rw [List.append_nil] at hh
    exact ⟨⟨'.', hp, rfl, by decide⟩, hh, hn.not_mem rfl (by decide)⟩
  | scientific d =>
    obtain ⟨mantissa, exponent, hd, hn, -⟩ := d.exists_scientific
    refine ⟨⟨'e', ?_, rfl, by decide⟩, ?_, ?_⟩
    · rw [hd]
      exact List.mem_append_right _ List.mem_cons_self
    · rw [hd]
      exact hhead hn _
    · exact Decimal.not_mem_scientific rfl (by decide) (by decide) (by decide)
  | infinite => exact ⟨⟨'i', List.mem_cons_self, rfl, by decide⟩, by decide, by decide⟩

def abs (x : Binary64) : Binary64 := ofMagnitude x.magnitude

theorem magnitude_lt (x : Binary64) : x.magnitude < Nat.pow 2 63 :=
  Nat.mod_lt _ (Nat.pow_pos (by decide))

theorem magnitude_abs (x : Binary64) : x.abs.magnitude = x.magnitude :=
  magnitude_ofMagnitude x.magnitude_lt

theorem isNegative_abs (x : Binary64) : x.abs.isNegative = false :=
  isNegative_ofMagnitude x.magnitude_lt

theorem isNaN_abs (x : Binary64) : x.abs.isNaN = x.isNaN := by
  rw [isNaN, isNaN, magnitude_abs]

theorem unsignedText_abs (x : Binary64) : x.abs.unsignedText = x.unsignedText := by
  have hm := x.magnitude_abs
  have hz : x.abs.isZero = x.isZero := by rw [isZero, isZero, hm]
  have hi : x.abs.isInfinite = x.isInfinite := by rw [isInfinite, isInfinite, hm]
  have hu : x.abs.units = x.units := by rw [units, units, hm]
  have hp : x.abs.isPositional = x.isPositional := by rw [isPositional, isPositional, hu]
  rw [unsignedText, unsignedText, hz, hi, hp, hm]

theorem eq_of_abs (hs : x.isNegative = y.isNegative) (h : x.abs = y.abs) : x = y := by
  have hm := congrArg magnitude h
  rw [magnitude_abs, magnitude_abs] at hm
  have hx := x.bits.toNat_lt
  have hy := y.bits.toNat_lt
  rw [isNegative, isNegative, decide_eq_decide] at hs
  obtain ⟨bits⟩ := x
  obtain ⟨bits'⟩ := y
  rw [mk.injEq, ← UInt64.toNat_inj]
  simp only [magnitude, Nat.pow_eq] at *
  omega

theorem shows_unsignedText (hn : x.isNaN = false) : Shows x.unsignedText x.abs := by
  have hs := x.isNegative_abs
  have hn' : x.abs.isNaN = false := x.isNaN_abs.trans hn
  rw [← unsignedText_abs]
  generalize x.abs = a at *
  rw [← toList_text hn' hs]
  by_cases hr : a.InPositionalRange
  · obtain ⟨d, htext, rfl⟩ := exists_decimal hs hr
    rw [htext]
    exact .positional d
  · rcases isFinite_or_isInfinite hn' with hf | hi
    · have h := Shows.scientific a.shortestDecimal
      rwa [toBinary64_shortestDecimal hf hs, ← toList_text_of_not_inPositionalRange hs hf hr] at h
    · have hm : a.magnitude = infinityMagnitude := of_decide_eq_true hi
      rw [toList_text_of_isInfinite hs hi, ← ofMagnitude_magnitude hs, hm]
      exact .infinite

theorem toList_text_signed (hn : x.isNaN = false) :
    x.text.toList = if x.isNegative then '-' :: x.unsignedText else x.unsignedText := by
  rw [text, hn]
  exact String.toList_ofList

theorem text_of_isNaN (hn : x.isNaN = true) : x.text = "NaN" := if_pos hn

theorem isNaN_of_text (h : x.text = "NaN") : x.isNaN = true := by
  by_contra hn
  have hn : x.isNaN = false := Bool.eq_false_iff.mpr hn
  have hN : 'N' ∉ x.unsignedText := (shows_unsignedText hn).marked.number
  have htext := toList_text_signed hn
  have hmem : 'N' ∈ x.text.toList := h ▸ by decide
  rw [htext] at hmem
  split at hmem
  · exact hN ((List.mem_cons.mp hmem).resolve_left (by decide))
  · exact hN hmem

/-- Floats with one text have the same bits, or else none of them is a number. -/
theorem text_eq_iff : x.text = y.text ↔ x = y ∨ x.isNaN = true ∧ y.isNaN = true := by
  apply Iff.intro
  · intro h
    cases hx : x.isNaN with
    | true => exact .inr ⟨rfl, isNaN_of_text (h ▸ text_of_isNaN hx)⟩
    | false =>
      have hy : y.isNaN = false := by
        by_contra hn
        have hn : y.isNaN = true := Bool.eq_true_of_not_eq_false hn
        rw [isNaN_of_text (h.trans (text_of_isNaN hn))] at hx
        cases hx
      have hshows := shows_unsignedText hx
      have hshows' := shows_unsignedText hy
      have htext := congrArg String.toList h
      rw [toList_text_signed hx, toList_text_signed hy] at htext
      obtain ⟨hs, hu⟩ := eq_of_signed hshows.marked.unsigned hshows'.marked.unsigned htext
      rw [hu] at hshows
      exact .inl (eq_of_abs (Bool.eq_iff_iff.mpr hs) (hshows.unique hshows'))
  · intro h
    rcases h with rfl | ⟨hx, hy⟩
    · rfl
    · rw [text_of_isNaN hx, text_of_isNaN hy]

theorem exists_mark (x : Binary64) : ∃ c ∈ x.text.toList, c.isDigit = false ∧ c ≠ '-' := by
  cases hn : x.isNaN with
  | true =>
    rw [text_of_isNaN hn]
    exact ⟨'N', by decide, rfl, by decide⟩
  | false =>
    obtain ⟨c, hc, hmark⟩ := (shows_unsignedText hn).marked.mark
    refine ⟨c, ?_, hmark⟩
    rw [toList_text_signed hn]
    split
    · exact List.mem_cons_of_mem _ hc
    · exact hc

end Binary64

namespace Literal

/-- The values are one and the same, where it does not matter in which way a float is no number. -/
inductive Identical : Literal → Literal → Prop
  | integer (n : Int) : Identical (.integer n) (.integer n)
  | float (x : Binary64) : Identical (.float x) (.float x)
  | nan {x y : Binary64} (hx : x.isNaN = true) (hy : y.isNaN = true) :
      Identical (.float x) (.float y)

theorem text_integer_ne_text_float (n : Int) (x : Binary64) :
    (integer n).text ≠ (float x).text := by
  intro h
  obtain ⟨c, hc, hd, hm⟩ := x.exists_mark
  have htext : n.repr = x.text := h
  rw [← htext] at hc
  exact not_mem_repr hd hm n hc

theorem text_eq_iff {v w : Literal} : v.text = w.text ↔ v.Identical w := by
  apply Iff.intro
  · intro h
    cases v with
    | integer n =>
      cases w with
      | integer m =>
        obtain rfl := eq_of_repr h
        exact .integer n
      | float y => exact absurd h (text_integer_ne_text_float n y)
    | float x =>
      cases w with
      | integer m => exact absurd h.symm (text_integer_ne_text_float m x)
      | float y =>
        rcases Binary64.text_eq_iff.mp h with rfl | ⟨hx, hy⟩
        · exact .float x
        · exact .nan hx hy
  · intro h
    cases h with
    | integer n => rfl
    | float x => rfl
    | nan hx hy => exact Binary64.text_eq_iff.mpr (.inr ⟨hx, hy⟩)

end Literal

namespace Token

theorem tag_inj {k k' : TokenKind} : k.tag = k'.tag ↔ k = k' := by
  cases k <;> cases k' <;> simp [TokenKind.tag]

theorem ne_colon_of_mem_tag (k : TokenKind) : ∀ c ∈ k.tag.toList, decide (c ≠ ':') = true := by
  have hall : k.tag.toList.all (· ≠ ':') = true := by
    cases k <;> decide
  exact List.all_eq_true.mp hall

def ofFloat (kind : TokenKind) (x : Binary64) : Token := ⟨kind, some (.float x)⟩

def valueText (t : Token) : List Char :=
  match t.value with
  | some value => ':' :: value.text.toList
  | none => []

theorem toList_text (t : Token) : t.text.toList = t.kind.tag.toList ++ t.valueText := by
  obtain ⟨kind, value⟩ := t
  cases value with
  | none => simp [text, valueText]
  | some value => simp [text, valueText]

theorem head_valueText (t : Token) :
    ∀ c, t.valueText.head? = some c → decide (c ≠ ':') = false := by
  intro c h
  rw [valueText] at h
  split at h
  · obtain rfl := Option.some.inj h
    rfl
  · cases h

theorem valueText_eq_iff {a b : Token} :
    a.valueText = b.valueText ↔ Option.Rel Literal.Identical a.value b.value := by
  rw [valueText, valueText]
  cases a.value with
  | none =>
    cases b.value with
    | none => exact iff_of_true rfl .none
    | some w => exact iff_of_false (by simp) (by nofun)
  | some v =>
    cases b.value with
    | none => exact iff_of_false (by simp) (by nofun)
    | some w =>
      simp only [List.cons.injEq, String.toList_inj, true_and, Literal.text_eq_iff]
      exact ⟨.some, fun | .some h => h⟩

/-- Tokens have the same text if they are of one kind and have no value or identical values, and only
then, whichever values go with a kind. So an integer is never shown as a float is, and the two zeros
are shown apart, though they are equal as numbers. -/
theorem text_eq_iff_identical :
    (∀ a b : Token, a.text = b.text ↔
      a.kind = b.kind ∧ Option.Rel Literal.Identical a.value b.value) ∧
    (∀ n x, (Literal.integer n).text ≠ (Literal.float x).text) ∧
    ∀ kind, (ofFloat kind ⟨0⟩).text ≠ (ofFloat kind ⟨0x8000000000000000⟩).text ∧
      (ofFloat kind ⟨0⟩).numericEq (ofFloat kind ⟨0x8000000000000000⟩) = true := by
  have htext (a b : Token) : a.text = b.text ↔
      a.kind = b.kind ∧ Option.Rel Literal.Identical a.value b.value := by
    rw [← valueText_eq_iff, ← String.toList_inj, toList_text, toList_text]
    apply Iff.intro
    · intro h
      obtain ⟨htag, hvalue⟩ := Text.append_inj_of_head (ne_colon_of_mem_tag _)
        (ne_colon_of_mem_tag _) a.head_valueText b.head_valueText h
      exact ⟨tag_inj.mp (String.toList_inj.mp htag), hvalue⟩
    · intro h
      rw [h.1, h.2]
  refine ⟨htext, Literal.text_integer_ne_text_float, ?_⟩
  intro kind
  apply And.intro
  · rw [ne_eq, htext]
    intro h
    cases h.2 with
    | some h =>
      cases h with
      | nan hx hy => exact absurd hx (by decide)
  · cases kind <;> decide +kernel

end Token

end FormulaLexer
