import FormulaLexer.Proofs.Number

namespace FormulaLexer

theorem isDigit_of_isBlank {c : Char} (h : Text.isBlank c = true) : c.isDigit = false := by
  simp only [Text.isBlank, Bool.or_eq_true, decide_eq_true_eq] at h
  rcases h with rfl | rfl <;> decide

theorem ne_point_of_isBlank {c : Char} (h : Text.isBlank c = true) : c ≠ '.' := by
  intro he
  have hp : Text.isBlank '.' = false := rfl
  exact absurd (he ▸ h) (Bool.eq_false_iff.mp hp)

theorem isBlank_of_isDigit {c : Char} (h : c.isDigit = true) : Text.isBlank c = false := by
  cases hb : Text.isBlank c with
  | false => rfl
  | true => exact absurd h (Bool.eq_false_iff.mp (isDigit_of_isBlank hb))

theorem operator?_eq_some_iff {c : Char} {kind : TokenKind} :
    operator? c = some kind ↔ (c, kind) ∈ operators := by
  apply Iff.intro
  · intro h
    obtain ⟨before, after, he, -⟩ := List.lookup_eq_some_iff.mp h
    rw [he]
    exact List.mem_append_right _ List.mem_cons_self
  · intro h
    simp only [operators, List.mem_cons, Prod.mk.injEq, List.not_mem_nil, or_false] at h
    rcases h with ⟨rfl, rfl⟩ | ⟨rfl, rfl⟩ | ⟨rfl, rfl⟩ | ⟨rfl, rfl⟩ | ⟨rfl, rfl⟩ | ⟨rfl, rfl⟩ <;>
      decide

theorem operator_class {c : Char} {kind : TokenKind} (h : operator? c = some kind) :
    Text.isBlank c = false ∧ c.isDigit = false ∧ c ≠ '.' := by
  have hall : ∀ p ∈ operators,
      Text.isBlank p.1 = false ∧ p.1.isDigit = false ∧ p.1 ≠ '.' := by decide
  exact hall (c, kind) (operator?_eq_some_iff.mp h)

namespace Lexeme

variable {l : Lexeme} {ls ms : List Lexeme} {rest : List Char}

def Valid : Lexeme → Prop
  | blank c => Text.isBlank c = true
  | number text => IsNumber text
  | operator c kind => operator? c = some kind
  | stray c => Text.isBlank c = false ∧ c.isDigit = false ∧ operator? c = none

/-- The lexeme is complete where `rest` follows it. -/
def Apart (rest : List Char) : Lexeme → Prop
  | number text => Ends text rest
  | _ => True

/-- Lexemes of the form of their kinds, each of them complete. -/
inductive Division : List Lexeme → Prop
  | nil : Division []
  | cons {l : Lexeme} {ls : List Lexeme} (hv : l.Valid) (ha : l.Apart (ls.flatMap chars))
      (h : Division ls) : Division (l :: ls)

theorem Valid.chars_ne_nil (h : l.Valid) : l.chars ≠ [] := by
  cases l with
  | number text => exact IsNumber.ne_nil h
  | blank c => exact List.cons_ne_nil _ _
  | operator c kind => exact List.cons_ne_nil _ _
  | stray c => exact List.cons_ne_nil _ _

theorem first_blank {c : Char} (cs : List Char) (h : Text.isBlank c = true) :
    first c cs = .blank c := if_pos h

theorem first_number {c : Char} (cs : List Char) (h : c.isDigit = true) :
    first c cs = .number (numberText (c :: cs)) := by
  rw [first, if_neg (Bool.eq_false_iff.mp (isBlank_of_isDigit h)), if_pos h]

theorem first_operator {c : Char} {kind : TokenKind} (cs : List Char)
    (h : operator? c = some kind) : first c cs = .operator c kind := by
  obtain ⟨hb, hd, -⟩ := operator_class h
  rw [first, if_neg (Bool.eq_false_iff.mp hb), if_neg (Bool.eq_false_iff.mp hd), h]

theorem first_stray {c : Char} (cs : List Char) (h : (stray c).Valid) :
    first c cs = .stray c := by
  obtain ⟨hb, hd, ho⟩ := h
  rw [first, if_neg (Bool.eq_false_iff.mp hb), if_neg (Bool.eq_false_iff.mp hd), ho]

theorem char_class (c : Char) :
    Text.isBlank c = true ∨ c.isDigit = true ∨ (∃ kind, operator? c = some kind) ∨
      (stray c).Valid := by
  cases hb : Text.isBlank c with
  | true => exact .inl rfl
  | false =>
    cases hd : c.isDigit with
    | true => exact .inr (.inl rfl)
    | false =>
      cases ho : operator? c with
      | some kind => exact .inr (.inr (.inl ⟨kind, rfl⟩))
      | none => exact .inr (.inr (.inr ⟨hb, hd, ho⟩))

theorem valid_first (c : Char) (cs : List Char) : (first c cs).Valid := by
  rcases char_class c with hb | hd | ⟨kind, ho⟩ | hs
  · rw [first_blank cs hb]
    exact hb
  · rw [first_number cs hd]
    exact isNumber_numberText cs hd
  · rw [first_operator cs ho]
    exact ho
  · rw [first_stray cs hs]
    exact hs

theorem apart_first {c : Char} {cs : List Char} (h : (first c cs).chars ++ rest = c :: cs) :
    (first c cs).Apart rest := by
  rcases char_class c with hb | hd | ⟨kind, ho⟩ | hs
  · rw [first_blank cs hb]
    trivial
  · rw [first_number cs hd] at h ⊢
    exact ends_numberText h
  · rw [first_operator cs ho]
    trivial
  · rw [first_stray cs hs]
    trivial

theorem first_eq {c : Char} {cs : List Char} (hv : l.Valid) (ha : l.Apart rest)
    (h : l.chars ++ rest = c :: cs) : first c cs = l := by
  cases l with
  | blank d =>
    obtain ⟨rfl, rfl⟩ := List.cons.inj h
    exact first_blank rest hv
  | number text =>
    have hd : c.isDigit = true := by
      cases text with
      | nil => exact absurd rfl (IsNumber.ne_nil hv)
      | cons d ds =>
        obtain ⟨rfl, rfl⟩ := List.cons.inj h
        exact IsNumber.isDigit_head hv
    have hn : numberText (c :: cs) = text := h ▸ IsNumber.numberText_append hv ha
    rw [first_number cs hd, hn]
  | operator d kind =>
    obtain ⟨rfl, rfl⟩ := List.cons.inj h
    exact first_operator rest hv
  | stray d =>
    obtain ⟨rfl, rfl⟩ := List.cons.inj h
    exact first_stray rest hv

theorem split_cons (c : Char) (cs : List Char) :
    split (c :: cs) = first c cs :: split (cs.drop ((first c cs).chars.length - 1)) := by
  rw [split]

theorem split_append (hv : l.Valid) (ha : l.Apart rest) :
    split (l.chars ++ rest) = l :: split rest := by
  cases h : l.chars with
  | nil => exact absurd h hv.chars_ne_nil
  | cons c cs =>
    have hf : first c (cs ++ rest) = l := first_eq hv ha (by rw [h, List.cons_append])
    rw [List.cons_append, split_cons, hf, h]
    simp

theorem division_split (cs : List Char) : Division (split cs) := by
  fun_induction split cs with
  | case1 => exact .nil
  | case2 c cs ih =>
    apply Division.cons (valid_first c cs) _ ih
    apply apart_first
    rw [flatMap_chars_split]
    exact chars_first_append_drop c cs

theorem Division.split_flatMap (h : Division ls) : split (ls.flatMap chars) = ls := by
  induction h with
  | nil => rw [List.flatMap_nil, split]
  | cons hv ha h ih => rw [List.flatMap_cons, split_append hv ha, ih]

/-- The division of a text is the only one. -/
theorem split_eq_iff {cs : List Char} : split cs = ls ↔ Division ls ∧ ls.flatMap chars = cs := by
  apply Iff.intro
  · intro h
    rw [← h]
    exact ⟨division_split cs, flatMap_chars_split cs⟩
  · intro h
    obtain ⟨hd, rfl⟩ := h
    exact hd.split_flatMap

theorem Apart.of_head? {rest' : List Char} (h : l.Apart rest) (hr : rest'.head? = rest.head?) :
    l.Apart rest' := by
  cases l with
  | number text =>
    intro c hc
    exact h c (hr ▸ hc)
  | blank c => trivial
  | operator c kind => trivial
  | stray c => trivial

theorem Apart.of_append {us vs : List Char} (h : l.Apart (us ++ vs)) : l.Apart us := by
  cases us with
  | nil =>
    cases l with
    | number text => exact ends_nil text
    | blank c => trivial
    | operator c kind => trivial
    | stray c => trivial
  | cons c cs => exact h.of_head? rfl

theorem Division.of_append_left (h : Division (ls ++ ms)) : Division ls := by
  induction ls with
  | nil => exact .nil
  | cons l ls ih =>
    cases h with
    | cons hv ha h =>
      have ha : l.Apart ((ls ++ ms).flatMap chars) := ha
      rw [List.flatMap_append] at ha
      exact .cons hv ha.of_append (ih h)

/-- Only the first character behind a lexeme counts for it. -/
theorem Division.append_of_head? {ms' : List Lexeme} (h : Division (ls ++ ms))
    (h' : Division ms') (hr : (ms'.flatMap chars).head? = (ms.flatMap chars).head?) :
    Division (ls ++ ms') := by
  induction ls with
  | nil => exact h'
  | cons l ls ih =>
    cases h with
    | cons hv ha h =>
      have ha : l.Apart ((ls ++ ms).flatMap chars) := ha
      apply Division.cons hv _ (ih h)
      apply ha.of_head?
      rw [List.flatMap_append, List.flatMap_append, List.head?_append, List.head?_append, hr]

theorem split_append_of_head? {us : List Char} (h : Division (ls ++ ms))
    (hr : us.head? = (ms.flatMap chars).head?) :
    split (ls.flatMap chars ++ us) = ls ++ split us := by
  have hu := flatMap_chars_split us
  apply split_eq_iff.mpr
  apply And.intro
  · exact h.append_of_head? (division_split us) (by rw [hu, hr])
  · rw [List.flatMap_append, hu]

theorem append_stray {cs : List Char} {c : Char}
    (h : split cs = ls ++ .stray c :: ms) : cs = ls.flatMap chars ++ c :: ms.flatMap chars := by
  have hcs := flatMap_chars_split cs
  rw [h, List.flatMap_append, List.flatMap_cons] at hcs
  exact hcs.symm

theorem take_of_stray {cs : List Char} {c : Char} (h : split cs = ls ++ .stray c :: ms) :
    cs.take (ls.flatMap chars).length = ls.flatMap chars := by
  rw [append_stray h, List.take_left]

theorem getElem?_of_stray {cs : List Char} {c : Char} (h : split cs = ls ++ .stray c :: ms) :
    cs[(ls.flatMap chars).length]? = some c := by
  rw [append_stray h]
  simp

theorem length_lt_of_stray {cs : List Char} {c : Char} (h : split cs = ls ++ .stray c :: ms) :
    (ls.flatMap chars).length < cs.length :=
  (List.getElem?_eq_some_iff.mp (getElem?_of_stray h)).1

end Lexeme

end FormulaLexer
