import FormulaLexer.Proofs.Tracking
import FormulaLexer.Proofs.Grammar
import Mathlib.Order.Bounds.Basic
import Mathlib.Tactic.IntervalCases

namespace FormulaLexer

open Lexeme

def formulaChars : List Char :=
  ['0', '1', '2', '3', '4', '5', '6', '7', '8', '9', ' ', '\t', '+', '-', '*', '/', '(', ')', '.']

/-- A point is misplaced when there is no digit just before it, or when the digits just before it
come just after another point. The text before it is given from its end to its beginning. -/
def Misplaced (before : List Char) : Prop :=
  (∀ d, before.head? = some d → d.isDigit = false) ∨
    (before.dropWhile Char.isDigit).head? = some '.'

def Offends (passed : List Char) (c : Char) : Prop :=
  c ∉ formulaChars ∨ c = '.' ∧ Misplaced passed.reverse

def Offending (cs : List Char) (i : Nat) : Prop := ∃ c, cs[i]? = some c ∧ Offends (cs.take i) c

/-- No number reaches to the end of the text. -/
def Loose (passed : List Char) : Prop :=
  ∀ d, passed.getLast? = some d → d.isDigit = false ∧ d ≠ '.'

/-- A number that reaches to the end of `passed` is a whole one, and `rest` does not go on with
it. -/
inductive Settled : List Char → List Char → Prop
  | loose {passed rest : List Char} (h : Loose passed) : Settled passed rest
  | number {passed text rest : List Char} (h : Loose passed) (hn : IsNumber text)
      (he : Ends text rest) : Settled (passed ++ text) rest

variable {passed rest text u v : List Char} {c : Char} {l : Lexeme} {ls before tail : List Lexeme}

theorem mem_formulaChars_of_isDigit (h : c.isDigit = true) : c ∈ formulaChars := by
  have hn : 48 ≤ c.toNat ∧ c.toNat ≤ 57 := by
    simp only [Char.isDigit, Bool.and_eq_true, decide_eq_true_eq, UInt32.le_iff_toNat_le] at h
    exact h
  obtain ⟨hl, hu⟩ := hn
  rw [← Char.ofNat_toNat c]
  interval_cases c.toNat <;> decide

theorem mem_formulaChars_of_isBlank (h : Text.isBlank c = true) : c ∈ formulaChars := by
  simp only [Text.isBlank, Bool.or_eq_true, decide_eq_true_eq] at h
  rcases h with rfl | rfl <;> decide

theorem mem_formulaChars_of_operator {kind : TokenKind} (h : operator? c = some kind) :
    c ∈ formulaChars := by
  have hall : ∀ p ∈ operators, p.1 ∈ formulaChars := by decide
  exact hall (c, kind) (operator?_eq_some_iff.mp h)

theorem eq_point_of_stray (h : (Lexeme.stray c).Valid) (hc : c ∈ formulaChars) : c = '.' := by
  have hall : (formulaChars.all fun d =>
      Text.isBlank d || d.isDigit || (operator? d).isSome || d = '.') = true := by decide
  have hclass := List.all_eq_true.mp hall c hc
  simp only [Bool.or_eq_true, decide_eq_true_eq] at hclass
  obtain ⟨hb, hd, ho⟩ := h
  rcases hclass with ((h | h) | h) | h
  · exact absurd h (Bool.eq_false_iff.mp hb)
  · exact absurd h (Bool.eq_false_iff.mp hd)
  · rw [ho] at h
    cases h
  · exact h

theorem loose_append_singleton (hd : c.isDigit = false) (hp : c ≠ '.') :
    Loose (passed ++ [c]) := by
  intro d hl
  rw [List.getLast?_append, List.getLast?_singleton] at hl
  cases hl
  exact ⟨hd, hp⟩

theorem Loose.head_reverse (h : Loose passed) :
    ∀ d, passed.reverse.head? = some d → d.isDigit = false ∧ d ≠ '.' := by
  intro d hd
  rw [List.head?_reverse] at hd
  exact h d hd

theorem not_offends_of_ne_point (hc : c ∈ formulaChars) (hp : c ≠ '.') : ¬ Offends passed c := by
  intro h
  rcases h with h | ⟨h, -⟩
  · exact h hc
  · exact hp h

theorem not_offends_point (h : Loose passed) (hne : u ≠ []) (hd : ∀ d ∈ u, d.isDigit = true) :
    ¬ Offends (passed ++ u) '.' := by
  have hdr : ∀ d ∈ u.reverse, d.isDigit = true := by
    intro d hm
    exact hd d (List.mem_reverse.mp hm)
  have hdrop : (u.reverse ++ passed.reverse).dropWhile Char.isDigit = passed.reverse := by
    apply Text.dropWhile_append_of_head hdr
    intro d hm
    exact (h.head_reverse d hm).1
  intro ho
  rcases ho with hf | ⟨-, hm⟩
  · exact absurd hf (by decide)
  · rw [Misplaced, List.reverse_append] at hm
    rcases hm with hl | hp
    · cases hu : u.reverse with
      | nil => exact hne (List.reverse_eq_nil_iff.mp hu)
      | cons d ds =>
        have hf := hl d (by rw [hu]; rfl)
        exact absurd (hdr d (hu ▸ List.mem_cons_self)) (Bool.eq_false_iff.mp hf)
    · rw [hdrop] at hp
      exact (h.head_reverse '.' hp).2 rfl

namespace Settled

theorem loose_of_isDigit {cs : List Char} (h : Settled passed (c :: cs))
    (hc : c.isDigit = true) : Loose passed := by
  cases h with
  | loose h => exact h
  | number h hn he => exact absurd hc (Bool.eq_false_iff.mp (ends_cons_iff.mp he).1)

theorem loose_of_isNumber (h : Settled passed (text ++ rest)) (hn : IsNumber text) :
    Loose passed := by
  cases text with
  | nil => exact absurd rfl hn.ne_nil
  | cons c cs => exact h.loose_of_isDigit hn.isDigit_head

theorem step (h : Settled passed (l.chars ++ rest)) (hv : l.Valid) (ha : l.Apart rest)
    (hs : ∀ ch, l ≠ .stray ch) : Settled (passed ++ l.chars) rest := by
  cases l with
  | blank c =>
    have hp := ne_point_of_isBlank hv
    exact .loose (loose_append_singleton (isDigit_of_isBlank hv) hp)
  | number text => exact .number (h.loose_of_isNumber hv) hv ha
  | operator c kind =>
    obtain ⟨-, hd, hp⟩ := operator_class hv
    exact .loose (loose_append_singleton hd hp)
  | stray ch => exact absurd rfl (hs ch)

theorem not_offends (h : Settled passed (l.chars ++ rest)) (hv : l.Valid)
    (hs : ∀ ch, l ≠ .stray ch) (hl : l.chars = u ++ c :: v) : ¬ Offends (passed ++ u) c := by
  have hm : c ∈ l.chars := hl ▸ List.mem_append_right u List.mem_cons_self
  cases l with
  | blank d =>
    obtain rfl := List.mem_singleton.mp hm
    exact not_offends_of_ne_point (mem_formulaChars_of_isBlank hv) (ne_point_of_isBlank hv)
  | number text =>
    have hn : IsNumber (u ++ c :: v) := hl ▸ hv
    rcases hn.digit_or_point with hd | ⟨rfl, hne, hd⟩
    · exact not_offends_of_ne_point (mem_formulaChars_of_isDigit hd) (ne_point_of_isDigit hd)
    · exact not_offends_point (h.loose_of_isNumber hv) hne hd
  | operator d kind =>
    obtain rfl := List.mem_singleton.mp hm
    exact not_offends_of_ne_point (mem_formulaChars_of_operator hv) (operator_class hv).2.2
  | stray ch => exact absurd rfl (hs ch)

theorem offends (h : Settled passed (c :: rest)) (hv : (Lexeme.stray c).Valid) :
    Offends passed c := by
  by_cases hc : c ∈ formulaChars
  · obtain rfl := eq_point_of_stray hv hc
    apply Or.inr
    apply And.intro rfl
    cases h with
    | loose h =>
      apply Or.inl
      intro d hd
      exact (h.head_reverse d hd).1
    | @number passed text rest h hn he =>
      -- The number has a point already, and there are only digits behind that.
      have hp : '.' ∈ text := (ends_cons_iff.mp he).2 rfl
      cases hn with
      | integer hne hd => exact absurd hp (point_not_mem hd)
      | @float whole fraction hne hw hf =>
        have hfr : ∀ d ∈ fraction.reverse, d.isDigit = true := by
          intro d hd
          exact hf d (List.mem_reverse.mp hd)
        apply Or.inr
        simp only [List.reverse_append, List.reverse_cons, List.append_assoc]
        rw [List.dropWhile_append_of_pos hfr]
        rfl
  · exact .inl hc

end Settled

/-- Behind lexemes that are no strays the text is settled, and none of their characters offends. -/
theorem settled_append (hd : Division (before ++ tail)) (hc : Clean before)
    (h : Settled passed ((before ++ tail).flatMap chars)) :
    Settled (passed ++ before.flatMap chars) (tail.flatMap chars) ∧
      ∀ u c v, before.flatMap chars = u ++ c :: v → ¬ Offends (passed ++ u) c := by
  induction before generalizing passed with
  | nil => exact ⟨by simpa using h, by simp⟩
  | cons l before ih =>
    cases hd with
    | cons hv ha hd =>
      rw [List.cons_append, List.flatMap_cons] at h
      obtain ⟨hset, hoff⟩ := ih hd hc.tail (h.step hv ha hc.head)
      rw [List.append_assoc] at hset
      apply And.intro hset
      intro u c v he
      -- The character is in the first lexeme, or in those after it.
      rcases List.append_eq_append_iff.mp he with ⟨x, hx, hy⟩ | ⟨x, hx, hy⟩
      · rw [hx, ← List.append_assoc]
        exact hoff x c v hy
      · cases x with
        | nil =>
          rw [List.append_nil] at hx
          have hn := hoff [] c v hy.symm
          rwa [List.append_nil, hx] at hn
        | cons d ds =>
          obtain ⟨rfl, -⟩ := List.cons.inj hy
          exact h.not_offends hv hc.head hx

theorem settled_division (hd : Division (before ++ tail)) (hc : Clean before) :
    Settled (before.flatMap chars) (tail.flatMap chars) ∧
      ∀ u c v, before.flatMap chars = u ++ c :: v → ¬ Offends u c := by
  have h : Settled [] ((before ++ tail).flatMap chars) := .loose nofun
  exact settled_append hd hc h

theorem offending_append_cons :
    Offending (passed ++ c :: rest) passed.length ↔ Offends passed c := by
  have hi : (passed ++ c :: rest)[passed.length]? = some c := by simp
  have ht : (passed ++ c :: rest).take passed.length = passed := by simp
  rw [Offending, hi, ht]
  apply Iff.intro
  · intro h
    obtain ⟨d, hd, h⟩ := h
    cases hd
    exact h
  · intro h
    exact ⟨c, rfl, h⟩

theorem not_offending_append {i : Nat} (hi : i < passed.length)
    (h : ∀ u c v, passed = u ++ c :: v → ¬ Offends u c) : ¬ Offending (passed ++ rest) i := by
  have hp : passed = passed.take i ++ passed[i] :: passed.drop (i + 1) := by simp
  intro ho
  obtain ⟨c, hc, ho⟩ := ho
  rw [List.getElem?_append_left hi, List.getElem?_eq_getElem hi] at hc
  cases hc
  rw [List.take_append_of_le_length (Nat.le_of_lt hi)] at ho
  exact h _ _ _ hp ho

theorem not_offending_of_clean {cs : List Char} (hc : Clean (split cs)) (i : Nat) :
    ¬ Offending cs i := by
  have hd : Division (split cs ++ []) := by
    rw [List.append_nil]
    exact division_split cs
  have hoff := (settled_division hd hc).2
  rw [flatMap_chars_split] at hoff
  by_cases hi : i < cs.length
  · have hn : ¬ Offending (cs ++ []) i := not_offending_append hi hoff
    rwa [List.append_nil] at hn
  · intro ho
    obtain ⟨c, h, -⟩ := ho
    rw [List.getElem?_eq_none (Nat.le_of_not_lt hi)] at h
    cases h

section Stray

variable {cs : List Char} {after : List Lexeme} (hs : split cs = before ++ .stray c :: after)

include hs

theorem isLeast_offending_of_stray (hc : Clean before) :
    IsLeast {i | Offending cs i} (before.flatMap chars).length := by
  have hd : Division (before ++ .stray c :: after) := hs ▸ division_split cs
  have hv := hd.valid_of_append
  obtain ⟨hset, hoff⟩ := settled_division hd hc
  rw [append_stray hs]
  apply And.intro (offending_append_cons.mpr (hset.offends hv))
  intro i hi
  by_contra hlt
  exact not_offending_append (Nat.lt_of_not_le hlt) hoff hi

theorem newline_not_mem_of_stray (hc : Clean before) : '\n' ∉ before.flatMap chars := by
  have hd : Division (before ++ .stray c :: after) := hs ▸ division_split cs
  intro hm
  obtain ⟨u, v, he⟩ := List.append_of_mem hm
  exact (settled_division hd hc).2 u '\n' v he (.inl (by decide))

end Stray

/-- There is no line feed before the character at which a source goes wrong, but it may be one. -/
theorem tokenize_eq_error_of_stray {source : String} (file? : Option String)
    {after : List Lexeme} {n : Nat} (hs : split source.toList = before ++ .stray c :: after)
    (hc : Clean before) (hn : (before.flatMap chars).length = n) :
    tokenize source file? = .error ⟨.illegalCharacter (String.singleton c),
      ⟨n, 0, n, file?.getD defaultFile, source⟩,
      ⟨n + 1, if c = '\n' then 1 else 0, if c = '\n' then 0 else n + 1,
        file?.getD defaultFile, source⟩⟩ := by
  have hr := (Cursor.run_of_stray (c := Cursor.start source file?) hs hc).1
  have ht : source.toList.take n = before.flatMap chars := hn ▸ take_of_stray hs
  have hch : source.toList[n]? = some c := hn ▸ getElem?_of_stray hs
  have hnl := newline_not_mem_of_stray hs hc
  rw [← ht] at hnl
  rw [hn, Cursor.position_skip_start, Cursor.position_skip_start, ← Cursor.advance_after,
    Position.after_of_newline_not_mem hnl, hch, Position.advance] at hr
  rw [tokenize, hr]
  by_cases hl : c = '\n' <;> simp [hl]

theorem tokenize_of_stray {source : String} (file? : Option String) {after : List Lexeme}
    (hs : split source.toList = before ++ .stray c :: after) (hc : Clean before) :
    ∃ stop, tokenize source file? = .error ⟨.illegalCharacter (String.singleton c),
      ⟨(before.flatMap chars).length, 0, (before.flatMap chars).length,
        file?.getD defaultFile, source⟩, stop⟩ :=
  ⟨_, tokenize_eq_error_of_stray file? hs hc rfl⟩

/-- A source has tokens when nothing in it offends. Otherwise the error is the character that
offends first, with all lines and columns still counted from the beginning. -/
theorem tokenize_iff_offending (source : String) (file? : Option String) :
    ((∃ tokens, tokenize source file? = .ok tokens) ↔ ∀ i, ¬ Offending source.toList i) ∧
    ∀ i, IsLeast {j | Offending source.toList j} i ↔
      ∃ c stop, source.toList[i]? = some c ∧
        tokenize source file? = .error ⟨.illegalCharacter (String.singleton c),
          ⟨i, 0, i, file?.getD defaultFile, source⟩, stop⟩ := by
  rcases clean_or_stray (split source.toList) with hc | ⟨before, ch, after, hs, hc⟩
  · have ht := tokenize_of_clean file? hc
    have hn := not_offending_of_clean hc
    apply And.intro
    · exact ⟨fun _ => hn, fun _ => ⟨_, ht⟩⟩
    · intro i
      apply Iff.intro
      · intro hi
        exact absurd hi.1 (hn i)
      · intro h
        obtain ⟨c, stop, -, he⟩ := h
        rw [ht] at he
        cases he
  · have hl := isLeast_offending_of_stray hs hc
    obtain ⟨stop, ht⟩ := tokenize_of_stray file? hs hc
    apply And.intro
    · apply Iff.intro
      · intro h
        obtain ⟨tokens, he⟩ := h
        rw [ht] at he
        cases he
      · intro h
        exact absurd hl.1 (h _)
    · intro i
      apply Iff.intro
      · intro hi
        obtain rfl := hi.unique hl
        exact ⟨ch, stop, getElem?_of_stray hs, ht⟩
      · intro h
        obtain ⟨c, stop', -, he⟩ := h
        rw [ht] at he
        simp only [Except.error.injEq, Error.mk.injEq, Position.mk.injEq, Nat.cast_inj] at he
        obtain ⟨-, ⟨rfl, -⟩, -⟩ := he
        exact hl

end FormulaLexer
