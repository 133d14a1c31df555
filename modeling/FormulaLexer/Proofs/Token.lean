import FormulaLexer.Proofs.Rendering
import FormulaLexer.Proofs.Tracking

namespace FormulaLexer

namespace Token

variable {t : Token} {tokens : List Token}

/-- The numbers are those tokens with a value, which is of their kind and not negative. -/
structure Coherent (t : Token) : Prop where
  kind_eq_integer_iff : t.kind = .integer ↔ t.integer?.isSome
  kind_eq_float_iff : t.kind = .float ↔ t.float?.isSome
  value_eq_none : t.kind ≠ .integer → t.kind ≠ .float → t.value = none
  integer : ∀ n, t.integer? = some n → 0 ≤ n
  float : ∀ x, t.float? = some x → x.isNegative = false ∧ x.isNaN = false

theorem Coherent.numericEq_self (h : t.Coherent) : t.numericEq t = true := by
  obtain ⟨kind, value⟩ := t
  cases value with
  | none => simp [numericEq]
  | some value =>
    cases value with
    | integer n => simp [numericEq, Literal.numericEq]
    | float x =>
      obtain ⟨-, hx⟩ := h.float x rfl
      simp [numericEq, Literal.numericEq, Binary64.numericEq_self, hx]

theorem isEqv_self (h : ∀ t ∈ tokens, t.Coherent) :
    tokens.isEqv tokens numericEq = true := by
  induction tokens with
  | nil => rfl
  | cons t tokens ih =>
    obtain ⟨ht, h⟩ := List.forall_mem_cons.mp h
    rw [List.isEqv_cons_cons, ht.numericEq_self, ih h]
    rfl

end Token

theorem Word.Valid.coherent {w : Word} (h : w.Valid) : w.token.Coherent := by
  cases w with
  | operator c kind =>
    have hn := Token.not_isNumber_ofOperator h
    have hi : kind ≠ .integer := fun hk => hn (.inl hk)
    have hf : kind ≠ .float := fun hk => hn (.inr hk)
    exact ⟨iff_of_false hi nofun, iff_of_false hf nofun, fun _ _ => rfl, nofun, nofun⟩
  | integer digits =>
    refine ⟨iff_of_true rfl rfl, iff_of_false nofun nofun, fun hi => absurd rfl hi, ?_, nofun⟩
    intro n hn
    cases hn
    exact Int.natCast_nonneg _
  | float whole fraction =>
    refine ⟨iff_of_false nofun nofun, iff_of_true rfl rfl, fun _ hf => absurd rfl hf, nofun, ?_⟩
    intro x hx
    cases hx
    exact Binary64.ofQuotient_class _ _

namespace Layout

variable {l : Layout}

theorem WellFormed.coherent (h : l.WellFormed) : ∀ t ∈ l.tokens, t.Coherent := by
  intro t ht
  obtain ⟨p, hp, rfl⟩ := List.mem_map.mp ht
  exact (h.words p hp).coherent

theorem gap_subset_text {p : Placed} (hp : p ∈ l.words) : p.gap ⊆ l.text := by
  intro c hc
  apply List.mem_append_right
  exact List.mem_flatMap.mpr ⟨p, hp, List.mem_append_right _ hc⟩

theorem WellFormed.isChain_tokens (h : l.WellFormed)
    (hb : ∀ c ∈ l.text, Text.isBlank c = false) :
    l.tokens.IsChain fun a b => ¬ (a.IsNumber ∧ b.IsNumber) := by
  have hgap (p : Placed) (hp : p ∈ l.words) : p.gap = [] := by
    apply List.eq_nil_iff_forall_not_mem.mpr
    intro c hc
    have hblank := h.gaps p hp c hc
    rw [hb c (gap_subset_text hp hc)] at hblank
    cases hblank
  apply (List.isChain_map _).mpr
  apply h.apart.imp_of_mem_imp
  intro p q hp hq hapart hn
  obtain ⟨hnp, hnq⟩ := hn
  have hq' := (h.words q hq).isNumber_iff.mpr hnq
  rw [hapart ((h.words p hp).isNumber_iff.mpr hnp) (hgap p hp)] at hq'
  cases hq'

end Layout

namespace Session

variable {s : Session} {source : String} {file? : Option String} {tokens : List Token}

/-- The tokens that a run returns are coherent, so their list equals itself, and if the rest of the
source that it scans has no blanks, no two numbers are next to each other. -/
theorem Reachable.coherent_tokens (h : Reachable source file? s)
    (hr : s.cursor.run.result = .ok tokens) :
    (∀ t ∈ tokens, t.Coherent) ∧ tokens.isEqv tokens Token.numericEq = true ∧
      ∃ p : Nat, s.cursor.position.offset = p ∧
        (' ' ∉ source.toList.drop p → '\t' ∉ source.toList.drop p →
          tokens.IsChain fun a b => ¬ (a.IsNumber ∧ b.IsNumber)) := by
  obtain ⟨p, -, hp, hrest⟩ := h.onText.1.exists_rest
  have hclean := Cursor.clean_of_run_ok hr
  have hw := Layout.writes_iff.mpr ⟨hclean, rfl⟩
  obtain rfl := Except.ok.inj (hr.symm.trans (Cursor.run_of_clean hclean).1)
  rw [hw.filterMap_token?]
  have hcoherent := hw.1.coherent
  refine ⟨hcoherent, Token.isEqv_self hcoherent, p, congrArg Position.offset hp, ?_⟩
  intro hspace htab
  apply hw.1.isChain_tokens
  intro c hc
  rw [hw.2, hrest] at hc
  have hs : c ≠ ' ' := fun he => hspace (he ▸ hc)
  have ht : c ≠ '\t' := fun he => htab (he ▸ hc)
  simp [Text.isBlank, hs, ht]

/-- A stray, and behind it a float that is above all finite numbers. -/
def vastChars : List Char := ['#', '7', '-'] ++ List.replicate 310 '9' ++ ['.']

def vast : String := String.ofList vastChars

theorem coherent_tokens_vast :
    Reachable vast none (start vast none).run ∧
      ∃ tokens, (start vast none).run.cursor.run.result = .ok tokens ∧
        tokens = [.ofLiteral (.integer 7), .ofOperator .minus,
          .ofLiteral (.float (.ofMagnitude Binary64.infinityMagnitude))] ∧
        (∀ t ∈ tokens, t.Coherent) ∧ tokens.isEqv tokens Token.numericEq = true ∧
        tokens.IsChain fun a b => ¬ (a.IsNumber ∧ b.IsNumber) := by
  have hr : Reachable vast none (start vast none).run := .run .start
  have htext : vast.toList = vastChars := String.toList_ofList
  have hstart : Cursor.start vast none =
      ⟨vastChars, (Position.start "<stdin>" vast).advance none⟩ := by
    rw [Cursor.start, htext]
    rfl
  have hrest : (start vast none).run.cursor.rest = vastChars.tail := by
    rw [Session.run, start, hstart]
    decide +kernel
  have hsplit : Lexeme.split (start vast none).run.cursor.rest =
      [.number ['7'], .operator '-' .minus, .number (List.replicate 310 '9' ++ ['.'])] := by
    rw [hrest]
    decide +kernel
  have hclean : Lexeme.Clean (Lexeme.split (start vast none).run.cursor.rest) := by
    rw [hsplit]
    intro ch
    simp only [List.mem_cons, reduceCtorEq, List.not_mem_nil, or_self, not_false_eq_true]
  have hok := (Cursor.run_of_clean hclean).1
  have htokens : (Lexeme.split (start vast none).run.cursor.rest).filterMap Lexeme.token? =
      [.ofLiteral (.integer 7), .ofOperator .minus,
        .ofLiteral (.float (.ofMagnitude Binary64.infinityMagnitude))] := by
    rw [hsplit]
    decide +kernel
  have ho : (start vast none).run.cursor.position.offset = 1 := by
    rw [Session.run, start, hstart]
    decide +kernel
  obtain ⟨hcoherent, heqv, p, hp, hchain⟩ := hr.coherent_tokens hok
  obtain rfl : p = 1 := Int.ofNat.inj (hp.symm.trans ho)
  have hspace : ' ' ∉ vast.toList.drop 1 := by
    rw [htext]
    decide +kernel
  have htab : '\t' ∉ vast.toList.drop 1 := by
    rw [htext]
    decide +kernel
  exact ⟨hr, _, hok, htokens, hcoherent, heqv, hchain hspace htab⟩

end Session

end FormulaLexer
