import FormulaLexer.Proofs.Grammar
import FormulaLexer.Proofs.Notation
import Mathlib.Tactic.Choose

namespace FormulaLexer

def TokenKind.char? (kind : TokenKind) : Option Char :=
  (operators.find? fun p => p.2 = kind).map Prod.fst

namespace Token

/-- The characters that stand for a token in a formula: those of its value or, without one, that of
its operator. -/
def chars (t : Token) : List Char :=
  match t.value with
  | some value => value.text.toList
  | none => t.kind.char?.toList

def IsNumber (t : Token) : Prop := t.kind = .integer ∨ t.kind = .float

/-- The tokens that can be written in a formula: operators, integers without a sign, and floats
without a sign that are shown in positional notation. -/
inductive Writable : Token → Prop
  | operator {c : Char} {kind : TokenKind} (h : (c, kind) ∈ operators) : Writable ⟨kind, none⟩
  | integer {n : Int} (h : 0 ≤ n) : Writable ⟨.integer, some (.integer n)⟩
  | float {x : Binary64} (hs : x.isNegative = false) (hx : x.InPositionalRange) :
      Writable ⟨.float, some (.float x)⟩

end Token

structure Written where
  token : Token
  gap : List Char

/-- The blanks at the beginning, and the tokens. -/
structure Rendering where
  lead : List Char
  written : List Written

namespace Rendering

def text (r : Rendering) : String :=
  String.ofList (r.lead ++ r.written.flatMap fun w => w.token.chars ++ w.gap)

def tokens (r : Rendering) : List Token := r.written.map Written.token

/-- There are only blanks around the tokens, and something stands between two numbers. -/
structure WellFormed (r : Rendering) : Prop where
  lead : ∀ c ∈ r.lead, Text.isBlank c = true
  gaps : ∀ w ∈ r.written, ∀ c ∈ w.gap, Text.isBlank c = true
  writable : ∀ w ∈ r.written, w.token.Writable
  apart : r.written.IsChain fun v w => v.token.IsNumber → v.gap = [] → ¬ w.token.IsNumber

end Rendering

theorem char?_of_operator {c : Char} {kind : TokenKind} (h : (c, kind) ∈ operators) :
    kind.char? = some c := by
  have hall : ∀ p ∈ operators, p.2.char? = some p.1 := by decide
  exact hall (c, kind) h

theorem Token.isNumber_ofLiteral (value : Literal) : (Token.ofLiteral value).IsNumber := by
  cases value with
  | integer n => exact .inl rfl
  | float x => exact .inr rfl

theorem Token.not_isNumber_ofOperator {c : Char} {kind : TokenKind}
    (h : (c, kind) ∈ operators) : ¬ (Token.ofOperator kind).IsNumber := by
  have hall : ∀ p ∈ operators, p.2 ≠ .integer ∧ p.2 ≠ .float := by decide
  obtain ⟨hi, hf⟩ := hall (c, kind) h
  exact fun hn => hn.elim hi hf

theorem Token.Writable.exists_word {t : Token} (h : t.Writable) :
    ∃ w : Word, w.Valid ∧ w.chars = t.chars ∧ w.token = t := by
  cases h with
  | @operator c kind h =>
    have hc : (⟨kind, none⟩ : Token).chars = [c] := by
      rw [chars, char?_of_operator h]
      rfl
    exact ⟨.operator c kind, h, hc.symm, rfl⟩
  | integer h => exact Word.exists_integer h
  | float hs hx => exact Word.exists_float hs hx

theorem Word.Valid.isNumber_iff {w : Word} (h : w.Valid) :
    w.isNumber = true ↔ w.token.IsNumber := by
  cases w with
  | operator c kind => exact ⟨nofun, fun hn => absurd hn (Token.not_isNumber_ofOperator h)⟩
  | integer digits => exact ⟨fun _ => .inl rfl, fun _ => rfl⟩
  | float whole fraction => exact ⟨fun _ => .inr rfl, fun _ => rfl⟩

/-- The word of a layout that is written like a token, and read as it. -/
structure Placed.Shows (p : Placed) (w : Written) : Prop where
  valid : p.word.Valid
  chars : p.word.chars = w.token.chars
  token : p.word.token = w.token
  gap : p.gap = w.gap

theorem Token.Writable.exists_placed {w : Written} (h : w.token.Writable) :
    ∃ p : Placed, p.Shows w := by
  obtain ⟨word, hv, hc, ht⟩ := h.exists_word
  exact ⟨⟨word, w.gap⟩, hv, hc, ht, rfl⟩

theorem Placed.Shows.isNumber_iff {p : Placed} {w : Written} (h : p.Shows w) :
    p.word.isNumber = true ↔ w.token.IsNumber := by
  rw [h.valid.isNumber_iff, h.token]

namespace Rendering

variable {r : Rendering}

theorem WellFormed.exists_layout (h : r.WellFormed) :
    ∃ l : Layout, l.Writes r.text.toList ∧ l.tokens = r.tokens := by
  have : Nonempty Placed := ⟨⟨.integer [], []⟩⟩
  have hplaced : ∀ w ∈ r.written, ∃ p : Placed, p.Shows w :=
    fun w hw => (h.writable w hw).exists_placed
  choose! place hplace using hplaced
  have hgaps : ∀ p ∈ r.written.map place, ∀ c ∈ p.gap, Text.isBlank c = true := by
    rw [List.forall_mem_map]
    intro w hw
    rw [(hplace w hw).gap]
    exact h.gaps w hw
  have hwords : ∀ p ∈ r.written.map place, p.word.Valid :=
    List.forall_mem_map.mpr fun w hw => (hplace w hw).valid
  have hapart : (r.written.map place).IsChain fun p q =>
      p.word.isNumber = true → p.gap = [] → q.word.isNumber = false := by
    apply (List.isChain_map place).mpr
    apply h.apart.imp_of_mem_imp
    intro v w hv hw hvw hn hg
    have hv := hplace v hv
    have hnumber := hvw (hv.isNumber_iff.mp hn) (hv.gap ▸ hg)
    exact Bool.eq_false_iff.mpr fun hq => hnumber ((hplace w hw).isNumber_iff.mp hq)
  have htext : (⟨r.lead, r.written.map place⟩ : Layout).text = r.text.toList := by
    rw [Layout.text, Rendering.text, String.toList_ofList, List.flatMap_map]
    congr 1
    apply List.flatMap_congr
    intro w hw
    rw [(hplace w hw).chars, (hplace w hw).gap]
  have htokens : (⟨r.lead, r.written.map place⟩ : Layout).tokens = r.tokens := by
    rw [Layout.tokens, Rendering.tokens, List.map_map]
    exact List.map_congr_left fun w hw => (hplace w hw).token
  exact ⟨_, ⟨⟨h.lead, hgaps, hwords, hapart⟩, htext⟩, htokens⟩

/-- Tokens that can be written, with blanks that keep numbers apart, are the tokens of the formula
they make. -/
theorem WellFormed.tokenize_text (h : r.WellFormed) (file? : Option String) :
    tokenize r.text file? = .ok r.tokens := by
  obtain ⟨l, hw, ht⟩ := h.exists_layout
  rw [tokenize_of_clean file? (Layout.writes_iff.mp hw).1, hw.filterMap_token?, ht]

/-- A blank, 0.1 and a tab, 2^64, a minus, and a float of 17 digits that follows it directly. -/
def mixed : Rendering where
  lead := [' ']
  written := [⟨.ofLiteral (.float ⟨0x3fb999999999999a⟩), ['\t']⟩,
    ⟨.ofLiteral (.integer (2 ^ 64)), []⟩, ⟨⟨.minus, none⟩, []⟩,
    ⟨.ofLiteral (.float ⟨0x42d6bcc41e900010⟩), []⟩]

theorem tokenize_text_mixed :
    mixed.WellFormed ∧ mixed.text = " 0.1\t18446744073709551616-100000000000000.25" ∧
      tokenize " 0.1\t18446744073709551616-100000000000000.25" none =
        .ok [.ofLiteral (.float ⟨0x3fb999999999999a⟩), .ofLiteral (.integer (2 ^ 64)),
          ⟨.minus, none⟩, .ofLiteral (.float ⟨0x42d6bcc41e900010⟩)] := by
  have htenth : (Token.ofLiteral (.float ⟨0x3fb999999999999a⟩)).Writable :=
    .float rfl (by decide +kernel)
  have hquarter : (Token.ofLiteral (.float ⟨0x42d6bcc41e900010⟩)).Writable :=
    .float rfl (by decide +kernel)
  have hinteger : (Token.ofLiteral (.integer (2 ^ 64))).Writable := .integer (by decide)
  have hminus : (⟨.minus, none⟩ : Token).Writable := .operator (c := '-') (by decide)
  have hwf : mixed.WellFormed := by
    constructor
    · simp [mixed, Text.isBlank]
    · simp [mixed, Text.isBlank]
    · simp only [mixed, List.forall_mem_cons]
      exact ⟨htenth, hinteger, hminus, hquarter, List.forall_mem_nil _⟩
    · simp [mixed, Token.IsNumber]
  have htext : mixed.text = " 0.1\t18446744073709551616-100000000000000.25" := by
    decide +kernel
  have h := hwf.tokenize_text none
  rw [htext] at h
  exact ⟨hwf, htext, h⟩

end Rendering

end FormulaLexer
