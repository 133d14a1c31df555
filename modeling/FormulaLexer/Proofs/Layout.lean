import FormulaLexer.Proofs.Scan
import Mathlib.Data.List.Chain
import Mathlib.Data.Set.Subsingleton

namespace FormulaLexer

/-- An operator with its kind, an integer by its digits, or a float by those on either side of the
point. -/
inductive Word
  | operator (c : Char) (kind : TokenKind)
  | integer (digits : List Char)
  | float (whole fraction : List Char)

namespace Word

def chars : Word → List Char
  | operator c _ => [c]
  | integer digits => digits
  | float whole fraction => whole ++ '.' :: fraction

def isNumber : Word → Bool
  | operator _ _ => false
  | _ => true

/-- The operators are those of the table; numbers have decimal digits, and one at least to begin
with. -/
def Valid : Word → Prop
  | operator c kind => (c, kind) ∈ operators
  | integer digits => digits ≠ [] ∧ ∀ c ∈ digits, c.isDigit = true
  | float whole fraction =>
    whole ≠ [] ∧ (∀ c ∈ whole, c.isDigit = true) ∧ ∀ c ∈ fraction, c.isDigit = true

/-- An integer has its exact value, a float the nearest binary64 number. -/
def token : Word → Token
  | operator _ kind => ⟨kind, none⟩
  | integer digits => ⟨.integer, some (.integer (decimalValue digits))⟩
  | float whole fraction =>
    ⟨.float, some (.float
      (Decimal.mk (decimalValue (whole ++ fraction)) (-fraction.length)).toBinary64)⟩

def lexeme : Word → Lexeme
  | operator c kind => .operator c kind
  | integer digits => .number digits
  | float whole fraction => .number (whole ++ '.' :: fraction)

def ofNumber (text : List Char) : Word :=
  match text.dropWhile Char.isDigit with
  | [] => .integer text
  | _ :: fraction => .float (text.takeWhile Char.isDigit) fraction

end Word

structure Placed where
  word : Word
  gap : List Char

structure Layout where
  lead : List Char
  words : List Placed

namespace Layout

def text (l : Layout) : List Char := l.lead ++ l.words.flatMap fun p => p.word.chars ++ p.gap

def tokens (l : Layout) : List Token := l.words.map fun p => p.word.token

/-- There are only blanks around the words, and something stands between two numbers. -/
structure WellFormed (l : Layout) : Prop where
  lead : ∀ c ∈ l.lead, Text.isBlank c = true
  gaps : ∀ p ∈ l.words, ∀ c ∈ p.gap, Text.isBlank c = true
  words : ∀ p ∈ l.words, p.word.Valid
  apart : l.words.IsChain fun p q =>
    p.word.isNumber = true → p.gap = [] → q.word.isNumber = false

def Writes (l : Layout) (cs : List Char) : Prop := l.WellFormed ∧ l.text = cs

def blank (c : Char) (l : Layout) : Layout := ⟨c :: l.lead, l.words⟩

def word (w : Word) (l : Layout) : Layout := ⟨[], ⟨w, l.lead⟩ :: l.words⟩

def lexemes (l : Layout) : List Lexeme :=
  l.lead.map .blank ++ l.words.flatMap fun p => p.word.lexeme :: p.gap.map .blank

def ofLexemes : List Lexeme → Layout
  | [] => ⟨[], []⟩
  | .blank c :: ls => blank c (ofLexemes ls)
  | .number text :: ls => word (.ofNumber text) (ofLexemes ls)
  | .operator c kind :: ls => word (.operator c kind) (ofLexemes ls)
  | .stray _ :: ls => ofLexemes ls

/-- Every layout is made by putting blanks and words before the empty one. -/
@[elab_as_elim]
theorem induction {motive : Layout → Prop} (nil : motive ⟨[], []⟩)
    (blank : ∀ c l, motive l → motive (blank c l)) (word : ∀ w l, motive l → motive (word w l))
    (l : Layout) : motive l := by
  obtain ⟨lead, words⟩ := l
  induction words generalizing lead with
  | nil =>
    induction lead with
    | nil => exact nil
    | cons c cs ih => exact blank c ⟨cs, []⟩ ih
  | cons p ps ihp =>
    induction lead with
    | nil => exact word p.word ⟨p.gap, ps⟩ (ihp p.gap)
    | cons c cs ih => exact blank c ⟨cs, p :: ps⟩ ih

variable {l : Layout} {w : Word} {c : Char}

theorem text_blank : (blank c l).text = c :: l.text := rfl

theorem text_word : (word w l).text = w.chars ++ l.text := by
  simp only [text, word, List.flatMap_cons, List.nil_append, List.append_assoc]

theorem lexemes_blank : (blank c l).lexemes = .blank c :: l.lexemes := rfl

theorem lexemes_word : (word w l).lexemes = w.lexeme :: l.lexemes := rfl

theorem wellFormed_nil : (⟨[], []⟩ : Layout).WellFormed := ⟨nofun, nofun, nofun, .nil⟩

theorem wellFormed_blank_iff :
    (blank c l).WellFormed ↔ Text.isBlank c = true ∧ l.WellFormed := by
  apply Iff.intro
  · intro h
    obtain ⟨hc, hl⟩ := List.forall_mem_cons.mp h.lead
    exact ⟨hc, hl, h.gaps, h.words, h.apart⟩
  · intro h
    obtain ⟨hc, h⟩ := h
    exact ⟨List.forall_mem_cons.mpr ⟨hc, h.lead⟩, h.gaps, h.words, h.apart⟩

/-- The layout can follow a number. -/
def Detached (l : Layout) : Prop :=
  l.lead = [] → ∀ q, l.words.head? = some q → q.word.isNumber = false

theorem detached_word_iff : (word w l).Detached ↔ w.isNumber = false := by
  apply Iff.intro
  · intro h
    exact h rfl _ rfl
  · intro h _ q hq
    cases hq
    exact h

theorem wellFormed_word_iff :
    (word w l).WellFormed ↔
      w.Valid ∧ l.WellFormed ∧ (w.isNumber = true → l.Detached) := by
  apply Iff.intro
  · intro h
    obtain ⟨hl, hg⟩ := List.forall_mem_cons.mp h.gaps
    obtain ⟨hw, hws⟩ := List.forall_mem_cons.mp h.words
    obtain ⟨ha, has⟩ := List.isChain_cons.mp h.apart
    have hd : w.isNumber = true → l.Detached := by
      intro hn he q hq
      exact ha q hq hn he
    exact ⟨hw, ⟨hl, hg, hws, has⟩, hd⟩
  · intro h
    obtain ⟨hw, h, hd⟩ := h
    apply WellFormed.mk
    · nofun
    · exact List.forall_mem_cons.mpr ⟨h.lead, h.gaps⟩
    · exact List.forall_mem_cons.mpr ⟨hw, h.words⟩
    · apply List.isChain_cons.mpr ⟨_, h.apart⟩
      intro q hq hn he
      exact hd hn he q hq

end Layout

end FormulaLexer
