import FormulaLexer.Text.Space
import FormulaLexer.Token

namespace FormulaLexer

/-- The digits that `cs` begins with, and the fraction after them if there is one. -/
def numberText (cs : List Char) : List Char :=
  let fraction :=
    match cs.dropWhile Char.isDigit with
    | '.' :: more => '.' :: more.takeWhile Char.isDigit
    | _ => []
  cs.takeWhile Char.isDigit ++ fraction

theorem numberText_prefix (cs : List Char) : numberText cs <+: cs := by
  have hw : cs = cs.takeWhile Char.isDigit ++ cs.dropWhile Char.isDigit :=
    (List.takeWhile_append_dropWhile).symm
  rw [numberText]
  split
  · rename_i more h
    rw [h] at hw
    refine ⟨more.dropWhile Char.isDigit, ?_⟩
    rw [List.append_assoc, List.cons_append, List.takeWhile_append_dropWhile]
    exact hw.symm
  · rw [List.append_nil]
    exact List.takeWhile_prefix _

theorem numberText_ne_nil {c : Char} {cs : List Char} (hc : c.isDigit = true) :
    numberText (c :: cs) ≠ [] := by
  rw [numberText]
  rw [List.takeWhile_cons_of_pos hc]
  exact List.cons_ne_nil _ _

inductive Lexeme
  | blank (c : Char)
  | number (text : List Char)
  | operator (c : Char) (kind : TokenKind)
  | stray (c : Char)
deriving DecidableEq

namespace Lexeme

def chars : Lexeme → List Char
  | blank c => [c]
  | number text => text
  | operator c _ => [c]
  | stray c => [c]

def first (c : Char) (cs : List Char) : Lexeme :=
  if Text.isBlank c then .blank c
  else if c.isDigit then .number (numberText (c :: cs))
  else
    match operator? c with
    | some kind => .operator c kind
    | none => .stray c

def split : List Char → List Lexeme
  | [] => []
  | c :: cs => first c cs :: split (cs.drop ((first c cs).chars.length - 1))
termination_by cs => cs.length
decreasing_by
  simp only [List.length_drop, List.length_cons]
  omega

theorem chars_first_ne_nil (c : Char) (cs : List Char) : (first c cs).chars ≠ [] := by
  rw [first]
  split
  · exact List.cons_ne_nil _ _
  · split
    · rename_i hc
      exact numberText_ne_nil hc
    · split <;> exact List.cons_ne_nil _ _

theorem chars_first_prefix (c : Char) (cs : List Char) : (first c cs).chars <+: c :: cs := by
  have hc : [c] <+: c :: cs := ⟨cs, rfl⟩
  rw [first]
  split
  · exact hc
  · split
    · exact numberText_prefix _
    · split <;> exact hc

theorem chars_first_append_drop (c : Char) (cs : List Char) :
    (first c cs).chars ++ cs.drop ((first c cs).chars.length - 1) = c :: cs := by
  obtain ⟨rest, h⟩ := chars_first_prefix c cs
  cases hl : (first c cs).chars with
  | nil => exact absurd hl (chars_first_ne_nil c cs)
  | cons d ds =>
    rw [hl, List.cons_append, List.cons.injEq] at h
    rw [← h.1, ← h.2]
    simp

/-- Nothing is lost, doubled or moved. -/
theorem flatMap_chars_split (cs : List Char) : (split cs).flatMap chars = cs := by
  fun_induction split cs with
  | case1 => rfl
  | case2 c cs ih => rw [List.flatMap_cons, ih, chars_first_append_drop]

end Lexeme

end FormulaLexer
