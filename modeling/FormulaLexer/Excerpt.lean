import FormulaLexer.Error
import FormulaLexer.Text.Align
import FormulaLexer.Text.Line
import FormulaLexer.Text.Space

namespace FormulaLexer

namespace Error

def headline (e : Error) : List Char :=
  match e.cause.tip? with
  | some tip => "Error: ".toList ++ e.cause.name.toList ++ " (".toList ++ tip.toList ++ [')']
  | none => "Error: ".toList ++ e.cause.name.toList

/-- Five lines around the place where the error begins. The source line is shown without its
leading blanks; the caret stands under the character at the place's column, or at the beginning
when that is one of the blanks left out. -/
def excerpt? (e : Error) (place : Text.Located) : Option (List (List Char)) := do
  let number := Nat.toDigits 10 place.number
  let blanks := place.line.takeWhile Text.isBlank
  let shown := Text.trimEnd (place.line.dropWhile Text.isBlank)
  let margin ← Text.alignRight? ' ' (number.length + 2) ['|']
  let caret ← Text.alignRight? '-' (place.column - blanks.length + 1) ['^']
  return [e.headline, "-> ".toList ++ e.start.file.toList, margin, number ++ " | ".toList ++ shown,
    margin ++ ' ' :: caret]

/-- The place in the source at which the error begins. An error can be made for any position, so
there may be none. -/
def place? (e : Error) : Option Text.Located :=
  e.start.index?.bind (Text.locate e.start.text)

theorem place?_of_offset {e : Error} {k : Nat} (h : e.start.offset = k) :
    e.place? = Text.locate e.start.text k := by
  rw [place?, Position.index?, h, if_pos (Int.natCast_nonneg k), Int.toNat_natCast]
  rfl

/-- The error with its source line, or its summary when it has no place in the source. -/
def display (e : Error) : Except Limit String :=
  match e.place? with
  | some place =>
    match e.excerpt? place with
    | some lines => .ok ("\n".intercalate (lines.map String.ofList))
    | none => .error .width
  | none => e.summary

end Error

end FormulaLexer
