import FormulaLexer.Excerpt
import FormulaLexer.Proofs.Tracking

namespace FormulaLexer

variable {source file : String} {file? : Option String}

/-- The place found in the text for the offset has the line and the column of the position. -/
structure Position.AgreesWith (p : Position) (place : Text.Located) : Prop where
  located : ∃ k : Nat, p.offset = k ∧ Text.locate p.text k = some place
  number : place.number = p.lineNumber
  column : (place.column : Int) = p.column

theorem Position.AgreesWith.place {e : Error} {place : Text.Located}
    (h : e.start.AgreesWith place) : e.place? = some place := by
  obtain ⟨k, hk, hl⟩ := h.located
  rw [Error.place?_of_offset hk, hl]

namespace Error

end Error

namespace Session

end Session

end FormulaLexer
