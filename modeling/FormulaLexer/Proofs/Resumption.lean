import FormulaLexer.Proofs.Tracking

namespace FormulaLexer

open Lexeme

/-- The position that is at `p` in a text of its own, when that text begins at `base`. Columns are
counted on from `base` only as far as its line reaches. -/
def Position.translate (base p : Position) : Position where
  offset := base.offset + p.offset
  line := base.line + p.line
  column := if p.line = 0 then base.column + p.column else p.column
  file := base.file
  text := base.text

def Error.translate (base : Position) (e : Error) : Error :=
  ⟨e.cause, base.translate e.start, base.translate e.stop⟩

theorem Position.translate_start (base : Position) (file text : String) :
    base.translate ((start file text).advance none) = base := by
  simp [translate, start, advance]

theorem Position.translate_advance (base p : Position) (c : Option Char) :
    base.translate (p.advance c) = (base.translate p).advance c := by
  by_cases hc : c = some '\n'
  · simp only [translate, advance, if_pos hc]
    simp [Int.add_assoc, Nat.add_assoc]
  · simp only [translate, advance, if_neg hc]
    by_cases hl : p.line = 0 <;> simp [hl, Int.add_assoc]

namespace Cursor

variable {c : Cursor} {rest : String}

/-- Advancing over the rest of a source goes on in step with advancing over the rest alone. -/
theorem position_skip_eq_translate (h : c.rest = rest.toList) (file? : Option String) (n : Nat) :
    (c.skip n).position = c.position.translate ((start rest file?).skip n).position := by
  induction n with
  | zero => exact (Position.translate_start _ _ _).symm
  | succ n ih =>
    have hc : (c.skip n).current? = ((start rest file?).skip n).current? := by
      rw [current?_skip, current?_skip, h]
      rfl
    rw [skip_succ, skip_succ, position_advance, position_advance, Position.translate_advance, ih,
      hc]

theorem run_result_eq_translate (h : c.rest = rest.toList) (file? : Option String) :
    c.run.result = (tokenize rest file?).mapError (Error.translate c.position) := by
  have hsplit : split c.rest = split (start rest file?).rest := by rw [h]; rfl
  rcases clean_or_stray (split c.rest) with hc | ⟨before, ch, after, hs, hc⟩
  · have hr := (run_of_clean (c := start rest file?) (hsplit ▸ hc)).1
    rw [(run_of_clean hc).1, tokenize, hr, hsplit]
    rfl
  · have hr := (run_of_stray (c := start rest file?) (hsplit ▸ hs) hc).1
    rw [(run_of_stray hs hc).1, tokenize, hr]
    rw [position_skip_eq_translate h file?, position_skip_eq_translate h file?]
    rfl

theorem position_run_of_error {e : Error} (h : c.run.result = .error e) :
    (∃ ch, e.cause = .illegalCharacter (String.singleton ch)) ∧ c.run.cursor.position = e.stop := by
  obtain ⟨before, ch, after, -, -, rfl, hcur⟩ := exists_stray_of_run_error h
  exact ⟨⟨ch, rfl⟩, congrArg Cursor.position hcur⟩

theorem offset_run_of_ok {tokens : List Token} (h : c.run.result = .ok tokens) :
    c.run.cursor.position.offset = c.position.offset + c.rest.length := by
  rw [(run_of_clean (clean_of_run_ok h)).2, offset_skip]

end Cursor

namespace Session

variable {source : String} {file? : Option String}

/-- A run from anywhere in a source has the result of a new lexer on the rest of the source, but
with the positions in an error counted on from there. It stops at the end of the error, or of the
source. -/
theorem Reachable.run_eq_translate {s : Session} (h : Reachable source file? s)
    (other? : Option String) :
    ∃ p : Nat, s.cursor.position.offset = p ∧ p ≤ source.length ∧
      s.cursor.position.file = file?.getD defaultFile ∧ s.cursor.position.text = source ∧
      s.cursor.run.result =
        (tokenize (String.ofList (source.toList.drop p)) other?).mapError
          (Error.translate s.cursor.position) ∧
      (∀ e, s.cursor.run.result = .error e →
        (∃ ch, e.cause = .illegalCharacter (String.singleton ch)) ∧
          s.cursor.run.cursor.position = e.stop) ∧
      ∀ tokens, s.cursor.run.result = .ok tokens →
        s.cursor.run.cursor.position.offset = source.length := by
  obtain ⟨p, hp, hc⟩ := h.onText.1
  have hrest : s.cursor.rest = source.toList.drop p := by
    rw [hc, Cursor.rest_skip_start]
  have hpos : s.cursor.position = Position.after source (file?.getD defaultFile) p := by
    rw [hc, Cursor.position_skip_start]
  have hlist : s.cursor.rest = (String.ofList (source.toList.drop p)).toList := by
    rw [hrest, String.toList_ofList]
  have ho : s.cursor.position.offset = p := congrArg Position.offset hpos
  have hf : s.cursor.position.file = file?.getD defaultFile := congrArg Position.file hpos
  have ht : s.cursor.position.text = source := congrArg Position.text hpos
  have hend : ∀ tokens, s.cursor.run.result = .ok tokens →
      s.cursor.run.cursor.position.offset = source.length := by
    intro tokens h
    rw [Cursor.offset_run_of_ok h, ho, hrest, List.length_drop, String.length_toList]
    omega
  exact ⟨p, ho, hp, hf, ht, Cursor.run_result_eq_translate hlist other?,
    fun e => Cursor.position_run_of_error, hend⟩

theorem run_eq_translate_second_line :
    ∃ s, Reachable "1\n 2\n" none s ∧ s.cursor.position = ⟨2, 1, 0, "<stdin>", "1\n 2\n"⟩ ∧
      tokenize " 2\n" none = .error ⟨.illegalCharacter "\n", ⟨2, 0, 2, "<stdin>", " 2\n"⟩,
        ⟨3, 1, 0, "<stdin>", " 2\n"⟩⟩ ∧
      s.cursor.run.result = .error ⟨.illegalCharacter "\n", ⟨4, 1, 2, "<stdin>", "1\n 2\n"⟩,
        ⟨5, 2, 0, "<stdin>", "1\n 2\n"⟩⟩ := by
  have hr : Reachable "1\n 2\n" none (start "1\n 2\n" none).run := .run .start
  have hpos : (start "1\n 2\n" none).run.cursor.position = ⟨2, 1, 0, "<stdin>", "1\n 2\n"⟩ := by
    decide +kernel
  have hscan : (Cursor.start " 2\n" none).scan.error? = some ⟨.illegalCharacter "\n",
      ⟨2, 0, 2, "<stdin>", " 2\n"⟩, ⟨3, 1, 0, "<stdin>", " 2\n"⟩⟩ := by
    decide +kernel
  have ht : tokenize " 2\n" none = .error ⟨.illegalCharacter "\n", ⟨2, 0, 2, "<stdin>", " 2\n"⟩,
      ⟨3, 1, 0, "<stdin>", " 2\n"⟩⟩ :=
    Cursor.run_result_of_scan hscan
  obtain ⟨p, hp, -, -, -, he, -⟩ := hr.run_eq_translate none
  rw [hpos] at hp he
  obtain rfl : p = 2 := Int.ofNat.inj hp.symm
  have hs : String.ofList ("1\n 2\n".toList.drop 2) = " 2\n" := rfl
  rw [hs, ht] at he
  exact ⟨_, hr, hpos, ht, he⟩

end Session

end FormulaLexer
