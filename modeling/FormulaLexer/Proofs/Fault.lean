import FormulaLexer.Journal
import FormulaLexer.Proofs.Progress

namespace FormulaLexer

/-- The error is that of the character `ch`, which has the index `i` in the source. -/
structure Error.CoherentAt (e : Error) (source file : String) (i : Nat) (ch : Char) : Prop where
  lt : i < source.length
  char : source.toList[i]? = some ch
  details : e.cause.details = String.singleton ch
  start_offset : e.start.offset = i
  start_file : e.start.file = file
  start_text : e.start.text = source
  stop_file : e.stop.file = file
  stop_text : e.stop.text = source
  stop : e.stop = e.start.advance (some ch)
  stop_offset : e.stop.offset = (i + 1 : Nat)
  stop_newline : ch = '\n' → e.stop.line = e.start.line + 1 ∧ e.stop.column = 0
  stop_other : ch ≠ '\n' → e.stop.line = e.start.line ∧ e.stop.column = e.start.column + 1

namespace Journal

variable {j k : Journal}

theorem errors_prefix_run (j : Journal) : j.errors <+: j.run.errors := by
  rw [run]
  split
  · exact List.prefix_append _ _
  · exact List.prefix_rfl

theorem Later.errors_prefix (h : j.Later k) : j.errors <+: k.errors := by
  induction h with
  | now => exact List.prefix_rfl
  | @run k h ih => exact ih.trans k.errors_prefix_run
  | save h ih => exact ih
  | load h hc ih => exact ih

theorem errors_run_of_error {e : Error} (he : j.session.cursor.run.result = .error e) :
    j.run.errors = j.errors ++ [e] := by
  rw [run, he]

theorem Later.getElem?_errors {e : Error} (h : j.run.Later k)
    (he : j.session.cursor.run.result = .error e) : k.errors[j.errors.length]? = some e := by
  obtain ⟨more, hk⟩ := h.errors_prefix
  rw [← hk, errors_run_of_error he]
  simp

end Journal

namespace Session

variable {s : Session} {c : Cursor} {source : String} {file? : Option String} {e : Error}

/-- The end of the error is one step over the character behind its beginning, and there the lexer is
left. -/
theorem OnText.coherentAt_of_run_error (h : OnText source file? c)
    (he : c.run.result = .error e) :
    ∃ i ch, e.CoherentAt source (file?.getD defaultFile) i ch ∧
      c.run.cursor.position = e.stop ∧ c.run.cursor.current? = source.toList[i + 1]? := by
  obtain ⟨i, ch, hi, rfl, hcur⟩ := h.run_error he
  have hlt := (List.getElem?_eq_some_iff.mp hi).1
  rw [String.length_toList] at hlt
  have hstep := Cursor.advance_after source (file?.getD defaultFile) i
  rw [hi] at hstep
  refine ⟨i, ch, ⟨hlt, hi, rfl, rfl, rfl, rfl, rfl, rfl, hstep.symm, rfl, ?_, ?_⟩, ?_, ?_⟩
  · intro hc
    simp [← hstep, hc]
  · intro hc
    simp [← hstep, hc]
  · rw [hcur, Cursor.position_skip_start]
  · rw [hcur, Cursor.current?_skip]
    rfl

/-- A run that fails does so at a character behind the place where it begins, and leaves the lexer
at the end of the error. The error stays as it is whatever the lexer does from there on. -/
theorem Reachable.error_coherent (h : Reachable source file? s)
    (he : s.cursor.run.result = .error e) :
    ∃ (p i : Nat) (ch : Char), s.cursor.position.offset = p ∧ p ≤ i ∧
      e.CoherentAt source (file?.getD defaultFile) i ch ∧
      s.run.cursor.position = e.stop ∧ s.run.cursor.current? = source.toList[i + 1]? ∧
      ∀ errors later, (Journal.run ⟨s, errors⟩).Later later →
        later.errors[errors.length]? = some e := by
  obtain ⟨i, ch, hc, hstop, hcurrent⟩ := h.onText.1.coherentAt_of_run_error he
  obtain ⟨p, hp, -⟩ := h.onText.1.exists_offset
  have hle := (Cursor.offset_run_of_error he).1
  rw [hp, hc.start_offset] at hle
  refine ⟨p, i, ch, hp, Int.ofNat_le.mp hle, hc, hstop, hcurrent, ?_⟩
  intro errors later hl
  exact hl.getElem?_errors he

theorem error_coherent_second_line :
    ∃ e, Reachable "1\n 2#\n" none (start "1\n 2#\n" none).run ∧
      (start "1\n 2#\n" none).run.cursor.run.result = .error e ∧
      e.CoherentAt "1\n 2#\n" "<stdin>" 4 '#' ∧
      (start "1\n 2#\n" none).run.run.cursor.position = e.stop ∧
      (start "1\n 2#\n" none).run.run.cursor.current? = some '\n' ∧
      (Journal.run ⟨(start "1\n 2#\n" none).run, []⟩).run.save.errors[0]? = some e := by
  have hr : Reachable "1\n 2#\n" none (start "1\n 2#\n" none).run := .run .start
  have hscan : (start "1\n 2#\n" none).run.cursor.scan.error? = some
      ⟨.illegalCharacter "#", ⟨4, 1, 2, "<stdin>", "1\n 2#\n"⟩,
        ⟨5, 1, 3, "<stdin>", "1\n 2#\n"⟩⟩ := by
    decide +kernel
  have he := Cursor.run_result_of_scan hscan
  obtain ⟨p, i, ch, -, -, hc, hstop, hcurrent, hlater⟩ := hr.error_coherent he
  obtain rfl : 4 = i := Int.ofNat.inj hc.start_offset
  obtain rfl : '#' = ch := Option.some.inj hc.char
  exact ⟨_, hr, he, hc, hstop, hcurrent, hlater [] _ (.save (.run .now))⟩

end Session

end FormulaLexer
