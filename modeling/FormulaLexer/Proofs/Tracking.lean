import FormulaLexer.Proofs.Line
import FormulaLexer.Proofs.Scan
import FormulaLexer.Session

namespace FormulaLexer

/-- The position after the first `k` characters of the source. -/
def Position.after (source file : String) (k : Nat) : Position where
  offset := k
  line := (source.toList.take k).count '\n'
  column := k - Text.lineStart source.toList k
  file := file
  text := source

theorem Position.after_of_newline_not_mem {source file : String} {k : Nat}
    (h : '\n' ∉ source.toList.take k) : Position.after source file k = ⟨k, 0, k, file, source⟩ := by
  have hc := List.count_eq_zero.mpr h
  have hs := Text.lineStart_eq_zero h
  simp [Position.after, hc, hs]

namespace Cursor

variable {c : Cursor} {source file : String} {file? : Option String}

structure StandsAt (source file : String) (k : Nat) (c : Cursor) : Prop where
  le : k ≤ source.length
  current? : c.current? = source.toList[k]?
  current?_eq_none : c.current? = none ↔ k = source.length
  offset : c.position.offset = k
  line : c.position.line = (source.toList.take k).count '\n'
  column : c.position.column = k - Text.lineStart source.toList k
  text : c.position.text = source
  file : c.position.file = file

theorem skip_succ (c : Cursor) (k : Nat) : c.skip (k + 1) = (c.skip k).advance :=
  (skip_skip c k 1).symm

theorem current?_skip (c : Cursor) (k : Nat) : (c.skip k).current? = c.rest[k]? := by
  rw [current?, rest_skip, List.head?_drop]

theorem advance_after (source file : String) (k : Nat) :
    (Position.after source file k).advance source.toList[k]? =
      Position.after source file (k + 1) := by
  simp only [Position.advance, Position.after, Text.lineStart]
  by_cases h : source.toList[k]? = some '\n'
  · have hc : (source.toList.take (k + 1)).count '\n' =
        (source.toList.take k).count '\n' + 1 := by
      rw [List.take_add_one, h]
      simp
    rw [if_pos h, if_pos h, hc]
    simp
  · have hc : (source.toList.take (k + 1)).count '\n' = (source.toList.take k).count '\n' := by
      rw [List.take_add_one, List.count_append]
      cases hk : source.toList[k]? with
      | none => rfl
      | some d =>
        have hd : d ≠ '\n' := by
          intro he
          exact h (by rw [hk, he])
        simp [hd]
    rw [if_neg h, if_neg h, hc]
    simp
    omega

theorem position_skip_start (source : String) (file? : Option String) (k : Nat) :
    ((start source file?).skip k).position =
      Position.after source (file?.getD defaultFile) k := by
  induction k with
  | zero => rfl
  | succ k ih =>
    rw [skip_succ, position_advance, current?_skip, ih]
    exact advance_after source _ k

theorem offset_skip_start (source : String) (file? : Option String) (k : Nat) :
    ((start source file?).skip k).position.offset = k :=
  congrArg Position.offset (position_skip_start source file? k)

theorem rest_skip_start (source : String) (file? : Option String) (k : Nat) :
    ((start source file?).skip k).rest = source.toList.drop k := rest_skip _ k

theorem standsAt_skip_start (file? : Option String) {k : Nat} (h : k ≤ source.length) :
    ((start source file?).skip k).StandsAt source (file?.getD defaultFile) k := by
  have hp := position_skip_start source file? k
  have hc : ((start source file?).skip k).current? = source.toList[k]? := current?_skip _ k
  have hn : ((start source file?).skip k).current? = none ↔ k = source.length := by
    rw [hc, List.getElem?_eq_none_iff, String.length_toList]
    omega
  apply StandsAt.mk h hc hn
  all_goals
    rw [hp]
    rfl

theorem length_rest_skip_start (source : String) (file? : Option String) (k : Nat) :
    ((start source file?).skip k).rest.length = source.length - k := by
  rw [rest_skip_start, List.length_drop, String.length_toList]

/-- The cursor stands after `k` characters of the source, and has the others before it. -/
structure Tracks (source file : String) (k : Nat) (c : Cursor) : Prop
    extends StandsAt source file k c where
  rest : c.rest = source.toList.drop k

theorem tracks_skip_start (file? : Option String) {k : Nat} (h : k ≤ source.length) :
    ((start source file?).skip k).Tracks source (file?.getD defaultFile) k :=
  ⟨standsAt_skip_start file? h, rest_skip_start source file? k⟩

theorem StandsAt.position_eq {k : Nat} (h : c.StandsAt source file k) :
    c.position = Position.after source file k := by
  calc c.position
    _ = ⟨c.position.offset, c.position.line, c.position.column, c.position.file,
        c.position.text⟩ := rfl
    _ = Position.after source file k := by
        rw [h.offset, h.line, h.column, h.file, h.text, Position.after]

theorem Tracks.eq_skip_start {k : Nat} (h : c.Tracks source file k) :
    c = (start source (some file)).skip k := by
  have hrest := h.rest.trans (rest_skip_start source (some file) k).symm
  have hposition := h.position_eq.trans (position_skip_start source (some file) k).symm
  calc c
    _ = ⟨c.rest, c.position⟩ := rfl
    _ = (start source (some file)).skip k := by rw [hrest, hposition]

theorem Tracks.skip {k n : Nat} (h : c.Tracks source file k) (hn : n ≤ c.rest.length) :
    (c.skip n).Tracks source file (k + n) := by
  have hk := h.le
  rw [h.eq_skip_start, length_rest_skip_start] at hn
  rw [h.eq_skip_start, skip_skip]
  exact tracks_skip_start (some file) (by omega)

/-- What stands at the cursor stands in the source from its offset on. -/
theorem Tracks.extract_of_rest {k : Nat} {text rest : List Char} (h : c.Tracks source file k)
    (hr : c.rest = text ++ rest) :
    source.toList.extract k (k + text.length) = text ∧
      source.toList.drop (k + text.length) = rest := by
  rw [List.extract_eq_take_drop, Nat.add_sub_cancel_left, ← List.drop_drop, ← h.rest, hr]
  exact ⟨List.take_left, List.drop_left⟩

theorem position_skip_of_newline_not_mem {n : Nat} (h : '\n' ∉ c.rest.take n) :
    (c.skip n).position = { c.position with
      offset := c.position.offset + n, column := c.position.column + n } := by
  induction n with
  | zero => simp [Cursor.skip]
  | succ n ih =>
    rw [List.take_add_one, List.mem_append, not_or] at h
    have hne : c.rest[n]? ≠ some '\n' := by
      intro he
      exact h.2 (by simp [he])
    rw [skip_succ, position_advance, current?_skip, Position.advance, if_neg hne, ih h.1]
    simp [Int.add_assoc]

theorem exists_run_cursor (c : Cursor) : ∃ n ≤ c.rest.length, c.run.cursor = c.skip n := by
  rcases Lexeme.clean_or_stray (Lexeme.split c.rest) with hc | ⟨before, ch, after, hs, hc⟩
  · exact ⟨_, Nat.le_refl _, (run_of_clean hc).2⟩
  · have hn := Nat.succ_le_of_lt (Lexeme.length_lt_of_stray hs)
    exact ⟨_, hn, (run_of_stray hs hc).2⟩

end Cursor

namespace Session

open Cursor

variable {s : Session} {c : Cursor} {source : String} {file? : Option String}

/-- The cursor is one of those that a new lexer can be advanced to. -/
def OnText (source : String) (file? : Option String) (c : Cursor) : Prop :=
  ∃ k ≤ source.length, c = (Cursor.start source file?).skip k

theorem OnText.skip {n : Nat} (h : OnText source file? c) (hn : n ≤ c.rest.length) :
    OnText source file? (c.skip n) := by
  obtain ⟨k, hk, rfl⟩ := h
  rw [length_rest_skip_start] at hn
  rw [skip_skip]
  exact ⟨k + n, by omega, rfl⟩

theorem OnText.exists_rest (h : OnText source file? c) :
    ∃ p ≤ source.length, c.position = Position.after source (file?.getD defaultFile) p ∧
      c.rest = source.toList.drop p := by
  obtain ⟨p, hp, rfl⟩ := h
  exact ⟨p, hp, position_skip_start source file? p, rest_skip_start source file? p⟩

theorem Reachable.onText (h : Reachable source file? s) :
    OnText source file? s.cursor ∧ ∀ c ∈ s.saved, OnText source file? c := by
  induction h with
  | start => exact ⟨⟨0, Nat.zero_le _, rfl⟩, nofun⟩
  | @run s h ih =>
    obtain ⟨n, hn, he⟩ := exists_run_cursor s.cursor
    rw [Session.run, he]
    exact ⟨ih.1.skip hn, ih.2⟩
  | save h ih =>
    apply And.intro ih.1
    intro c hc
    rcases List.mem_append.mp hc with hc | hc
    · exact ih.2 c hc
    · rw [List.mem_singleton.mp hc]
      exact ih.1
  | load h hc ih => exact ⟨ih.2 _ hc, ih.2⟩

/-- A run fails at one character of the source. The error begins where the character stands and
ends after it, and there the lexer is left. -/
theorem OnText.run_error {e : Error} (h : OnText source file? c) (he : c.run.result = .error e) :
    ∃ (i : Nat) (ch : Char), source.toList[i]? = some ch ∧
      e = ⟨.illegalCharacter (String.singleton ch),
        Position.after source (file?.getD defaultFile) i,
        Position.after source (file?.getD defaultFile) (i + 1)⟩ ∧
      c.run.cursor = (Cursor.start source file?).skip (i + 1) := by
  obtain ⟨k, hk, rfl⟩ := h
  obtain ⟨before, ch, after, hs, -, hr, hcur⟩ := exists_stray_of_run_error he
  rw [skip_skip, skip_skip, position_skip_start, position_skip_start] at hr
  rw [skip_skip] at hcur
  have hch : source.toList[k + (before.flatMap Lexeme.chars).length]? = some ch := by
    rw [← List.getElem?_drop, ← rest_skip_start source file?]
    exact Lexeme.getElem?_of_stray hs
  exact ⟨_, ch, hch, hr, hcur⟩

theorem Passes.onText (h : Passes source file? c) : OnText source file? c := by
  obtain ⟨s, m, n, hs, hn, hm, rfl⟩ := h
  obtain ⟨n', hn', he⟩ := exists_run_cursor s.cursor
  have hnn : n = n' := by
    have ho := congrArg (fun c => c.position.offset) (hn.symm.trans he)
    simp only [offset_skip] at ho
    omega
  exact hs.onText.1.skip (by omega)

theorem Passes.exists_tracks (h : Passes source file? c) :
    ∃ k, c.Tracks source (file?.getD defaultFile) k := by
  obtain ⟨k, hk, rfl⟩ := h.onText
  exact ⟨k, tracks_skip_start file? hk⟩

theorem passes_standsAt (source : String) (file? : Option String) :
    (∀ s, Reachable source file? s → ∃ n, s.run.cursor = s.cursor.skip n) ∧
    (∀ c, Passes source file? c → ∃ k, c.StandsAt source (file?.getD defaultFile) k) ∧
    ∀ c c', Passes source file? c → Passes source file? c' →
      c.position.offset = c'.position.offset → c = c' := by
  apply And.intro
  · intro s _
    obtain ⟨n, -, he⟩ := exists_run_cursor s.cursor
    exact ⟨n, he⟩
  · apply And.intro
    · intro c hc
      obtain ⟨k, hk, rfl⟩ := hc.onText
      exact ⟨k, standsAt_skip_start file? hk⟩
    · intro c c' hc hc' ho
      obtain ⟨k, -, rfl⟩ := hc.onText
      obtain ⟨k', -, rfl⟩ := hc'.onText
      simp only [offset_skip] at ho
      have he : k = k' := by omega
      rw [he]

theorem standsAt_between_digits :
    Passes "1\n23" none ⟨['3'], ⟨3, 1, 1, "<stdin>", "1\n23"⟩⟩ ∧
      ∃ k, Cursor.StandsAt "1\n23" "<stdin>" k ⟨['3'], ⟨3, 1, 1, "<stdin>", "1\n23"⟩⟩ := by
  have hr : Reachable "1\n23" none (start "1\n23" none).run := .run .start
  have hp : Passes "1\n23" none ⟨['3'], ⟨3, 1, 1, "<stdin>", "1\n23"⟩⟩ :=
    ⟨_, 1, 2, hr, by decide +kernel, by decide, by decide +kernel⟩
  exact ⟨hp, (passes_standsAt "1\n23" none).2.1 _ hp⟩

end Session

end FormulaLexer
