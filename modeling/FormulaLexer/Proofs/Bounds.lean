import FormulaLexer.Bounded
import FormulaLexer.Proofs.Tracking

namespace FormulaLexer

variable {source file : String} {file? : Option String} {k : Nat}

namespace Position

theorem line_after_le (source file : String) (k : Nat) : (after source file k).line ≤ k := by
  have hc : (source.toList.take k).count '\n' ≤ (source.toList.take k).length :=
    List.count_le_length
  rw [List.length_take] at hc
  exact Nat.le_trans hc (Nat.min_le_left _ _)

theorem column_after_le (source file : String) (k : Nat) : (after source file k).column ≤ k := by
  have hc : (after source file k).column = k - Text.lineStart source.toList k := rfl
  omega

theorem maxOffset_lt_maxLine : maxOffset < maxLine := by
  decide +kernel

variable (hlen : (source.length : Int) ≤ maxOffset)

include hlen

theorem line_after_lt (file : String) (hk : k ≤ source.length) :
    (after source file k).line < maxLine := by
  have hl := line_after_le source file k
  have hm := maxOffset_lt_maxLine
  omega

theorem lineNumber?_after (file : String) (hk : k ≤ source.length) :
    (after source file k).lineNumber? = some (after source file k).lineNumber :=
  if_neg (Nat.not_le_of_lt (line_after_lt hlen file hk))

theorem advance?_after (file : String) (hk : k < source.length) (c : Option Char) :
    (after source file k).advance? c = .ok ((after source file k).advance c) := by
  have ho : (after source file k).offset = k := rfl
  have hc := column_after_le source file k
  exact advance?_eq_ok (by omega) (by omega) (line_after_lt hlen file (Nat.le_of_lt hk))

end Position

namespace Session

open Lexeme

theorem start?_eq (source : String) (file? : Option String) :
    start? source file? = .ok (start source file?) := by
  have hp : (Position.start (file?.getD defaultFile) source).advance? none =
      .ok ((Position.start (file?.getD defaultFile) source).advance none) := by
    apply Position.advance?_eq_ok
    · exact (by decide +kernel : (-1 : Int) < Position.maxOffset)
    · exact (by decide +kernel : (-1 : Int) < Position.maxOffset)
    · exact (by decide +kernel : 0 < Position.maxLine)
  simp only [start?, Cursor.start?, hp]
  rfl

section

variable {s : Session} {c : Cursor} (hlen : (source.length : Int) ≤ Position.maxOffset)

include hlen

theorem OnText.lineNumber?_eq (h : OnText source file? c) :
    c.position.lineNumber? = some c.position.lineNumber := by
  obtain ⟨k, hk, hp, -⟩ := h.exists_rest
  rw [hp]
  exact Position.lineNumber?_after hlen _ hk

theorem OnText.advance?_eq (h : OnText source file? c) (hc : 0 < c.rest.length) :
    c.advance? = .ok c.advance := by
  obtain ⟨k, -, hp, hr⟩ := h.exists_rest
  rw [hr, List.length_drop, String.length_toList] at hc
  have ha := Position.advance?_after hlen (file?.getD defaultFile) (Nat.lt_of_sub_pos hc)
    c.current?
  rw [← hp] at ha
  rw [Cursor.advance?, ha]
  rfl

theorem OnText.skip?_eq {n : Nat} (h : OnText source file? c) (hn : n ≤ c.rest.length) :
    c.skip? n = .ok (c.skip n) := by
  induction n generalizing c with
  | zero => rfl
  | succ n ih =>
    have hlt : 0 < c.rest.length := Nat.lt_of_lt_of_le (Nat.succ_pos n) hn
    have hafter : OnText source file? c.advance := h.skip (n := 1) hlt
    have hrest : n ≤ c.advance.rest.length := by
      rw [Cursor.rest_advance, List.length_tail]
      omega
    rw [Cursor.skip?, h.advance?_eq hlen hlt]
    exact ih hafter hrest

theorem OnText.scanLexemes?_eq {ls : List Lexeme} (h : OnText source file? c)
    (hls : (ls.flatMap chars).length ≤ c.rest.length) :
    c.scanLexemes? ls = .ok (c.scanLexemes ls) := by
  induction ls generalizing c with
  | nil => rfl
  | cons l ls ih =>
    rw [List.flatMap_cons, List.length_append] at hls
    have hle : l.chars.length ≤ c.rest.length := Nat.le_trans (Nat.le_add_right _ _) hls
    have hmore : (ls.flatMap chars).length ≤ (c.skip l.chars.length).rest.length := by
      rw [Cursor.rest_skip, List.length_drop]
      omega
    have hskip := h.skip?_eq hlen hle
    have hscan := ih (h.skip hle) hmore
    cases l with
    | blank ch =>
      have hadvance : c.advance? = .ok c.advance := h.advance?_eq hlen hle
      rw [Cursor.scanLexemes?, hadvance]
      exact hscan
    | number text =>
      have hskip : c.skip? text.length = .ok (c.skip text.length) := hskip
      have hscan : (c.skip text.length).scanLexemes? ls =
        .ok ((c.skip text.length).scanLexemes ls) := hscan
      rw [Cursor.scanLexemes?, Cursor.scanLexemes, Cursor.readNumber, hskip]
      cases Literal.read? text with
      | none => rfl
      | some value =>
        simp only [Option.map_some, bind, Except.bind, hscan]
        rfl
    | operator ch kind =>
      have hadvance : c.advance? = .ok c.advance := h.advance?_eq hlen hle
      have hscan : c.advance.scanLexemes? ls = .ok (c.advance.scanLexemes ls) := hscan
      rw [Cursor.scanLexemes?, Cursor.scanLexemes, hadvance]
      simp only [bind, Except.bind, hscan]
      rfl
    | stray ch =>
      have hadvance : c.advance? = .ok c.advance := h.advance?_eq hlen hle
      simp only [Cursor.scanLexemes?, hadvance, h.lineNumber?_eq hlen]
      rfl

theorem OnText.run?_eq (h : OnText source file? c) : c.run? = .ok c.run := by
  have hls := congrArg List.length (flatMap_chars_split c.rest)
  rw [Cursor.run?, h.scanLexemes?_eq hlen (Nat.le_of_eq hls)]
  rfl

theorem Reachable.exists_step? (h : Reachable source file? s) (step : Step) :
    ∃ s', s.step? step = .ok s' ∧ Reachable source file? s' := by
  cases step with
  | run =>
    refine ⟨s.run, ?_, h.run⟩
    rw [Session.step?, h.onText.1.run?_eq hlen]
    rfl
  | save => exact ⟨s.save, rfl, h.save⟩
  | load i =>
    rw [Session.step?]
    cases hi : s.saved[i]? with
    | none => exact ⟨s, rfl, h⟩
    | some c => exact ⟨_, rfl, h.load (List.mem_of_getElem? hi)⟩

theorem Reachable.exists_steps? (h : Reachable source file? s) (steps : List Step) :
    ∃ s', steps.foldlM Session.step? s = .ok s' ∧ Reachable source file? s' := by
  induction steps generalizing s with
  | nil => exact ⟨s, rfl, h⟩
  | cons step steps ih =>
    obtain ⟨s', hs, h'⟩ := h.exists_step? hlen step
    rw [List.foldlM_cons, hs]
    exact ih h'

theorem OnText.summary_of_run_error {e : Error} (h : OnText source file? c)
    (he : c.run.result = .error e) :
    (∃ ch, e.cause = .illegalCharacter (String.singleton ch)) ∧
      e.start.lineNumber? = some e.start.lineNumber ∧
      e.stop.lineNumber? = some e.stop.lineNumber ∧ ∃ text, e.summary = .ok text := by
  obtain ⟨i, ch, hi, rfl, -⟩ := h.run_error he
  have hlt := (List.getElem?_eq_some_iff.mp hi).1
  rw [String.length_toList] at hlt
  have hstart := Position.lineNumber?_after hlen (file?.getD defaultFile) (Nat.le_of_lt hlt)
  have hstop := Position.lineNumber?_after hlen (file?.getD defaultFile) hlt
  refine ⟨⟨ch, rfl⟩, hstart, hstop, ?_⟩
  rw [Error.summary, hstart]
  exact ⟨_, rfl⟩

end

/-- A lexer of a text that is no longer than the greatest offset is never halted, whatever runs,
copies and returns to copies it is taken through. Its runs are those without bounds; they fail at
characters alone, and each error has its summary. -/
theorem exists_play? (hlen : (source.length : Int) ≤ Position.maxOffset)
    (file? : Option String) (steps : List Step) :
    ∃ s, play? source file? steps = .ok s ∧ Reachable source file? s ∧
      s.cursor.run? = .ok s.cursor.run ∧
      s.cursor.position.lineNumber? = some s.cursor.position.lineNumber ∧
      ∀ e, s.cursor.run.result = .error e →
        (∃ ch, e.cause = .illegalCharacter (String.singleton ch)) ∧
        e.start.lineNumber? = some e.start.lineNumber ∧
        e.stop.lineNumber? = some e.stop.lineNumber ∧ ∃ text, e.summary = .ok text := by
  obtain ⟨s, hs, h⟩ := (Reachable.start : Reachable source file? _).exists_steps? hlen steps
  refine ⟨s, ?_, h, h.onText.1.run?_eq hlen, h.onText.1.lineNumber?_eq hlen,
    fun e => h.onText.1.summary_of_run_error hlen⟩
  rw [play?, start?_eq]
  exact hs

theorem exists_play?_second_fault :
    (("1\n#" : String).length : Int) ≤ Position.maxOffset ∧
      ∃ s, play? "1\n#" none [.save, .run, .run, .load 0, .run] = .ok s ∧
        s.cursor.run? = .ok s.cursor.run ∧
        ∃ e, s.cursor.run.result = .error e ∧ e.cause = .illegalCharacter "#" ∧
          ∃ text, e.summary = .ok text := by
  have hlen : (("1\n#" : String).length : Int) ≤ Position.maxOffset := by decide +kernel
  obtain ⟨s, hs, -, hrun, -, herror⟩ :=
    exists_play? hlen none [.save, .run, .run, .load 0, .run]
  have hc : (play? "1\n#" none [.save, .run, .run, .load 0, .run]).toOption.map cursor =
      some ⟨['#'], ⟨2, 1, 0, "<stdin>", "1\n#"⟩⟩ := by
    decide +kernel
  have hcursor : s.cursor = ⟨['#'], ⟨2, 1, 0, "<stdin>", "1\n#"⟩⟩ := by
    rw [hs] at hc
    exact Option.some.inj hc
  have hscan : s.cursor.scan.error? = some ⟨.illegalCharacter "#",
      ⟨2, 1, 0, "<stdin>", "1\n#"⟩, ⟨3, 1, 1, "<stdin>", "1\n#"⟩⟩ := by
    rw [hcursor]
    decide +kernel
  have he : s.cursor.run.result = .error ⟨.illegalCharacter "#",
      ⟨2, 1, 0, "<stdin>", "1\n#"⟩, ⟨3, 1, 1, "<stdin>", "1\n#"⟩⟩ :=
    Cursor.run_result_of_scan hscan
  exact ⟨hlen, s, hs, hrun, _, he, rfl, (herror _ he).2.2.2⟩

end Session

end FormulaLexer
