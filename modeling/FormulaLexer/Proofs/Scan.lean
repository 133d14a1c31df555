import FormulaLexer.Proofs.Division
import FormulaLexer.Run

namespace FormulaLexer

namespace Lexeme

variable {l : Lexeme} {ls : List Lexeme}

def Clean (ls : List Lexeme) : Prop := ∀ ch, .stray ch ∉ ls

def token? : Lexeme → Option Token
  | blank _ => none
  | number text => (Literal.read? text).map Token.ofLiteral
  | operator _ kind => some (Token.ofOperator kind)
  | stray _ => none

theorem Clean.tail (h : Clean (l :: ls)) : Clean ls := by
  intro ch hm
  exact h ch (List.mem_cons_of_mem _ hm)

theorem Clean.head (h : Clean (l :: ls)) : ∀ ch, l ≠ .stray ch := by
  intro ch he
  exact h ch (he ▸ List.mem_cons_self)

theorem Clean.cons (hl : ∀ ch, l ≠ .stray ch) (h : Clean ls) : Clean (l :: ls) := by
  intro ch hm
  rcases List.mem_cons.mp hm with he | hm
  · exact hl ch he.symm
  · exact h ch hm

theorem clean_or_stray (ls : List Lexeme) :
    Clean ls ∨ ∃ before ch after, ls = before ++ .stray ch :: after ∧ Clean before := by
  induction ls with
  | nil => exact .inl nofun
  | cons l ls ih =>
    by_cases hl : ∃ ch, l = .stray ch
    · obtain ⟨ch, rfl⟩ := hl
      exact .inr ⟨[], ch, ls, rfl, nofun⟩
    · have hl' : ∀ ch, l ≠ .stray ch := not_exists.mp hl
      rcases ih with hc | ⟨before, ch, after, rfl, hc⟩
      · exact .inl (hc.cons hl')
      · exact .inr ⟨l :: before, ch, after, rfl, hc.cons hl'⟩

theorem Division.valid (h : Division ls) : ∀ l ∈ ls, l.Valid := by
  induction h with
  | nil => nofun
  | cons hv ha h ih => exact List.forall_mem_cons.mpr ⟨hv, ih⟩

theorem Division.valid_of_append {ms : List Lexeme} (h : Division (ls ++ l :: ms)) : l.Valid :=
  h.valid l (List.mem_append_right _ List.mem_cons_self)

end Lexeme

namespace Scan

def prepend (s : Scan) (before : List Emission) : Scan :=
  { s with emissions := before ++ s.emissions }

theorem prepend_prepend (s : Scan) (es fs : List Emission) :
    (s.prepend es).prepend fs = s.prepend (fs ++ es) := by
  simp only [prepend, List.append_assoc]

end Scan

namespace Cursor

open Lexeme

variable {c : Cursor} {before : List Lexeme}

def emission? (c : Cursor) : Lexeme → Option Emission
  | .number text =>
    (c.readNumber text).1.map fun token => ⟨(c.skip text.length).position.offset, token⟩
  | .operator _ kind => some ⟨c.position.offset, Token.ofOperator kind⟩
  | _ => none

def emissions (c : Cursor) : List Lexeme → List Emission
  | [] => []
  | l :: ls => (c.emission? l).toList ++ (c.skip l.chars.length).emissions ls

theorem token_emission? (c : Cursor) (l : Lexeme) :
    (c.emission? l).map Emission.token = l.token? := by
  cases l with
  | number text => simp only [emission?, readNumber, token?, Option.map_map]; rfl
  | blank => rfl
  | operator => rfl
  | stray => rfl

theorem token_emissions (c : Cursor) (ls : List Lexeme) :
    (c.emissions ls).map Emission.token = ls.filterMap token? := by
  induction ls generalizing c with
  | nil => rfl
  | cons l ls ih =>
    have hl := token_emission? c l
    cases he : c.emission? l with
    | none =>
      rw [he] at hl
      rw [List.filterMap_cons_none hl.symm, ← ih, emissions, he]
      rfl
    | some e =>
      rw [he] at hl
      rw [List.filterMap_cons_some hl.symm, ← ih, emissions, he]
      rfl

theorem scanLexemes_cons {l : Lexeme} (hv : l.Valid) (hs : ∀ ch, l ≠ .stray ch) (c : Cursor)
    (ls : List Lexeme) :
    c.scanLexemes (l :: ls) =
      ((c.skip l.chars.length).scanLexemes ls).prepend (c.emission? l).toList := by
  cases l with
  | blank ch => rfl
  | operator ch kind => rfl
  | stray ch => exact absurd rfl (hs ch)
  | number text =>
    obtain ⟨value, hr⟩ := IsNumber.exists_read? hv
    simp only [scanLexemes, emission?, readNumber, hr]
    rfl

theorem scanLexemes_append (hv : ∀ l ∈ before, l.Valid) (hc : Clean before) (c : Cursor)
    (ls : List Lexeme) :
    c.scanLexemes (before ++ ls) =
      ((c.skip (before.flatMap chars).length).scanLexemes ls).prepend (c.emissions before) := by
  induction before generalizing c with
  | nil => rfl
  | cons l before ih =>
    obtain ⟨hl, hv⟩ := List.forall_mem_cons.mp hv
    rw [List.cons_append, scanLexemes_cons hl hc.head, ih hv hc.tail, Scan.prepend_prepend]
    rw [skip_skip, List.flatMap_cons, List.length_append]
    rfl

theorem scan_of_clean (h : Clean (split c.rest)) :
    c.scan = ⟨c.emissions (split c.rest), .atEnd, c.skip c.rest.length⟩ := by
  have hs := scanLexemes_append (division_split c.rest).valid h c []
  rw [List.append_nil, flatMap_chars_split] at hs
  rw [scan, hs, scanLexemes, Scan.prepend, List.append_nil]

theorem scan_of_stray {ch : Char} {after : List Lexeme}
    (h : split c.rest = before ++ .stray ch :: after) (hc : Clean before) :
    c.scan = ⟨c.emissions before, .stray ch (c.skip (before.flatMap chars).length).position,
      c.skip ((before.flatMap chars).length + 1)⟩ := by
  have hv : ∀ l ∈ before, l.Valid := by
    intro l hl
    exact (division_split c.rest).valid l (h ▸ List.mem_append_left _ hl)
  rw [scan, h, scanLexemes_append hv hc, scanLexemes, Scan.prepend, List.append_nil, ← skip_skip]
  rfl

theorem run_of_clean (h : Clean (split c.rest)) :
    c.run.result = .ok ((split c.rest).filterMap token?) ∧
      c.run.cursor = c.skip c.rest.length := by
  have ht := token_emissions c (split c.rest)
  apply And.intro
  · simp only [run, Scan.toRun, scan_of_clean h, Scan.error?, Scan.tokens, ht]
  · simp only [run, Scan.toRun, scan_of_clean h]

theorem run_of_stray {ch : Char} {after : List Lexeme}
    (h : split c.rest = before ++ .stray ch :: after) (hc : Clean before) :
    c.run.result = .error
        ⟨.illegalCharacter (String.singleton ch),
          (c.skip (before.flatMap chars).length).position,
          (c.skip ((before.flatMap chars).length + 1)).position⟩ ∧
      c.run.cursor = c.skip ((before.flatMap chars).length + 1) := by
  apply And.intro
  · simp only [run, Scan.toRun, scan_of_stray h hc, Scan.error?]
  · simp only [run, Scan.toRun, scan_of_stray h hc]

theorem events_of_clean (h : Clean (split c.rest)) :
    c.run.events = .started c.position.file c.position.text.length ::
      (c.emissions (split c.rest)).map (fun e => .emitted e.offset e.token) ++
        [.finished (c.skip c.rest.length).position.file (c.emissions (split c.rest)).length] := by
  simp only [run, Scan.toRun, scan_of_clean h, Scan.closing]

theorem events_of_stray {ch : Char} {after : List Lexeme}
    (h : split c.rest = before ++ .stray ch :: after) (hc : Clean before) :
    c.run.events = .started c.position.file c.position.text.length ::
      (c.emissions before).map (fun e => .emitted e.offset e.token) ++
        [.aborted (c.skip (before.flatMap chars).length).position.file
          (c.skip (before.flatMap chars).length).position.lineNumber
          (c.skip (before.flatMap chars).length).position.column ch] := by
  simp only [run, Scan.toRun, scan_of_stray h hc, Scan.closing]

theorem run_result_of_scan {e : Error} (h : c.scan.error? = some e) : c.run.result = .error e := by
  rw [run, Scan.toRun, h]

theorem clean_of_run_ok {tokens : List Token} (h : c.run.result = .ok tokens) :
    Clean (split c.rest) := by
  rcases clean_or_stray (split c.rest) with hc | ⟨before, ch, after, hs, hc⟩
  · exact hc
  · cases (run_of_stray hs hc).1.symm.trans h

/-- A run that fails has come to the first stray and stops behind it. -/
theorem exists_stray_of_run_error {e : Error} (h : c.run.result = .error e) :
    ∃ before ch after, split c.rest = before ++ .stray ch :: after ∧ Clean before ∧
      e = ⟨.illegalCharacter (String.singleton ch),
        (c.skip (before.flatMap chars).length).position,
        (c.skip ((before.flatMap chars).length + 1)).position⟩ ∧
      c.run.cursor = c.skip ((before.flatMap chars).length + 1) := by
  rcases clean_or_stray (split c.rest) with hc | ⟨before, ch, after, hs, hc⟩
  · cases (run_of_clean hc).1.symm.trans h
  · obtain ⟨hr, hcur⟩ := run_of_stray hs hc
    exact ⟨before, ch, after, hs, hc, (Except.error.inj (hr.symm.trans h)).symm, hcur⟩

end Cursor

end FormulaLexer
