import FormulaLexer.Proofs.Caret
import FormulaLexer.Proofs.Lookup
import FormulaLexer.Proofs.Tracking
import Mathlib.Order.Bounds.Basic

namespace FormulaLexer

namespace Text

variable {cs : List Char} {c : Char} {k : Nat}

theorem number_placeOf_le (cs : List Char) (k : Nat) : (placeOf cs k).number ≤ 1 + cs.length := by
  have hc : (cs.take k).count '\n' ≤ (cs.take k).length := List.count_le_length
  have ht : (cs.take k).length ≤ cs.length := List.length_take_le' k cs
  exact Nat.add_le_add_left (Nat.le_trans hc ht) 1

theorem length_number_placeOf_le (h : (cs.length : Int) ≤ Position.maxOffset) (k : Nat) :
    (Nat.toDigits 10 (placeOf cs k).number).length + 2 ≤ maxWidth := by
  have hn := number_placeOf_le cs k
  have hm : Position.maxOffset + 1 < (Nat.pow 10 20 : Nat) := by decide
  have hlt : (placeOf cs k).number < 10 ^ 20 := by
    rw [Nat.pow_eq] at hm
    omega
  have hd := (Nat.length_toDigits_le_iff (by decide) (by decide)).mpr hlt
  exact Nat.le_trans (Nat.add_le_add_right hd 2) (by decide)

/-- The first character that is no blank, in the line with the character at `k`, has the index
`j`. -/
def IsFirstMark (cs : List Char) (k j : Nat) : Prop :=
  IsLeast {i | lineStart cs k ≤ i ∧ ∃ c, cs[i]? = some c ∧ isBlank c = false} j

theorem indent_eq_findIdx (cs : List Char) : indent cs = cs.findIdx fun c => !isBlank c := by
  rw [indent, List.takeWhile_eq_take_findIdx_not, List.length_take]
  exact Nat.min_eq_left List.findIdx_le_length

theorem indent_firstLine (cs : List Char) : indent (firstLine cs) = indent cs := by
  induction cs with
  | nil => rfl
  | cons c cs ih =>
    rw [indent, indent] at ih
    by_cases hc : c = '\n'
    · subst c
      rfl
    · rw [firstLine, if_neg hc, indent, indent, List.takeWhile_cons, List.takeWhile_cons]
      split
      · rw [List.length_cons, List.length_cons, ih]
      · rfl

theorem indent_le_of_getElem? (hk : cs[k]? = some c) (hc : isBlank c = false) :
    indent cs ≤ k := by
  rw [indent_eq_findIdx]
  apply Nat.le_of_not_lt
  intro hlt
  have hb := List.not_of_lt_findIdx hlt
  obtain ⟨_, hk⟩ := List.getElem?_eq_some_iff.mp hk
  simp [hk, hc] at hb

theorem exists_getElem?_indent (hk : cs[k]? = some c) (hc : isBlank c = false) :
    ∃ d, cs[indent cs]? = some d ∧ isBlank d = false := by
  have hex : ∃ d ∈ cs, (!isBlank d) = true := ⟨c, List.mem_of_getElem? hk, by simp [hc]⟩
  have hlt := List.findIdx_lt_length_of_exists hex
  have hb := List.findIdx_getElem (w := hlt)
  rw [indent_eq_findIdx]
  exact ⟨_, List.getElem?_eq_getElem hlt, by simpa using hb⟩

theorem isFirstMark_indent (hk : cs[k]? = some c) (hc : isBlank c = false) :
    lineStart cs k + indent (placeOf cs k).line ≤ k ∧
      IsFirstMark cs k (lineStart cs k + indent (placeOf cs k).line) := by
  have hle := lineStart_le cs k
  have hdrop {i : Nat} (hi : lineStart cs k ≤ i) :
      (cs.drop (lineStart cs k))[i - lineStart cs k]? = cs[i]? := by
    rw [List.getElem?_drop, Nat.add_sub_cancel' hi]
  have hline : indent (placeOf cs k).line = indent (cs.drop (lineStart cs k)) :=
    indent_firstLine _
  have hleast {i : Nat} (hi : lineStart cs k ≤ i) {d : Char} (hd : cs[i]? = some d)
      (hb : isBlank d = false) : lineStart cs k + indent (placeOf cs k).line ≤ i := by
    have := indent_le_of_getElem? ((hdrop hi).trans hd) hb
    omega
  apply And.intro (hleast hle hk hc)
  apply And.intro
  · obtain ⟨d, hd, hb⟩ := exists_getElem?_indent ((hdrop hle).trans hk) hc
    rw [List.getElem?_drop] at hd
    exact ⟨Nat.le_add_right _ _, d, hline ▸ hd, hb⟩
  · intro i h
    obtain ⟨hi, d, hd, hb⟩ := h
    exact hleast hi hd hb

end Text

namespace Error

variable {e : Error} {place : Text.Located} {o : Nat}

/-- The error is shown neither with its source line nor by its summary. -/
def Refused (e : Error) : Prop := ∃ limit, e.display = .error limit

/-- The error begins at the character of its text with this index. -/
structure BeginsAt (e : Error) (o : Nat) : Prop where
  offset : e.start.offset = o
  lt : o < e.start.text.length

theorem BeginsAt.place? (h : e.BeginsAt o) :
    e.place? = some (Text.placeOf e.start.text.toList o) :=
  (place?_of_offset h.offset).trans (Text.locate_eq h.lt)

theorem place?_eq_none (h : ∀ o, ¬ e.BeginsAt o) : e.place? = none := by
  by_cases ho : 0 ≤ e.start.offset
  · obtain ⟨o, ho⟩ := Int.eq_ofNat_of_zero_le ho
    rw [place?_of_offset ho, Text.locate_eq_none_iff]
    exact Nat.le_of_not_lt fun hlt => h o ⟨ho, hlt⟩
  · rw [Error.place?, Position.index?, if_neg ho]
    rfl

/-- The lines are not shown when the margin or the caret would be too wide. -/
theorem excerpt?_eq_none_iff :
    e.excerpt? place = none ↔
      Text.maxWidth < (Nat.toDigits 10 place.number).length + 2 ∨
        Text.indent place.line + Text.maxWidth ≤ place.column := by
  have hcaret : Text.maxWidth < place.column - Text.indent place.line + 1 ↔
      Text.indent place.line + Text.maxWidth ≤ place.column := by
    have hpos : 0 < Text.maxWidth := by decide
    omega
  rw [← hcaret, ← @Text.alignRight?_eq_none_iff ' ' _ ['|'],
    ← @Text.alignRight?_eq_none_iff '-' _ ['^'], Text.indent]
  cases hm : Text.alignRight? ' ' ((Nat.toDigits 10 place.number).length + 2) ['|'] with
  | none => simp [excerpt?, hm]
  | some margin =>
    cases hc : Text.alignRight? '-'
      (place.column - (place.line.takeWhile Text.isBlank).length + 1) ['^'] with
    | none => simp [excerpt?, hm, hc]
    | some caret => simp [excerpt?, hm, hc]

/-- With a place in the text, the number of the error's own line is not asked for. -/
theorem refused_iff_of_place (h : e.place? = some place) :
    e.display ≠ .error .lineNumber ∧ (e.Refused ↔ e.excerpt? place = none) := by
  rw [Refused]
  cases he : e.excerpt? place with
  | none => simp [display, h, he]
  | some lines => simp [display, h, he]

theorem refused_iff_of_place?_eq_none (h : e.place? = none) :
    e.display = e.summary ∧ (e.Refused ↔ Position.maxLine ≤ e.start.line) := by
  have hd : e.display = e.summary := by rw [display, h]
  rw [Refused, hd, summary, Position.lineNumber?]
  by_cases hl : Position.maxLine ≤ e.start.line
  · simp [hl]
  · simp [hl]

end Error

theorem Cursor.not_isBlank_of_run_error {c : Cursor} {e : Error} {ch : Char}
    (h : c.run.result = .error e) (hc : e.cause = .illegalCharacter (String.singleton ch)) :
    Text.isBlank ch = false := by
  obtain ⟨before, d, after, hs, -, rfl, -⟩ := exists_stray_of_run_error h
  obtain rfl := String.singleton_inj.mp (Cause.illegalCharacter.inj hc)
  have hd : Lexeme.Division (before ++ .stray d :: after) := hs ▸ Lexeme.division_split c.rest
  exact hd.valid_of_append.1

theorem Session.OnText.beginsAt_of_run_error {c : Cursor} {e : Error} {source : String}
    {file? : Option String} (h : OnText source file? c) (he : c.run.result = .error e) :
    e.start.text = source ∧
      ∃ i ch, e.BeginsAt i ∧ source.toList[i]? = some ch ∧ Text.isBlank ch = false := by
  obtain ⟨i, ch, hi, rfl, -⟩ := h.run_error he
  have hlt := (List.getElem?_eq_some_iff.mp hi).1
  rw [String.length_toList] at hlt
  exact ⟨rfl, i, ch, ⟨rfl, hlt⟩, hi, Cursor.not_isBlank_of_run_error he rfl⟩

namespace Error

theorem BeginsAt.refused_iff_column {e : Error} {o : Nat}
    (hlen : (e.start.text.length : Int) ≤ Position.maxOffset) (h : e.BeginsAt o) :
    e.Refused ↔ Text.indent (Text.placeOf e.start.text.toList o).line + Text.maxWidth ≤
      (Text.placeOf e.start.text.toList o).column := by
  rw [← String.length_toList] at hlen
  have hmargin := Text.length_number_placeOf_le hlen o
  rw [(refused_iff_of_place h.place?).2, excerpt?_eq_none_iff]
  exact or_iff_right (Nat.not_lt_of_le hmargin)

/-- An error that begins at a character of its text is refused when the character is too far to the
right of the indent of its line, whatever line the error gives for it; any other error is refused
when its line is the greatest there is, which has no number. The error of a run is refused when it
is too far to the right of the first mark of its line. -/
theorem refused_iff {e : Error} (hlen : (e.start.text.length : Int) ≤ Position.maxOffset) :
    (∀ o, e.BeginsAt o →
      e.display ≠ .error .lineNumber ∧
      (Nat.toDigits 10 (Text.placeOf e.start.text.toList o).number).length + 2 ≤ Text.maxWidth ∧
      (e.Refused ↔ Text.indent (Text.placeOf e.start.text.toList o).line + Text.maxWidth ≤
        (Text.placeOf e.start.text.toList o).column)) ∧
    ((∀ o, ¬ e.BeginsAt o) →
      e.display = e.summary ∧
      (e.start.line ≤ Position.maxLine → (e.Refused ↔ e.start.line = Position.maxLine))) ∧
    ∀ source file? s, Session.Reachable source file? s → s.cursor.run.result = .error e →
      ∃ i j, e.BeginsAt i ∧ Text.IsFirstMark source.toList i j ∧ j ≤ i ∧
        (e.Refused ↔ j + Text.maxWidth ≤ i) := by
  refine ⟨?_, ?_, ?_⟩
  · intro o h
    have hlen' := hlen
    rw [← String.length_toList] at hlen'
    exact ⟨(refused_iff_of_place h.place?).1, Text.length_number_placeOf_le hlen' o,
      h.refused_iff_column hlen⟩
  · intro h
    obtain ⟨hd, hr⟩ := refused_iff_of_place?_eq_none (place?_eq_none h)
    apply And.intro hd
    intro hl
    rw [hr]
    exact ⟨Nat.le_antisymm hl, Nat.le_of_eq ∘ Eq.symm⟩
  · intro source file? s hs he
    obtain ⟨rfl, i, ch, hi, hch, hb⟩ := hs.onText.1.beginsAt_of_run_error he
    obtain ⟨hle, hmark⟩ := Text.isFirstMark_indent hch hb
    refine ⟨i, _, hi, hmark, hle, ?_⟩
    rw [hi.refused_iff_column hlen]
    have hc : (Text.placeOf e.start.text.toList i).column =
        i - Text.lineStart e.start.text.toList i := rfl
    have hstart := Text.lineStart_le e.start.text.toList i
    omega

/-- A tab, digits, and behind them the character at which the error begins. -/
def wideChars (n : Nat) : List Char := '\t' :: (List.replicate n '1' ++ ['@'])

def wide (n : Nat) : Error where
  cause := .invalidNumber "@"
  start := ⟨n + 1, Position.maxLine, -1, "a.calc", String.ofList (wideChars n)⟩
  stop := ⟨0, 0, 0, "", ""⟩

def lost : Error := ⟨.invalidNumber "@", ⟨-1, Position.maxLine, -1, "a.calc", "@"⟩,
  ⟨0, 0, 0, "", ""⟩⟩

theorem length_text_wide (n : Nat) : (wide n).start.text.length = n + 2 := by
  rw [wide, String.length_ofList]
  simp [wideChars]

theorem placeOf_wide (n : Nat) :
    (Text.placeOf (wide n).start.text.toList (n + 1)).column = n + 1 ∧
      Text.indent (Text.placeOf (wide n).start.text.toList (n + 1)).line = 1 := by
  have htext : (wide n).start.text.toList = wideChars n := String.toList_ofList
  have hnl : '\n' ∉ (wideChars n).take (n + 1) := by
    intro hm
    have := List.mem_of_mem_take hm
    simp [wideChars] at this
  simp only [htext, Text.placeOf, Text.lineStart_eq_zero hnl, List.drop_zero,
    Text.indent_firstLine, Nat.sub_zero, true_and]
  cases n with
  | zero => rfl
  | succ n => rfl

theorem refused_iff_wide :
    (wide 65535).Refused ∧ ¬ (wide 65534).Refused ∧ lost.Refused ∧
      ∃ e, (Session.start "\n \t2@" none).run.cursor.run.result = .error e ∧ ¬ e.Refused := by
  have hwide (n : Nat) (hn : ((n + 2 : Nat) : Int) ≤ Position.maxOffset) :
      (wide n).Refused ↔ 1 + Text.maxWidth ≤ n + 1 := by
    rw [← length_text_wide n] at hn
    have hbegins : (wide n).BeginsAt (n + 1) := ⟨rfl, by simp [length_text_wide]⟩
    have h := ((refused_iff hn).1 (n + 1) hbegins).2.2
    rwa [(placeOf_wide n).1, (placeOf_wide n).2] at h
  have hlost : lost.Refused := by
    have hnone (o : Nat) : ¬ lost.BeginsAt o := by
      intro h
      cases h.offset
    exact ((refused_iff (e := lost) (by decide +kernel)).2.1 hnone).2 (Nat.le_refl _) |>.mpr rfl
  have hr : Session.Reachable "\n \t2@" none (Session.start "\n \t2@" none).run := .run .start
  have hscan : (Session.start "\n \t2@" none).run.cursor.scan.error? = some
      ⟨.illegalCharacter "@", ⟨4, 1, 3, "<stdin>", "\n \t2@"⟩,
        ⟨5, 1, 4, "<stdin>", "\n \t2@"⟩⟩ := by
    decide +kernel
  have he := Cursor.run_result_of_scan hscan
  obtain ⟨i, j, hi, -, -, hrefused⟩ := (refused_iff (by decide +kernel)).2.2 _ _ _ hr he
  obtain rfl : 4 = i := Int.ofNat.inj hi.offset
  refine ⟨(hwide 65535 (by decide)).mpr (by decide), ?_, hlost, _, he, ?_⟩
  · rw [hwide 65534 (by decide)]
    decide
  · rw [hrefused, Text.maxWidth]
    omega

end Error

end FormulaLexer
