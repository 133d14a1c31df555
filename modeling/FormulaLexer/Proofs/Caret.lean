import FormulaLexer.Excerpt
import FormulaLexer.Proofs.Line
import Mathlib.Data.List.DropRight

namespace FormulaLexer

namespace Text

variable {cs : List Char} {c : Char} {k : Nat}

theorem trimEnd_eq_rdropWhile (cs : List Char) : trimEnd cs = cs.rdropWhile isSpace := rfl

theorem trimEnd_prefix (cs : List Char) : trimEnd cs <+: cs := by
  rw [trimEnd_eq_rdropWhile]
  exact List.rdropWhile_prefix isSpace cs

theorem trimEnd_concat_of_isSpace (cs : List Char) (h : isSpace c = true) :
    trimEnd (cs ++ [c]) = trimEnd cs := by
  rw [trimEnd_eq_rdropWhile, trimEnd_eq_rdropWhile]
  exact List.rdropWhile_concat_pos isSpace cs c h

theorem trimEnd_concat_of_not_isSpace (cs : List Char) (h : isSpace c = false) :
    trimEnd (cs ++ [c]) = cs ++ [c] := by
  rw [trimEnd_eq_rdropWhile]
  exact List.rdropWhile_concat_neg isSpace cs c (Bool.eq_false_iff.mp h)

theorem lt_length_trimEnd_iff :
    k < (trimEnd cs).length ↔ ∃ c ∈ cs.drop k, isSpace c = false := by
  induction cs using List.reverseRecOn with
  | nil => simp [trimEnd]
  | append_singleton cs d ih =>
    cases hd : isSpace d with
    | true =>
      -- White space at the end adds nothing on either side.
      rw [trimEnd_concat_of_isSpace cs hd, ih, List.drop_append]
      apply Iff.intro
      · intro h
        obtain ⟨c, hc, hs⟩ := h
        exact ⟨c, List.mem_append_left _ hc, hs⟩
      · intro h
        obtain ⟨c, hc, hs⟩ := h
        rcases List.mem_append.mp hc with hc | hc
        · exact ⟨c, hc, hs⟩
        · obtain rfl := List.mem_singleton.mp (List.mem_of_mem_drop hc)
          rw [hd] at hs
          cases hs
    | false =>
      rw [trimEnd_concat_of_not_isSpace cs hd]
      apply Iff.intro
      · intro h
        rw [List.length_append, List.length_singleton] at h
        refine ⟨d, ?_, hd⟩
        rw [List.drop_append_of_le_length (Nat.le_of_lt_succ h)]
        exact List.mem_append_right _ (List.mem_singleton_self d)
      · intro h
        obtain ⟨c, hc, -⟩ := h
        have hpos := List.length_pos_of_mem hc
        rw [List.length_drop] at hpos
        omega

theorem getElem?_trimEnd (h : k < (trimEnd cs).length) : (trimEnd cs)[k]? = cs[k]? := by
  obtain ⟨tail, ht⟩ := trimEnd_prefix cs
  have hl : (trimEnd cs ++ tail)[k]? = (trimEnd cs)[k]? := List.getElem?_append_left h
  rw [← hl, ht]

def indent (cs : List Char) : Nat := (cs.takeWhile isBlank).length

theorem dropWhile_isBlank (cs : List Char) : cs.dropWhile isBlank = cs.drop (indent cs) := by
  have h : (cs.takeWhile isBlank ++ cs.dropWhile isBlank).drop (indent cs) =
      cs.dropWhile isBlank := List.drop_left
  rwa [List.takeWhile_append_dropWhile, eq_comm] at h

theorem newline_not_mem_trimEnd_firstLine (cs : List Char) :
    '\n' ∉ trimEnd ((firstLine cs).dropWhile isBlank) := by
  intro hm
  rcases firstLine_cases cs with ⟨hn, he⟩ | ⟨body, more, rfl, hn, he⟩
  · rw [he] at hm
    have hdrop := trimEnd_prefix _ |>.subset hm
    exact hn ((List.dropWhile_suffix isBlank).subset hdrop)
  · have hdrop : (body ++ ['\n']).dropWhile isBlank = body.dropWhile isBlank ++ ['\n'] := by
      rw [List.dropWhile_append]
      split
      · rename_i h
        rw [List.isEmpty_iff.mp h]
        rfl
      · rfl
    rw [he, hdrop, trimEnd_concat_of_isSpace _ (by decide)] at hm
    have hbody := trimEnd_prefix _ |>.subset hm
    exact hn ((List.dropWhile_suffix isBlank).subset hbody)

theorem eq_of_alignRight? {fill : Char} {width : Nat} {cs text : List Char}
    (h : alignRight? fill width cs = some text) :
    text = List.replicate (width - cs.length) fill ++ cs := by
  rw [alignRight?] at h
  split at h
  · exact (Option.some.inj h).symm
  · cases h

end Text

/-- The place of the character at `k`, told from the line feeds before it. -/
def Text.placeOf (cs : List Char) (k : Nat) : Text.Located where
  number := 1 + (cs.take k).count '\n'
  line := firstLine (cs.drop (lineStart cs k))
  column := k - lineStart cs k

/-- Where the caret stands for a place: behind the line's number, three characters between, and as
much of the line as there is from its indent to the place. -/
def Text.Located.caretIndex (place : Text.Located) : Nat :=
  place.number.repr.length + 3 + (place.column - indent place.line)

/-- The caret is the only one in its line and ends it. Above it is the character of the place, or
the first one shown if the place is among the blanks left out, or nothing more if the line has only
white space from the place on. -/
structure Text.Located.PointedAt (place : Text.Located) (ch : Char) (shown caret : List Char) :
    Prop where
  label : place.number.repr.toList ++ " | ".toList <+: shown
  caret : ∃ body, caret = body ++ ['^'] ∧ '^' ∉ body ∧ body.length = place.caretIndex
  under : Text.indent place.line ≤ place.column →
    (∃ c ∈ place.line.drop place.column, Text.isSpace c = false) →
      shown[place.caretIndex]? = some ch
  first : place.column < Text.indent place.line →
    place.caretIndex = place.number.repr.length + 3
  past : (∀ c ∈ place.line.drop place.column, Text.isSpace c = true) →
    shown.length ≤ place.caretIndex

namespace Error

variable {e : Error} {place : Text.Located} {lines : List (List Char)}

theorem excerpt?_eq_some (h : e.excerpt? place = some lines) :
    lines = [e.headline, "-> ".toList ++ e.start.file.toList,
      List.replicate ((Nat.toDigits 10 place.number).length + 1) ' ' ++ ['|'],
      Nat.toDigits 10 place.number ++ " | ".toList ++
        Text.trimEnd (place.line.dropWhile Text.isBlank),
      List.replicate ((Nat.toDigits 10 place.number).length + 1) ' ' ++ ['|'] ++
        ' ' :: (List.replicate (place.column - Text.indent place.line) '-' ++ ['^'])] := by
  simp only [excerpt?, bind, Option.bind_eq_some_iff] at h
  obtain ⟨margin, hmargin, caret, hcaret, h⟩ := h
  cases h
  rw [Text.eq_of_alignRight? hmargin, Text.eq_of_alignRight? hcaret]
  rfl

theorem newline_not_mem_headline (e : Error) : '\n' ∉ e.headline := by
  rw [headline]
  cases e.cause with
  | illegalCharacter character =>
    simp only [Cause.tip?, Cause.name]
    decide +kernel
  | invalidNumber literal =>
    simp only [Cause.tip?, Cause.name]
    decide +kernel

theorem newline_not_mem_excerpt {cs : List Char} (h : e.excerpt? place = some lines)
    (hfile : '\n' ∉ e.start.file.toList) (hline : place.line = Text.firstLine cs) :
    ∀ l ∈ lines, '\n' ∉ l := by
  have hheadline := e.newline_not_mem_headline
  have hdigits : '\n' ∉ Nat.toDigits 10 place.number := by
    intro hm
    cases Nat.isDigit_of_mem_toDigits (by decide) (by decide) hm
  have hshown := hline ▸ Text.newline_not_mem_trimEnd_firstLine cs
  rw [excerpt?_eq_some h]
  simp [hheadline, hfile, hdigits, hshown]

theorem splitOn_intercalate_map_ofList (hne : lines ≠ []) (h : ∀ l ∈ lines, '\n' ∉ l) :
    ("\n".intercalate (lines.map String.ofList)).toList.splitOn '\n' = lines := by
  have hid : String.toList ∘ String.ofList = id := funext fun _ => String.toList_ofList
  rw [String.toList_intercalate, List.map_map, hid, List.map_id]
  exact List.splitOn_intercalate '\n' h hne

theorem pointedAt_of_excerpt? {ch : Char} (hch : place.line[place.column]? = some ch) :
    place.PointedAt ch
      (Nat.toDigits 10 place.number ++ " | ".toList ++
        Text.trimEnd (place.line.dropWhile Text.isBlank))
      (List.replicate ((Nat.toDigits 10 place.number).length + 1) ' ' ++ ['|'] ++
        ' ' :: (List.replicate (place.column - Text.indent place.line) '-' ++ ['^'])) := by
  have hdigits : (Nat.toDigits 10 place.number).length = place.number.repr.length := by
    rw [← Nat.toList_repr, String.length_toList]
  have hlabel : (Nat.toDigits 10 place.number ++ " | ".toList).length =
      place.number.repr.length + 3 := by
    rw [List.length_append, hdigits]
    rfl
  rw [Text.dropWhile_isBlank]
  apply Text.Located.PointedAt.mk
  · rw [Nat.toList_repr]
    exact List.prefix_append _ _
  · refine ⟨List.replicate ((Nat.toDigits 10 place.number).length + 1) ' ' ++ ['|'] ++
      ' ' :: List.replicate (place.column - Text.indent place.line) '-', ?_, ?_, ?_⟩
    · simp
    · simp
    · simp [hdigits, Text.Located.caretIndex]
      omega
  · intro hle hs
    have hdrop : (place.line.drop (Text.indent place.line)).drop
        (place.column - Text.indent place.line) = place.line.drop place.column := by
      rw [List.drop_drop, Nat.add_sub_cancel' hle]
    have hlt := Text.lt_length_trimEnd_iff.mpr (hdrop ▸ hs)
    rw [Text.Located.caretIndex, ← hlabel, List.getElem?_append_right (Nat.le_add_right _ _),
      Nat.add_sub_cancel_left, Text.getElem?_trimEnd hlt, List.getElem?_drop,
      Nat.add_sub_cancel' hle, hch]
  · intro hlt
    rw [Text.Located.caretIndex, Nat.sub_eq_zero_of_le (Nat.le_of_lt hlt), Nat.add_zero]
  · intro hs
    rw [List.length_append, hlabel, Text.Located.caretIndex]
    apply Nat.add_le_add_left
    by_contra hn
    obtain ⟨c, hc, hcs⟩ := Text.lt_length_trimEnd_iff.mp (Nat.lt_of_not_le hn)
    rw [List.drop_drop] at hc
    have hle : place.column ≤
        Text.indent place.line + (place.column - Text.indent place.line) := by omega
    have hm := List.drop_subset_drop_left place.line hle hc
    rw [hs c hm] at hcs
    cases hcs

/-- An error whose file has no line feed in its name, and which begins at a character of its text,
is shown in five lines. The last ends in the only caret, which is under that character. -/
theorem display_caret {e : Error} {o : Nat} {text : String} (ho : e.start.offset = o)
    (hlt : o < e.start.text.length) (hfile : '\n' ∉ e.start.file.toList)
    (hd : e.display = .ok text) :
    ∃ ch margin shown caret, e.start.text.toList[o]? = some ch ∧
      text.toList.splitOn '\n' =
        [e.headline, "-> ".toList ++ e.start.file.toList, margin, shown, caret] ∧
      (Text.placeOf e.start.text.toList o).PointedAt ch shown caret := by
  have hlocate : Text.locate e.start.text o = some (Text.placeOf e.start.text.toList o) :=
    Text.locate_eq hlt
  have hplace := (place?_of_offset ho).trans hlocate
  have hlength : o < e.start.text.toList.length := String.length_toList ▸ hlt
  have hch := (Text.getElem?_of_locate hlocate).trans (List.getElem?_eq_getElem hlength)
  cases he : e.excerpt? (Text.placeOf e.start.text.toList o) with
  | none =>
    simp only [display, hplace, he] at hd
    cases hd
  | some lines =>
    simp only [display, hplace, he] at hd
    obtain rfl := Except.ok.inj hd
    have hnl := newline_not_mem_excerpt he hfile rfl
    obtain rfl := excerpt?_eq_some he
    exact ⟨_, _, _, _, List.getElem?_eq_getElem hlength,
      splitOn_intercalate_map_ofList (List.cons_ne_nil _ _) hnl, pointedAt_of_excerpt? hch⟩

/-- An error made for the eighth character of a text, with a wrong line and column. -/
def misnumbered : Error where
  cause := .invalidNumber "@"
  start := ⟨8, 7, -1, "a.calc", "1 +\n \t2 @ \u00a0\n3"⟩
  stop := ⟨0, 0, 0, "", ""⟩

theorem display_caret_misnumbered :
    misnumbered.display =
        .ok "Error: Invalid Number\n-> a.calc\n  |\n2 | 2 @\n  | --^" ∧
      ∃ margin shown caret,
        "Error: Invalid Number\n-> a.calc\n  |\n2 | 2 @\n  | --^".toList.splitOn '\n' =
          [misnumbered.headline, "-> a.calc".toList, margin, shown, caret] ∧
        (⟨2, " \t2 @ \u00a0\n".toList, 4⟩ : Text.Located).PointedAt '@' shown caret := by
  have hd : misnumbered.display =
      .ok "Error: Invalid Number\n-> a.calc\n  |\n2 | 2 @\n  | --^" := by
    decide +kernel
  have hlt : 8 < misnumbered.start.text.length := by decide +kernel
  have hfile : '\n' ∉ misnumbered.start.file.toList := by decide +kernel
  obtain ⟨ch, margin, shown, caret, hch, hsplit, hpointed⟩ := display_caret rfl hlt hfile hd
  obtain rfl : '@' = ch := Option.some.inj hch
  exact ⟨hd, margin, shown, caret, hsplit, hpointed⟩

end Error

end FormulaLexer
