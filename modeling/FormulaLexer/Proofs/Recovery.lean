import FormulaLexer.Proofs.Grammar
import FormulaLexer.Proofs.Tracking

namespace FormulaLexer

open Lexeme

def Event.token? : Event → Option Token
  | .emitted _ token => some token
  | _ => none

/-- The tokens that a run returns or, when it fails, those that it has emitted before. -/
def Run.tokens (r : Run) : List Token :=
  match r.result with
  | .ok tokens => tokens
  | .error _ => r.events.filterMap Event.token?

def Run.faultOffset? (r : Run) : Option Int :=
  match r.result with
  | .ok _ => none
  | .error e => some e.start.offset

/-- The runs of a lexer from a cursor on, each beginning where the one before it failed, up to the
first that succeeds. -/
inductive Cursor.Attempts : Cursor → List Run → Prop
  | last {c : Cursor} {tokens : List Token} (h : c.run.result = .ok tokens) : Attempts c [c.run]
  | again {c : Cursor} {e : Error} {runs : List Run} (h : c.run.result = .error e)
      (more : Attempts c.run.cursor runs) : Attempts c (c.run :: runs)

/-- The source with spaces in place of the characters at the given offsets. -/
def blankOut (offsets : List Int) (source : String) : String :=
  String.ofList (source.toList.mapIdx fun i c => if (i : Int) ∈ offsets then ' ' else c)

namespace Lexeme

variable {l : Lexeme} {ls before after : List Lexeme} {text : List Char} {c : Char} {k : Int}

/-- A stray becomes a blank; all else stays. -/
def blanked : Lexeme → Lexeme
  | stray _ => blank ' '
  | l => l

def strayOffset (k : Int) : Lexeme → List Int
  | stray _ => [k]
  | _ => []

/-- The offsets of the strays among lexemes that stand at offset `k`. -/
def strayOffsets (k : Int) : List Lexeme → List Int
  | [] => []
  | l :: ls => strayOffset k l ++ strayOffsets (k + l.chars.length) ls

theorem Valid.blanked (h : l.Valid) : l.blanked.Valid := by
  cases l with
  | stray c => exact (rfl : Text.isBlank ' ' = true)
  | blank c => exact h
  | number text => exact h
  | operator c kind => exact h

theorem blanked_of_ne_stray (h : ∀ ch, l ≠ .stray ch) : l.blanked = l := by
  cases l with
  | stray ch => exact absurd rfl (h ch)
  | blank c => rfl
  | number text => rfl
  | operator c kind => rfl

theorem ends_blanked (hd : Division ls) (h : Ends text (ls.flatMap chars)) :
    Ends text ((ls.map blanked).flatMap chars) := by
  cases hd with
  | nil => exact h
  | @cons l ls hv =>
    by_cases hs : ∃ ch, l = .stray ch
    · obtain ⟨ch, rfl⟩ := hs
      have hp : (' ' : Char) ≠ '.' := by decide
      exact ends_cons_iff.mpr ⟨rfl, (absurd · hp)⟩
    · rw [List.map_cons, List.flatMap_cons, blanked_of_ne_stray (not_exists.mp hs)]
      cases hl : l.chars with
      | nil => exact absurd hl hv.chars_ne_nil
      | cons c cs =>
        rw [List.flatMap_cons, hl] at h
        exact ends_cons_iff.mpr (ends_cons_iff.mp h)

theorem Division.map_blanked (h : Division ls) : Division (ls.map blanked) := by
  induction h with
  | nil => exact .nil
  | @cons l ls hv ha h ih =>
    apply Division.cons hv.blanked _ ih
    cases l with
    | number text => exact ends_blanked h ha
    | blank c => trivial
    | operator c kind => trivial
    | stray c => trivial

theorem clean_map_blanked (ls : List Lexeme) : Clean (ls.map blanked) := by
  intro ch h
  obtain ⟨l, -, hl⟩ := List.mem_map.mp h
  cases l <;> cases hl

theorem token?_blanked (l : Lexeme) : l.blanked.token? = l.token? := by
  cases l <;> rfl

theorem filterMap_token?_map_blanked (ls : List Lexeme) :
    (ls.map blanked).filterMap token? = ls.filterMap token? := by
  rw [List.filterMap_map]
  exact congrArg (ls.filterMap ·) (funext token?_blanked)

theorem eq_of_mem_strayOffset {i : Int} (h : i ∈ strayOffset k l) : i = k := by
  cases l with
  | stray c => exact List.mem_singleton.mp h
  | blank c => cases h
  | number text => cases h
  | operator c kind => cases h

theorem le_of_mem_strayOffsets {i : Int} (h : i ∈ strayOffsets k ls) : k ≤ i := by
  induction ls generalizing k with
  | nil => cases h
  | cons l ls ih =>
    rcases List.mem_append.mp h with h | h
    · exact Int.le_of_eq (eq_of_mem_strayOffset h).symm
    · have hle := ih h
      omega

theorem pairwise_strayOffsets (h : Division ls) (k : Int) :
    (strayOffsets k ls).Pairwise (· < ·) := by
  induction h generalizing k with
  | nil => exact .nil
  | @cons l ls hv ha h ih =>
    have hpos := List.length_pos_iff.mpr hv.chars_ne_nil
    apply List.pairwise_append.mpr
    apply And.intro
    · cases l <;> simp [strayOffset]
    · apply And.intro (ih _)
      intro i hi j hj
      have he := eq_of_mem_strayOffset hi
      have hle := le_of_mem_strayOffsets hj
      omega

theorem chars_blanked (k : Int) (l : Lexeme) :
    l.blanked.chars = l.chars.mapIdx fun i c => if k + i ∈ strayOffset k l then ' ' else c := by
  apply List.ext_getElem?
  intro i
  rw [List.getElem?_mapIdx]
  cases l with
  | stray ch => cases i <;> simp [blanked, chars, strayOffset]
  | blank c => simp [blanked, strayOffset]
  | number text => simp [blanked, strayOffset]
  | operator c kind => simp [blanked, strayOffset]

theorem flatMap_chars_map_blanked (h : Division ls) (k : Int) :
    (ls.map blanked).flatMap chars =
      (ls.flatMap chars).mapIdx fun i c => if k + i ∈ strayOffsets k ls then ' ' else c := by
  induction h generalizing k with
  | nil => rfl
  | @cons l ls hv ha h ih =>
    have hpos := List.length_pos_iff.mpr hv.chars_ne_nil
    rw [List.map_cons, List.flatMap_cons, List.flatMap_cons, List.mapIdx_append, chars_blanked k,
      ih (k + l.chars.length)]
    -- Offsets in the first lexeme are less than those of the strays behind it.
    congr 1
    · apply List.mapIdx_eq_mapIdx_iff.mpr
      intro i hi
      have hn : k + i ∉ strayOffsets (k + l.chars.length) ls := by
        intro hm
        have hle := le_of_mem_strayOffsets hm
        omega
      simp only [strayOffsets, List.mem_append, hn, or_false]
    · apply List.mapIdx_eq_mapIdx_iff.mpr
      intro i hi
      have hk : k + (i + l.chars.length : Nat) = k + l.chars.length + i := by omega
      have hn : k + l.chars.length + i ∉ strayOffset k l := by
        intro hm
        have he := eq_of_mem_strayOffset hm
        omega
      simp only [strayOffsets, List.mem_append, hk, hn, false_or]

theorem strayOffsets_append_of_clean (hc : Clean before) (k : Int) (ls : List Lexeme) :
    strayOffsets k (before ++ ls) = strayOffsets (k + (before.flatMap chars).length) ls := by
  induction before generalizing k with
  | nil => simp
  | cons l before ih =>
    have hl : strayOffset k l = [] := by
      cases l with
      | stray ch => exact absurd rfl (hc.head ch)
      | blank c => rfl
      | number text => rfl
      | operator c kind => rfl
    rw [List.cons_append, strayOffsets, hl, List.nil_append, ih hc.tail, List.flatMap_cons,
      List.length_append, Int.natCast_add, Int.add_assoc]

theorem strayOffsets_of_clean (hc : Clean ls) (k : Int) : strayOffsets k ls = [] := by
  have h := strayOffsets_append_of_clean hc k []
  rwa [List.append_nil] at h

theorem Division.of_append (h : Division (before ++ ls)) : Division ls := by
  induction before with
  | nil => exact h
  | cons l before ih =>
    cases h with
    | cons hv ha h => exact ih h

theorem split_after_stray {cs : List Char} (h : split cs = before ++ .stray c :: after) :
    split (cs.drop ((before.flatMap chars).length + 1)) = after := by
  have hd : Division (before ++ .stray c :: after) := h ▸ division_split cs
  have hdrop : cs.drop ((before.flatMap chars).length + 1) = after.flatMap chars := by
    rw [append_stray h, List.drop_length_add_append]
    rfl
  rw [hdrop]
  cases hd.of_append with
  | cons hv ha hd => exact hd.split_flatMap

end Lexeme

namespace Cursor

variable {c : Cursor} {before after : List Lexeme} {ch : Char}

theorem run_tokens_of_stray (hs : split c.rest = before ++ .stray ch :: after)
    (hc : Clean before) : c.run.tokens = before.filterMap token? := by
  rw [Run.tokens, (run_of_stray hs hc).1, events_of_stray hs hc, List.filterMap_append,
    List.filterMap_cons_none rfl, List.filterMap_map, List.filterMap_cons_none rfl,
    List.filterMap_nil, List.append_nil, ← token_emissions c before]
  exact congrFun List.filterMap_eq_map (c.emissions before)

/-- A failing run reads the lexemes before the first stray, and leaves those behind it. -/
structure FailsAt (c : Cursor) (before : List Lexeme) (ch : Char) (after : List Lexeme) :
    Prop where
  split : Lexeme.split c.rest = before ++ .stray ch :: after
  clean : Clean before
  faultOffset : c.run.faultOffset? = some (c.position.offset + (before.flatMap chars).length)
  tokens : c.run.tokens = before.filterMap token?
  split_cursor : Lexeme.split c.run.cursor.rest = after
  offset_cursor : c.run.cursor.position.offset =
    c.position.offset + (before.flatMap chars).length + 1
  length_cursor : c.run.cursor.rest.length < c.rest.length

theorem failsAt_of_run_error {e : Error} (h : c.run.result = .error e) :
    ∃ before ch after, c.FailsAt before ch after := by
  obtain ⟨before, ch, after, hs, hc, rfl, hcur⟩ := exists_stray_of_run_error h
  have hrest : c.run.cursor.rest = c.rest.drop ((before.flatMap chars).length + 1) := by
    rw [hcur, rest_skip]
  have hlen := length_lt_of_stray hs
  refine ⟨before, ch, after, hs, hc, ?_, run_tokens_of_stray hs hc, ?_, ?_, ?_⟩
  · rw [Run.faultOffset?, h]
    exact congrArg some (offset_skip c _)
  · rw [hrest, split_after_stray hs]
  · rw [hcur, offset_skip]
    omega
  · rw [hrest, List.length_drop]
    omega

theorem exists_attempts (c : Cursor) : ∃ runs, Attempts c runs := by
  -- A run that fails leaves less to read.
  induction hn : c.rest.length using Nat.strongRecOn generalizing c with
  | ind n ih =>
    cases hr : c.run.result with
    | ok tokens => exact ⟨[c.run], .last hr⟩
    | error e =>
      obtain ⟨before, ch, after, hf⟩ := failsAt_of_run_error hr
      obtain ⟨runs, hruns⟩ := ih _ (hn ▸ hf.length_cursor) c.run.cursor rfl
      exact ⟨c.run :: runs, .again hr hruns⟩

namespace Attempts

variable {runs runs' : List Run}

theorem unique (h : Attempts c runs) (h' : Attempts c runs') : runs' = runs := by
  induction h generalizing runs' with
  | last h =>
    cases h' with
    | last h' => rfl
    | again h' more => cases h.symm.trans h'
  | again h more ih =>
    cases h' with
    | last h' => cases h.symm.trans h'
    | again h' more' => rw [ih more']

/-- Repeated runs fail once at each stray. -/
theorem faultOffsets (h : Attempts c runs) :
    runs.filterMap Run.faultOffset? = strayOffsets c.position.offset (split c.rest) := by
  induction h with
  | last h =>
    rw [strayOffsets_of_clean (clean_of_run_ok h),
      List.filterMap_cons_none (by rw [Run.faultOffset?, h])]
    rfl
  | again h more ih =>
    obtain ⟨before, ch, after, hf⟩ := failsAt_of_run_error h
    rw [List.filterMap_cons_some hf.faultOffset, ih, hf.split_cursor, hf.offset_cursor, hf.split,
      strayOffsets_append_of_clean hf.clean]
    rfl

/-- Repeated runs read all lexemes but the strays. -/
theorem flatMap_tokens (h : Attempts c runs) :
    runs.flatMap Run.tokens = (split c.rest).filterMap token? := by
  induction h with
  | @last c tokens h =>
    have hr := (run_of_clean (clean_of_run_ok h)).1
    rw [List.flatMap_singleton, Run.tokens, hr]
  | again h more ih =>
    obtain ⟨before, ch, after, hf⟩ := failsAt_of_run_error h
    rw [List.flatMap_cons, hf.tokens, ih, hf.split_cursor, hf.split, List.filterMap_append]
    rfl

end Attempts

end Cursor

theorem tokenize_blankOut_strays (source : String) (file? : Option String) :
    tokenize (blankOut (strayOffsets 0 (split source.toList)) source) file? =
      .ok ((split source.toList).filterMap token?) := by
  have hd := division_split source.toList
  have hchars : (blankOut (strayOffsets 0 (split source.toList)) source).toList =
      ((split source.toList).map blanked).flatMap chars := by
    rw [flatMap_chars_map_blanked hd 0, flatMap_chars_split, blankOut, String.toList_ofList]
    simp only [Int.zero_add]
  have hsplit := split_eq_iff.mpr ⟨hd.map_blanked, hchars.symm⟩
  have hclean := clean_map_blanked (split source.toList)
  rw [← hsplit] at hclean
  rw [tokenize_of_clean file? hclean, hsplit, filterMap_token?_map_blanked]

/-- A lexer that runs again after each error comes to a run that succeeds. All of its runs together
give the tokens of the source with spaces where they fail. -/
theorem tokenize_blankOut (source : String) (file? other? : Option String) :
    ∃ runs, (∀ rs, (Cursor.start source file?).Attempts rs ↔ rs = runs) ∧
      (runs.filterMap Run.faultOffset?).Pairwise (· < ·) ∧
      tokenize (blankOut (runs.filterMap Run.faultOffset?) source) other? =
        .ok (runs.flatMap Run.tokens) := by
  obtain ⟨runs, hruns⟩ := (Cursor.start source file?).exists_attempts
  have ho : runs.filterMap Run.faultOffset? = strayOffsets 0 (split source.toList) :=
    hruns.faultOffsets
  have ht : runs.flatMap Run.tokens = (split source.toList).filterMap token? :=
    hruns.flatMap_tokens
  refine ⟨runs, fun rs => ⟨hruns.unique, fun h => h ▸ hruns⟩, ?_, ?_⟩
  · rw [ho]
    exact pairwise_strayOffsets (division_split _) 0
  · rw [ho, ht]
    exact tokenize_blankOut_strays source other?

end FormulaLexer
