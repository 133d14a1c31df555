import FormulaLexer.Error
import FormulaLexer.Text.Digits
import FormulaLexer.Text.Span
import Mathlib.Algebra.Ring.Parity
import Mathlib.Data.List.DropRight
import Mathlib.Data.List.Nodup

namespace FormulaLexer

namespace Text

variable {c d : Char} {cs ds u v rest rest' : List Char} {k n : Nat}

/-- The characters with an escape of two characters, and the second of these. -/
def shortEscapes : List (Char × Char) :=
  [('\x00', '0'), ('\t', 't'), ('\r', 'r'), ('\n', 'n'), ('\\', '\\'), ('"', '"')]

/-- The ways in which a character is written between double quotes. -/
inductive Escaped : Char → List Char → Prop
  | short {c d : Char} (h : (c, d) ∈ shortEscapes) : Escaped c ['\\', d]
  | plain {c : Char} (hb : c ≠ '\\') (hq : c ≠ '"') (hp : isPrintable c = true) : Escaped c [c]
  | code (c : Char) : Escaped c (escapeCode c)

theorem escaped_escape (c : Char) : Escaped c (escape '"' c) := by
  rw [escape]
  split
  · subst c
    exact .short (by decide)
  · split
    · subst c
      exact .short (by decide)
    · split
      · subst c
        exact .short (by decide)
      · split
        · subst c
          exact .short (by decide)
        · split
          · rename_i h
            rcases h with rfl | rfl
            · exact .short (by decide)
            · exact .short (by decide)
          · rename_i h
            rw [not_or] at h
            split
            · rename_i hp
              rw [Bool.and_eq_true] at hp
              exact .plain h.1 h.2 hp.1
            · exact .code c

def hexDigits : List Char := "0123456789abcdef".toList

theorem mem_hexDigits_of_mem_toDigits (h : c ∈ Nat.toDigits 16 n) : c ∈ hexDigits := by
  have hall : ∀ i < 16, Nat.digitChar i ∈ hexDigits := by decide
  obtain ⟨i, hi, rfl⟩ := exists_digitChar_of_mem_toDigits (by decide) h
  exact hall i hi

def codeChars : List Char := '\\' :: 'u' :: '{' :: '}' :: hexDigits

theorem mem_codeChars_of_mem_escapeCode (h : d ∈ escapeCode c) : d ∈ codeChars := by
  rw [escapeCode, List.mem_append, List.mem_append] at h
  rcases h with (h | h) | h
  · exact List.mem_append_left ('}' :: hexDigits) h
  · exact List.mem_append_right ['\\', 'u', '{', '}'] (mem_hexDigits_of_mem_toDigits h)
  · rw [List.mem_singleton.mp h]
    decide

theorem escapeCode_eq (c : Char) :
    escapeCode c = '\\' :: 'u' :: '{' :: (Nat.toDigits 16 c.toNat ++ ['}']) := rfl

theorem eq_of_escapeCode_append (h : escapeCode c ++ rest = escapeCode d ++ rest') :
    c = d ∧ rest = rest' := by
  have hhex (n : Nat) : '}' ∉ Nat.toDigits 16 n := by
    intro hc
    exact absurd (mem_hexDigits_of_mem_toDigits hc) (by decide)
  simp only [escapeCode_eq, List.cons_append, List.append_assoc, List.cons.injEq, true_and] at h
  obtain ⟨hdigits, hrest⟩ := append_cons_inj_of_not_mem (hhex _) (hhex _) h
  exact ⟨Char.toNat_inj.mp ((toDigits_inj (by decide) (by decide)).mp hdigits), hrest⟩

theorem eq_of_mem_shortEscapes {x : Char} (hc : (c, x) ∈ shortEscapes)
    (hd : (d, x) ∈ shortEscapes) : c = d := by
  have hnodup : (shortEscapes.map Prod.snd).Nodup := by decide
  exact congrArg Prod.fst (List.inj_on_of_nodup_map hnodup hc hd rfl)

theorem u_not_mem_shortEscapes (c : Char) : (c, 'u') ∉ shortEscapes := by
  intro h
  have hu : 'u' ∈ shortEscapes.map Prod.snd := List.mem_map_of_mem h
  exact absurd hu (by decide)

/-- No way to write a character is the beginning of another. -/
theorem Escaped.append_inj (h : Escaped c u) (h' : Escaped d v) (he : u ++ rest = v ++ rest') :
    c = d ∧ rest = rest' := by
  cases h with
  | short hc =>
    cases h' with
    | short hd =>
      obtain ⟨rfl, rfl⟩ : _ ∧ _ := by simpa using he
      exact ⟨eq_of_mem_shortEscapes hc hd, rfl⟩
    | plain hb hq hp => exact absurd (List.cons.inj he).1.symm hb
    | code =>
      obtain ⟨rfl, -⟩ := List.cons.inj (List.cons.inj he).2
      exact absurd hc (u_not_mem_shortEscapes c)
  | plain hb hq hp =>
    cases h' with
    | short hd => exact absurd (List.cons.inj he).1 hb
    | plain => exact List.cons.inj he
    | code => exact absurd (List.cons.inj he).1 hb
  | code =>
    cases h' with
    | short hd =>
      obtain ⟨rfl, -⟩ := List.cons.inj (List.cons.inj he).2
      exact absurd hd (u_not_mem_shortEscapes d)
    | plain hb hq hp => exact absurd (List.cons.inj he).1.symm hb
    | code => exact eq_of_escapeCode_append he

theorem Escaped.ne_nil (h : Escaped c u) : u ≠ [] := by
  cases h <;> exact List.cons_ne_nil _ _

theorem flatMap_escape_inj (h : cs.flatMap (escape '"') = ds.flatMap (escape '"')) : cs = ds := by
  induction cs generalizing ds with
  | nil =>
    cases ds with
    | nil => rfl
    | cons d ds =>
      have hd := (escaped_escape d).ne_nil
      rw [List.flatMap_cons] at h
      exact absurd (List.append_eq_nil_iff.mp h.symm).1 hd
  | cons c cs ih =>
    cases ds with
    | nil =>
      have hc := (escaped_escape c).ne_nil
      rw [List.flatMap_cons] at h
      exact absurd (List.append_eq_nil_iff.mp h).1 hc
    | cons d ds =>
      rw [List.flatMap_cons, List.flatMap_cons] at h
      obtain ⟨rfl, hrest⟩ := (escaped_escape c).append_inj (escaped_escape d) h
      rw [ih hrest]

theorem quote_inj (h : quote '"' cs = quote '"' ds) : cs = ds := by
  rw [quote, quote, List.cons_append, List.cons_append, List.cons.injEq] at h
  exact flatMap_escape_inj (List.append_cancel_right h.2)

theorem Escaped.not_isControl (h : Escaped c u) : ∀ d ∈ u, isControl d = false := by
  cases h with
  | short hc =>
    have hall : shortEscapes.all (fun e => !isControl e.2) = true := by decide
    have hsecond := List.all_eq_true.mp hall _ hc
    intro d hd
    rcases List.mem_cons.mp hd with rfl | hd
    · rfl
    · rw [List.mem_singleton.mp hd]
      simpa using hsecond
  | plain hb hq hp =>
    intro d hd
    rw [List.mem_singleton.mp hd]
    exact not_isControl_of_isPrintable hp
  | code =>
    have hall : codeChars.all (fun d => !isControl d) = true := by decide
    intro d hd
    simpa using List.all_eq_true.mp hall d (mem_codeChars_of_mem_escapeCode hd)

theorem not_isControl_quote (cs : List Char) : ∀ d ∈ quote '"' cs, isControl d = false := by
  intro d hd
  rw [quote, List.cons_append, List.mem_cons, List.mem_append, List.mem_flatMap,
    List.mem_singleton] at hd
  rcases hd with rfl | ⟨c, -, hd⟩ | rfl
  · rfl
  · exact (escaped_escape c).not_isControl d hd
  · rfl

/-- How many backslashes stand in a row at the end of a text. -/
def finalBackslashes (cs : List Char) : Nat := (cs.rtakeWhile (· = '\\')).length

theorem finalBackslashes_concat (cs : List Char) :
    finalBackslashes (cs ++ ['\\']) = finalBackslashes cs + 1 := by
  rw [finalBackslashes, List.rtakeWhile_concat_pos _ _ _ rfl, List.length_append]
  rfl

theorem finalBackslashes_concat_of_ne (hc : c ≠ '\\') (cs : List Char) :
    finalBackslashes (cs ++ [c]) = 0 := by
  rw [finalBackslashes, List.rtakeWhile_concat_neg _ _ _ (by simpa using hc)]
  rfl

/-- Backslashes come in pairs where no escape is left open. -/
theorem Escaped.even_finalBackslashes (h : Escaped c u) (hcs : Even (finalBackslashes cs)) :
    Even (finalBackslashes (cs ++ u)) := by
  have hother {d : Char} (hd : d ≠ '\\') (more : List Char) :
      Even (finalBackslashes (more ++ [d])) := by
    rw [finalBackslashes_concat_of_ne hd]
    exact Even.zero
  cases h with
  | @short d hc =>
    rw [List.append_cons]
    by_cases hd : d = '\\'
    · rw [hd, finalBackslashes_concat, finalBackslashes_concat]
      exact hcs.add even_two
    · exact hother hd _
  | plain hb hq hp => exact hother hb _
  | code =>
    rw [escapeCode, ← List.append_assoc]
    exact hother (by decide) _

theorem even_finalBackslashes_flatMap (hcs : Even (finalBackslashes cs)) :
    Even (finalBackslashes (cs ++ ds.flatMap (escape '"'))) := by
  induction ds generalizing cs with
  | nil => rwa [List.flatMap_nil, List.append_nil]
  | cons d ds ih =>
    rw [List.flatMap_cons, ← List.append_assoc]
    exact ih ((escaped_escape d).even_finalBackslashes hcs)

/-- A quote in an escape comes behind one more backslash. -/
theorem Escaped.odd_finalBackslashes (h : Escaped c u) (hcs : Even (finalBackslashes cs))
    (hk : u[k]? = some '"') : Odd (finalBackslashes (cs ++ u.take k)) := by
  cases h with
  | short hc =>
    cases k with
    | zero => simp at hk
    | succ k =>
      cases k with
      | zero =>
        rw [List.take_succ_cons, List.take_zero, finalBackslashes_concat]
        exact hcs.add_one
      | succ k => simp at hk
  | plain hb hq hp =>
    cases k with
    | zero => exact absurd (Option.some.inj hk) hq
    | succ k => simp at hk
  | code =>
    have hquote := mem_codeChars_of_mem_escapeCode (List.mem_of_getElem? hk)
    exact absurd hquote (by decide)

theorem odd_finalBackslashes_flatMap (hcs : Even (finalBackslashes cs))
    (hk : (ds.flatMap (escape '"'))[k]? = some '"') :
    Odd (finalBackslashes (cs ++ (ds.flatMap (escape '"')).take k)) := by
  induction ds generalizing cs k with
  | nil => cases hk
  | cons d ds ih =>
    rw [List.flatMap_cons] at hk ⊢
    by_cases hlt : k < (escape '"' d).length
    · rw [List.getElem?_append_left hlt] at hk
      rw [List.take_append_of_le_length (Nat.le_of_lt hlt)]
      exact (escaped_escape d).odd_finalBackslashes hcs hk
    · obtain ⟨j, rfl⟩ := Nat.exists_eq_add_of_le (Nat.le_of_not_lt hlt)
      rw [List.getElem?_append_right (Nat.le_add_right _ _), Nat.add_sub_cancel_left] at hk
      rw [List.take_length_add_append, ← List.append_assoc]
      exact ih ((escaped_escape d).even_finalBackslashes hcs) hk

/-- The text has one double quote at `first` that delimits, and another at its end. Every other quote
comes behind an odd number of backslashes, and these two do not. -/
structure Delimited (cs : List Char) (first : Nat) : Prop where
  opens : cs[first]? = some '"'
  closes : cs.getLast? = some '"'
  lt : first + 1 < cs.length
  odd_iff : ∀ k, cs[k]? = some '"' →
    (Odd (finalBackslashes (cs.take k)) ↔ k ≠ first ∧ k + 1 ≠ cs.length)

theorem delimited_quote {label : List Char} (hlabel : '"' ∉ label)
    (hb : finalBackslashes label = 0) (ds : List Char) :
    Delimited (label ++ quote '"' ds) label.length := by
  have hquote : label ++ quote '"' ds =
      (label ++ ['"']) ++ (ds.flatMap (escape '"') ++ ['"']) := by
    simp [quote]
  have hopened : Even (finalBackslashes (label ++ ['"'])) := by
    rw [finalBackslashes_concat_of_ne (by decide)]
    exact Even.zero
  apply Delimited.mk
  · simp [quote]
  · rw [hquote, ← List.append_assoc, List.getLast?_concat]
  · simp [quote]
  · intro k hk
    rcases Nat.lt_trichotomy k label.length with hlt | rfl | hgt
    · rw [List.getElem?_append_left hlt] at hk
      exact absurd (List.mem_of_getElem? hk) hlabel
    · rw [List.take_left, hb]
      simp
    · obtain ⟨j, rfl⟩ : ∃ j, k = (label ++ ['"']).length + j := by
        rw [List.length_append, List.length_singleton]
        exact Nat.exists_eq_add_of_le hgt
      rw [hquote] at hk ⊢
      rw [List.getElem?_append_right (Nat.le_add_right _ _), Nat.add_sub_cancel_left] at hk
      rw [List.take_length_add_append]
      have hfirst : (label ++ ['"']).length + j ≠ label.length := Nat.ne_of_gt hgt
      rcases Nat.lt_trichotomy j (ds.flatMap (escape '"')).length with hlt | rfl | hgt
      · rw [List.getElem?_append_left hlt] at hk
        rw [List.take_append_of_le_length (Nat.le_of_lt hlt)]
        apply iff_of_true (odd_finalBackslashes_flatMap hopened hk)
        refine ⟨hfirst, ?_⟩
        simp only [List.length_append, List.length_singleton]
        omega
      · rw [List.take_left]
        apply iff_of_false (Nat.not_odd_iff_even.mpr (even_finalBackslashes_flatMap hopened))
        simp only [List.length_append, List.length_singleton]
        omega
      · rw [List.getElem?_eq_none (by rw [List.length_append, List.length_singleton]; omega)] at hk
        cases hk

end Text

namespace Cause

def label : Cause → String
  | illegalCharacter _ => "illegal character: "
  | invalidNumber _ => "error parsing number: "

theorem text_eq (c : Cause) : c.text = c.label ++ Text.quoteString c.details := by
  cases c <;> rfl

theorem toList_text (c : Cause) :
    c.text.toList = c.label.toList ++ Text.quote '"' c.details.toList := by
  rw [text_eq, String.toList_append, Text.quoteString, String.toList_ofList]

theorem label_class (c : Cause) :
    '"' ∉ c.label.toList ∧ Text.finalBackslashes c.label.toList = 0 ∧
      c.label.toList.all (fun d => !Text.isControl d) = true := by
  cases c with
  | illegalCharacter s =>
    rw [label]
    decide +kernel
  | invalidNumber s =>
    rw [label]
    decide +kernel

theorem label_append_ne (s t : String) (u v : List Char) :
    (illegalCharacter s).label.toList ++ u ≠ (invalidNumber t).label.toList ++ v := by
  have hi : (illegalCharacter s).label.toList = 'i' :: "llegal character: ".toList := by
    rw [label]
    decide +kernel
  have he : (invalidNumber t).label.toList = 'e' :: "rror parsing number: ".toList := by
    rw [label]
    decide +kernel
  rw [hi, he, List.cons_append, List.cons_append]
  intro h
  exact absurd (List.cons.inj h).1 (by decide)

theorem text_inj {c c' : Cause} : c.text = c'.text ↔ c = c' := by
  apply Iff.intro
  · intro h
    have htext := congrArg String.toList h
    rw [toList_text, toList_text] at htext
    cases c with
    | illegalCharacter s =>
      cases c' with
      | illegalCharacter t =>
        have hs : s.toList = t.toList := Text.quote_inj (List.append_cancel_left htext)
        rw [String.toList_inj.mp hs]
      | invalidNumber t => exact absurd htext (label_append_ne s t _ _)
    | invalidNumber s =>
      cases c' with
      | illegalCharacter t => exact absurd htext.symm (label_append_ne t s _ _)
      | invalidNumber t =>
        have hs : s.toList = t.toList := Text.quote_inj (List.append_cancel_left htext)
        rw [String.toList_inj.mp hs]
  · intro h
    rw [h]

/-- The text of a cause is a line without control characters, and ends in a quotation whose end is
told from the quotes in it by the backslashes before them. It tells the cause, down to the text at
fault, and is the text of what an error comes from. -/
theorem text_unambiguous (c : Cause) :
    (∀ d ∈ c.text.toList, Text.isControl d = false) ∧
    (∃ first, Text.Delimited c.text.toList first) ∧
    (∀ c' : Cause, c.text = c'.text ↔ c = c') ∧
    ∀ start stop, (Error.mk c start stop).source?.map text = some c.text := by
  obtain ⟨hquote, hbackslashes, hcontrol⟩ := c.label_class
  refine ⟨?_, ?_, fun c' => text_inj, fun start stop => rfl⟩
  · rw [toList_text]
    intro d hd
    rcases List.mem_append.mp hd with hd | hd
    · simpa using List.all_eq_true.mp hcontrol d hd
    · exact Text.not_isControl_quote _ d hd
  · rw [toList_text]
    exact ⟨_, Text.delimited_quote hquote hbackslashes _⟩

end Cause

end FormulaLexer
