import FormulaLexer.Proofs.Rendering
import FormulaLexer.Proofs.Tracking

namespace FormulaLexer

open Lexeme

structure Record where
  level : Level
  message : String
  fields : List (String × Field)

def Event.record (e : Event) : Record := ⟨e.level, e.message, e.fields⟩

/-- A token, and the characters from `start` up to `stop` that it is read from. -/
structure Reading where
  start : Nat
  stop : Nat
  token : Token
deriving DecidableEq

instance (t : Token) : Decidable t.IsNumber :=
  inferInstanceAs (Decidable (t.kind = .integer ∨ t.kind = .float))

namespace Reading

/-- The offset reported of a token: where a number ends, but where an operator begins. -/
def offset (r : Reading) : Nat := if r.token.IsNumber then r.stop else r.start

def record (r : Reading) : Record :=
  ⟨.trace, "emitted token", [("offset", .number r.offset), ("token", .text r.token.text)]⟩

/-- The token is that of a lexeme which stands there in the source. -/
def StandsIn (source : String) (r : Reading) : Prop :=
  ∃ (u v : List Char) (l : Lexeme), source.toList = u ++ l.chars ++ v ∧ u.length = r.start ∧
    r.stop = r.start + l.chars.length ∧ l.Valid ∧ l.token? = some r.token

/-- One token is read before the other, and reported at no greater offset. Only an operator that
follows a number directly is reported at the same offset. -/
structure Before (a b : Reading) : Prop where
  stop_le : a.stop ≤ b.start
  offset_le : a.offset ≤ b.offset
  offset_eq_iff : a.offset = b.offset ↔
    a.token.IsNumber ∧ ¬ b.token.IsNumber ∧ a.stop = b.start

variable {r a b : Reading}

theorem start_le_offset (h : r.start < r.stop) : r.start ≤ r.offset := by
  rw [offset]
  split <;> omega

theorem offset_le_stop (h : r.start < r.stop) : r.offset ≤ r.stop := by
  rw [offset]
  split <;> omega

theorem offset_eq_stop_iff (h : r.start < r.stop) :
    r.offset = r.stop ↔ r.token.IsNumber := by
  by_cases hn : r.token.IsNumber
  · exact iff_of_true (if_pos hn) hn
  · have ho : r.offset = r.start := if_neg hn
    exact iff_of_false (ho ▸ Nat.ne_of_lt h) hn

theorem offset_eq_start_iff (h : r.start < r.stop) :
    r.offset = r.start ↔ ¬ r.token.IsNumber := by
  by_cases hn : r.token.IsNumber
  · have ho : r.offset = r.stop := if_pos hn
    exact iff_of_false (ho ▸ Nat.ne_of_gt h) (not_not.mpr hn)
  · exact iff_of_true (if_neg hn) hn

theorem before_of_stop_le (ha : a.start < a.stop) (hb : b.start < b.stop)
    (h : a.stop ≤ b.start) : a.Before b := by
  have hla := offset_le_stop ha
  have hlb := start_le_offset hb
  apply Before.mk h (by omega)
  rw [← offset_eq_stop_iff ha, ← offset_eq_start_iff hb]
  omega

theorem StandsIn.start_lt_stop {source : String} (h : r.StandsIn source) :
    r.start < r.stop := by
  obtain ⟨u, v, l, -, -, hstop, hv, -⟩ := h
  have hpos := List.length_pos_iff.mpr hv.chars_ne_nil
  omega

end Reading

namespace Lexeme

variable {l : Lexeme} {ls : List Lexeme} {r : Reading} {k : Nat}

/-- The tokens of lexemes laid end to end from offset `k` on, each with its place. -/
def readings (k : Nat) : List Lexeme → List Reading
  | [] => []
  | l :: ls =>
    (l.token?.map fun t => ⟨k, k + l.chars.length, t⟩).toList ++ readings (k + l.chars.length) ls

theorem map_token_readings (k : Nat) (ls : List Lexeme) :
    (readings k ls).map Reading.token = ls.filterMap token? := by
  induction ls generalizing k with
  | nil => rfl
  | cons l ls ih =>
    rw [readings, List.map_append, ih]
    cases ht : l.token? with
    | none => rw [List.filterMap_cons_none ht]; rfl
    | some t => rw [List.filterMap_cons_some ht]; rfl

theorem exists_append_of_mem_readings (h : r ∈ readings k ls) :
    ∃ before l after, ls = before ++ l :: after ∧
      r.start = k + (before.flatMap chars).length ∧ r.stop = r.start + l.chars.length ∧
      l.token? = some r.token := by
  induction ls generalizing k with
  | nil => cases h
  | cons l ls ih =>
    rcases List.mem_append.mp h with h | h
    · obtain ⟨t, ht, rfl⟩ := Option.map_eq_some_iff.mp (Option.mem_toList.mp h)
      exact ⟨[], l, ls, rfl, rfl, rfl, ht⟩
    · obtain ⟨before, l', after, rfl, hstart, hstop, ht⟩ := ih h
      refine ⟨l :: before, l', after, rfl, ?_, hstop, ht⟩
      rw [hstart, List.flatMap_cons, List.length_append, Nat.add_assoc]

theorem pairwise_readings (k : Nat) (ls : List Lexeme) :
    (readings k ls).Pairwise fun a b => a.stop ≤ b.start := by
  induction ls generalizing k with
  | nil => exact .nil
  | cons l ls ih =>
    apply List.pairwise_append.mpr
    refine ⟨?_, ih _, ?_⟩
    · cases l.token? with
      | none => exact .nil
      | some t => exact List.pairwise_singleton _ _
    · intro a ha b hb
      obtain ⟨t, -, rfl⟩ := Option.map_eq_some_iff.mp (Option.mem_toList.mp ha)
      obtain ⟨before, l', after, -, hstart, -⟩ := exists_append_of_mem_readings hb
      rw [hstart]
      exact Nat.le_add_right _ _

end Lexeme

namespace Cursor

variable {c : Cursor} {l : Lexeme} {ls : List Lexeme} {k : Nat}

theorem emission?_eq (hv : l.Valid) (hk : c.position.offset = k) :
    c.emission? l = l.token?.map fun t =>
      ⟨(⟨k, k + l.chars.length, t⟩ : Reading).offset, t⟩ := by
  cases l with
  | blank ch => rfl
  | stray ch => rfl
  | operator ch kind =>
    have hn := Token.not_isNumber_ofOperator (operator?_eq_some_iff.mp hv)
    simp only [emission?, token?, Option.map_some, Reading.offset, if_neg hn, hk]
  | number text =>
    obtain ⟨value, hr⟩ := IsNumber.exists_read? hv
    have hn := Token.isNumber_ofLiteral value
    simp only [emission?, token?, readNumber, hr, Option.map_some, Reading.offset, if_pos hn,
      offset_skip, hk]
    rfl

theorem emissions_eq (hv : ∀ l ∈ ls, l.Valid) (hk : c.position.offset = k) :
    c.emissions ls = (readings k ls).map fun r => ⟨r.offset, r.token⟩ := by
  induction ls generalizing c k with
  | nil => rfl
  | cons l ls ih =>
    obtain ⟨hl, hv⟩ := List.forall_mem_cons.mp hv
    have hk' : (c.skip l.chars.length).position.offset = (k + l.chars.length : Nat) := by
      rw [offset_skip, hk, Int.natCast_add]
    rw [emissions, readings, List.map_append, ih hv hk', emission?_eq hl hk]
    cases l.token? with
    | none => rfl
    | some t => rfl

end Cursor

/-- The tokens of the characters of a source from `p` up to `q`, with their places in the source:
they are those of the lexemes between `p` and `q`, laid end to end. -/
structure ReadBetween (source : String) (p q : Nat) (rs : List Reading) : Prop where
  le : p ≤ q
  le_length : q ≤ source.length
  tokens : ∀ file?, tokenize (String.ofList (source.toList.extract p q)) file? =
    .ok (rs.map Reading.token)
  lexemes : rs = readings p (split (source.toList.extract p q))
  places : ∀ r ∈ rs, p ≤ r.start ∧ r.stop ≤ q ∧ r.StandsIn source
  ordered : rs.Pairwise Reading.Before

theorem exists_append_extract {cs : List Char} {p q : Nat} (hpq : p ≤ q) (hq : q ≤ cs.length) :
    ∃ u v, cs = u ++ cs.extract p q ++ v ∧ u.length = p ∧ (cs.extract p q).length = q - p := by
  refine ⟨cs.take p, (cs.drop p).drop (q - p), ?_, ?_, ?_⟩
  · rw [List.append_assoc, List.extract_eq_take_drop, List.take_append_drop,
      List.take_append_drop]
  · rw [List.length_take, Nat.min_eq_left (hpq.trans hq)]
  · rw [List.extract_eq_take_drop, List.length_take, List.length_drop]
    omega

theorem readBetween_of_clean {source : String} {p q : Nat} (hpq : p ≤ q)
    (hq : q ≤ source.length) (hc : Clean (split (source.toList.extract p q))) :
    ReadBetween source p q (readings p (split (source.toList.extract p q))) := by
  have hplaces : ∀ r ∈ readings p (split (source.toList.extract p q)),
      p ≤ r.start ∧ r.stop ≤ q ∧ r.StandsIn source := by
    intro r hr
    obtain ⟨before, l, after, hs, hstart, hstop, ht⟩ := exists_append_of_mem_readings hr
    obtain ⟨u, v, hsource, hu, hlen⟩ :=
      exists_append_extract hpq (String.length_toList ▸ hq : q ≤ source.toList.length)
    have hd : Division (before ++ l :: after) := hs ▸ division_split (source.toList.extract p q)
    have htext : source.toList.extract p q =
        before.flatMap chars ++ l.chars ++ after.flatMap chars := by
      rw [← flatMap_chars_split (source.toList.extract p q), hs, List.flatMap_append,
        List.flatMap_cons, List.append_assoc]
    rw [htext] at hsource hlen
    simp only [List.length_append] at hlen
    refine ⟨by omega, by omega, u ++ before.flatMap chars, after.flatMap chars ++ v, l, ?_, ?_,
      hstop, hd.valid_of_append, ht⟩
    · rw [hsource]
      simp only [List.append_assoc]
    · rw [List.length_append, hu, hstart]
  apply ReadBetween.mk hpq hq _ rfl hplaces
  · apply (pairwise_readings p _).imp_of_mem
    intro a b ha hb hab
    obtain ⟨-, -, ha⟩ := hplaces a ha
    obtain ⟨-, -, hb⟩ := hplaces b hb
    exact Reading.before_of_stop_le ha.start_lt_stop hb.start_lt_stop hab
  · intro file?
    rw [map_token_readings]
    have hl : (String.ofList (source.toList.extract p q)).toList = source.toList.extract p q :=
      String.toList_ofList
    rw [tokenize_of_clean file? (hl.symm ▸ hc), hl]

namespace Cursor

variable {source : String} {file? : Option String} {p : Nat}

theorem records_of_clean (hc : Clean (split ((start source file?).skip p).rest)) :
    ((start source file?).skip p).run.events.map Event.record =
      ⟨.debug, "tokenizing",
          [("file", .text (file?.getD defaultFile)), ("chars", .number source.length)]⟩ ::
        (readings p (split ((start source file?).skip p).rest)).map Reading.record ++
          [⟨.debug, "tokenized", [("file", .text (file?.getD defaultFile)),
            ("count", .number
              (readings p (split ((start source file?).skip p).rest)).length)]⟩] := by
  have hv := (division_split ((start source file?).skip p).rest).valid
  rw [events_of_clean hc, emissions_eq hv (offset_skip_start source file? p), skip_skip,
    position_skip_start, position_skip_start, List.map_map, List.length_map, List.map_append,
    List.map_cons, List.map_map]
  rfl

theorem records_of_stray {before after : List Lexeme} {ch : Char} {q : Nat}
    (hs : split ((start source file?).skip p).rest = before ++ .stray ch :: after)
    (hc : Clean before) (hq : p + (before.flatMap chars).length = q) :
    ((start source file?).skip p).run.events.map Event.record =
      ⟨.debug, "tokenizing",
          [("file", .text (file?.getD defaultFile)), ("chars", .number source.length)]⟩ ::
        (readings p before).map Reading.record ++
          [⟨.debug, "illegal character, aborting", [("file", .text (file?.getD defaultFile)),
            ("line", .number (Position.after source (file?.getD defaultFile) q).lineNumber),
            ("column", .number (Position.after source (file?.getD defaultFile) q).column),
            ("character", .text (Text.quoteChar ch))]⟩] := by
  have hd : Division (before ++ .stray ch :: after) := hs ▸ division_split _
  have hv := hd.of_append_left.valid
  rw [events_of_stray hs hc, emissions_eq hv (offset_skip_start source file? p), skip_skip, hq,
    position_skip_start, position_skip_start, List.map_map, List.map_append, List.map_cons,
    List.map_map]
  rfl

end Cursor

namespace Session

variable {s : Session} {source : String} {file? : Option String}

/-- A run tells that it begins, with the length of the whole source; then each token that it reads;
then, if it comes to the end, how many tokens it returns, and otherwise the place and the character
at which it fails. The tokens told are those returned or, when the run fails, those of the text up
to the fault. -/
theorem Reachable.run_trace (h : Reachable source file? s) :
    ∃ (p q : Nat) (rs : List Reading) (closing : Record),
      s.cursor.position.offset = p ∧ ReadBetween source p q rs ∧
      s.cursor.run.events.map Event.record =
        ⟨.debug, "tokenizing",
            [("file", .text (file?.getD defaultFile)), ("chars", .number source.length)]⟩ ::
          rs.map Reading.record ++ [closing] ∧
      (∀ tokens, s.cursor.run.result = .ok tokens →
        q = source.length ∧ tokens = rs.map Reading.token ∧
          closing = ⟨.debug, "tokenized",
            [("file", .text (file?.getD defaultFile)), ("count", .number tokens.length)]⟩) ∧
      ∀ e, s.cursor.run.result = .error e →
        e.start.offset = q ∧ ∃ ch, source.toList[q]? = some ch ∧
          e.cause = .illegalCharacter (String.singleton ch) ∧
          closing = ⟨.debug, "illegal character, aborting",
            [("file", .text (file?.getD defaultFile)), ("line", .number e.start.lineNumber),
              ("column", .number e.start.column), ("character", .text (Text.quoteChar ch))]⟩ := by
  obtain ⟨p, hp, hcursor⟩ := h.onText.1
  have hrest := Cursor.rest_skip_start source file? p
  rw [hcursor]
  rcases clean_or_stray (split ((Cursor.start source file?).skip p).rest) with
    hc | ⟨before, ch, after, hs, hc⟩
  · have hextract : source.toList.extract p source.length = source.toList.drop p := by
      rw [List.extract_eq_take_drop, List.take_of_length_le]
      rw [List.length_drop, String.length_toList]
    have hread := readBetween_of_clean hp (Nat.le_refl _) (by rwa [hextract, ← hrest])
    rw [hextract, ← hrest] at hread
    refine ⟨p, source.length, _, _, Cursor.offset_skip_start source file? p, hread,
      Cursor.records_of_clean hc, ?_, ?_⟩
    · intro tokens ht
      obtain rfl := Except.ok.inj ((Cursor.run_of_clean hc).1.symm.trans ht)
      rw [← map_token_readings p, List.length_map]
      exact ⟨rfl, rfl, rfl⟩
    · intro e he
      cases (Cursor.run_of_clean hc).1.symm.trans he
  · have hd : Division (before ++ .stray ch :: after) := hs ▸ division_split _
    have hextract : source.toList.extract p (p + (before.flatMap chars).length) =
        before.flatMap chars := by
      rw [List.extract_eq_take_drop, Nat.add_sub_cancel_left, ← hrest, take_of_stray hs]
    have hsplit : split (before.flatMap chars) = before := hd.of_append_left.split_flatMap
    have hch : source.toList[p + (before.flatMap chars).length]? = some ch := by
      rw [← List.getElem?_drop, ← hrest, getElem?_of_stray hs]
    have hq : p + (before.flatMap chars).length ≤ source.length := by
      rw [← String.length_toList]
      exact Nat.le_of_lt (List.getElem?_eq_some_iff.mp hch).1
    have hread := readBetween_of_clean (Nat.le_add_right p _) hq (by rwa [hextract, hsplit])
    rw [hextract, hsplit] at hread
    refine ⟨p, _, _, _, Cursor.offset_skip_start source file? p, hread,
      Cursor.records_of_stray hs hc rfl, ?_, ?_⟩
    · intro tokens ht
      cases (Cursor.run_of_stray hs hc).1.symm.trans ht
    · intro e he
      obtain rfl := Except.error.inj ((Cursor.run_of_stray hs hc).1.symm.trans he)
      rw [Cursor.skip_skip, Cursor.position_skip_start]
      exact ⟨rfl, ch, hch, rfl, rfl⟩

theorem run_trace_second_line :
    Reachable "1\n2+#" none (start "1\n2+#" none).run ∧
      (start "1\n2+#" none).run.cursor.run.events.map Event.record =
        [⟨.debug, "tokenizing", [("file", .text "<stdin>"), ("chars", .number 5)]⟩,
          ⟨.trace, "emitted token", [("offset", .number 3), ("token", .text "INT:2")]⟩,
          ⟨.trace, "emitted token", [("offset", .number 3), ("token", .text "PLUS")]⟩,
          ⟨.debug, "illegal character, aborting", [("file", .text "<stdin>"),
            ("line", .number 2), ("column", .number 2), ("character", .text "'#'")]⟩] := by
  have hr : Reachable "1\n2+#" none (start "1\n2+#" none).run := .run .start
  have ho : (start "1\n2+#" none).run.cursor.position.offset = 2 := by decide +kernel
  have he : (start "1\n2+#" none).run.cursor.run.result = .error ⟨.illegalCharacter "#",
      ⟨4, 1, 2, "<stdin>", "1\n2+#"⟩, ⟨5, 1, 3, "<stdin>", "1\n2+#"⟩⟩ := by
    decide +kernel
  obtain ⟨p, q, rs, closing, hp, hread, hevents, -, herror⟩ := hr.run_trace
  obtain ⟨hq, ch, hch, -, hclosing⟩ := herror _ he
  obtain rfl : p = 2 := Int.ofNat.inj (hp.symm.trans ho)
  obtain rfl : q = 4 := Int.ofNat.inj hq.symm
  obtain rfl : '#' = ch := Option.some.inj hch
  have hrs : rs = [⟨2, 3, .ofLiteral (.integer 2)⟩, ⟨3, 4, .ofOperator .plus⟩] :=
    hread.lexemes.trans (by decide +kernel)
  have hquote : Text.quoteChar '#' = "'#'" := by decide +kernel
  apply And.intro hr
  rw [hevents, hrs, hclosing, hquote]
  rfl

end Session

end FormulaLexer
