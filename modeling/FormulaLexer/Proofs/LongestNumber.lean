import FormulaLexer.PartialNumber
import FormulaLexer.Proofs.Tracking

namespace FormulaLexer

variable {text rest : List Char} {ch : Char}

/-- `text` is the longest number with which `cs` begins. -/
structure IsLongestNumber (cs text : List Char) : Prop where
  isNumber : IsNumber text
  begins : text <+: cs
  longest : ∀ other, IsNumber other → other <+: cs → other <+: text

/-- Without a point a number is an integer with its exact value, and with one a float with the
binary64 value that the digits on both sides of the point are rounded to. -/
structure IsNumberToken (text : List Char) (t : Token) : Prop where
  integer : '.' ∉ text → t = ⟨.integer, some (.integer (decimalValue text))⟩
  float : ∀ whole fraction, text = whole ++ '.' :: fraction →
    t = ⟨.float, some (.float
      (Decimal.mk (decimalValue (whole ++ fraction)) (-fraction.length)).toBinary64)⟩

/-- From `p` up to `q` the source has the longest number that begins at `p`, of which `t` is the
token. What follows it, if anything, is no digit, and is a point only if the number has one. -/
structure NumberBetween (source : String) (p q : Nat) (t : Token) : Prop where
  lt : p < q
  le_length : q ≤ source.length
  longest : IsLongestNumber (source.toList.drop p) (source.toList.extract p q)
  token : IsNumberToken (source.toList.extract p q) t
  ends : ∀ ch, source.toList[q]? = some ch →
    ch.isDigit = false ∧ (ch = '.' → '.' ∈ source.toList.extract p q)

namespace IsNumber

theorem concat_digit (h : IsNumber text) (hd : ch.isDigit = true) : IsNumber (text ++ [ch]) := by
  have hone : ∀ c ∈ [ch], c.isDigit = true := List.forall_mem_singleton.mpr hd
  cases h with
  | integer hne hi => exact .integer (by simp) (List.forall_mem_append.mpr ⟨hi, hone⟩)
  | float hne hw hf =>
    rw [List.append_assoc, List.cons_append]
    exact .float hne hw (List.forall_mem_append.mpr ⟨hf, hone⟩)

theorem concat_point (h : IsNumber text) (hp : '.' ∉ text) : IsNumber (text ++ ['.']) := by
  cases h with
  | integer hne hd => exact .float hne hd nofun
  | float => simp at hp

/-- A number that ends where it stands is the longest: a longer one would have to go on with the
character that ends it. -/
theorem isLongest (h : IsNumber text) (he : Ends text rest) :
    IsLongestNumber (text ++ rest) text := by
  apply IsLongestNumber.mk h (List.prefix_append text rest)
  intro other ho hother
  rcases List.prefix_or_prefix_of_prefix hother (List.prefix_append text rest) with hle | hle
  · exact hle
  · obtain ⟨more, rfl⟩ := hle
    cases more with
    | nil => simp
    | cons d ds =>
      obtain ⟨tail, rfl⟩ := (List.prefix_append_right_inj text).mp hother
      obtain ⟨hdigit, hpoint⟩ := he d rfl
      rcases ho.digit_or_point with hd | ⟨hd, -, hall⟩
      · exact absurd hd (Bool.eq_false_iff.mp hdigit)
      · exact absurd (hpoint hd) (point_not_mem hall)

theorem exists_token (h : IsNumber text) :
    ∃ value, Literal.read? text = some value ∧ IsNumberToken text (.ofLiteral value) := by
  cases h with
  | integer hne hd =>
    refine ⟨_, read?_integer hne hd, fun _ => rfl, ?_⟩
    intro whole fraction he
    exact absurd (he ▸ List.mem_append_right _ List.mem_cons_self) (point_not_mem hd)
  | @float whole fraction hne hw hf =>
    refine ⟨_, read?_float hne hw hf, ?_, ?_⟩
    · intro hp
      exact absurd (List.mem_append_right _ List.mem_cons_self) hp
    · intro whole' fraction' he
      have hn : IsNumber (whole' ++ '.' :: fraction') := he ▸ .float hne hw hf
      have hw' : '.' ∉ whole' := by
        rcases hn.digit_or_point with hd | ⟨-, -, hall⟩
        · cases hd
        · exact point_not_mem hall
      obtain ⟨rfl, rfl⟩ := Text.append_cons_inj_of_not_mem (point_not_mem hw) hw' he
      rfl

end IsNumber

namespace PartialNumber

variable {c : Cursor} {n n' : PartialNumber} {d : Char}

/-- What is taken stands at `c`; its points are counted, and the cursor is behind it. -/
structure TakenFrom (c : Cursor) (n : PartialNumber) : Prop where
  rest : c.rest = n.text ++ n.cursor.rest
  points : n.points = n.text.count '.'
  cursor : n.cursor = c.skip n.text.length

structure Reads (c : Cursor) (n : PartialNumber) : Prop extends TakenFrom c n where
  isNumber : IsNumber n.text

theorem takenFrom_start (c : Cursor) : TakenFrom c (start c) := ⟨rfl, rfl, rfl⟩

theorem TakenFrom.points_eq_zero_iff (h : TakenFrom c n) : n.points = 0 ↔ '.' ∉ n.text := by
  rw [h.points, List.count_eq_zero]

theorem TakenFrom.push (h : TakenFrom c n) (hch : n.cursor.current? = some ch) :
    TakenFrom c (n.push ch) := by
  obtain ⟨cs, hcs⟩ := List.head?_eq_some_iff.mp hch
  apply TakenFrom.mk
  · rw [h.rest]
    simp only [PartialNumber.push, Cursor.rest_advance, hcs, List.tail_cons, List.append_assoc,
      List.singleton_append]
  · simp only [PartialNumber.push, List.count_append, List.count_singleton, h.points, beq_iff_eq]
    split <;> rfl
  · simp only [PartialNumber.push, h.cursor, List.length_append, List.length_singleton,
      Cursor.skip_succ]

theorem Reads.step (h : Reads c n) (hs : n.step? = some n') : Reads c n' := by
  obtain ⟨ch, hch, hcont, rfl⟩ := step?_eq_some_iff.mp hs
  apply Reads.mk (h.push hch)
  rcases hcont with hd | ⟨rfl, hp⟩
  · exact h.isNumber.concat_digit hd
  · exact h.isNumber.concat_point (h.points_eq_zero_iff.mp hp)

theorem Reads.complete (h : Reads c n) : Reads c n.complete := by
  fun_induction PartialNumber.complete n with
  | case1 n n' hs ih => exact ih (h.step hs)
  | case2 n hs => exact h

theorem step?_complete (n : PartialNumber) : n.complete.step? = none := by
  fun_induction complete n with
  | case1 n n' hs ih => exact ih
  | case2 n hs => exact hs

theorem Reads.ends (h : Reads c n) (hs : n.step? = none) : Ends n.text n.cursor.rest := by
  intro ch hch
  obtain ⟨hd, hp⟩ := not_or.mp (step?_eq_none_iff.mp hs ch hch)
  apply And.intro (Bool.eq_false_iff.mpr hd)
  intro he
  apply Decidable.byContradiction
  intro hnot
  exact hp ⟨he, h.points_eq_zero_iff.mpr hnot⟩

theorem reads_complete_start (hc : c.current? = some d) (hd : d.isDigit = true) :
    Reads c (start c).complete := by
  have hone : IsNumber ((start c).push d).text :=
    .integer (List.cons_ne_nil _ _) (List.forall_mem_singleton.mpr hd)
  rw [complete_of_step? (step?_start hc hd)]
  exact (Reads.mk ((takenFrom_start c).push hc) hone).complete

end PartialNumber

namespace Cursor

open Lexeme

variable {c : Cursor} {source file : String} {p : Nat} {d : Char}

theorem exists_takeNumber (hc : c.current? = some d) (hd : d.isDigit = true) :
    ∃ text rest, c.rest = text ++ rest ∧ IsNumber text ∧ Ends text rest ∧
      c.takeNumber = c.readNumber text := by
  have h := PartialNumber.reads_complete_start hc hd
  refine ⟨_, _, h.rest, h.isNumber, h.ends (PartialNumber.step?_complete _), ?_⟩
  rw [takeNumber, readNumber, ← h.cursor]

theorem scan_append {l : Lexeme} (hv : l.Valid) (ha : l.Apart rest)
    (hr : c.rest = l.chars ++ rest) :
    c.scan = c.scanLexemes (l :: split (c.skip l.chars.length).rest) := by
  rw [scan, rest_skip, hr, split_append hv ha, List.drop_left]

theorem readNumber_eq {value : Literal} (c : Cursor) (hv : Literal.read? text = some value) :
    c.readNumber text = (some (.ofLiteral value), c.skip text.length) := by
  rw [readNumber, hv]
  rfl

theorem scan_number {value : Literal} (hr : c.rest = text ++ rest) (h : IsNumber text)
    (he : Ends text rest) (hv : Literal.read? text = some value) :
    c.scan = (c.skip text.length).scan.emit (c.skip text.length).position.offset
      (.ofLiteral value) := by
  rw [scan_append (l := .number text) h he hr]
  simp only [scanLexemes, readNumber_eq c hv]
  rfl

/-- Looking at one character at a time comes to the same as dividing the text first. -/
theorem scanChars_eq_scan (c : Cursor) : c.scanChars = c.scan := by
  fun_induction scanChars c with
  | case1 c hc =>
    rw [scan, List.head?_eq_none_iff.mp hc, split, scanLexemes]
  | case2 c ch hc hb ih =>
    obtain ⟨cs, hcs⟩ := List.head?_eq_some_iff.mp hc
    rw [ih, scan_append (l := .blank ch) hb trivial hcs]
    rfl
  | case3 c ch hc hb hd token after ht ih =>
    obtain ⟨text, rest, hr, hn, he, htake⟩ := exists_takeNumber hc hd
    obtain ⟨value, hv⟩ := hn.exists_read?
    have hread := readNumber_eq c hv
    obtain ⟨htoken, rfl⟩ := Prod.mk.inj (hread.symm.trans (htake.symm.trans ht))
    obtain rfl := Option.some.inj htoken
    rw [ih, scan_number hr hn he hv]
  | case4 c ch hc hb hd after ht =>
    obtain ⟨text, rest, hr, hn, he, htake⟩ := exists_takeNumber hc hd
    obtain ⟨value, hv⟩ := hn.exists_read?
    cases (readNumber_eq c hv).symm.trans (htake.symm.trans ht)
  | case5 c ch hc hb hd kind ho ih =>
    obtain ⟨cs, hcs⟩ := List.head?_eq_some_iff.mp hc
    rw [ih, scan_append (l := .operator ch kind) ho trivial hcs]
    rfl
  | case6 c ch hc hb hd ho =>
    obtain ⟨cs, hcs⟩ := List.head?_eq_some_iff.mp hc
    have hv : (Lexeme.stray ch).Valid := ⟨Bool.eq_false_iff.mpr hb, Bool.eq_false_iff.mpr hd, ho⟩
    rw [scan_append hv trivial hcs, scanLexemes]

theorem Tracks.skip_of_rest (h : c.Tracks source file p) (hr : c.rest = text ++ rest) :
    (c.skip text.length).Tracks source file (p + text.length) := by
  apply h.skip
  rw [hr, List.length_append]
  exact Nat.le_add_right _ _

theorem Tracks.numberBetween {t : Token} (h : c.Tracks source file p)
    (hr : c.rest = text ++ rest) (hn : IsNumber text) (he : Ends text rest)
    (ht : IsNumberToken text t) : NumberBetween source p (p + text.length) t := by
  obtain ⟨hextract, hdrop⟩ := h.extract_of_rest hr
  have hpos := List.length_pos_iff.mpr hn.ne_nil
  apply NumberBetween.mk (Nat.lt_add_of_pos_right hpos) (h.skip_of_rest hr).le
  · rw [hextract, ← h.rest, hr]
    exact hn.isLongest he
  · rw [hextract]
    exact ht
  · intro ch hch
    rw [hextract]
    apply he ch
    rw [← hdrop, List.head?_drop]
    exact hch

theorem position_skip_number (hr : c.rest = text ++ rest) (hn : IsNumber text) :
    (c.skip text.length).position = { c.position with
      offset := c.position.offset + text.length, column := c.position.column + text.length } := by
  apply position_skip_of_newline_not_mem
  rw [hr, List.take_left]
  exact hn.not_mem rfl (by decide)

/-- Wherever a lexer stands at a digit, the number is taken up to the place where the longest one
ends: it becomes a token, and the lexer goes on from there, in the same line. Looking for the end of
the number at once comes to the same as taking it character by character. -/
theorem Tracks.takeNumber_longest (h : c.Tracks source file p) (hc : c.current? = some d)
    (hd : d.isDigit = true) :
    ∃ (q : Nat) (t : Token) (after : Cursor), NumberBetween source p q t ∧
      c.takeNumber = (some t, after) ∧
      c.readNumber (numberText c.rest) = (some t, after) ∧
      c.scan = after.scan.emit q t ∧
      after.Tracks source file q ∧
      after.position.line = c.position.line ∧
      after.position.column = c.position.column + (q - p) := by
  obtain ⟨text, rest, hr, hn, he, htake⟩ := exists_takeNumber hc hd
  obtain ⟨value, hv, htoken⟩ := hn.exists_token
  have hread := readNumber_eq c hv
  have hnumber : numberText c.rest = text := hr ▸ hn.numberText_append he
  have hafter := h.skip_of_rest hr
  have hscan := scan_number hr hn he hv
  have hposition := position_skip_number hr hn
  refine ⟨p + text.length, .ofLiteral value, c.skip text.length, h.numberBetween hr hn he htoken,
    htake.trans hread, ?_, ?_, hafter, ?_, ?_⟩
  · rw [hnumber]
    exact hread
  · rw [← hafter.offset]
    exact hscan
  · rw [hposition]
  · rw [hposition]
    simp only [Int.natCast_add]
    omega

/-- In the second line, at a number that a second point ends. -/
def atTwoPoints : Cursor :=
  ⟨['3', '1', '.', '4', '0', '.', '2'], ⟨2, 1, 1, "<stdin>", "\n-31.40.2"⟩⟩

theorem takeNumber_longest_two_points :
    Session.Passes "\n-31.40.2" none atTwoPoints ∧
      atTwoPoints.Tracks "\n-31.40.2" "<stdin>" 2 ∧ atTwoPoints.current? = some '3' ∧
      ('3').isDigit = true ∧
      NumberBetween "\n-31.40.2" 2 7 ⟨.float, some (.float (Decimal.mk 3140 (-2)).toBinary64)⟩ ∧
      atTwoPoints.takeNumber = (some ⟨.float, some (.float (Decimal.mk 3140 (-2)).toBinary64)⟩,
        ⟨['.', '2'], ⟨7, 1, 6, "<stdin>", "\n-31.40.2"⟩⟩) := by
  have hpasses : Session.Passes "\n-31.40.2" none atTwoPoints :=
    ⟨_, 1, 7, .run .start, by decide +kernel, by decide, by decide +kernel⟩
  have hread : atTwoPoints.readNumber (numberText atTwoPoints.rest) =
      (some ⟨.float, some (.float (Decimal.mk 3140 (-2)).toBinary64)⟩,
        ⟨['.', '2'], ⟨7, 1, 6, "<stdin>", "\n-31.40.2"⟩⟩) := by
    decide +kernel
  obtain ⟨k, htracks⟩ := hpasses.exists_tracks
  obtain rfl : 2 = k := Int.ofNat.inj htracks.offset
  obtain ⟨q, t, after, hnumber, htake, he, -, hafter, -⟩ :=
    htracks.takeNumber_longest (d := '3') rfl rfl
  obtain ⟨ht, rfl⟩ := Prod.mk.inj (he.symm.trans hread)
  obtain rfl := Option.some.inj ht
  obtain rfl : 7 = q := Int.ofNat.inj hafter.offset
  exact ⟨hpasses, htracks, rfl, rfl, hnumber, htake⟩

end Cursor

end FormulaLexer
