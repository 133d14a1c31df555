import FormulaLexer.Proofs.Tracking
import Mathlib.Data.Nat.Find
import Mathlib.Logic.Function.Iterate

namespace FormulaLexer

open Lexeme

namespace Cursor

variable {c : Cursor}

theorem rest_run_of_ok {tokens : List Token} (h : c.run.result = .ok tokens) :
    c.run.cursor.rest = [] := by
  rw [(run_of_clean (clean_of_run_ok h)).2, rest_skip, List.drop_length]

theorem run_of_rest_eq_nil (h : c.rest = []) : c.run.result = .ok [] ∧ c.run.cursor = c := by
  have hs : split c.rest = [] := by
    rw [h, split]
  have hc : Clean (split c.rest) := hs ▸ fun _ => List.not_mem_nil
  obtain ⟨hr, hcur⟩ := run_of_clean hc
  rw [hs] at hr
  rw [h] at hcur
  exact ⟨hr, hcur⟩

theorem offset_run_of_error {e : Error} (h : c.run.result = .error e) :
    c.position.offset ≤ e.start.offset ∧ c.run.cursor.position.offset = e.start.offset + 1 := by
  obtain ⟨before, ch, after, -, -, rfl, hcur⟩ := exists_stray_of_run_error h
  rw [hcur]
  simp only [offset_skip]
  omega

theorem offset_le_offset_run (c : Cursor) :
    c.position.offset ≤ c.run.cursor.position.offset := by
  obtain ⟨n, -, he⟩ := c.exists_run_cursor
  rw [he, offset_skip]
  omega

end Cursor

namespace Session

variable {s : Session} {c : Cursor} {source : String} {file? : Option String} {k : Nat}

def Fails (s : Session) : Prop := ∃ e, s.cursor.run.result = .error e

theorem OnText.exists_offset (h : OnText source file? c) :
    ∃ p : Nat, c.position.offset = p ∧ p ≤ source.length ∧ c.rest.length = source.length - p := by
  obtain ⟨p, hp, hpos, hrest⟩ := h.exists_rest
  rw [hrest, List.length_drop, String.length_toList]
  exact ⟨p, congrArg Position.offset hpos, hp, rfl⟩

theorem Reachable.iterate (h : Reachable source file? s) (k : Nat) :
    Reachable source file? (Session.run^[k] s) := by
  induction k with
  | zero => exact h
  | succ k ih =>
    rw [Function.iterate_succ_apply']
    exact ih.run

theorem cursor_iterate_succ (s : Session) (k : Nat) :
    (run^[k + 1] s).cursor = (run^[k] s).cursor.run.cursor := by
  rw [Function.iterate_succ_apply']
  rfl

theorem offset_iterate_le (s : Session) {i j : Nat} (h : i ≤ j) :
    (run^[i] s).cursor.position.offset ≤ (run^[j] s).cursor.position.offset := by
  induction h with
  | refl => exact Int.le_refl _
  | @step j h ih =>
    rw [cursor_iterate_succ]
    exact Int.le_trans ih (run^[j] s).cursor.offset_le_offset_run

theorem start_offset_lt {i j : Nat} {e e' : Error} (hij : i < j)
    (hi : (run^[i] s).cursor.run.result = .error e)
    (hj : (run^[j] s).cursor.run.result = .error e') : e.start.offset < e'.start.offset := by
  have hmono := s.offset_iterate_le (Nat.succ_le_of_lt hij)
  have hstop := (Cursor.offset_run_of_error hi).2
  have hstart := (Cursor.offset_run_of_error hj).1
  rw [cursor_iterate_succ] at hmono
  omega

theorem add_le_offset (h : ∀ i < k, (run^[i] s).Fails) :
    s.cursor.position.offset + k ≤ (run^[k] s).cursor.position.offset := by
  induction k with
  | zero => exact Int.le_of_eq (Int.add_zero _)
  | succ k ih =>
    obtain ⟨e, he⟩ := h k (Nat.lt_succ_self k)
    have hk := ih fun i hi => h i (Nat.lt_succ_of_lt hi)
    obtain ⟨hstart, hstop⟩ := Cursor.offset_run_of_error he
    rw [cursor_iterate_succ, hstop]
    omega

theorem Reachable.exists_not_fails (h : Reachable source file? s) :
    ∃ k ≤ source.length, ¬ (Session.run^[k] s).Fails := by
  by_contra hn
  have hall : ∀ k < source.length + 1, (Session.run^[k] s).Fails := by
    intro k hk
    by_contra hf
    exact hn ⟨k, Nat.le_of_lt_succ hk, hf⟩
  obtain ⟨p, hp, -⟩ := h.onText.1.exists_offset
  obtain ⟨q, hq, hle, -⟩ := (h.iterate (source.length + 1)).onText.1.exists_offset
  have hadd := add_le_offset hall
  omega

theorem exists_ok_of_not_fails (h : ¬ s.Fails) : ∃ tokens, s.cursor.run.result = .ok tokens := by
  cases hr : s.cursor.run.result with
  | ok tokens => exact ⟨tokens, rfl⟩
  | error e => exact absurd ⟨e, hr⟩ h

/-- Once a run has succeeded there is nothing left for the later ones. -/
theorem rest_eq_nil_of_lt {m : Nat} (h : ¬ (run^[m] s).Fails) (hk : m < k) :
    (run^[k] s).cursor.rest = [] := by
  induction hk with
  | refl =>
    obtain ⟨tokens, hr⟩ := exists_ok_of_not_fails h
    rw [cursor_iterate_succ]
    exact Cursor.rest_run_of_ok hr
  | step hk ih => rw [cursor_iterate_succ, (Cursor.run_of_rest_eq_nil ih).2, ih]

theorem Reachable.run_moves (h : Reachable source file? s) :
    ∃ p q : Nat, s.cursor.position.offset = p ∧ s.run.cursor.position.offset = q ∧ p ≤ q ∧
      q ≤ source.length ∧ s.run.cursor = s.cursor.skip (q - p) ∧
      (∀ e, s.cursor.run.result = .error e → e.start.offset + 1 = q ∧ p < q) ∧
      ∀ tokens, s.cursor.run.result = .ok tokens → q = source.length := by
  obtain ⟨p, hp, -⟩ := h.onText.1.exists_offset
  obtain ⟨q, hq, hle, hlen⟩ := h.run.onText.1.exists_offset
  obtain ⟨n, -, hn⟩ := s.cursor.exists_run_cursor
  have hadd : s.run.cursor.position.offset = s.cursor.position.offset + n := by
    rw [Session.run, hn, Cursor.offset_skip]
  obtain rfl : q = p + n := by omega
  refine ⟨p, p + n, hp, hq, Nat.le_add_right p n, hle, ?_, ?_, ?_⟩
  · rw [Nat.add_sub_cancel_left]
    exact hn
  · intro e he
    obtain ⟨hstart, hstop⟩ := Cursor.offset_run_of_error he
    have hq : s.cursor.run.cursor.position.offset = (p + n : Nat) := hq
    omega
  · intro tokens hr
    have hrest : s.run.cursor.rest = [] := Cursor.rest_run_of_ok hr
    rw [hrest, List.length_nil] at hlen
    omega

/-- A run from anywhere in a source moves the lexer on, past the fault or to the end. Of all the
runs that follow each other the first ones fail, each behind the one before it and no more of them
than the source has characters; then one succeeds, and those after it find nothing and leave the
lexer as it is. -/
theorem Reachable.runs_settle (h : Reachable source file? s) :
    (∃ p q : Nat, s.cursor.position.offset = p ∧ s.run.cursor.position.offset = q ∧ p ≤ q ∧
      q ≤ source.length ∧ s.run.cursor = s.cursor.skip (q - p) ∧
      (∀ e, s.cursor.run.result = .error e → e.start.offset + 1 = q ∧ p < q) ∧
      ∀ tokens, s.cursor.run.result = .ok tokens → q = source.length) ∧
    (∀ i j e e', i < j → (Session.run^[i] s).cursor.run.result = .error e →
      (Session.run^[j] s).cursor.run.result = .error e' → e.start.offset < e'.start.offset) ∧
    ∃ m ≤ source.length, (∀ k, (Session.run^[k] s).Fails ↔ k < m) ∧
      ∀ k, m < k → (Session.run^[k] s).cursor.run.result = .ok [] ∧
        (Session.run^[k] s).run.cursor = (Session.run^[k] s).cursor := by
  classical
  refine ⟨h.run_moves, fun i j e e' => start_offset_lt, ?_⟩
  -- The first run that succeeds is the first not to fail.
  obtain ⟨n, hn, hsuccess⟩ := h.exists_not_fails
  have hex : ∃ k, ¬ (Session.run^[k] s).Fails := ⟨n, hsuccess⟩
  have hrest : ∀ k, Nat.find hex < k → (Session.run^[k] s).cursor.rest = [] :=
    fun k hk => rest_eq_nil_of_lt (Nat.find_spec hex) hk
  refine ⟨Nat.find hex, Nat.le_trans (Nat.find_min' hex hsuccess) hn, ?_, ?_⟩
  · intro k
    apply Iff.intro
    · intro hf
      by_contra hk
      rcases Nat.eq_or_lt_of_le (Nat.le_of_not_lt hk) with he | hlt
      · exact Nat.find_spec hex (he ▸ hf)
      · obtain ⟨e, he⟩ := hf
        cases (Cursor.run_of_rest_eq_nil (hrest k hlt)).1.symm.trans he
    · intro hk
      exact not_not.mp (Nat.find_min hex hk)
  · intro k hk
    exact Cursor.run_of_rest_eq_nil (hrest k hk)

theorem runs_settle_after_two_faults :
    Reachable "1\n#2" none (start "1\n#2" none) ∧
      (∀ k, (Session.run^[k] (start "1\n#2" none)).Fails ↔ k < 2) ∧
      ∀ k, 2 < k → (Session.run^[k] (start "1\n#2" none)).cursor.run.result = .ok [] ∧
        (Session.run^[k] (start "1\n#2" none)).run.cursor =
          (Session.run^[k] (start "1\n#2" none)).cursor := by
  have hr : Reachable "1\n#2" none (start "1\n#2" none) := .start
  obtain ⟨-, -, m, -, hm, hok⟩ := hr.runs_settle
  have hfails : (Session.run^[1] (start "1\n#2" none)).cursor.run.result = .error
      ⟨.illegalCharacter "#", ⟨2, 1, 0, "<stdin>", "1\n#2"⟩, ⟨3, 1, 1, "<stdin>", "1\n#2"⟩⟩ := by
    decide +kernel
  have hsuccess : (Session.run^[2] (start "1\n#2" none)).cursor.run.result =
      .ok [.ofLiteral (.integer 2)] := by
    decide +kernel
  have hlt : 1 < m := (hm 1).mp ⟨_, hfails⟩
  have hle : ¬ 2 < m := by
    intro h
    obtain ⟨e, he⟩ := (hm 2).mpr h
    cases hsuccess.symm.trans he
  obtain rfl : m = 2 := by omega
  exact ⟨hr, hm, hok⟩

end Session

end FormulaLexer
