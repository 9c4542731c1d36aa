import Mathlib.Data.Nat.Find
import Mathlib.Logic.Function.Iterate
import PathQuery.Proofs.Token.Tiling

/-! The lexer left to itself. Without a bound on its steps it still ends: a mode hands over only to
one that makes a token, and every token but the last takes at least one character. -/
namespace PathQuery.Lexer
open Token Scan

/-- The lexer after so many steps in a text. The look for a pattern behind `=~` is a step of its
own, and once the lexer has ended, further steps change nothing. -/
def after (text : String) (n : Nat) : Machine :=
  Machine.markedStep^[n] { cursor := { rest := text.toList } }

theorem after_succ (text : String) (n : Nat) :
    after text (n + 1) = (after text n).markedStep :=
  Function.iterate_succ_apply' _ _ _

/-- The steps are those in the visible part of the text, with the rest of it behind the cursor. -/
theorem after_eq_run (text : String) :
    ∃ hidden, ∀ n, after text n = ((start text).run n).before hidden := by
  obtain ⟨hidden, hh, htext⟩ := exists_hidden text
  refine ⟨hidden, fun n => ?_⟩
  induction n with
  | zero =>
    rw [after, htext]
    rfl
  | succ n ih =>
    have hsound := Machine.run_sound (start_sound text) n
    rw [after_succ, ih, Machine.markedStep_before hh hsound, Machine.run_succ_eq_step]

section
variable (text : String) (n : Nat)

theorem mode_after : (after text n).mode = ((start text).run n).mode := by
  obtain ⟨hidden, h⟩ := after_eq_run text
  rw [h]
  rfl

theorem tokens_after : (after text n).tokens = ((start text).run n).tokens := by
  obtain ⟨hidden, h⟩ := after_eq_run text
  rw [h]
  rfl

theorem parens_after : (after text n).parens = ((start text).run n).parens := by
  obtain ⟨hidden, h⟩ := after_eq_run text
  rw [h]
  rfl

end

theorem visible_length_le (text : String) : (visible text).length ≤ text.length :=
  (List.takeWhile_sublist _).length_le.trans_eq String.length_toList

/-! How many tokens there are -/

namespace Machine
variable {m : Machine} {n : Nat}

/-- Of `n` characters each token has taken one, except for the last token. -/
def Frugal (m : Machine) (n : Nat) : Prop :=
  m.tokens.length + m.cursor.rest.length ≤ n + if m.mode.isFinal then 1 else 0

theorem step_frugal (hs : m.Sound) (h : m.Frugal n) : m.step.Frugal n := by
  cases hf : m.mode.isFinal with
  | true =>
    have hstep : m.step = m := if_pos hf
    rwa [hstep]
  | false =>
    have ha := hs.action_sound hf
    have hskip : m.cursor.skipBlank.rest.length ≤ m.cursor.rest.length := by
      rw [Cursor.rest_skipBlank]
      exact (List.dropWhile_sublist _).length_le
    simp only [Frugal, hf, Bool.false_eq_true, if_false] at h
    rw [step_eq_obey hf]
    generalize haction : m.mode.action m.parens m.cursor.skipBlank.position
      m.cursor.skipBlank.rest = action at ha
    cases action with
    | emit kind length next parens =>
      obtain ⟨-, -, hdone | ⟨hlength, htext⟩⟩ := ha
      · simp only [Frugal, obey, hdone, Mode.isFinal, if_true, List.length_cons,
          Cursor.rest_advance, List.length_drop]
        omega
      · simp only [Frugal, obey, List.length_cons, Cursor.rest_advance, List.length_drop]
        omega
    | handOver next =>
      simp only [Frugal, obey]
      omega
    | fail cause length =>
      simp only [Frugal, obey, Mode.isFinal, if_true, List.length_cons]
      omega

theorem run_frugal (hs : m.Sound) (h : m.Frugal n) (fuel : Nat) : (m.run fuel).Frugal n := by
  induction fuel generalizing m with
  | zero => exact h
  | succ fuel ih =>
    rw [run_succ]
    exact ih (step_sound hs) (step_frugal hs h)

end Machine

theorem tokenize_length_le (text : String) : (tokenize text).length ≤ text.length + 1 := by
  have hstart : (start text).Frugal (visible text).length := by
    simp [Machine.Frugal, start]
  have h := Machine.run_frugal (start_sound text) hstart (2 * (visible text).length + 2)
  have hvisible := visible_length_le text
  rw [Machine.Frugal, if_pos (start_run_isFinal text)] at h
  rw [tokenize_eq_run, List.length_reverse]
  omega

theorem lt_of_mem_dropLast_tokenize (text : String) :
    ∀ t ∈ (tokenize text).dropLast, t.start < t.stop := by
  have h := (Machine.run_tiles (start_tiles text) (2 * (visible text).length + 2)).closes
  rw [Machine.Closes, if_pos (start_run_isFinal text)] at h
  obtain ⟨last, older, htokens, -, hinner, -⟩ := h
  rw [tokenize_eq_run, htokens, List.reverse_cons, List.dropLast_concat]
  intro t ht
  exact (hinner t (List.mem_reverse.1 ht)).2

/-- In every text of `n` characters the lexer ends, after `2 * n + 2` steps at most, and has then
made the tokens of the text. These are at most `n + 1`, and all but the last have a span. -/
theorem ends_within (text : String) :
    ∃ k ≤ 2 * text.length + 2,
      (∀ j, (after text j).mode.isFinal = true ↔ k ≤ j) ∧
      (∀ j, k ≤ j → tokenize text = (after text j).tokens.reverse) ∧
      (tokenize text).length ≤ text.length + 1 ∧
      ∀ t ∈ (tokenize text).dropLast, t.start < t.stop := by
  have hfinal := start_run_isFinal text
  have hvisible := visible_length_le text
  -- The least number of steps after which the lexer has ended.
  have hex : ∃ k, ((start text).run k).mode.isFinal = true := ⟨_, hfinal⟩
  have hend := Nat.find_spec hex
  have hleast := Nat.find_min' hex hfinal
  have hstays : ∀ j, Nat.find hex ≤ j → ((start text).run j).mode.isFinal = true := by
    intro j hj
    rw [Machine.run_of_le hend hj]
    exact hend
  refine ⟨Nat.find hex, by omega, fun j => ?_, fun j hj => ?_, tokenize_length_le text,
    lt_of_mem_dropLast_tokenize text⟩
  · rw [mode_after]
    exact ⟨fun hj => Nat.find_min' hex hj, hstays j⟩
  · rw [tokens_after]
    exact tokenize_of_isFinal (hstays j hj)

/-- Behind `@` the lexer looks for a segment and hands over, so that six tokens take seven steps. -/
theorem ends_within_filter :
    (after "$[?@]" 6).mode.isFinal = false ∧ (after "$[?@]" 7).mode.isFinal = true ∧
    tokenize "$[?@]" = (after "$[?@]" 7).tokens.reverse ∧ (tokenize "$[?@]").length ≤ 6 := by
  obtain ⟨k, -, hfinal, htokens, hlength, -⟩ := ends_within "$[?@]"
  have hmode : (after "$[?@]" 7).mode.isFinal = true := by decide
  exact ⟨by decide, hmode, htokens 7 ((hfinal 7).1 hmode), hlength⟩

end PathQuery.Lexer
