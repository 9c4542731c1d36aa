import Mathlib.Data.List.DropRight
import PathQuery.Proofs.Token.Shape

/-! The lexer step by step: every step keeps its tokens in shape and comes closer to the end, so a
run that is long enough ends with the last token. -/
namespace PathQuery
open Token

namespace Lexer
open Scan

/-- Whether a segment begins here. -/
def opensSegment (text : List Char) : Bool := text.head? = some '.' || text.head? = some '['

theorem opensSegment_eq_false {text : List Char} (hdot : ∀ more, text ≠ '.' :: more)
    (hbracket : ∀ more, text ≠ '[' :: more) : opensSegment text = false := by
  cases text with
  | nil => rfl
  | cons c rest =>
    simp only [opensSegment, List.head?_cons, Option.some.injEq, Bool.or_eq_false_iff,
      decide_eq_false_iff_not]
    constructor
    · rintro rfl
      exact hdot rest rfl
    · rintro rfl
      exact hbracket rest rfl

/-- What an action does in a mode: tokens are in shape and use up text unless they end the query,
and a mode that hands over is not handed back to. -/
def Action.Sound (mode : Mode) (text : List Char) : Action → Prop
  | .emit kind length next _ =>
    kind.Shaped ∧ next ≠ .failed ∧ (next = .done ∨ 0 < length ∧ 0 < text.length)
  | .handOver next =>
    mode = .segment ∧ next = .filter ∧ opensSegment text = false ∨
      mode = .filter ∧ next = .segment ∧ opensSegment text = true
  | .fail .. => True

section
variable {mode next : Mode} {parens : List Nat} {here : Position} {text : List Char}

/-- A token of a fixed length is sound if it has a shape. -/
theorem Action.Sound.token {kind : Kind} {c : Char} {length : Nat} (hk : kind.Shaped)
    (hn : next ≠ .failed) :
    (Action.emit kind (length + 1) next parens).Sound mode (c :: text) := by
  refine ⟨hk, hn, .inr ?_⟩
  constructor
  · omega
  · simp

theorem stringToken_sound {quote : Quote} {c : Char} (hn : next ≠ .failed) :
    (stringToken next parens here (c :: text) quote).Sound mode (c :: text) := by
  unfold stringToken ofResult
  split
  next length hl =>
    have := string_length hl
    exact ⟨trivial, hn, .inr ⟨by omega, by simp⟩⟩
  · trivial

theorem numberToken_sound (hc : beginsNumber text) (hn : next ≠ .failed) :
    (numberToken next parens text).Sound mode text := by
  unfold numberToken ofResult
  split
  next r hr =>
    obtain ⟨length, isFloat⟩ := r
    obtain ⟨a, hle, hw, hf⟩ := whole_of_number hr
    have hpos := whole_pos hw hc
    have htext : 0 < text.length := by
      obtain ⟨c, hc, -⟩ := hc
      exact List.length_pos_iff.2 fun hnil => by simp [hnil] at hc
    refine ⟨?_, hn, .inr ⟨by omega, htext⟩⟩
    cases isFloat with
    | true => trivial
    | false =>
      have : length = a := by simpa using hf
      show Numeral.Whole (lexeme text length).toList
      rw [lexeme, String.toList_ofList, this]
      exact whole_shaped hw hc
  · trivial

theorem regexToken_sound {c : Char} (h0 : '\x00' ∉ c :: text) :
    (regexToken parens here (c :: text)).Sound mode (c :: text) := by
  unfold regexToken ofResult
  split
  next length hl =>
    obtain ⟨hle, hs⟩ := regex_slashless hl
    refine ⟨⟨?_, ?_, ?_⟩, nofun, .inr ⟨by omega, by simp⟩⟩
    · simpa [lexeme] using hs
    · simp only [lexeme, String.toList_ofList]
      intro hm
      exact h0 (List.mem_of_mem_drop (List.mem_of_mem_take hm))
    · simp only [String.toList_ofList]
      intro c hm
      exact List.mem_takeWhile_imp hm
  · trivial

theorem wordKind_shaped (word : String) (call : Bool) : (wordKind word call).Shaped := by
  unfold wordKind
  split
  case h_7 => split <;> trivial
  all_goals trivial

theorem nameLength_pos (h : isNameFirst (peek text) = true) :
    0 < nameLength text ∧ 0 < text.length := by
  cases text with
  | nil => exact absurd h (by decide)
  | cons c rest =>
    have hc : isNameChar c = true := by
      simp only [isNameChar, Bool.or_eq_true]
      exact .inl h
    simp [nameLength, hc]

theorem rootAction_sound : (rootAction parens text).Sound mode text := by
  unfold rootAction
  split
  · exact .token trivial nofun
  · trivial

theorem segmentAction_sound : (segmentAction parens text).Sound .segment text := by
  unfold segmentAction
  split
  case h_4 hdot hbracket hother =>
    split
    · exact .inl ⟨rfl, rfl, opensSegment_eq_false hbracket hother⟩
    · split
      · exact ⟨trivial, nofun, .inl rfl⟩
      · trivial
  all_goals exact .token trivial nofun

theorem descendantAction_sound : (descendantAction parens text).Sound mode text := by
  unfold descendantAction
  split
  case h_3 =>
    split
    next hn => exact ⟨trivial, nofun, .inr (nameLength_pos hn)⟩
    · trivial
  all_goals exact .token trivial nofun

theorem shorthandAction_sound : (shorthandAction parens text).Sound mode text := by
  unfold shorthandAction
  split
  · exact .token trivial nofun
  · dsimp only
    split
    next hn => split <;> exact ⟨trivial, nofun, .inr (nameLength_pos hn)⟩
    · trivial

theorem bracketsAction_sound : (bracketsAction parens here text).Sound mode text := by
  unfold bracketsAction
  split
  case h_1 => trivial
  case h_9 | h_10 => exact stringToken_sound nofun
  case h_11 c rest _ _ _ _ _ _ _ _ _ =>
    dsimp only
    split
    next hc => exact numberToken_sound ⟨c, rfl, hc⟩ nofun
    · split
      next hn =>
        split
        · exact ⟨trivial, nofun, .inr (nameLength_pos hn)⟩
        · trivial
      · trivial
  all_goals exact .token trivial nofun

theorem argumentsAction_sound : (argumentsAction parens here text).Sound mode text := by
  unfold argumentsAction
  split
  case h_1 => trivial
  case h_5 | h_6 => exact stringToken_sound nofun
  case h_7 c rest _ _ _ _ _ =>
    split
    next hc => exact numberToken_sound ⟨c, rfl, hc⟩ nofun
    · trivial
  all_goals exact .token trivial nofun

theorem filterAction_sound : (filterAction parens here text).Sound .filter text := by
  unfold filterAction
  split
  case h_1 | h_21 | h_23 => trivial
  case h_2 | h_4 => split <;> first | trivial | exact .token trivial nofun
  case h_5 | h_6 => exact stringToken_sound nofun
  case h_9 | h_10 => exact .inr ⟨rfl, rfl, rfl⟩
  case h_24 c rest _ _ _ _ _ _ _ _ _ _ _ _ _ _ _ _ _ _ _ _ _ _ =>
    dsimp only
    split
    next hc => exact numberToken_sound ⟨c, rfl, hc⟩ nofun
    · split
      next hn => exact ⟨wordKind_shaped _ _, nofun, .inr (nameLength_pos hn)⟩
      · trivial
  all_goals exact .token trivial nofun

theorem regexAction_sound (h0 : '\x00' ∉ text) :
    (regexAction parens here text).Sound mode text := by
  unfold regexAction
  split
  · exact regexToken_sound h0
  · trivial

theorem Mode.action_sound (hf : mode.isFinal = false) (h0 : '\x00' ∉ text) :
    (mode.action parens here text).Sound mode text := by
  cases mode with
  | root => exact rootAction_sound
  | segment => exact segmentAction_sound
  | descendant => exact descendantAction_sound
  | shorthand => exact shorthandAction_sound
  | brackets => exact bracketsAction_sound
  | arguments => exact argumentsAction_sound
  | filter => exact filterAction_sound
  | regex => exact regexAction_sound h0
  | done => simp [isFinal] at hf
  | failed => simp [isFinal] at hf

end

namespace Cursor

theorem rest_advance (c : Cursor) (n : Nat) : (c.advance n).rest = c.rest.drop n := by
  induction n generalizing c with
  | zero => rfl
  | succ n ih =>
    show (c.next.advance n).rest = _
    rw [ih]
    unfold Cursor.next
    split
    next h => simp [h]
    next h => simp [h]

@[simp] theorem rest_skipBlank (c : Cursor) : c.skipBlank.rest = c.rest.dropWhile isBlank := by
  have h := List.takeWhile_append_dropWhile (p := isBlank) (l := c.rest)
  rw [skipBlank, rest_advance]
  calc c.rest.drop (c.rest.takeWhile isBlank).length
      = (c.rest.takeWhile isBlank ++ c.rest.dropWhile isBlank).drop
          (c.rest.takeWhile isBlank).length := by rw [h]
    _ = c.rest.dropWhile isBlank := List.drop_left

end Cursor

namespace Machine
variable {m : Machine} {a b : Nat}

/-- What the lexer keeps to at every step. -/
structure Sound (m : Machine) : Prop where
  shaped : Shaped m.tokens
  visible : '\x00' ∉ m.cursor.rest
  failed : m.mode = .failed → ∃ t ts cause, m.tokens = t :: ts ∧ t.kind = .invalid cause

theorem Sound.skipBlank_visible (h : m.Sound) : '\x00' ∉ m.cursor.skipBlank.rest := by
  rw [Cursor.rest_skipBlank]
  intro hm
  exact h.visible ((List.dropWhile_sublist _).mem hm)

theorem Sound.action_sound (h : m.Sound) (hf : m.mode.isFinal = false) :
    (m.mode.action m.parens m.cursor.skipBlank.position m.cursor.skipBlank.rest).Sound m.mode
      m.cursor.skipBlank.rest :=
  Mode.action_sound hf h.skipBlank_visible

theorem step_sound (h : m.Sound) : m.step.Sound := by
  unfold step
  split
  · exact h
  next hf =>
    have hskip := h.skipBlank_visible
    have ha := h.action_sound (Bool.eq_false_iff.2 hf)
    dsimp only
    split
    next hk =>
      rw [hk] at ha
      refine ⟨.cons ha.1 h.shaped, ?_, fun hfail => absurd hfail ha.2.1⟩
      rw [Cursor.rest_advance]
      intro hm
      exact hskip (List.mem_of_mem_drop hm)
    next hk =>
      rw [hk] at ha
      refine ⟨h.shaped, hskip, ?_⟩
      intro hfail
      rcases ha with ⟨-, rfl, -⟩ | ⟨-, rfl, -⟩ <;> simp at hfail
    · exact ⟨.cons trivial h.shaped, hskip, fun _ => ⟨_, _, _, rfl, rfl⟩⟩

theorem run_sound (h : m.Sound) (fuel : Nat) : (m.run fuel).Sound := by
  induction fuel generalizing m with
  | zero => exact h
  | succ fuel ih =>
    unfold run
    split
    · exact h
    · exact ih (step_sound h)

theorem run_of_isFinal (h : m.mode.isFinal = true) (fuel : Nat) : m.run fuel = m := by
  cases fuel with
  | zero => rfl
  | succ fuel => simp [run, h]

theorem run_succ (m : Machine) (fuel : Nat) : m.run (fuel + 1) = m.step.run fuel := by
  cases h : m.mode.isFinal with
  | false => simp [run, h]
  | true =>
    have hstep : m.step = m := by simp [step, h]
    rw [hstep, run_of_isFinal h, run_of_isFinal h]

theorem run_add (m : Machine) (a b : Nat) : m.run (a + b) = (m.run a).run b := by
  induction a generalizing m with
  | zero => simp [run]
  | succ a ih => rw [Nat.add_right_comm, run_succ, run_succ, ih]

theorem run_succ_eq_step (m : Machine) (fuel : Nat) : m.run (fuel + 1) = (m.run fuel).step := by
  rw [run_add, run_succ]
  rfl

/-- A run that has ended stays as it is. -/
theorem run_of_le (ha : (m.run a).mode.isFinal = true) (h : a ≤ b) : m.run b = m.run a := by
  obtain ⟨k, rfl⟩ := Nat.exists_eq_add_of_le h
  rw [run_add, run_of_isFinal ha]

theorem run_eq_of_isFinal (ha : (m.run a).mode.isFinal = true)
    (hb : (m.run b).mode.isFinal = true) : m.run a = m.run b := by
  rcases Nat.le_total a b with h | h
  · exact (run_of_le ha h).symm
  · exact run_of_le hb h

/-- Two for a mode that hands over to another here, one for the others. -/
def weight (mode : Mode) (text : List Char) : Nat :=
  match mode with
  | .segment => if opensSegment text then 1 else 2
  | .filter => if opensSegment text then 2 else 1
  | _ => 1

theorem weight_le (mode : Mode) (text : List Char) :
    1 ≤ weight mode text ∧ weight mode text ≤ 2 := by
  unfold weight
  split
  · split <;> decide
  · split <;> decide
  · decide

/-- How many steps are left at most. -/
def stepsLeft (m : Machine) : Nat :=
  if m.mode.isFinal then 0
  else
    let text := m.cursor.rest.dropWhile isBlank
    2 * text.length + weight m.mode text

theorem stepsLeft_le (m : Machine) : m.stepsLeft ≤ 2 * m.cursor.rest.length + 2 := by
  have := (weight_le m.mode (m.cursor.rest.dropWhile isBlank)).2
  have := (List.dropWhile_sublist isBlank (l := m.cursor.rest)).length_le
  unfold stepsLeft
  split
  · omega
  · dsimp only
    omega

theorem stepsLeft_step (h : m.Sound) (hf : m.mode.isFinal = false) :
    m.step.stepsLeft < m.stepsLeft := by
  have ha := h.action_sound hf
  have hw := (weight_le m.mode (m.cursor.rest.dropWhile isBlank)).1
  have hleft : m.stepsLeft = 2 * (m.cursor.rest.dropWhile isBlank).length +
      weight m.mode (m.cursor.rest.dropWhile isBlank) := by
    simp [stepsLeft, hf]
  rw [hleft]
  unfold step
  rw [if_neg (by simp [hf])]
  dsimp only
  split
  next kind length next parens hk =>
    rw [hk] at ha
    rcases ha with ⟨-, -, rfl | ⟨hpos, htext⟩⟩
    · simp [stepsLeft, Mode.isFinal]
      omega
    · apply Nat.lt_of_le_of_lt (stepsLeft_le _)
      simp only [Cursor.rest_skipBlank, Cursor.rest_advance, List.length_drop] at htext ⊢
      omega
  next next hk =>
    rw [hk] at ha
    rw [Cursor.rest_skipBlank] at ha
    have hsame : (m.cursor.rest.dropWhile isBlank).dropWhile isBlank =
        m.cursor.rest.dropWhile isBlank := List.dropWhile_idempotent _ _
    rcases ha with ⟨hm, rfl, ho⟩ | ⟨hm, rfl, ho⟩
    · simp [stepsLeft, Mode.isFinal, weight, hm, ho, hsame]
    · simp [stepsLeft, Mode.isFinal, weight, hm, ho, hsame]
  · simp [stepsLeft, Mode.isFinal]
    omega

theorem run_isFinal (h : m.Sound) {fuel : Nat} (hle : m.stepsLeft ≤ fuel) :
    (m.run fuel).mode.isFinal = true := by
  induction fuel generalizing m with
  | zero =>
    cases hf : m.mode.isFinal with
    | true => exact hf
    | false =>
      have := stepsLeft_step h hf
      omega
  | succ fuel ih =>
    rw [run_succ]
    cases hf : m.mode.isFinal with
    | true =>
      have hstep : m.step = m := by simp [step, hf]
      rw [hstep, run_of_isFinal hf]
      exact hf
    | false =>
      have := stepsLeft_step h hf
      exact ih (step_sound h) (by omega)

end Machine

theorem nul_notMem_visible (text : String) : '\x00' ∉ visible text := by
  intro h
  simpa using List.mem_takeWhile_imp h

theorem visible_eq_toList {text : String} (h : '\x00' ∉ text.toList) :
    visible text = text.toList :=
  List.takeWhile_eq_self_iff.2 fun c hc => by simpa using fun h0 : c = '\x00' => h (h0 ▸ hc)

theorem start_sound (text : String) : (start text).Sound :=
  ⟨by simp [Shaped, start], nul_notMem_visible text, nofun⟩

/-- The lexer ends within its bound. -/
theorem start_run_isFinal (text : String) :
    ((start text).run (2 * (visible text).length + 2)).mode.isFinal = true :=
  Machine.run_isFinal (start_sound text) (Machine.stepsLeft_le _)

end Lexer

end PathQuery
