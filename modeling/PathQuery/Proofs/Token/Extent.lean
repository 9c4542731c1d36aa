import PathQuery.Proofs.Number.Scanned
import PathQuery.Token.Lexer

/-! How far the lexer reads: scans and actions stay within their text, also where they fail. -/
namespace PathQuery

namespace Scan

/-- The length of a token, or how much was read where there is none. -/
def extent : Result → Nat
  | .ok length => length
  | .error (_, length) => length

theorem digits_le (text : List Char) : digits text ≤ text.length :=
  (List.takeWhile_sublist _).length_le

theorem signLength_le (text : List Char) : signLength text ≤ text.length := by
  unfold signLength
  split
  · simp
  · simp
  · omega

theorem extent_whole (text : List Char) : extent (whole text) ≤ text.length := by
  unfold whole
  split
  next rest =>
    have := digits_le rest
    split
    · simp [extent]
    · simpa [extent] using this
  · exact digits_le text

theorem extent_fraction (text : List Char) : extent (fraction text) ≤ text.length := by
  unfold fraction
  split
  next rest =>
    have := digits_le rest
    split
    · simp [extent]
    · simpa [extent] using this
  · simp [extent]

theorem extent_exponent (text : List Char) : extent (exponent text) ≤ text.length := by
  cases text with
  | nil => simp [exponent, extent]
  | cons c text =>
    by_cases hc : c = 'e' ∨ c = 'E'
    · have hsign := signLength_le text
      have hdigits := digits_le (text.drop (signLength text))
      rw [List.length_drop] at hdigits
      rw [exponent_cons hc]
      split
      · simpa [extent] using hsign
      · simp only [extent, List.length_cons]
        omega
    · rw [not_or] at hc
      simp [exponent, hc, extent]

theorem extent_onward {scan : List Char → Result} {text : List Char} {length : Nat}
    (hscan : ∀ text, extent (scan text) ≤ text.length) (h : length ≤ text.length) :
    extent (onward length (scan (text.drop length))) ≤ text.length := by
  have hle := hscan (text.drop length)
  rw [List.length_drop] at hle
  unfold onward
  split
  next more hs =>
    simp only [hs, extent] at hle ⊢
    omega
  next cause more hs =>
    simp only [hs, extent] at hle ⊢
    omega

theorem extent_number (text : List Char) :
    extent ((number text).map Prod.fst) ≤ text.length := by
  have hwhole := extent_whole text
  simp only [number, bind, Except.bind]
  cases hw : whole text with
  | error e =>
    rw [hw] at hwhole
    exact hwhole
  | ok a =>
    rw [hw] at hwhole
    have hfraction := extent_onward extent_fraction hwhole
    dsimp only [extent] at hfraction ⊢
    cases hf : onward a (fraction (text.drop a)) with
    | error e =>
      rw [hf] at hfraction
      exact hfraction
    | ok b =>
      rw [hf] at hfraction
      have hexponent := extent_onward extent_exponent hfraction
      dsimp only [extent] at hexponent ⊢
      cases he : onward b (exponent (text.drop b)) with
      | error e =>
        rw [he] at hexponent
        exact hexponent
      | ok c =>
        rw [he] at hexponent
        exact hexponent

theorem extent_string (quote : Char) (opened : Position) (read : Nat) (text : List Char) :
    extent (string quote opened read text) ≤ read + text.length := by
  fun_induction string quote opened read text with
  | case1 | case3 | case4 | case5 =>
    simp only [extent, List.length_cons, List.length_nil]
    omega
  | case2 | case6 =>
    rename_i ih
    simp only [List.length_cons]
    omega

theorem extent_regex (opened : Position) (read : Nat) (text : List Char) :
    extent (regex opened read text) ≤ read + text.length := by
  fun_induction regex opened read text with
  | case1 | case2 | case4 =>
    simp only [extent, List.length_cons, List.length_nil]
    omega
  | case3 | case5 =>
    rename_i ih
    simp only [List.length_cons]
    omega

end Scan

namespace Lexer
open Token Scan

/-- How much of the text an action takes. -/
def Action.extent : Action → Nat
  | .emit _ length _ _ => length
  | .handOver _ => 0
  | .fail _ length => length

section
variable {mode next : Mode} {parens : List Nat} {here : Position} {text : List Char} {c : Char}

theorem ofResult_extent {emit : Nat → Action} (hemit : ∀ length, (emit length).extent = length)
    (r : Result) : (ofResult r emit).extent = Scan.extent r := by
  cases r with
  | ok length => exact hemit length
  | error e => rfl

theorem stringToken_extent {quote : Quote} :
    (stringToken next parens here (c :: text) quote).extent ≤ (c :: text).length := by
  have hle := extent_string quote.char here 1 text
  rw [stringToken, ofResult_extent fun _ => rfl, List.length_cons]
  simp only [List.drop_succ_cons, List.drop_zero]
  omega

theorem numberToken_extent : (numberToken next parens text).extent ≤ text.length := by
  have hle := extent_number text
  unfold numberToken ofResult
  split
  next r hr =>
    rw [hr] at hle
    exact hle
  next cause length hr =>
    rw [hr] at hle
    exact hle

theorem regexToken_extent : (regexToken parens here (c :: text)).extent ≤ (c :: text).length := by
  have hle := extent_regex here 1 text
  unfold regexToken ofResult
  simp only [List.drop_succ_cons, List.drop_zero]
  split
  next length hr =>
    rw [hr] at hle
    have hflags := ((c :: text).drop length).takeWhile_sublist isFlag |>.length_le
    simp only [Scan.extent, Action.extent, List.length_drop, List.length_cons] at hle hflags ⊢
    omega
  next cause length hr =>
    rw [hr] at hle
    simp only [Scan.extent, Action.extent, List.length_cons] at hle ⊢
    omega

theorem nameLength_le (text : List Char) : nameLength text ≤ text.length :=
  (List.takeWhile_sublist _).length_le

theorem rootAction_extent : (rootAction parens text).extent ≤ text.length := by
  unfold rootAction
  split <;> simp [Action.extent]

theorem segmentAction_extent : (segmentAction parens text).extent ≤ text.length := by
  unfold segmentAction
  split
  case h_4 => split <;> [skip; split] <;> simp [Action.extent]
  all_goals simp [Action.extent]

theorem descendantAction_extent : (descendantAction parens text).extent ≤ text.length := by
  unfold descendantAction
  split
  case h_3 =>
    split
    · exact nameLength_le text
    · simp [Action.extent]
  all_goals simp [Action.extent]

theorem shorthandAction_extent : (shorthandAction parens text).extent ≤ text.length := by
  unfold shorthandAction
  split
  · simp [Action.extent]
  · dsimp only
    split
    · split <;> exact nameLength_le text
    · simp [Action.extent]

theorem bracketsAction_extent : (bracketsAction parens here text).extent ≤ text.length := by
  unfold bracketsAction
  split
  case h_9 | h_10 => exact stringToken_extent
  case h_11 =>
    dsimp only
    split
    · exact numberToken_extent
    · split
      · split <;> exact nameLength_le _
      · simp [Action.extent]
  all_goals simp [Action.extent]

theorem argumentsAction_extent : (argumentsAction parens here text).extent ≤ text.length := by
  unfold argumentsAction
  split
  case h_5 | h_6 => exact stringToken_extent
  case h_7 =>
    split
    · exact numberToken_extent
    · simp [Action.extent]
  all_goals simp [Action.extent]

theorem filterAction_extent : (filterAction parens here text).extent ≤ text.length := by
  unfold filterAction
  split
  case h_2 | h_4 => split <;> simp [Action.extent]
  case h_5 | h_6 => exact stringToken_extent
  case h_24 =>
    dsimp only
    split
    · exact numberToken_extent
    · split
      · exact nameLength_le _
      · simp [Action.extent]
  all_goals simp [Action.extent]

theorem regexAction_extent : (regexAction parens here text).extent ≤ text.length := by
  unfold regexAction
  split
  · exact regexToken_extent
  · simp [Action.extent]

/-- No action takes more text than there is. -/
theorem Mode.action_extent : (mode.action parens here text).extent ≤ text.length := by
  cases mode with
  | root => exact rootAction_extent
  | segment => exact segmentAction_extent
  | descendant => exact descendantAction_extent
  | shorthand => exact shorthandAction_extent
  | brackets => exact bracketsAction_extent
  | arguments => exact argumentsAction_extent
  | filter => exact filterAction_extent
  | regex => exact regexAction_extent
  | done => simp [action, Action.extent]
  | failed => simp [action, Action.extent]

end

end Lexer

end PathQuery
