import PathQuery.Proofs.Number.Numeral

/-! Every number that the scanner finds in a text can be read. -/
namespace PathQuery
open Numeral

namespace Scan
variable {text : List Char} {length : Nat}

theorem digits_append_dropWhile (text : List Char) :
    ∃ ds rest, text = ds ++ rest ∧ IsDigits ds ∧ digits text = ds.length ∧
      ∀ c ∈ rest.head?, c.isDigit = false := by
  refine ⟨text.takeWhile Char.isDigit, text.dropWhile Char.isDigit,
    List.takeWhile_append_dropWhile.symm, fun c hc => List.mem_takeWhile_imp hc, rfl, ?_⟩
  intro c hc
  have := List.head?_dropWhile_not Char.isDigit text
  rw [hc] at this
  simpa using this

theorem eq_of_whole (h : whole text = .ok length) (hc : beginsNumber text) :
    ∃ negative ds rest, text = signText negative ++ ds ++ rest ∧ IsDigits ds ∧ ds ≠ [] ∧
      length = (signText negative ++ ds).length := by
  obtain ⟨hne, hd⟩ := whole_shaped h hc
  have hlen : length = (text.take length).length := by
    unfold whole at h
    split at h
    next rest =>
      split at h
      · simp at h
      · cases h
        rw [List.take_succ_cons, take_digits, List.length_cons, digits]
    next =>
      cases h
      rw [take_digits, digits]
  refine ⟨(sign (text.take length)).1, (sign (text.take length)).2, text.drop length, ?_, hd, hne, ?_⟩
  all_goals
    have hsign : text.take length =
        signText (sign (text.take length)).1 ++ (sign (text.take length)).2 := by
      unfold sign signText
      split
      next rest hrest => rw [hrest]; rfl
      · rfl
    rw [← hsign]
  · exact (List.take_append_drop length text).symm
  · exact hlen

theorem eq_of_fraction (h : fraction text = .ok length) :
    ∃ ds rest, text = fractionText ds ++ rest ∧ IsDigits ds ∧
      length = (fractionText ds).length := by
  unfold fraction at h
  split at h
  next more =>
    obtain ⟨ds, rest, rfl, hd, hlen, -⟩ := digits_append_dropWhile more
    split at h
    · simp at h
    next h0 =>
      cases h
      have hne : ds.isEmpty = false := by
        cases ds with
        | nil => exact absurd hlen h0
        | cons d ds => rfl
      exact ⟨ds, rest, by simp [fractionText, hne], hd, by simp [fractionText, hne, hlen]⟩
  · cases h
    exact ⟨[], text, rfl, by simp [IsDigits], rfl⟩

/-- The length of the sign that an exponent begins with. -/
def signLength (text : List Char) : Nat :=
  match text with
  | '+' :: _ | '-' :: _ => 1
  | _ => 0

theorem signLength_cons (c : Char) (text text' : List Char) :
    signLength (c :: text) = signLength (c :: text') := by
  unfold signLength
  split <;> split <;> simp_all

theorem exponent_cons {c : Char} (hc : c = 'e' ∨ c = 'E') (text : List Char) :
    exponent (c :: text) =
      if digits (text.drop (signLength text)) = 0 then
        .error (.expectedExponent, signLength text + 1)
      else .ok (signLength text + digits (text.drop (signLength text)) + 1) := by
  rcases hc with rfl | rfl <;> rfl

theorem signed?_of_sign {used ds : List Char} {negative : Bool}
    (hs : exponentSign used = (negative, ds)) (hd : IsDigits ds) (hne : ds ≠ []) :
    signed? used = some (exponentValue negative ds, []) := by
  have hdigits : digits? (ds ++ []) = some (ds, []) := digits?_append hd hne (by simp)
  rw [List.append_nil] at hdigits
  rw [signed?, hs, hdigits]
  rfl

/-- The sign and the digits of an exponent. -/
theorem eq_of_signed (h : digits (text.drop (signLength text)) ≠ 0) :
    ∃ used rest e, text = used ++ rest ∧
      signLength text + digits (text.drop (signLength text)) = used.length ∧
        signed? used = some (e, []) := by
  obtain ⟨ds, rest, hdrop, hd, hlen, -⟩ := digits_append_dropWhile (text.drop (signLength text))
  have hne : ds ≠ [] := by
    rintro rfl
    exact h hlen
  rw [hlen]
  unfold signLength at hdrop ⊢
  split at hdrop
  next more =>
    have hmore : more = ds ++ rest := hdrop
    refine ⟨'+' :: ds, rest, _, congrArg _ hmore, ?_, signed?_of_sign rfl hd hne⟩
    exact Nat.add_comm _ _
  next more =>
    have hmore : more = ds ++ rest := hdrop
    refine ⟨'-' :: ds, rest, _, congrArg _ hmore, ?_, signed?_of_sign rfl hd hne⟩
    exact Nat.add_comm _ _
  next hplus hminus =>
    have hsign : exponentSign ds = (false, ds) := by
      unfold exponentSign
      split
      · exact absurd hdrop (hplus _)
      · unfold sign
        split
        · exact absurd hdrop (hminus _)
        · rfl
    exact ⟨ds, rest, _, hdrop, Nat.zero_add _, signed?_of_sign hsign hd hne⟩

/-- What the scanner takes for an exponent can be read as one, and continues no number. -/
theorem eq_of_exponent (h : exponent text = .ok length) :
    ∃ used rest e, text = used ++ rest ∧ length = used.length ∧ exponent? used = some (e, []) ∧
      ∀ c ∈ used.head?, c.isDigit = false ∧ c ≠ '.' := by
  unfold exponent at h
  split at h
  case h_1 more | h_2 more =>
    change (if digits (more.drop (signLength more)) = 0
      then .error (.expectedExponent, signLength more + 1)
      else .ok (signLength more + digits (more.drop (signLength more)) + 1) : Result) = _ at h
    split at h
    · simp at h
    next h0 =>
      obtain ⟨used, rest, e, hmore, hlen, hsigned⟩ := eq_of_signed h0
      cases h
      refine ⟨_ :: used, rest, some e, congrArg _ hmore, by rw [List.length_cons, hlen], ?_, ?_⟩
      · rw [exponent?, hsigned]
        rfl
      · simp only [List.head?_cons, Option.mem_some_iff]
        rintro c rfl
        decide
  · cases h
    exact ⟨[], text, none, rfl, rfl, rfl, by simp⟩

end Scan

/-- Every number that the scanner finds can be read. -/
theorem Number.ofText?_of_scan {text : List Char} {length : Nat} {isFloat : Bool}
    (h : Scan.number text = .ok (length, isFloat)) (hc : Scan.beginsNumber text) :
    (Number.ofText? (text.take length)).isSome := by
  obtain ⟨a, b, c, ha, hb, he, rfl, -⟩ := Scan.number_eq_ok.1 h
  obtain ⟨negative, whole, afterWhole, rfl, hw, hne, rfl⟩ := Scan.eq_of_whole ha hc
  rw [List.drop_left] at hb
  obtain ⟨fraction, afterFraction, rfl, hf, rfl⟩ := Scan.eq_of_fraction hb
  rw [← List.append_assoc, ← List.length_append, List.drop_left] at he
  obtain ⟨used, rest, e, rfl, rfl, hread, hhead⟩ := Scan.eq_of_exponent he
  have htake : (signText negative ++ whole ++ (fractionText fraction ++ (used ++ rest))).take
      ((signText negative ++ whole).length + (fractionText fraction).length + used.length) =
        signText negative ++ (whole ++ (fractionText fraction ++ used)) := by
    rw [← List.length_append, ← List.length_append]
    simp only [← List.append_assoc]
    exact List.take_left
  have hfraction : ∀ c ∈ (fractionText fraction ++ used).head?, c.isDigit = false := by
    intro c hc
    unfold fractionText at hc
    split at hc
    · exact (hhead c hc).1
    · simp only [List.cons_append, List.head?_cons, Option.mem_some_iff] at hc
      subst hc
      decide
  have hnumeral : read? (signText negative ++ (whole ++ (fractionText fraction ++ used))) =
      some (⟨negative, whole, if fraction.isEmpty then none else some fraction, e⟩, []) := by
    simp only [read?, sign_spell hw hne, digits?_append hw hne hfraction, fraction?_text hf hhead,
      hread, Option.bind_eq_bind, Option.bind_some, Option.pure_def]
  rw [htake, Number.ofText?, hnumeral]
  rfl

end PathQuery
