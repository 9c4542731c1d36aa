import Mathlib.Data.List.TakeWhile
import PathQuery.Proofs.Token.Index
import PathQuery.Token.Lexer

/-! The shape of tokens: what the lexer guarantees about the texts within the tokens it makes. -/
namespace PathQuery
open Token

/-- What stands between the slashes of a pattern: every slash and every backslash is escaped. -/
inductive Scan.Slashless : List Char → Prop where
  | nil : Slashless []
  | pair {c : Char} {rest : List Char} (h : Slashless rest) : Slashless ('\\' :: c :: rest)
  | plain {c : Char} {rest : List Char} (hb : c ≠ '\\') (hs : c ≠ '/') (h : Slashless rest) :
      Slashless (c :: rest)

/-- Whole numbers are a sign or none, and digits; patterns end at their slash. -/
def Token.Kind.Shaped : Kind → Prop
  | .int digits => Numeral.Whole digits.toList
  | .regex raw flags =>
    Scan.Slashless raw.toList ∧ '\x00' ∉ raw.toList ∧ ∀ c ∈ flags.toList, Scan.isFlag c
  | _ => True

def Shaped (ts : List Token) : Prop := ∀ t ∈ ts, t.kind.Shaped

theorem Shaped.cons {t : Token} {ts : List Token} (ht : t.kind.Shaped) (h : Shaped ts) :
    Shaped (t :: ts) := by
  intro u hu
  rcases List.mem_cons.1 hu with rfl | hu
  · exact ht
  · exact h u hu

theorem bind_eq_ok {ε α β : Type} {x : Except ε α} {f : α → Except ε β} {b : β} :
    x >>= f = .ok b ↔ ∃ a, x = .ok a ∧ f a = .ok b := by
  cases x <;> simp [bind, Except.bind]

namespace Scan

theorem take_takeWhile (p : Char → Bool) (text : List Char) :
    text.take (text.takeWhile p).length = text.takeWhile p :=
  (List.prefix_iff_eq_take.1 (List.takeWhile_prefix p)).symm

theorem takeWhile_eq {p : Char → Bool} {front rest : List Char} (hf : ∀ c ∈ front, p c = true)
    (hr : ∀ c ∈ rest.head?, p c = false) : (front ++ rest).takeWhile p = front := by
  rw [List.takeWhile_append_of_pos hf]
  cases rest with
  | nil => simp
  | cons c rest => simp [hr c rfl]

theorem take_digits (text : List Char) :
    text.take (digits text) = text.takeWhile Char.isDigit := take_takeWhile _ _

theorem string_length {quote : Char} {opened : Position} {read length : Nat} {text : List Char}
    (h : string quote opened read text = .ok length) : read < length := by
  fun_induction string quote opened read text <;> grind

theorem regex_slashless {opened : Position} {read length : Nat} {text : List Char}
    (h : regex opened read text = .ok length) :
    read + 1 ≤ length ∧ Slashless (text.take (length - (read + 1))) := by
  fun_induction regex opened read text with
  | case1 => simp at h
  | case2 => simp at h
  | case3 read c rest ih =>
    obtain ⟨hl, hs⟩ := ih h
    have : length - (read + 1) = length - (read + 2 + 1) + 2 := by omega
    rw [this]
    exact ⟨by omega, .pair hs⟩
  | case4 =>
    cases h
    simpa using .nil
  | case5 read c rest hend hpair hslash ih =>
    obtain ⟨hl, hs⟩ := ih h
    have : length - (read + 1) = length - (read + 1 + 1) + 1 := by omega
    rw [this]
    refine ⟨by omega, .plain ?_ ?_ hs⟩
    · rintro rfl
      cases rest with
      | nil => exact hend rfl rfl
      | cons d rest => exact hpair d rest rfl rfl
    · rintro rfl
      exact hslash rfl

/-- What a number in a query begins with. -/
def beginsNumber (text : List Char) : Prop :=
  ∃ c, text.head? = some c ∧ (c = '-' ∨ c.isDigit = true)

theorem whole_shaped {text : List Char} {length : Nat} (h : whole text = .ok length)
    (hc : beginsNumber text) : Numeral.Whole (text.take length) := by
  unfold whole at h
  split at h
  next rest =>
    split at h
    · simp at h
    next hd =>
      cases h
      rw [List.take_succ_cons, take_digits]
      refine ⟨fun hnil => hd ?_, fun c hm => List.mem_takeWhile_imp hm⟩
      exact List.length_eq_zero_iff.2 hnil
  next hminus =>
    cases h
    rcases hc with ⟨c, hc, hsign | hdigit⟩
    · subst hsign
      obtain ⟨rest, rfl⟩ := List.head?_eq_some_iff.1 hc
      exact absurd rfl (hminus rest)
    · obtain ⟨rest, rfl⟩ := List.head?_eq_some_iff.1 hc
      have hs : Numeral.sign (List.takeWhile Char.isDigit (c :: rest)) =
          (false, List.takeWhile Char.isDigit (c :: rest)) := by
        unfold Numeral.sign
        split
        next more hmore =>
          rw [List.takeWhile_cons_of_pos hdigit] at hmore
          exact absurd (by rw [(List.cons.inj hmore).1]) (hminus rest)
        · rfl
      rw [take_digits, Numeral.Whole, hs]
      exact ⟨by simp [hdigit], fun c hm => List.mem_takeWhile_imp hm⟩

theorem whole_pos {text : List Char} {length : Nat} (h : whole text = .ok length)
    (hc : beginsNumber text) : 0 < length := by
  obtain ⟨hne, -⟩ := whole_shaped h hc
  rcases Nat.eq_zero_or_pos length with rfl | hpos
  · exact absurd rfl hne
  · exact hpos

theorem onward_eq_ok {length total : Nat} {next : Result} :
    onward length next = .ok total ↔ ∃ more, next = .ok more ∧ length + more = total := by
  unfold onward
  split <;> simp

/-- A number is a whole part, a fraction or none and an exponent or none. -/
theorem number_eq_ok {text : List Char} {length : Nat} {isFloat : Bool} :
    number text = .ok (length, isFloat) ↔
      ∃ a b c, whole text = .ok a ∧ fraction (text.drop a) = .ok b ∧
        exponent (text.drop (a + b)) = .ok c ∧ length = a + b + c ∧
          isFloat = decide (length ≠ a) := by
  simp only [number, bind_eq_ok, onward_eq_ok]
  constructor
  · rintro ⟨a, ha, _, ⟨b, hb, rfl⟩, _, ⟨c, hc, rfl⟩, h⟩
    cases h
    exact ⟨a, b, c, ha, hb, hc, rfl, rfl⟩
  · rintro ⟨a, b, c, ha, hb, hc, rfl, rfl⟩
    exact ⟨a, ha, _, ⟨b, hb, rfl⟩, _, ⟨c, hc, rfl⟩, rfl⟩

/-- A number goes on from its whole part, and is whole if it has no more. -/
theorem whole_of_number {text : List Char} {length : Nat} {isFloat : Bool}
    (h : number text = .ok (length, isFloat)) :
    ∃ a ≤ length, whole text = .ok a ∧ isFloat = decide (length ≠ a) := by
  obtain ⟨a, b, c, ha, -, -, rfl, hf⟩ := number_eq_ok.1 h
  exact ⟨a, by omega, ha, hf⟩

end Scan

end PathQuery
