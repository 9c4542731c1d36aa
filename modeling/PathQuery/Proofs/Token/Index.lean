import Mathlib.Data.List.Induction
import PathQuery.Query.Literal
import PathQuery.Query.Printer

/-! Indices have one spelling: digits are read as an index exactly if they are its text. -/
namespace PathQuery

/-- A sign or none, and one digit at least. -/
def Numeral.Whole (text : List Char) : Prop :=
  (sign text).2 ≠ [] ∧ ∀ c ∈ (sign text).2, c.isDigit = true

namespace Index

theorem exists_digitChar {c : Char} (h : c.isDigit = true) :
    ∃ d < 10, c = Nat.digitChar d := by
  have hc : 48 ≤ c.toNat ∧ c.toNat ≤ 57 := by
    simp [Char.isDigit, UInt32.le_iff_toNat_le] at h
    exact h
  refine ⟨c.toNat - 48, by omega, ?_⟩
  apply Char.toNat_inj.1
  rw [Nat.toNat_digitChar_of_lt_ten (by omega)]
  omega

/-- Digits that do not begin with a zero are the digits of the number they spell. -/
theorem toDigits_ofDigitChars {ds : List Char} (hd : ∀ c ∈ ds, c.isDigit = true)
    (h0 : ds.head? ≠ some '0') (hne : ds ≠ []) :
    Nat.toDigits 10 (Nat.ofDigitChars 10 ds 0) = ds := by
  induction ds using List.reverseRecOn with
  | nil => exact absurd rfl hne
  | append_singleton front c ih =>
    obtain ⟨d, hlt, rfl⟩ := exists_digitChar (hd c (by simp))
    rw [Nat.ofDigitChars_append, Nat.ofDigitChars_cons_digitChar_of_lt_ten hlt,
      Nat.ofDigitChars_nil]
    cases hf : front with
    | nil => simp [Nat.toDigits_of_lt_base hlt]
    | cons f rest =>
      have hfront : front ≠ [] := by simp [hf]
      have hhead : front.head? ≠ some '0' := by
        simpa [hf] using h0
      have hih := ih (fun c hc => hd c (by simp [hc])) hhead hfront
      have hpos : 0 < Nat.ofDigitChars 10 front 0 := by
        rcases Nat.eq_zero_or_pos (Nat.ofDigitChars 10 front 0) with hz | hp
        · rw [hz, Nat.toDigits_zero] at hih
          exact absurd (by simp [← hih]) hhead
        · exact hp
      rw [← hf, ← Nat.toDigits_append_toDigits (by decide) hpos hlt, hih,
        Nat.toDigits_of_lt_base hlt]

/-- The characters of an integer's text. -/
def intText (i : Int) : List Char :=
  if i < 0 then '-' :: Nat.toDigits 10 i.natAbs else Nat.toDigits 10 i.natAbs

theorem toList_repr (i : Int) : i.repr.toList = intText i := by
  unfold intText
  cases i with
  | ofNat n => simp [Int.repr]
  | negSucc n => simp [Int.repr]

theorem toList_indexText (i : Int64) : (indexText i).toList = intText i.toInt := toList_repr i.toInt

theorem head?_toDigits {n : Nat} (h : n ≠ 0) : (Nat.toDigits 10 n).head? ≠ some '0' := by
  induction n using Nat.strongRecOn with
  | ind n ih =>
    rw [Nat.toDigits_eq_if (by decide)]
    split
    · simpa using h
    · have hq := ih (n / 10) (by omega) (by omega)
      cases hd : Nat.toDigits 10 (n / 10) with
      | nil => exact absurd hd Nat.toDigits_ne_nil
      | cons c rest => simpa [hd] using hq

/-- More digits than one do not begin with a zero, and no sign stands before a zero. -/
def Padded (text : List Char) : Prop :=
  1 < text.length ∧ (['0'].isPrefixOf text ∨ ['-', '0'].isPrefixOf text)

instance : DecidablePred Padded := fun _ => inferInstanceAs (Decidable (_ ∧ _))

theorem padded_iff {text : List Char} :
    Padded text ↔ (∃ d ds, text = '0' :: d :: ds) ∨ ∃ ds, text = '-' :: '0' :: ds := by
  constructor
  · rintro ⟨hlen, h | h⟩
    · obtain ⟨ds, rfl⟩ := List.isPrefixOf_iff_prefix.1 h
      cases ds with
      | nil => simp at hlen
      | cons d ds => exact .inl ⟨d, ds, rfl⟩
    · obtain ⟨ds, rfl⟩ := List.isPrefixOf_iff_prefix.1 h
      exact .inr ⟨ds, rfl⟩
  · rintro (⟨d, ds, rfl⟩ | ⟨ds, rfl⟩)
    · exact ⟨by simp, .inl (by simp)⟩
    · exact ⟨by simp, .inr (by simp)⟩

theorem zero_isPrefixOf {ds : List Char} : ['0'].isPrefixOf ds = true ↔ ds.head? = some '0' := by
  cases ds with
  | nil => simp
  | cons c rest => simpa using eq_comm

theorem ne_minus_of_mem_toDigits {n : Nat} {c : Char} (h : c ∈ Nat.toDigits 10 n) : c ≠ '-' := by
  have := Nat.isDigit_of_mem_toDigits (by decide) (by decide) h
  rintro rfl
  simp at this

theorem not_padded_intText (i : Int) : ¬ Padded (intText i) := by
  rintro ⟨hlen, h⟩
  unfold intText at hlen h
  split at h
  next hi =>
    have h0 := head?_toDigits (n := i.natAbs) (by omega)
    have : ['0'].isPrefixOf (Nat.toDigits 10 i.natAbs) = true := by simpa using h
    exact h0 (zero_isPrefixOf.1 this)
  next hi =>
    rw [if_neg hi] at hlen
    rcases h with h | h
    · by_cases hz : i.natAbs = 0
      · simp [hz] at hlen
      · exact head?_toDigits hz (zero_isPrefixOf.1 h)
    · obtain ⟨rest, hr⟩ := List.isPrefixOf_iff_prefix.1 h
      exact ne_minus_of_mem_toDigits (n := i.natAbs) (c := '-') (by simp [← hr]) rfl

/-- The integer that a sign and digits spell. -/
def value (text : List Char) : Int :=
  match text with
  | '-' :: ds => -(Nat.ofDigitChars 10 ds 0 : Nat)
  | ds => (Nat.ofDigitChars 10 ds 0 : Nat)

theorem value_intText (i : Int) : value (intText i) = i := by
  unfold intText
  split
  · simp only [value, Nat.ofDigitChars_ten_toDigits]
    omega
  · have hd : ∀ rest, Nat.toDigits 10 i.natAbs ≠ '-' :: rest := fun rest h =>
      ne_minus_of_mem_toDigits (n := i.natAbs) (c := '-') (by simp [h]) rfl
    have : value (Nat.toDigits 10 i.natAbs) =
        (Nat.ofDigitChars 10 (Nat.toDigits 10 i.natAbs) 0 : Nat) := by
      unfold value
      split
      · exact absurd ‹_› (hd _)
      · rfl
    rw [this]
    simp
    omega

theorem intText_value {text : List Char} (h : Numeral.Whole text) (hp : ¬ Padded text) :
    intText (value text) = text := by
  obtain ⟨hne, hd⟩ := h
  by_cases hm : ∃ ds, text = '-' :: ds
  · obtain ⟨ds, rfl⟩ := hm
    change ds ≠ [] at hne
    change ∀ c ∈ ds, c.isDigit = true at hd
    have h0 : ds.head? ≠ some '0' := by
      intro h0
      have := List.length_pos_iff.2 hne
      exact hp ⟨by simp; omega, .inr (by simpa using zero_isPrefixOf.2 h0)⟩
    have hds := toDigits_ofDigitChars hd h0 hne
    have hpos : 0 < Nat.ofDigitChars 10 ds 0 := by
      rcases Nat.eq_zero_or_pos (Nat.ofDigitChars 10 ds 0) with hz | hp
      · rw [hz, Nat.toDigits_zero] at hds
        exact absurd (by simp [← hds]) h0
      · exact hp
    simp [value, intText, hpos, hds]
  · have hs : Numeral.sign text = (false, text) := by
      unfold Numeral.sign
      split
      · exact absurd ⟨_, rfl⟩ hm
      · rfl
    have hv : value text = (Nat.ofDigitChars 10 text 0 : Nat) := by
      unfold value
      split
      · exact absurd ⟨_, rfl⟩ hm
      · rfl
    rw [hs] at hne hd
    have : ¬ ((Nat.ofDigitChars 10 text 0 : Nat) : Int) < 0 := by omega
    simp only [hv, intText, this, if_false, Int.natAbs_natCast]
    by_cases h0 : text.head? = some '0'
    · cases text with
      | nil => exact absurd rfl hne
      | cons c rest =>
        simp only [List.head?_cons, Option.some.injEq] at h0
        subst h0
        cases rest with
        | nil => simp [Nat.ofDigitChars_cons]
        | cons d rest => exact absurd ⟨by simp, by simp⟩ hp
    · exact toDigits_ofDigitChars hd h0 hne

/-- Digits are the text of a number exactly if they spell it without a zero too many. -/
theorem eq_repr_iff {digits : String} (h : Numeral.Whole digits.toList) (n : Int) :
    digits = n.repr ↔ ¬ Padded digits.toList ∧ value digits.toList = n := by
  rw [← String.toList_inj, toList_repr]
  constructor
  · intro hdigits
    rw [hdigits]
    exact ⟨not_padded_intText n, value_intText n⟩
  · rintro ⟨hp, rfl⟩
    exact (intText_value h hp).symm

end Index

namespace Int64

theorem ofDigits_eq (digits : String) : ofDigits digits =
    if Index.Padded digits.toList then .error (.invalidIndex digits)
    else if -(2 ^ 63) ≤ Index.value digits.toList ∧ Index.value digits.toList < 2 ^ 63 then
      .ok (.ofInt (Index.value digits.toList))
    else .error (.indexOutOfRange digits) := rfl

theorem ofDigits_indexText (i : Int64) : ofDigits (indexText i) = .ok i := by
  have hlo : -(2 ^ 63) ≤ i.toInt := i.minValue_le_toInt
  have hhi : i.toInt < 2 ^ 63 := Int.lt_of_le_of_lt i.toInt_le (by decide)
  rw [ofDigits_eq, Index.toList_indexText, if_neg (Index.not_padded_intText _),
    Index.value_intText, if_pos ⟨hlo, hhi⟩, Int64.ofInt_toInt]

/-- Digits are read as an index exactly if they are its text. -/
theorem ofDigits_eq_ok_iff {digits : String} (h : Numeral.Whole digits.toList) (i : Int64) :
    ofDigits digits = .ok i ↔ digits = indexText i := by
  constructor
  · intro hok
    rw [ofDigits_eq] at hok
    split at hok
    · simp at hok
    next hp =>
      split at hok
      next hr =>
        cases hok
        apply String.toList_inj.1
        rw [Index.toList_indexText, Int64.toInt_ofInt_of_le hr.1 hr.2]
        exact (Index.intText_value h hp).symm
      · simp at hok
  · rintro rfl
    exact ofDigits_indexText i

theorem ofDigits_eq_error_iff {digits : String} {cause : SyntaxError.Cause} :
    ofDigits digits = .error cause ↔
      cause = .invalidIndex digits ∧ Index.Padded digits.toList ∨
        cause = .indexOutOfRange digits ∧ ¬ Index.Padded digits.toList ∧
          ¬ (-(2 ^ 63) ≤ Index.value digits.toList ∧ Index.value digits.toList < 2 ^ 63) := by
  rw [ofDigits_eq]
  by_cases hp : Index.Padded digits.toList
  · rw [if_pos hp]
    simp [hp, eq_comm]
  · rw [if_neg hp]
    by_cases hr : -(2 ^ 63) ≤ Index.value digits.toList ∧ Index.value digits.toList < 2 ^ 63
    · rw [if_pos hr]
      simp only [reduceCtorEq, hp, hr, and_self, not_true, and_false, or_self]
    · rw [if_neg hr]
      simp only [Except.error.injEq, hp, hr, not_false_eq_true, and_self, and_false, and_true,
        false_or, eq_comm]

/-- An index has one spelling: a sign or none and digits, however many, are read as an index exactly
if they are its text, and everything else is refused, zeros in front and a sign on zero included. -/
theorem one_spelling {digits : String} (h : Numeral.Whole digits.toList) :
    (∀ i, ofDigits digits = .ok i ↔ digits = indexText i) ∧
    ∀ cause, ofDigits digits = .error cause ↔
      cause = .invalidIndex digits ∧
          ((∃ d ds, digits.toList = '0' :: d :: ds) ∨ ∃ ds, digits.toList = '-' :: '0' :: ds) ∨
        cause = .indexOutOfRange digits ∧
          ∃ n : Int, (n < -(2 ^ 63) ∨ 2 ^ 63 ≤ n) ∧ digits = n.repr := by
  refine ⟨ofDigits_eq_ok_iff h, fun cause => ?_⟩
  have beyond : (¬ Index.Padded digits.toList ∧
      ¬ (-(2 ^ 63) ≤ Index.value digits.toList ∧ Index.value digits.toList < 2 ^ 63)) ↔
        ∃ n : Int, (n < -(2 ^ 63) ∨ 2 ^ 63 ≤ n) ∧ digits = n.repr := by
    constructor
    · rintro ⟨hp, hr⟩
      exact ⟨_, by omega, (Index.eq_repr_iff h _).2 ⟨hp, rfl⟩⟩
    · rintro ⟨n, hn, hdigits⟩
      obtain ⟨hp, rfl⟩ := (Index.eq_repr_iff h n).1 hdigits
      exact ⟨hp, by omega⟩
  rw [ofDigits_eq_error_iff, beyond, Index.padded_iff]

/-- The least index, its digits without the sign, and a signed zero. -/
theorem one_spelling_limits :
    Numeral.Whole "-9223372036854775808".toList ∧
    ofDigits "-9223372036854775808" = .ok Int64.minValue ∧
    Numeral.Whole "9223372036854775808".toList ∧
    ofDigits "9223372036854775808" = .error (.indexOutOfRange "9223372036854775808") ∧
    Numeral.Whole "-0".toList ∧ ofDigits "-0" = .error (.invalidIndex "-0") := by
  have hleast : Numeral.Whole "-9223372036854775808".toList :=
    ⟨by decide, List.all_eq_true.1 (by decide)⟩
  have hpast : Numeral.Whole "9223372036854775808".toList :=
    ⟨by decide, List.all_eq_true.1 (by decide)⟩
  have hzero : Numeral.Whole "-0".toList :=
    ⟨by decide, List.all_eq_true.1 (by decide)⟩
  refine ⟨hleast, ?_, hpast, ?_, hzero, ?_⟩
  · exact ((one_spelling hleast).1 _).2 (by decide)
  · exact ((one_spelling hpast).2 _).2 (.inr ⟨rfl, 2 ^ 63, by decide, by decide⟩)
  · exact ((one_spelling hzero).2 _).2 (.inl ⟨rfl, .inr ⟨[], by decide⟩⟩)

end Int64
end PathQuery
