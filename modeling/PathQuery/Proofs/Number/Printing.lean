import PathQuery.Proofs.Number.Numeral
import PathQuery.Proofs.Number.Rounding
import PathQuery.Value.Basic

/-! Numbers read back from what is printed of them. -/
namespace PathQuery
open Numeral

/-- A text that is a numeral in its printed form, and reads as `x`. -/
def Numeral.Prints (text : List Char) (x : Number) : Prop :=
  ∃ negative whole fraction exponent, text = spell negative whole fraction exponent ∧
    IsDigits whole ∧ whole ≠ [] ∧ IsDigits fraction ∧ x =
      (Numeral.toDecimal ⟨negative, whole, if fraction.isEmpty then none else some fraction,
        exponent⟩).toNumber

/-- A printed numeral is read as its number. -/
theorem Numeral.Prints.ofText? {text : List Char} {x : Number} (h : Prints text x) :
    Number.ofText? text = some x := by
  obtain ⟨negative, whole, fraction, exponent, rfl, hw, hne, hf, rfl⟩ := h
  rw [Number.ofText?, read?_spell hw hne hf]

namespace Decimal

theorem trimZeros_spec (digits : Nat) : ∃ z, digits = trimZeros digits * 10 ^ z ∧
    (Nat.toDigits 10 digits).length = (Nat.toDigits 10 (trimZeros digits)).length + z := by
  induction digits using Nat.strongRecOn with
  | ind digits ih =>
    unfold trimZeros
    split
    next h =>
      obtain ⟨z, hz, hlen⟩ := ih (digits / 10) (by omega)
      refine ⟨z + 1, ?_, ?_⟩
      · rw [Nat.pow_succ, ← Nat.mul_assoc, ← hz]
        omega
      · rw [Nat.toDigits_of_base_le (by decide) (by omega), List.length_append, hlen]
        rfl
    · exact ⟨0, by simp, rfl⟩

/-- The value depends on the digits and the place of the last of them. -/
theorem toNumber_eq_of_shift (negative : Bool) (m : Nat) {k z : Nat} {e e' : Int}
    (h : e' + k = e + z) :
    toNumber ⟨negative, m * 10 ^ k, e'⟩ = toNumber ⟨negative, m * 10 ^ z, e⟩ := by
  rw [toNumber_shift, toNumber_shift, h]

/-- A numeral has the value of its digits, the last of which stands where the exponent and the
fraction put it. -/
theorem spell_prints (negative : Bool) {whole fraction : List Char} {exponent : Option Int}
    (hw : IsDigits whole) (hne : whole ≠ []) (hf : IsDigits fraction) {m k z : Nat} {e : Int}
    (hvalue : Nat.ofDigitChars 10 (whole ++ fraction) 0 = m * 10 ^ k)
    (hplace : exponent.getD 0 - fraction.length + k = e + z) :
    Prints (spell negative whole fraction exponent) (toNumber ⟨negative, m * 10 ^ z, e⟩) := by
  refine ⟨negative, whole, fraction, exponent, rfl, hw, hne, hf, ?_⟩
  have hfraction : (if fraction.isEmpty then none else some fraction).getD [] = fraction := by
    cases fraction <;> rfl
  simp only [toDecimal, hfraction, hvalue]
  exact (toNumber_eq_of_shift negative m hplace).symm

section
variable (negative : Bool) {t z : Nat} {e point : Int}
  (hp : e + ((Nat.toDigits 10 t).length + z : Nat) = point)
include hp

theorem scientific_prints {first : Char} {rest : List Char}
    (ht : Nat.toDigits 10 t = first :: rest) :
    Prints (signText negative ++ ((first :: fractionText rest) ++ exponentText (some (point - 1))))
      (toNumber ⟨negative, t * 10 ^ z, e⟩) := by
  have hd : IsDigits (first :: rest) := ht ▸ isDigits_toDigits t
  have hvalue : Nat.ofDigitChars 10 ([first] ++ rest) 0 = t * 10 ^ 0 := by
    rw [List.singleton_append, ← ht, Nat.ofDigitChars_ten_toDigits, Nat.pow_zero, Nat.mul_one]
  have hplace : (some (point - 1)).getD 0 - rest.length + (0 : Nat) = e + z := by
    rw [ht, List.length_cons] at hp
    simp only [Option.getD_some]
    omega
  have hfirst : IsDigits [first] := fun c hc => hd c (by simp [List.mem_singleton.1 hc])
  have hrest : IsDigits rest := fun c hc => hd c (by simp [hc])
  exact spell_prints negative hfirst (by simp) hrest hvalue hplace

theorem small_prints {zeros : Nat} (hz : point = -zeros) :
    Prints (signText negative ++ '0' :: '.' :: (List.replicate zeros '0' ++ Nat.toDigits 10 t))
      (toNumber ⟨negative, t * 10 ^ z, e⟩) := by
  have hne : (List.replicate zeros '0' ++ Nat.toDigits 10 t).isEmpty = false := by
    simp [Nat.toDigits_ne_nil]
  have hvalue : Nat.ofDigitChars 10 (['0'] ++ (List.replicate zeros '0' ++ Nat.toDigits 10 t)) 0 =
      t * 10 ^ 0 := by
    rw [Nat.ofDigitChars_append, Nat.ofDigitChars_append]
    simp [Nat.ofDigitChars_cons]
  have hplace : (none : Option Int).getD 0 -
      (List.replicate zeros '0' ++ Nat.toDigits 10 t).length + (0 : Nat) = e + z := by
    simp only [Option.getD_none, List.length_append, List.length_replicate]
    omega
  have h := spell_prints negative (isDigits_zeros 1) (by simp)
    ((isDigits_zeros zeros).append (isDigits_toDigits t)) hvalue hplace
  simpa [spell, fractionText, exponentText, hne] using h

/-- Digits that do not come up to the point are filled up with zeros. -/
theorem positional_prints {places : Nat} (hpos : 0 < places) (hz : point = places) :
    Prints (signText negative ++ ((Nat.toDigits 10 t).take places ++
        (List.replicate (places - ((Nat.toDigits 10 t).take places).length) '0' ++
          fractionText ((Nat.toDigits 10 t).drop places))))
      (toNumber ⟨negative, t * 10 ^ z, e⟩) := by
  have hd := isDigits_toDigits t
  have hw : IsDigits ((Nat.toDigits 10 t).take places ++
      List.replicate (places - ((Nat.toDigits 10 t).take places).length) '0') :=
    IsDigits.append (fun c hc => hd c (List.mem_of_mem_take hc)) (isDigits_zeros _)
  have hf : IsDigits ((Nat.toDigits 10 t).drop places) := by
    intro c hc
    exact hd c (List.mem_of_mem_drop hc)
  have hne : (Nat.toDigits 10 t).take places ++
      List.replicate (places - ((Nat.toDigits 10 t).take places).length) '0' ≠ [] := by
    have := Nat.length_toDigits_pos (b := 10) (n := t)
    apply List.ne_nil_of_length_pos
    simp
    omega
  have hvalue : Nat.ofDigitChars 10 ((Nat.toDigits 10 t).take places ++
      List.replicate (places - ((Nat.toDigits 10 t).take places).length) '0' ++
        (Nat.toDigits 10 t).drop places) 0 =
      t * 10 ^ (places - (Nat.toDigits 10 t).length) := by
    rcases Nat.lt_or_ge places (Nat.toDigits 10 t).length with hlt | hge
    · have htake : ((Nat.toDigits 10 t).take places).length = places := by
        simp
        omega
      have hnone : places - (Nat.toDigits 10 t).length = 0 := by omega
      simp [htake, hnone]
    · have hdrop : (Nat.toDigits 10 t).drop places = [] := List.drop_of_length_le hge
      have htake : (Nat.toDigits 10 t).take places = Nat.toDigits 10 t :=
        List.take_of_length_le hge
      rw [hdrop, htake, List.append_nil, Nat.ofDigitChars_append, Nat.ofDigitChars_ten_toDigits,
        Nat.ofDigitChars_replicate_zero, Nat.mul_comm]
  have hplace : (none : Option Int).getD 0 - ((Nat.toDigits 10 t).drop places).length +
      (places - (Nat.toDigits 10 t).length : Nat) = e + z := by
    simp only [Option.getD_none, List.length_drop]
    omega
  have h := spell_prints negative hw hne hf hvalue hplace
  simpa [spell, exponentText] using h

end

/-- The text of a fraction is a numeral of the same value. -/
theorem text_prints (d : Decimal) : Prints d.text.toList d.toNumber := by
  obtain ⟨z, hz, hlen⟩ := trimZeros_spec d.digits
  have hd : d.toNumber = toNumber ⟨d.negative, trimZeros d.digits * 10 ^ z, d.exponent⟩ := by
    rw [← hz]
  have hpoint : d.exponent + ((Nat.toDigits 10 (trimZeros d.digits)).length + z : Nat) =
      d.exponent + d.digits.repr.length := by
    rw [← hlen, ← String.length_toList, Nat.toList_repr]
  have hbody (body : List Char) :
      (String.ofList (if d.negative then '-' :: body else body)).toList =
        signText d.negative ++ body := by
    cases d.negative <;> simp [signText]
  rw [text, hd, hbody]
  simp only [Nat.toList_repr]
  split
  · obtain ⟨first, rest, ht⟩ := List.exists_cons_of_ne_nil
      (Nat.toDigits_ne_nil (b := 10) (n := trimZeros d.digits))
    have h := scientific_prints d.negative hpoint ht
    cases rest with
    | nil => simpa [ht, fractionText, exponentText] using h
    | cons second more => simpa [ht, fractionText, exponentText] using h
  · split
    · exact small_prints d.negative hpoint (by omega)
    next hpos =>
      have hplaces : d.exponent + d.digits.repr.length =
          (d.exponent + d.digits.repr.length).toNat := by omega
      have h := positional_prints d.negative hpoint (by omega) hplaces
      simpa [fractionText] using h

end Decimal

theorem Int.toList_repr (n : Int) :
    n.repr.toList = spell (decide (n < 0)) (Nat.toDigits 10 n.natAbs) [] none := by
  cases n with
  | ofNat n => simp [Int.repr, spell, signText, fractionText, exponentText]
  | negSucc n => simp [Int.repr, spell, signText, fractionText, exponentText]

/-- The text of a whole number is a numeral of its value. -/
theorem Int.repr_prints (n : Int) : Prints n.repr.toList
    (Decimal.toNumber ⟨decide (n < 0), n.natAbs, 0⟩) :=
  ⟨_, _, [], none, Int.toList_repr n, isDigits_toDigits _, Nat.toDigits_ne_nil,
    by simp [IsDigits], by simp [toDecimal]⟩

namespace Number

/-- The number as it is read again: a zero has lost its sign. -/
def reread : Number → Number
  | finite negative units fits => finite (negative && units != 0) units fits
  | infinite negative => infinite negative

@[simp] theorem position_reread (x : Number) : x.reread.position = x.position := by
  cases x with
  | infinite => rfl
  | finite negative units fits =>
    by_cases h : units = 0
    · simp [reread, position, h]
    · simp [reread, position, h]

@[simp] theorem isWhole_reread (x : Number) : x.reread.isWhole = x.isWhole := by
  cases x <;> rfl

/-- The whole part of a number without a fraction has its size, and its sign but for zero. -/
theorem whole_of_truncate? {negative : Bool} {units : Nat} {fits : Fits units}
    (hw : units % one = 0) {n : Int} (hn : truncate? (finite negative units fits) = some n) :
    n.natAbs * one = units ∧ decide (n < 0) = (negative && units != 0) := by
  have hunits : units / one * one = units := Nat.div_mul_cancel (Nat.dvd_of_mod_eq_zero hw)
  simp only [truncate?, Option.some.injEq] at hn
  generalize units / one = k at hunits hn
  subst hunits
  have hzero : k * one = 0 ↔ k = 0 := by
    rw [Nat.mul_eq_zero, or_iff_left (Nat.ne_of_gt Number.one_pos)]
  constructor
  · have habs : n.natAbs = k := by
      cases negative <;> simp at hn <;> omega
    rw [habs]
  · by_cases hk : k = 0
    · cases negative <;> simp [hk] at hn ⊢ <;> omega
    · have hne : (k * one != 0) = true := by simpa [hzero] using hk
      rw [hne]
      cases negative <;> simp at hn ⊢ <;> omega

theorem truncate_prints {negative : Bool} {units : Nat} {fits : Fits units}
    (hw : units % one = 0) {n : Int} (hn : truncate? (finite negative units fits) = some n) :
    Prints n.repr.toList (reread (finite negative units fits)) := by
  obtain ⟨hunits, hsign⟩ := whole_of_truncate? hw hn
  subst hunits
  have h := Int.repr_prints n
  rwa [hsign, Decimal.toNumber_whole _ fits] at h

theorem shortest_prints {negative : Bool} {units : Nat} (fits : Fits units) (h : units ≠ 0) :
    Prints (Decimal.shortest negative units fits).text.toList
      (reread (finite negative units fits)) := by
  have hsign : (negative && units != 0) = negative := by simp [h]
  have := Decimal.text_prints (Decimal.shortest negative units fits)
  rw [Decimal.shortest_toNumber] at this
  simpa only [reread, hsign] using this

/-- A finite number is converted to a whole one within 64 bits, or it is not zero and stays as it
is. -/
theorem numberToJson_finite {negative : Bool} {units : Nat} (fits : Fits units) :
    (∃ n range, units % one = 0 ∧ truncate? (finite negative units fits) = some n ∧
      Value.numberToJson (finite negative units fits) = .num (.whole n range)) ∨
    units ≠ 0 ∧ Value.numberToJson (finite negative units fits) =
      .num (.real (finite negative units fits) rfl) := by
  unfold Value.numberToJson
  by_cases hw : units % one = 0
  · have hwhole : (finite negative units fits).isWhole = true := by simpa [isWhole] using hw
    obtain ⟨n, hn⟩ : ∃ n, (finite negative units fits).truncate? = some n := ⟨_, rfl⟩
    simp only [hwhole, if_true, hn]
    split
    next hrange => exact .inl ⟨n, Json.fits_of_signed hrange, hw, rfl, rfl⟩
    next hrange =>
      refine .inr ⟨?_, dif_pos rfl⟩
      rintro rfl
      have hzero : n = 0 := by
        simp [truncate?] at hn
        exact hn.symm
      exact hrange (by rw [hzero]; decide)
  · have hwhole : (finite negative units fits).isWhole = false := by simpa [isWhole] using hw
    simp only [hwhole, Bool.false_eq_true, if_false]
    refine .inr ⟨?_, dif_pos rfl⟩
    rintro rfl
    exact hw (Nat.zero_mod _)

/-- What is printed of a finite number is a numeral that reads as the number. -/
theorem text_prints {x : Number} (h : x.isFinite = true) :
    Prints (Value.number x).text.toList x.reread := by
  cases x with
  | infinite => simp [isFinite] at h
  | finite negative units fits =>
    show Prints (Value.numberToJson (finite negative units fits)).text.toList _
    rcases numberToJson_finite fits with ⟨n, range, hw, hn, hjson⟩ | ⟨hne, hjson⟩
    · rw [hjson]
      exact truncate_prints hw hn
    · rw [hjson]
      exact shortest_prints fits hne

end Number
end PathQuery
