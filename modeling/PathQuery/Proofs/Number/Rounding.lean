import PathQuery.Number.Decimal

/-! Rounding depends on the quotient alone, and keeps the counts of units that fit. -/
namespace PathQuery

theorem roundDiv_mul_left {num den k : Nat} (hk : 0 < k) :
    roundDiv (k * num) (k * den) = roundDiv num den := by
  have hlt : 2 * (k * (num % den)) < k * den ↔ 2 * (num % den) < den := by
    rw [Nat.mul_left_comm]
    exact Nat.mul_lt_mul_left hk
  have heq : 2 * (k * (num % den)) = k * den ↔ 2 * (num % den) = den := by
    rw [Nat.mul_left_comm]
    exact Nat.mul_right_inj (Nat.ne_of_gt hk)
  simp only [roundDiv, Nat.mul_div_mul_left _ _ hk, Nat.mul_mod_mul_left, hlt, heq]

theorem roundDiv_mul_right {q den : Nat} (hd : 0 < den) : roundDiv (q * den) den = q := by
  simp [roundDiv, hd]

theorem roundDiv_eq_zero {num den : Nat} (h : 2 * num < den) : roundDiv num den = 0 := by
  have hlt : num < den := by omega
  simp [roundDiv, Nat.div_eq_of_lt hlt, Nat.mod_eq_of_lt hlt, h]

theorem div_le_roundDiv (num den : Nat) : num / den ≤ roundDiv num den := by
  simp only [roundDiv]
  split <;> omega

namespace Number
variable {num den num' den' k u : Nat}

theorem nearest_mul_left (hk : 0 < k) : nearest (k * num) (k * den) = nearest num den := by
  simp only [nearest, Nat.mul_div_mul_left _ _ hk, Nat.mul_assoc, roundDiv_mul_left hk]

/-- Equal quotients are rounded to the same count. -/
theorem nearest_congr (hd : 0 < den) (hd' : 0 < den') (h : num * den' = num' * den) :
    nearest num den = nearest num' den' :=
  calc nearest num den = nearest (den' * num) (den' * den) := (nearest_mul_left hd').symm
    _ = nearest (den * num') (den * den') := by
        rw [Nat.mul_comm den' num, h, Nat.mul_comm num' den, Nat.mul_comm den' den]
    _ = nearest num' den' := nearest_mul_left hd

theorem nearest_of_fits (h : Fits u) (hd : 0 < den) : nearest (u * den) den = u := by
  obtain ⟨q, hq⟩ := h.2
  have hs : 0 < 2 ^ spacing u := Nat.two_pow_pos _
  have hu : u = q * 2 ^ spacing u := by
    rw [Nat.mul_comm]
    exact hq
  have hnum : u * den = q * (den * 2 ^ spacing u) := by
    conv => lhs; rw [hu]
    rw [Nat.mul_assoc, Nat.mul_comm (2 ^ _) den]
  rw [nearest, Nat.mul_div_cancel _ hd, hnum, roundDiv_mul_right (Nat.mul_pos hd hs)]
  exact hu.symm

theorem nearest_eq_zero (h : 2 * num < den) : nearest num den = 0 := by
  have hq : num / den = 0 := Nat.div_eq_of_lt (by omega)
  simp [nearest, spacing, hq, roundDiv_eq_zero h]

/-- A power of two that the quotient reaches is reached by the rounded count. -/
theorem two_pow_le_nearest (hd : 0 < den) (h : 2 ^ k * den ≤ num) : 2 ^ k ≤ nearest num den := by
  have hq : 2 ^ k ≤ num / den := (Nat.le_div_iff_mul_le hd).2 h
  have hne : num / den ≠ 0 := by
    have := Nat.two_pow_pos k
    omega
  have hk : k ≤ (num / den).log2 := (Nat.le_log2 hne).2 hq
  have hs : spacing (num / den) ≤ (num / den).log2 := Nat.sub_le _ _
  have hfloor : 2 ^ ((num / den).log2 - spacing (num / den)) ≤
      num / (den * 2 ^ spacing (num / den)) := by
    rw [← Nat.div_div_eq_div_mul, Nat.le_div_iff_mul_le (Nat.two_pow_pos _), ← Nat.pow_add,
      Nat.sub_add_cancel hs]
    exact Nat.log2_self_le hne
  calc 2 ^ k ≤ 2 ^ (num / den).log2 := Nat.pow_le_pow_right (by decide) hk
    _ = 2 ^ ((num / den).log2 - spacing (num / den)) * 2 ^ spacing (num / den) := by
        rw [← Nat.pow_add, Nat.sub_add_cancel hs]
    _ ≤ nearest num den :=
        Nat.mul_le_mul_right _ (Nat.le_trans hfloor (div_le_roundDiv _ _))

/-- A power of two that the quotient does not reach is not exceeded by the rounded count. -/
theorem nearest_le_two_pow (hd : 0 < den) (h : num < 2 ^ k * den) : nearest num den ≤ 2 ^ k := by
  have hq : num / den < 2 ^ k := (Nat.div_lt_iff_lt_mul hd).2 h
  have hs : spacing (num / den) ≤ k := by
    by_cases hz : num / den = 0
    · simp [hz, spacing]
    · have := (Nat.log2_lt hz).2 hq
      unfold spacing
      omega
  have hpow : 2 ^ (k - spacing (num / den)) * 2 ^ spacing (num / den) = 2 ^ k := by
    rw [← Nat.pow_add, Nat.sub_add_cancel hs]
  have hround : roundDiv num (den * 2 ^ spacing (num / den)) ≤ 2 ^ (k - spacing (num / den)) := by
    apply roundDiv_le (Nat.mul_pos hd (Nat.two_pow_pos _))
    rwa [Nat.mul_comm den, ← Nat.mul_assoc, hpow]
  calc nearest num den ≤ 2 ^ (k - spacing (num / den)) * 2 ^ spacing (num / den) :=
        Nat.mul_le_mul_right _ hround
    _ = 2 ^ k := hpow

theorem ofUnits_congr (negative : Bool) {hd : 0 < den} {hd' : 0 < den'}
    (h : num * den' = num' * den) :
    ofUnits negative num den hd = ofUnits negative num' den' hd' := by
  simp only [ofUnits, nearest_congr hd hd' h]

theorem ofUnits_of_fits (negative : Bool) (h : Fits u) {hd : 0 < den} :
    ofUnits negative (u * den) den hd = .finite negative u h := by
  simp only [ofUnits, nearest_of_fits h hd, dif_pos h.1]

theorem fits_zero : Fits 0 := ⟨ceiling_pos, Nat.dvd_zero _⟩

theorem ofUnits_of_ceiling_le (negative : Bool) {hd : 0 < den} (h : ceiling * den ≤ num) :
    ofUnits negative num den hd = .infinite negative := by
  have : ceiling ≤ nearest num den := two_pow_le_nearest (k := 2098) hd h
  rw [ofUnits, dif_neg (by omega)]

end Number

namespace Decimal
open Number

/-- The number nearest to the fraction, multiplied out in any case. -/
theorem toNumber_eq (d : Decimal) : d.toNumber =
    ofUnits d.negative (d.digits * 10 ^ d.exponent.toNat * one) (10 ^ (-d.exponent).toNat)
      (Nat.pow_pos (by decide)) := by
  unfold toNumber
  dsimp only
  split
  next h0 =>
    rw [h0]
    exact ofUnits_congr d.negative (by simp)
  next h0 =>
    split
    next hup =>
      symm
      apply ofUnits_of_ceiling_le
      have hdown : (-d.exponent).toNat = 0 := by omega
      have hten : 2 ^ 1024 ≤ 10 ^ d.exponent.toNat :=
        calc 2 ^ 1024 ≤ 2 ^ (3 * d.exponent.toNat) := Nat.pow_le_pow_right (by decide) hup
          _ = 8 ^ d.exponent.toNat := by rw [Nat.pow_mul]
          _ ≤ 10 ^ d.exponent.toNat := Nat.pow_le_pow_left (by decide) _
      rw [hdown, Nat.pow_zero, Nat.mul_one]
      calc ceiling = 2 ^ 1024 * one := by
            unfold ceiling one
            rw [← Nat.pow_add]
        _ ≤ 10 ^ d.exponent.toNat * one := Nat.mul_le_mul_right _ hten
        _ ≤ d.digits * 10 ^ d.exponent.toNat * one := by
            rw [Nat.mul_assoc]
            exact Nat.le_mul_of_pos_left _ (by omega)
    · split
      next hdown =>
        have hup : d.exponent.toNat = 0 := by omega
        have hsmall : 2 * (d.digits * 10 ^ d.exponent.toNat * one) <
            10 ^ (-d.exponent).toNat := by
          rw [hup, Nat.pow_zero, Nat.mul_one]
          have hdigits : d.digits * one < 2 ^ (d.digits.log2 + 1) * one :=
            Nat.mul_lt_mul_of_pos_right Nat.lt_log2_self Number.one_pos
          calc 2 * (d.digits * one) < 2 * (2 ^ (d.digits.log2 + 1) * one) := by omega
            _ = 2 ^ (d.digits.log2 + 1076) := by
                unfold one
                rw [← Nat.pow_add, ← Nat.pow_succ']
            _ ≤ 2 ^ (3 * (-d.exponent).toNat) := Nat.pow_le_pow_right (by decide) (by omega)
            _ = 8 ^ (-d.exponent).toNat := by rw [Nat.pow_mul]
            _ ≤ 10 ^ (-d.exponent).toNat := Nat.pow_le_pow_left (by decide) _
        have hzero : nearest 0 1 = 0 := nearest_eq_zero (by decide)
        simp only [ofUnits, nearest_eq_zero hsmall, hzero]
      · rfl

/-- Zeros may move between the digits and the exponent. -/
theorem toNumber_shift (negative : Bool) (m z : Nat) (e : Int) :
    toNumber ⟨negative, m * 10 ^ z, e⟩ = toNumber ⟨negative, m, e + z⟩ := by
  rw [toNumber_eq, toNumber_eq]
  apply ofUnits_congr
  have hexp : z + e.toNat + (-(e + z)).toNat = (e + z).toNat + (-e).toNat := by omega
  generalize one = unit
  calc m * 10 ^ z * 10 ^ e.toNat * unit * 10 ^ (-(e + z)).toNat
      = m * unit * 10 ^ (z + e.toNat + (-(e + z)).toNat) := by
        rw [Nat.pow_add, Nat.pow_add]
        ac_rfl
    _ = m * 10 ^ (e + z).toNat * unit * 10 ^ (-e).toNat := by
        rw [hexp, Nat.pow_add]
        ac_rfl

theorem toNumber_zero (negative : Bool) (e : Int) :
    toNumber ⟨negative, 0, e⟩ = .finite negative 0 fits_zero := by
  have h : ofUnits negative (0 * 1) 1 Nat.one_pos = _ := ofUnits_of_fits negative fits_zero
  simpa [toNumber] using h

theorem toNumber_whole (negative : Bool) {n : Nat} (h : Fits (n * one)) :
    toNumber ⟨negative, n, 0⟩ = .finite negative (n * one) h := by
  rw [toNumber_eq]
  have hn : n * 10 ^ (0 : Int).toNat * one = n * one * 10 ^ (-(0 : Int)).toNat := by simp
  simp only [hn, ofUnits_of_fits negative h]

theorem exact_toNumber (negative : Bool) {units : Nat} (h : Fits units) :
    (exact negative units).toNumber = .finite negative units h := by
  rw [toNumber_eq]
  have hn : units * 5 ^ 1074 * 10 ^ (-1074 : Int).toNat * one =
      units * 10 ^ (-(-1074 : Int)).toNat := by
    have : 10 ^ 1074 = 5 ^ 1074 * 2 ^ 1074 := by rw [← Nat.mul_pow]
    show units * 5 ^ 1074 * 10 ^ 0 * 2 ^ 1074 = units * 10 ^ 1074
    rw [this, Nat.pow_zero, Nat.mul_one, Nat.mul_assoc]
  simp only [exact, hn, ofUnits_of_fits negative h]

/-- What is printed of a number reads back as the number. -/
theorem shortest_toNumber (negative : Bool) {units : Nat} (h : Fits units) :
    (shortest negative units h).toNumber = .finite negative units h := by
  unfold shortest
  dsimp only
  cases hf : (List.range 17).findSome? fun (places : Nat) =>
      (neighbours negative units (leading units - places)).find? fun d =>
        d.toNumber == .finite negative units h with
  | none => exact exact_toNumber negative h
  | some d =>
    obtain ⟨places, -, hd⟩ := List.exists_of_findSome?_eq_some hf
    simpa using List.find?_some hd

end Decimal
end PathQuery
