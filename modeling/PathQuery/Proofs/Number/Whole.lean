import PathQuery.Proofs.Value.Equality
import PathQuery.Proofs.Number.Rounding

/-! Numbers that are integers, however large: their whole part is the integer, and up to 2⁵³ every
integer is a number. -/
namespace PathQuery.Number
variable {x : Number} {n low high : Int}

/-- The number is this integer, and no infinity. -/
structure IsInt (x : Number) (n : Int) : Prop where
  finite : x.isFinite = true
  position : x.position = n * one

theorem units_of_isInt {negative : Bool} {units : Nat} {fits : Fits units}
    (h : (finite negative units fits).IsInt n) : units = n.natAbs * one := by
  have hsize := congrArg Int.natAbs h.position
  rwa [natAbs_position_finite, Int.natAbs_mul, Int.natAbs_natCast] at hsize

theorem IsInt.truncate? (h : x.IsInt n) : x.truncate? = some n := by
  cases x with
  | finite negative units fits =>
    have hone := one_pos
    have hunits := units_of_isInt h
    have hdiv : units / one = n.natAbs := by rw [hunits, Nat.mul_div_cancel _ hone]
    have hposition : (if negative then -(units : Int) else units) = n * one := h.position
    rw [Number.truncate?, hdiv]
    congr 1
    cases negative with
    | true =>
      have hle : n * one ≤ 0 := by
        rw [← hposition, if_pos rfl]
        omega
      have hn : n ≤ 0 := by
        by_contra hpos
        have := Int.mul_pos (Int.not_le.1 hpos) (Int.natCast_pos.2 hone)
        omega
      simp only [if_true]
      omega
    | false =>
      have hle : 0 ≤ n * one := by
        rw [← hposition, if_neg (by simp)]
        omega
      have hn : 0 ≤ n := by
        by_contra hneg
        have := Int.mul_neg_of_neg_of_pos (Int.not_le.1 hneg) (Int.natCast_pos.2 hone)
        omega
      simp only [Bool.false_eq_true, if_false]
      omega
  | infinite negative => cases h.finite

theorem IsInt.clamp (h : x.IsInt n) (low high : Int) :
    x.clamp low high = max low (min high n) := by
  rw [Number.clamp, h.truncate?]

/-- What has at most 53 significant bits is exact. -/
theorem fits_whole {k : Nat} (h : k ≤ 2 ^ 53) : Fits (k * one) := by
  have inRange {e n : Nat} (hn : n = e + 1024) : k * 2 ^ e < 2 ^ n := by
    rw [hn, Nat.pow_add, Nat.mul_comm]
    exact Nat.mul_lt_mul_of_pos_left (by omega) (Nat.two_pow_pos e)
  unfold Fits ceiling one
  exact ⟨inRange rfl, two_pow_dvd_shift 1074 h⟩

theorem isInt_ofInt (h : n.natAbs ≤ 2 ^ 53) : (ofInt n).IsInt n := by
  have hfits := fits_whole h
  have hunits : ofInt n = finite (n < 0) (n.natAbs * one) hfits := by
    have rounded : ofUnits (n < 0) (n.natAbs * one * 1) 1 Nat.one_pos = _ := ofUnits_of_fits _ hfits
    rwa [Nat.mul_one] at rounded
  rw [hunits]
  refine ⟨rfl, ?_⟩
  rw [position]
  split
  next hneg =>
    have : (n.natAbs : Int) = -n := Int.ofNat_natAbs_of_nonpos (by simp at hneg; omega)
    rw [Int.natCast_mul, this, Int.neg_mul, Int.neg_neg]
  next hpos =>
    have : (n.natAbs : Int) = n := Int.natAbs_of_nonneg (by simpa using hpos)
    rw [Int.natCast_mul, this]

theorem isInt_ofNat {k : Nat} (h : k ≤ 2 ^ 53) : (ofNat k).IsInt k := by
  have heq : ofNat k = ofInt k := by
    rw [ofNat, ofInt, Int.natAbs_natCast, decide_eq_false (by omega)]
  rw [heq]
  exact isInt_ofInt (by simpa using h)

end PathQuery.Number
