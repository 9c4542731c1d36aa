/-!
Numbers with 53 significant bits. A finite number is a sign and a whole count of units of
2⁻¹⁰⁷⁴, so order, equality and rounding are exact arithmetic on integers.
-/
namespace PathQuery

/-- Powers are those of the core library, whatever else is imported. -/
@[default_instance 20000]
instance corePow {α : Type} [NatPow α] : Pow α Nat := instPowNat

/-- Units in one. -/
def Number.one : Nat := 2 ^ 1074

/-- Units in 2¹⁰²⁴, the first power of two that is out of range. -/
def Number.ceiling : Nat := 2 ^ 2098

/-- At most 53 significant bits, and in range. -/
def Number.Fits (units : Nat) : Prop :=
  units < ceiling ∧ 2 ^ (units.log2 - 52) ∣ units

inductive Number where
  | finite (negative : Bool) (units : Nat) (fits : Number.Fits units)
  | infinite (negative : Bool)
  deriving DecidableEq

/-- The whole number nearest to `num / den`; a half goes to the even neighbour. -/
def roundDiv (num den : Nat) : Nat :=
  let q := num / den
  let r := num % den
  if 2 * r < den ∨ 2 * r = den ∧ q % 2 = 0 then q else q + 1

namespace Number

theorem one_pos : 0 < one := by unfold one; exact Nat.two_pow_pos 1074

theorem ceiling_pos : 0 < ceiling := by unfold ceiling; exact Nat.two_pow_pos 2098

/-- The power of two that divides every kept count of about `whole` units. -/
def spacing (whole : Nat) : Nat := whole.log2 - 52

/-- The count of units with 53 significant bits that is nearest to `num / den`. -/
def nearest (num den : Nat) : Nat :=
  let s := spacing (num / den)
  roundDiv num (den * 2 ^ s) * 2 ^ s

theorem roundDiv_le {num den b : Nat} (hd : 0 < den) (h : num < b * den) :
    roundDiv num den ≤ b := by
  have : num / den < b := (Nat.div_lt_iff_lt_mul hd).2 h
  unfold roundDiv
  dsimp only
  split <;> omega

theorem two_pow_dvd_shift {m : Nat} (s : Nat) (h : m ≤ 2 ^ 53) :
    2 ^ ((m * 2 ^ s).log2 - 52) ∣ m * 2 ^ s := by
  by_cases hz : m = 0
  · simp [hz]
  have hne : m * 2 ^ s ≠ 0 := Nat.mul_ne_zero hz (Nat.ne_of_gt (Nat.two_pow_pos s))
  by_cases hm : m = 2 ^ 53
  · have : m * 2 ^ s = 2 ^ (53 + s) := by rw [hm, Nat.pow_add]
    rw [this, Nat.log2_two_pow]
    exact Nat.pow_dvd_pow 2 (by omega)
  · have hlt : m * 2 ^ s < 2 ^ (53 + s) := by
      rw [Nat.pow_add]
      exact Nat.mul_lt_mul_of_pos_right (by omega) (Nat.two_pow_pos s)
    have : (m * 2 ^ s).log2 < 53 + s := (Nat.log2_lt hne).2 hlt
    exact Nat.dvd_trans (Nat.pow_dvd_pow 2 (by omega)) (Nat.dvd_mul_left _ _)

theorem dvd_nearest (num : Nat) {den : Nat} (hd : 0 < den) :
    2 ^ ((nearest num den).log2 - 52) ∣ nearest num den := by
  apply two_pow_dvd_shift
  apply roundDiv_le (Nat.mul_pos hd (Nat.two_pow_pos _))
  have hq : num / den < 2 ^ (53 + spacing (num / den)) := by
    by_cases hz : num / den = 0
    · rw [hz]; exact Nat.two_pow_pos _
    · apply (Nat.log2_lt hz).1
      unfold spacing
      omega
  have := (Nat.div_lt_iff_lt_mul hd).1 hq
  rw [Nat.pow_add] at this
  rwa [Nat.mul_assoc, Nat.mul_comm (2 ^ _) den] at this

/-- The number nearest to `num / den` units, or an infinity if that is out of range. -/
def ofUnits (negative : Bool) (num den : Nat) (hd : 0 < den := by decide) : Number :=
  if h : nearest num den < ceiling then
    .finite negative (nearest num den) ⟨h, dvd_nearest num hd⟩
  else .infinite negative

def ofNat (n : Nat) : Number := ofUnits false (n * one) 1

def ofInt (n : Int) : Number := ofUnits (n < 0) (n.natAbs * one) 1

def isNegative : Number → Bool
  | finite negative _ _ | infinite negative => negative

def isFinite : Number → Bool
  | finite .. => true
  | infinite _ => false

def neg : Number → Number
  | finite negative units fits => finite (!negative) units fits
  | infinite negative => infinite (!negative)

/-- Place on the number line, counted in units, with the infinities just beyond the rest. -/
def position : Number → Int
  | finite negative units _ => if negative then -(units : Int) else units
  | infinite negative => if negative then -(ceiling : Int) else ceiling

/-- Equality of quantities: the sign of zero does not count. -/
def same (a b : Number) : Bool := a.position == b.position

instance : LT Number := ⟨fun a b => a.position < b.position⟩

instance (a b : Number) : Decidable (a < b) := inferInstanceAs (Decidable (a.position < b.position))

theorem lt_def {a b : Number} : a < b ↔ a.position < b.position := Iff.rfl

@[simp] theorem same_iff {a b : Number} : a.same b = true ↔ a.position = b.position := by
  simp [same]

/-- Holds of finite numbers without a fraction. -/
def isWhole : Number → Bool
  | finite _ units _ => units % one == 0
  | infinite _ => false

/-- The whole part, with the sign; the infinities have none. -/
def truncate? : Number → Option Int
  | finite negative units _ =>
    some (if negative then -(units / one : Nat) else (units / one : Nat))
  | infinite _ => none

/-- The whole part, held within `low` and `high`, which stand in for the infinities. -/
def clamp (low high : Int) (x : Number) : Int :=
  match x.truncate? with
  | some n => max low (min high n)
  | none => if x.isNegative then low else high

/-- The product, rounded once. -/
def mul (a b : Number) : Number :=
  match a, b with
  | finite s u _, finite t v _ => ofUnits (s != t) (u * v) one one_pos
  | _, _ => infinite (a.isNegative != b.isNegative)

/-- The quotient by a number other than zero, rounded once. -/
def div (a b : Number) : Number :=
  match a, b with
  | finite s u _, finite t v _ =>
    if h : 0 < v then ofUnits (s != t) (u * one) v h else infinite (s != t)
  | infinite _, _ => infinite (a.isNegative != b.isNegative)
  | _, infinite _ => finite (a.isNegative != b.isNegative) 0 ⟨ceiling_pos, Nat.dvd_zero _⟩

/-- Sign, biased exponent and fraction packed into 64 bits. -/
def toBits : Number → Nat
  | finite negative units _ =>
    let s := spacing units
    let packed := if units < 2 ^ 52 then units else s * 2 ^ 52 + units / 2 ^ s
    if negative then packed + 2 ^ 63 else packed
  | infinite negative => if negative then 0xfff * 2 ^ 52 else 0x7ff * 2 ^ 52

end Number
end PathQuery
