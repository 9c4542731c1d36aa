import PathQuery.Number.Basic
/-! Decimal fractions: the number nearest to one, and the shortest one that reads back. -/
namespace PathQuery

/-- The fraction `± digits × 10 ^ exponent`. -/
structure Decimal where
  negative : Bool
  digits : Nat
  exponent : Int
  deriving DecidableEq, Repr

namespace Decimal

/-- The nearest number. Where the exponent alone settles the answer, nothing is multiplied out. -/
def toNumber (d : Decimal) : Number :=
  let up := d.exponent.toNat
  let down := (-d.exponent).toNat
  if d.digits = 0 then .ofUnits d.negative 0 1 Nat.one_pos
  else if 1024 ≤ 3 * up then .infinite d.negative
  else if d.digits.log2 + 1077 ≤ 3 * down then .ofUnits d.negative 0 1 Nat.one_pos
  else .ofUnits d.negative (d.digits * 10 ^ up * Number.one) (10 ^ down) (Nat.pow_pos (by decide))

/-- Whether `10 ^ e` is at most `num / den`. -/
def tenPowLe (e : Int) (num den : Nat) : Bool :=
  10 ^ e.toNat * den ≤ num * 10 ^ (-e).toNat

/-- The decimal exponent of the leading digit of `units`, guessed from its bits and adjusted. -/
def leading (units : Nat) : Int :=
  let guess := ((units.log2 : Int) - 1074) * 30103 / 100000
  if tenPowLe (guess + 1) units Number.one then guess + 1
  else if tenPowLe guess units Number.one then guess
  else guess - 1

/-- The two neighbours of `units` among the multiples of `10 ^ e`, nearer first; of two equally
near ones the even one comes first. -/
def neighbours (negative : Bool) (units : Nat) (e : Int) : List Decimal :=
  let num := units * 10 ^ (-e).toNat
  let den := Number.one * 10 ^ e.toNat
  let low := num / den
  let near := roundDiv num den
  [⟨negative, near, e⟩, ⟨negative, if near = low then low + 1 else low, e⟩]

/-- All digits of `units`. -/
def exact (negative : Bool) (units : Nat) : Decimal :=
  ⟨negative, units * 5 ^ 1074, -1074⟩

/-- The fraction with the fewest digits, 17 at most, that reads back as this many units; of those
the nearest. -/
def shortest (negative : Bool) (units : Nat) (fits : Number.Fits units) : Decimal :=
  let found := (List.range 17).findSome? fun (places : Nat) =>
    (neighbours negative units (leading units - places)).find? fun d =>
      d.toNumber == .finite negative units fits
  found.getD (exact negative units)

/-- Drops the zeros at the end of a positive count of digits. -/
def trimZeros (digits : Nat) : Nat :=
  if h : digits ≠ 0 ∧ digits % 10 = 0 then trimZeros (digits / 10) else digits
termination_by digits
decreasing_by omega

/-- Positional from 10⁻⁵ up to 10¹⁶, scientific with a signed exponent beyond. -/
def text (d : Decimal) : String :=
  let digits := (trimZeros d.digits).repr.toList
  let point := d.exponent + d.digits.repr.length
  let body :=
    if point ≤ -5 ∨ 16 < point then
      let mantissa := match digits with
        | first :: rest@(_ :: _) => first :: '.' :: rest
        | _ => digits
      let exponent := point - 1
      mantissa ++ 'e' :: (if exponent < 0 then '-' else '+') :: exponent.natAbs.repr.toList
    else if point ≤ 0 then
      '0' :: '.' :: List.replicate (-point).toNat '0' ++ digits
    else
      let whole := digits.take point.toNat
      let fraction := digits.drop point.toNat
      whole ++ List.replicate (point.toNat - whole.length) '0' ++
        (if fraction.isEmpty then [] else '.' :: fraction)
  String.ofList (if d.negative then '-' :: body else body)

end Decimal

/-- The parts of a written number: sign, digits before and after the point, exponent. -/
structure Numeral where
  negative : Bool
  whole : List Char
  fraction : Option (List Char)
  exponent : Option Int
  deriving DecidableEq, Repr

namespace Numeral

/-- One digit at least, and all that follow it. -/
def digits? (text : List Char) : Option (List Char × List Char) :=
  if (text.takeWhile Char.isDigit).isEmpty then none
  else some (text.takeWhile Char.isDigit, text.dropWhile Char.isDigit)

def sign (text : List Char) : Bool × List Char :=
  match text with
  | '-' :: rest => (true, rest)
  | _ => (false, text)

/-- The sign of an exponent, for which a plus may stand. -/
def exponentSign (text : List Char) : Bool × List Char :=
  match text with
  | '+' :: rest => (false, rest)
  | _ => sign text

/-- A point and its digits, if there is a point. -/
def fraction? (text : List Char) : Option (Option (List Char) × List Char) :=
  match text with
  | '.' :: rest => (digits? rest).map fun (digits, rest) => (some digits, rest)
  | _ => some (none, text)

def exponentValue (negative : Bool) (digits : List Char) : Int :=
  if negative then -(Nat.ofDigitChars 10 digits 0 : Nat) else (Nat.ofDigitChars 10 digits 0 : Nat)

def signed? (text : List Char) : Option (Int × List Char) :=
  (digits? (exponentSign text).2).map fun (digits, rest) =>
    (exponentValue (exponentSign text).1 digits, rest)

/-- An exponent, if its letter is there. -/
def exponent? (text : List Char) : Option (Option Int × List Char) :=
  match text with
  | 'e' :: rest | 'E' :: rest => (signed? rest).map fun (e, rest) => (some e, rest)
  | _ => some (none, text)

/-- Reads the numeral that `text` begins with, and returns what follows it. -/
def read? (text : List Char) : Option (Numeral × List Char) := do
  let (whole, rest) ← digits? (sign text).2
  let (fraction, rest) ← fraction? rest
  let (exponent, rest) ← exponent? rest
  return (⟨(sign text).1, whole, fraction, exponent⟩, rest)

theorem length_sign_le (text : List Char) : (sign text).2.length ≤ text.length := by
  unfold sign
  split <;> simp

theorem length_exponentSign_le (text : List Char) :
    (exponentSign text).2.length ≤ text.length := by
  unfold exponentSign
  split
  · simp
  · exact length_sign_le _

theorem shorter_of_digits? {text digits rest : List Char}
    (h : digits? text = some (digits, rest)) : rest.length < text.length := by
  unfold digits? at h
  split at h
  · simp at h
  · rename_i hne
    simp only [Option.some.injEq, Prod.mk.injEq] at h
    obtain ⟨rfl, rfl⟩ := h
    have := congrArg List.length (List.takeWhile_append_dropWhile (p := Char.isDigit) (l := text))
    have : 0 < (text.takeWhile Char.isDigit).length :=
      List.length_pos_iff.2 (by simpa using hne)
    simp only [List.length_append] at *
    omega

theorem length_le_of_fraction? {text rest : List Char} {d : Option (List Char)}
    (h : fraction? text = some (d, rest)) : rest.length ≤ text.length := by
  unfold fraction? at h
  split at h
  · obtain ⟨⟨ds, r⟩, hd, hr⟩ := Option.map_eq_some_iff.1 h
    have := shorter_of_digits? hd
    simp_all
    omega
  · simp_all

theorem shorter_of_signed? {text rest : List Char} {e : Int}
    (h : signed? text = some (e, rest)) : rest.length < text.length := by
  obtain ⟨⟨ds, r⟩, hd, hr⟩ := Option.map_eq_some_iff.1 h
  have := shorter_of_digits? hd
  have := length_exponentSign_le text
  simp_all
  omega

theorem length_le_of_exponent? {text rest : List Char} {e : Option Int}
    (h : exponent? text = some (e, rest)) : rest.length ≤ text.length := by
  unfold exponent? at h
  split at h
  case h_3 => simp_all
  all_goals
    obtain ⟨⟨e, r⟩, hd, hr⟩ := Option.map_eq_some_iff.1 h
    have := shorter_of_signed? hd
    simp_all
    omega

theorem shorter_of_read? {text rest : List Char} {n : Numeral}
    (h : read? text = some (n, rest)) : rest.length < text.length := by
  simp only [read?, Option.bind_eq_bind, Option.bind_eq_some_iff] at h
  obtain ⟨⟨whole, a⟩, ha, ⟨fraction, b⟩, hb, ⟨e, c⟩, hc, h⟩ := h
  simp only [Option.pure_def, Option.some.injEq, Prod.mk.injEq] at h hb hc
  obtain ⟨-, rfl⟩ := h
  have := shorter_of_digits? ha
  have := length_sign_le text
  have := length_le_of_fraction? hb
  have := length_le_of_exponent? hc
  omega

def toDecimal (n : Numeral) : Decimal :=
  let fraction := n.fraction.getD []
  ⟨n.negative, Nat.ofDigitChars 10 (n.whole ++ fraction) 0,
    n.exponent.getD 0 - fraction.length⟩

end Numeral

/-- The number nearest to a numeral that is the whole text. -/
def Number.ofText? (text : List Char) : Option Number :=
  match Numeral.read? text with
  | some (n, []) => some n.toDecimal.toNumber
  | _ => none

end PathQuery
