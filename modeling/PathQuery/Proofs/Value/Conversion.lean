import PathQuery.Proofs.Number.Printing
import PathQuery.Proofs.Value.Variation

/-! Values converted to JSON and back. Names, order and nesting stay as they are, and so do all numbers
that are not infinite, but for the sign of zero. What comes from JSON holds no infinity. -/
namespace PathQuery

namespace Number

/-- A whole number that a number has as its whole part is, as a number, what is left without the sign
of zero. -/
theorem ofInt_of_truncate? {negative : Bool} {units : Nat} {fits : Fits units}
    (hw : units % one = 0) {n : Int} (hn : truncate? (finite negative units fits) = some n) :
    ofInt n = reread (finite negative units fits) := by
  obtain ⟨hunits, hsign⟩ := whole_of_truncate? hw hn
  have rounded : ofUnits (n < 0) (n.natAbs * one * 1) 1 Nat.one_pos = _ :=
    ofUnits_of_fits _ (hunits ▸ fits)
  rw [Nat.mul_one] at rounded
  rw [ofInt, rounded, reread, ← hsign]
  subst hunits
  rfl

theorem ofJson_numberToJson {x : Number} (h : x.isFinite = true) :
    Value.ofJson (Value.numberToJson x) = .number x.reread := by
  cases x with
  | infinite => simp [isFinite] at h
  | finite negative units fits =>
    rcases numberToJson_finite fits with ⟨n, range, hw, hn, hjson⟩ | ⟨hne, hjson⟩
    · rw [hjson, ← ofInt_of_truncate? hw hn]
      rfl
    · have hsign : (negative && units != 0) = negative := by simp [hne]
      rw [hjson, reread, hsign]
      rfl

/-- What fits 64 bits is far from out of range. -/
theorem isFinite_ofInt {n : Int} (h : n.natAbs ≤ 2 ^ 64) : (ofInt n).isFinite = true := by
  have hsize : n.natAbs * one < 2 ^ 1139 * 1 := by
    unfold one
    calc n.natAbs * 2 ^ 1074 < 2 ^ 65 * 2 ^ 1074 :=
          Nat.mul_lt_mul_of_pos_right (by omega) (Nat.two_pow_pos _)
      _ = 2 ^ 1139 * 1 := by rw [← Nat.pow_add, Nat.mul_one]
  have hrange : nearest (n.natAbs * one) 1 < ceiling := by
    calc nearest (n.natAbs * one) 1 ≤ 2 ^ 1139 := nearest_le_two_pow Nat.one_pos hsize
      _ < ceiling := by
        unfold ceiling
        exact Nat.pow_lt_pow_right (by decide) (by decide)
  rw [ofInt, ofUnits, dif_pos hrange]
  rfl

end Number

namespace Value

mutual

/-- All numbers of a value, at any depth. -/
def numbers : Value → List Number
  | number x => [x]
  | array items => numbersOfItems items
  | object members => numbersOfMembers members
  | _ => []

def numbersOfItems : List Value → List Number
  | [] => []
  | item :: rest => item.numbers ++ numbersOfItems rest

def numbersOfMembers : List (String × Value) → List Number
  | [] => []
  | (_, value) :: rest => value.numbers ++ numbersOfMembers rest

end

mutual

/-- The same value with each zero left without its sign. -/
def unsignedZeros : Value → Value
  | number x => number x.reread
  | array items => array (unsignedItems items)
  | object members => object (unsignedMembers members)
  | v => v

def unsignedItems : List Value → List Value
  | [] => []
  | item :: rest => item.unsignedZeros :: unsignedItems rest

def unsignedMembers : List (String × Value) → List (String × Value)
  | [] => []
  | (name, value) :: rest => (name, value.unsignedZeros) :: unsignedMembers rest

end

mutual

/-- Converted to JSON and back, a value without infinities only loses the signs of zeros. -/
theorem ofJson_toJson : (v : Value) → (∀ x ∈ v.numbers, x.isFinite = true) →
    ofJson v.toJson = v.unsignedZeros
  | .null, _ | .bool _, _ | .string _, _ => rfl
  | .number x, finite => Number.ofJson_numberToJson (finite x (by simp [numbers]))
  | .array items, finite => congrArg array (itemsOfJson_itemsToJson items finite)
  | .object members, finite => congrArg object (membersOfJson_membersToJson members finite)

theorem itemsOfJson_itemsToJson : (items : List Value) →
    (∀ x ∈ numbersOfItems items, x.isFinite = true) →
    itemsOfJson (itemsToJson items) = unsignedItems items
  | [], _ => rfl
  | item :: rest, finite => by
    rw [numbersOfItems, List.forall_mem_append] at finite
    rw [itemsToJson, itemsOfJson, ofJson_toJson item finite.1,
      itemsOfJson_itemsToJson rest finite.2, unsignedItems]

theorem membersOfJson_membersToJson : (members : List (String × Value)) →
    (∀ x ∈ numbersOfMembers members, x.isFinite = true) →
    membersOfJson (membersToJson members) = unsignedMembers members
  | [], _ => rfl
  | (name, value) :: rest, finite => by
    rw [numbersOfMembers, List.forall_mem_append] at finite
    rw [membersToJson, membersOfJson, ofJson_toJson value finite.1,
      membersOfJson_membersToJson rest finite.2, unsignedMembers]

end

mutual

/-- What comes from JSON holds no infinity. -/
theorem finite_ofJson : (j : Json) → ∀ x ∈ (ofJson j).numbers, x.isFinite = true
  | .null | .bool _ | .string _ => by simp [ofJson, numbers]
  | .num (.whole n range) => by
    have hsize : n.natAbs ≤ 2 ^ 64 := by omega
    simpa [ofJson, numbers] using Number.isFinite_ofInt hsize
  | .num (.real x finite) => by simpa [ofJson, numbers] using finite
  | .array items => finite_itemsOfJson items
  | .object members => finite_membersOfJson members

theorem finite_itemsOfJson : (items : List Json) →
    ∀ x ∈ numbersOfItems (itemsOfJson items), x.isFinite = true
  | [] => by simp [itemsOfJson, numbersOfItems]
  | item :: rest => by
    rw [itemsOfJson, numbersOfItems, List.forall_mem_append]
    exact ⟨finite_ofJson item, finite_itemsOfJson rest⟩

theorem finite_membersOfJson : (members : List (String × Json)) →
    ∀ x ∈ numbersOfMembers (membersOfJson members), x.isFinite = true
  | [] => by simp [membersOfJson, numbersOfMembers]
  | (name, value) :: rest => by
    rw [membersOfJson, numbersOfMembers, List.forall_mem_append]
    exact ⟨finite_ofJson value, finite_membersOfJson rest⟩

end

theorem varied_reread (x : Number) : Varied (number x) (number x.reread) := by
  cases x with
  | infinite => exact .refl
  | finite negative units fits =>
    by_cases h : units = 0
    · subst h
      exact .single (.sign fits fits)
    · have hsign : (negative && units != 0) = negative := by simp [h]
      rw [Number.reread, hsign]

mutual

theorem varied_unsignedZeros : (v : Value) → Varied v v.unsignedZeros
  | .null | .bool _ | .string _ => .refl
  | .number x => varied_reread x
  | .array items => varied_array (varied_unsignedItems items)
  | .object members => varied_object (varied_unsignedMembers members)

theorem varied_unsignedItems : (items : List Value) →
    List.Forall₂ Varied items (unsignedItems items)
  | [] => .nil
  | item :: rest => .cons (varied_unsignedZeros item) (varied_unsignedItems rest)

theorem varied_unsignedMembers : (members : List (String × Value)) →
    List.Forall₂ (fun m n => m.1 = n.1 ∧ Varied m.2 n.2) members (unsignedMembers members)
  | [] => .nil
  | (_, value) :: rest =>
    .cons ⟨rfl, varied_unsignedZeros value⟩ (varied_unsignedMembers rest)

end

/-- A value without infinities comes back from JSON as an equal value: in its shape and order it is the
same, and at most a zero has lost its sign. Whatever JSON a value comes from, it is equal to what comes
back of it. -/
theorem json_round_trip :
    (∀ v : Value, (∀ x ∈ v.numbers, x.isFinite = true) → v.Distinct →
      ofJson v.toJson = v.unsignedZeros ∧ v.same (ofJson v.toJson) = true) ∧
    ∀ j : Json, j.Distinct →
      ofJson (ofJson j).toJson = (ofJson j).unsignedZeros ∧
        (ofJson j).same (ofJson (ofJson j).toJson) = true := by
  have back : ∀ v : Value, (∀ x ∈ v.numbers, x.isFinite = true) → v.Distinct →
      ofJson v.toJson = v.unsignedZeros ∧ v.same (ofJson v.toJson) = true := by
    intro v finite distinct
    have restored := ofJson_toJson v finite
    refine ⟨restored, ?_⟩
    rw [restored]
    exact (same_of_varied distinct (varied_unsignedZeros v)).1
  exact ⟨back, fun j distinct => back (ofJson j) (finite_ofJson j) distinct⟩

/-- A zero of this sign beside members out of alphabetical order. -/
def zeroBeside (negative : Bool) : Value :=
  array [number (.finite negative 0 Number.fits_zero), object [("b", bool true), ("a", null)]]

/-- The zero loses its sign, and a number that 64 bits hold and 53 do not is rounded once. -/
theorem json_round_trip_zero :
    (∀ x ∈ (zeroBeside true).numbers, x.isFinite = true) ∧ (zeroBeside true).Distinct ∧
      ofJson (zeroBeside true).toJson = zeroBeside false ∧
      (Json.num (.whole (2 ^ 64 - 1) (by decide))).Distinct ∧
      (ofJson (.num (.whole (2 ^ 64 - 1) (by decide)))).same
        (ofJson (ofJson (.num (.whole (2 ^ 64 - 1) (by decide)))).toJson) = true := by
  have finite : ∀ x ∈ (zeroBeside true).numbers, x.isFinite = true := by
    simp [zeroBeside, numbers, numbersOfItems, numbersOfMembers, Number.isFinite]
  have distinct : (zeroBeside true).Distinct := by simp [zeroBeside, Members.names]
  have whole : (Json.num (.whole (2 ^ 64 - 1) (by decide))).Distinct := Distinct.number _
  refine ⟨finite, distinct, ?_, whole, (json_round_trip.2 _ whole).2⟩
  exact (json_round_trip.1 _ finite distinct).1

end Value

end PathQuery
