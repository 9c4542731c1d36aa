import PathQuery.Function.Standard
import PathQuery.Proofs.Number.Whole

/-! The functions that count and cut the characters of a string. However large their arguments are,
what is left of them within 64 bits finds the same characters. -/
namespace PathQuery.Function
variable {s : String} {x y : Number} {a b i : Int}

theorem natArg?_of_isInt (args : List Value) (k : Nat) (hx : x.IsInt a)
    (h : args[k]? = some (.number x)) :
    natArg? args k = some (max 0 (min (2 ^ 64 - 1) a)).toNat := by
  simp [natArg?, h, Value.number?, hx.clamp]

theorem intArg?_of_isInt (args : List Value) (k : Nat) (hx : x.IsInt a)
    (h : args[k]? = some (.number x)) :
    intArg? args k = some (max (-(2 ^ 63)) (min (2 ^ 63 - 1) a)) := by
  simp [intArg?, h, Value.number?, hx.clamp]

section
variable {α : Type} {l : List α}

theorem drop_clamped (hl : l.length ≤ 2 ^ 53) (a : Int) :
    l.drop (max 0 (min (2 ^ 64 - 1) a)).toNat = l.drop (max a 0).toNat := by
  by_cases ha : a ≤ 2 ^ 64 - 1
  · congr 1
    omega
  · rw [List.drop_eq_nil_of_le (by omega), List.drop_eq_nil_of_le (by omega)]

theorem take_clamped (hl : l.length ≤ 2 ^ 53) (a : Int) :
    l.take (max 0 (min (2 ^ 64 - 1) a)).toNat = l.take (max a 0).toNat := by
  by_cases ha : a ≤ 2 ^ 64 - 1
  · congr 1
    omega
  · rw [List.take_of_length_le (by omega), List.take_of_length_le (by omega)]

/-- The item at a place, which counts from the end if it is negative. -/
def at? (l : List α) (i : Int) : Option α :=
  let place := if i < 0 then l.length + i else i
  if place < 0 then none else l[place.toNat]?

theorem at?_of_nonneg (hi : 0 ≤ i) : at? l i = l[i.toNat]? := by
  rw [at?, if_neg (by omega), if_neg (by omega)]

/-- A place before the first item is one from the end. -/
theorem at?_of_neg (hlow : -l.length ≤ i) (hi : i < 0) : at? l i = at? l (l.length + i) := by
  rw [at?_of_nonneg (i := l.length + i) (by omega), at?, if_pos hi, if_neg (by omega)]

theorem isSome_at? (i : Int) : (at? l i).isSome = true ↔ -l.length ≤ i ∧ i < l.length := by
  by_cases hi : i < 0
  · rw [at?, if_pos hi]
    split
    · simp only [Option.isSome_none, Bool.false_eq_true, false_iff]
      omega
    · rw [isSome_getElem?]
      omega
  · rw [at?_of_nonneg (by omega), isSome_getElem?]
    omega

theorem at?_clamped (hl : l.length ≤ 2 ^ 53) (i : Int) :
    at? l (max (-(2 ^ 63)) (min (2 ^ 63 - 1) i)) = at? l i := by
  by_cases hi : -(2 ^ 63) ≤ i ∧ i ≤ 2 ^ 63 - 1
  · rw [show max (-(2 ^ 63)) (min (2 ^ 63 - 1) i) = i by omega]
  · -- No list is so long that there is an item this far from either end.
    have nothing {j : Int} (hj : j ≤ -(2 ^ 63) ∨ 2 ^ 63 - 1 ≤ j) : at? l j = none := by
      rw [← Option.not_isSome_iff_eq_none, isSome_at?]
      omega
    rw [nothing (by omega), nothing (by omega)]

end

theorem charAt_call (hs : s.length ≤ 2 ^ 53) (hx : x.IsInt i) :
    charAt.call (.string s) [.number x] =
      (at? s.toList i).map fun c => .string (String.singleton c) := by
  have hlength : s.toList.length = s.length := String.length_toList
  rw [← at?_clamped (hlength ▸ hs) i, Option.map_eq_bind]
  simp only [charAt, at?, Value.string?, intArg?_of_isInt [.number x] 0 hx rfl, hlength,
    Option.bind_eq_bind, Option.bind_some]
  generalize max (-(2 ^ 63)) (min (2 ^ 63 - 1) i) = j
  by_cases hj : (if j < 0 then s.length + j else j) < 0
  · rw [if_pos hj, if_pos hj]
    rfl
  · rw [if_neg hj, if_neg hj]
    rfl

theorem substring_call (hs : s.length ≤ 2 ^ 53) (hx : x.IsInt a) (hy : y.IsInt b) :
    substring.call (.string s) [.number x, .number y] =
      some (.string (String.ofList ((s.toList.drop (max a 0).toNat).take (max b 0).toNat))) := by
  have hlength : s.toList.length ≤ 2 ^ 53 := by rwa [String.length_toList]
  have hstart := natArg?_of_isInt [.number x, .number y] 0 hx rfl
  have hcount := natArg?_of_isInt [.number x, .number y] 1 hy rfl
  have hrest : (s.toList.drop (max a 0).toNat).length ≤ 2 ^ 53 :=
    Nat.le_trans (by simp) hlength
  simp only [substring, hstart, hcount, Option.getD_some, drop_clamped hlength, take_clamped hrest]

theorem substring_rest_call (hs : s.length ≤ 2 ^ 53) (hx : x.IsInt a) :
    substring.call (.string s) [.number x] =
      some (.string (String.ofList (s.toList.drop (max a 0).toNat))) := by
  have hlength : s.toList.length ≤ 2 ^ 53 := by rwa [String.length_toList]
  have hstart := natArg?_of_isInt [.number x] 0 hx rfl
  have hcount : natArg? [.number x] 1 = none := rfl
  simp only [substring, hstart, hcount, Option.getD_some, drop_clamped hlength]

theorem length_call (hs : s.length ≤ 2 ^ 53) :
    ∃ x, length.call (.string s) [] = some (.number x) ∧ x.IsInt s.length :=
  ⟨.ofNat s.length, rfl, Number.isInt_ofNat hs⟩

theorem isSome_charAt (hs : s.length ≤ 2 ^ 53) (hx : x.IsInt i) :
    (charAt.call (.string s) [.number x]).isSome = true ↔ -s.length ≤ i ∧ i < s.length := by
  rw [charAt_call hs hx, Option.isSome_map, isSome_at?, String.length_toList]

theorem charAt_eq_substring (hs : s.length ≤ 2 ^ 53) (hx : x.IsInt i) (hy : y.IsInt 1)
    (hlow : 0 ≤ i) (hhigh : i < s.length) :
    charAt.call (.string s) [.number x] = substring.call (.string s) [.number x, .number y] := by
  have hplace : i.toNat < s.toList.length := by
    rw [String.length_toList]
    omega
  have hcut : (s.toList.drop i.toNat).take 1 = [s.toList[i.toNat]] := by
    rw [List.drop_eq_getElem_cons hplace]
    rfl
  rw [charAt_call hs hx, at?_of_nonneg hlow, List.getElem?_eq_getElem hplace,
    substring_call hs hx hy, Int.max_eq_left hlow]
  change _ = some (Value.string (String.ofList ((s.toList.drop i.toNat).take 1)))
  rw [hcut]
  rfl

theorem charAt_from_end (hs : s.length ≤ 2 ^ 53) (hx : x.IsInt i) (hy : y.IsInt (s.length + i))
    (hlow : -s.length ≤ i) (hhigh : i < 0) :
    charAt.call (.string s) [.number x] = charAt.call (.string s) [.number y] := by
  have hlength : s.toList.length = s.length := String.length_toList
  rw [charAt_call hs hx, charAt_call hs hy, at?_of_neg (hlength ▸ hlow) hhigh, hlength]

theorem substring_characters (hs : s.length ≤ 2 ^ 53) (hx : x.IsInt a) (hy : y.IsInt b) :
    ∃ t : String, substring.call (.string s) [.number x, .number y] = some (.string t) ∧
      ∀ k : Nat, t.toList[k]? =
        if (k : Int) < max b 0 then s.toList[(max a 0).toNat + k]? else none := by
  refine ⟨_, substring_call hs hx hy, fun k => ?_⟩
  rw [String.toList_ofList, List.getElem?_take, List.getElem?_drop]
  exact if_congr (by omega) rfl rfl

theorem substring_append (hs : s.length ≤ 2 ^ 53) (hx : x.IsInt 0) (hy : y.IsInt i) :
    ∃ t u : String, substring.call (.string s) [.number x, .number y] = some (.string t) ∧
      substring.call (.string s) [.number y] = some (.string u) ∧ t ++ u = s := by
  refine ⟨_, _, substring_call hs hx hy, substring_rest_call hs hy, ?_⟩
  rw [← String.ofList_append]
  change String.ofList (s.toList.take (max i 0).toNat ++ s.toList.drop (max i 0).toNat) = s
  rw [List.take_append_drop, String.ofList_toList]

/-- The character functions agree with one another on every string whose characters a number can
count, however large their arguments are. -/
theorem characters_agree (s : String) (hs : s.length ≤ 2 ^ 53) :
    (∃ x, length.call (.string s) [] = some (.number x) ∧ x.IsInt s.length) ∧
    (∀ (x : Number) (i : Int), x.IsInt i →
      ((charAt.call (.string s) [.number x]).isSome = true ↔ -s.length ≤ i ∧ i < s.length) ∧
      (0 ≤ i → i < s.length → ∀ y, y.IsInt 1 →
        charAt.call (.string s) [.number x] =
          substring.call (.string s) [.number x, .number y]) ∧
      (-s.length ≤ i → i < 0 → ∀ y, y.IsInt (s.length + i) →
        charAt.call (.string s) [.number x] = charAt.call (.string s) [.number y])) ∧
    (∀ (x y : Number) (a b : Int), x.IsInt a → y.IsInt b →
      ∃ t : String, substring.call (.string s) [.number x, .number y] = some (.string t) ∧
        ∀ k : Nat, t.toList[k]? =
          if (k : Int) < max b 0 then s.toList[(max a 0).toNat + k]? else none) ∧
    (∀ (x y : Number) (i : Int), x.IsInt 0 → y.IsInt i →
      ∃ t u : String, substring.call (.string s) [.number x, .number y] = some (.string t) ∧
        substring.call (.string s) [.number y] = some (.string u) ∧ t ++ u = s) := by
  refine ⟨length_call hs, fun x i hx => ⟨isSome_charAt hs hx, ?_, ?_⟩, ?_, ?_⟩
  · exact fun hlow hhigh y hy => charAt_eq_substring hs hx hy hlow hhigh
  · exact fun hlow hhigh y hy => charAt_from_end hs hx hy hlow hhigh
  · exact fun x y a b hx hy => substring_characters hs hx hy
  · exact fun x y i hx hy => substring_append hs hx hy

theorem characters_agree_accented :
    "héé".length ≤ 2 ^ 53 ∧
      (charAt.call (.string "héé") [.number (.ofInt (-4))]).isSome = false ∧
      charAt.call (.string "héé") [.number (.ofInt (-3))] =
        charAt.call (.string "héé") [.number (.ofInt 0)] ∧
      charAt.call (.string "héé") [.number (.ofInt 0)] =
        substring.call (.string "héé") [.number (.ofInt 0), .number (.ofInt 1)] := by
  have hlength : "héé".length = 3 := rfl
  have hs : "héé".length ≤ 2 ^ 53 := by omega
  have isInt (n : Int) (hn : n.natAbs ≤ 4) : (Number.ofInt n).IsInt n :=
    Number.isInt_ofInt (by omega)
  obtain ⟨-, hat, -, -⟩ := characters_agree "héé" hs
  refine ⟨hs, ?_, ?_, ?_⟩
  · rw [← Bool.not_eq_true, (hat _ _ (isInt (-4) (by decide))).1]
    omega
  · exact (hat _ _ (isInt (-3) (by decide))).2.2 (by omega) (by omega) _ (isInt 0 (by decide))
  · exact (hat _ _ (isInt 0 (by decide))).2.1 (by omega) (by omega) _ (isInt 1 (by decide))

end PathQuery.Function
