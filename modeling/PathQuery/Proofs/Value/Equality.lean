import Mathlib.Data.List.Perm.Subperm
import PathQuery.Proofs.Value.Distinct
import PathQuery.Value.Comparison

/-! Equality of values. It is a walk through the first value that looks the members up in the
second. So it carries over to a third, and it can be turned round where no member is named twice. -/
namespace PathQuery

namespace Number
variable {x y : Number}

theorem natAbs_position_finite (negative : Bool) {units : Nat} (fits : Fits units) :
    (finite negative units fits).position.natAbs = units := by
  cases negative with
  | false => exact Int.natAbs_natCast units
  | true => exact (Int.natAbs_neg _).trans (Int.natAbs_natCast units)

theorem natAbs_position_infinite (negative : Bool) :
    (infinite negative).position.natAbs = ceiling := by
  cases negative with
  | false => exact Int.natAbs_natCast ceiling
  | true => exact (Int.natAbs_neg _).trans (Int.natAbs_natCast ceiling)

/-- Of two equal numbers that are not one, both are zero. -/
theorem eq_or_zero_of_same (h : x.same y = true) :
    x = y ∨ ∃ a b fits fits', x = finite a 0 fits ∧ y = finite b 0 fits' := by
  rw [same_iff] at h
  have hsize := congrArg Int.natAbs h
  cases x with
  | finite a u hu =>
    cases y with
    | finite b v hv =>
      rw [natAbs_position_finite, natAbs_position_finite] at hsize
      subst hsize
      by_cases h0 : u = 0
      · subst h0
        exact .inr ⟨a, b, hu, hv, rfl, rfl⟩
      · refine .inl ?_
        cases a <;> cases b <;> simp [position] at h ⊢ <;> omega
    | infinite b =>
      rw [natAbs_position_finite, natAbs_position_infinite] at hsize
      exact absurd hsize (Nat.ne_of_lt hu.1)
  | infinite a =>
    cases y with
    | finite b v hv =>
      rw [natAbs_position_finite, natAbs_position_infinite] at hsize
      exact absurd hsize.symm (Nat.ne_of_lt hv.1)
    | infinite b =>
      have hpos := ceiling_pos
      have hsign : a = b := by
        cases a <;> cases b
        case false.true =>
          change (ceiling : Int) = -(ceiling : Int) at h
          omega
        case true.false =>
          change -(ceiling : Int) = (ceiling : Int) at h
          omega
        all_goals rfl
      exact .inl (congrArg infinite hsign)

theorem isWhole_congr (h : x.same y = true) : x.isWhole = y.isWhole := by
  rcases eq_or_zero_of_same h with rfl | ⟨a, b, fits, fits', rfl, rfl⟩ <;> rfl

theorem clamp_congr (h : x.same y = true) (low high : Int) :
    x.clamp low high = y.clamp low high := by
  rcases eq_or_zero_of_same h with rfl | ⟨a, b, fits, fits', rfl, rfl⟩
  · rfl
  · simp [clamp, truncate?]

end Number

namespace Value

theorem sameMembers_iff {members others : List (String × Value)} :
    sameMembers members others = true ↔
      ∀ member ∈ members, ∃ other, Members.get? others member.1 = some other ∧
        member.2.same other = true := by
  induction members with
  | nil => simp [sameMembers]
  | cons member rest ih =>
    obtain ⟨name, value⟩ := member
    rw [sameMembers, Bool.and_eq_true, ih, List.forall_mem_cons]
    cases Members.get? others name <;> simp

mutual

theorem same_trans : (a b c : Value) → a.same b = true → b.same c = true → a.same c = true
  | .null, b, c, h, h' => by
    cases b <;> simp [same] at h
    exact h'
  | .bool _, b, c, h, h' => by
    cases b <;> simp [same] at h
    subst h
    exact h'
  | .number x, b, c, h, h' => by
    cases b <;> simp [same] at h
    cases c <;> simp [same] at h' ⊢
    exact h.trans h'
  | .string _, b, c, h, h' => by
    cases b <;> simp [same] at h
    subst h
    exact h'
  | .array items, b, c, h, h' => by
    cases b <;> simp [same] at h
    cases c <;> simp [same] at h' ⊢
    exact sameItems_trans items _ _ h h'
  | .object members, b, c, h, h' => by
    cases b <;> simp [same] at h
    cases c <;> simp [same] at h' ⊢
    exact ⟨h.1.trans h'.1, sameMembers_trans members _ _ h.2 h'.2⟩

theorem sameItems_trans : (items others more : List Value) → sameItems items others = true →
    sameItems others more = true → sameItems items more = true
  | [], [], _, _, h' => h'
  | [], _ :: _, _, h, _ => by simp [sameItems] at h
  | _ :: _, [], _, h, _ => by simp [sameItems] at h
  | _ :: _, _ :: _, [], _, h' => by simp [sameItems] at h'
  | item :: rest, other :: others, another :: more, h, h' => by
    simp only [sameItems, Bool.and_eq_true] at h h' ⊢
    exact ⟨same_trans item _ _ h.1 h'.1, sameItems_trans rest _ _ h.2 h'.2⟩

theorem sameMembers_trans : (members others more : List (String × Value)) →
    sameMembers members others = true → sameMembers others more = true →
    sameMembers members more = true
  | [], _, _, _, _ => rfl
  | (name, value) :: rest, others, more, h, h' => by
    rw [sameMembers_iff, List.forall_mem_cons, ← sameMembers_iff] at h
    obtain ⟨⟨other, hother, hsame⟩, hrest⟩ := h
    obtain ⟨another, hanother, hsame'⟩ := sameMembers_iff.1 h' _ (Members.mem_of_get? hother)
    simp only [sameMembers, hanother, Bool.and_eq_true]
    exact ⟨same_trans value _ _ hsame hsame', sameMembers_trans rest _ _ hrest h'⟩

end

theorem sameItems_iff {items others : List Value} :
    sameItems items others = true ↔ List.Forall₂ (fun v w => v.same w = true) items others := by
  induction items generalizing others with
  | nil => cases others <;> simp [sameItems]
  | cons item rest ih => cases others <;> simp [sameItems, ih]

theorem same_refl {a : Value} (ha : a.Distinct) : a.same a = true := by
  induction ha with
  | null | bool | number | string => simp [same]
  | array _ ih =>
    rw [same, sameItems_iff, List.forall₂_same]
    exact ih
  | object names _ ih =>
    simp only [same, BEq.rfl, Bool.true_and, sameMembers_iff]
    exact fun member hm => ⟨member.2, Members.get?_of_mem names hm, ih member hm⟩

/-- Lists that hold each other's names are as long as each other, so the second names no member
twice either. -/
theorem names_perm {members others : List (String × Value)}
    (names : (Members.names members).Nodup) (length : members.length = others.length)
    (h : sameMembers members others = true) :
    (Members.names members).Perm (Members.names others) := by
  have subset : Members.names members ⊆ Members.names others := by
    intro name hname
    obtain ⟨member, hm, rfl⟩ := List.mem_map.1 hname
    obtain ⟨other, hother, -⟩ := sameMembers_iff.1 h member hm
    exact List.mem_map.2 ⟨_, Members.mem_of_get? hother, rfl⟩
  apply (List.subperm_of_subset names subset).perm_of_length_le
  simp [Members.names, length]

theorem sameItems_symm {items others : List Value}
    (turn : ∀ item ∈ items, ∀ other, item.same other = true → other.same item = true)
    (h : sameItems items others = true) : sameItems others items = true := by
  induction items generalizing others with
  | nil => cases others <;> simp_all [sameItems]
  | cons item rest ih =>
    cases others with
    | nil => simp [sameItems] at h
    | cons other others =>
      simp only [sameItems, Bool.and_eq_true] at h ⊢
      constructor
      · exact turn item (by simp) other h.1
      · exact ih (fun i hi => turn i (List.mem_cons_of_mem _ hi)) h.2

theorem sameMembers_symm {members others : List (String × Value)}
    (names : (Members.names members).Nodup) (length : members.length = others.length)
    (turn : ∀ member ∈ members, ∀ other, member.2.same other = true → other.same member.2 = true)
    (h : sameMembers members others = true) : sameMembers others members = true := by
  have perm := names_perm names length h
  rw [sameMembers_iff]
  intro other hother
  obtain ⟨member, hmember, hname⟩ := List.mem_map.1 (perm.mem_iff.2 (List.mem_map_of_mem hother))
  obtain ⟨found, hfound, hsame⟩ := sameMembers_iff.1 h member hmember
  -- Under the name of `other`, the second list holds nothing else.
  have first := Members.get?_of_mem (perm.nodup names) hother
  rw [← hname, hfound] at first
  cases first
  refine ⟨member.2, ?_, turn member hmember _ hsame⟩
  rw [← hname]
  exact Members.get?_of_mem names hmember

theorem same_symm {a b : Value} (ha : a.Distinct) (h : a.same b = true) : b.same a = true := by
  induction ha generalizing b with
  | null | bool | number | string => cases b <;> simp_all [same]
  | array _ ih =>
    cases b <;> simp [same] at h ⊢
    exact sameItems_symm (fun item hi other => ih item hi) h
  | object names _ ih =>
    cases b <;> simp [same] at h ⊢
    exact ⟨h.1.symm, sameMembers_symm names h.1 (fun member hm other => ih member hm) h.2⟩

/-- Equal values are equal to the same values. -/
theorem same_congr {a b : Value} (ha : a.Distinct) (h : a.same b = true) (c : Value) :
    c.same a = c.same b := by
  rw [Bool.eq_iff_iff]
  constructor
  · intro hc
    exact same_trans c a b hc h
  · intro hc
    exact same_trans c b a hc (same_symm ha h)

theorem lt_congr {a b : Value} (h : a.same b = true) (c : Value) :
    c.lt a = c.lt b ∧ a.lt c = b.lt c := by
  cases a <;> cases b <;> simp [same] at h
  case number x y => cases c <;> simp [lt, Number.lt_def, h]
  case string s t => cases c <;> simp [lt, h]
  all_goals cases c <;> simp [lt]

end Value

theorem Comparison.holds_congr (op : Comparison) {a b : Value} (ha : a.Distinct)
    (h : a.same b = true) (c : Value) : op.holds c a = op.holds c b := by
  have same := Value.same_congr ha h c
  have lt := Value.lt_congr h c
  cases op <;> simp only [holds, same, lt.1, lt.2]

end PathQuery
