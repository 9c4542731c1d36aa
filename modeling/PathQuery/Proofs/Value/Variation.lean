import Mathlib.Logic.Relation
import PathQuery.Proofs.Number.Rounding
import PathQuery.Proofs.Value.Equality

/-! What equality of values disregards: the order of members and the sign of zeros, at any depth,
and nothing else. -/
namespace PathQuery.Value

/-- One change of a value that leaves what it says: a zero takes another sign, the members of an
object another order, or an item or a member is changed in this way. -/
inductive Change : Value → Value → Prop where
  | sign {a b : Bool} (fits fits' : Number.Fits 0) :
      Change (number (.finite a 0 fits)) (number (.finite b 0 fits'))
  | order {members others : List (String × Value)} (h : members.Perm others) :
      Change (object members) (object others)
  | item {front back : List Value} {v w : Value} (h : Change v w) :
      Change (array (front ++ v :: back)) (array (front ++ w :: back))
  | member {front back : List (String × Value)} {name : String} {v w : Value} (h : Change v w) :
      Change (object (front ++ (name, v) :: back)) (object (front ++ (name, w) :: back))

/-- One value can be turned into the other by such changes. -/
abbrev Varied : Value → Value → Prop := Relation.ReflTransGen Change

/-! What is equal can be turned into each other. -/

/-- Lists that differ place by place make varied values, if one place does. -/
theorem varied_of_forall₂ {τ : Type} {R : τ → τ → Prop} {f : List τ → Value}
    (one : ∀ front back a b, R a b → Varied (f (front ++ a :: back)) (f (front ++ b :: back)))
    {items others : List τ} (h : List.Forall₂ R items others) : Varied (f items) (f others) := by
  have behind (front : List τ) : Varied (f (front ++ items)) (f (front ++ others)) := by
    induction h generalizing front with
    | nil => exact .refl
    | @cons a b items others hab _ ih =>
      have rest : Varied (f (front ++ b :: items)) (f (front ++ b :: others)) := by
        simpa using ih (front ++ [b])
      exact (one front items a b hab).trans rest
  exact behind []

theorem varied_array {items others : List Value} (h : List.Forall₂ Varied items others) :
    Varied (array items) (array others) :=
  varied_of_forall₂ (fun front back _ _ hvw =>
    hvw.lift (fun v => array (front ++ v :: back)) fun _ _ => .item) h

theorem varied_object {members others : List (String × Value)}
    (h : List.Forall₂ (fun m n => m.1 = n.1 ∧ Varied m.2 n.2) members others) :
    Varied (object members) (object others) := by
  refine varied_of_forall₂ ?_ h
  rintro front back ⟨name, v⟩ ⟨_, w⟩ ⟨rfl, hvw⟩
  exact hvw.lift (fun v => object (front ++ (name, v) :: back)) fun _ _ => .member

/-- The members that the walk of equality finds, in the order in which it finds them. -/
theorem exists_found {members others : List (String × Value)}
    (h : sameMembers members others = true) :
    ∃ found, List.Forall₂ (fun m n => m.1 = n.1 ∧ m.2.same n.2 = true) members found ∧
      ∀ n ∈ found, n ∈ others := by
  induction members with
  | nil => exact ⟨[], .nil, by simp⟩
  | cons member rest ih =>
    rw [sameMembers_iff, List.forall_mem_cons, ← sameMembers_iff] at h
    obtain ⟨⟨other, hother, hsame⟩, hrest⟩ := h
    obtain ⟨found, hfound, hmem⟩ := ih hrest
    refine ⟨(member.1, other) :: found, .cons ⟨rfl, hsame⟩ hfound, ?_⟩
    exact List.forall_mem_cons.2 ⟨Members.mem_of_get? hother, hmem⟩

/-- What is found of an object that is as long is the whole of the other, perhaps in another
order. -/
theorem found_perm {members others found : List (String × Value)}
    (names : (Members.names members).Nodup) (length : members.length = others.length)
    (h : List.Forall₂ (fun m n => m.1 = n.1 ∧ m.2.same n.2 = true) members found)
    (hmem : ∀ n ∈ found, n ∈ others) : found.Perm others := by
  have sameNames : Members.names members = Members.names found := by
    rw [Members.names, Members.names, ← List.forall₂_eq_eq_eq, List.forall₂_map_left_iff,
      List.forall₂_map_right_iff]
    exact h.imp fun _ _ hmn => hmn.1
  have distinct : found.Nodup := by
    rw [sameNames] at names
    exact List.Pairwise.of_map Prod.fst (fun _ _ hne heq => hne (congrArg Prod.fst heq)) names
  apply (List.subperm_of_subset distinct hmem).perm_of_length_le
  exact Nat.le_of_eq (length.symm.trans h.length_eq)

theorem varied_of_same {a b : Value} (ha : a.Distinct) (h : a.same b = true) : Varied a b := by
  induction ha generalizing b with
  | null =>
    cases b <;> simp [same] at h
    exact .refl
  | bool | string =>
    cases b <;> simp [same] at h
    subst h
    exact .refl
  | number x =>
    cases b <;> simp only [same, Bool.false_eq_true] at h
    rcases Number.eq_or_zero_of_same h with rfl | ⟨a, b, fits, fits', rfl, rfl⟩
    · exact .refl
    · exact .single (.sign fits fits')
  | @array items _ ih =>
    cases b <;> simp only [same, Bool.false_eq_true] at h
    have each := (List.forall₂_and_left items _).2
      ⟨fun item hi other => ih item hi (b := other), sameItems_iff.1 h⟩
    exact varied_array (each.imp fun item other hio => hio.1 other hio.2)
  | @object members names _ ih =>
    cases b <;> simp only [same, Bool.false_eq_true, Bool.and_eq_true, beq_iff_eq] at h
    obtain ⟨found, hfound, hmem⟩ := exists_found h.2
    have each := (List.forall₂_and_left members _).2
      ⟨fun member hm other => ih member hm (b := other), hfound⟩
    have values : Varied (object members) (object found) :=
      varied_object (each.imp fun m n hmn => ⟨hmn.2.1, hmn.1 n.2 hmn.2.2⟩)
    exact values.tail (.order (found_perm names h.1 hfound hmem))

/-! What has been changed is still equal. -/

theorem same_order {members others : List (String × Value)} (h : members.Perm others)
    (ha : (object members).Distinct) :
    (object members).same (object others) = true ∧ (object others).Distinct := by
  obtain ⟨names, values⟩ := distinct_object.1 ha
  have otherNames : (Members.names others).Nodup := (h.map Prod.fst).nodup names
  constructor
  · simp only [same, h.length_eq, BEq.rfl, Bool.true_and, sameMembers_iff]
    intro member hm
    exact ⟨member.2, Members.get?_of_mem otherNames (h.mem_iff.1 hm), same_refl (values member hm)⟩
  · exact .object otherNames fun member hm => values member (h.mem_iff.2 hm)

theorem same_item {front back : List Value} {v w : Value} (h : v.same w = true) (hw : w.Distinct)
    (ha : (array (front ++ v :: back)).Distinct) :
    (array (front ++ v :: back)).same (array (front ++ w :: back)) = true ∧
      (array (front ++ w :: back)).Distinct := by
  rw [distinct_array] at ha
  have hfront : List.Forall₂ (fun v w : Value => v.same w = true) front front :=
    List.forall₂_same.2 fun item hi => same_refl (ha item (by simp [hi]))
  have hback : List.Forall₂ (fun v w : Value => v.same w = true) back back :=
    List.forall₂_same.2 fun item hi => same_refl (ha item (by simp [hi]))
  constructor
  · rw [same, sameItems_iff]
    exact List.rel_append hfront (.cons h hback)
  · rw [distinct_array]
    intro item hi
    rcases List.mem_append.1 hi with hi | hi
    · exact ha item (by simp [hi])
    · rcases List.mem_cons.1 hi with rfl | hi
      · exact hw
      · exact ha item (by simp [hi])

theorem same_member {front back : List (String × Value)} {name : String} {v w : Value}
    (h : v.same w = true) (hw : w.Distinct)
    (ha : (object (front ++ (name, v) :: back)).Distinct) :
    (object (front ++ (name, v) :: back)).same (object (front ++ (name, w) :: back)) = true ∧
      (object (front ++ (name, w) :: back)).Distinct := by
  obtain ⟨names, values⟩ := distinct_object.1 ha
  have otherNames : (Members.names (front ++ (name, w) :: back)).Nodup := by
    simpa [Members.names] using names
  constructor
  · simp only [same, List.length_append, List.length_cons, BEq.rfl, Bool.true_and, sameMembers_iff]
    intro member hm
    have kept (hm' : member ∈ front ++ (name, w) :: back) :
        ∃ other, Members.get? (front ++ (name, w) :: back) member.1 = some other ∧
          member.2.same other = true :=
      ⟨member.2, Members.get?_of_mem otherNames hm', same_refl (values member hm)⟩
    rcases List.mem_append.1 hm with hf | hb
    · exact kept (by simp [hf])
    · rcases List.mem_cons.1 hb with rfl | hb
      · exact ⟨w, Members.get?_of_mem otherNames (by simp), h⟩
      · exact kept (by simp [hb])
  · refine .object otherNames fun member hm => ?_
    rcases List.mem_append.1 hm with hf | hb
    · exact values member (by simp [hf])
    · rcases List.mem_cons.1 hb with rfl | hb
      · exact hw
      · exact values member (by simp [hb])

theorem same_of_change {a b : Value} (h : Change a b) (ha : a.Distinct) :
    a.same b = true ∧ b.Distinct := by
  induction h with
  | @sign a b fits fits' =>
    cases a <;> cases b <;> simp [same, Number.position]
  | order h => exact same_order h ha
  | item _ ih =>
    obtain ⟨h, hw⟩ := ih (distinct_array.1 ha _ (by simp))
    exact same_item h hw ha
  | @member front back name v w _ ih =>
    obtain ⟨h, hw⟩ := ih ((distinct_object.1 ha).2 (name, v) (by simp))
    exact same_member h hw ha

theorem same_of_varied {a b : Value} (ha : a.Distinct) (h : Varied a b) :
    a.same b = true ∧ b.Distinct := by
  induction h with
  | refl => exact ⟨same_refl ha, ha⟩
  | tail _ hbc ih =>
    obtain ⟨hab, hb⟩ := ih
    obtain ⟨hsame, hc⟩ := same_of_change hbc hb
    exact ⟨same_trans _ _ _ hab hsame, hc⟩

/-- Values are equal exactly if the members of objects can be put in another order, and zeros be
given another sign, until they are the same; that makes equality an equivalence at every depth, and
arrays equal only place by place. -/
theorem same_structural {a : Value} (ha : a.Distinct) :
    (∀ b, a.same b = true ↔ Varied a b) ∧ a.same a = true ∧
    (∀ b, a.same b = true → b.same a = true) ∧
    (∀ b c, a.same b = true → b.same c = true → a.same c = true) ∧
    ∀ items others, (array items).same (array others) = true ↔
      List.Forall₂ (fun v w => v.same w = true) items others := by
  refine ⟨fun b => ⟨varied_of_same ha, fun h => (same_of_varied ha h).1⟩, same_refl ha,
    fun b => same_symm ha, same_trans a, fun items others => ?_⟩
  rw [same, sameItems_iff]

/-- Members change places on two levels, and a zero its sign between them. -/
theorem same_structural_nested :
    (object [("a", array [object [("b", number (.finite false 0 Number.fits_zero)), ("c", null)],
        bool true]), ("d", null)]).Distinct ∧
      Varied
        (object [("a", array [object [("b", number (.finite false 0 Number.fits_zero)),
          ("c", null)], bool true]), ("d", null)])
        (object [("d", null), ("a", array [object [("c", null),
          ("b", number (.finite true 0 Number.fits_zero))], bool true])]) := by
  have distinct : (object [("a", array [object [("b", number (.finite false 0 Number.fits_zero)),
      ("c", null)], bool true]), ("d", null)]).Distinct := by
    simp [Members.names]
  have equal : (object [("a", array [object [("b", number (.finite false 0 Number.fits_zero)),
      ("c", null)], bool true]), ("d", null)]).same
        (object [("d", null), ("a", array [object [("c", null),
          ("b", number (.finite true 0 Number.fits_zero))], bool true])]) = true := by
    decide +kernel
  exact ⟨distinct, ((same_structural distinct).1 _).1 equal⟩

end PathQuery.Value
