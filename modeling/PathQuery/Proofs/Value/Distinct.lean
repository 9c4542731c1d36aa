import PathQuery.Json.Reader
import PathQuery.Value.Basic

/-! Values whose objects name every member once, at any depth, so that a name leads to its value.
All documents that are read are of this kind. -/
namespace PathQuery

namespace Members
variable {α : Type} {m : Members α} {name : String} {a : α}

theorem get?_of_mem (hm : m.names.Nodup) (h : (name, a) ∈ m) : m.get? name = some a := by
  induction m with
  | nil => simp at h
  | cons entry rest ih =>
    simp only [names, List.map_cons, List.nodup_cons] at hm
    rcases List.mem_cons.1 h with rfl | h
    · simp [get?]
    · have hne : entry.1 ≠ name := by
        rintro rfl
        exact hm.1 (List.mem_map.2 ⟨_, h, rfl⟩)
      rw [get?, if_neg hne]
      exact ih hm.2 h

theorem insert_of_notMem (h : name ∉ m.names) : m.insert name a = m ++ [(name, a)] := by
  induction m with
  | nil => rfl
  | cons entry rest ih =>
    simp only [names, List.map_cons, List.mem_cons, not_or] at h
    rw [insert, if_neg (Ne.symm h.1), ih h.2, List.cons_append]

theorem names_insert_of_notMem (h : name ∉ m.names) :
    (m.insert name a).names = m.names ++ [name] := by
  rw [insert_of_notMem h, names, List.map_append]
  rfl

theorem nodup_names_insert (hm : m.names.Nodup) : (m.insert name a).names.Nodup := by
  by_cases h : name ∈ m.names
  · rwa [names_insert_of_mem a h]
  · rw [names_insert_of_notMem h, List.nodup_append]
    refine ⟨hm, by simp, ?_⟩
    rintro other ho _ hn rfl
    exact h (List.mem_singleton.1 hn ▸ ho)

theorem mem_insert {entry : String × α} (h : entry ∈ m.insert name a) :
    entry ∈ m ∨ entry = (name, a) := by
  induction m with
  | nil => exact .inr (List.mem_singleton.1 h)
  | cons first rest ih =>
    rw [insert] at h
    split at h
    · rcases List.mem_cons.1 h with rfl | h
      · exact .inr rfl
      · exact .inl (List.mem_cons_of_mem _ h)
    · rcases List.mem_cons.1 h with rfl | h
      · exact .inl (List.mem_cons_self ..)
      · exact (ih h).imp (List.mem_cons_of_mem _) id

/-- Whatever the entries, each name comes once, with one of its entries. -/
theorem ofList_spec (entries : List (String × α)) :
    (ofList entries).names.Nodup ∧ ∀ entry ∈ ofList entries, entry ∈ entries := by
  have fold (more : List (String × α)) (m : Members α) (hm : m.names.Nodup) :
      (more.foldl (fun m entry => m.insert entry.1 entry.2) m).names.Nodup ∧
        ∀ entry ∈ more.foldl (fun m entry => m.insert entry.1 entry.2) m,
          entry ∈ m ∨ entry ∈ more := by
    induction more generalizing m with
    | nil => exact ⟨hm, fun _ => .inl⟩
    | cons first more ih =>
      obtain ⟨hnodup, hmem⟩ := ih (m.insert first.1 first.2) (nodup_names_insert hm)
      refine ⟨hnodup, fun entry he => ?_⟩
      rcases hmem entry he with he | he
      · exact (mem_insert he).imp id fun h => by simp [h]
      · exact .inr (List.mem_cons_of_mem _ he)
  obtain ⟨hnodup, hmem⟩ := fold entries [] .nil
  exact ⟨hnodup, fun entry he => (hmem entry he).resolve_left (by simp)⟩

end Members

namespace Value

inductive Distinct : Value → Prop where
  | null : Distinct null
  | bool (b : Bool) : Distinct (bool b)
  | number (x : Number) : Distinct (number x)
  | string (s : String) : Distinct (string s)
  | array {items : List Value} (h : ∀ item ∈ items, item.Distinct) : Distinct (array items)
  | object {members : List (String × Value)} (names : (Members.names members).Nodup)
      (h : ∀ member ∈ members, member.2.Distinct) : Distinct (object members)

attribute [simp] Distinct.null Distinct.bool Distinct.number Distinct.string

@[simp] theorem distinct_array {items : List Value} :
    (array items).Distinct ↔ ∀ item ∈ items, item.Distinct := by
  constructor
  · rintro ⟨⟩
    assumption
  · exact .array

@[simp] theorem distinct_object {members : List (String × Value)} : (object members).Distinct ↔
    (Members.names members).Nodup ∧ ∀ member ∈ members, member.2.Distinct := by
  constructor
  · rintro ⟨⟩
    exact ⟨‹_›, ‹_›⟩
  · rintro ⟨names, h⟩
    exact .object names h

theorem itemsOfJson_eq_map (items : List Json) : itemsOfJson items = items.map ofJson := by
  induction items with
  | nil => rfl
  | cons item rest ih => rw [itemsOfJson, ih, List.map_cons]

theorem membersOfJson_eq_map (members : List (String × Json)) :
    membersOfJson members = members.map fun m => (m.1, ofJson m.2) := by
  induction members with
  | nil => rfl
  | cons member rest ih => rw [membersOfJson, ih, List.map_cons]

end Value

namespace Json

/-- As a value, this keeps the names of members apart. -/
def Distinct (j : Json) : Prop := (Value.ofJson j).Distinct

theorem distinct_array {items : List Json} (h : ∀ item ∈ items, item.Distinct) :
    (array items).Distinct := by
  rw [Distinct, Value.ofJson, Value.itemsOfJson_eq_map, Value.distinct_array, List.forall_mem_map]
  exact h

theorem distinct_object_ofList {members : List (String × Json)}
    (h : ∀ member ∈ members, member.2.Distinct) : (object (Members.ofList members)).Distinct := by
  obtain ⟨names, hmem⟩ := Members.ofList_spec members
  rw [Distinct, Value.ofJson, Value.membersOfJson_eq_map, Value.distinct_object]
  constructor
  · rw [Members.names, List.map_map]
    exact names
  · rw [List.forall_mem_map]
    exact fun member hm => h member (hmem member hm)

theorem distinct_of_scalar? {text rest : List Char} {j : Json}
    (h : scalar? text = some (j, rest)) : j.Distinct := by
  have word {word : String} (value : Json) (hv : value.Distinct)
      (h : word? word value text = some (j, rest)) : j.Distinct := by
    unfold word? at h
    split at h
    · cases h
      exact hv
    · simp at h
  unfold scalar? at h
  split at h
  · simp at h
  · obtain ⟨_, -, he⟩ := Option.map_eq_some_iff.1 h
    cases he
    exact Value.Distinct.string _
  · exact word .null Value.Distinct.null h
  · exact word (.bool true) (Value.Distinct.bool true) h
  · exact word (.bool false) (Value.Distinct.bool false) h
  · simp only [numeral?, Option.bind_eq_bind, Option.bind_eq_some_iff] at h
    obtain ⟨_, -, n, -, he⟩ := h
    cases he
    cases n <;> exact Value.Distinct.number _

/-- A reader that keeps names apart. -/
def KeepsDistinct (value : Reader) : Prop := ∀ text t, value text = some t → t.value.Distinct

section
variable {value : Reader} (keeps : KeepsDistinct value) {text : List Char}
include keeps

theorem distinct_of_items? {t : Taken (List Json) text} (h : items? value text = some t) :
    ∀ item ∈ t.value, item.Distinct := by
  fun_induction items? value text with
  | case1 text ih =>
    obtain ⟨item, hitem, h⟩ := Option.bind_eq_some_iff.1 h
    have first := keeps _ _ hitem
    dsimp only at h
    split at h
    · cases h
      simpa using first
    next rest hrest =>
      obtain ⟨more, hmore, h⟩ := Option.bind_eq_some_iff.1 h
      cases h
      have others := ih item rest hrest hmore
      exact List.forall_mem_cons.2 ⟨first, others⟩
    · simp at h

theorem distinct_of_members? {t : Taken (List (String × Json)) text}
    (h : members? value text = some t) : ∀ member ∈ t.value, member.2.Distinct := by
  fun_induction members? value text with
  | case1 text ih =>
    obtain ⟨name, hname, h⟩ := Option.bind_eq_some_iff.1 h
    obtain ⟨item, hitem, h⟩ := Option.bind_eq_some_iff.1 h
    have first := keeps _ _ hitem
    dsimp only at h
    split at h
    · cases h
      simpa using first
    next rest hrest =>
      obtain ⟨more, hmore, h⟩ := Option.bind_eq_some_iff.1 h
      cases h
      have others := ih name item rest hrest hmore
      exact List.forall_mem_cons.2 ⟨first, others⟩
    · simp at h

end

theorem keepsDistinct_valueWith? {inner : Option Reader} (keeps : ∀ r ∈ inner, KeepsDistinct r) :
    KeepsDistinct (valueWith? inner) := by
  intro text t h
  unfold valueWith? at h
  split at h
  next body hbody =>
    obtain ⟨r, hr, h⟩ := Option.bind_eq_some_iff.1 h
    obtain ⟨items, hitems, h⟩ := Option.bind_eq_some_iff.1 h
    cases h
    apply distinct_array
    unfold array? at hitems
    split at hitems
    · cases hitems
      simp
    · exact distinct_of_items? (keeps r hr) hitems
  next body hbody =>
    obtain ⟨r, hr, h⟩ := Option.bind_eq_some_iff.1 h
    obtain ⟨members, hmembers, h⟩ := Option.bind_eq_some_iff.1 h
    cases h
    apply distinct_object_ofList
    unfold object? at hmembers
    split at hmembers
    · cases hmembers
      simp
    · exact distinct_of_members? (keeps r hr) hmembers
  · split at h
    next hs =>
      cases h
      exact distinct_of_scalar? hs
    · simp at h

theorem keepsDistinct_value? (depth : Nat) : KeepsDistinct (value? depth) := by
  induction depth with
  | zero => exact keepsDistinct_valueWith? (by simp)
  | succ depth ih => exact keepsDistinct_valueWith? (by simpa using ih)

/-- Every document that is read names each member once. -/
theorem distinct_of_ofText? {text : String} {depth : Nat} {j : Json}
    (h : ofText? text depth = some j) : (Value.ofJson j).Distinct := by
  obtain ⟨t, ht, h⟩ := Option.bind_eq_some_iff.1 h
  obtain ⟨_, -, h⟩ := Option.bind_eq_some_iff.1 h
  cases h
  exact keepsDistinct_value? depth _ t ht

end Json
end PathQuery
