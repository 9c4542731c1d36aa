import Mathlib.Algebra.GroupWithZero.Nat
import PathQuery.Proofs.Node.Apart
import PathQuery.Proofs.Query.Acceptance
import PathQuery.Proofs.Query.Composition

/-! The descent through a document. It meets every place of the document once, a value before what
it holds and the children of a value one behind the other; the children of all that it meets are
then all places but the root. -/
namespace PathQuery

namespace Value

/-- Document order of the places within a value. What holds a place comes before it; of two places
within one container, the one that lies within the earlier item or member comes first. -/
inductive Precedes : Value → Location → Location → Prop where
  | within {v : Value} {s : Step} {l : Location} : Precedes v [] (s :: l)
  | inside {v w : Value} {s : Step} {l m : Location} (hs : v.step? s = some w)
      (h : Precedes w l m) : Precedes v (s :: l) (s :: m)
  | items {items : List Value} {i j : Nat} {l m : Location} (h : i < j) :
      Precedes (.array items) (.item i :: l) (.item j :: m)
  | members {members : List (String × Value)} {name other : String} {l m : Location}
      (h : [name, other].Sublist (Members.names members)) :
      Precedes (.object members) (.member name :: l) (.member other :: m)

mutual

/-- The number of values within a value, at any depth. -/
def descendants : Value → Nat
  | array items => descendantsOfItems items
  | object members => descendantsOfMembers members
  | _ => 0

def descendantsOfItems : List Value → Nat
  | [] => 0
  | item :: rest => 1 + item.descendants + descendantsOfItems rest

def descendantsOfMembers : List (String × Value) → Nat
  | [] => 0
  | (_, value) :: rest => 1 + value.descendants + descendantsOfMembers rest

end

/-- The places within a value, its own first, in the order of the descent. -/
def locations (v : Value) : List Location := (v.descend []).map Node.location

variable {v w : Value} {s : Step} {l m : Location}

theorem Precedes.irrefl (hv : v.Distinct) : ¬ v.Precedes l l := by
  induction l generalizing v with
  | nil => intro h; cases h
  | cons s l ih =>
    intro h
    cases h with
    | inside hs h => exact ih (hv.step? hs) h
    | items h => exact absurd h (Nat.lt_irrefl _)
    | members h => exact List.nodup_iff_sublist.1 (distinct_object.1 hv).1 _ h

/-! A value and its children -/

theorem mem_children_of_step? (h : v.step? s = some w) : (s, w) ∈ v.children := by
  cases v with
  | array items =>
    cases s with
    | item i => exact List.mem_map.2 ⟨(w, i), List.mk_mem_zipIdx_iff_getElem?.2 h, rfl⟩
    | member => simp [step?] at h
  | object members =>
    cases s with
    | item => simp [step?] at h
    | member name => exact List.mem_map.2 ⟨(name, w), Members.mem_of_get? h, rfl⟩
  | _ => cases s <;> simp [step?] at h

/-- What holds of a value as soon as it holds of its children holds of all values. -/
@[elab_as_elim] theorem Distinct.induct_children {P : Value → Prop} (hv : v.Distinct)
    (h : ∀ v, v.Distinct → (∀ c ∈ v.children, P c.2) → P v) : P v := by
  induction hv with
  | @array items hitems ih =>
    refine h _ (.array hitems) ?_
    intro c hc
    obtain ⟨⟨item, i⟩, hi, rfl⟩ := List.mem_map.1 hc
    exact ih item (List.fst_mem_of_mem_zipIdx hi)
  | @object members names hmembers ih =>
    refine h _ (.object names hmembers) ?_
    intro c hc
    obtain ⟨member, hm, rfl⟩ := List.mem_map.1 hc
    exact ih member hm
  | null => exact h _ .null (by simp [children])
  | bool b => exact h _ (.bool b) (by simp [children])
  | number x => exact h _ (.number x) (by simp [children])
  | string s => exact h _ (.string s) (by simp [children])

theorem descendItems_eq (location : Location) (index : Nat) (items : List Value) :
    descendItems location index items = (items.zipIdx index).flatMap fun (item, i) =>
      item.descend (location ++ [.item i]) := by
  induction items generalizing index with
  | nil => rfl
  | cons item rest ih => rw [descendItems, ih, List.zipIdx_cons, List.flatMap_cons]

theorem descendMembers_eq (location : Location) (members : List (String × Value)) :
    descendMembers location members = members.flatMap fun (name, value) =>
      value.descend (location ++ [.member name]) := by
  induction members with
  | nil => rfl
  | cons member rest ih => rw [descendMembers, ih, List.flatMap_cons]

/-- The descent through a value goes through its children, in their order. -/
theorem descend_eq (v : Value) (location : Location) :
    v.descend location =
      ⟨location, v⟩ :: v.children.flatMap fun c => c.2.descend (location ++ [c.1]) := by
  cases v with
  | array items => rw [descend, descendItems_eq, children, List.flatMap_map]
  | object members => rw [descend, descendMembers_eq, children, List.flatMap_map]
  | _ => rfl

theorem locations_eq (v : Value) :
    v.locations = [] :: v.children.flatMap fun c => c.2.locations.map (c.1 :: ·) := by
  rw [locations, descend_eq, List.map_cons, List.map_flatMap]
  congr 2
  funext c
  rw [List.nil_append, ← List.append_nil [c.1], descend_append, List.map_map, locations,
    List.map_map]
  rfl

theorem descendantsOfItems_eq (index : Nat) (items : List Value) :
    descendantsOfItems items =
      ((items.zipIdx index).map fun (item, _) => 1 + item.descendants).sum := by
  induction items generalizing index with
  | nil => rfl
  | cons item rest ih =>
    rw [descendantsOfItems, ih (index + 1), List.zipIdx_cons, List.map_cons, List.sum_cons]

theorem descendantsOfMembers_eq (members : List (String × Value)) :
    descendantsOfMembers members = (members.map fun (_, value) => 1 + value.descendants).sum := by
  induction members with
  | nil => rfl
  | cons member rest ih => rw [descendantsOfMembers, ih, List.map_cons, List.sum_cons]

theorem descendants_eq (v : Value) :
    v.descendants = (v.children.map fun c => 1 + c.2.descendants).sum := by
  cases v with
  | array items =>
    rw [descendants, descendantsOfItems_eq 0, children, List.map_map]
    rfl
  | object members =>
    rw [descendants, descendantsOfMembers_eq, children, List.map_map]
    rfl
  | _ => rfl

/-- The children of a value stand in document order, with all that they hold. -/
theorem children_precede (v : Value) :
    v.children.Pairwise fun a b => ∀ l m, v.Precedes (a.1 :: l) (b.1 :: m) := by
  cases v with
  | array items =>
    have places : (items.zipIdx.map Prod.snd).Pairwise (· < ·) := by
      rw [List.zipIdx_map_snd]
      exact List.pairwise_lt_range'
    rw [children, List.pairwise_map]
    rw [List.pairwise_map] at places
    apply places.imp
    intro a b h l m
    exact .items h
  | object members =>
    rw [children, List.pairwise_map, List.pairwise_iff_forall_sublist]
    intro a b h l m
    exact .members (h.map Prod.fst)
  | _ => exact .nil

/-! What the descent meets -/

theorem mem_descend_of_at? (location : Location) (h : v.at? l = some w) :
    ⟨location ++ l, w⟩ ∈ v.descend location := by
  induction l generalizing v location with
  | nil =>
    cases h
    rw [descend_eq, List.append_nil]
    exact List.mem_cons_self ..
  | cons s l ih =>
    obtain ⟨u, hu, h⟩ := Option.bind_eq_some_iff.1 h
    rw [descend_eq]
    apply List.mem_cons_of_mem
    apply List.mem_flatMap.2
    refine ⟨(s, u), mem_children_of_step? hu, ?_⟩
    have hl := ih (location ++ [s]) h
    rwa [List.append_assoc] at hl

/-- The descent meets the places that exist, with the values found there. -/
theorem mem_descend_iff (hv : v.Distinct) {n : Node} :
    n ∈ v.descend [] ↔ v.at? n.location = some n.value := by
  constructor
  · intro hn
    exact Node.ofRoot_reaches_iff.1 (reaches_of_mem_descend v hv [] n hn)
  · intro h
    exact mem_descend_of_at? [] h

theorem mem_locations_iff (hv : v.Distinct) : l ∈ v.locations ↔ ∃ w, v.at? l = some w := by
  constructor
  · intro hl
    obtain ⟨n, hn, rfl⟩ := List.mem_map.1 hl
    exact ⟨n.value, (mem_descend_iff hv).1 hn⟩
  · rintro ⟨w, hw⟩
    exact List.mem_map.2 ⟨⟨l, w⟩, (mem_descend_iff hv).2 hw, rfl⟩

/-- The descent keeps to document order. -/
theorem pairwise_locations (hv : v.Distinct) : v.locations.Pairwise v.Precedes := by
  refine hv.induct_children ?_
  intro v hv ih
  rw [locations_eq, List.pairwise_cons, List.pairwise_flatMap]
  refine ⟨?_, ?_, ?_⟩
  · intro l hl
    obtain ⟨c, -, hl⟩ := List.mem_flatMap.1 hl
    obtain ⟨m, -, rfl⟩ := List.mem_map.1 hl
    exact .within
  · intro c hc
    rw [List.pairwise_map]
    exact (ih c hc).imp fun h => .inside (step?_of_mem_children hv hc) h
  · apply (children_precede v).imp
    intro a b h l hl m hm
    obtain ⟨l, -, rfl⟩ := List.mem_map.1 hl
    obtain ⟨m, -, rfl⟩ := List.mem_map.1 hm
    exact h l m

theorem nodup_locations (hv : v.Distinct) : v.locations.Nodup := by
  apply (pairwise_locations hv).imp
  rintro l _ h rfl
  exact Precedes.irrefl hv h

theorem length_locations (hv : v.Distinct) : v.locations.length = 1 + v.descendants := by
  refine hv.induct_children ?_
  intro v hv ih
  have lengths : v.children.map (fun c => (c.2.locations.map (c.1 :: ·)).length) =
      v.children.map fun c => 1 + c.2.descendants :=
    List.map_congr_left fun c hc => by rw [List.length_map, ih c hc]
  rw [locations_eq, List.length_cons, List.length_flatMap, lengths, ← descendants_eq,
    Nat.add_comm]

/-! The children of all that the descent meets -/

/-- All nodes but that of the root, below the nodes that hold them. -/
def inner (v : Value) : List Node := (v.descend []).flatMap Node.children

theorem mem_inner_iff (hv : v.Distinct) {n : Node} :
    n ∈ v.inner ↔ n.location ≠ [] ∧ v.at? n.location = some n.value := by
  rw [inner, List.mem_flatMap]
  constructor
  · rintro ⟨k, hk, hn⟩
    have holder := (mem_descend_iff hv).1 hk
    obtain ⟨⟨s, w⟩, hs, rfl⟩ := List.mem_map.1 hn
    have child := step?_of_mem_children (hv.at? holder) hs
    refine ⟨by simp, ?_⟩
    rw [at?_append, holder]
    simp [at?_cons, child]
  · rintro ⟨hne, h⟩
    obtain ⟨location, value⟩ := n
    obtain ⟨l, s, rfl⟩ := (List.eq_nil_or_concat location).resolve_left hne
    rw [List.concat_eq_append, at?_append] at h
    obtain ⟨u, hu, h⟩ := Option.bind_eq_some_iff.1 h
    have child : u.step? s = some value := by simpa [at?_cons] using h
    refine ⟨⟨l, u⟩, (mem_descend_iff hv).2 hu, ?_⟩
    rw [List.concat_eq_append]
    exact List.mem_map.2 ⟨(s, value), mem_children_of_step? child, rfl⟩

end Value

/-- Where no element fails, what is collected is what each of them yields. -/
theorem collect_eq_ok_of_forall {α β ε : Type} {f : α → Except ε (List β)} {g : α → List β}
    {as : List α} (h : ∀ a ∈ as, f a = .ok (g a)) : collect f as = .ok (as.flatMap g) := by
  rw [collect_eq_ok_iff]
  refine ⟨as.map g, ?_, List.flatMap_def⟩
  rw [List.map_map]
  exact List.map_congr_left h

namespace Value
variable {v : Value}

theorem nodup_inner (hv : v.Distinct) : (v.inner.map Node.location).Nodup := by
  have distinct : ∀ n ∈ v.descend [], n.value.Distinct := by
    intro n hn
    exact hv.at? ((mem_descend_iff hv).1 hn)
  apply List.pairwise_map.2
  rw [inner, List.pairwise_flatMap]
  refine ⟨fun n hn => Node.children_differ (distinct n hn), ?_⟩
  -- the locations of children differ before their last step
  refine (descend_differ v hv []).imp fun {n m} differ a ha b hb => ?_
  obtain ⟨⟨s, _⟩, -, rfl⟩ := List.mem_map.1 ha
  obtain ⟨⟨t, _⟩, -, rfl⟩ := List.mem_map.1 hb
  exact fun h => differ (List.append_inj_left' h rfl)

theorem inner_perm (hv : v.Distinct) :
    ([] :: v.inner.map Node.location).Perm v.locations := by
  have root : [] ∉ v.inner.map Node.location := by
    intro h
    obtain ⟨n, hn, hl⟩ := List.mem_map.1 h
    exact ((mem_inner_iff hv).1 hn).1 hl
  rw [List.perm_ext_iff_of_nodup (List.nodup_cons.2 ⟨root, nodup_inner hv⟩) (nodup_locations hv)]
  intro l
  rw [mem_locations_iff hv, List.mem_cons, List.mem_map]
  constructor
  · rintro (rfl | ⟨n, hn, rfl⟩)
    · exact ⟨v, rfl⟩
    · exact ⟨n.value, ((mem_inner_iff hv).1 hn).2⟩
  · rintro ⟨w, hw⟩
    by_cases hl : l = []
    · exact .inl hl
    · exact .inr ⟨⟨l, w⟩, (mem_inner_iff hv).2 ⟨hl, hw⟩, rfl⟩

theorem length_inner (hv : v.Distinct) : v.inner.length = v.descendants := by
  have h := (inner_perm hv).length_eq
  rw [List.length_cons, List.length_map, length_locations hv] at h
  omega

end Value

namespace Query
open Grammar

section
variable [Pattern.Engine] {env : Environment} {document : Value}

theorem parse_descent_wild : parse env "$..*" = .ok ⟨[.recursive, .wild]⟩ := by
  have path : Path env Parser.maxDepth [.doubleDot, .star] [.recursive, .wild] :=
    .descendant (.bare .wild) .nil
  exact parse_of_text (by decide) (.root path)

theorem collect_recursive :
    collect (Segment.select env document .recursive) [.ofRoot document] =
      .ok (document.descend []) := by
  simp [collect, Segment.select, Node.ofRoot, bind, Except.bind, pure, Except.pure]

theorem find_recursive : find ⟨[.recursive]⟩ env document = .ok (document.descend []) := by
  rw [find, resolve, collect_recursive]
  rfl

theorem find_recursive_cons (s : Segment) :
    find ⟨[.recursive, s]⟩ env document =
      collect (s.select env document) (document.descend []) := by
  rw [find, resolve, collect_recursive]
  exact resolve_one env document s (document.descend [])

/-- A descent meets each place that exists once, with what is found there and in document order;
with a star behind it, each but the root. -/
theorem find_descent (env : Environment) (distinct : document.Distinct) :
    (∃ nodes, find ⟨[.recursive]⟩ env document = .ok nodes ∧
      (∀ n, n ∈ nodes ↔ document.at? n.location = some n.value) ∧
      (nodes.map Node.location).Nodup ∧
      (nodes.map Node.location).Pairwise document.Precedes) ∧
    parse env "$..*" = .ok ⟨[.recursive, .wild]⟩ ∧
    ∃ nodes, find ⟨[.recursive, .wild]⟩ env document = .ok nodes ∧
      (∀ n, n ∈ nodes ↔ n.location ≠ [] ∧ document.at? n.location = some n.value) ∧
      (nodes.map Node.location).Nodup ∧ nodes.length = document.descendants := by
  refine ⟨⟨document.descend [], find_recursive, ?_⟩, parse_descent_wild, document.inner, ?_⟩
  · exact ⟨fun n => Value.mem_descend_iff distinct, Value.nodup_locations distinct,
      Value.pairwise_locations distinct⟩
  · refine ⟨?_, fun n => Value.mem_inner_iff distinct, Value.nodup_inner distinct,
      Value.length_inner distinct⟩
    rw [find_recursive_cons]
    exact collect_eq_ok_of_forall fun _ _ => rfl

end

/-- An array and an object that each hold a container or a scalar. -/
def containers : Value :=
  .object [("a", .array [.null, .array []]), ("b", .object [("a", .bool true)])]

theorem find_descent_nested :
    containers.Distinct ∧
      find ⟨[.recursive, .wild]⟩ .standard containers =
        .ok [⟨[.member "a"], .array [.null, .array []]⟩, ⟨[.member "b"], .object [("a", .bool true)]⟩,
          ⟨[.member "a", .item 0], .null⟩, ⟨[.member "a", .item 1], .array []⟩,
          ⟨[.member "b", .member "a"], .bool true⟩] ∧
      ∃ nodes, find ⟨[.recursive]⟩ .standard containers = .ok nodes ∧ nodes.length = 6 ∧
        (nodes.map Node.location).Pairwise (Value.Precedes containers) := by
  have distinct : containers.Distinct := by simp [containers, Members.names]
  obtain ⟨⟨nodes, found, -, -, ordered⟩, -⟩ := find_descent .standard distinct
  refine ⟨distinct, rfl, nodes, found, ?_, ordered⟩
  rw [find_recursive] at found
  cases found
  rfl

end Query

end PathQuery
