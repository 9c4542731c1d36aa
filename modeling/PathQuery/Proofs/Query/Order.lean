import Mathlib.Data.List.Sort
import PathQuery.Proofs.Node.Descent

/-! The order in which a query finds its nodes. Fields, stars, indices and slices that go forward keep
nodes in document order, as long as none lies within another. A filter may end the query: what it finds
is still in order, though it may find an object and then what the object holds. -/
namespace PathQuery

theorem not_sublist_swap {α : Type} {a b : α} {as : List α} (nodup : as.Nodup)
    (h : [a, b].Sublist as) : ¬ [b, a].Sublist as := by
  induction as with
  | nil => cases h
  | cons c rest ih =>
    obtain ⟨fresh, hrest⟩ := List.nodup_cons.1 nodup
    intro h'
    cases h with
    | cons _ h =>
      cases h' with
      | cons _ h' => exact ih hrest h h'
      | cons_cons _ h' => exact fresh (h.subset (by simp))
    | cons_cons _ h =>
      cases h' with
      | cons _ h' => exact fresh (h'.subset (by simp))
      | cons_cons _ h' => exact fresh (h'.subset (by simp))

namespace Value
variable {document v : Value} {location l m : Location}

theorem Precedes.asymm (hv : v.Distinct) (h : v.Precedes l m) : ¬ v.Precedes m l := by
  induction h with
  | within => exact nofun
  | inside hs hlm ih =>
    intro h'
    cases h' with
    | inside hs' h' =>
      cases hs.symm.trans hs'
      exact ih (hv.step? hs) h'
    | items h => exact absurd h (Nat.lt_irrefl _)
    | members h => exact List.nodup_iff_sublist.1 (distinct_object.1 hv).1 _ h
  | items h =>
    intro h'
    cases h' with
    | inside => exact absurd h (Nat.lt_irrefl _)
    | items h' => exact absurd (Nat.lt_trans h h') (Nat.lt_irrefl _)
  | members h =>
    have names := (distinct_object.1 hv).1
    intro h'
    cases h' with
    | inside => exact List.nodup_iff_sublist.1 names _ h
    | members h' => exact not_sublist_swap names h h'

/-- Places in document order are met in this order by the descent. -/
theorem sublist_locations (distinct : document.Distinct) {places : List Location}
    (here : ∀ l ∈ places, ∃ w, document.at? l = some w)
    (ordered : places.Pairwise document.Precedes) : places.Sublist document.locations := by
  have antisymm : Std.Antisymm document.Precedes := ⟨fun _ _ h h' => absurd h' (h.asymm distinct)⟩
  have nodup : places.Nodup := by
    apply ordered.imp
    rintro l _ h rfl
    exact Precedes.irrefl distinct h
  have subset : places ⊆ document.locations := fun l hl =>
    (mem_locations_iff distinct).2 (here l hl)
  exact List.sublist_of_subperm_of_pairwise (List.subperm_of_subset nodup subset) ordered
    (pairwise_locations distinct)

/-- Places within a value are ordered as they are in the document around it. -/
theorem precedes_below (h : document.at? location = some v) (hlm : v.Precedes l m) :
    document.Precedes (location ++ l) (location ++ m) := by
  induction location generalizing document with
  | nil =>
    cases h
    exact hlm
  | cons s location ih =>
    obtain ⟨w, hs, h⟩ := Option.bind_eq_some_iff.1 h
    exact .inside hs (ih h)

/-- Where one place comes before another and does not hold it, all within the first comes before all
within the other. -/
theorem Precedes.append (h : v.Precedes l m) (outside : ¬ l <+: m) (l' m' : Location) :
    v.Precedes (l ++ l') (m ++ m') := by
  induction h with
  | within => exact absurd List.nil_prefix outside
  | inside hs _ ih => exact .inside hs (ih fun hp => outside ((List.prefix_cons_inj _).2 hp))
  | items h => exact .items h
  | members h => exact .members h

end Value

namespace Node

/-- The first node comes before the other in document order. -/
def Before (document : Value) (n m : Node) : Prop := document.Precedes n.location m.location

/-- The first node comes before the other, and neither lies within the other. -/
def Ahead (document : Value) (n m : Node) : Prop := n.Before document m ∧ n.Apart m

variable {document : Value} {n m n' m' : Node} {found : List Node}

theorem Ahead.within (h : n.Ahead document m) (hn : n.location <+: n'.location)
    (hm : m.location <+: m'.location) : n'.Before document m' := by
  obtain ⟨l, hl⟩ := hn
  obtain ⟨k, hk⟩ := hm
  rw [Before, ← hl, ← hk]
  exact Value.Precedes.append h.1 h.2.1 l k

/-- The order of two nodes found one step below a third is that of the steps. -/
theorem before_of_steps {s t : Step} (here : (ofRoot document).Reaches n)
    (hn' : n'.location = n.location ++ [s]) (hm' : m'.location = n.location ++ [t])
    (h : n.value.Precedes [s] [t]) : n'.Before document m' := by
  rw [Before, hn', hm']
  exact Value.precedes_below (ofRoot_reaches_iff.1 here) h

theorem children_ordered (here : (ofRoot document).Reaches n) :
    n.children.Pairwise (Before document) := by
  rw [children, List.pairwise_map]
  apply (Value.children_precede n.value).imp
  intro a b h
  exact before_of_steps here rfl rfl (h [] [])

/-- A container comes before what it holds. -/
theorem candidates_ordered (here : (ofRoot document).Reaches n) :
    n.candidates.Pairwise (Before document) := by
  unfold candidates
  split
  · exact children_ordered here
  · rw [List.pairwise_cons]
    refine ⟨?_, children_ordered here⟩
    intro m hm
    obtain ⟨c, -, rfl⟩ := List.mem_map.1 hm
    have first := Value.precedes_below (ofRoot_reaches_iff.1 here)
      (.within : n.value.Precedes [] [c.1])
    rwa [List.append_nil] at first
  · exact List.pairwise_singleton ..

end Node

theorem Slice.indices_increasing (length : Nat) (start stop : Option Int) {step : Int}
    (hs : 0 < step) : (indices length start stop step).Pairwise (· < ·) := by
  unfold indices
  rw [List.pairwise_map]
  apply List.pairwise_lt_range.imp
  intro j k hlt
  have := Int.mul_lt_mul_of_pos_right (Int.ofNat_lt.2 hlt) hs
  omega

theorem Node.slice_ordered {document : Value} {n : Node} {found : List Node}
    {start stop step : Option Int} (hs : 0 < step.getD 1) (here : (ofRoot document).Reaches n)
    (h : n.slice start stop step = .ok found) : found.Pairwise (Before document) := by
  unfold slice at h
  split at h
  next items hv =>
    dsimp only at h
    rw [if_neg (by omega)] at h
    cases h
    apply (Slice.indices_increasing items.length start stop hs).filterMap
    intro i j hij m hm k hk
    split at hm
    · cases hm
    split at hk
    · cases hk
    apply before_of_steps here (location_of_item? hm) (location_of_item? hk)
    rw [hv]
    exact .items (by omega)
  · cases h
    exact .nil

/-- Segments that go one step down and, from one node, in document order. -/
def Segment.forward [Pattern.Engine] : Segment → Bool
  | .field _ | .wild | .index _ => true
  | .slice _ _ step => step.all fun i => 0 < i
  | _ => false

section
variable [Pattern.Engine] {env : Environment} {document : Value} {s : Segment} {p : Predicate}
  {n : Node}
  {segments : List Segment} {nodes found : List Node}

theorem Segment.nests_of_forward (hs : s.forward = true) : s.nests = false := by
  cases s with
  | recursive | filter => cases hs
  | _ => rfl

theorem Segment.select_ordered (hs : s.forward = true) (here : (Node.ofRoot document).Reaches n)
    (h : s.select env document n = .ok found) : found.Pairwise (Node.Before document) := by
  cases s with
  | field | index =>
    cases h
    exact Node.pairwise_toList ..
  | wild =>
    cases h
    exact Node.children_ordered here
  | slice start stop step =>
    refine Node.slice_ordered ?_ here h
    cases step with
    | none => decide
    | some i => simpa [forward, Int64.lt_iff_toInt_lt] using hs
  | recursive | union | filter | function => cases hs

theorem Segment.filter_ordered (here : (Node.ofRoot document).Reaches n)
    (h : (Segment.filter p).select env document n = .ok found) :
    found.Pairwise (Node.Before document) := by
  refine List.Pairwise.sublist ?_ (Node.candidates_ordered here)
  refine collect_kept_sublist (fun c out hout => ?_) h
  obtain ⟨holds, -, hout⟩ := bind_eq_ok.1 hout
  cases hout
  cases holds <;> simp

/-- From nodes in order, none within another, a segment finds nodes in order if it does so from each
of them. -/
theorem Segment.collect_ordered
    (each : ∀ n ∈ nodes, ∀ part, s.select env document n = .ok part →
      part.Pairwise (Node.Before document))
    (ahead : nodes.Pairwise (Node.Ahead document))
    (h : collect (s.select env document) nodes = .ok found) :
    found.Pairwise (Node.Before document) := by
  refine pairwise_collect ahead each ?_ h
  intro n m hnm part part' hpart hpart' a ha b hb
  exact hnm.within (prefix_of_mem_select hpart ha) (prefix_of_mem_select hpart' hb)

/-- Segments that go forward keep their nodes in order, none within another. -/
theorem resolve_ahead (distinct : document.Distinct) (hs : ∀ s ∈ segments, s.forward = true)
    (here : ∀ n ∈ nodes, (Node.ofRoot document).Reaches n)
    (ahead : nodes.Pairwise (Node.Ahead document))
    (h : resolve env document segments nodes = .ok found) :
    (∀ n ∈ found, (Node.ofRoot document).Reaches n) ∧ found.Pairwise (Node.Ahead document) := by
  induction segments generalizing nodes with
  | nil =>
    cases h
    exact ⟨here, ahead⟩
  | cons s rest ih =>
    rw [resolve, bind_eq_ok] at h
    obtain ⟨mid, hmid, h⟩ := h
    have forward := hs s (by simp)
    have values : ∀ n ∈ nodes, n.value.Distinct := fun n hn => (here n hn).distinct distinct
    refine ih (fun t ht => hs t (by simp [ht])) ?_ ?_ h
    · intro m hm
      obtain ⟨n, hn, part, hpart, hm⟩ := exists_of_mem_collect hmid hm
      have plain : ∀ name args, s ≠ .function name args := by
        rintro name args rfl
        cases forward
      exact (here n hn).trans (Segment.reaches_of_select plain (values n hn) hpart m hm)
    · have ordered : mid.Pairwise (Node.Before document) :=
        Segment.collect_ordered (fun n hn _ => Segment.select_ordered forward (here n hn)) ahead hmid
      have apart : mid.Pairwise Node.Apart := by
        refine Segment.collect_apart (Segment.nests_of_forward forward) ?_ values
          (ahead.imp And.right) hmid
        rintro names rfl
        cases forward
      exact ordered.and apart

/-- With a filter behind them, they find nodes in order, though some lie within others. -/
theorem ordered_of_resolve {last : Option Predicate} (distinct : document.Distinct)
    (hs : ∀ s ∈ segments, s.forward = true)
    (h : resolve env document (segments ++ (last.map Segment.filter).toList)
      [.ofRoot document] = .ok found) :
    (found.map Node.location).Pairwise document.Precedes := by
  rw [resolve_append, bind_eq_ok] at h
  obtain ⟨mid, hmid, h⟩ := h
  obtain ⟨here, ahead⟩ := resolve_ahead distinct hs
    (by simpa using Node.Reaches.refl (Node.ofRoot document)) (List.pairwise_singleton ..) hmid
  rw [List.pairwise_map]
  cases last with
  | none =>
    cases h
    exact ahead.imp And.left
  | some p =>
    have hp : collect ((Segment.filter p).select env document) mid = .ok found := by
      rwa [← resolve_one]
    exact Segment.collect_ordered (fun n hn _ => Segment.filter_ordered (here n hn)) ahead hp

end

namespace Query

/-- Fields, stars, indices and slices that go forward find their nodes in document order, and so does
a filter behind them; a descent through the document would meet them in that order. -/
theorem ordered_of_find [Pattern.Engine] {segments : List Segment} {last : Option Predicate}
    {env : Environment} {document : Value} {found : List Node} (distinct : document.Distinct)
    (forward : ∀ s ∈ segments, s.forward = true)
    (h : find ⟨segments ++ (last.map Segment.filter).toList⟩ env document = .ok found) :
    (found.map Node.location).Pairwise document.Precedes ∧
      (found.map Node.location).Sublist document.locations := by
  have ordered := ordered_of_resolve distinct forward h
  refine ⟨ordered, Value.sublist_locations distinct ?_ ordered⟩
  have plain : ∀ name args, .function name args ∉ segments ++ (last.map Segment.filter).toList := by
    intro name args hf
    rcases List.mem_append.1 hf with hf | hf
    · cases forward _ hf
    · simp at hf
  intro l hl
  obtain ⟨n, hn, rfl⟩ := List.mem_map.1 hl
  obtain ⟨root, hroot, hreach⟩ :=
    reaches_of_resolve plain (by simpa [Node.ofRoot] using distinct) h n hn
  rw [List.mem_singleton.1 hroot] at hreach
  exact ⟨n.value, Node.ofRoot_reaches_iff.1 hreach⟩

/-- An object, what it holds, and a value of a member that was put in later. -/
theorem ordered_of_find_inserted :
    (Value.object [("b", .array [.null, .object [("y", .null)]]), ("a", .array [.bool true])]).Distinct ∧
      (∀ s ∈ [Segment.wild, .slice (some (-1)) none (some 2)], s.forward = true) ∧
      find ⟨[.wild, .slice (some (-1)) none (some 2)] ++
          (Option.map Segment.filter (some (.present (.mk .current [])))).toList⟩ .standard
          (.object [("b", .array [.null, .object [("y", .null)]]), ("a", .array [.bool true])]) =
        .ok [⟨[.member "b", .item 1], .object [("y", .null)]⟩,
          ⟨[.member "b", .item 1, .member "y"], .null⟩, ⟨[.member "a", .item 0], .bool true⟩] ∧
      [[.member "b", .item 1], [.member "b", .item 1, .member "y"], [.member "a", .item 0]].Pairwise
        (Value.Precedes
          (.object [("b", .array [.null, .object [("y", .null)]]), ("a", .array [.bool true])])) := by
  have distinct : (Value.object
      [("b", .array [.null, .object [("y", .null)]]), ("a", .array [.bool true])]).Distinct := by
    simp [Members.names]
  have forward : ∀ s ∈ [Segment.wild, .slice (some (-1)) none (some 2)], s.forward = true := by
    simp [Segment.forward]
  have found : find ⟨[.wild, .slice (some (-1)) none (some 2)] ++
      (Option.map Segment.filter (some (.present (.mk .current [])))).toList⟩ .standard
        (.object [("b", .array [.null, .object [("y", .null)]]), ("a", .array [.bool true])]) =
      .ok [⟨[.member "b", .item 1], .object [("y", .null)]⟩,
        ⟨[.member "b", .item 1, .member "y"], .null⟩, ⟨[.member "a", .item 0], .bool true⟩] := rfl
  exact ⟨distinct, forward, found, (ordered_of_find distinct forward found).1⟩

end Query

end PathQuery
