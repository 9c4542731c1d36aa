import Mathlib.Data.List.Perm.Basic
import PathQuery.Proofs.Node.Descent

/-! How often a filter behind a descent finds a place. A value is a candidate by itself, unless it is
an array, and again as a child of what holds it; the descent comes by both of them once. -/
namespace PathQuery

def Value.isArray : Value → Bool
  | .array _ => true
  | _ => false

/-- Whether a predicate holds, of a value on which it does not fail. -/
def Predicate.keeps [Pattern.Engine] (p : Predicate) (env : Environment) (root v : Value) : Bool :=
  match p.holds env root v with
  | .ok b => b
  | .error _ => false

theorem flatMap_ite_singleton {α : Type} (b : α → Bool) (as : List α) :
    (as.flatMap fun a => if b a then [a] else []) = as.filter b := by
  induction as with
  | nil => rfl
  | cons a rest ih => cases h : b a <;> simp [h, ih]

section
variable [Pattern.Engine] {env : Environment} {root : Value} {p : Predicate}

theorem Predicate.keeps_iff {v : Value} :
    p.keeps env root v = true ↔ p.holds env root v = .ok true := by
  unfold keeps
  cases p.holds env root v <;> simp

/-- What a filter tests of a node, apart from its children. -/
def Node.self (n : Node) : List Node := if !n.value.isArray then [n] else []

omit [Pattern.Engine] in
theorem Node.candidates_eq (n : Node) : n.candidates = n.self ++ n.children := by
  obtain ⟨location, value⟩ := n
  cases value <;> rfl

/-- A filter whose predicate does not fail keeps the candidates of which it holds. -/
theorem Segment.select_filter {n : Node}
    (total : ∀ c ∈ n.candidates, ∃ b, p.holds env root c.value = .ok b) :
    (Segment.filter p).select env root n =
      .ok (n.candidates.filter fun c => p.keeps env root c.value) := by
  rw [← flatMap_ite_singleton]
  apply collect_eq_ok_of_forall
  intro c hc
  obtain ⟨b, hb⟩ := total c hc
  have hkeeps : p.keeps env root c.value = b := by
    unfold Predicate.keeps
    rw [hb]
  rw [hb, hkeeps]
  rfl

end

namespace Value
variable {document v : Value} {l : Location}

/-- All candidates that a descent leads to. -/
def candidates (document : Value) : List Node := (document.descend []).flatMap Node.candidates

/-- They are the values that are no arrays, and all values that another holds. -/
theorem candidates_perm (document : Value) :
    document.candidates.Perm
      ((document.descend []).filter (fun n => !n.value.isArray) ++ document.inner) := by
  have each : Node.candidates = fun n => Node.self n ++ n.children :=
    funext Node.candidates_eq
  rw [candidates, each, inner, ← flatMap_ite_singleton]
  exact (List.flatMap_append_perm _ Node.self Node.children).symm

theorem at?_of_mem_candidates (distinct : document.Distinct) {n : Node}
    (hn : n ∈ document.candidates) : document.at? n.location = some n.value := by
  rcases List.mem_append.1 ((candidates_perm document).mem_iff.1 hn) with hn | hn
  · exact (mem_descend_iff distinct).1 (List.mem_filter.1 hn).1
  · exact ((mem_inner_iff distinct).1 hn).2

/-- The descent comes by a value itself once. -/
theorem count_selves (distinct : document.Distinct) (h : document.at? l = some v) :
    (((document.descend []).filter fun n => !n.value.isArray).map Node.location).count l =
      if v.isArray then 0 else 1 := by
  have nodup : (((document.descend []).filter fun n => !n.value.isArray).map
      Node.location).Nodup :=
    (nodup_locations distinct).sublist (List.filter_sublist.map _)
  have met : l ∈ ((document.descend []).filter fun n => !n.value.isArray).map Node.location ↔
      v.isArray = false := by
    rw [List.mem_map]
    constructor
    · rintro ⟨n, hn, rfl⟩
      obtain ⟨hn, harray⟩ := List.mem_filter.1 hn
      rw [(mem_descend_iff distinct).1 hn] at h
      cases h
      simpa using harray
    · intro harray
      exact ⟨⟨l, v⟩, List.mem_filter.2 ⟨(mem_descend_iff distinct).2 h, by simp [harray]⟩, rfl⟩
  rw [nodup.count]
  cases harray : v.isArray <;> simp [met, harray]

/-- It comes by each value once as a child, but for the root. -/
theorem count_inner (distinct : document.Distinct) (h : document.at? l = some v) :
    (document.inner.map Node.location).count l = if l = [] then 0 else 1 := by
  have met : l ∈ document.inner.map Node.location ↔ l ≠ [] := by
    rw [List.mem_map]
    constructor
    · rintro ⟨n, hn, rfl⟩
      exact ((mem_inner_iff distinct).1 hn).1
    · intro hl
      exact ⟨⟨l, v⟩, (mem_inner_iff distinct).2 ⟨hl, h⟩, rfl⟩
  rw [(nodup_inner distinct).count]
  by_cases hl : l = []
  · rw [if_pos hl, if_neg fun hm => met.1 hm hl]
  · rw [if_neg hl, if_pos (met.2 hl)]

theorem count_candidates (distinct : document.Distinct) (h : document.at? l = some v) :
    (document.candidates.map Node.location).count l =
      (if l = [] then 0 else 1) + if v.isArray then 0 else 1 := by
  rw [((candidates_perm document).map _).count_eq, List.map_append, List.count_append,
    count_selves distinct h, count_inner distinct h, Nat.add_comm]

end Value

/-- A filter on locations that one place passes leaves that place as often as it was there. -/
theorem count_map_filter {nodes : List Node} {b : Node → Bool} {l : Location}
    (h : ∀ n ∈ nodes, n.location = l → b n = true) :
    ((nodes.filter b).map Node.location).count l = (nodes.map Node.location).count l := by
  rw [List.count_eq_countP, List.count_eq_countP, List.countP_map, List.countP_map, List.countP_filter]
  apply List.countP_congr
  intro n hn
  have := h n hn
  simpa using this

namespace Query
section
variable [Pattern.Engine] {env : Environment} {document : Value} {p : Predicate}

/-- A filter behind a descent finds a place of which its predicate holds once as a child, unless it is
the root, and once more by itself, unless an array stands there. -/
theorem count_find_descent_filter (distinct : document.Distinct)
    (total : ∀ l v, document.at? l = some v → ∃ b, p.holds env document v = .ok b) :
    ∃ nodes, find ⟨[.recursive, .filter p]⟩ env document = .ok nodes ∧
      (∀ l v, document.at? l = some v → p.holds env document v = .ok true →
        (nodes.map Node.location).count l =
          (if l = [] then 0 else 1) + if v.isArray then 0 else 1) ∧
      ∀ n ∈ nodes, document.at? n.location = some n.value ∧
        p.holds env document n.value = .ok true := by
  refine ⟨document.candidates.filter fun n => p.keeps env document n.value, ?_, ?_, ?_⟩
  · rw [find_recursive_cons, Value.candidates, List.filter_flatMap]
    apply collect_eq_ok_of_forall
    intro n hn
    apply Segment.select_filter
    intro c hc
    have here := Value.at?_of_mem_candidates distinct (List.mem_flatMap.2 ⟨n, hn, hc⟩)
    exact total c.location c.value here
  · intro l v h hp
    rw [count_map_filter, Value.count_candidates distinct h]
    rintro n hn rfl
    rw [Value.at?_of_mem_candidates distinct hn] at h
    cases h
    exact Predicate.keeps_iff.2 hp
  · intro n hn
    obtain ⟨hn, hp⟩ := List.mem_filter.1 hn
    exact ⟨Value.at?_of_mem_candidates distinct hn, Predicate.keeps_iff.1 hp⟩

end

/-- A scalar in an array in an object. -/
def scalarWithin : Value := .object [("a", .array [.null])]

/-- Only the scalar is found twice. -/
theorem count_find_descent_filter_scalar :
    scalarWithin.Distinct ∧
      (∀ l v, scalarWithin.at? l = some v → ∃ b,
        (Predicate.present (.mk .current [])).holds .standard scalarWithin v = .ok b) ∧
      ∃ nodes, find ⟨[.recursive, .filter (.present (.mk .current []))]⟩ .standard scalarWithin =
          .ok nodes ∧
        (nodes.map Node.location).count [] = 1 ∧
        (nodes.map Node.location).count [.member "a"] = 1 ∧
        (nodes.map Node.location).count [.member "a", .item 0] = 2 := by
  have distinct : scalarWithin.Distinct := by simp [scalarWithin, Members.names]
  have holds (v : Value) :
      (Predicate.present (.mk .current [])).holds .standard scalarWithin v = .ok true := rfl
  have total : ∀ l v, scalarWithin.at? l = some v → ∃ b,
      (Predicate.present (.mk .current [])).holds .standard scalarWithin v = .ok b :=
    fun _ v _ => ⟨true, holds v⟩
  obtain ⟨nodes, found, count, -⟩ := count_find_descent_filter distinct total
  refine ⟨distinct, total, nodes, found, ?_, ?_, ?_⟩
  · exact count [] scalarWithin rfl (holds _)
  · exact count [.member "a"] (.array [.null]) rfl (holds _)
  · exact count [.member "a", .item 0] .null rfl (holds _)

end Query

end PathQuery
