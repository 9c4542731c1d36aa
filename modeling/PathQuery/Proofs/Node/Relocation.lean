import PathQuery.Query.Eval

/-! Evaluation does not look at locations: the same value elsewhere gives the same nodes there. -/
namespace PathQuery

/-- The node below a location. -/
def Node.below (location : Location) (n : Node) : Node := ⟨location ++ n.location, n.value⟩

theorem collect_map {α β γ ε : Type} (f : β → Except ε (List γ)) (g : α → β) (as : List α) :
    collect f (as.map g) = collect (fun a => f (g a)) as := by
  induction as with
  | nil => rfl
  | cons a rest ih => rw [List.map_cons, collect, ih, collect]

theorem map_collect {α β γ ε : Type} (f : α → Except ε (List β)) (g : β → γ) (as : List α) :
    (collect f as).map (List.map g) = collect (fun a => (f a).map (List.map g)) as := by
  induction as with
  | nil => rfl
  | cons a rest ih =>
    rw [collect, collect, ← ih]
    cases f a with
    | error e => rfl
    | ok bs =>
      cases collect f rest with
      | error e => rfl
      | ok cs => simp [bind, Except.bind, pure, Except.pure, Except.map]

variable {location : Location}

mutual

theorem Value.descend_append : (v : Value) → ∀ inner,
    v.descend (location ++ inner) = (v.descend inner).map (Node.below location)
  | .array items, inner => by
    rw [Value.descend, Value.descend, List.map_cons, descendItems_append items]
    rfl
  | .object members, inner => by
    rw [Value.descend, Value.descend, List.map_cons, descendMembers_append members]
    rfl
  | .null, _ | .bool _, _ | .number _, _ | .string _, _ => rfl

theorem descendItems_append : (items : List Value) → ∀ inner index,
    descendItems (location ++ inner) index items =
      (descendItems inner index items).map (Node.below location)
  | [], _, _ => rfl
  | item :: rest, inner, index => by
    rw [descendItems, descendItems, List.map_append, ← descendItems_append rest,
      ← Value.descend_append item, List.append_assoc]

theorem descendMembers_append : (members : List (String × Value)) → ∀ inner,
    descendMembers (location ++ inner) members =
      (descendMembers inner members).map (Node.below location)
  | [], _ => rfl
  | (name, value) :: rest, inner => by
    rw [descendMembers, descendMembers, List.map_append, ← descendMembers_append rest,
      ← Value.descend_append value, List.append_assoc]

end

namespace Node
variable (n : Node)

theorem member?_below (name : String) :
    (n.below location).member? name = (n.member? name).map (below location) := by
  obtain ⟨inner, value⟩ := n
  cases value with
  | object members => cases hm : Members.get? members name <;> simp [member?, below, hm]
  | _ => rfl

theorem item?_below (i : Nat) : (n.below location).item? i = (n.item? i).map (below location) := by
  obtain ⟨inner, value⟩ := n
  cases value with
  | array items => cases hi : items[i]? <;> simp [item?, below, hi]
  | _ => rfl

theorem itemAt?_below (i : Int) :
    (n.below location).itemAt? i = (n.itemAt? i).map (below location) := by
  unfold itemAt?
  rw [show (n.below location).value = n.value from rfl]
  split
  next items hv =>
    dsimp only
    generalize (if i < 0 then _ else i) = place
    split
    · rfl
    · exact item?_below n place.toNat
  · rfl

theorem slice_below (start stop step : Option Int) :
    (n.below location).slice start stop step =
      (n.slice start stop step).map (List.map (below location)) := by
  unfold slice
  rw [show (n.below location).value = n.value from rfl]
  split
  next items hv =>
    dsimp only
    split
    · rfl
    · simp only [Except.map, List.map_filterMap]
      congr 2
      funext i
      split
      · rfl
      · exact item?_below n i.toNat
  · rfl

theorem children_below : (n.below location).children = n.children.map (below location) := by
  simp [children, below]

theorem candidates_below :
    (n.below location).candidates = n.candidates.map (below location) := by
  unfold candidates
  rw [show (n.below location).value = n.value from rfl]
  split
  · exact children_below n
  · rw [children_below, List.map_cons]
  · rfl

theorem apply_below (env : Environment) (name : String) (args : List Value) :
    (n.below location).apply env name args =
      (n.apply env name args).map (List.map (below location)) := by
  unfold apply below
  split
  · rfl
  next f hf => cases f.call n.value args <;> rfl

end Node

section
variable [Pattern.Engine] (env : Environment) (root : Value)

/-- A segment finds below a location what it finds at the top. -/
theorem Segment.select_below (s : Segment) (n : Node) :
    s.select env root (n.below location) =
      (s.select env root n).map (List.map (Node.below location)) := by
  cases s with
  | field name =>
    simp only [select, Node.member?_below, Except.map]
    cases n.member? name <;> rfl
  | wild => simp only [select, Node.children_below, Except.map]
  | recursive => simp only [select, Except.map, ← Value.descend_append, Node.below]
  | index i =>
    simp only [select, Node.itemAt?_below, Except.map]
    cases n.itemAt? i.toInt <;> rfl
  | slice start stop step => simp only [select, Node.slice_below]
  | union names =>
    have hmember : (n.below location).member? = fun name =>
        (n.member? name).map (Node.below location) := funext n.member?_below
    simp only [select, Except.map, List.map_filterMap, hmember]
  | filter p =>
    simp only [select, Node.candidates_below, collect_map, map_collect]
    congr 1
    funext c
    rw [show (c.below location).value = c.value from rfl]
    cases p.holds env root c.value with
    | error e => rfl
    | ok holds => cases holds <;> rfl
  | function name args => simp only [select, Node.apply_below]

/-- Segments find below a location what they find at the top. -/
theorem resolve_below (segments : List Segment) (nodes : List Node) :
    resolve env root segments (nodes.map (Node.below location)) =
      (resolve env root segments nodes).map (List.map (Node.below location)) := by
  induction segments generalizing nodes with
  | nil => simp [resolve, Except.map]
  | cons s rest ih =>
    rw [resolve, resolve, collect_map]
    simp only [Segment.select_below, ← map_collect]
    cases collect (s.select env root) nodes with
    | error e => rfl
    | ok found => exact ih found

theorem resolve_nil (segments : List Segment) : resolve env root segments [] = .ok [] := by
  induction segments with
  | nil => rfl
  | cons s rest ih => exact ih

theorem resolve_one (s : Segment) (nodes : List Node) :
    resolve env root [s] nodes = collect (s.select env root) nodes := by
  rw [resolve]
  cases collect (s.select env root) nodes <;> rfl

theorem resolve_cons_of_select {s : Segment} {n : Node} {found : List Node} (rest : List Segment)
    (h : s.select env root n = .ok found) :
    resolve env root (s :: rest) [n] = resolve env root rest found := by
  simp [resolve, collect, h, bind, Except.bind, pure, Except.pure]

/-- From a node on, segments find what they find from its value, below its location. -/
theorem resolve_singleton (segments : List Segment) (n : Node) :
    resolve env root segments [n] =
      (resolve env root segments [.ofRoot n.value]).map (List.map (Node.below n.location)) := by
  have hn : [Node.ofRoot n.value].map (Node.below n.location) = [n] := by
    simp [Node.below, Node.ofRoot]
  rw [← resolve_below, hn]

/-- What is found from a node on stands below its location. -/
theorem prefix_of_mem_resolve {segments : List Segment} {n : Node} {found : List Node}
    (h : resolve env root segments [n] = .ok found) : ∀ m ∈ found, n.location <+: m.location := by
  rw [resolve_singleton] at h
  cases htop : resolve env root segments [.ofRoot n.value] with
  | error e => simp [htop, Except.map] at h
  | ok top =>
    rw [htop] at h
    cases h
    intro m hm
    obtain ⟨k, -, rfl⟩ := List.mem_map.1 hm
    exact List.prefix_append _ _

theorem resolve_append (segments more : List Segment) (nodes : List Node) :
    resolve env root (segments ++ more) nodes =
      resolve env root segments nodes >>= resolve env root more := by
  induction segments generalizing nodes with
  | nil => simp [resolve, bind, Except.bind]
  | cons s rest ih =>
    rw [List.cons_append, resolve, resolve]
    cases collect (s.select env root) nodes with
    | error e => rfl
    | ok found => exact ih found

end

end PathQuery
