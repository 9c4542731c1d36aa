import PathQuery.Proofs.Node.Relocation
import PathQuery.Proofs.Number.Whole
import PathQuery.Proofs.Query.Acceptance

/-! The functions that take a container apart. Keys and values come in one order, an entry is one of
each, and the entries put together again are the container. What stars find in the values is what they
find in the container, and there are as many keys. -/
namespace PathQuery

namespace Value

def isContainer : Value → Bool
  | array _ | object _ => true
  | _ => false

/-- A pair of a key and a value. -/
def entry (key value : Value) : Value := array [key, value]

/-- Puts the value of an entry at the place that is its key. -/
def putItem? (items : List Value) : Value → Option (List Value)
  | array [number x, value] => x.truncate?.bind fun i =>
    if 0 ≤ i ∧ i < items.length then some (items.set i.toNat value) else none
  | _ => none

/-- Puts the value of an entry under the name that is its key. -/
def putMember? (members : List (String × Value)) : Value → Option (List (String × Value))
  | array [string name, value] => some (Members.insert members name value)
  | _ => none

/-- The container of this kind that has these entries. -/
def rebuild? (kind : String) (entries : List Value) : Option Value :=
  if kind = "array" then
    (entries.foldlM putItem? (List.replicate entries.length null)).map array
  else if kind = "object" then (entries.foldlM putMember? []).map object
  else none

/-- Items that come in order fill the places one after the other. -/
theorem foldlM_putItem? (front items : List Value) (size : front.length + items.length ≤ 2 ^ 53) :
    ((items.zipIdx front.length).map fun (item, i) => entry (ofNat i) item).foldlM putItem?
      (front ++ List.replicate items.length null) = some (front ++ items) := by
  induction items generalizing front with
  | nil => simp
  | cons item rest ih =>
    rw [List.length_cons] at size
    have key := (Number.isInt_ofNat (k := front.length) (by omega)).truncate?
    have within : (front.length : Int) < front.length + (rest.length + 1) := by omega
    have place : putItem? (front ++ List.replicate (rest.length + 1) null)
        (entry (ofNat front.length) item) =
          some (front ++ [item] ++ List.replicate rest.length null) := by
      simp [putItem?, entry, ofNat, key, List.replicate_succ, within]
    have more := ih (front ++ [item]) (by simp; omega)
    rw [List.length_append, List.length_singleton] at more
    rw [List.zipIdx_cons, List.map_cons, List.foldlM_cons, List.length_cons, place]
    simpa using more

/-- Members that come in order, none of them named twice, are put one behind the other. -/
theorem foldlM_putMember? (front members : List (String × Value))
    (names : (Members.names (front ++ members)).Nodup) :
    (members.map fun m => entry (string m.1) m.2).foldlM putMember? front =
      some (front ++ members) := by
  induction members generalizing front with
  | nil => simp
  | cons member rest ih =>
    have fresh : member.1 ∉ Members.names front := by
      rw [Members.names, List.map_append, List.map_cons] at names
      intro h
      exact (List.nodup_append.1 names).2.2 _ h _ (List.mem_cons_self ..) rfl
    have place : putMember? front (entry (string member.1) member.2) =
        some (front ++ [member]) := by
      rw [← Members.insert_of_notMem (a := member.2) fresh]
      rfl
    rw [List.map_cons, List.foldlM_cons, place]
    simpa using ih (front ++ [member]) (by simpa using names)

end Value

namespace Function
open Value (entry)

/-- What the three functions make of a container. -/
structure TakesApart (v : Value) (ks vs : List Value) : Prop where
  keys : keys.call v [] = some (.array ks)
  values : values.call v [] = some (.array vs)
  entries : entries.call v [] = some (.array (List.zipWith entry ks vs))
  held : vs = v.children.map Prod.snd
  length : ks.length = vs.length

variable {v : Value} {ks vs : List Value}

theorem takesApart_array (items : List Value) :
    TakesApart (.array items) ((List.range items.length).map .ofNat) items where
  keys := rfl
  values := rfl
  entries := by
    have pairs : List.zipWith entry ((List.range items.length).map .ofNat) items =
        items.zipIdx.map fun (item, i) => entry (.ofNat i) item := by
      apply List.ext_getElem
      · simp
      · intro i _ _
        simp
    rw [pairs]
    rfl
  held := by
    rw [Value.children, List.map_map]
    exact (List.zipIdx_map_fst 0 items).symm
  length := by simp

theorem takesApart_object (members : List (String × Value)) :
    TakesApart (.object members) (members.map fun m => .string m.1) (members.map Prod.snd) where
  keys := rfl
  values := rfl
  entries := by
    rw [List.zipWith_map, List.zipWith_self]
    rfl
  held := by
    rw [Value.children, List.map_map]
    rfl
  length := by simp

theorem exists_takesApart (h : v.isContainer = true) : ∃ ks vs, TakesApart v ks vs := by
  cases v with
  | array items => exact ⟨_, _, takesApart_array items⟩
  | object members => exact ⟨_, _, takesApart_object members⟩
  | _ => cases h

theorem isSome_call (v : Value) {f : Function} (hf : f ∈ [keys, values, entries]) :
    (f.call v []).isSome = v.isContainer := by
  simp only [List.mem_cons, List.not_mem_nil, or_false] at hf
  rcases hf with rfl | rfl | rfl <;> cases v <;> rfl

/-- The entries of a container, put together again, are the container. -/
theorem TakesApart.rebuild? (h : TakesApart v ks vs) (distinct : v.Distinct)
    (size : v.children.length ≤ 2 ^ 53) :
    Value.rebuild? v.kind (List.zipWith entry ks vs) = some v := by
  have he := h.entries
  cases v with
  | array items =>
    have pairs : List.zipWith entry ks vs =
        items.zipIdx.map fun (item, i) => entry (.ofNat i) item :=
      (Value.array.inj (Option.some.inj he)).symm
    have hsize : items.length ≤ 2 ^ 53 := by simpa [Value.children] using size
    have filled := Value.foldlM_putItem? [] items (by simpa using hsize)
    rw [Value.rebuild?, Value.kind, if_pos rfl, pairs, List.length_map, List.length_zipIdx]
    exact congrArg (Option.map Value.array) filled
  | object members =>
    have pairs : List.zipWith entry ks vs = members.map fun m => entry (.string m.1) m.2 :=
      (Value.array.inj (Option.some.inj he)).symm
    have put := Value.foldlM_putMember? [] members (Value.distinct_object.1 distinct).1
    rw [Value.rebuild?, Value.kind, if_neg (by decide), if_pos rfl, pairs, put]
    rfl
  | null | bool | number | string => cases he

end Function

section
variable [Pattern.Engine] {env : Environment} {root : Value} {n : Node}

theorem Segment.select_call {f : Function} {name : String} {v : Value}
    (hf : env.resolve name [] = .ok f) (hv : f.call n.value [] = some v) :
    (Segment.function name []).select env root n = .ok [⟨n.location, v⟩] := by
  change n.apply env name [] = _
  rw [Node.apply, hf]
  simp [hv]

theorem resolve_wild : resolve env root [.wild] [n] = .ok n.children :=
  resolve_cons_of_select env root [] rfl

end

namespace Function
variable [Pattern.Engine] {v : Value} {ks vs : List Value}

/-- The children of the values of a container are those of the container. -/
theorem TakesApart.resolve_values (h : TakesApart v ks vs) (root : Value) (location : Location) :
    ∃ more, resolve .standard root [.function "values" [], .wild] [⟨location, v⟩] = .ok more ∧
      more.map Node.value = (Node.children ⟨location, v⟩).map Node.value := by
  refine ⟨Node.children ⟨location, .array vs⟩, ?_, ?_⟩
  · rw [resolve_cons_of_select _ _ _ (Segment.select_call rfl h.values)]
    exact resolve_wild
  · have items := (takesApart_array vs).held
    rw [Node.children, Node.children, List.map_map, List.map_map]
    change (Value.array vs).children.map Prod.snd = v.children.map Prod.snd
    rw [← items, h.held]

/-- There are as many keys as children. -/
theorem TakesApart.resolve_keys (h : TakesApart v ks vs) (size : v.children.length ≤ 2 ^ 53)
    (root : Value) (location : Location) :
    ∃ x, resolve .standard root [.function "keys" [], .function "length" []] [⟨location, v⟩] =
        .ok [⟨location, .number x⟩] ∧ x.IsInt (Node.children ⟨location, v⟩).length := by
  have number : ks.length = (Node.children ⟨location, v⟩).length := by
    rw [h.length, h.held, Node.children, List.length_map, List.length_map]
  refine ⟨.ofNat ks.length, ?_, ?_⟩
  · rw [resolve_cons_of_select _ _ _ (Segment.select_call rfl h.keys)]
    exact resolve_cons_of_select _ _ _ (Segment.select_call rfl rfl)
  · rw [← number]
    apply Number.isInt_ofNat
    rw [h.length, h.held, List.length_map]
    exact size

end Function

namespace Query
open Grammar
variable [Pattern.Engine]

theorem parse_wild : parse .standard "$[*]" = .ok ⟨[.wild]⟩ :=
  parse_of_text (by decide) (.root (.selection .wild .nil))

theorem parse_values_wild :
    parse .standard "$[values()][*]" = .ok ⟨[.function "values" [], .wild]⟩ := by
  have call : Call .standard [.function "values", .openParen, .closeParen]
      (.function "values" []) := .empty rfl
  exact parse_of_text (by decide) (.root (.selection (.call call) (.selection .wild .nil)))

theorem parse_keys_length : parse .standard "$[keys()].length()" =
    .ok ⟨[.function "keys" [], .function "length" []]⟩ := by
  have keys : Call .standard [.function "keys", .openParen, .closeParen]
      (.function "keys" []) := .empty rfl
  have length : Call .standard [.function "length", .openParen, .closeParen]
      (.function "length" []) := .empty rfl
  exact parse_of_text (by decide) (.root (.selection (.call keys) (.shorthand (.call length) .nil)))

end Query

namespace Function
open Value (entry)

/-- Keys, values and entries are there for containers and for nothing else. They describe the
container that they are taken from: place by place an entry is a key and a value, and the entries
put together again are the container. A star finds the same values in its values as in itself, and
as many nodes as it has keys. -/
theorem containers_agree [Pattern.Engine] {v : Value} (distinct : v.Distinct)
    (size : v.children.length ≤ 2 ^ 53) :
    (∀ f ∈ [keys, values, entries], (f.call v []).isSome = v.isContainer) ∧
    (v.isContainer = true → ∃ ks vs, TakesApart v ks vs ∧
      Value.rebuild? v.kind (List.zipWith entry ks vs) = some v ∧
      ∀ root location, ∃ nodes more x,
        resolve .standard root [.wild] [⟨location, v⟩] = .ok nodes ∧
        resolve .standard root [.function "values" [], .wild] [⟨location, v⟩] = .ok more ∧
        more.map Node.value = nodes.map Node.value ∧
        resolve .standard root [.function "keys" [], .function "length" []] [⟨location, v⟩] =
          .ok [⟨location, .number x⟩] ∧
        x.IsInt nodes.length) ∧
    Query.parse .standard "$[*]" = .ok ⟨[.wild]⟩ ∧
    Query.parse .standard "$[values()][*]" = .ok ⟨[.function "values" [], .wild]⟩ ∧
    Query.parse .standard "$[keys()].length()" =
      .ok ⟨[.function "keys" [], .function "length" []]⟩ := by
  refine ⟨fun f => isSome_call v, ?_, Query.parse_wild, Query.parse_values_wild,
    Query.parse_keys_length⟩
  intro hv
  obtain ⟨ks, vs, h⟩ := exists_takesApart hv
  refine ⟨ks, vs, h, h.rebuild? distinct size, ?_⟩
  intro root location
  obtain ⟨more, hmore, same⟩ := h.resolve_values root location
  obtain ⟨x, hx, number⟩ := h.resolve_keys size root location
  exact ⟨_, more, x, resolve_wild, hmore, same, hx, number⟩

/-- Members that are not in alphabetical order. -/
def twoMembers : Value := .object [("b", .array [.null]), ("a", .bool true)]

/-- They are taken apart and put together again. -/
theorem containers_agree_members :
    twoMembers.Distinct ∧ twoMembers.children.length ≤ 2 ^ 53 ∧
      Value.rebuild? "object"
          [entry (.string "b") (.array [.null]), entry (.string "a") (.bool true)] =
        some twoMembers ∧
      ∃ x, resolve .standard .null [.function "keys" [], .function "length" []]
          [⟨[.item 7], twoMembers⟩] =
        .ok [⟨[.item 7], .number x⟩] ∧ x.IsInt 2 := by
  have distinct : twoMembers.Distinct := by simp [twoMembers, Members.names]
  have size : twoMembers.children.length ≤ 2 ^ 53 := by decide
  obtain ⟨ks, vs, h, rebuilt, each⟩ := (containers_agree distinct size).2.1 rfl
  obtain ⟨nodes, -, x, hnodes, -, -, hx, number⟩ := each .null [.item 7]
  have hks := h.keys
  have hvs := h.values
  cases hks
  cases hvs
  cases hnodes
  exact ⟨distinct, size, rebuilt, x, hx, number⟩

end Function

end PathQuery
