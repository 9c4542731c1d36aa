import PathQuery.Proofs.Query.Soundness
import PathQuery.Proofs.Value.Distinct
import PathQuery.Query.Eval

/-! Walking a location from the root of a document. Every segment but a call finds nodes within
the node that it is applied to, so what a query finds stands where its location says. -/
namespace PathQuery

namespace Value

/-- What one step leads to. -/
def step? : Value → Step → Option Value
  | array items, .item i => items[i]?
  | object members, .member name => Members.get? members name
  | _, _ => none

/-- What the steps of a location lead to, one after the other. -/
def at? (v : Value) : Location → Option Value
  | [] => some v
  | s :: rest => (v.step? s).bind fun w => w.at? rest

variable {v w : Value} {s : Step}

@[simp] theorem at?_nil (v : Value) : v.at? [] = some v := rfl

theorem at?_cons (v : Value) (s : Step) (l : Location) :
    v.at? (s :: l) = (v.step? s).bind fun w => w.at? l := rfl

theorem at?_append (v : Value) (l l' : Location) :
    v.at? (l ++ l') = (v.at? l).bind fun w => w.at? l' := by
  induction l generalizing v with
  | nil => rfl
  | cons s l ih => simp [at?_cons, ih, Option.bind_assoc]

theorem Distinct.step? (hv : v.Distinct) (h : v.step? s = some w) : w.Distinct := by
  cases hv with
  | array hitems =>
    cases s with
    | item i => exact hitems w (List.mem_of_getElem? h)
    | member => simp [Value.step?] at h
  | object _ hmembers =>
    cases s with
    | item => simp [Value.step?] at h
    | member name => exact hmembers (name, w) (Members.mem_of_get? h)
  | _ => cases s <;> simp [Value.step?] at h

theorem Distinct.at? (hv : v.Distinct) {l : Location} (h : v.at? l = some w) : w.Distinct := by
  induction l generalizing v with
  | nil =>
    cases h
    exact hv
  | cons s l ih =>
    obtain ⟨u, hu, h⟩ := Option.bind_eq_some_iff.1 h
    exact ih (hv.step? hu) h

theorem step?_of_mem_children (hv : v.Distinct) (h : (s, w) ∈ v.children) :
    v.step? s = some w := by
  cases hv with
  | array =>
    simp only [children, List.mem_map] at h
    obtain ⟨⟨item, i⟩, hi, he⟩ := h
    cases he
    simpa [Value.step?] using List.mk_mem_zipIdx_iff_getElem?.1 hi
  | object names =>
    simp only [children, List.mem_map] at h
    obtain ⟨⟨name, value⟩, hm, he⟩ := h
    cases he
    exact Members.get?_of_mem names hm
  | _ => simp [children] at h

end Value

/-- What is collected was made of one of the elements. -/
theorem exists_of_mem_collect {α β ε : Type} {f : α → Except ε (List β)} {as : List α}
    {bs : List β} {b : β} (h : collect f as = .ok bs) (hb : b ∈ bs) :
    ∃ a ∈ as, ∃ cs, f a = .ok cs ∧ b ∈ cs := by
  induction as generalizing bs with
  | nil =>
    cases h
    simp at hb
  | cons a rest ih =>
    simp only [collect, bind_eq_ok] at h
    obtain ⟨cs, hcs, ds, hds, h⟩ := h
    cases h
    rcases List.mem_append.1 hb with hb | hb
    · exact ⟨a, by simp, cs, hcs, hb⟩
    · obtain ⟨a', ha', found⟩ := ih hds hb
      exact ⟨a', List.mem_cons_of_mem _ ha', found⟩

namespace Node

/-- The second node lies within the first: its location goes on from there to its value. -/
def Reaches (n m : Node) : Prop :=
  ∃ l, m.location = n.location ++ l ∧ n.value.at? l = some m.value

variable {n m k : Node} {found : List Node}

theorem Reaches.refl (n : Node) : n.Reaches n := ⟨[], by simp, rfl⟩

theorem Reaches.trans (h : n.Reaches m) (h' : m.Reaches k) : n.Reaches k := by
  obtain ⟨l, hl, hv⟩ := h
  obtain ⟨l', hl', hv'⟩ := h'
  refine ⟨l ++ l', by rw [hl', hl, List.append_assoc], ?_⟩
  rw [Value.at?_append, hv]
  exact hv'

theorem Reaches.step {s : Step} {v : Value} (h : n.value.step? s = some v) :
    n.Reaches ⟨n.location ++ [s], v⟩ :=
  ⟨[s], rfl, by simp [Value.at?_cons, h]⟩

theorem Reaches.distinct (h : n.Reaches m) (hn : n.value.Distinct) : m.value.Distinct := by
  obtain ⟨l, -, hv⟩ := h
  exact hn.at? hv

theorem ofRoot_reaches_iff {document : Value} :
    (ofRoot document).Reaches m ↔ document.at? m.location = some m.value := by
  constructor
  · rintro ⟨l, hl, hv⟩
    rw [hl]
    exact hv
  · intro h
    exact ⟨m.location, rfl, h⟩

theorem reaches_of_member? {name : String} (h : n.member? name = some m) : n.Reaches m := by
  unfold member? at h
  split at h
  next members hv =>
    obtain ⟨v, hm, rfl⟩ := Option.map_eq_some_iff.1 h
    exact .step (by rw [hv]; exact hm)
  · simp at h

theorem reaches_of_item? {i : Nat} (h : n.item? i = some m) : n.Reaches m := by
  unfold item? at h
  split at h
  next items hv =>
    obtain ⟨v, hi, rfl⟩ := Option.map_eq_some_iff.1 h
    exact .step (by rw [hv]; exact hi)
  · simp at h

theorem reaches_of_itemAt? {i : Int} (h : n.itemAt? i = some m) : n.Reaches m := by
  unfold itemAt? at h
  split at h
  · dsimp only at h
    generalize (if i < 0 then _ else i) = place at h
    split at h
    · simp at h
    · exact reaches_of_item? h
  · simp at h

theorem reaches_of_slice {start stop step : Option Int} (h : n.slice start stop step = .ok found)
    (hm : m ∈ found) : n.Reaches m := by
  unfold slice at h
  split at h
  · dsimp only at h
    split at h
    · simp at h
    · cases h
      obtain ⟨i, -, hi⟩ := List.mem_filterMap.1 hm
      split at hi
      · simp at hi
      · exact reaches_of_item? hi
  · cases h
    simp at hm

theorem reaches_of_mem_children (hn : n.value.Distinct) (hm : m ∈ n.children) : n.Reaches m := by
  obtain ⟨⟨s, v⟩, hs, rfl⟩ := List.mem_map.1 hm
  exact .step (Value.step?_of_mem_children hn hs)

theorem reaches_of_mem_candidates (hn : n.value.Distinct) (hm : m ∈ n.candidates) :
    n.Reaches m := by
  unfold candidates at hm
  split at hm
  · exact reaches_of_mem_children hn hm
  · rcases List.mem_cons.1 hm with rfl | hm
    · exact .refl m
    · exact reaches_of_mem_children hn hm
  · rw [List.mem_singleton.1 hm]
    exact .refl n

end Node

/-! The descent builds its locations on its own, from the index or the name of each value. -/

mutual

theorem Value.reaches_of_mem_descend : (v : Value) → v.Distinct → ∀ location,
    ∀ m ∈ v.descend location, Node.Reaches ⟨location, v⟩ m
  | .array items, hv, location, m, hm => by
    have hitems := Value.distinct_array.1 hv
    rcases List.mem_cons.1 hm with rfl | hm
    · exact .refl _
    · obtain ⟨i, item, hi, hreach⟩ := exists_of_mem_descendItems items hitems location 0 m hm
      have first : Node.Reaches ⟨location, .array items⟩ ⟨location ++ [.item i], item⟩ := .step hi
      rw [Nat.zero_add] at hreach
      exact first.trans hreach
  | .object members, hv, location, m, hm => by
    obtain ⟨hnames, hmembers⟩ := Value.distinct_object.1 hv
    rcases List.mem_cons.1 hm with rfl | hm
    · exact .refl _
    · obtain ⟨name, value, hmem, hreach⟩ :=
        exists_of_mem_descendMembers members hmembers location m hm
      have first : Node.Reaches ⟨location, .object members⟩ ⟨location ++ [.member name], value⟩ :=
        .step (Members.get?_of_mem hnames hmem)
      exact first.trans hreach
  | .null, _, _, _, hm | .bool _, _, _, _, hm | .number _, _, _, _, hm
  | .string _, _, _, _, hm => by
    rw [List.mem_singleton.1 hm]
    exact .refl _

theorem exists_of_mem_descendItems : (items : List Value) → (∀ item ∈ items, item.Distinct) →
    ∀ location index, ∀ m ∈ descendItems location index items, ∃ i item, items[i]? = some item ∧
      Node.Reaches ⟨location ++ [.item (index + i)], item⟩ m
  | [], _, _, _, _, hm => by simp [descendItems] at hm
  | item :: rest, h, location, index, m, hm => by
    rw [descendItems] at hm
    rcases List.mem_append.1 hm with hm | hm
    · exact ⟨0, item, rfl, Value.reaches_of_mem_descend item (h item (by simp)) _ m hm⟩
    · obtain ⟨i, other, hi, hreach⟩ := exists_of_mem_descendItems rest
        (fun other ho => h other (List.mem_cons_of_mem _ ho)) location (index + 1) m hm
      refine ⟨i + 1, other, by simpa using hi, ?_⟩
      rwa [Nat.add_right_comm] at hreach

theorem exists_of_mem_descendMembers : (members : List (String × Value)) →
    (∀ member ∈ members, member.2.Distinct) → ∀ location, ∀ m ∈ descendMembers location members,
    ∃ name value, (name, value) ∈ members ∧
      Node.Reaches ⟨location ++ [.member name], value⟩ m
  | [], _, _, _, hm => by simp [descendMembers] at hm
  | (name, value) :: rest, h, location, m, hm => by
    rw [descendMembers] at hm
    rcases List.mem_append.1 hm with hm | hm
    · exact ⟨name, value, by simp,
        Value.reaches_of_mem_descend value (h (name, value) (by simp)) _ m hm⟩
    · obtain ⟨other, value', hmem, hreach⟩ := exists_of_mem_descendMembers rest
        (fun member hmem => h member (List.mem_cons_of_mem _ hmem)) location m hm
      exact ⟨other, value', List.mem_cons_of_mem _ hmem, hreach⟩

end

section
variable [Pattern.Engine] {env : Environment} {root : Value} {found : List Node}

/-- Every segment but a call finds nodes within the node that it is applied to. -/
theorem Segment.reaches_of_select {s : Segment} {n : Node} (hs : ∀ name args, s ≠ .function name args)
    (hn : n.value.Distinct) (h : s.select env root n = .ok found) : ∀ m ∈ found, n.Reaches m := by
  intro m hm
  cases s with
  | field name =>
    cases h
    exact Node.reaches_of_member? (Option.mem_toList.1 hm)
  | wild =>
    cases h
    exact Node.reaches_of_mem_children hn hm
  | recursive =>
    cases h
    exact Value.reaches_of_mem_descend n.value hn n.location m hm
  | index i =>
    cases h
    exact Node.reaches_of_itemAt? (Option.mem_toList.1 hm)
  | slice => exact Node.reaches_of_slice h hm
  | union names =>
    cases h
    obtain ⟨name, -, hname⟩ := List.mem_filterMap.1 hm
    exact Node.reaches_of_member? hname
  | filter p =>
    obtain ⟨c, hc, kept, hkept, hm⟩ := exists_of_mem_collect h hm
    obtain ⟨holds, -, hkept⟩ := bind_eq_ok.1 hkept
    cases hkept
    cases holds with
    | true =>
      rw [List.mem_singleton.1 hm]
      exact Node.reaches_of_mem_candidates hn hc
    | false => simp at hm
  | function name args => exact absurd rfl (hs name args)

theorem reaches_of_resolve {segments : List Segment} {nodes : List Node}
    (hs : ∀ name args, .function name args ∉ segments) (hn : ∀ n ∈ nodes, n.value.Distinct)
    (h : resolve env root segments nodes = .ok found) : ∀ m ∈ found, ∃ n ∈ nodes, n.Reaches m := by
  induction segments generalizing nodes with
  | nil =>
    cases h
    exact fun m hm => ⟨m, hm, .refl m⟩
  | cons s rest ih =>
    rw [resolve, bind_eq_ok] at h
    obtain ⟨middle, hmiddle, h⟩ := h
    -- The first segment leads from one of the nodes to each node in the middle.
    have first : ∀ k ∈ middle, ∃ n ∈ nodes, n.Reaches k := by
      intro k hk
      obtain ⟨n, hmem, ks, hks, hk⟩ := exists_of_mem_collect hmiddle hk
      exact ⟨n, hmem, Segment.reaches_of_select (fun name args hf => hs name args (by simp [hf]))
        (hn n hmem) hks k hk⟩
    have distinct : ∀ k ∈ middle, k.value.Distinct := by
      intro k hk
      obtain ⟨n, hmem, hreach⟩ := first k hk
      exact hreach.distinct (hn n hmem)
    intro m hm
    obtain ⟨k, hk, hlast⟩ := ih (fun name args hf => hs name args (by simp [hf])) distinct h m hm
    obtain ⟨n, hmem, hfirst⟩ := first k hk
    exact ⟨n, hmem, hfirst.trans hlast⟩

end

namespace Query

/-- Without calls on its own level, a query finds what stands where the locations say. -/
theorem at?_of_mem_find [Pattern.Engine] {q : Query} {env : Environment} {document : Value}
    {found : List Node}
    (distinct : document.Distinct) (plain : ∀ name args, .function name args ∉ q.segments)
    (h : q.find env document = .ok found) :
    ∀ n ∈ found, document.at? n.location = some n.value := by
  intro n hn
  obtain ⟨root, hroot, hreach⟩ :=
    reaches_of_resolve plain (by simpa [Node.ofRoot] using distinct) h n hn
  rw [List.mem_singleton.1 hroot] at hreach
  exact Node.ofRoot_reaches_iff.1 hreach

/-- A descent, a filter that calls a function, and a slice from the end. -/
theorem at?_of_mem_find_backwards :
    (Value.object [("a", .array [.null, .array [.string "x"]])]).Distinct ∧
      Query.find ⟨[.recursive, .filter (.present (.mk .current [.function "length" []])),
          .slice none none (some (-1))]⟩ .standard
            (.object [("a", .array [.null, .array [.string "x"]])]) =
        .ok [⟨[.member "a", .item 1], .array [.string "x"]⟩, ⟨[.member "a", .item 0], .null⟩,
          ⟨[.member "a", .item 1, .item 0], .string "x"⟩] ∧
      Value.at? (.object [("a", .array [.null, .array [.string "x"]])])
        [.member "a", .item 1, .item 0] = some (.string "x") := by
  have distinct : (Value.object [("a", .array [.null, .array [.string "x"]])]).Distinct := by
    simp [Members.names]
  have found : Query.find ⟨[.recursive, .filter (.present (.mk .current [.function "length" []])),
      .slice none none (some (-1))]⟩ .standard
        (.object [("a", .array [.null, .array [.string "x"]])]) =
      .ok [⟨[.member "a", .item 1], .array [.string "x"]⟩, ⟨[.member "a", .item 0], .null⟩,
        ⟨[.member "a", .item 1, .item 0], .string "x"⟩] := rfl
  exact ⟨distinct, found, at?_of_mem_find distinct (by simp) found
    ⟨[.member "a", .item 1, .item 0], .string "x"⟩ (by simp)⟩

end Query
end PathQuery
