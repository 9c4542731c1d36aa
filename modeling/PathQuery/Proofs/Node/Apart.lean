import Mathlib.Data.List.Sigma
import PathQuery.Proofs.Node.Relocation
import PathQuery.Proofs.Query.Distinct

/-! Where a query finds its nodes. As long as no node lies within another, neither do the nodes that
a segment finds from them. A descent and a filter give that up, but still find no location twice;
the segments behind them all go equally deep, which keeps locations that differ from meeting. -/
namespace PathQuery

namespace Node

/-- The nodes stand at different locations. -/
def Differs (n m : Node) : Prop := n.location ≠ m.location

/-- Neither node lies within the other. -/
def Apart (n m : Node) : Prop := ¬ n.location <+: m.location ∧ ¬ m.location <+: n.location

variable {n m k : Node}

theorem Apart.differs (h : n.Apart m) : n.Differs m := by
  intro heq
  exact h.1 (heq ▸ List.prefix_refl _)

theorem Differs.apart (h : n.Differs m) (hl : n.location.length = m.location.length) :
    n.Apart m := by
  constructor
  · intro hp
    exact h (hp.eq_of_length hl)
  · intro hp
    exact h (hp.eq_of_length hl.symm).symm

/-- What lies within nodes that are apart is apart. -/
theorem Apart.within {n' m' : Node} (h : n.Apart m) (hn : n.location <+: n'.location)
    (hm : m.location <+: m'.location) : n'.Apart m' := by
  constructor
  · intro hp
    exact (List.prefix_or_prefix_of_prefix (hn.trans hp) hm).elim h.1 h.2
  · intro hp
    exact (List.prefix_or_prefix_of_prefix hn (hm.trans hp)).elim h.1 h.2

/-- Nodes found equally deep below different locations are different. -/
theorem Differs.within {n' m' : Node} {depth : Nat} (h : n.Differs m)
    (hn : n.location <+: n'.location) (hm : m.location <+: m'.location)
    (hn' : n'.location.length = n.location.length + depth)
    (hm' : m'.location.length = m.location.length + depth) : n'.Differs m' := by
  intro heq
  rw [heq] at hn hn'
  have hlength : n.location.length = m.location.length := by omega
  exact h ((List.prefix_of_prefix_length_le hn hm (by omega)).eq_of_length hlength)

end Node

/-- What is collected from elements that are related is related, if it is for each element and
across two of them. -/
theorem pairwise_collect {α β ε : Type} {R : α → α → Prop} {S : β → β → Prop}
    {f : α → Except ε (List β)} {as : List α} {bs : List β} (has : as.Pairwise R)
    (inside : ∀ a ∈ as, ∀ cs, f a = .ok cs → cs.Pairwise S)
    (across : ∀ a b, R a b → ∀ cs ds, f a = .ok cs → f b = .ok ds → ∀ c ∈ cs, ∀ d ∈ ds, S c d)
    (h : collect f as = .ok bs) : bs.Pairwise S := by
  induction as generalizing bs with
  | nil =>
    cases h
    exact .nil
  | cons a rest ih =>
    simp only [collect, bind_eq_ok] at h
    obtain ⟨cs, hcs, ds, hds, h⟩ := h
    cases h
    obtain ⟨first, hrest⟩ := List.pairwise_cons.1 has
    apply List.pairwise_append.2
    refine ⟨inside a (by simp) cs hcs, ?_, ?_⟩
    · exact ih hrest (fun b hb => inside b (List.mem_cons_of_mem _ hb)) hds
    · intro c hc d hd
      obtain ⟨b, hb, es, hes, hd⟩ := exists_of_mem_collect hds hd
      exact across a b (first b hb) cs es hcs hes c hc d hd

/-! What one segment finds from one node -/

theorem Slice.pairwise_indices (length : Nat) (start stop : Option Int) {step : Int}
    (hs : step ≠ 0) : (indices length start stop step).Pairwise (· ≠ ·) := by
  unfold indices
  rw [List.pairwise_map]
  apply List.pairwise_lt_range.imp
  intro j k hlt heq
  have hjk : (j : Int) * step = k * step := by omega
  have := Int.eq_of_mul_eq_mul_right hs hjk
  omega

/-- No step leads to two children. -/
theorem Value.pairwise_children {v : Value} (hv : v.Distinct) :
    v.children.Pairwise fun a b => a.1 ≠ b.1 := by
  cases hv with
  | @array items _ =>
    have places := List.nodup_zipIdx_map_snd items
    rw [List.Nodup, List.pairwise_map] at places
    rw [children, List.pairwise_map]
    apply places.imp
    intro a b hne heq
    exact hne (by simpa using heq)
  | @object members names _ =>
    rw [Members.names, List.Nodup, List.pairwise_map] at names
    rw [children, List.pairwise_map]
    apply names.imp
    intro a b hne heq
    exact hne (by simpa using heq)
  | _ => exact .nil

namespace Node
variable {n m : Node} {found : List Node}

theorem pairwise_toList (o : Option Node) (R : Node → Node → Prop) : o.toList.Pairwise R := by
  cases o with
  | none => exact .nil
  | some n => exact List.pairwise_singleton ..

theorem location_of_member? {name : String} (h : n.member? name = some m) :
    m.location = n.location ++ [.member name] := by
  unfold member? at h
  split at h
  · obtain ⟨v, -, rfl⟩ := Option.map_eq_some_iff.1 h
    rfl
  · cases h

theorem location_of_item? {i : Nat} (h : n.item? i = some m) :
    m.location = n.location ++ [.item i] := by
  unfold item? at h
  split at h
  · obtain ⟨v, -, rfl⟩ := Option.map_eq_some_iff.1 h
    rfl
  · cases h

theorem exists_item?_of_itemAt? {i : Int} (h : n.itemAt? i = some m) :
    ∃ place, n.item? place = some m := by
  unfold itemAt? at h
  split at h
  · dsimp only at h
    generalize (if i < 0 then _ else i) = place at h
    split at h
    · cases h
    · exact ⟨_, h⟩
  · cases h

theorem exists_item?_of_slice {start stop step : Option Int}
    (h : n.slice start stop step = .ok found) (hm : m ∈ found) :
    ∃ place, n.item? place = some m := by
  unfold slice at h
  split at h
  · dsimp only at h
    split at h
    · cases h
    · cases h
      obtain ⟨i, -, hi⟩ := List.mem_filterMap.1 hm
      split at hi
      · cases hi
      · exact ⟨_, hi⟩
  · cases h
    cases hm

theorem differs_of_locations {k : Node} {s t : Step} (hm : m.location = n.location ++ [s])
    (hk : k.location = n.location ++ [t]) (h : s ≠ t) : m.Differs k := by
  intro heq
  rw [hm, hk] at heq
  exact h (by simpa using heq)

theorem children_differ (hn : n.value.Distinct) : n.children.Pairwise Differs := by
  rw [children, List.pairwise_map]
  apply (Value.pairwise_children hn).imp
  intro a b h
  exact differs_of_locations rfl rfl h

theorem slice_differ {start stop step : Option Int} (h : n.slice start stop step = .ok found) :
    found.Pairwise Differs := by
  unfold slice at h
  split at h
  · dsimp only at h
    split at h
    · cases h
    next hs =>
      cases h
      apply (Slice.pairwise_indices _ start stop hs).filterMap
      intro i j hij m hm k hk
      split at hm
      · cases hm
      split at hk
      · cases hk
      apply differs_of_locations (location_of_item? hm) (location_of_item? hk)
      intro hstep
      have : i.toNat = j.toNat := by simpa using hstep
      omega
  · cases h
    exact .nil

theorem union_differ {names : List String} (h : names.Nodup) :
    (names.filterMap n.member?).Pairwise Differs := by
  refine List.Pairwise.filterMap n.member? ?_ h
  intro name other hne m hm k hk
  apply differs_of_locations (location_of_member? hm) (location_of_member? hk)
  intro hstep
  exact hne (by simpa using hstep)

theorem candidates_differ (hn : n.value.Distinct) : n.candidates.Pairwise Differs := by
  unfold candidates
  split
  · exact children_differ hn
  · apply List.pairwise_cons.2
    refine ⟨?_, children_differ hn⟩
    intro m hm
    obtain ⟨⟨s, v⟩, -, rfl⟩ := List.mem_map.1 hm
    intro heq
    simp at heq
  · exact List.pairwise_singleton ..

end Node

mutual

theorem Value.descend_differ : (v : Value) → v.Distinct → ∀ location,
    (v.descend location).Pairwise Node.Differs
  | .array items, hv, location => by
    have hitems := Value.distinct_array.1 hv
    apply List.pairwise_cons.2
    refine ⟨?_, descendItems_differ items hitems location 0⟩
    intro m hm heq
    obtain ⟨i, item, -, l, hl, -⟩ := exists_of_mem_descendItems items hitems location 0 m hm
    simp [← heq] at hl
  | .object members, hv, location => by
    obtain ⟨hnames, hmembers⟩ := Value.distinct_object.1 hv
    apply List.pairwise_cons.2
    refine ⟨?_, descendMembers_differ members hnames hmembers location⟩
    intro m hm heq
    obtain ⟨name, value, -, l, hl, -⟩ :=
      exists_of_mem_descendMembers members hmembers location m hm
    simp [← heq] at hl
  | .null, _, _ | .bool _, _, _ | .number _, _, _ | .string _, _, _ =>
    List.pairwise_singleton ..

theorem descendItems_differ : (items : List Value) → (∀ item ∈ items, item.Distinct) →
    ∀ location index, (descendItems location index items).Pairwise Node.Differs
  | [], _, _, _ => .nil
  | item :: rest, h, location, index => by
    have hrest : ∀ other ∈ rest, other.Distinct := fun other ho => h other (by simp [ho])
    apply List.pairwise_append.2
    refine ⟨Value.descend_differ item (h item (by simp)) _,
      descendItems_differ rest hrest location (index + 1), ?_⟩
    intro m hm k hk heq
    obtain ⟨l, hl, -⟩ := Value.reaches_of_mem_descend item (h item (by simp)) _ m hm
    obtain ⟨i, other, -, l', hl', -⟩ :=
      exists_of_mem_descendItems rest hrest location (index + 1) k hk
    rw [hl, hl'] at heq
    simp at heq
    omega

theorem descendMembers_differ : (members : List (String × Value)) →
    (Members.names members).Nodup → (∀ member ∈ members, member.2.Distinct) →
    ∀ location, (descendMembers location members).Pairwise Node.Differs
  | [], _, _, _ => .nil
  | (name, value) :: rest, hnames, h, location => by
    have hrest : ∀ member ∈ rest, member.2.Distinct := fun member hm => h member (by simp [hm])
    obtain ⟨hname, hnames⟩ := List.nodup_cons.1 hnames
    apply List.pairwise_append.2
    refine ⟨Value.descend_differ value (h (name, value) (by simp)) _,
      descendMembers_differ rest hnames hrest location, ?_⟩
    intro m hm k hk heq
    obtain ⟨l, hl, -⟩ := Value.reaches_of_mem_descend value (h (name, value) (by simp)) _ m hm
    obtain ⟨other, value', hmem, l', hl', -⟩ :=
      exists_of_mem_descendMembers rest hrest location k hk
    rw [hl, hl'] at heq
    simp only [List.append_assoc, List.append_cancel_left_eq, List.cons_append, List.nil_append,
      List.cons.injEq, Step.member.injEq] at heq
    exact hname (List.mem_map.2 ⟨_, hmem, heq.1.symm⟩)

end

/-! Segments -/

/-- Segments whose nodes may lie within each other. -/
def Segment.nests [Pattern.Engine] : Segment → Bool
  | .recursive | .filter _ => true
  | _ => false

/-- How deep below a node the other segments find theirs. -/
def Segment.depth [Pattern.Engine] : Segment → Nat
  | .function .. => 0
  | _ => 1

section
variable [Pattern.Engine] {env : Environment} {root : Value} {s : Segment} {n m : Node}
  {found nodes : List Node}

omit [Pattern.Engine] in
theorem collect_kept_sublist {α ε : Type} {f : α → Except ε (List α)} {as kept : List α}
    (hf : ∀ a out, f a = .ok out → out.Sublist [a]) (h : collect f as = .ok kept) :
    kept.Sublist as := by
  induction as generalizing kept with
  | nil =>
    cases h
    exact .slnil
  | cons a rest ih =>
    simp only [collect, bind_eq_ok] at h
    obtain ⟨out, hout, more, hmore, h⟩ := h
    cases h
    exact (hf a out hout).append (ih hmore)

/-- One segment finds no location twice from one node. -/
theorem Segment.select_differ (hs : ∀ names, s = .union names → names.Nodup)
    (hn : n.value.Distinct) (h : s.select env root n = .ok found) :
    found.Pairwise Node.Differs := by
  cases s with
  | field | index =>
    cases h
    exact Node.pairwise_toList ..
  | wild =>
    cases h
    exact Node.children_differ hn
  | recursive =>
    cases h
    exact Value.descend_differ n.value hn n.location
  | slice => exact Node.slice_differ h
  | union names =>
    cases h
    exact Node.union_differ (hs names rfl)
  | filter p =>
    refine List.Pairwise.sublist ?_ (Node.candidates_differ hn)
    refine collect_kept_sublist (fun c out hout => ?_) h
    obtain ⟨holds, -, hout⟩ := bind_eq_ok.1 hout
    cases hout
    cases holds <;> simp
  | function name args =>
    change n.apply env name args = _ at h
    unfold Node.apply at h
    split at h
    · cases h
    · cases h
      exact Node.pairwise_toList ..

theorem Segment.prefix_of_mem_select (h : s.select env root n = .ok found) (hm : m ∈ found) :
    n.location <+: m.location := by
  have hone : resolve env root [s] [n] = .ok found := resolve_cons_of_select env root [] h
  exact prefix_of_mem_resolve env root hone m hm

theorem Segment.length_of_mem_select (hs : s.nests = false) (h : s.select env root n = .ok found)
    (hm : m ∈ found) : m.location.length = n.location.length + s.depth := by
  have step {t : Step} (hl : m.location = n.location ++ [t]) :
      m.location.length = n.location.length + 1 := by simp [hl]
  cases s with
  | field name =>
    cases h
    exact step (Node.location_of_member? (Option.mem_toList.1 hm))
  | wild =>
    cases h
    obtain ⟨⟨t, v⟩, -, rfl⟩ := List.mem_map.1 hm
    exact step rfl
  | index i =>
    cases h
    obtain ⟨place, hplace⟩ := Node.exists_item?_of_itemAt? (Option.mem_toList.1 hm)
    exact step (Node.location_of_item? hplace)
  | slice =>
    obtain ⟨place, hplace⟩ := Node.exists_item?_of_slice h hm
    exact step (Node.location_of_item? hplace)
  | union names =>
    cases h
    obtain ⟨name, -, hname⟩ := List.mem_filterMap.1 hm
    exact step (Node.location_of_member? hname)
  | function name args =>
    change n.apply env name args = _ at h
    unfold Node.apply at h
    split at h
    · cases h
    · cases h
      obtain ⟨v, -, rfl⟩ := Option.map_eq_some_iff.1 (Option.mem_toList.1 hm)
      rfl
  | recursive | filter => cases hs

/-! Runs of segments -/

/-- Nodes that are apart lead to nodes at different locations, through whatever segment. -/
theorem Segment.collect_differ (hs : ∀ names, s = .union names → names.Nodup)
    (hn : ∀ n ∈ nodes, n.value.Distinct) (apart : nodes.Pairwise Node.Apart)
    (h : collect (s.select env root) nodes = .ok found) : found.Pairwise Node.Differs := by
  refine pairwise_collect apart ?_ ?_ h
  · intro n hmem part hpart
    exact Segment.select_differ hs (hn n hmem) hpart
  · intro n m hnm part part' hpart hpart' a ha b hb
    exact (hnm.within (prefix_of_mem_select hpart ha) (prefix_of_mem_select hpart' hb)).differs

/-- Nodes that are apart lead to nodes that are apart, through a segment that does not nest. -/
theorem Segment.collect_apart (hd : s.nests = false) (hs : ∀ names, s = .union names → names.Nodup)
    (hn : ∀ n ∈ nodes, n.value.Distinct) (apart : nodes.Pairwise Node.Apart)
    (h : collect (s.select env root) nodes = .ok found) : found.Pairwise Node.Apart := by
  refine pairwise_collect apart ?_ ?_ h
  · intro n hmem part hpart
    have differ := Segment.select_differ hs (hn n hmem) hpart
    refine differ.imp_of_mem fun {a b} ha hb hab => hab.apart ?_
    rw [length_of_mem_select hd hpart ha, length_of_mem_select hd hpart hb]
  · intro n m hnm part part' hpart hpart' a ha b hb
    exact hnm.within (prefix_of_mem_select hpart ha) (prefix_of_mem_select hpart' hb)

/-- Different locations lead to different locations, through a segment that does not nest. -/
theorem Segment.collect_differ_of_differ (hd : s.nests = false)
    (hs : ∀ names, s = .union names → names.Nodup) (hn : ∀ n ∈ nodes, n.value.Distinct)
    (differ : nodes.Pairwise Node.Differs) (h : collect (s.select env root) nodes = .ok found) :
    found.Pairwise Node.Differs := by
  refine pairwise_collect differ ?_ ?_ h
  · intro n hmem part hpart
    exact Segment.select_differ hs (hn n hmem) hpart
  · intro n m hnm part part' hpart hpart' a ha b hb
    exact hnm.within (prefix_of_mem_select hpart ha) (prefix_of_mem_select hpart' hb)
      (length_of_mem_select hd hpart ha) (length_of_mem_select hd hpart' hb)

end

section
variable [Pattern.Engine] {env : Environment} {root : Value} {segments : List Segment}
  {nodes found : List Node}

/-- What the segments of a run keep to: arguments and names are not given twice. -/
structure Segment.Plain (s : Segment) : Prop where
  distinct : s.Distinct
  names : ∀ names, s = .union names → names.Nodup

theorem resolve_differ_of_differ (hf : env.Distinct) (hp : ∀ s ∈ segments, s.Plain)
    (hd : ∀ s ∈ segments, s.nests = false) (hn : ∀ n ∈ nodes, n.value.Distinct)
    (differ : nodes.Pairwise Node.Differs) (h : resolve env root segments nodes = .ok found) :
    found.Pairwise Node.Differs := by
  induction segments generalizing nodes with
  | nil =>
    cases h
    exact differ
  | cons s rest ih =>
    rw [resolve, bind_eq_ok] at h
    obtain ⟨mid, hmid, h⟩ := h
    have plain := hp s (by simp)
    refine ih (fun t ht => hp t (by simp [ht])) (fun t ht => hd t (by simp [ht])) ?_ ?_ h
    · exact Segment.distinct_of_collect hf plain.distinct hn hmid
    · exact Segment.collect_differ_of_differ (hd s (by simp)) plain.names hn differ hmid

/-- Up to the segment that nests nodes are apart, and from there on their locations differ. -/
theorem resolve_differ (hf : env.Distinct) (hp : ∀ s ∈ segments, s.Plain)
    (once : segments.countP Segment.nests ≤ 1) (hn : ∀ n ∈ nodes, n.value.Distinct)
    (apart : nodes.Pairwise Node.Apart) (h : resolve env root segments nodes = .ok found) :
    found.Pairwise Node.Differs := by
  induction segments generalizing nodes with
  | nil =>
    cases h
    exact apart.imp Node.Apart.differs
  | cons s rest ih =>
    rw [resolve, bind_eq_ok] at h
    obtain ⟨mid, hmid, h⟩ := h
    have plain := hp s (by simp)
    have hp' : ∀ t ∈ rest, t.Plain := fun t ht => hp t (by simp [ht])
    have hn' := Segment.distinct_of_collect hf plain.distinct hn hmid
    rw [List.countP_cons] at once
    cases hs : s.nests with
    | true =>
      have none : rest.countP Segment.nests = 0 := by
        rw [hs] at once
        simpa using once
      have differ := Segment.collect_differ plain.names hn apart hmid
      refine resolve_differ_of_differ hf hp' (fun t ht => ?_) hn' differ h
      simpa using List.countP_eq_zero.1 none t ht
    | false =>
      refine ih hp' (by omega) hn' ?_ h
      exact Segment.collect_apart hs plain.names hn apart hmid

end

namespace Query

/-- A query that nests once at most finds no location twice, whatever its calls make of the
values. -/
theorem nodup_locations_of_find [Pattern.Engine] {q : Query} {env : Environment} {document : Value}
    {found : List Node} (functions : env.Distinct) (literals : q.Distinct)
    (distinct : document.Distinct) (once : q.segments.countP Segment.nests ≤ 1)
    (unions : ∀ names, .union names ∈ q.segments → names.Nodup)
    (h : q.find env document = .ok found) : (found.map Node.location).Nodup := by
  have plain : ∀ s ∈ q.segments, s.Plain := by
    intro s hs
    exact ⟨literals.of_mem hs, fun names hname => unions names (hname ▸ hs)⟩
  have differ := resolve_differ functions plain once (by simpa [Node.ofRoot] using distinct)
    (List.pairwise_singleton ..) h
  exact List.pairwise_map.2 differ

/-- Names in another order, a descent, and the children of what a call makes. -/
theorem nodup_locations_of_find_values :
    find ⟨[.union ["b", "a"], .recursive, .function "values" [], .wild]⟩ .standard
        (.object [("a", .array [.object [("x", .null)]]), ("b", .object [("y", .bool true)])]) =
      .ok [⟨[.member "b", .item 0], .bool true⟩,
        ⟨[.member "a", .item 0], .object [("x", .null)]⟩,
        ⟨[.member "a", .item 0, .item 0], .null⟩] ∧
      (List.map Node.location [⟨[.member "b", .item 0], .bool true⟩,
        ⟨[.member "a", .item 0], .object [("x", .null)]⟩,
        ⟨[.member "a", .item 0, .item 0], .null⟩]).Nodup := by
  have found : find ⟨[.union ["b", "a"], .recursive, .function "values" [], .wild]⟩ .standard
      (.object [("a", .array [.object [("x", .null)]]), ("b", .object [("y", .bool true)])]) =
    .ok [⟨[.member "b", .item 0], .bool true⟩, ⟨[.member "a", .item 0], .object [("x", .null)]⟩,
      ⟨[.member "a", .item 0, .item 0], .null⟩] := rfl
  have literals : Distinct ⟨[.union ["b", "a"], .recursive, .function "values" [], .wild]⟩ :=
    ⟨trivial, trivial, trivial, trivial, by simp [Segment.Distinct], trivial, trivial, trivial,
      trivial⟩
  have distinct : (Value.object
      [("a", .array [.object [("x", .null)]]), ("b", .object [("y", .bool true)])]).Distinct := by
    simp [Members.names]
  have unions : ∀ names, .union names ∈ [Segment.union ["b", "a"], .recursive,
      .function "values" [], .wild] → names.Nodup := by
    intro names hnames
    have hnames : names = ["b", "a"] := by simpa using hnames
    subst hnames
    decide
  exact ⟨found, nodup_locations_of_find Environment.standard_distinct literals distinct
    (by decide) unions found⟩

end Query

end PathQuery
