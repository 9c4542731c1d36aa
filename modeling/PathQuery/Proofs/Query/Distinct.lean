import PathQuery.Proofs.Canonical.Limits
import PathQuery.Proofs.Node.Location

/-! Queries and functions that name no member of an object twice. What is read from a text is of
this kind, and so are the standard functions; evaluation then finds nothing else. -/
namespace PathQuery

section
variable [Pattern.Engine]

/-- No argument names a member twice. -/
def Segment.Distinct : Segment → Prop
  | .function _ args => ∀ arg ∈ args, arg.Distinct
  | _ => True

/-- No literal names a member twice. -/
def Predicate.Distinct : Predicate → Prop
  | .compare _ _ value => value.Distinct
  | _ => True

def Query.Distinct (q : Query) : Prop :=
  q.Everywhere (fun s _ => s.Distinct) Predicate.Distinct

/-- What is read from a text holds no objects at all. -/
theorem Query.distinct_of_parse {text : String} {q : Query} (h : parse .standard text = .ok q) :
    q.Distinct := by
  refine (parse_admitted h).imp (fun s rest hs => ?_) fun p hp => ?_
  · cases s with
    | function name args =>
      obtain ⟨f, hf⟩ := hs
      intro arg harg
      have argument := (Environment.resolve_standard hf).2 arg harg
      cases arg with
      | number | string => simp
      | _ => exact argument.elim
    | _ => trivial
  · cases p with
    | compare path op value =>
      have scalar : value.IsScalar := hp
      cases value with
      | array | object => exact scalar.elim
      | _ => simp [Predicate.Distinct]
    | _ => trivial

theorem Query.Distinct.of_mem {q : Query} (h : q.Distinct) {s : Segment} (hs : s ∈ q.segments) :
    s.Distinct := by
  obtain ⟨segments⟩ := q
  change everywhere (fun s _ => s.Distinct) Predicate.Distinct segments at h
  induction segments with
  | nil => simp at hs
  | cons t rest ih =>
    rcases List.mem_cons.1 hs with rfl | hs
    · exact h.1
    · exact ih hs h.2.2

end

theorem Environment.resolve_eq_ok_iff {env : Environment} {name : String} {args : List Value}
    {f : Function} :
    env.resolve name args = .ok f ↔ env.get? name = some f ∧ f.signature.check args = none := by
  unfold resolve
  cases env.get? name with
  | none => simp
  | some g =>
    cases hc : g.signature.check args with
    | none =>
      simp only [hc, Except.ok.injEq, Option.some.injEq]
      constructor
      · rintro rfl
        exact ⟨rfl, hc⟩
      · exact And.left
    | some cause =>
      simp only [hc, Option.some.injEq, reduceCtorEq, false_iff, not_and]
      rintro rfl
      simp [hc]

/-- Of values that name no member twice, the function makes values of the same kind. -/
def Function.Distinct (f : Function) : Prop :=
  ∀ v args w, v.Distinct → (∀ arg ∈ args, arg.Distinct) → f.call v args = some w → w.Distinct

def Environment.Distinct (env : Environment) : Prop :=
  ∀ name f, env.get? name = some f → f.Distinct

theorem Value.distinct_array_map {α : Type} {f : α → Value} {as : List α}
    (h : ∀ a ∈ as, (f a).Distinct) : (array (as.map f)).Distinct := by
  rw [distinct_array, List.forall_mem_map]
  exact h

namespace Function

theorem length_distinct : length.Distinct := by
  intro v args w _ _ h
  cases v with
  | string | array =>
    cases h
    exact .number _
  | _ => cases h

theorem substring_distinct : substring.Distinct := by
  intro v args w _ _ h
  cases v with
  | string =>
    cases h
    exact .string _
  | _ => cases h

theorem charAt_distinct : charAt.Distinct := by
  intro v args w _ _ h
  obtain ⟨s, -, h⟩ := Option.bind_eq_some_iff.1 h
  obtain ⟨i, -, h⟩ := Option.bind_eq_some_iff.1 h
  dsimp only at h
  generalize (if i < 0 then _ else i) = place at h
  split at h
  · cases h
  · obtain ⟨_, -, h⟩ := Option.bind_eq_some_iff.1 h
    cases h
    exact .string _

theorem keys_distinct : keys.Distinct := by
  intro v args w _ _ h
  cases v with
  | array items =>
    cases h
    exact Value.distinct_array_map fun _ _ => .number _
  | object members =>
    cases h
    exact Value.distinct_array_map fun _ _ => .string _
  | _ => cases h

theorem values_distinct : values.Distinct := by
  intro v args w hv _ h
  cases v with
  | array items =>
    cases h
    exact hv
  | object members =>
    cases h
    exact Value.distinct_array_map (Value.distinct_object.1 hv).2
  | _ => cases h

theorem entries_distinct : entries.Distinct := by
  intro v args w hv _ h
  cases v with
  | array items =>
    cases h
    apply Value.distinct_array_map
    intro entry hentry
    have item := Value.distinct_array.1 hv entry.1 (List.fst_mem_of_mem_zipIdx hentry)
    exact .array (by simpa [Value.ofNat] using item)
  | object members =>
    cases h
    apply Value.distinct_array_map
    intro member hmember
    have value := (Value.distinct_object.1 hv).2 member hmember
    exact .array (by simpa using value)
  | _ => cases h

end Function

/-- What holds of the standard functions, one by one, holds of all that the environment knows. -/
theorem Environment.of_get?_standard {P : Function → Prop} {name : String} {f : Function}
    (hf : standard.get? name = some f) (length : P .length) (substring : P .substring)
    (charAt : P .charAt) (keys : P .keys) (values : P .values) (entries : P .entries) : P f := by
  have hmem := Members.mem_of_get? hf
  simp only [standard, List.mem_cons, Prod.mk.injEq, List.not_mem_nil, or_false] at hmem
  rcases hmem with ⟨-, rfl⟩ | ⟨-, rfl⟩ | ⟨-, rfl⟩ | ⟨-, rfl⟩ | ⟨-, rfl⟩ | ⟨-, rfl⟩ <;> assumption

theorem Environment.standard_distinct : Environment.standard.Distinct := by
  intro name f hf
  exact of_get?_standard hf Function.length_distinct Function.substring_distinct
    Function.charAt_distinct Function.keys_distinct Function.values_distinct
    Function.entries_distinct

section
variable [Pattern.Engine] {env : Environment} {root : Value} {found nodes : List Node}

omit [Pattern.Engine] in
theorem Node.distinct_of_apply (hf : env.Distinct) {n : Node} {name : String} {args : List Value}
    (hn : n.value.Distinct) (hargs : ∀ arg ∈ args, arg.Distinct)
    (h : n.apply env name args = .ok found) : ∀ m ∈ found, m.value.Distinct := by
  unfold apply at h
  split at h
  · cases h
  next f hresolve =>
    cases h
    intro m hm
    obtain ⟨w, hw, rfl⟩ := Option.map_eq_some_iff.1 (Option.mem_toList.1 hm)
    exact hf name f (Environment.resolve_eq_ok_iff.1 hresolve).1 n.value args w hn hargs hw

theorem Segment.distinct_of_select (hf : env.Distinct) {s : Segment} (hs : s.Distinct) {n : Node}
    (hn : n.value.Distinct) (h : s.select env root n = .ok found) :
    ∀ m ∈ found, m.value.Distinct := by
  intro m hm
  cases s with
  | function name args => exact n.distinct_of_apply hf hn hs h m hm
  | _ => exact (Segment.reaches_of_select (by simp) hn h m hm).distinct hn

theorem Segment.distinct_of_collect (hf : env.Distinct) {s : Segment} (hs : s.Distinct)
    (hn : ∀ n ∈ nodes, n.value.Distinct) (h : collect (s.select env root) nodes = .ok found) :
    ∀ m ∈ found, m.value.Distinct := by
  intro m hm
  obtain ⟨n, hmem, part, hpart, hm⟩ := exists_of_mem_collect h hm
  exact Segment.distinct_of_select hf hs (hn n hmem) hpart m hm

end

end PathQuery
