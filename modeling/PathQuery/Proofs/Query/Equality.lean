import PathQuery.Proofs.Query.Composition
import PathQuery.Proofs.Query.Distinct
import PathQuery.Proofs.Value.Equality

/-! Equal queries find the same. Nothing that evaluation does tells zeros of either sign or the
order of members in a literal apart. -/
namespace PathQuery

/-! Calls -/

section
variable {args others : List Value}

theorem Value.length_eq_of_sameItems (h : Value.sameItems args others = true) :
    args.length = others.length := by
  induction args generalizing others with
  | nil => cases others <;> simp_all [Value.sameItems]
  | cons arg args ih =>
    cases others with
    | nil => simp [Value.sameItems] at h
    | cons other others =>
      simp only [Value.sameItems, Bool.and_eq_true] at h
      simp [ih h.2]

theorem ParamType.accepts_congr (type : ParamType) {v w : Value} (h : v.same w = true) :
    type.accepts v = type.accepts w := by
  cases v <;> cases w <;> simp [Value.same] at h
  case number x y => cases type <;> simp [accepts, Number.isWhole_congr (Number.same_iff.2 h)]
  all_goals cases type <;> rfl

theorem Signature.mismatch?_congr (h : Value.sameItems args others = true)
    (types : List ParamType) (index : Nat) :
    mismatch? index types args = none ↔ mismatch? index types others = none := by
  induction args generalizing others types index with
  | nil =>
    cases others with
    | nil => rfl
    | cons => simp [Value.sameItems] at h
  | cons arg args ih =>
    cases others with
    | nil => simp [Value.sameItems] at h
    | cons other others =>
      simp only [Value.sameItems, Bool.and_eq_true] at h
      cases types with
      | nil => rfl
      | cons type types =>
        rw [mismatch?, mismatch?, type.accepts_congr h.1]
        split
        · exact ih h.2 types (index + 1)
        · simp

theorem Signature.check_congr (h : Value.sameItems args others = true) (s : Signature) :
    s.check args = none ↔ s.check others = none := by
  rw [check, check, Value.length_eq_of_sameItems h]
  split
  · simp
  · exact mismatch?_congr h s.params 0

/-- Equal arguments are accepted alike, and refused perhaps in other words. -/
theorem Environment.resolve_congr (h : Value.sameItems args others = true) (env : Environment)
    (name : String) (f : Function) :
    env.resolve name args = .ok f ↔ env.resolve name others = .ok f := by
  rw [resolve_eq_ok_iff, resolve_eq_ok_iff, f.signature.check_congr h]

/-- Equal arguments make equal results. -/
def Function.Respects (f : Function) : Prop :=
  ∀ v args others, Value.sameItems args others = true → f.call v args = f.call v others

def Environment.Respects (env : Environment) : Prop :=
  ∀ name f, env.get? name = some f → f.Respects

namespace Function

theorem number?_getElem?_congr {α : Type} {f : Number → α}
    (hf : ∀ x y, x.same y = true → f x = f y) (h : Value.sameItems args others = true) (i : Nat) :
    (args[i]?.bind Value.number?).map f = (others[i]?.bind Value.number?).map f := by
  induction args generalizing others i with
  | nil => cases others <;> simp_all [Value.sameItems]
  | cons arg args ih =>
    cases others with
    | nil => simp [Value.sameItems] at h
    | cons other others =>
      simp only [Value.sameItems, Bool.and_eq_true] at h
      cases i with
      | succ i => simpa using ih h.2 i
      | zero =>
        obtain ⟨h, -⟩ := h
        cases arg <;> cases other <;> simp [Value.same] at h
        case number x y => simp [Value.number?, hf x y (Number.same_iff.2 h)]
        all_goals rfl

theorem intArg?_congr (h : Value.sameItems args others = true) (i : Nat) :
    intArg? args i = intArg? others i :=
  number?_getElem?_congr (fun _ _ hxy => Number.clamp_congr hxy _ _) h i

theorem natArg?_congr (h : Value.sameItems args others = true) (i : Nat) :
    natArg? args i = natArg? others i :=
  number?_getElem?_congr (fun _ _ hxy => by rw [Number.clamp_congr hxy]) h i

end Function

theorem Environment.standard_respects : Environment.standard.Respects := by
  intro name f hf
  refine of_get?_standard hf (fun _ _ _ _ => rfl) ?substring ?charAt (fun _ _ _ _ => rfl)
    (fun _ _ _ _ => rfl) fun _ _ _ _ => rfl
  case substring =>
    intro v args others h
    simp only [Function.substring, Function.natArg?_congr h]
  case charAt =>
    intro v args others h
    simp only [Function.charAt, Function.intArg?_congr h]

end

/-! Evaluation -/

/-- Both computations fail, or both return the same. -/
def SameOk {ε α : Type} (x y : Except ε α) : Prop := ∀ a, x = .ok a ↔ y = .ok a

namespace SameOk
variable {ε α β : Type} {x y : Except ε α}

theorem refl (x : Except ε α) : SameOk x x := fun _ => Iff.rfl

theorem bind {f g : α → Except ε β} (h : SameOk x y) (hf : ∀ a, SameOk (f a) (g a)) :
    SameOk (x >>= f) (y >>= g) := by
  intro b
  rw [bind_eq_ok, bind_eq_ok]
  exact exists_congr fun a => and_congr (h a) (hf a b)

theorem collect {f g : α → Except ε (List β)} (h : ∀ a, SameOk (f a) (g a)) (as : List α) :
    SameOk (PathQuery.collect f as) (PathQuery.collect g as) :=
  fun _ => collect_congr h

theorem cases (h : SameOk x y) :
    (∃ e e', x = .error e ∧ y = .error e') ∨ ∃ a, x = .ok a ∧ y = .ok a := by
  cases x with
  | ok a => exact .inr ⟨a, rfl, (h a).1 rfl⟩
  | error e =>
    cases y with
    | ok a => exact absurd ((h a).2 rfl) (by simp)
    | error e' => exact .inl ⟨e, e', rfl, rfl⟩

end SameOk

section
variable [Pattern.Engine] {env : Environment} (root : Value)

omit [Pattern.Engine] in
theorem Node.apply_same (respects : env.Respects) (n : Node) (name : String)
    {args others : List Value} (h : Value.sameItems args others = true) :
    SameOk (n.apply env name args) (n.apply env name others) := by
  intro found
  have resolve := Environment.resolve_congr h env name
  unfold apply
  cases hargs : env.resolve name args with
  | ok f =>
    have call := respects name f (Environment.resolve_eq_ok_iff.1 hargs).1 n.value args others h
    rw [(resolve f).1 hargs]
    dsimp only
    rw [call]
  | error e =>
    cases hothers : env.resolve name others with
    | ok f => simp [(resolve f).2 hothers] at hargs
    | error e' => simp

mutual

theorem Segment.select_same (respects : env.Respects) : (s t : Segment) →
    s.Within (fun s _ => s.Distinct) Predicate.Distinct → s.same t = true →
    ∀ n, SameOk (s.select env root n) (t.select env root n)
  | .filter p, t, hd, h, n => by
    cases t <;> simp [Segment.same] at h
    next q =>
      have holds (c : Node) := Predicate.holds_same respects p q hd h c.value
      exact .collect (fun c => .bind (holds c) fun _ => .refl _) n.candidates
  | .function name args, t, _, h, n => by
    cases t <;> simp [Segment.same] at h
    next other others =>
      obtain ⟨rfl, h⟩ := h
      exact n.apply_same respects name h
  | .field _, t, _, h, n | .index _, t, _, h, n | .union _, t, _, h, n => by
    cases t <;> simp [Segment.same] at h
    subst h
    exact .refl _
  | .slice .., t, _, h, n => by
    cases t <;> simp [Segment.same] at h
    obtain ⟨⟨rfl, rfl⟩, rfl⟩ := h
    exact .refl _
  | .wild, t, _, h, n | .recursive, t, _, h, n => by
    cases t <;> simp [Segment.same] at h
    exact .refl _

theorem Predicate.holds_same (respects : env.Respects) : (p q : Predicate) →
    p.Everywhere (fun s _ => s.Distinct) Predicate.Distinct → p.same q = true →
    ∀ v, SameOk (p.holds env root v) (q.holds env root v)
  | .present path, q, hd, h, v => by
    cases q <;> simp [Predicate.same] at h
    next other => exact .bind (Subpath.nodes_same respects path other hd.2 h v) fun _ => .refl _
  | .compare path op value, q, hd, h, v => by
    cases q <;> simp [Predicate.same] at h
    next other op' value' =>
      obtain ⟨⟨hpath, rfl⟩, hvalue⟩ := h
      have holds (n : Node) := op.holds_congr hd.1 hvalue n.value
      refine .bind (Subpath.nodes_same respects path other hd.2 hpath v) fun nodes => ?_
      simp only [holds]
      exact .refl _
  | .resembles path pattern, q, hd, h, v => by
    cases q <;> simp [Predicate.same] at h
    next other pattern' =>
      obtain ⟨hpath, rfl⟩ := h
      exact .bind (Subpath.nodes_same respects path other hd.2 hpath v) fun _ => .refl _
  | .not p, q, hd, h, v => by
    cases q <;> simp [Predicate.same] at h
    next q => exact .bind (Predicate.holds_same respects p q hd.2 h v) fun _ => .refl _
  | .logical op left right, q, hd, h, v => by
    cases q <;> simp [Predicate.same] at h
    next op' left' right' =>
      obtain ⟨⟨rfl, hleft⟩, hright⟩ := h
      have first := Predicate.holds_same respects left left' hd.2.1 hleft v
      have second := Predicate.holds_same respects right right' hd.2.2 hright v
      cases op with
      | and =>
        refine .bind first fun b => ?_
        cases b
        · exact .refl _
        · exact second
      | or =>
        refine .bind first fun b => ?_
        cases b
        · exact second
        · exact .refl _

theorem Subpath.nodes_same (respects : env.Respects) : (path other : Subpath) →
    path.Everywhere (fun s _ => s.Distinct) Predicate.Distinct → path.same other = true →
    ∀ v, SameOk (path.nodes env root v) (other.nodes env root v)
  | .mk anchor segments, .mk anchor' segments', hd, h, v => by
    simp only [Subpath.same, Bool.and_eq_true, beq_iff_eq] at h
    obtain ⟨rfl, h⟩ := h
    cases anchor with
    | current => exact resolve_same respects segments segments' hd h [.ofRoot v]
    | root => exact resolve_same respects segments segments' hd h [.ofRoot root]

theorem resolve_same (respects : env.Respects) : (segments others : List Segment) →
    everywhere (fun s _ => s.Distinct) Predicate.Distinct segments →
    sameSegments segments others = true →
    ∀ nodes, SameOk (resolve env root segments nodes) (resolve env root others nodes)
  | [], [], _, _, nodes => .refl _
  | [], _ :: _, _, h, _ => by simp [sameSegments] at h
  | _ :: _, [], _, h, _ => by simp [sameSegments] at h
  | s :: segments, t :: others, hd, h, nodes => by
    simp only [sameSegments, Bool.and_eq_true] at h
    have select := Segment.select_same respects s t hd.2.1 h.1
    exact .bind (.collect select nodes) (resolve_same respects segments others hd.2.2 h.2)

end

end

namespace Query
section
variable [Pattern.Engine] {q r : Query}

/-- Equal queries fail both, or find the same nodes in the same order. -/
theorem find_same (distinct : q.Distinct) (h : q.same r = true) (document : Value) :
    (∃ e e', q.find .standard document = .error e ∧ r.find .standard document = .error e') ∨
      ∃ found, q.find .standard document = .ok found ∧ r.find .standard document = .ok found := by
  apply SameOk.cases
  exact resolve_same document Environment.standard_respects q.segments r.segments distinct h
    [.ofRoot document]

end

/-- The filter for what has an object of these members under `p`. -/
def underP (members : List (String × Value)) : Query :=
  ⟨[.filter (.compare (.mk .current [.field "p"]) .eq (.object members))]⟩

/-- A zero of this sign under `a`. -/
def zeroUnderA (negative : Bool) : String × Value :=
  ("a", .number (.finite negative 0 Number.fits_zero))

/-- The members of the literal come in the other order, and its zero has the other sign. -/
theorem find_same_permuted :
    (underP [zeroUnderA false, ("b", .null)]).Distinct ∧
      (underP [zeroUnderA false, ("b", .null)]).same (underP [("b", .null), zeroUnderA true]) =
        true ∧
      (underP [("b", .null), zeroUnderA true]).find .standard
          (.object [("p", .object [("b", .null), zeroUnderA false])]) =
        .ok [⟨[], .object [("p", .object [("b", .null), zeroUnderA false])]⟩] := by
  have distinct : (underP [zeroUnderA false, ("b", .null)]).Distinct :=
    ⟨trivial, ⟨by simp [Predicate.Distinct, Members.names, zeroUnderA], trivial, trivial, trivial⟩,
      trivial⟩
  have equal : (underP [zeroUnderA false, ("b", .null)]).same
      (underP [("b", .null), zeroUnderA true]) = true := by decide +kernel
  have found : (underP [zeroUnderA false, ("b", .null)]).find .standard
      (.object [("p", .object [("b", .null), zeroUnderA false])]) =
        .ok [⟨[], .object [("p", .object [("b", .null), zeroUnderA false])]⟩] := rfl
  refine ⟨distinct, equal, ?_⟩
  rcases find_same distinct equal _ with ⟨e, -, h, -⟩ | ⟨nodes, h, h'⟩
  · rw [found] at h
    cases h
  · rw [found] at h
    cases h
    exact h'

end Query

end PathQuery
