import PathQuery.Proofs.Canonical.Grammar
import PathQuery.Proofs.Canonical.Lexing
import PathQuery.Proofs.Query.Acceptance

/-! Printing a query and parsing it again gives back an equal query. -/
namespace PathQuery
open Token

theorem Value.same_reread {v : Value} (h : v.IsScalar) : v.reread.same v = true ↔ v.IsFinite := by
  cases v with
  | null => simp [reread, same, IsFinite]
  | bool b => simp [reread, same, IsFinite]
  | number x =>
    cases hx : x.isFinite with
    | true => simp [reread, same, IsFinite, hx]
    | false => simp [reread, same, IsFinite, hx]
  | string s => simp [reread, same, IsFinite]
  | array | object => exact h.elim

theorem Value.IsArgument.isScalar {v : Value} (h : v.IsArgument) : v.IsScalar := by
  cases v with
  | array | object => exact h.elim
  | _ => trivial

theorem Value.IsArgument.isFinite {v : Value} (h : v.IsArgument) : v.IsFinite := by
  cases v with
  | number x => exact h
  | _ => trivial

theorem sameItems_reread {args : List Value} (h : ∀ arg ∈ args, arg.IsArgument) :
    Value.sameItems (args.map Value.reread) args = true := by
  induction args with
  | nil => rfl
  | cons arg args ih =>
    have harg := h arg (by simp)
    rw [List.map_cons, Value.sameItems, (Value.same_reread harg.isScalar).2 harg.isFinite,
      ih fun a ha => h a (List.mem_cons_of_mem _ ha)]
    rfl

section
variable [Pattern.Engine] {env : Environment}

mutual

theorem Segment.same_reread : (s : Segment) → s.Printable →
    s.Within (Segment.Derivable env) Predicate.Admitted →
    (s.reread.same s = true ↔ s.Within (fun _ _ => True) Predicate.Finite)
  | .field _, _, _ | .wild, _, _ | .recursive, _, _ | .index _, _, _ | .slice .., _, _
  | .union _, _, _ => by simp [Segment.reread, Segment.same, Segment.Within]
  | .filter p, _, h => by
    simpa [Segment.reread, Segment.same, Segment.Within] using Predicate.same_reread p h
  | .function _ _, h, _ => by
    simp [Segment.reread, Segment.same, Segment.Within, sameItems_reread h.2]

theorem Predicate.same_reread : (p : Predicate) →
    p.Everywhere (Segment.Derivable env) Predicate.Admitted →
    (p.reread.same p = true ↔ p.Everywhere (fun _ _ => True) Predicate.Finite)
  | .present path, h => by
    simp [Predicate.reread, Predicate.same, Predicate.Everywhere, Predicate.Finite,
      Subpath.same_reread path h.2]
  | .compare path op value, h => by
    simp [Predicate.reread, Predicate.same, Predicate.Everywhere, Predicate.Finite,
      Subpath.same_reread path h.2, Value.same_reread h.1, and_comm]
  | .resembles path pattern, h => by
    simp [Predicate.reread, Predicate.same, Predicate.Everywhere, Predicate.Finite,
      Subpath.same_reread path h.2]
  | .not p, h => by
    simp [Predicate.reread, Predicate.same, Predicate.Everywhere, Predicate.Finite,
      Predicate.same_reread p h.2]
  | .logical op p q, h => by
    simp [Predicate.reread, Predicate.same, Predicate.Everywhere, Predicate.Finite,
      Predicate.same_reread p h.2.1, Predicate.same_reread q h.2.2]

theorem Subpath.same_reread : (path : Subpath) →
    path.Everywhere (Segment.Derivable env) Predicate.Admitted →
    (path.reread.same path = true ↔ path.Everywhere (fun _ _ => True) Predicate.Finite)
  | .mk anchor segments, h => by
    simp [Subpath.reread, Subpath.same, Subpath.Everywhere, sameSegments_reread segments h]

theorem sameSegments_reread : (segments : List Segment) →
    everywhere (Segment.Derivable env) Predicate.Admitted segments →
    (sameSegments (rereadSegments segments) segments = true ↔
      everywhere (fun _ _ => True) Predicate.Finite segments)
  | [], _ => by simp [rereadSegments, sameSegments, everywhere]
  | s :: segments, h => by
    simp [rereadSegments, sameSegments, everywhere, Segment.same_reread s h.1.2 h.2.1,
      sameSegments_reread segments h.2.2]

end

end

namespace Query
section
variable [Pattern.Engine] {env : Environment} {q : Query}

/-- What the canonical text of a query expresses, whatever its depth and its literals. -/
def Derivable (env : Environment) (q : Query) : Prop :=
  q.Everywhere (Segment.Derivable env) Predicate.Admitted

theorem Derivable.lexable (h : q.Derivable env) :
    q.Everywhere Segment.Lexable Predicate.Admitted := by
  refine Everywhere.imp (fun s rest hs => ⟨hs.2, ?_⟩) (fun _ hp => hp) h
  rintro rfl
  exact hs.1

theorem Derivable.expressible (h : q.Derivable env) :
    q.Everywhere (Segment.Expressible env) Predicate.Admitted :=
  h.imp (fun _ _ hs => hs.expressible) fun _ hp => hp

/-- Within the depth of the parser, the canonical text is read as the query but for the signs of
zeros and the infinities. -/
theorem parse_text (h : q.Derivable env) (hn : q.nesting ≤ Parser.maxDepth) :
    parse env q.text = .ok q.reread := by
  have tokens := tokenize_text h.lexable
  have derived : Grammar.Text env q.kinds q.reread := .root (segments_derived q.segments h.expressible _ hn)
  exact parse_of_text tokens derived

theorem same_reread (h : q.Derivable env) :
    q.reread.same q = true ↔ q.Everywhere (fun _ _ => True) Predicate.Finite :=
  sameSegments_reread q.segments h

theorem Canonical.derivable (h : q.Canonical env) : q.Derivable env :=
  (Everywhere.and h.admitted h.printable).imp (fun _ _ hs => hs) fun _ hp => hp.1

/-- The canonical text of a query is accepted, and gives back an equal query. -/
theorem exists_parse_text_same (h : q.Canonical env) :
    ∃ r, parse env q.text = .ok r ∧ r.same q = true := by
  refine ⟨q.reread, parse_text h.derivable h.shallow, (same_reread h.derivable).2 ?_⟩
  exact h.printable.imp (fun _ _ _ => trivial) fun _ hp => hp

end

/-- A descent, a quote in a name, and below a negation a call, a slice and a line feed. -/
def intricate : Query :=
  ⟨[.recursive, .union ["a'b", "c"], .filter (.not (.compare
    (.mk .current [.function "length" [], .slice none (some 5) (some (-1))]) .ge (.string "\n")))]⟩

theorem exists_parse_text_same_nested :
    intricate.Canonical .standard ∧
      ∃ r, parse .standard intricate.text = .ok r ∧ r.same intricate = true := by
  have resolved : ∃ f, Environment.standard.resolve "length" [] = .ok f := ⟨_, rfl⟩
  have name : Lexer.IsName "length".toList := isName_of_letters (by decide) (by decide)
  have canonical : intricate.Canonical .standard := by
    refine ⟨?_, ?_, by decide⟩
    · simpa [intricate, Admitted, Query.Everywhere, everywhere, Segment.Within,
        Predicate.Everywhere, Subpath.Everywhere, Segment.Admitted, Predicate.Admitted,
        Value.IsScalar] using resolved
    · simpa [intricate, Query.Everywhere, everywhere, Segment.Within, Predicate.Everywhere,
        Subpath.Everywhere, Segment.Printable, Predicate.Finite, Value.IsFinite] using name
  exact ⟨canonical, exists_parse_text_same canonical⟩

end Query
end PathQuery
