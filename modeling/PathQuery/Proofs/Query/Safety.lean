import PathQuery.Proofs.Query.Acceptance
import PathQuery.Proofs.Query.Admission
import PathQuery.Query.Eval

/-! A query that parses finds its nodes in every document, and never fails. -/
namespace PathQuery

/-- A call that an environment resolves, if this segment is one. -/
def Segment.Resolves [Pattern.Engine] (env : Environment) : Segment → Prop
  | .function name args =>
    ∃ f, env.get? name = some f ∧ f.signature.accepts args = true
  | _ => True

/-- The functions that a query calls anywhere are registered and accept what the query passes. -/
def Query.Resolves [Pattern.Engine] (env : Environment) (q : Query) : Prop :=
  q.Everywhere (fun s _ => s.Resolves env) fun _ => True

/-- A segment that cannot fail by itself. -/
def Segment.Safe [Pattern.Engine] (env : Environment) : Segment → Prop
  | .slice _ _ step => step ≠ some 0
  | .function name args => ∃ f, env.resolve name args = .ok f
  | _ => True

theorem Environment.exists_resolve_iff {env : Environment} {name : String} {args : List Value} :
    (∃ f, env.resolve name args = .ok f) ↔
      ∃ f, env.get? name = some f ∧ f.signature.accepts args = true := by
  unfold resolve
  cases hf : env.get? name with
  | none => simp
  | some f =>
    cases hc : f.signature.check args with
    | none => simp [Signature.accepts, hc]
    | some cause => simp [Signature.accepts, hc]

/-- The computation does not fail. -/
def Succeeds {ε α : Type} (x : Except ε α) : Prop := ∃ a, x = .ok a

namespace Succeeds
variable {ε α β : Type}

theorem bind {x : Except ε α} {f : α → Except ε β} (h : Succeeds x)
    (hf : ∀ a, Succeeds (f a)) : Succeeds (x >>= f) := by
  obtain ⟨a, rfl⟩ := h
  exact hf a

theorem pure (a : α) : Succeeds (Pure.pure a : Except ε α) := ⟨a, rfl⟩

theorem collect {f : α → Except ε (List β)} (h : ∀ a, Succeeds (f a)) (as : List α) :
    Succeeds (collect f as) := by
  induction as with
  | nil => exact ⟨[], rfl⟩
  | cons a rest ih => exact (h a).bind fun _ => ih.bind fun _ => .pure _

end Succeeds

theorem Int64.toInt_ne_zero {i : Int64} (h : i ≠ 0) : i.toInt ≠ 0 := by
  intro hz
  exact h (Int64.toInt_inj.1 hz)

theorem Node.slice_succeeds (n : Node) (start stop : Option Int64) {step : Option Int64}
    (h : step ≠ some 0) :
    Succeeds (n.slice (start.map Int64.toInt) (stop.map Int64.toInt) (step.map Int64.toInt)) := by
  have hstep : (step.map Int64.toInt).getD 1 ≠ 0 := by
    cases step with
    | none => decide
    | some i => exact Int64.toInt_ne_zero fun hi => h (hi ▸ rfl)
  unfold Node.slice
  split
  · exact ⟨_, by rw [if_neg hstep]⟩
  · exact ⟨_, rfl⟩

theorem Node.apply_succeeds {env : Environment} {name : String} {args : List Value} (n : Node)
    (h : ∃ f, env.resolve name args = .ok f) : Succeeds (n.apply env name args) := by
  obtain ⟨f, hf⟩ := h
  unfold Node.apply
  rw [hf]
  exact ⟨_, rfl⟩

section
variable [Pattern.Engine] {env : Environment} (root : Value)

mutual

theorem Segment.select_succeeds : (s : Segment) → s.Safe env →
    s.Within (fun s _ => s.Safe env) (fun _ => True) → ∀ n, Succeeds (s.select env root n)
  | .field _, _, _, _ | .wild, _, _, _ | .recursive, _, _, _ | .index _, _, _, _
  | .union _, _, _, _ => ⟨_, rfl⟩
  | .slice start stop _, hs, _, n => n.slice_succeeds start stop hs
  | .filter p, _, hw, n => by
    have keep (c : Node) : Succeeds (do
        return if ← p.holds env root c.value then [c] else [] : Except EvalError (List Node)) :=
      (Predicate.holds_succeeds p hw c.value).bind fun _ => .pure _
    exact .collect keep n.candidates
  | .function _ _, hs, _, n => n.apply_succeeds hs

theorem Predicate.holds_succeeds : (p : Predicate) →
    p.Everywhere (fun s _ => s.Safe env) (fun _ => True) → ∀ v, Succeeds (p.holds env root v)
  | .present path, h, v => (Subpath.nodes_succeeds path h.2 v).bind fun _ => .pure _
  | .compare path _ _, h, v => (Subpath.nodes_succeeds path h.2 v).bind fun _ => .pure _
  | .resembles path _, h, v => (Subpath.nodes_succeeds path h.2 v).bind fun _ => .pure _
  | .not p, h, v => (Predicate.holds_succeeds p h.2 v).bind fun _ => .pure _
  | .logical .and left right, h, v =>
    (Predicate.holds_succeeds left h.2.1 v).bind fun
      | true => Predicate.holds_succeeds right h.2.2 v
      | false => .pure _
  | .logical .or left right, h, v =>
    (Predicate.holds_succeeds left h.2.1 v).bind fun
      | true => .pure _
      | false => Predicate.holds_succeeds right h.2.2 v

theorem Subpath.nodes_succeeds : (path : Subpath) →
    path.Everywhere (fun s _ => s.Safe env) (fun _ => True) → ∀ v,
    Succeeds (path.nodes env root v)
  | .mk .current segments, h, v => resolve_succeeds segments h [.ofRoot v]
  | .mk .root segments, h, _ => resolve_succeeds segments h [.ofRoot root]

theorem resolve_succeeds : (segments : List Segment) →
    everywhere (fun s _ => s.Safe env) (fun _ => True) segments → ∀ nodes,
    Succeeds (resolve env root segments nodes)
  | [], _, nodes => ⟨nodes, rfl⟩
  | s :: rest, h, nodes =>
    (Succeeds.collect (fun n => Segment.select_succeeds s h.1 h.2.1 n) nodes).bind fun found =>
      resolve_succeeds rest h.2.2 found

end

end

namespace Query
open Grammar

section
variable [Pattern.Engine] {env : Environment} {text : String} {q : Query}

/-- Environments other than that of the parser may be used, as long as they resolve the calls. -/
theorem find_succeeds (h : q.Admitted env) {other : Environment} (hr : q.Resolves other)
    (document : Value) : Succeeds (q.find other document) := by
  have safe : q.Everywhere (fun s _ => s.Safe other) fun _ => True := by
    refine (Everywhere.and h hr).imp (fun s rest hs => ?_) fun _ _ => trivial
    cases s with
    | slice => exact hs.1
    | function => exact Environment.exists_resolve_iff.2 hs.2
    | _ => trivial
  exact resolve_succeeds document q.segments safe [.ofRoot document]

theorem Admitted.resolves (h : q.Admitted env) : q.Resolves env := by
  refine h.imp (fun s rest hs => ?_) fun _ _ => trivial
  cases s with
  | function => exact Environment.exists_resolve_iff.1 hs
  | _ => trivial

theorem find_of_parse (h : parse env text = .ok q) :
    q.Resolves env ∧ ∀ other, q.Resolves other → ∀ document, ∃ nodes,
      q.find other document = .ok nodes := by
  have admitted := parse_admitted h
  constructor
  · exact admitted.resolves
  · intro other hr document
    exact find_succeeds admitted hr document

end

theorem find_of_parse_lengths :
    parse .standard "$[?@.length()][::2]" =
        .ok ⟨[.filter (.present (.mk .current [.function "length" []])),
          .slice none none (some 2)]⟩ ∧
      ∀ document, ∃ nodes,
        Query.find ⟨[.filter (.present (.mk .current [.function "length" []])),
          .slice none none (some 2)]⟩ .standard document = .ok nodes := by
  have call : Call .standard [.function "length", .openParen, .closeParen]
      (.function "length" []) := .empty rfl
  have path : Path .standard 63 [.dot, .function "length", .openParen, .closeParen]
      [.function "length" []] := .shorthand (.call call) .nil
  have slice : Path .standard 64 [.openBracket, .colon, .colon, .int "2", .closeBracket]
      [.slice none none (some 2)] :=
    .selection (.slice (.three none none (some 2) (by decide))) .nil
  have text := Text.root (.selection (.filter (.one (.one (.present .current path)))) slice)
  have parsed : parse .standard "$[?@.length()][::2]" = _ := parse_of_text (by decide) text
  have found := find_of_parse parsed
  exact ⟨parsed, found.2 .standard found.1⟩

end Query
end PathQuery
