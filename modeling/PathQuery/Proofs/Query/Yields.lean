import PathQuery.Query.Parser

/-! What a parser comes to: a result with a property, or an error with one. -/
namespace PathQuery
open Token SyntaxError

/-- A parser gives a result as in `post`, or it refuses with an error as in `refused`. -/
def Yields {α : Type} (refused : SyntaxError → Prop) (post : α → Prop) :
    Except SyntaxError α → Prop
  | .ok a => post a
  | .error e => refused e

namespace Yields
variable {α β : Type} {refused : SyntaxError → Prop} {post : α → Prop} {post' : β → Prop}

theorem bind {x : Except SyntaxError α} {f : α → Except SyntaxError β} (h : Yields refused post x)
    (hf : ∀ a, post a → Yields refused post' (f a)) : Yields refused post' (x >>= f) := by
  cases x with
  | ok a => exact hf a h
  | error e => exact h

theorem pure {a : α} (h : post a) : Yields refused post (Pure.pure a) := h

theorem fail {cause : Cause} {p : Position} (h : refused ⟨cause, p⟩) :
    Yields refused post (Parser.fail cause p) := h

theorem locate {x : Except Cause α} {p : Position}
    (h : ∀ cause, x = .error cause → refused ⟨cause, p⟩) :
    Yields refused (fun a => x = .ok a) (Parser.locate p x) := by
  cases x with
  | ok a => exact rfl
  | error cause => exact h cause rfl

section
variable [Pattern.Engine] {operator : Kind} {connective : Connective} {operand : Parser Predicate}
  {stop : Position} {ts : List Token} (left : List Token → Prop)
  (next : ∀ {t rest}, left (t :: rest) → t.kind = operator → left rest)
  (each : ∀ {ts}, left ts → Yields refused (fun t => left t.rest) (operand stop ts))
include next each

/-- What holds of the tokens that are left, holds all along a chain of operands. -/
theorem chain {first : Predicate} (h : left ts) :
    Yields refused (fun r => left r.1.2)
      (Parser.chain operator connective operand first stop ts) := by
  fun_induction Parser.chain operator connective operand first stop ts with
  | case1 => exact h
  | case2 first t rest hk ih =>
    refine (each (next h hk)).bind fun second hs => ?_
    exact (ih second hs).bind fun _ hm => .pure hm
  | case3 => exact h

theorem chained (h : left ts) :
    Yields refused (fun t => left t.rest)
      (Parser.chained operator connective operand stop ts) := by
  refine (each h).bind fun first hf => ?_
  exact (chain left next each hf).bind fun _ hr => .pure hr

end

end Yields
end PathQuery
