import PathQuery.Value.Basic
/-! The order of values: numbers by quantity, strings by code point, all else unordered. -/
namespace PathQuery

namespace Value

def lt : Value → Value → Bool
  | number x, number y => x < y
  | string s, string t => s < t
  | _, _ => false

end Value

inductive Comparison where
  | eq | ne | ge | gt | le | lt
  deriving DecidableEq, Repr

namespace Comparison

/-- The operator that says the same with its operands exchanged. -/
def flip : Comparison → Comparison
  | eq => eq
  | ne => ne
  | ge => le
  | gt => lt
  | le => ge
  | lt => gt

def text : Comparison → String
  | eq => "="
  | ne => "!="
  | ge => ">="
  | gt => ">"
  | le => "<="
  | lt => "<"

def holds (op : Comparison) (a b : Value) : Bool :=
  match op with
  | eq => a.same b
  | ne => !a.same b
  | ge => b.lt a || a.same b
  | gt => b.lt a
  | le => a.lt b || a.same b
  | lt => a.lt b

@[simp] theorem flip_flip (op : Comparison) : op.flip.flip = op := by cases op <;> rfl

end Comparison
end PathQuery
