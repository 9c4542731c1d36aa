import PathQuery.Json.Basic
/-! The values queries run over: JSON whose numbers are quantities of one kind. -/
namespace PathQuery

inductive Value where
  | null
  | bool (b : Bool)
  | number (x : Number)
  | string (s : String)
  | array (items : List Value)
  | object (members : List (String × Value))
  deriving Inhabited

namespace Value

def kind : Value → String
  | null => "null"
  | bool _ => "boolean"
  | number _ => "number"
  | string _ => "string"
  | array _ => "array"
  | object _ => "object"

def isNull : Value → Bool
  | null => true
  | _ => false

def bool? : Value → Option Bool
  | bool b => some b
  | _ => none

def number? : Value → Option Number
  | number x => some x
  | _ => none

def string? : Value → Option String
  | string s => some s
  | _ => none

def items? : Value → Option (List Value)
  | array items => some items
  | _ => none

def members? : Value → Option (List (String × Value))
  | object members => some members
  | _ => none

def ofNat (n : Nat) : Value := number (.ofNat n)

mutual

/-- Equality of content: numbers as quantities, members in any order. -/
def same : Value → Value → Bool
  | null, null => true
  | bool a, bool b => a == b
  | number x, number y => x.same y
  | string s, string t => s == t
  | array xs, array ys => sameItems xs ys
  | object ms, object ns => ms.length == ns.length && sameMembers ms ns
  | _, _ => false

def sameItems : List Value → List Value → Bool
  | [], [] => true
  | x :: xs, y :: ys => x.same y && sameItems xs ys
  | _, _ => false

/-- Whether each member of the first list is in the second with the same value. -/
def sameMembers : List (String × Value) → List (String × Value) → Bool
  | [], _ => true
  | (name, value) :: rest, others =>
    (match Members.get? others name with
      | some other => value.same other
      | none => false) && sameMembers rest others

end

mutual

def ofJson : Json → Value
  | .null => null
  | .bool b => bool b
  | .num (.whole n _) => number (.ofInt n)
  | .num (.real x _) => number x
  | .string s => string s
  | .array items => array (itemsOfJson items)
  | .object members => object (membersOfJson members)

def itemsOfJson : List Json → List Value
  | [] => []
  | item :: rest => ofJson item :: itemsOfJson rest

def membersOfJson : List (String × Json) → List (String × Value)
  | [] => []
  | (name, item) :: rest => (name, ofJson item) :: membersOfJson rest

end

/-- Whole numbers of the signed 64-bit range become whole again; an infinity has no spelling. -/
def numberToJson (x : Number) : Json :=
  let whole := if x.isWhole then x.truncate? else none
  match whole with
  | some n =>
    if h : -(2 ^ 63) ≤ n ∧ n < 2 ^ 63 then .num (.whole n (Json.fits_of_signed h))
    else if h : x.isFinite then .num (.real x h) else .null
  | none => if h : x.isFinite then .num (.real x h) else .null

mutual

def toJson : Value → Json
  | null => .null
  | bool b => .bool b
  | number x => numberToJson x
  | string s => .string s
  | array items => .array (itemsToJson items)
  | object members => .object (membersToJson members)

def itemsToJson : List Value → List Json
  | [] => []
  | item :: rest => item.toJson :: itemsToJson rest

def membersToJson : List (String × Value) → List (String × Json)
  | [] => []
  | (name, item) :: rest => (name, item.toJson) :: membersToJson rest

end

def text (v : Value) : String := v.toJson.text

end Value
end PathQuery
