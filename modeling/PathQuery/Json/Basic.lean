import PathQuery.Members
import PathQuery.Number.Decimal
/-! JSON documents: what a text holds, before its numbers become quantities. -/
namespace PathQuery

/-- A number written without point and exponent that fits 64 bits, or any other finite number. -/
inductive Json.Num where
  | whole (n : Int) (fits : -(2 ^ 63) ≤ n ∧ n < 2 ^ 64)
  | real (x : Number) (finite : x.isFinite)
  deriving DecidableEq

theorem Json.fits_of_signed {n : Int} (h : -(2 ^ 63) ≤ n ∧ n < 2 ^ 63) :
    -(2 ^ 63) ≤ n ∧ n < 2 ^ 64 := by
  omega

inductive Json where
  | null
  | bool (b : Bool)
  | num (n : Json.Num)
  | string (s : String)
  | array (items : List Json)
  | object (members : List (String × Json))
  deriving Inhabited

namespace Json

def Num.text : Num → String
  | .whole n _ => n.repr
  | .real (.finite negative units fits) _ => (Decimal.shortest negative units fits).text
  | .real (.infinite _) _ => "null"

/-- Lower-case hexadecimal digits of a control character. -/
def hexDigits (c : Char) : List Char :=
  [Nat.digitChar (c.toNat / 16), Nat.digitChar (c.toNat % 16)]

def escape : Char → List Char
  | '"' => ['\\', '"']
  | '\\' => ['\\', '\\']
  | '\x08' => ['\\', 'b']
  | '\x0c' => ['\\', 'f']
  | '\n' => ['\\', 'n']
  | '\r' => ['\\', 'r']
  | '\t' => ['\\', 't']
  | c => if c < ' ' then ['\\', 'u', '0', '0'] ++ hexDigits c else [c]

def quote (s : String) : String := String.ofList ('"' :: s.toList.flatMap escape ++ ['"'])

mutual

/-- Compact text, members in order. -/
def text : Json → String
  | .null => "null"
  | .bool true => "true"
  | .bool false => "false"
  | .num n => n.text
  | .string s => quote s
  | .array items => "[" ++ ",".intercalate (itemTexts items) ++ "]"
  | .object members => "\x7b" ++ ",".intercalate (memberTexts members) ++ "\x7d"

def itemTexts : List Json → List String
  | [] => []
  | item :: rest => item.text :: itemTexts rest

def memberTexts : List (String × Json) → List String
  | [] => []
  | (name, value) :: rest => (quote name ++ ":" ++ value.text) :: memberTexts rest

end

end Json
end PathQuery
