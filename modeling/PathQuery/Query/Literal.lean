import PathQuery.Pattern
import PathQuery.SyntaxError
import PathQuery.Text.Escape
/-! What the text of a single token stands for: indices, names, literals and patterns. -/
namespace PathQuery
open Token SyntaxError

/-- A whole number of 64 bits in its only spelling, without zeros in front or a sign on zero. -/
def Int64.ofDigits (digits : String) : Except Cause Int64 :=
  let cs := digits.toList
  if 1 < cs.length ∧ (['0'].isPrefixOf cs ∨ ['-', '0'].isPrefixOf cs) then
    .error (.invalidIndex digits)
  else
    let n : Int := match cs with
      | '-' :: ds => -(Nat.ofDigitChars 10 ds 0 : Nat)
      | ds => (Nat.ofDigitChars 10 ds 0 : Nat)
    if -(2 ^ 63) ≤ n ∧ n < 2 ^ 63 then .ok (.ofInt n) else .error (.indexOutOfRange digits)

/-- The content of a string, with its escapes replaced. -/
def unescape (raw : String) : Except Cause String :=
  match Escape.decode? true raw.toList with
  | some cs => .ok (String.ofList cs)
  | none => .error .invalidEscape

/-- Only the slash loses its backslash; all other escapes belong to the expression. -/
def unescapeSlash : List Char → List Char
  | '\\' :: '/' :: rest => '/' :: unescapeSlash rest
  | '\\' :: c :: rest => '\\' :: c :: unescapeSlash rest
  | c :: rest => c :: unescapeSlash rest
  | [] => []

/-- The expression of a regex literal. -/
def unescapeRegex (raw : String) : String := String.ofList (unescapeSlash raw.toList)

/-- An error shows the literal as it is spelled, with the report on its expression. -/
def Pattern.ofRaw [Pattern.Engine] (raw flags : String) : Except Cause Pattern :=
  match Pattern.of? (unescapeRegex raw) flags with
  | some p => .ok p
  | none => .error (.invalidRegex raw flags (Engine.report? (unescapeRegex raw) (.ofFlags flags)))

def Value.ofKind : Kind → Except Cause Value
  | .string _ raw => (unescape raw).map .string
  | .int digits | .float digits =>
    match Number.ofText? digits.toList with
    | some x => .ok (.number x)
    | none => .error (.invalidNumber digits)
  | .true => .ok (.bool true)
  | .false => .ok (.bool false)
  | .null => .ok .null
  | k => .error (.expectedLiteral k)

end PathQuery
