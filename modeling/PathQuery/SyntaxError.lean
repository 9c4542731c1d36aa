import PathQuery.Environment
import PathQuery.Token.Basic
/-! Why a query text is refused, and where. -/
namespace PathQuery
open Token

/-- A token that is not what its place asks for is named in the cause. -/
inductive SyntaxError.Cause where
  | lexical (cause : LexError)
  | expectedRoot (found : Kind)
  | expectedEnd (found : Kind)
  | expectedAfterDescendant (found : Kind)
  | expectedAfterDot (found : Kind)
  | emptyBrackets
  | unclosedBrackets
  | unexpectedInBrackets (found : Kind)
  | expectedCloseBracket (found : Kind)
  | tooManyColons
  | expectedColon (digits : String)
  | unexpectedInSlice (found : Kind)
  | zeroStep
  | expectedIndex
  | invalidIndex (digits : String)
  | indexOutOfRange (digits : String)
  | expectedName (found : Kind)
  | expectedArguments (name : String) (found : Kind)
  | expectedComma (found : Kind)
  | unclosedCall
  | call (cause : CallError)
  | expectedFilter
  | tooDeep
  | expectedCloseParen (found : Kind)
  | unexpectedInFilter (found : Kind)
  | expectedRegex (found : Kind)
  | invalidRegex (pattern flags : String) (report : Option String)
  | expectedPath (op : Comparison) (found : Kind)
  | uncompared
  | expectedLiteral (found : Kind)
  | invalidNumber (digits : String)
  | invalidEscape

structure SyntaxError where
  cause : SyntaxError.Cause
  position : Position

namespace SyntaxError

def Cause.message : Cause → String
  | lexical cause => cause.message
  | expectedRoot k => "expected '$', found " ++ k.text
  | expectedEnd k => "expected end of query, found " ++ k.text
  | expectedAfterDescendant k =>
    "expected a name, '*' or a bracketed selection after '..', found " ++ k.text
  | expectedAfterDot k => "expected a name or '*' after '.', found " ++ k.text
  | emptyBrackets => "empty bracketed selection"
  | unclosedBrackets => "unclosed bracketed selection"
  | unexpectedInBrackets k => "unexpected " ++ k.text ++ " in bracketed selection"
  | expectedCloseBracket k => "expected ']', found " ++ k.text
  | tooManyColons => "too many colons in slice"
  | expectedColon digits => "expected ':' or ']', found " ++ digits
  | unexpectedInSlice k => "unexpected " ++ k.text ++ " in slice"
  | zeroStep => "slice step cannot be zero"
  | expectedIndex => "expected an index or slice"
  | invalidIndex digits => "invalid index '" ++ digits ++ "'"
  | indexOutOfRange digits => "index out of range '" ++ digits ++ "'"
  | expectedName k => "expected a quoted name, found " ++ k.text
  | expectedArguments name k => "expected '(' after " ++ name ++ ", found " ++ k.text
  | expectedComma k => "expected ',' or ')', found " ++ k.text
  | unclosedCall => "unclosed function call"
  | call cause => cause.message
  | expectedFilter => "expected a filter expression"
  | tooDeep => "filter expression nested too deeply"
  | expectedCloseParen k => "expected ')', found " ++ k.text
  | unexpectedInFilter k => "unexpected " ++ k.text ++ " in filter expression"
  | expectedRegex k => "expected a regex literal, found " ++ k.text
  | invalidRegex pattern flags report =>
    "invalid regex /" ++ pattern ++ "/" ++ flags ++ report.elim "" (": " ++ ·)
  | expectedPath op k => "expected a filter query after '" ++ op.text ++ "', found " ++ k.text
  | uncompared => "filter expression literals must be compared"
  | expectedLiteral k => "expected a literal, found " ++ k.text
  | invalidNumber digits => "invalid number literal " ++ digits
  | invalidEscape => "invalid escape"

def message (e : SyntaxError) : String := e.cause.message

def text (e : SyntaxError) : String :=
  "syntax error: " ++ e.message ++ " (" ++ e.position.text ++ ")"

end SyntaxError
end PathQuery
