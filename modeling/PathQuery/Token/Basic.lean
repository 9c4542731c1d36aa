import PathQuery.Value.Comparison
/-! The tokens of a query text, each with its kind, its text and its place. -/
namespace PathQuery

/-- A place in a text, both counts from one; only a line feed starts a line. -/
structure Position where
  line : Nat := 1
  column : Nat := 1
  deriving DecidableEq, Repr

namespace Position

def advance (p : Position) (c : Char) : Position :=
  if c = '\n' then ⟨p.line + 1, 1⟩ else ⟨p.line, p.column + 1⟩

def text (p : Position) : String := p.line.repr ++ ":" ++ p.column.repr

end Position

/-- Why no token can be made of what comes next. -/
inductive LexError where
  | expectedRoot (found : Char)
  | expectedSegment (found : Char)
  | unexpectedAfterDescendant (found : Char)
  | unexpectedAfterDot (found : Char)
  | unexpectedInBrackets (found : Char)
  | unquotedName (name : String)
  | unexpectedInArguments (found : Char)
  | unexpectedInFilter (found : Char)
  | unclosedBrackets
  | unclosedCall
  | unclosedString (opened : Position)
  | unclosedRegex (opened : Position)
  | invalidEscape
  | unbalancedParens
  | lonely (c : Char)
  | expectedRegex (found : Char)
  | expectedDigit (found : Char)
  | expectedFraction
  | expectedExponent
  deriving DecidableEq, Repr

def LexError.message : LexError → String
  | expectedRoot c => s!"expected '$', found '{c}'"
  | expectedSegment c => s!"expected '.', '..' or a bracketed selection, found '{c}'"
  | unexpectedAfterDescendant c => s!"unexpected descendant selection token '{c}'"
  | unexpectedAfterDot c => s!"unexpected shorthand selector '{c}'"
  | unexpectedInBrackets c => s!"unexpected '{c}' in bracketed selection"
  | unquotedName name => s!"unexpected '{name}' in bracketed selection, names must be quoted"
  | unexpectedInArguments c => s!"unexpected '{c}' in function arguments"
  | unexpectedInFilter c => s!"unexpected filter expression token '{c}'"
  | unclosedBrackets => "unclosed bracketed selection"
  | unclosedCall => "unclosed function call"
  | unclosedString p => "unclosed string starting at " ++ p.text
  | unclosedRegex p => "unclosed regex literal starting at " ++ p.text
  | invalidEscape => "invalid escape sequence"
  | unbalancedParens => "unbalanced parentheses"
  | lonely c => s!"unexpected '{c}', did you mean '{c}{c}'?"
  | expectedRegex c => s!"expected a regex literal after '=~', found '{c}'"
  | expectedDigit c => s!"expected a digit after '-', found '{c}'"
  | expectedFraction => "a fractional digit is required after a decimal point"
  | expectedExponent => "at least one exponent digit is required"

inductive Quote where
  | single | double
  deriving DecidableEq, Repr

def Quote.char : Quote → Char
  | single => '\''
  | double => '"'

namespace Token

/-- What a token is. Strings and patterns hold the raw text between their delimiters. -/
inductive Kind where
  | endOfQuery
  | invalid (cause : LexError)
  | root | current | dot | doubleDot | star | comma | colon | question
  | openBracket | closeBracket | openParen | closeParen
  | name (value : String)
  | function (name : String)
  | string (quote : Quote) (raw : String)
  | int (digits : String)
  | float (digits : String)
  | null | true | false
  | not | and | or
  | compare (op : Comparison)
  | tilde
  | regex (pattern flags : String)
  deriving DecidableEq, Repr

/-- How messages refer to a token. -/
def Kind.text : Kind → String
  | endOfQuery => "'end of query'"
  | invalid cause => "error: " ++ cause.message
  | root => "'$'"
  | current => "'@'"
  | dot => "'.'"
  | doubleDot => "'..'"
  | star => "'*'"
  | comma => "','"
  | colon => "':'"
  | question => "'?'"
  | openBracket => "'['"
  | closeBracket => "']'"
  | openParen => "'('"
  | closeParen => "')'"
  | name value => "'" ++ value ++ "'"
  | function callee => "'" ++ callee ++ "()'"
  | string .single raw => "\"'" ++ raw ++ "'\""
  | string .double raw => "'\"" ++ raw ++ "\"'"
  | int digits | float digits => digits
  | null => "'null'"
  | true => "'true'"
  | false => "'false'"
  | not => "'not'"
  | and => "'and'"
  | or => "'or'"
  | compare op => "'" ++ op.text ++ "'"
  | tilde => "'=~'"
  | regex pattern flags => "/" ++ pattern ++ "/" ++ flags

end Token

/-- A token with its source text, its span in bytes and the place where it begins. -/
structure Token where
  kind : Token.Kind
  lexeme : String
  start : Nat
  stop : Nat
  position : Position
  deriving DecidableEq, Repr

end PathQuery
