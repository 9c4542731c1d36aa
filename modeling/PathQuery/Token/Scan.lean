import PathQuery.Token.Basic
/-! Character classes of query texts, and how far strings, patterns and numbers reach. -/
namespace PathQuery.Scan

def isBlank (c : Char) : Bool := c == ' ' || c == '\n' || c == '\r' || c == '\t'

/-- Names begin with an ASCII letter, an underscore or any character beyond ASCII. -/
def isNameFirst (c : Char) : Bool := c.isAlpha || c == '_' || 0x80 ≤ c.toNat

def isNameChar (c : Char) : Bool := isNameFirst c || c.isDigit

def isFlag (c : Char) : Bool := c == 'i' || c == 'm' || c == 's' || c == 'x'

/-- Characters that may follow a backslash inside a string. -/
def isEscapable (c : Char) : Bool := ['b', 'f', 'n', 'r', 't', 'u', '/', '\\', '\'', '"'].contains c

/-- The length of a token, or the cause why there is none and the length read up to there. -/
abbrev Result := Except (LexError × Nat) Nat

/-- Reads on from inside a string, `read` characters into its token, past the closing quote. -/
def string (quote : Char) (opened : Position) (read : Nat) : List Char → Result
  | [] => .error (.unclosedString opened, read)
  | '\\' :: c :: rest =>
    if isEscapable c then string quote opened (read + 2) rest
    else .error (.invalidEscape, read + 1)
  | ['\\'] => .error (.invalidEscape, read + 1)
  | c :: rest => if c = quote then .ok (read + 1) else string quote opened (read + 1) rest

/-- Reads on from inside a pattern, `read` characters into its token, past the closing slash. -/
def regex (opened : Position) (read : Nat) : List Char → Result
  | [] => .error (.unclosedRegex opened, read)
  | ['\\'] => .error (.unclosedRegex opened, read + 1)
  | '\\' :: _ :: rest => regex opened (read + 2) rest
  | '/' :: _ => .ok (read + 1)
  | _ :: rest => regex opened (read + 1) rest

def digits (text : List Char) : Nat := (text.takeWhile Char.isDigit).length

/-- The length of the sign and the digits of a whole number. -/
def whole (text : List Char) : Result :=
  match text with
  | '-' :: rest =>
    if digits rest = 0 then .error (.expectedDigit (rest.headD '\x00'), 1)
    else .ok (digits rest + 1)
  | _ => .ok (digits text)

/-- The length of a point and its digits, if `text` begins with a point. -/
def fraction (text : List Char) : Result :=
  match text with
  | '.' :: rest => if digits rest = 0 then .error (.expectedFraction, 1) else .ok (digits rest + 1)
  | _ => .ok 0

/-- The length of an exponent, if `text` begins with one. -/
def exponent (text : List Char) : Result :=
  match text with
  | 'e' :: rest | 'E' :: rest =>
    let sign := match rest with
      | '+' :: _ | '-' :: _ => 1
      | _ => 0
    let count := digits (rest.drop sign)
    if count = 0 then .error (.expectedExponent, sign + 1) else .ok (sign + count + 1)
  | _ => .ok 0

/-- Lets `next` read on after `length` characters, and counts them in. -/
def onward (length : Nat) (next : Result) : Result :=
  match next with
  | .ok more => .ok (length + more)
  | .error (cause, more) => .error (cause, length + more)

/-- The length of a number, and whether it has a fraction or an exponent. -/
def number (text : List Char) : Except (LexError × Nat) (Nat × Bool) := do
  let a ← whole text
  let b ← onward a (fraction (text.drop a))
  let c ← onward b (exponent (text.drop b))
  return (c, c ≠ a)

end PathQuery.Scan
