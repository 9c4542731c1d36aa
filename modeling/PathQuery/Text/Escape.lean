/-! Backslash escapes of quoted strings, with surrogate pairs for characters above U+FFFF. -/
namespace PathQuery.Escape

def hexDigit? (c : Char) : Option Nat :=
  if '0' ≤ c ∧ c ≤ '9' then some (c.toNat - '0'.toNat)
  else if 'a' ≤ c ∧ c ≤ 'f' then some (c.toNat - 'a'.toNat + 10)
  else if 'A' ≤ c ∧ c ≤ 'F' then some (c.toNat - 'A'.toNat + 10)
  else none

/-- The 16-bit unit that four hexadecimal digits spell. -/
def unit? (a b c d : Char) : Option Nat := do
  return (← hexDigit? a) * 4096 + (← hexDigit? b) * 256 + (← hexDigit? c) * 16 + (← hexDigit? d)

def isHigh (unit : Nat) : Bool := 0xD800 ≤ unit && unit ≤ 0xDBFF

def isLow (unit : Nat) : Bool := 0xDC00 ≤ unit && unit ≤ 0xDFFF

def pair (high low : Nat) : Char :=
  Char.ofNat (0x10000 + (high - 0xD800) * 0x400 + (low - 0xDC00))

/-- The character after a backslash that stands for `c`, the apostrophe only if it may quote. -/
def simple? (apostrophe : Bool) : Char → Option Char
  | '"' => some '"'
  | '\\' => some '\\'
  | '/' => some '/'
  | 'b' => some '\x08'
  | 'f' => some '\x0c'
  | 'n' => some '\n'
  | 'r' => some '\r'
  | 't' => some '\t'
  | '\'' => if apostrophe then some '\'' else none
  | _ => none

/-- Replaces the escapes in `text`; fails at one that is malformed or names half a pair. -/
def decode? (apostrophe : Bool) : List Char → Option (List Char)
  | [] => some []
  | '\\' :: 'u' :: a :: b :: c :: d :: rest => do
    let unit ← unit? a b c d
    if isHigh unit then
      match rest with
      | '\\' :: 'u' :: e :: f :: g :: h :: rest =>
        let low ← unit? e f g h
        if isLow low then return pair unit low :: (← decode? apostrophe rest) else none
      | _ => none
    else if isLow unit then none
    else return Char.ofNat unit :: (← decode? apostrophe rest)
  | '\\' :: c :: rest => return (← simple? apostrophe c) :: (← decode? apostrophe rest)
  | ['\\'] => none
  | c :: rest => return c :: (← decode? apostrophe rest)

end PathQuery.Escape
