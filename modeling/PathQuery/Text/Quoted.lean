import PathQuery.Unicode.Category
import PathQuery.Unicode.Property
/-! Quoting a message so that every character of it can be seen. -/
namespace PathQuery.Quoted
open Unicode

/-- Characters that stand by themselves: not blank except for the space, assigned, and not drawn
upon the character before them. -/
def isVisible (c : Char) : Bool :=
  c == ' ' || !(graphemeExtend.contains c.toNat ||
    [.zs, .zl, .zp, .cc, .cf, .cs, .co, .cn].contains (Category.of c))

def escape : Char → List Char
  | '\x00' => ['\\', '0']
  | '\t' => ['\\', 't']
  | '\r' => ['\\', 'r']
  | '\n' => ['\\', 'n']
  | '"' => ['\\', '"']
  | '\\' => ['\\', '\\']
  | c =>
    if isVisible c then [c]
    else '\\' :: 'u' :: '\x7b' :: Nat.toDigits 16 c.toNat ++ ['\x7d']

def quote (text : String) : String := String.ofList ('"' :: text.toList.flatMap escape ++ ['"'])

end PathQuery.Quoted
