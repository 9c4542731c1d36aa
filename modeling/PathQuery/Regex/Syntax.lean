/-! Syntax trees of regular expressions, and how deep they nest. -/
namespace PathQuery.Regex

inductive PerlClass where
  | digit | space | word
  deriving DecidableEq, Repr

inductive AsciiClass where
  | alnum | alpha | ascii | blank | cntrl | digit | graph | lower | print | punct | space | upper
  | word | xdigit
  deriving DecidableEq, Repr

/-- A Unicode property by one name, or by a name and a value. -/
inductive PropertyQuery where
  | named (name : String)
  | valued (name value : String)
  deriving DecidableEq, Repr

inductive Assertion where
  | startLine | endLine | startText | endText
  | word | notWord | wordStart | wordEnd | wordStartHalf | wordEndHalf
  deriving DecidableEq, Repr

/-- A character, and whether two hexadecimal digits spell it, which may mean a byte. -/
structure Literal where
  char : Char
  isByte : Bool := false
  deriving DecidableEq, Repr

inductive SetOp where
  | intersection | difference | symmetricDifference
  deriving DecidableEq, Repr

mutual

/-- A part of a bracketed class. -/
inductive ClassItem where
  | literal (l : Literal)
  | range (first last : Literal)
  | perl (c : PerlClass) (negated : Bool)
  | ascii (c : AsciiClass) (negated : Bool)
  | property (q : PropertyQuery) (negated : Bool)
  | bracketed (negated : Bool) (set : ClassSet)

inductive ClassSet where
  | union (items : List ClassItem)
  | op (o : SetOp) (left right : ClassSet)

end

inductive Flag where
  | caseInsensitive | multiLine | dotNewline | swapGreed | unicode | crlf | ignoreSpace
  deriving DecidableEq, Repr

/-- Flags with the state they are set to. -/
abbrev FlagChanges := List (Flag × Bool)

inductive Ast where
  | empty
  | setFlags (changes : FlagChanges)
  | literal (l : Literal)
  | dot
  | assertion (a : Assertion)
  | perl (c : PerlClass) (negated : Bool)
  | property (q : PropertyQuery) (negated : Bool)
  | bracketed (negated : Bool) (set : ClassSet)
  | repetition (min : Nat) (max : Option Nat) (body : Ast)
  | group (name : Option String) (changes : FlagChanges) (body : Ast)
  | concat (items : List Ast)
  | alternation (branches : List Ast)
  deriving Inhabited

mutual

def ClassItem.depth : ClassItem → Nat
  | .bracketed _ set => set.depth + 1
  | _ => 0

def ClassSet.depth : ClassSet → Nat
  | .union items => (if items.length < 2 then 0 else 1) + ClassItem.depths items
  | .op _ left right => max left.depth right.depth + 1

def ClassItem.depths : List ClassItem → Nat
  | [] => 0
  | item :: rest => max item.depth (ClassItem.depths rest)

end

namespace Ast

def ofConcat : List Ast → Ast
  | [] => empty
  | [item] => item
  | items => concat items

def ofBranches : List Ast → Ast
  | [branch] => branch
  | branches => alternation branches

mutual

def depth : Ast → Nat
  | bracketed _ set => set.depth + 1
  | repetition _ _ body => body.depth + 1
  | group _ _ body => body.depth + 1
  | concat items => depths items + 1
  | alternation branches => depths branches + 1
  | _ => 0

def depths : List Ast → Nat
  | [] => 0
  | item :: rest => max item.depth (depths rest)

end

mutual

def names : Ast → List String
  | repetition _ _ body => body.names
  | group name _ body => name.toList ++ body.names
  | concat items => namesOf items
  | alternation branches => namesOf branches
  | _ => []

def namesOf : List Ast → List String
  | [] => []
  | item :: rest => item.names ++ namesOf rest

end

end Ast
end PathQuery.Regex
