import PathQuery.Regex.Syntax
import PathQuery.Unicode.Category
import PathQuery.Unicode.Folding
import PathQuery.Unicode.Property
import PathQuery.Unicode.Script
/-! Sets of characters, built from ranges, properties and set operations. -/
namespace PathQuery.Regex
open Unicode

inductive CharSet where
  | ranges (r : Ranges)
  | union (sets : List CharSet)
  | op (o : SetOp) (left right : CharSet)
  | complement (s : CharSet)
  /-- The characters that differ at most in case from one of `s`. -/
  | folded (s : CharSet)
  /-- The same, with case only for ASCII letters. -/
  | asciiFolded (s : CharSet)

def SetOp.apply (o : SetOp) (a b : Bool) : Bool :=
  match o with
  | intersection => a && b
  | difference => a && !b
  | symmetricDifference => a != b

/-- An ASCII letter of either case for the other. -/
def otherCase (code : Nat) : Nat :=
  if 65 ≤ code ∧ code ≤ 90 then code + 32
  else if 97 ≤ code ∧ code ≤ 122 then code - 32
  else code

namespace CharSet

mutual

def contains (s : CharSet) (code : Nat) : Bool :=
  match s with
  | ranges r => r.contains code
  | union sets => anyContains sets code
  | op o left right => o.apply (left.contains code) (right.contains code)
  | complement s => !s.contains code
  | folded s => (Folding.orbit code).any s.contains
  | asciiFolded s => s.contains code || s.contains (otherCase code)

def anyContains (sets : List CharSet) (code : Nat) : Bool :=
  match sets with
  | [] => false
  | s :: rest => s.contains code || anyContains rest code

end

mutual

/-- About how many ranges the set has. -/
def count : CharSet → Nat
  | ranges r => r.length
  | union sets => counts sets
  | op _ left right => left.count + right.count
  | complement s => s.count + 1
  | folded s | asciiFolded s => 2 * s.count

def counts : List CharSet → Nat
  | [] => 0
  | s :: rest => s.count + counts rest

end

mutual

/-- Whether the set is seen to hold ASCII alone. -/
def isAscii : CharSet → Bool
  | ranges r => r.all (·.2 < 0x80)
  | union sets => allAscii sets
  | op .intersection left right => left.isAscii || right.isAscii
  | op .difference left _ => left.isAscii
  | op .symmetricDifference left right => left.isAscii && right.isAscii
  | complement _ => false
  | folded s => s.isAscii && !(Folding.orbit 0x6b ++ Folding.orbit 0x73).any s.contains
  | asciiFolded s => s.isAscii

def allAscii : List CharSet → Bool
  | [] => true
  | s :: rest => s.isAscii && allAscii rest

end

def single (c : Char) : CharSet := ranges [(c.toNat, c.toNat)]

end CharSet

def digits : Ranges := Category.ranges (· == .nd)

/-- Letters and marks, decimal digits, connectors and joiners. -/
def wordChars : Ranges :=
  alphabetic ++ Category.ranges (fun c => c.isMark || c == .nd || c == .pc) ++ joinControl

def PerlClass.ranges : PerlClass → Ranges
  | digit => Regex.digits
  | space => whiteSpace
  | word => wordChars

def asciiSpace : Ranges := [(9, 13), (32, 32)]

def asciiWord : Ranges := [(48, 57), (65, 90), (95, 95), (97, 122)]

def PerlClass.asciiRanges : PerlClass → Ranges
  | digit => [(48, 57)]
  | space => asciiSpace
  | word => asciiWord

def AsciiClass.ranges : AsciiClass → Ranges
  | alnum => [(48, 57), (65, 90), (97, 122)]
  | alpha => [(65, 90), (97, 122)]
  | ascii => [(0, 127)]
  | blank => [(9, 9), (32, 32)]
  | cntrl => [(0, 31), (127, 127)]
  | digit => [(48, 57)]
  | graph => [(33, 126)]
  | lower => [(97, 122)]
  | print => [(32, 126)]
  | punct => [(33, 47), (58, 64), (91, 96), (123, 126)]
  | space => asciiSpace
  | upper => [(65, 90)]
  | word => asciiWord
  | xdigit => [(48, 57), (65, 70), (97, 102)]

namespace PropertyQuery

/-- Names compare without case, spaces, hyphens, underscores and an `is` in front. -/
def normalize (name : String) : String :=
  let letters := name.toList.filter fun c => c ≠ ' ' ∧ c ≠ '_' ∧ c ≠ '-' ∧ c.toNat < 0x80
  let (hasIs, body) := match name.toList with
    | i :: s :: rest =>
      if i.toLower = 'i' ∧ s.toLower = 's' then
        (true, rest.filter fun c => c ≠ ' ' ∧ c ≠ '_' ∧ c ≠ '-' ∧ c.toNat < 0x80)
      else (false, letters)
    | _ => (false, letters)
  let result := String.ofList (body.map Char.toLower)
  if hasIs ∧ result = "c" then "isc" else result

def category? (name : String) : Option Ranges :=
  match name with
  | "any" => some [(0, 0x10ffff)]
  | "assigned" => some (Category.ranges (· != .cn))
  | "ascii" => some [(0, 127)]
  | _ => (Category.named.find? (·.1.contains name)).map fun (_, categories) =>
    Category.ranges categories.contains

def script? (name : String) : Option Script := Script.table.find? (·.names.contains name)

def property? (name : String) : Option Ranges :=
  (Property.table.find? (·.names.contains name)).map (·.holds ())

def isCategoryName (name : String) : Bool :=
  ["gc", "generalcategory", "category"].contains name

/-- The set a query names: a property, a category or a script, tried in this order. -/
def ranges? : PropertyQuery → Option Ranges
  | named name =>
    let name := normalize name
    match if ["cf", "sc", "lc"].contains name then none else property? name with
    | some r => some r
    | none =>
      match category? name with
      | some r => some r
      | none => (script? name).map Script.ranges
  | valued name value =>
    let name := normalize name
    let value := normalize value
    if isCategoryName name then category? value
    else if ["sc", "script"].contains name then (script? value).map Script.ranges
    else if ["scx", "scriptextensions"].contains name then (script? value).map Script.extended
    else none

end PropertyQuery
end PathQuery.Regex
