/-! Sets of code points as lists of ranges, and their written form. -/
namespace PathQuery.Unicode

/-- First and last code point of each range. -/
abbrev Ranges := List (Nat × Nat)

/-- The value of a digit in base 36. -/
def digit (c : Char) : Nat := if c.isDigit then c.toNat - '0'.toNat else c.toNat - 'a'.toNat + 10

/-- Numbers in base 36, with blanks between them. -/
def numbers (text : String) : List Nat :=
  ((text.toList.splitBy fun a b => !a.isWhitespace && !b.isWhitespace).filter
    (·.all (!·.isWhitespace))).map (·.foldl (fun n c => n * 36 + digit c) 0)

namespace Ranges

/-- By turns, how many code points are left out and how many follow that belong to the set. -/
def ofGaps (start : Nat) : List Nat → Ranges
  | skip :: take :: rest =>
    (start + skip, start + skip + take - 1) :: ofGaps (start + skip + take) rest
  | _ => []

def ofText (text : String) : Ranges := ofGaps 0 (numbers text)

def contains (r : Ranges) (code : Nat) : Bool :=
  r.any fun (first, last) => first ≤ code && code ≤ last

/-- The code points of `r` that are not in `s`, of which each range lies within one of `r`. -/
def without (r s : Ranges) : Ranges :=
  r.flatMap fun (first, last) =>
    let inner := s.filter fun (a, b) => first ≤ a ∧ b ≤ last
    let starts := first :: inner.map (·.2 + 1)
    let stops := inner.map (·.1) ++ [last + 1]
    (starts.zip stops).filterMap fun (a, b) => if a < b then some (a, b - 1) else none

end Ranges
end PathQuery.Unicode
