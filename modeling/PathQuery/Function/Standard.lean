import PathQuery.Function.Signature
/-! Functions, which make a value of a value or nothing at all, and the standard ones. -/
namespace PathQuery

structure Function where
  signature : Signature
  call : Value → List Value → Option Value

namespace Function

/-- The whole part of a number argument within 64 bits. -/
def intArg? (args : List Value) (i : Nat) : Option Int :=
  (args[i]?.bind Value.number?).map (·.clamp (-(2 ^ 63)) (2 ^ 63 - 1))

/-- The same without a sign; what is negative counts as zero. -/
def natArg? (args : List Value) (i : Nat) : Option Nat :=
  (args[i]?.bind Value.number?).map fun x => (x.clamp 0 (2 ^ 64 - 1)).toNat

/-- The characters of a string or the items of an array. -/
def length : Function where
  signature := ⟨[], 0⟩
  call value _ := match value with
    | .string s => some (.ofNat s.length)
    | .array items => some (.ofNat items.length)
    | _ => none

/-- At most so many characters from a start on, or all of them. -/
def substring : Function where
  signature := ⟨[.int, .int], 1⟩
  call value args := match value with
    | .string s =>
      let rest := s.toList.drop ((natArg? args 0).getD 0)
      some (.string (String.ofList (match natArg? args 1 with
        | some count => rest.take count
        | none => rest)))
    | _ => none

/-- The character at an index, which counts from the end if it is negative. -/
def charAt : Function where
  signature := ⟨[.int], 1⟩
  call value args := do
    let s ← value.string?
    let i ← intArg? args 0
    let place := if i < 0 then s.length + i else i
    let c ← if place < 0 then none else s.toList[place.toNat]?
    return .string (String.singleton c)

def keys : Function where
  signature := ⟨[], 0⟩
  call value _ := match value with
    | .object members => some (.array (members.map fun m => .string m.1))
    | .array items => some (.array ((List.range items.length).map .ofNat))
    | _ => none

def values : Function where
  signature := ⟨[], 0⟩
  call value _ := match value with
    | .object members => some (.array (members.map (·.2)))
    | .array items => some (.array items)
    | _ => none

/-- Pairs of key and value. -/
def entries : Function where
  signature := ⟨[], 0⟩
  call value _ := match value with
    | .object members => some (.array (members.map fun m => .array [.string m.1, m.2]))
    | .array items => some (.array (items.zipIdx.map fun (item, i) => .array [.ofNat i, item]))
    | _ => none

end Function
end PathQuery
