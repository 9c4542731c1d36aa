/-! The items a slice selects: from a start by steps towards a stop, both clamped to the list. -/
namespace PathQuery.Slice

/-- A bound counted from the end if it is negative, held between `lower` and `upper`. -/
def clamp (length lower upper bound : Int) : Int :=
  if bound < 0 then max (bound + length) lower else min bound upper

def lower (step : Int) : Int := if step < 0 then -1 else 0

def upper (length step : Int) : Int := if step < 0 then length - 1 else length

def first (length : Int) (start : Option Int) (step : Int) : Int :=
  match start with
  | some bound => clamp length (lower step) (upper length step) bound
  | none => if step < 0 then upper length step else lower step

def last (length : Int) (stop : Option Int) (step : Int) : Int :=
  match stop with
  | some bound => clamp length (lower step) (upper length step) bound
  | none => if step < 0 then lower step else upper length step

/-- The number of steps before `stop` is reached. -/
def count (start stop step : Int) : Nat :=
  if 0 < step then (if start < stop then (stop - start - 1) / step + 1 else 0).toNat
  else (if stop < start then (start - stop - 1) / -step + 1 else 0).toNat

/-- The indices selected from a list of this length, in order. -/
def indices (length : Nat) (start stop : Option Int) (step : Int) : List Int :=
  let origin := first length start step
  (List.range (count origin (last length stop step) step)).map fun (k : Nat) => origin + k * step

end PathQuery.Slice
