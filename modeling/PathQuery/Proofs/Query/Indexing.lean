import PathQuery.Proofs.Query.Slicing

/-! What indices select: the item that the slice from the index up to the next one selects, which is
no item at all where the index counts past either end. Counting back in words of 64 bits, with the size
of the least word left out, comes to the same place. -/
namespace PathQuery

namespace Slice
variable {i : Int}

/-- The end of the slice that starts at an index and holds no more than its item. There is no number
behind the last index that counts from the end. -/
def next (i : Int) : Option Int := if i = -1 then none else some (i + 1)

theorem counted_within (n : Nat) (i : Int) :
    0 ≤ counted n i ∧ counted n i < n ↔ -n ≤ i ∧ i < n := by
  unfold counted
  split <;> omega

/-- From an index on, the goal is the very next place, unless the index counts past the ends. -/
theorem origin_goal (n : Nat) (i : Int) :
    if -n ≤ i ∧ i < n then
      origin n 1 (some i) = counted n i ∧ goal n 1 (next i) = counted n i + 1
    else goal n 1 (next i) ≤ origin n 1 (some i) := by
  have forwards : ¬ (1 : Int) < 0 := by decide
  by_cases hi : i = -1
  · simp only [next, hi, if_true, origin, goal, place, counted, forwards, if_false]
    split <;> omega
  · simp only [next, hi, if_false, origin, goal, place, counted, forwards]
    split <;> split <;> split <;> omega

theorem indices_single (n : Nat) (i : Int) :
    indices n (some i) (next i) 1 = if -n ≤ i ∧ i < n then [counted n i] else [] := by
  have hl : (0 : Int) ≤ n := Int.natCast_nonneg n
  have ends := origin_goal n i
  rw [indices, first_eq_origin hl, last_eq_goal hl]
  split at ends
  next within =>
    have one : count (counted n i) (counted n i + 1) 1 = 1 := by
      rw [count, if_pos (by decide), if_pos (by omega)]
      omega
    rw [if_pos within, ends.1, ends.2, one]
    simp
  next beyond =>
    have zero : count (origin n 1 (some i)) (goal n 1 (next i)) 1 = 0 := by
      rw [count, if_pos (by decide), if_neg (by omega)]
      rfl
    rw [if_neg beyond, zero]
    rfl

/-- The same in words. -/
def Word.next (i : Int64) : Option Int64 := if i = -1 then none else some (i + 1)

theorem Word.toInt_next {i : Int64} (hi : i ≠ Int64.maxValue) :
    (Word.next i).map Int64.toInt = Slice.next i.toInt := by
  have last : i = -1 ↔ i.toInt = -1 := by
    rw [← Int64.toInt_inj]
    rfl
  have below : i.toInt ≠ 2 ^ 63 - 1 := by
    rw [← Int64.toInt_maxValue]
    exact fun h => hi (Int64.toInt_inj.1 h)
  have hlow := i.le_toInt
  have hhigh := i.toInt_lt
  by_cases h : i = -1
  · rw [Word.next, Slice.next, if_pos h, if_pos (last.1 h)]
    rfl
  · have hsum : (i + 1).toInt = i.toInt + 1 := by
      rw [Int64.toInt_add, Int64.toInt_one, Int.bmod_eq_of_le] <;> omega
    rw [Word.next, Slice.next, if_neg h, if_neg (fun hm => h (last.2 hm)), Option.map_some, hsum]

end Slice

namespace Index

/-- The size of a word, if that is a word. -/
def size? (i : Int64) : Option Int64 :=
  if i = Int64.minValue then none else some (if i < 0 then -i else i)

/-- The place that an index stands for. An index from the end is counted back by its size, as far as
the list goes. -/
def place? (length : Nat) (i : Int64) : Option Nat :=
  if i < 0 then do
    let back ← size? i
    if back.toInt.toNat ≤ length then some (length - back.toInt.toNat) else none
  else some i.toInt.toNat

theorem size?_of_neg {i : Int64} (hi : i < 0) (hmin : i ≠ Int64.minValue) :
    ∃ back, size? i = some back ∧ back.toInt = -i.toInt := by
  have above : i.toInt ≠ -2 ^ 63 := by
    rw [← Int64.toInt_minValue]
    exact fun h => hmin (Int64.toInt_inj.1 h)
  have hlow := i.le_toInt
  have hneg : i.toInt < 0 := Int64.lt_iff_toInt_lt.1 hi
  refine ⟨-i, by rw [size?, if_neg hmin, if_pos hi], ?_⟩
  rw [Int64.toInt_neg, Int.bmod_eq_of_le] <;> omega

/-- In words, an index stands for the place that it counts to, unless that lies before the list. -/
theorem place?_eq {n : Nat} (hn : n < 2 ^ 63) (i : Int64) :
    place? n i =
      if Slice.counted n i.toInt < 0 then none else some (Slice.counted n i.toInt).toNat := by
  have sign : i < 0 ↔ i.toInt < 0 := Int64.lt_iff_toInt_lt
  unfold place? Slice.counted
  by_cases hi : i < 0
  · rw [if_pos hi, if_pos (sign.1 hi)]
    by_cases hmin : i = Int64.minValue
    · -- The least word has no size, and counts back further than any list goes.
      have least : i.toInt = -2 ^ 63 := hmin ▸ Int64.toInt_minValue
      rw [size?, if_pos hmin, if_pos (by omega)]
      rfl
    · obtain ⟨back, hsize, hback⟩ := size?_of_neg hi hmin
      have hneg := sign.1 hi
      simp only [hsize, Option.bind_eq_bind, Option.bind_some, hback]
      by_cases hplace : i.toInt + n < 0
      · rw [if_neg (by omega), if_pos hplace]
      · rw [if_pos (by omega), if_neg hplace]
        congr 1
        omega
  · have hneg := fun h => hi (sign.2 h)
    rw [if_neg hi, if_neg hneg, if_neg hneg]

end Index

/-- An index in words: the item at its place, if there is one. -/
def Node.indexed? (n : Node) (i : Int64) : Option Node :=
  match n.value with
  | .array items => (Index.place? items.length i).bind n.item?
  | _ => none

section
variable {items : List Value} {location : Location} {i : Int64}

theorem Node.itemAt?_array (items : List Value) (location : Location) (i : Int) :
    Node.itemAt? ⟨location, .array items⟩ i =
      Node.found? ⟨location, .array items⟩ (Slice.counted items.length i) := by
  rw [Slice.counted, Int.add_comm i]
  rfl

theorem Node.indexed?_array (hlength : items.length < 2 ^ 63) :
    Node.indexed? ⟨location, .array items⟩ i =
      Node.found? ⟨location, .array items⟩ (Slice.counted items.length i.toInt) := by
  change (Index.place? items.length i).bind _ = _
  rw [Index.place?_eq hlength, found?]
  split <;> rfl

/-- What an index counts to: an item, or nothing past the ends. -/
theorem Node.found?_counted (items : List Value) (location : Location) (i : Int) :
    ((-items.length ≤ i ∧ i < items.length) ∧ ∃ (j : Nat) (v : Value),
      (j : Int) = Slice.counted items.length i ∧ items[j]? = some v ∧
        Node.found? ⟨location, .array items⟩ (Slice.counted items.length i) =
          some ⟨location ++ [.item j], v⟩) ∨
    (¬ (-items.length ≤ i ∧ i < items.length) ∧
      Node.found? ⟨location, .array items⟩ (Slice.counted items.length i) = none) := by
  rw [← Slice.counted_within]
  by_cases within : 0 ≤ Slice.counted items.length i ∧ Slice.counted items.length i < items.length
  · exact .inl ⟨within, exists_found? within⟩
  · refine .inr ⟨within, ?_⟩
    by_cases hneg : Slice.counted items.length i < 0
    · exact if_pos hneg
    · have past : items[(Slice.counted items.length i).toNat]? = none :=
        List.getElem?_eq_none (by omega)
      rw [found?, if_neg hneg]
      simp only [item?, past, Option.map_none]

/-- The slice from an index up to the next selects the item that the index counts to. -/
theorem Node.slice_next (items : List Value) (location : Location) (hi : i ≠ Int64.maxValue) :
    Node.slice ⟨location, .array items⟩ ((some i).map Int64.toInt)
        ((Slice.Word.next i).map Int64.toInt) ((none : Option Int64).map Int64.toInt) =
      .ok (Node.found? ⟨location, .array items⟩ (Slice.counted items.length i.toInt)).toList := by
  have forwards : Slice.stride none = 1 := rfl
  rw [Node.slice_array (by decide), Slice.Word.toInt_next hi, forwards, Option.map_some,
    Slice.indices_single]
  rcases found?_counted items location i.toInt with
    ⟨within, j, v, -, -, hfound⟩ | ⟨beyond, hfound⟩
  · rw [if_pos within, List.filterMap_cons_some hfound, hfound]
    rfl
  · rw [if_neg beyond, hfound]
    rfl

/-- An index selects what the slice from there up to the next index selects: the item that it counts
to, alone, or nothing where it counts past either end. Words of 64 bits are enough for both. -/
theorem Segment.select_index [Pattern.Engine] (env : Environment) (root : Value)
    (location : Location) (hlength : items.length < 2 ^ 63) (hi : i ≠ Int64.maxValue) :
    ∃ nodes, (Segment.index i).select env root ⟨location, .array items⟩ = .ok nodes ∧
      (Segment.slice (some i) (if i = -1 then none else some (i + 1)) none).select env root
        ⟨location, .array items⟩ = .ok nodes ∧
      (Node.indexed? ⟨location, .array items⟩ i).toList = nodes ∧
      Node.walked ⟨location, .array items⟩ (some i) (if i = -1 then none else some (i + 1)) none =
        .ok nodes ∧
      nodes.length = (if -items.length ≤ i.toInt ∧ i.toInt < items.length then 1 else 0) ∧
      ∀ n ∈ nodes, ∃ j : Nat, (j : Int) = Slice.counted items.length i.toInt ∧
        items[j]? = some n.value ∧ n.location = location ++ [.item j] := by
  have slice := Node.slice_next items location hi
  refine ⟨_, ?_, slice, ?_, ?_, ?_⟩
  · change Except.ok (Node.itemAt? _ _).toList = _
    rw [Node.itemAt?_array]
  · rw [Node.indexed?_array hlength]
  · rw [← slice, Node.slice_eq_walked hlength (by decide)]
    rfl
  · rcases Node.found?_counted items location i.toInt with
      ⟨within, j, v, hj, hv, hfound⟩ | ⟨beyond, hfound⟩
    · rw [hfound, if_pos within]
      refine ⟨rfl, ?_⟩
      intro n hn
      rw [List.mem_singleton.1 hn]
      exact ⟨j, hj, hv, rfl⟩
    · rw [hfound, if_neg beyond]
      exact ⟨rfl, by simp⟩

end

/-- From the end of two items, to the first of them and one place past it. -/
theorem Segment.select_index_first :
    [Value.null, .bool true].length < 2 ^ 63 ∧ (-2 : Int64) ≠ Int64.maxValue ∧
    (Segment.index (-2)).select .standard .null ⟨[], .array [.null, .bool true]⟩ =
      .ok [⟨[.item 0], .null⟩] ∧
    (Segment.slice (some (-2)) (some (-1)) none).select .standard .null
        ⟨[], .array [.null, .bool true]⟩ = .ok [⟨[.item 0], .null⟩] ∧
    Int64.minValue ≠ Int64.maxValue ∧
    (Segment.slice (some Int64.minValue) (some (Int64.minValue + 1)) none).select .standard .null
        ⟨[], .array [.null, .bool true]⟩ = .ok [] := by
  have hlength : [Value.null, .bool true].length < 2 ^ 63 := by decide
  obtain ⟨nodes, hindex, hslice, -⟩ :=
    Segment.select_index (i := -2) .standard .null [] hlength (by decide)
  obtain ⟨none, hleast, hpast, -⟩ :=
    Segment.select_index (i := Int64.minValue) .standard .null [] hlength (by decide)
  cases hindex
  cases hleast
  exact ⟨hlength, by decide, rfl, hslice, by decide, hpast⟩

end PathQuery
