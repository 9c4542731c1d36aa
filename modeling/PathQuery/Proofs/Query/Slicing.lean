import PathQuery.Proofs.Query.Safety

/-! What slices select. A slice goes from its first bound by its step, for as long as it is strictly
before its second bound; bounds outside of the list are moved to the nearest place that the direction
allows. A walk in words of 64 bits, whose sums are held or checked, comes by the same places. -/
namespace PathQuery

namespace Slice

/-- A bound counted from the end of the list if it is negative. -/
def counted (length bound : Int) : Int := if bound < 0 then bound + length else bound

/-- The place that a bound stands for, held between the ends of the list. They lie one place further
down for a slice that goes backwards. -/
def place (length step bound : Int) : Int :=
  if step < 0 then max (-1) (min (counted length bound) (length - 1))
  else max 0 (min (counted length bound) length)

/-- Where a slice begins. -/
def origin (length step : Int) : Option Int → Int
  | some bound => place length step bound
  | none => if step < 0 then length - 1 else 0

/-- Where a slice ends, at the latest. -/
def goal (length step : Int) : Option Int → Int
  | some bound => place length step bound
  | none => if step < 0 then -1 else length

/-- The steps of a slice, which go forward by one if nothing is said. -/
def stride (step : Option Int64) : Int := (step.map Int64.toInt).getD 1

/-- The place that a slice is at after `k` steps. -/
def after (length step : Int) (start : Option Int) (k : Nat) : Int :=
  origin length step start + k * step

/-- Strictly before the goal, in the direction of the step. -/
def Before (step i goal : Int) : Prop := if step < 0 then goal < i else i < goal

instance (step i goal : Int) : Decidable (Before step i goal) :=
  inferInstanceAs (Decidable (if step < 0 then goal < i else i < goal))

variable {length step start stop : Int}

theorem clamp_eq_place (hl : 0 ≤ length) (bound : Int) :
    clamp length (lower step) (upper length step) bound = place length step bound := by
  unfold clamp place counted lower upper
  split <;> split <;> omega

theorem first_eq_origin (hl : 0 ≤ length) (start : Option Int) :
    first length start step = origin length step start := by
  cases start with
  | none =>
    simp only [first, origin, lower, upper]
    split <;> rfl
  | some bound => exact clamp_eq_place hl bound

theorem last_eq_goal (hl : 0 ≤ length) (stop : Option Int) :
    last length stop step = goal length step stop := by
  cases stop with
  | none =>
    simp only [last, goal, lower, upper]
    split <;> rfl
  | some bound => exact clamp_eq_place hl bound

theorem place_between (hl : 0 ≤ length) (bound : Int) :
    lower step ≤ place length step bound ∧ place length step bound ≤ upper length step := by
  unfold place lower upper
  split <;> omega

theorem origin_between (hl : 0 ≤ length) (step : Int) (start : Option Int) :
    lower step ≤ origin length step start ∧ origin length step start ≤ upper length step := by
  cases start with
  | none =>
    simp only [origin, lower, upper]
    split <;> omega
  | some bound => exact place_between hl bound

theorem goal_between (hl : 0 ≤ length) (step : Int) (stop : Option Int) :
    lower step ≤ goal length step stop ∧ goal length step stop ≤ upper length step := by
  cases stop with
  | none =>
    simp only [goal, lower, upper]
    split <;> omega
  | some bound => exact place_between hl bound

/-- Before its goal, a slice is within the list. -/
theorem within_of_before (hl : 0 ≤ length) {start stop : Option Int} {k : Nat}
    (h : Before step (after length step start k) (goal length step stop)) :
    0 ≤ after length step start k ∧ after length step start k < length := by
  have begins := origin_between hl step start
  have ends := goal_between hl step stop
  unfold after Before at *
  unfold lower upper at begins ends
  by_cases hs : step < 0
  · have onward : k * step ≤ 0 := Int.mul_nonpos_of_nonneg_of_nonpos (by omega) (by omega)
    simp only [hs, if_true] at h begins ends
    omega
  · have onward : 0 ≤ k * step := Int.mul_nonneg (by omega) (by omega)
    simp only [hs, if_false] at h begins ends
    omega

/-! Counting the places -/

theorem lt_steps_iff {low high : Int} (hs : 0 < step) {k : Nat} :
    k < (if low < high then (high - low - 1) / step + 1 else 0).toNat ↔
      low + k * step < high := by
  have hk : 0 ≤ k * step := Int.mul_nonneg (by omega) (by omega)
  have hle : (k : Int) ≤ (high - low - 1) / step ↔ k * step ≤ high - low - 1 :=
    Int.le_ediv_iff_mul_le hs
  split <;> omega

/-- The places that count are those before the goal. -/
theorem lt_count_iff (hs : step ≠ 0) {k : Nat} :
    k < count start stop step ↔ Before step (start + k * step) stop := by
  by_cases hp : 0 < step
  · have forwards : ¬ step < 0 := by omega
    rw [count, if_pos hp, Before, if_neg forwards]
    exact lt_steps_iff hp
  · have backwards : step < 0 := by omega
    have hk : (k : Int) * -step = -(k * step) := Int.mul_neg ..
    rw [count, if_neg hp, Before, if_pos backwards, lt_steps_iff (by omega), hk]
    omega

theorem count_eq_zero (hs : step ≠ 0) (h : ¬ Before step start stop) :
    count start stop step = 0 := by
  have one : 0 < count start stop step ↔ Before step start stop := by
    rw [lt_count_iff hs, Int.natCast_zero, Int.zero_mul, Int.add_zero]
  exact Nat.eq_zero_of_not_pos fun hc => h (one.1 hc)

theorem count_eq_succ (hs : step ≠ 0) (h : Before step start stop) :
    count start stop step = count (start + step) stop step + 1 := by
  have one : 0 < count start stop step := by
    rw [lt_count_iff hs]
    simpa using h
  have shift (k : Nat) : k + 1 < count start stop step ↔ k < count (start + step) stop step := by
    have next : start + ((k + 1 : Nat) : Int) * step = start + step + k * step := by
      rw [Int.natCast_add, Int.add_mul, Int.natCast_one, Int.one_mul]
      omega
    rw [lt_count_iff hs, lt_count_iff hs, next]
  have above := shift (count (start + step) stop step)
  have below := shift (count (start + step) stop step - 1)
  omega

/-- The indices of a slice are the places before its goal. -/
theorem getElem?_indices (n : Nat) (start stop : Option Int) (hs : step ≠ 0) (k : Nat) :
    (indices n start stop step)[k]? =
      if Before step (after n step start k) (goal n step stop) then some (after n step start k)
      else none := by
  have hl : (0 : Int) ≤ n := Int.natCast_nonneg n
  have hcount : k < count (origin n step start) (goal n step stop) step ↔
      Before step (after n step start k) (goal n step stop) := lt_count_iff hs
  rw [indices, first_eq_origin hl, last_eq_goal hl, List.getElem?_map]
  split
  next h =>
    rw [List.getElem?_range (hcount.2 h)]
    rfl
  next h =>
    rw [List.getElem?_eq_none]
    · rfl
    · rw [List.length_range]
      exact Nat.le_of_not_lt fun hk => h (hcount.1 hk)

theorem within_of_mem_indices {n : Nat} {start stop : Option Int} {i : Int} (hs : step ≠ 0)
    (h : i ∈ indices n start stop step) : 0 ≤ i ∧ i < n := by
  obtain ⟨k, hk⟩ := List.mem_iff_getElem?.1 h
  rw [getElem?_indices n start stop hs] at hk
  split at hk
  next before =>
    cases hk
    exact within_of_before (Int.natCast_nonneg n) before
  · cases hk

theorem map_range_succ (start step : Int) (n : Nat) :
    ((List.range (n + 1)).map fun (k : Nat) => start + k * step) =
      start :: (List.range n).map fun (k : Nat) => start + step + k * step := by
  rw [List.range_succ_eq_map, List.map_cons, List.map_map]
  congr 1
  · simp
  · apply List.map_congr_left
    intro k _
    rw [Function.comp_apply, Nat.succ_eq_add_one, Int.natCast_add, Int.add_mul, Int.natCast_one,
      Int.one_mul]
    omega

/-! The walk in words -/

/-- A sum of two words, held at the ends of their range. -/
def heldSum (a b : Int64) : Int64 := .ofIntClamp (a.toInt + b.toInt)

/-- A sum of two words, if it is one. -/
def checkedSum? (a b : Int64) : Option Int64 :=
  if -2 ^ 63 ≤ a.toInt + b.toInt ∧ a.toInt + b.toInt < 2 ^ 63 then some (a + b) else none

namespace Word

def lower (step : Int64) : Int64 := if step < 0 then -1 else 0

def upper (length step : Int64) : Int64 := if step < 0 then length - 1 else length

def clamp (length lower upper bound : Int64) : Int64 :=
  if bound < 0 then max (heldSum bound length) lower else min bound upper

def first (length : Int64) (start : Option Int64) (step : Int64) : Int64 :=
  match start with
  | some bound => clamp length (lower step) (upper length step) bound
  | none => if step < 0 then upper length step else lower step

def last (length : Int64) (stop : Option Int64) (step : Int64) : Int64 :=
  match stop with
  | some bound => clamp length (lower step) (upper length step) bound
  | none => if step < 0 then lower step else upper length step

end Word

theorem toInt_of_checkedSum? {a b c : Int64} (h : checkedSum? a b = some c) :
    c.toInt = a.toInt + b.toInt := by
  unfold checkedSum? at h
  split at h
  next hsum =>
    cases h
    rw [Int64.toInt_add, Int.bmod_eq_of_le] <;> omega
  · cases h

/-- The places that a walk comes by from `i` on. It ends where the next place is no word, too. -/
def walk (stop step i : Int64) : List Int64 :=
  if _h : (0 < step ∧ i < stop) ∨ (step < 0 ∧ stop < i) then
    match _hn : checkedSum? i step with
    | some next => i :: walk stop step next
    | none => [i]
  else []
termination_by (if 0 < step then stop.toInt - i.toInt else i.toInt - stop.toInt).toNat
decreasing_by
  have hnext := toInt_of_checkedSum? _hn
  simp only [Int64.lt_iff_toInt_lt, Int64.toInt_zero] at _h ⊢
  split <;> omega

section
variable {step stop i : Int64}

theorem goes_on_iff (hs : step ≠ 0) : (0 < step ∧ i < stop) ∨ (step < 0 ∧ stop < i) ↔
    Before step.toInt i.toInt stop.toInt := by
  have hne := Int64.toInt_ne_zero hs
  simp only [Int64.lt_iff_toInt_lt, Int64.toInt_zero]
  unfold Before
  split <;> omega

/-- Where the next place is no word, it is not before the goal either. -/
theorem not_before_of_checkedSum? (stop : Int64) (h : checkedSum? i step = none) :
    ¬ Before step.toInt (i.toInt + step.toInt) stop.toInt := by
  have outside : ¬ (-2 ^ 63 ≤ i.toInt + step.toInt ∧ i.toInt + step.toInt < 2 ^ 63) := by
    intro hsum
    rw [checkedSum?, if_pos hsum] at h
    cases h
  have := stop.le_toInt
  have := stop.toInt_lt
  have := i.le_toInt
  have := i.toInt_lt
  unfold Before
  split <;> omega

/-- A walk in words comes by all places before its goal, one step apart. -/
theorem toInt_walk (hs : step ≠ 0) : (walk stop step i).map Int64.toInt =
    (List.range (count i.toInt stop.toInt step.toInt)).map fun (k : Nat) =>
      i.toInt + k * step.toInt := by
  have hne := Int64.toInt_ne_zero hs
  fun_induction walk stop step i with
  | case1 i h next hn ih =>
    have before := (goes_on_iff hs).1 h
    rw [count_eq_succ hne before, map_range_succ, List.map_cons, ih, toInt_of_checkedSum? hn]
  | case2 i h hn =>
    have before := (goes_on_iff hs).1 h
    have beyond := not_before_of_checkedSum? stop hn
    rw [count_eq_succ hne before, count_eq_zero hne beyond, map_range_succ]
    rfl
  | case3 i h =>
    have beyond : ¬ Before step.toInt i.toInt stop.toInt := fun hb => h ((goes_on_iff hs).2 hb)
    rw [count_eq_zero hne beyond]
    rfl

/-! Bounds in words -/

theorem toInt_max (a b : Int64) : (max a b).toInt = max a.toInt b.toInt := by
  change (if a ≤ b then b else a).toInt = _
  simp only [Int64.le_iff_toInt_le]
  split <;> omega

theorem toInt_min (a b : Int64) : (min a b).toInt = min a.toInt b.toInt := by
  change (if a ≤ b then a else b).toInt = _
  simp only [Int64.le_iff_toInt_le]
  split <;> omega

namespace Word
variable {length : Int64}

theorem toInt_lower (step : Int64) : (lower step).toInt = Slice.lower step.toInt := by
  simp only [lower, Slice.lower, Int64.lt_iff_toInt_lt, Int64.toInt_zero]
  split <;> rfl

theorem toInt_upper (hl : 0 ≤ length.toInt) (step : Int64) :
    (upper length step).toInt = Slice.upper length.toInt step.toInt := by
  have hlt := length.toInt_lt
  have hsub : (length - 1).toInt = length.toInt - 1 := by
    rw [Int64.toInt_sub, Int64.toInt_one, Int.bmod_eq_of_le] <;> omega
  simp only [upper, Slice.upper, Int64.lt_iff_toInt_lt, Int64.toInt_zero]
  split
  · exact hsub
  · rfl

/-- A negative bound and a length add up to a word, so the sum is not held. -/
theorem toInt_clamp (hl : 0 ≤ length.toInt) (lower upper bound : Int64) :
    (clamp length lower upper bound).toInt =
      Slice.clamp length.toInt lower.toInt upper.toInt bound.toInt := by
  have hlt := length.toInt_lt
  have hge := bound.le_toInt
  simp only [clamp, Slice.clamp, Int64.lt_iff_toInt_lt, Int64.toInt_zero]
  split
  · have hsum : (heldSum bound length).toInt = bound.toInt + length.toInt := by
      apply Int64.toInt_ofIntClamp
      · rw [Int64.toInt_minValue]
        omega
      · rw [Int64.toInt_maxValue]
        omega
    rw [toInt_max, hsum]
  · rw [toInt_min]

theorem toInt_first (hl : 0 ≤ length.toInt) (start : Option Int64) (step : Int64) :
    (first length start step).toInt =
      Slice.first length.toInt (start.map Int64.toInt) step.toInt := by
  cases start with
  | none =>
    simp only [first, Slice.first, Int64.lt_iff_toInt_lt, Int64.toInt_zero, Option.map_none]
    split
    · exact toInt_upper hl step
    · exact toInt_lower step
  | some bound =>
    simp only [first, Slice.first, Option.map_some, toInt_clamp hl, toInt_lower, toInt_upper hl]

theorem toInt_last (hl : 0 ≤ length.toInt) (stop : Option Int64) (step : Int64) :
    (last length stop step).toInt =
      Slice.last length.toInt (stop.map Int64.toInt) step.toInt := by
  cases stop with
  | none =>
    simp only [last, Slice.last, Int64.lt_iff_toInt_lt, Int64.toInt_zero, Option.map_none]
    split
    · exact toInt_lower step
    · exact toInt_upper hl step
  | some bound =>
    simp only [last, Slice.last, Option.map_some, toInt_clamp hl, toInt_lower, toInt_upper hl]

end Word

/-- The walk in words comes by the indices of the slice. -/
theorem indices_eq_walk {n : Nat} (hn : n < 2 ^ 63) (start stop : Option Int64) (hs : step ≠ 0) :
    indices n (start.map Int64.toInt) (stop.map Int64.toInt) step.toInt =
      (walk (Word.last (.ofIntClamp n) stop step) step
        (Word.first (.ofIntClamp n) start step)).map Int64.toInt := by
  have hlength : (Int64.ofIntClamp n).toInt = n := by
    apply Int64.toInt_ofIntClamp
    · rw [Int64.toInt_minValue]
      omega
    · rw [Int64.toInt_maxValue]
      omega
  have hl : 0 ≤ (Int64.ofIntClamp n).toInt := by omega
  rw [toInt_walk hs, Word.toInt_first hl, Word.toInt_last hl, hlength]
  rfl

end

end Slice

/-- The item at a place that may lie in front of the list. -/
def Node.found? (n : Node) (i : Int) : Option Node := if i < 0 then none else n.item? i.toNat

/-- A slice in words: what the walk comes by and the list has. -/
def Node.walked (n : Node) (start stop step : Option Int64) : Except EvalError (List Node) :=
  match n.value with
  | .array items =>
    let length := Int64.ofIntClamp items.length
    let step := step.getD 1
    if step = 0 then .error .zeroStep
    else
      let places := Slice.walk (Slice.Word.last length stop step) step
        (Slice.Word.first length start step)
      .ok (places.filterMap fun i => n.found? i.toInt)
  | _ => .ok []

section
variable {items : List Value} {start stop step : Option Int64} {location : Location}

theorem Slice.stride_eq (step : Option Int64) : stride step = (step.getD 1).toInt := by
  cases step <;> rfl

theorem Slice.stride_ne_zero (h : step ≠ some 0) : stride step ≠ 0 := by
  cases step with
  | none => decide
  | some i =>
    apply Int64.toInt_ne_zero
    intro hi
    exact h (hi ▸ rfl)

theorem Node.slice_array (hs : Slice.stride step ≠ 0) :
    Node.slice ⟨location, .array items⟩ (start.map Int64.toInt) (stop.map Int64.toInt)
        (step.map Int64.toInt) =
      .ok ((Slice.indices items.length (start.map Int64.toInt) (stop.map Int64.toInt)
        (Slice.stride step)).filterMap (Node.found? ⟨location, .array items⟩)) :=
  if_neg hs

/-- A slice of a list whose length is a word needs no other numbers than words. -/
theorem Node.slice_eq_walked (hlength : items.length < 2 ^ 63) (hstep : step ≠ some 0) :
    Node.slice ⟨location, .array items⟩ (start.map Int64.toInt) (stop.map Int64.toInt)
        (step.map Int64.toInt) =
      Node.walked ⟨location, .array items⟩ start stop step := by
  have hs := Slice.stride_ne_zero hstep
  have hword : step.getD 1 ≠ 0 := by
    intro h
    rw [Slice.stride_eq, h] at hs
    exact hs rfl
  rw [slice_array hs, Slice.stride_eq, Slice.indices_eq_walk hlength start stop hword,
    List.filterMap_map]
  exact (if_neg hword).symm

/-- Where no element is passed over, what is made of them keeps their places. -/
theorem getElem?_filterMap {α β : Type} {f : α → Option β} {as : List α}
    (h : ∀ a ∈ as, (f a).isSome) (k : Nat) : (as.filterMap f)[k]? = as[k]?.bind f := by
  induction as generalizing k with
  | nil => simp
  | cons a rest ih =>
    obtain ⟨b, hb⟩ := Option.isSome_iff_exists.1 (h a (by simp))
    rw [List.filterMap_cons_some hb]
    cases k with
    | zero => simp [hb]
    | succ k => simpa using ih (fun c hc => h c (List.mem_cons_of_mem _ hc)) k

theorem Node.exists_found? {i : Int} (h : 0 ≤ i ∧ i < items.length) :
    ∃ (j : Nat) (v : Value), (j : Int) = i ∧ items[j]? = some v ∧
      Node.found? ⟨location, .array items⟩ i = some ⟨location ++ [.item j], v⟩ := by
  obtain ⟨j, rfl⟩ := Int.eq_ofNat_of_zero_le h.1
  have hj : items[j]? = some items[j] := List.getElem?_eq_getElem (by omega)
  refine ⟨j, items[j], rfl, hj, ?_⟩
  rw [found?, if_neg (by omega)]
  simp only [item?, Int.toNat_natCast, hj, Option.map_some]

/-- The `k`-th node of a slice stands at its `k`-th place, as long as that is before the goal. -/
theorem Node.getElem?_found (items : List Value) (location : Location) (start stop : Option Int)
    {step : Int} (hs : step ≠ 0) (k : Nat) :
    ((Slice.indices items.length start stop step).filterMap
      (Node.found? ⟨location, .array items⟩))[k]? =
        if Slice.Before step (Slice.after items.length step start k)
          (Slice.goal items.length step stop) then
        Node.found? ⟨location, .array items⟩ (Slice.after items.length step start k)
      else none := by
  rw [getElem?_filterMap, Slice.getElem?_indices _ _ _ hs]
  · split <;> rfl
  · intro place hmem
    obtain ⟨j, v, -, -, hfound⟩ := exists_found? (Slice.within_of_mem_indices hs hmem)
    exact Option.isSome_of_eq_some hfound

/-- It has as many nodes as it has places before the goal. -/
theorem Node.lt_length_found_iff (items : List Value) (location : Location)
    (start stop : Option Int) {step : Int} (hs : step ≠ 0) (k : Nat) :
    k < ((Slice.indices items.length start stop step).filterMap
      (Node.found? ⟨location, .array items⟩)).length ↔
        Slice.Before step (Slice.after items.length step start k)
          (Slice.goal items.length step stop) := by
  have place := getElem?_found items location start stop hs k
  constructor
  · intro hk
    by_contra beyond
    rw [if_neg beyond, List.getElem?_eq_none_iff] at place
    omega
  · intro before
    have within := Slice.within_of_before (Int.natCast_nonneg items.length) before
    obtain ⟨j, v, -, -, hfound⟩ := exists_found? within
    rw [if_pos before, hfound] at place
    exact (List.getElem?_eq_some_iff.1 place).1

/-- What a slice finds: as many nodes as it has places before its goal, and at each of them the item
of that place. Words of 64 bits are enough to find them. -/
theorem Segment.select_slice [Pattern.Engine] (env : Environment) (root : Value)
    (location : Location)
    (start stop : Option Int64) (hlength : items.length < 2 ^ 63) (hstep : step ≠ some 0) :
    ∃ nodes, (Segment.slice start stop step).select env root ⟨location, .array items⟩ = .ok nodes ∧
      Node.walked ⟨location, .array items⟩ start stop step = .ok nodes ∧
      (∀ k : Nat, k < nodes.length ↔ Slice.Before (Slice.stride step)
        (Slice.after items.length (Slice.stride step) (start.map Int64.toInt) k)
        (Slice.goal items.length (Slice.stride step) (stop.map Int64.toInt))) ∧
      ∀ (k : Nat) (n : Node), nodes[k]? = some n → ∃ i : Nat,
        (i : Int) = Slice.after items.length (Slice.stride step) (start.map Int64.toInt) k ∧
          items[i]? = some n.value ∧ n.location = location ++ [.item i] := by
  have hs := Slice.stride_ne_zero hstep
  refine ⟨_, Node.slice_array hs, Node.slice_eq_walked hlength hstep ▸ Node.slice_array hs,
    Node.lt_length_found_iff items location _ _ hs, ?_⟩
  intro k n hn
  rw [Node.getElem?_found items location _ _ hs] at hn
  split at hn
  next before =>
    have within := Slice.within_of_before (Int.natCast_nonneg items.length) before
    obtain ⟨j, v, hj, hv, hfound⟩ := Node.exists_found? within
    rw [hfound] at hn
    cases hn
    exact ⟨j, hj, hv, rfl⟩
  · cases hn

end

/-- Backwards from the greatest word to the least, by two: the last item of three and the first. -/
theorem Segment.select_slice_backwards :
    [Value.null, .bool true, .string "x"].length < 2 ^ 63 ∧ some (-2 : Int64) ≠ some 0 ∧
    (Segment.slice (some Int64.maxValue) (some Int64.minValue) (some (-2))).select .standard
      .null ⟨[], .array [.null, .bool true, .string "x"]⟩ =
        .ok [⟨[.item 2], .string "x"⟩, ⟨[.item 0], .null⟩] ∧
    Node.walked ⟨[], .array [.null, .bool true, .string "x"]⟩ (some Int64.maxValue)
      (some Int64.minValue) (some (-2)) =
        .ok [⟨[.item 2], .string "x"⟩, ⟨[.item 0], .null⟩] := by
  have hlength : [Value.null, .bool true, .string "x"].length < 2 ^ 63 := by decide
  have hstep : some (-2 : Int64) ≠ some 0 := by decide
  obtain ⟨nodes, hselect, hwalked, -, -⟩ := Segment.select_slice .standard .null []
    (some Int64.maxValue) (some Int64.minValue) hlength hstep
  have hnodes : (Segment.slice (some Int64.maxValue) (some Int64.minValue) (some (-2))).select
      .standard .null ⟨[], .array [.null, .bool true, .string "x"]⟩ =
        .ok [⟨[.item 2], .string "x"⟩, ⟨[.item 0], .null⟩] := rfl
  have same := Except.ok.inj (hselect.symm.trans hnodes)
  exact ⟨hlength, hstep, hnodes, same ▸ hwalked⟩

end PathQuery
