import PathQuery.Function.Standard
import PathQuery.Proofs.Canonical.RoundTrip
import PathQuery.Proofs.Node.Location

/-! The path of a node, read as a query: without backslashes and U+0000 in its names it is a
canonical text, and finds that node and no other. -/
namespace PathQuery

namespace Step

/-- The segment that takes a step. -/
def segment [Pattern.Engine] : Step → Segment
  | item i => .index (.ofInt i)
  | member name => .field name

/-- An index of 64 bits, as those of all arrays are. -/
def Fits : Step → Prop
  | item i => i < 2 ^ 63
  | member _ => True

/-- A name without this character. -/
def Lacks (c : Char) : Step → Prop
  | item _ => True
  | member name => c ∉ name.toList

instance (c : Char) : DecidablePred (Lacks c)
  | item _ => inferInstanceAs (Decidable True)
  | member name => inferInstanceAs (Decidable (c ∉ name.toList))

variable {s : Step}

theorem toInt_ofInt {i : Nat} (h : i < 2 ^ 63) : (Int64.ofInt i).toInt = i :=
  Int64.toInt_ofInt_of_le (by omega) (by omega)

theorem escape_eq {c : Char} (h : c ≠ '\\') : text.escape c = escapeName c := by
  unfold text.escape escapeName
  split <;> simp_all

/-- A path spells its steps as a query does, but for backslashes. -/
theorem text_segment [Pattern.Engine] (hf : s.Fits) (hb : s.Lacks '\\') :
    s.segment.text = s.text := by
  cases s with
  | item i =>
    rw [segment, Segment.text, indexText, toInt_ofInt hf]
    rfl
  | member name =>
    have hescape : name.toList.flatMap escapeName = name.toList.flatMap text.escape :=
      List.flatMap_congr fun c hc => (escape_eq fun h => hb (h ▸ hc)).symm
    apply String.toList_inj.1
    simp [segment, Segment.text, quoteName, hescape, text]

theorem select_segment [Pattern.Engine] {env : Environment} {root : Value} {n : Node} {v : Value}
    (hf : s.Fits) (h : n.value.step? s = some v) :
    s.segment.select env root n = .ok [⟨n.location ++ [s], v⟩] := by
  obtain ⟨location, value⟩ := n
  cases s with
  | item i =>
    cases value with
    | array items =>
      have hi : items[i]? = some v := h
      have hneg : ¬ ((i : Int) < 0) := by omega
      simp [segment, Segment.select, Node.itemAt?, Node.item?, toInt_ofInt hf, hneg, hi]
    | _ => simp [Value.step?] at h
  | member name =>
    cases value with
    | object members =>
      have hm : Members.get? members name = some v := h
      simp [segment, Segment.select, Node.member?, hm]
    | _ => simp [Value.step?] at h

end Step

namespace Location
variable [Pattern.Engine] {l : Location} {env : Environment}

/-- The query that takes the steps of a location. -/
def query (l : Location) : Query := ⟨l.map Step.segment⟩

theorem text_query (hf : ∀ s ∈ l, s.Fits) (hb : ∀ s ∈ l, s.Lacks '\\') :
    (query l).text = text l := by
  have h : segmentsText (l.map Step.segment) = String.join (l.map Step.text) := by
    induction l with
    | nil => rfl
    | cons s l ih =>
      have hs := Step.text_segment (hf s (by simp)) (hb s (by simp))
      have hl := ih (fun t ht => hf t (by simp [ht])) fun t ht => hb t (by simp [ht])
      rw [List.map_cons, segmentsText, hs, hl, List.map_cons, String.join_cons]
  rw [Query.text, query, h, text]

theorem everywhere_query {S : Segment → List Segment → Prop} {P : Predicate → Prop}
    (h : ∀ s ∈ l, ∀ rest, S s.segment rest) : (query l).Everywhere S P := by
  unfold query Query.Everywhere
  induction l with
  | nil => trivial
  | cons s l ih =>
    refine ⟨h s (by simp) _, ?_, ih fun t ht => h t (by simp [ht])⟩
    cases s <;> trivial

theorem derivable_query (h : ∀ s ∈ l, s.Lacks '\x00') : (query l).Derivable env := by
  apply everywhere_query
  intro s hs rest
  have := h s hs
  cases s with
  | item => exact ⟨trivial, trivial⟩
  | member => exact ⟨trivial, this⟩

theorem nesting_query (l : Location) : (query l).nesting = 0 := by
  unfold query Query.nesting
  induction l with
  | nil => rfl
  | cons s l ih =>
    rw [List.map_cons, segmentsNesting, ih]
    cases s <;> rfl

theorem reread_query (l : Location) : (query l).reread = query l := by
  unfold query Query.reread
  congr 1
  induction l with
  | nil => rfl
  | cons s l ih =>
    rw [List.map_cons, rereadSegments, ih]
    cases s <;> rfl

/-- Without backslashes and U+0000 in its names, a path is parsed into its steps. -/
theorem parse_text (hf : ∀ s ∈ l, s.Fits) (hb : ∀ s ∈ l, s.Lacks '\\')
    (h0 : ∀ s ∈ l, s.Lacks '\x00') : Query.parse env (text l) = .ok (query l) := by
  have derivable : (query l).Derivable env := derivable_query h0
  have h := Query.parse_text derivable (by rw [nesting_query]; decide)
  rwa [text_query hf hb, reread_query] at h

/-- The steps of a location lead to what stands there, and to nothing else. -/
theorem resolve_query {root : Value} {n : Node} {v : Value} (hf : ∀ s ∈ l, s.Fits)
    (h : n.value.at? l = some v) :
    resolve env root (l.map Step.segment) [n] = .ok [⟨n.location ++ l, v⟩] := by
  induction l generalizing n with
  | nil =>
    cases h
    simp [resolve]
  | cons s l ih =>
    obtain ⟨w, hw, h⟩ := Option.bind_eq_some_iff.1 h
    have hs : s.segment.select env root n = .ok [⟨n.location ++ [s], w⟩] :=
      Step.select_segment (hf s (by simp)) hw
    have hl := @ih ⟨n.location ++ [s], w⟩ (fun t ht => hf t (by simp [ht])) h
    simp only [List.map_cons, resolve, collect, hs, bind, Except.bind, pure, Except.pure,
      List.append_nil, hl]
    simp

end Location

end PathQuery
