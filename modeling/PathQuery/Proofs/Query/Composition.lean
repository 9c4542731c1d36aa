import PathQuery.Proofs.Node.Relocation
import PathQuery.Proofs.Token.Shape

/-! Segments that are applied to all nodes at once find what they find from each node on its own. -/
namespace PathQuery

section
variable {α β γ ε : Type} {f f' : α → Except ε (List β)} {g : β → Except ε (List γ)}
  {as as' : List α} {out : List β}

/-- What is collected is the results for the elements, all of which succeed, one behind the
other. -/
theorem collect_eq_ok_iff :
    collect f as = .ok out ↔
      ∃ parts : List (List β), as.map f = parts.map .ok ∧ out = parts.flatten := by
  induction as generalizing out with
  | nil => simp [collect, eq_comm]
  | cons a rest ih =>
    simp only [collect, bind_eq_ok, pure, Except.pure, Except.ok.injEq]
    constructor
    · rintro ⟨part, hpart, more, hmore, rfl⟩
      obtain ⟨parts, hparts, rfl⟩ := ih.1 hmore
      exact ⟨part :: parts, by simp [hpart, hparts], rfl⟩
    · rintro ⟨parts, hparts, rfl⟩
      obtain ⟨part, parts, rfl, hpart, hrest⟩ := List.map_eq_cons_iff.1 hparts.symm
      exact ⟨part, hpart.symm, parts.flatten, ih.2 ⟨parts, hrest.symm, rfl⟩, rfl⟩

theorem collect_singleton (as : List α) :
    collect (fun a => (.ok [a] : Except ε (List α))) as = .ok as := by
  induction as with
  | nil => rfl
  | cons a rest ih =>
    rw [collect, ih]
    rfl

theorem collect_append :
    collect f (as ++ as') = .ok out ↔
      ∃ front back, collect f as = .ok front ∧ collect f as' = .ok back ∧ out = front ++ back := by
  induction as generalizing out with
  | nil => simp [collect]
  | cons a rest ih =>
    simp only [List.cons_append, collect, bind_eq_ok, pure, Except.pure, Except.ok.injEq]
    constructor
    · rintro ⟨part, hpart, more, hmore, rfl⟩
      obtain ⟨front, back, hfront, hback, rfl⟩ := ih.1 hmore
      exact ⟨part ++ front, back, ⟨part, hpart, front, hfront, rfl⟩, hback,
        (List.append_assoc ..).symm⟩
    · rintro ⟨_, back, ⟨part, hpart, front, hfront, rfl⟩, hback, rfl⟩
      exact ⟨part, hpart, front ++ back, ih.2 ⟨front, back, hfront, hback, rfl⟩,
        (List.append_assoc ..).symm⟩

theorem collect_congr (h : ∀ a out, f a = .ok out ↔ f' a = .ok out) :
    collect f as = .ok out ↔ collect f' as = .ok out := by
  induction as generalizing out with
  | nil => rfl
  | cons a rest ih => simp only [collect, bind_eq_ok, h, ih]

/-- Two stages, the second of which waits for the whole first, and both for each element in turn.
They may fail for different elements, but they succeed alike. -/
theorem collect_collect {out : List γ} :
    collect f as >>= collect g = .ok out ↔ collect (fun a => f a >>= collect g) as = .ok out := by
  induction as generalizing out with
  | nil => rfl
  | cons a rest ih =>
    simp only [bind_eq_ok, collect, pure, Except.pure, Except.ok.injEq] at ih ⊢
    constructor
    · rintro ⟨_, ⟨part, hpart, more, hmore, rfl⟩, hout⟩
      obtain ⟨front, back, hfront, hback, rfl⟩ := collect_append.1 hout
      exact ⟨front, ⟨part, hpart, hfront⟩, back, ih.1 ⟨more, hmore, hback⟩, rfl⟩
    · rintro ⟨front, ⟨part, hpart, hfront⟩, back, hback, rfl⟩
      obtain ⟨more, hmore, hback⟩ := ih.2 hback
      exact ⟨part ++ more, ⟨part, hpart, more, hmore, rfl⟩,
        collect_append.2 ⟨front, back, hfront, hback, rfl⟩⟩

end

section
variable [Pattern.Engine] (env : Environment) (root : Value)

/-- Segments find from many nodes what they find from each of them. -/
theorem resolve_eq_ok_iff_collect (segments : List Segment) {nodes found : List Node} :
    resolve env root segments nodes = .ok found ↔
      collect (fun n => resolve env root segments [n]) nodes = .ok found := by
  induction segments generalizing nodes found with
  | nil =>
    simp only [resolve]
    rw [collect_singleton]
  | cons s rest ih =>
    have one (n : Node) (out : List Node) : resolve env root (s :: rest) [n] = .ok out ↔
        s.select env root n >>= collect (fun m => resolve env root rest [m]) = .ok out := by
      simp only [resolve, collect, bind_eq_ok, pure, Except.pure, Except.ok.injEq, ih]
      simp
    rw [collect_congr one, ← collect_collect, resolve, bind_eq_ok, bind_eq_ok]
    exact exists_congr fun mid => and_congr_right fun _ => ih

theorem resolve_append_eq_ok_iff (first more : List Segment) {n : Node} {found : List Node} :
    resolve env root (first ++ more) [n] = .ok found ↔
      ∃ (mid : List Node) (parts : List (List Node)), resolve env root first [n] = .ok mid ∧
        mid.map (fun m => resolve env root more [m]) = parts.map .ok ∧ found = parts.flatten := by
  rw [resolve_append, bind_eq_ok]
  constructor
  · rintro ⟨mid, hmid, hfound⟩
    have hcollect := (resolve_eq_ok_iff_collect env root more).1 hfound
    obtain ⟨parts, hparts, rfl⟩ := collect_eq_ok_iff.1 hcollect
    exact ⟨mid, parts, hmid, hparts, rfl⟩
  · rintro ⟨mid, parts, hmid, hparts, rfl⟩
    refine ⟨mid, hmid, (resolve_eq_ok_iff_collect env root more).2 ?_⟩
    exact collect_eq_ok_iff.2 ⟨parts, hparts, rfl⟩

/-- Segments that follow others are applied to each node that these find, and what they find is put
together in the order of the nodes. Where a node stands does not matter to what is found below
it. -/
theorem resolve_nodewise (first more segments : List Segment) (n : Node) (location : Location)
    (v : Value) :
    (∀ found, resolve env root (first ++ more) [n] = .ok found ↔
      ∃ (mid : List Node) (parts : List (List Node)), resolve env root first [n] = .ok mid ∧
        mid.map (fun m => resolve env root more [m]) = parts.map .ok ∧ found = parts.flatten) ∧
    resolve env root segments [⟨location, v⟩] =
      (resolve env root segments [.ofRoot v]).map (List.map (Node.below location)) := by
  constructor
  · intro found
    exact resolve_append_eq_ok_iff env root first more
  · exact resolve_singleton env root segments ⟨location, v⟩

end

end PathQuery
