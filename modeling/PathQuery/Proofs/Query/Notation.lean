import PathQuery.Proofs.Query.Grammar

/-! Two notations for one selection. What a dot selects can as well be selected between brackets,
and the grammar gives both the same meaning. -/
namespace PathQuery
open Token Grammar

/-- Not one of the dots that begin a selection. -/
def isUndotted : Kind → Bool
  | .dot | .doubleDot => false
  | _ => true

namespace Grammar

/-- A name or a star, and what stands for it between brackets. -/
inductive Boxed : Kind → Kind → Prop where
  | name {s : String} (h : unescape s = .ok s) : Boxed (.name s) (.string .single s)
  | star : Boxed .star .star

/-- The kinds of tokens, and what becomes of them when any of the selections behind dots are put
between brackets. -/
inductive Bracketed : List Kind → List Kind → Prop where
  | nil : Bracketed [] []
  | keep (k : Kind) {ks ks' : List Kind} (more : Bracketed ks ks') :
      Bracketed (k :: ks) (k :: ks')
  | bare {k k' : Kind} {ks ks' : List Kind} (h : Boxed k k') (more : Bracketed ks ks') :
      Bracketed (.dot :: k :: ks) (.openBracket :: k' :: .closeBracket :: ks')
  | descendant {k k' : Kind} {ks ks' : List Kind} (h : Boxed k k') (more : Bracketed ks ks') :
      Bracketed (.doubleDot :: k :: ks) (.doubleDot :: .openBracket :: k' :: .closeBracket :: ks')
  | call {name : String} {args ks ks' : List Kind} (h : .closeParen ∉ args)
      (more : Bracketed ks ks') :
      Bracketed (.dot :: .function name :: (args ++ .closeParen :: ks))
        (.openBracket :: .function name :: (args ++ .closeParen :: .closeBracket :: ks'))

theorem Bracketed.of_undotted {k : Kind} {ks out : List Kind} (hk : isUndotted k = true)
    (h : Bracketed (k :: ks) out) : ∃ ks', out = k :: ks' ∧ Bracketed ks ks' := by
  cases h with
  | keep _ more => exact ⟨_, rfl, more⟩
  | bare | descendant | call => cases hk

theorem Bracketed.of_dot {ks out : List Kind} (h : Bracketed (.dot :: ks) out) :
    (∃ ks', out = .dot :: ks' ∧ Bracketed ks ks') ∨
      (∃ k k' rest rest', ks = k :: rest ∧ Boxed k k' ∧
        out = .openBracket :: k' :: .closeBracket :: rest' ∧ Bracketed rest rest') ∨
      ∃ name args rest rest', ks = .function name :: (args ++ .closeParen :: rest) ∧
        .closeParen ∉ args ∧
        out = .openBracket :: .function name :: (args ++ .closeParen :: .closeBracket :: rest') ∧
        Bracketed rest rest' := by
  cases h with
  | keep _ more => exact .inl ⟨_, rfl, more⟩
  | bare hbox more => exact .inr (.inl ⟨_, _, _, _, rfl, hbox, rfl, more⟩)
  | call hargs more => exact .inr (.inr ⟨_, _, _, _, rfl, hargs, rfl, more⟩)

theorem Bracketed.of_doubleDot {ks out : List Kind} (h : Bracketed (.doubleDot :: ks) out) :
    (∃ ks', out = .doubleDot :: ks' ∧ Bracketed ks ks') ∨
      ∃ k k' rest rest', ks = k :: rest ∧ Boxed k k' ∧
        out = .doubleDot :: .openBracket :: k' :: .closeBracket :: rest' ∧
        Bracketed rest rest' := by
  cases h with
  | keep _ more => exact .inl ⟨_, rfl, more⟩
  | descendant hbox more => exact .inr ⟨_, _, _, _, rfl, hbox, rfl, more⟩

/-- Whatever is put between brackets in kinds that begin with these, they become kinds with the
property. -/
def Keeps (Meant : List Kind → Prop) (ks : List Kind) : Prop :=
  ∀ tail out, Bracketed (ks ++ tail) out →
    ∃ ks' tail', out = ks' ++ tail' ∧ Meant ks' ∧ Bracketed tail tail'

namespace Keeps
variable {Meant First Then : List Kind → Prop} {k : Kind} {ks ks' : List Kind}

theorem nil (h : Meant []) : Keeps Meant [] := fun _ out hb => ⟨[], out, rfl, h, hb⟩

/-- What is kept is kept behind a front that is there already. -/
theorem behind (front : List Kind) {tail out : List Kind} (h : Keeps Then ks)
    (himp : ∀ back, Then back → Meant (front ++ back)) (hb : Bracketed (ks ++ tail) out) :
    ∃ ks' tail', front ++ out = ks' ++ tail' ∧ Meant ks' ∧ Bracketed tail tail' := by
  obtain ⟨back, tail', rfl, hthen, htail⟩ := h tail out hb
  exact ⟨front ++ back, tail', (List.append_assoc ..).symm, himp back hthen, htail⟩

theorem cons (hk : isUndotted k = true) (h : Keeps (fun ks' => Meant (k :: ks')) ks) :
    Keeps Meant (k :: ks) := by
  intro tail out hb
  obtain ⟨out, rfl, more⟩ := hb.of_undotted hk
  exact h.behind [k] (fun _ => id) more

/-- The last of the kinds. -/
theorem last (hk : isUndotted k = true) (h : Meant [k]) : Keeps Meant [k] := .cons hk (.nil h)

theorem append (h : Keeps First ks)
    (h' : ∀ front, First front → Keeps (fun back => Meant (front ++ back)) ks') :
    Keeps Meant (ks ++ ks') := by
  intro tail out hb
  rw [List.append_assoc] at hb
  obtain ⟨front, out, rfl, hfirst, hback⟩ := h _ _ hb
  exact (h' front hfirst).behind front (fun _ => id) hback

theorem imp {Meant' : List Kind → Prop} (h : Keeps Meant ks)
    (himp : ∀ ks', Meant ks' → Meant' ks') : Keeps Meant' ks := by
  intro tail out hb
  exact h.behind [] himp hb

/-- Where no dots are, nothing changes. -/
theorem undotted (hks : ∀ k ∈ ks, isUndotted k = true) (h : Meant ks) : Keeps Meant ks := by
  induction ks generalizing Meant with
  | nil => exact .nil h
  | cons k ks ih =>
    obtain ⟨hk, hks⟩ := List.forall_mem_cons.1 hks
    exact .cons hk (ih hks h)

end Keeps

/-! Kinds without dots -/

section
variable {env : Environment} {n : Nat} {ks : List Kind} {k : Kind}

theorem bound_undotted (b : Option Int64) : ∀ k ∈ bound b, isUndotted k = true := by
  cases b <;> simp [bound, isUndotted]

theorem slice_undotted {start stop step : Option Int64} (h : Slice ks start stop step) :
    ∀ k ∈ ks, isUndotted k = true := by
  cases h with
  | two =>
    rw [List.forall_mem_append, List.forall_mem_cons]
    exact ⟨bound_undotted _, rfl, bound_undotted _⟩
  | three =>
    rw [List.forall_mem_append, List.forall_mem_cons, List.forall_mem_append, List.forall_mem_cons]
    exact ⟨bound_undotted _, rfl, bound_undotted _, rfl, bound_undotted _⟩

theorem literal_undotted {v : Value} (h : Literal k v) :
    isUndotted k = true ∧ k ≠ .closeParen := by
  cases h <;> simp [isUndotted]

theorem quoted_undotted {name : String} (h : Quoted k name) : isUndotted k = true := by
  cases h
  rfl

theorem listed_undotted {α : Type} {Item : Kind → α → Prop} {as : List α}
    (item : ∀ k a, Item k a → isUndotted k = true) (h : Listed Item ks as) :
    ∀ k ∈ ks, isUndotted k = true := by
  induction h with
  | one h => exact List.forall_mem_singleton.2 (item _ _ h)
  | cons h _ ih => exact List.forall_mem_cons.2 ⟨item _ _ h, List.forall_mem_cons.2 ⟨rfl, ih⟩⟩

theorem listed_closeParen {args : List Value} (h : Listed Literal ks args) :
    .closeParen ∉ ks := by
  induction h with
  | one h => simpa using (literal_undotted h).2.symm
  | cons h _ ih => simp [(literal_undotted h).2.symm, ih]

variable [Pattern.Engine] {s : Segment}

theorem call_undotted (h : Call env ks s) : ∀ k ∈ ks, isUndotted k = true := by
  cases h with
  | empty => simp [isUndotted]
  | args items =>
    have inside := listed_undotted (fun _ _ h => (literal_undotted h).1) items
    rw [List.forall_mem_cons, List.forall_mem_cons, List.forall_mem_append]
    exact ⟨rfl, rfl, inside, List.forall_mem_singleton.2 rfl⟩

/-- A call closes with its only closing parenthesis. -/
theorem exists_of_call (h : Call env ks s) :
    ∃ name inside, ks = .function name :: (inside ++ [.closeParen]) ∧ .closeParen ∉ inside := by
  cases h with
  | @empty name => exact ⟨name, [.openParen], rfl, by simp⟩
  | @args name _ ks _ items _ =>
    exact ⟨name, .openParen :: ks, rfl, by simp [listed_closeParen items]⟩

omit [Pattern.Engine] in
theorem place_undotted (a : Anchor) : isUndotted (place a) = true := by
  cases a <;> rfl

/-! Selections in either notation -/

theorem selection_of_boxed {k' : Kind} (h : Bare k s) (hb : Boxed k k') :
    Selection env n [.openBracket, k', .closeBracket] s := by
  cases hb with
  | name hs =>
    cases h
    exact .name (.mk hs)
  | star =>
    cases h
    exact .wild

variable {more : List Segment} {ks' : List Kind}

theorem bare_undotted (h : Bare k s) : isUndotted k = true := by
  cases h <;> rfl

/-- A name or a star, selected by a dot or between brackets. -/
theorem bare_keeps (h : Bare k s) (rest : Keeps (fun ks' => Path env n ks' more) ks') :
    Keeps (fun ks' => Path env n ks' (s :: more)) (.dot :: k :: ks') := by
  intro tail out hb
  rcases hb.of_dot with ⟨out, rfl, hkeep⟩ | ⟨_, k', _, _, heq, hbox, rfl, hrest⟩ |
    ⟨_, _, _, _, heq, -⟩
  · obtain ⟨out, rfl, hrest⟩ := hkeep.of_undotted (bare_undotted h)
    exact rest.behind [.dot, k] (fun _ => .shorthand (.bare h)) hrest
  · obtain ⟨rfl, rfl⟩ := List.cons.inj heq
    exact rest.behind [.openBracket, k', .closeBracket]
      (fun _ => .selection (selection_of_boxed h hbox)) hrest
  · obtain ⟨rfl, -⟩ := List.cons.inj heq
    cases h

omit [Pattern.Engine] in
/-- Two lists split where the same element comes first in both. -/
theorem append_cons_inj {α : Type} {a : α} {front front' back back' : List α} (h : a ∉ front)
    (h' : a ∉ front') (heq : front ++ a :: back = front' ++ a :: back') :
    front = front' ∧ back = back' := by
  rcases List.append_eq_append_iff.1 heq with ⟨more, rfl, hmore⟩ | ⟨more, rfl, hmore⟩
  all_goals
    cases more with
    | nil => simpa [eq_comm] using hmore
    | cons b more =>
      obtain ⟨rfl, -⟩ := List.cons.inj hmore
      simp at h h'

/-- A call behind a dot or between brackets. -/
theorem call_keeps (h : Call env ks s) (rest : Keeps (fun ks' => Path env n ks' more) ks') :
    Keeps (fun ks' => Path env n ks' (s :: more)) (.dot :: (ks ++ ks')) := by
  intro tail out hb
  rw [List.cons_append, List.append_assoc] at hb
  rcases hb.of_dot with ⟨out, rfl, hkeep⟩ | ⟨k, _, _, _, heq, hbox, -⟩ |
    ⟨name', args, _, _, heq, hargs, rfl, hrest⟩
  · have plain : Keeps (fun ks' => Call env ks' s) ks := .undotted (call_undotted h) h
    obtain ⟨front, out, rfl, hcall, hrest⟩ := plain _ _ hkeep
    exact rest.behind (.dot :: front) (fun _ => .shorthand (.call hcall)) hrest
  · obtain ⟨name, inside, rfl, -⟩ := exists_of_call h
    obtain ⟨rfl, -⟩ := List.cons.inj heq
    cases hbox
  · obtain ⟨name, inside, rfl, hclose⟩ := exists_of_call h
    rw [List.cons_append, List.append_assoc, List.singleton_append] at heq
    obtain ⟨hname, hinside⟩ := List.cons.inj heq
    obtain rfl := Kind.function.inj hname
    obtain ⟨rfl, rfl⟩ := append_cons_inj hclose hargs hinside
    have hsplit (out : List Kind) :
        .openBracket :: .function name :: (inside ++ .closeParen :: .closeBracket :: out) =
          .openBracket :: (.function name :: (inside ++ [.closeParen]) ++ [.closeBracket]) ++ out :=
      by simp
    rw [hsplit]
    exact rest.behind _ (fun _ => .selection (.call h)) hrest

/-- What is between brackets behind two dots stays there. -/
theorem selected_keeps (h : Keeps (fun ks' => Selection env n ks' s) ks)
    (hks : Selection env n ks s) (rest : Keeps (fun ks' => Path env n ks' more) ks') :
    Keeps (fun ks' => Path env n ks' (.recursive :: s :: more)) (.doubleDot :: (ks ++ ks')) := by
  intro tail out hb
  rw [List.cons_append, List.append_assoc] at hb
  rcases hb.of_doubleDot with ⟨out, rfl, hkeep⟩ | ⟨k, k', _, _, heq, hbox, -⟩
  · obtain ⟨front, out, rfl, hs, hrest⟩ := h _ _ hkeep
    exact rest.behind (.doubleDot :: front) (fun _ => .descendant (.selection hs)) hrest
  · obtain ⟨inside, rfl⟩ : ∃ inside, ks = .openBracket :: inside := by
      cases hks <;> exact ⟨_, rfl⟩
    obtain ⟨rfl, -⟩ := List.cons.inj heq
    cases hbox

/-- A name or a star selected by two dots, in brackets or not. -/
theorem descendant_keeps (h : Bare k s) (rest : Keeps (fun ks' => Path env n ks' more) ks') :
    Keeps (fun ks' => Path env n ks' (.recursive :: s :: more)) (.doubleDot :: k :: ks') := by
  intro tail out hb
  rcases hb.of_doubleDot with ⟨out, rfl, hkeep⟩ | ⟨_, k', _, _, heq, hbox, rfl, hrest⟩
  · obtain ⟨out, rfl, hrest⟩ := hkeep.of_undotted (bare_undotted h)
    exact rest.behind [.doubleDot, k] (fun _ => .descendant (.bare h)) hrest
  · obtain ⟨rfl, rfl⟩ := List.cons.inj heq
    exact rest.behind [.doubleDot, .openBracket, k', .closeBracket]
      (fun _ => .descendant (.selection (selection_of_boxed h hbox))) hrest

end

variable [Pattern.Engine] {env : Environment}

mutual

theorem selection_keeps {n : Nat} {ks : List Kind} {s : Segment} :
    Selection env n ks s → Keeps (fun ks' => Selection env n ks' s) ks
  | .wild => .undotted (by simp [isUndotted]) .wild
  | .index i => .undotted (by simp [isUndotted]) (.index i)
  | .slice h =>
    .cons rfl (.append (.undotted (slice_undotted h) h) fun _ h => .last rfl (.slice h))
  | .name h => .cons rfl (.cons (quoted_undotted h) (.last rfl (.name h)))
  | .names h several =>
    .cons rfl (.append (.undotted (listed_undotted (fun _ _ => quoted_undotted) h) h) fun _ h =>
      .last rfl (.names h several))
  | .call h =>
    .cons rfl (.append (.undotted (call_undotted h) h) fun _ h => .last rfl (.call h))
  | .filter h =>
    .cons rfl (.cons rfl (.append (disjunction_keeps h) fun _ h => .last rfl (.filter h)))

theorem path_keeps {n : Nat} {ks : List Kind} {segments : List Segment} :
    Path env n ks segments → Keeps (fun ks' => Path env n ks' segments) ks
  | .nil => .nil .nil
  | .descendant (.bare h) rest => descendant_keeps h (path_keeps rest)
  | .descendant (.selection h) rest =>
    selected_keeps (selection_keeps h) h (path_keeps rest)
  | .shorthand (.bare h) rest => bare_keeps h (path_keeps rest)
  | .shorthand (.call h) rest => call_keeps h (path_keeps rest)
  | .selection h rest => .append (selection_keeps h) fun _ h =>
    (path_keeps rest).imp fun _ => .selection h

theorem disjunction_keeps {n : Nat} {ks : List Kind} {p : Predicate} :
    Disjunction env n ks p → Keeps (fun ks' => Disjunction env n ks' p) ks
  | .one h => (conjunction_keeps h).imp fun _ => .one
  | .or left right => .append (disjunction_keeps left) fun _ hl =>
    .cons rfl ((conjunction_keeps right).imp fun _ => .or hl)

theorem conjunction_keeps {n : Nat} {ks : List Kind} {p : Predicate} :
    Conjunction env n ks p → Keeps (fun ks' => Conjunction env n ks' p) ks
  | .one h => (atom_keeps h).imp fun _ => .one
  | .and left right => .append (conjunction_keeps left) fun _ hl =>
    .cons rfl ((atom_keeps right).imp fun _ => .and hl)

theorem atom_keeps {n : Nat} {ks : List Kind} {p : Predicate} :
    Atom env n ks p → Keeps (fun ks' => Atom env n ks' p) ks
  | .paren h => .cons rfl (.append (disjunction_keeps h) fun _ h => .last rfl (.paren h))
  | .not h => .cons rfl ((atom_keeps h).imp fun _ => .not)
  | .present a h => .cons (place_undotted a) ((path_keeps h).imp fun _ => .present a)
  | .compare a op h value =>
    .cons (place_undotted a) (.append (path_keeps h) fun _ h =>
      .cons rfl (.last (literal_undotted value).1 (.compare a op h value)))
  | .resembles a h compiles =>
    .cons (place_undotted a) (.append (path_keeps h) fun _ h =>
      .cons rfl (.last rfl (.resembles a h compiles)))
  | .flipped a op value h =>
    .cons (literal_undotted value).1 (.cons rfl (.cons (place_undotted a)
      ((path_keeps h).imp fun _ => .flipped a op value)))

end

/-- What a query means does not depend on the notation. -/
theorem text_keeps {ks : List Kind} {q : Query} (h : Text env ks q) :
    Keeps (fun ks' => Text env ks' q) ks := by
  obtain ⟨h⟩ := h
  exact .cons rfl ((path_keeps h).imp fun _ => .root)

end Grammar

end PathQuery
