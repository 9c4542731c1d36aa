import PathQuery.Proofs.Canonical.Lexing

/-! A text ends at its first U+0000, so a canonical text with such a name is cut off within the
name and refused. -/
namespace PathQuery
open Token Lexer

/-- Names that a text can hold. -/
def Segment.Visible [Pattern.Engine] : Segment → Prop
  | .field name => '\x00' ∉ name.toList
  | .union names => ∀ name ∈ names, '\x00' ∉ name.toList
  | _ => True

theorem Segment.Writable.printable [Pattern.Engine] {s : Segment} {rest : List Segment}
    (h : s.Writable rest) (hv : s.Visible) : s.Printable := by
  cases s with
  | field | union => exact hv
  | function => exact h
  | _ => trivial

theorem Segment.Writable.lexable [Pattern.Engine] {s : Segment} {rest : List Segment}
    (h : s.Writable rest) (hv : s.Visible) : s.Lexable rest := by
  refine ⟨h.printable hv, ?_⟩
  rintro rfl
  exact h

/-- The part of a text in front of its first U+0000. -/
def cut (text : List Char) : List Char := text.takeWhile (· ≠ '\x00')

section
variable {front rest : List Char}

theorem cut_append (h : '\x00' ∉ front) (rest : List Char) :
    cut (front ++ rest) = front ++ cut rest :=
  List.takeWhile_append_of_pos fun c hc => by
    simpa using fun h0 : c = '\x00' => h (h0 ▸ hc)

theorem cut_cons {c : Char} (h : c ≠ '\x00') (rest : List Char) : cut (c :: rest) = c :: cut rest :=
  List.takeWhile_cons_of_pos (by simpa using h)

theorem cut_append_of_mem (h : '\x00' ∈ front) (rest : List Char) :
    cut (front ++ rest) = cut front := by
  induction front with
  | nil => simp at h
  | cons c front ih =>
    by_cases hc : c = '\x00'
    · simp [cut, hc]
    · have hfront : '\x00' ∈ front := by
        rcases List.mem_cons.1 h with h | h
        · exact absurd h.symm hc
        · exact h
      rw [List.cons_append, cut_cons hc, cut_cons hc, ih hfront]

theorem mem_flatMap_escapeName {cs : List Char} (h : '\x00' ∈ cs) :
    '\x00' ∈ cs.flatMap escapeName :=
  List.mem_flatMap.2 ⟨'\x00', h, by simp [escapeName]⟩

theorem cut_flatMap_escapeName (cs : List Char) :
    cut (cs.flatMap escapeName) = (cut cs).flatMap escapeName := by
  induction cs with
  | nil => rfl
  | cons c cs ih =>
    by_cases hc : c = '\x00'
    · simp [cut, hc, escapeName]
    · have hescape : '\x00' ∉ escapeName c := fun hm =>
        hc ((escapeName_spelled c).nul_mem hm).2
      rw [List.flatMap_cons, cut_append hescape, ih, cut_cons hc, List.flatMap_cons]

variable (parens : List Nat)

theorem fails_name {name : String} (h : '\x00' ∈ name.toList) (rest : List Char) :
    Fails ⟨.brackets, parens, cut ((quoteName name).toList ++ rest)⟩ := by
  have htext : cut ((quoteName name).toList ++ rest) =
      '\'' :: (cut name.toList).flatMap escapeName := by
    rw [← cut_flatMap_escapeName, ← cut_append_of_mem (mem_flatMap_escapeName h) ('\'' :: rest),
      ← cut_cons (by decide)]
    simp [quoteName]
  rw [htext]
  exact fails_string (.inl rfl) .single (Escape.Spelled.quotable_flatMap escapeName_spelled _)

/-- A list of names is cut off at the first that holds U+0000. -/
theorem fails_names {names : List String} (h : ¬ ∀ name ∈ names, '\x00' ∉ name.toList)
    (rest : List Char) :
    Fails ⟨.brackets, parens, cut ((", ".intercalate (names.map quoteName)).toList ++ rest)⟩ := by
  induction names with
  | nil => exact absurd (by simp) h
  | cons name names ih =>
    have split : ∃ tail, (", ".intercalate ((name :: names).map quoteName)).toList ++ rest =
        (quoteName name).toList ++ tail ∧ (names ≠ [] → tail = ',' :: ' ' ::
          ((", ".intercalate (names.map quoteName)).toList ++ rest)) := by
      cases names with
      | nil => exact ⟨rest, by simp, fun h => absurd rfl h⟩
      | cons other names =>
        exact ⟨',' :: ' ' :: ((", ".intercalate ((other :: names).map quoteName)).toList ++ rest),
          by simp [String.intercalate_cons_cons], fun _ => rfl⟩
    obtain ⟨tail, htext, htail⟩ := split
    rw [htext]
    by_cases hname : '\x00' ∈ name.toList
    · exact fails_name parens hname tail
    · -- This name is read as usual, so the text is cut off within a later one.
      have hmore : ¬ ∀ name ∈ names, '\x00' ∉ name.toList := by
        intro hall
        apply h
        intro other ho
        rcases List.mem_cons.1 ho with rfl | ho
        · exact hname
        · exact hall other ho
      have hne : names ≠ [] := by
        rintro rfl
        exact hmore (by simp)
      rw [cut_append (nul_notMem_quoteName hname), htail hne, cut_cons (by decide),
        cut_cons (by decide)]
      exact ((leads_name name).trans leads_comma).fails (ih hmore)

end

variable [Pattern.Engine]

/-- Names that a text can hold, at every depth. -/
abbrev Predicate.Visible (p : Predicate) : Prop :=
  p.Everywhere (fun s _ => s.Visible) fun _ => True

theorem Segment.lexable_of_visible {s : Segment} (h : s.Within Segment.Writable Predicate.Admitted)
    (hv : s.Within (fun s _ => s.Visible) fun _ => True) :
    s.Within Segment.Lexable Predicate.Admitted :=
  Segment.Within.imp₂ (fun _ _ h hv => h.lexable hv) (fun _ h _ => h) s h hv

theorem Predicate.lexable_of_visible {p : Predicate}
    (h : p.Everywhere Segment.Writable Predicate.Admitted) (hv : p.Visible) :
    p.Everywhere Segment.Lexable Predicate.Admitted :=
  Predicate.Everywhere.imp₂ (fun _ _ h hv => h.lexable hv) (fun _ h _ => h) p h hv

mutual

theorem Segment.fails : (s : Segment) → s.Within Segment.Writable Predicate.Admitted →
    ¬ (s.Visible ∧ s.Within (fun s _ => s.Visible) fun _ => True) →
    ∀ {mode : Mode}, mode.Selects → ∀ parens rest,
    Fails ⟨mode, parens, cut (s.text.toList ++ rest)⟩
  | .field name, _, hv, _, hm, parens, rest => by
    have hname : '\x00' ∈ name.toList := by
      by_contra h0
      exact hv ⟨h0, trivial⟩
    have inside := (leads_openBracket hm).fails (fails_name parens hname (']' :: rest))
    rw [← cut_cons (by decide)] at inside
    simpa [Segment.text] using inside
  | .union names, _, hv, _, hm, parens, rest => by
    have hnames : ¬ ∀ name ∈ names, '\x00' ∉ name.toList := fun h => hv ⟨h, trivial⟩
    have inside := (leads_openBracket hm).fails
      (fails_names parens hnames (']' :: rest))
    rw [← cut_cons (by decide)] at inside
    simpa [Segment.text] using inside
  | .filter p, h, hv, _, hm, parens, rest => by
    have inside := Predicate.fails p h (fun hp => hv ⟨trivial, hp⟩) 1 parens (')' :: ']' :: rest)
    have all := (leads_openBracket hm).fails (leads_question.fails (leads_openParen.fails inside))
    rw [← cut_cons (by decide), ← cut_cons (by decide), ← cut_cons (by decide)] at all
    simpa [Segment.text] using all
  | .wild, _, hv, _, _, _, _ | .recursive, _, hv, _, _, _, _ | .index _, _, hv, _, _, _, _
  | .slice .., _, hv, _, _, _, _ | .function .., _, hv, _, _, _, _ =>
    absurd ⟨trivial, trivial⟩ hv

theorem Predicate.fails : (p : Predicate) → p.Everywhere Segment.Writable Predicate.Admitted →
    ¬ p.Visible → ∀ n parens rest, Fails ⟨.filter, n :: parens, cut (p.text.toList ++ rest)⟩
  | .present path, h, hv, n, parens, rest =>
    Subpath.fails path h.2 (fun hp => hv ⟨trivial, hp⟩) n parens rest
  | .compare path op value, h, hv, n, parens, rest => by
    have path := Subpath.fails path h.2 (fun hp => hv ⟨trivial, hp⟩) n parens
      ((" " ++ op.text ++ " ").toList ++ (value.text.toList ++ rest))
    simpa [Predicate.text] using path
  | .resembles path pattern, h, hv, n, parens, rest => by
    have path := Subpath.fails path h.2 (fun hp => hv ⟨trivial, hp⟩) n parens
      (" =~ ".toList ++ (pattern.text.toList ++ rest))
    simpa [Predicate.text] using path
  | .not p, h, hv, n, parens, rest => by
    have inside := Predicate.fails p h.2 (fun hp => hv ⟨trivial, hp⟩) (n + 1) parens (')' :: rest)
    have all := (leads_not.cons (.blank rfl leads_openParen)).fails inside
    have hnot : '\x00' ∉ "not ".toList := by decide
    rw [← cut_cons (by decide), ← cut_append hnot] at all
    simpa [Predicate.text] using all
  | .logical op p q, h, hv, n, parens, rest => by
    by_cases hp : p.Visible
    · have right := Predicate.fails q h.2.2 (fun hq => hv ⟨trivial, hp, hq⟩) (n + 1) parens
        (')' :: rest)
      have hl := Predicate.lexable_of_visible h.2.1 hp
      have left := Predicate.leads p h.2.1 (n + 1) parens
        (ended_connective op (cut (q.text.toList ++ ')' :: rest)))
      have all := (leads_openParen.cons (left.trans ((leads_connective op).cons
        (.blank rfl (.refl _))))).fails right
      have hfront : '\x00' ∉ '(' :: (p.text.toList ++ (" " ++ op.text ++ " ").toList) := by
        have hop : '\x00' ∉ (" " ++ op.text ++ " ").toList := by cases op <;> decide
        simp only [List.mem_cons, List.mem_append, Predicate.nul_notMem_text p hl, hop, or_false]
        decide
      have htext := cut_append hfront (q.text.toList ++ ')' :: rest)
      simp only [List.cons_append, List.append_assoc] at htext
      rw [← htext] at all
      simpa [Predicate.text] using all
    · have inside := Predicate.fails p h.2.1 hp (n + 1) parens
        ((" " ++ op.text ++ " ").toList ++ (q.text.toList ++ ')' :: rest))
      have all := leads_openParen.fails inside
      rw [← cut_cons (by decide)] at all
      simpa [Predicate.text] using all

theorem Subpath.fails : (path : Subpath) → path.Everywhere Segment.Writable Predicate.Admitted →
    ¬ path.Everywhere (fun s _ => s.Visible) (fun _ => True) → ∀ n parens rest,
    Fails ⟨.filter, n :: parens, cut (path.text.toList ++ rest)⟩
  | .mk anchor segments, h, hv, n, parens, rest => by
    have path := (leads_anchor anchor).fails
      (segments_fail segments h hv (.inl rfl) (n :: parens) rest)
    have hanchor : '\x00' ∉ anchor.text.toList := by cases anchor <;> decide
    rw [← cut_append hanchor] at path
    simpa [Subpath.text] using path

theorem segments_fail : (segments : List Segment) →
    everywhere Segment.Writable Predicate.Admitted segments →
    ¬ everywhere (fun s _ => s.Visible) (fun _ => True) segments →
    ∀ {mode : Mode}, Continues mode segments → ∀ parens rest,
    Fails ⟨mode, parens, cut ((segmentsText segments).toList ++ rest)⟩
  | [], _, hv, _, _, _, _ => absurd trivial hv
  | s :: segments, h, hv, mode, hm, parens, rest => by
    by_cases hs : s.Visible ∧ s.Within (fun s _ => s.Visible) fun _ => True
    · have hmore : ¬ everywhere (fun s _ => s.Visible) (fun _ => True) segments := fun hmore =>
        hv ⟨hs.1, hs.2, hmore⟩
      have hl := h.1.lexable hs.1
      have hw := Segment.lexable_of_visible h.2.1 hs.2
      have hnul := Segment.nul_notMem_text s hl.1 hw
      have htext : (segmentsText (s :: segments)).toList ++ rest =
          s.text.toList ++ ((segmentsText segments).toList ++ rest) := by
        simp [segmentsText]
      rw [htext, cut_append hnul]
      by_cases hr : s = .recursive
      · subst hr
        obtain ⟨next, more, heq, hne⟩ := h.1
        rcases hm with rfl | ⟨-, first, others, hfirst, hfne⟩
        · have descent := leads_doubleDot.fails
            (segments_fail segments h.2.2 hmore (.inr ⟨rfl, next, more, heq, hne⟩) parens rest)
          simpa [Segment.text] using descent
        · exact absurd (List.cons.inj hfirst).1.symm hfne
      · have hselects : mode.Selects := hm.imp id And.left
        exact (Segment.leads s h.1 h.2.1 hr hselects parens _).fails
          (segments_fail segments h.2.2 hmore (.inl rfl) parens rest)
    · have hselects : mode.Selects := hm.imp id And.left
      have first := Segment.fails s h.2.1 hs hselects parens
        ((segmentsText segments).toList ++ rest)
      simpa [segmentsText] using first

end

/-- A canonical text with a name that holds U+0000 is no query. -/
theorem Query.lex_text_of_not_visible {q : Query}
    (h : q.Everywhere Segment.Writable Predicate.Admitted)
    (hv : ¬ q.Everywhere (fun s _ => s.Visible) fun _ => True) {ts : List Token} :
    lex q.text ≠ .ok ts := by
  have path := segments_fail q.segments h hv (.inl rfl) [] []
  have all : Fails ⟨.root, [], cut q.text.toList⟩ := by
    have htext : q.text.toList = '$' :: ((segmentsText q.segments).toList ++ []) := by
      simp [Query.text]
    rw [htext, cut_cons (by decide)]
    exact leads_root.fails path
  exact lex_of_fails all

end PathQuery
