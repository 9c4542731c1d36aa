import PathQuery.Proofs.Canonical.Limits
import PathQuery.Proofs.Node.Misread
import PathQuery.Proofs.Node.Relocation

/-! Which nodes their own paths find: those with neither a backslash nor U+0000 in the names that
lead to them. -/
namespace PathQuery
open Token Grammar

namespace Parser
variable [Pattern.Engine] {env : Environment} {stop : Position} {used ts rest : List Token}
  {n : Nat}
  {path : List Segment}

/-- The segments that the parser reads off tokens, `n` levels deep. -/
def Reaps (env : Environment) (n : Nat) (stop : Position) (ts : List Token)
    (path : List Segment) : Prop :=
  ∃ r, segments env (level env n) stop ts = .ok r ∧ r.1.1 = path

/-- What begins with a selection goes on behind it. -/
theorem Reaps.selection {s : Segment} (h : Reaps env n stop (used ++ rest) path)
    (hs : Selection env n (used.map Token.kind) s) :
    ∃ more, path = s :: more ∧ Reaps env n stop rest more := by
  obtain ⟨o, tail, rfl, ho, hreads⟩ := brackets_complete (level_complete env n) hs rfl
  obtain ⟨hl, hs⟩ := hreads stop rest
  obtain ⟨r, h, rfl⟩ := h
  unfold segments at h
  simp only [List.cons_append, ho, hs, bind_eq_ok, Except.ok.injEq] at h
  obtain ⟨_, rfl, r', hr', h⟩ := h
  cases h
  exact ⟨_, rfl, r', hr', rfl⟩

/-- A path that begins with a quoted name is only accepted if the name can be read. -/
theorem Reaps.exists_name {o t : Token} {quote : Quote} {raw : String}
    (h : Reaps env n stop (o :: t :: rest) path) (ho : o.kind = .openBracket)
    (ht : t.kind = .string quote raw) : ∃ name, unescape raw = .ok name := by
  obtain ⟨r, h, -⟩ := h
  unfold segments at h
  simp only [ho, bind_eq_ok] at h
  obtain ⟨s, hs, -⟩ := h
  unfold brackets at hs
  simp only [ht, bind_eq_ok] at hs
  obtain ⟨found, hn, -⟩ := hs
  unfold names at hn
  simp only [ht, bind_eq_ok, locate_eq_ok] at hn
  obtain ⟨name, hname, -⟩ := hn
  exact ⟨name, hname⟩

/-- The tokens of steps are parsed into them. -/
theorem Reaps.steps {l : Location} (h : Reaps env n stop (used ++ rest) path)
    (hu : used.map Token.kind = segmentsKinds (l.map Step.segment)) :
    ∃ more, path = l.map Step.segment ++ more ∧ Reaps env n stop rest more := by
  induction l generalizing used path with
  | nil =>
    obtain rfl := List.map_eq_nil_iff.1 hu
    exact ⟨path, rfl, h⟩
  | cons s l ih =>
    obtain ⟨first, used, rfl, hfirst, hu⟩ := List.map_eq_append_iff.1 hu
    have hs : Selection env n (first.map Token.kind) s.segment := by
      rw [hfirst]
      cases s with
      | item i => exact .index _
      | member name => exact .name (quoted_nameKind name)
    rw [List.append_assoc] at h
    obtain ⟨behind, rfl, hbehind⟩ := h.selection hs
    obtain ⟨more, rfl, hmore⟩ := ih hbehind hu
    exact ⟨more, rfl, hmore⟩

end Parser

theorem Query.reaps_of_ofTokens [Pattern.Engine] {env : Environment} {ts : List Token} {q : Query}
    (h : Query.ofTokens env ts = .ok q) :
    ∃ t rest stop, ts = t :: rest ∧ Parser.Reaps env Parser.maxDepth stop rest q.segments := by
  simp only [ofTokens, bind_eq_ok] at h
  obtain ⟨root, hr, ⟨path, hl⟩, hp, h⟩ := h
  obtain ⟨t, hts, -⟩ := Parser.expect_sound hr
  refine ⟨t, root.rest, _, hts, _, hp, ?_⟩
  dsimp only at h
  split at h
  · cases h
    rfl
  · simp at h

namespace Location
variable [Pattern.Engine] {env : Environment} {pre post l : Location} {name : String} {q : Query}

/-- The first name with a backslash makes a path, if it is one, lead elsewhere from there. -/
theorem exists_segments_of_parse (hf : ∀ s ∈ pre, s.Fits) (hb : ∀ s ∈ pre, s.Lacks '\\')
    (h0 : ∀ s ∈ pre ++ .member name :: post, s.Lacks '\x00') (hname : '\\' ∈ name.toList)
    (h : Query.parse env (text (pre ++ .member name :: post)) = .ok q) :
    ∃ other more, other ≠ name ∧ q.segments = pre.map Step.segment ++ .field other :: more := by
  simp only [Query.parse, bind_eq_ok] at h
  obtain ⟨ts, hl, h⟩ := h
  obtain ⟨quotable, more, hkinds⟩ := kinds_of_lex hf hb h0 hl
  obtain ⟨t, rest, stop, rfl, hreaps⟩ := Query.reaps_of_ofTokens h
  obtain ⟨used, behind, rfl, hused, hbehind⟩ :=
    List.map_eq_append_iff.1 (List.cons.inj hkinds).2
  obtain ⟨path, hpath, hreaps⟩ := hreaps.steps hused
  obtain ⟨o, behind, rfl, ho, hbehind⟩ := List.map_eq_cons_iff.1 hbehind
  obtain ⟨u, behind, rfl, hu, hbehind⟩ := List.map_eq_cons_iff.1 hbehind
  obtain ⟨c, behind, rfl, hc, -⟩ := List.map_eq_cons_iff.1 hbehind
  obtain ⟨other, hother⟩ := hreaps.exists_name ho hu
  have hs : Selection env Parser.maxDepth ([o, u, c].map Token.kind) (.field other) := by
    simp only [List.map_cons, ho, hu, hc, List.map_nil]
    exact .name (.mk hother)
  have hreaps : Parser.Reaps env Parser.maxDepth stop ([o, u, c] ++ behind) path := hreaps
  obtain ⟨more, rfl, -⟩ := hreaps.selection hs
  refine ⟨other, more, ?_, hpath⟩
  rintro rfl
  unfold unescape at hother
  rw [String.toList_ofList] at hother
  split at hother
  next cs hcs =>
    cases hother
    exact ne_of_decode?_pathName quotable hname hcs (by simp)
  · cases hother

/-- After another name, what is found stands elsewhere. -/
theorem not_prefix_of_other {document w : Value} {other : String} {more : List Segment}
    {found : List Node} (hf : ∀ s ∈ pre, s.Fits) (hw : document.at? pre = some w)
    (hne : other ≠ name)
    (h : resolve env document (pre.map Step.segment ++ .field other :: more)
      [.ofRoot document] = .ok found) :
    ∀ m ∈ found, ¬ pre ++ [.member name] <+: m.location := by
  have hpre : resolve env document (pre.map Step.segment) [.ofRoot document] = .ok [⟨pre, w⟩] :=
    resolve_query hf hw
  rw [resolve_append, hpre] at h
  replace h : resolve env document more ((Node.member? ⟨pre, w⟩ other).toList ++ []) =
    .ok found := h
  rw [List.append_nil] at h
  intro m hm hprefix
  cases hmember : Node.member? ⟨pre, w⟩ other with
  | none =>
    rw [hmember, Option.toList_none, resolve_nil] at h
    cases h
    simp at hm
  | some k =>
    rw [hmember, Option.toList_some] at h
    have hk : k.location = pre ++ [.member other] := by
      unfold Node.member? at hmember
      split at hmember
      · obtain ⟨v, -, rfl⟩ := Option.map_eq_some_iff.1 hmember
        rfl
      · simp at hmember
    have hother := prefix_of_mem_resolve env document h m hm
    rw [hk] at hother
    have heq := (List.prefix_of_prefix_length_le hprefix hother (by simp)).eq_of_length (by simp)
    simp at heq
    exact hne heq.symm

theorem lacks_of_visible (h : (query l).Everywhere (fun s _ => s.Visible) fun _ => True) :
    ∀ s ∈ l, s.Lacks '\x00' := by
  unfold query Query.Everywhere at h
  induction l with
  | nil => simp
  | cons s l ih =>
    obtain ⟨hs, -, hl⟩ := h
    refine List.forall_mem_cons.2 ⟨?_, ih hl⟩
    cases s with
    | item => trivial
    | member => exact hs

end Location

namespace Node
section
variable [Pattern.Engine] {document : Value} {n : Node}

/-- A path with a backslash in a name, but without U+0000, is no query for its node. -/
theorem lacks_backslash_of_find {env : Environment} {q : Query}
    (h : document.at? n.location = some n.value) (hf : ∀ s ∈ n.location, s.Fits)
    (h0 : ∀ s ∈ n.location, s.Lacks '\x00') (hq : Query.parse env n.path = .ok q)
    (hfind : q.find env document = .ok [n]) : ∀ s ∈ n.location, s.Lacks '\\' := by
  by_contra hb
  obtain ⟨s, hs⟩ : ∃ s, n.location.find? (fun s => ¬ s.Lacks '\\') = some s := by
    apply Option.isSome_iff_exists.1
    simpa using hb
  obtain ⟨hs, pre, post, hl, hpre⟩ := List.find?_eq_some_iff_append.1 hs
  cases s with
  | item => simp [Step.Lacks] at hs
  | member name =>
    have hname : '\\' ∈ name.toList := by simpa [Step.Lacks] using hs
    have hpre : ∀ s ∈ pre, s.Lacks '\\' := by simpa using hpre
    have hfpre : ∀ s ∈ pre, s.Fits := fun s hs => hf s (by simp [hl, hs])
    rw [path, hl] at hq
    rw [hl] at h0 h
    obtain ⟨other, more, hne, hsegments⟩ :=
      Location.exists_segments_of_parse hfpre hpre h0 hname hq
    rw [Value.at?_append] at h
    obtain ⟨w, hw, -⟩ := Option.bind_eq_some_iff.1 h
    unfold Query.find at hfind
    rw [hsegments] at hfind
    apply Location.not_prefix_of_other hfpre hw hne hfind n (by simp)
    rw [hl]
    exact ⟨post, by simp⟩

/-- The path of a node, read as a query, finds that node alone if and only if the names on the way
hold neither backslashes, which the path does not escape, nor U+0000, which ends a query. Names of
both kinds are left out: cut off within what is misread, a path may lead back by chance. -/
theorem find_path_iff (h : document.at? n.location = some n.value)
    (hf : ∀ s ∈ n.location, s.Fits)
    (hone : (∀ s ∈ n.location, s.Lacks '\x00') ∨ ∀ s ∈ n.location, s.Lacks '\\') :
    (∃ q, Query.parse .standard n.path = .ok q ∧ q.find .standard document = .ok [n]) ↔
      (∀ s ∈ n.location, s.Lacks '\\') ∧ ∀ s ∈ n.location, s.Lacks '\x00' := by
  constructor
  · rintro ⟨q, hq, hfind⟩
    rcases hone with h0 | hb
    · exact ⟨lacks_backslash_of_find h hf h0 hq hfind, h0⟩
    · refine ⟨hb, Location.lacks_of_visible ?_⟩
      have admitted : (Location.query n.location).Admitted .standard := by
        apply Location.everywhere_query
        intro s _ rest
        cases s <;> trivial
      rw [path, ← Location.text_query hf hb] at hq
      exact Query.visible_of_parse_text admitted hq
  · rintro ⟨hb, h0⟩
    exact ⟨_, Location.parse_text hf hb h0, Location.resolve_query hf h⟩

end

/-- An apostrophe is escaped as the lexer expects it. -/
theorem find_path_apostrophe :
    Value.at? (.object [("it's", .array [.null, .string "x"])]) [.member "it's", .item 1] =
        some (.string "x") ∧
      ∃ q, Query.parse .standard (path ⟨[.member "it's", .item 1], .string "x"⟩) = .ok q ∧
        q.find .standard (.object [("it's", .array [.null, .string "x"])]) =
          .ok [⟨[.member "it's", .item 1], .string "x"⟩] := by
  have here : Value.at? (.object [("it's", .array [.null, .string "x"])])
      [.member "it's", .item 1] = some (.string "x") := rfl
  have fits : ∀ s ∈ ([.member "it's", .item 1] : Location), s.Fits := by simp [Step.Fits]
  have visible : ∀ s ∈ ([.member "it's", .item 1] : Location), s.Lacks '\x00' := by decide
  exact ⟨here, (find_path_iff here fits (.inl visible)).2 ⟨by decide, visible⟩⟩

/-- The path spells another name, with a backspace in place of the backslash and the letter. -/
theorem find_path_backslash :
    Value.at? (.object [("a\\b", .bool true)]) [.member "a\\b"] = some (.bool true) ∧
      Query.parse .standard (path ⟨[.member "a\\b"], .bool true⟩) =
        .ok ⟨[.field "a\x08"]⟩ ∧
      ∀ q, Query.parse .standard (path ⟨[.member "a\\b"], .bool true⟩) = .ok q →
        q.find .standard (.object [("a\\b", .bool true)]) = .ok [] := by
  have quoted : Quoted (.string .single "a\\b") "a\x08" := .mk rfl
  have text : Text .standard _ _ := .root (.selection (.name quoted) .nil)
  have parsed : Query.parse .standard (path ⟨[.member "a\\b"], .bool true⟩) =
      .ok ⟨[.field "a\x08"]⟩ := Query.parse_of_text (by decide) text
  refine ⟨rfl, parsed, ?_⟩
  intro q hq
  rw [parsed] at hq
  cases hq
  rfl

end Node

end PathQuery
