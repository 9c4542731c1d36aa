import PathQuery.Proofs.Canonical.Depth
import PathQuery.Proofs.Canonical.RoundTrip
import PathQuery.Proofs.Canonical.Visible

/-! Which of the queries that are parsed in the standard environment are given back by their
canonical texts. -/
namespace PathQuery
open Token Grammar

/-! Calls of the standard functions -/

namespace ParamType

theorem isArgument_of_accepts_int {v : Value} (h : int.accepts v = true) : v.IsArgument := by
  cases v with
  | number x =>
    cases x with
    | finite => rfl
    | infinite => exact absurd h (by simp [accepts, Number.isWhole])
  | _ => simp [accepts] at h

end ParamType

namespace Signature

theorem isArgument_of_mismatch? {index : Nat} {types : List ParamType} {args : List Value}
    (hint : ∀ type ∈ types, type = .int) (hl : args.length ≤ types.length)
    (h : mismatch? index types args = none) : ∀ arg ∈ args, arg.IsArgument := by
  induction args generalizing index types with
  | nil => simp
  | cons arg args ih =>
    cases types with
    | nil => simp at hl
    | cons type types =>
      rw [mismatch?] at h
      split at h
      next ha =>
        rw [hint type (by simp)] at ha
        intro other ho
        rcases List.mem_cons.1 ho with rfl | ho
        · exact ParamType.isArgument_of_accepts_int ha
        · exact ih (fun t ht => hint t (by simp [ht])) (by simpa using hl) h other ho
      · simp at h

end Signature

namespace Environment

/-- The standard functions have plain names and take whole numbers only. -/
theorem standard_functions : ∀ entry ∈ standard.functions,
    Lexer.IsName entry.1.toList ∧ ∀ type ∈ entry.2.signature.params, type = .int := by
  simp only [standard, List.forall_mem_cons]
  refine ⟨?_, ?_, ?_, ?_, ?_, ?_, by simp⟩ <;>
    exact ⟨isName_of_letters (by decide) (by decide), by decide⟩

theorem resolve_standard {name : String} {args : List Value} {f : Function}
    (h : standard.resolve name args = .ok f) :
    Lexer.IsName name.toList ∧ ∀ arg ∈ args, arg.IsArgument := by
  unfold resolve at h
  split at h
  · simp at h
  next g hg =>
    obtain ⟨hname, hint⟩ := standard_functions _ (Members.mem_of_get? hg)
    change ∀ type ∈ g.signature.params, type = .int at hint
    refine ⟨hname, ?_⟩
    unfold Signature.check at h
    split at h
    next hcheck => simp at h
    next hcheck =>
      split at hcheck
      · simp at hcheck
      next hcount => exact Signature.isArgument_of_mismatch? hint (by omega) hcheck

end Environment

/-- In the standard environment, only names can keep a canonical text from being read. -/
theorem Segment.Admitted.writable [Pattern.Engine] {s : Segment} {rest : List Segment}
    (h : s.Admitted .standard rest) : s.Writable rest := by
  cases s with
  | recursive => exact h
  | function =>
    obtain ⟨f, hf⟩ := h
    exact Environment.resolve_standard hf
  | _ => trivial

namespace Query
section
variable [Pattern.Engine] {env : Environment} {text : String} {q r : Query}

theorem ofTokens_path {ts : List Token} (h : ofTokens env ts = .ok q) :
    ∃ t rest stop, ts = t :: rest ∧
      Parser.AcceptsPath env (Parser.level env Parser.maxDepth) stop rest := by
  simp only [ofTokens, bind_eq_ok] at h
  obtain ⟨root, hr, ⟨path, hl⟩, hp, -⟩ := h
  obtain ⟨t, hts, -⟩ := Parser.expect_sound hr
  exact ⟨t, root.rest, _, hts, _, hp⟩

/-- Canonical texts open levels of their own, for the parentheses that the printer adds. -/
theorem parse_text_too_deep (h : q.Derivable env) (hn : Parser.maxDepth < q.nesting) :
    parse env q.text ≠ .ok r := by
  intro hr
  simp only [parse, bind_eq_ok] at hr
  obtain ⟨ts, hl, hr⟩ := hr
  have hkinds := tokenize_text h.lexable
  obtain ⟨t, rest, stop, rfl, hpath⟩ := ofTokens_path hr
  rw [tokenize_of_lex hl, List.map_cons, kinds, List.cons_append] at hkinds
  obtain ⟨used, last, rfl, hused, -⟩ := List.map_eq_append_iff.1 (List.cons.inj hkinds).2
  exact segments_too_deep q.segments h.expressible hn hused stop hpath

/-- What a query that is parsed has to keep to in order to be given back by its canonical text. -/
structure Faithful (q : Query) : Prop where
  visible : q.Everywhere (fun s _ => s.Visible) fun _ => True
  finite : q.Everywhere (fun _ _ => True) Predicate.Finite
  shallow : q.nesting ≤ Parser.maxDepth

theorem Admitted.derivable (h : q.Admitted .standard)
    (hv : q.Everywhere (fun s _ => s.Visible) fun _ => True) : q.Derivable .standard := by
  refine (Everywhere.and h hv).imp ?_ fun _ hp => hp.1
  intro s rest hs
  exact ⟨hs.1, hs.1.writable.printable hs.2⟩

theorem visible_of_parse_text (h : q.Admitted .standard) (hr : parse .standard q.text = .ok r) :
    q.Everywhere (fun s _ => s.Visible) fun _ => True := by
  by_contra hv
  have hw : q.Everywhere Segment.Writable Predicate.Admitted :=
    h.imp (fun _ _ hs => hs.writable) fun _ hp => hp
  simp only [parse, bind_eq_ok] at hr
  obtain ⟨ts, hl, -⟩ := hr
  exact lex_text_of_not_visible hw hv hl

/-- A query that is parsed in the standard environment is given back by its canonical text if and
only if no name holds U+0000, no literal is infinite and the text is not too deep. -/
theorem parse_text_same_iff (h : parse .standard text = .ok q) :
    (∃ r, parse .standard q.text = .ok r ∧ r.same q = true) ↔ q.Faithful := by
  have admitted := parse_admitted h
  constructor
  · rintro ⟨r, hr, hsame⟩
    have visible := visible_of_parse_text admitted hr
    have derivable := admitted.derivable visible
    -- From here on the text is read as the canonical tokens, which only the depth can spoil.
    have shallow : q.nesting ≤ Parser.maxDepth := by
      by_contra hn
      exact parse_text_too_deep derivable (by omega) hr
    rw [parse_text derivable shallow] at hr
    cases hr
    exact ⟨visible, (same_reread derivable).1 hsame, shallow⟩
  · rintro ⟨visible, finite, shallow⟩
    have derivable := admitted.derivable visible
    exact ⟨q.reread, parse_text derivable shallow, (same_reread derivable).2 finite⟩

end

theorem parse_text_same_flipped :
    parse .standard "$..a[?null=@.length()]" = .ok ⟨[.recursive, .field "a",
        .filter (.compare (.mk .current [.function "length" []]) .eq .null)]⟩ ∧
      ∃ r, parse .standard (Query.text ⟨[.recursive, .field "a",
          .filter (.compare (.mk .current [.function "length" []]) .eq .null)]⟩) = .ok r ∧
        r.same ⟨[.recursive, .field "a",
          .filter (.compare (.mk .current [.function "length" []]) .eq .null)]⟩ = true := by
  have call : Call .standard [.function "length", .openParen, .closeParen]
      (.function "length" []) := .empty rfl
  have path : Path .standard 63 [.dot, .function "length", .openParen, .closeParen]
      [.function "length" []] := .shorthand (.call call) .nil
  have filter : Path .standard 64 _ _ :=
    .selection (.filter (.one (.one (.flipped .current .eq .null path)))) .nil
  have text := Text.root (.descendant (.bare (.name "a")) filter)
  have parsed : parse .standard "$..a[?null=@.length()]" = _ := parse_of_text (by decide) text
  refine ⟨parsed, (parse_text_same_iff parsed).2 ⟨?_, ?_, by decide⟩⟩
  · simp [Query.Everywhere, everywhere, Segment.Within, Predicate.Everywhere, Subpath.Everywhere,
      Segment.Visible]
  · simp [Query.Everywhere, everywhere, Segment.Within, Predicate.Everywhere, Subpath.Everywhere,
      Predicate.Finite, Value.IsFinite]

/-- The escape has no spelling in the canonical text. -/
theorem parse_text_nul :
    parse .standard "$['\\u0000']" = .ok ⟨[.field "\x00"]⟩ ∧
      ∀ r, parse .standard (Query.text ⟨[.field "\x00"]⟩) ≠ .ok r := by
  have quoted : Quoted (.string .single "\\u0000") "\x00" := .mk rfl
  have text : Text .standard _ _ := .root (.selection (.name quoted) .nil)
  have parsed : parse .standard "$['\\u0000']" = _ := parse_of_text (by decide) text
  refine ⟨parsed, ?_⟩
  intro r hr
  have visible := visible_of_parse_text (parse_admitted parsed) hr
  simp [Query.Everywhere, everywhere, Segment.Visible] at visible

end Query
end PathQuery
