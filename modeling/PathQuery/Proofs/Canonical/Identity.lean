import PathQuery.Proofs.Canonical.Limits

/-! Canonical texts tell queries apart: without infinities, two queries are equal exactly when
their texts are, however deep they are and whatever their names hold. -/
namespace PathQuery
open Token Grammar

/-! Equal queries are those that are read again as one -/

theorem Number.reread_eq_iff {x y : Number} (hx : x.isFinite = true) (hy : y.isFinite = true) :
    x.reread = y.reread ↔ x.same y = true := by
  rw [same_iff]
  constructor
  · intro h
    rw [← position_reread x, h, position_reread]
  · intro h
    cases x with
    | infinite => simp [isFinite] at hx
    | finite a u hu =>
      cases y with
      | infinite => simp [isFinite] at hy
      | finite b v hv =>
        have huv : u = v := by cases a <;> cases b <;> simp [position] at h <;> omega
        subst huv
        by_cases h0 : u = 0
        · simp [reread, h0]
        · cases a <;> cases b <;> simp [position] at h ⊢ <;> omega

/-- A literal that is read again as one that is equal to it. -/
structure Value.Lasting (v : Value) : Prop where
  scalar : v.IsScalar
  finite : v.IsFinite

theorem Value.IsArgument.lasting {v : Value} (h : v.IsArgument) : v.Lasting :=
  ⟨h.isScalar, h.isFinite⟩

theorem Value.reread_eq_iff {v w : Value} (hv : v.Lasting) (hw : w.Lasting) :
    v.reread = w.reread ↔ v.same w = true := by
  have numeral {x : Number} (h : (Value.number x).Lasting) :
      (Value.number x).reread = .number x.reread := if_pos h.finite
  cases v with
  | array | object => exact hv.scalar.elim
  | number x =>
    rw [numeral hv]
    cases w with
    | array | object => exact hw.scalar.elim
    | number y =>
      rw [numeral hw, Value.number.injEq, Number.reread_eq_iff hv.finite hw.finite, same]
    | _ => simp [reread, same]
  | _ =>
    cases w with
    | array | object => exact hw.scalar.elim
    | number y =>
      rw [numeral hw]
      simp [reread, same]
    | _ => simp [reread, same]

theorem map_reread_eq_iff {args others : List Value} (h : ∀ arg ∈ args, arg.IsArgument)
    (h' : ∀ arg ∈ others, arg.IsArgument) :
    args.map Value.reread = others.map Value.reread ↔ Value.sameItems args others = true := by
  induction args generalizing others with
  | nil => cases others <;> simp [Value.sameItems]
  | cons arg args ih =>
    cases others with
    | nil => simp [Value.sameItems]
    | cons other others =>
      have first := Value.reread_eq_iff (h arg (by simp)).lasting (h' other (by simp)).lasting
      have more := ih (fun a ha => h a (List.mem_cons_of_mem _ ha))
        fun a ha => h' a (List.mem_cons_of_mem _ ha)
      simp [Value.sameItems, first, more]

section
variable [Pattern.Engine]

/-- A comparison with a literal that is read again as one that is equal to it. -/
def Predicate.Lasting (p : Predicate) : Prop := p.Admitted ∧ p.Finite

mutual

theorem Segment.reread_eq_iff : (s t : Segment) → ∀ {rest rest'}, s.Writable rest →
    t.Writable rest' → s.Within Segment.Writable Predicate.Lasting →
    t.Within Segment.Writable Predicate.Lasting → (s.reread = t.reread ↔ s.same t = true)
  | .filter p, t, _, _, _, _, hp, ht => by
    cases t with
    | filter q => simpa [Segment.reread, Segment.same] using Predicate.reread_eq_iff p q hp ht
    | _ => simp [Segment.reread, Segment.same]
  | .function name args, t, _, _, hs, ht, _, _ => by
    cases t with
    | function other others => simp [Segment.reread, Segment.same, map_reread_eq_iff hs.2 ht.2]
    | _ => simp [Segment.reread, Segment.same]
  | .field _, t, _, _, _, _, _, _ | .wild, t, _, _, _, _, _, _ | .recursive, t, _, _, _, _, _, _
  | .index _, t, _, _, _, _, _, _ | .slice .., t, _, _, _, _, _, _
  | .union _, t, _, _, _, _, _, _ => by
    cases t <;> simp [Segment.reread, Segment.same, and_assoc]

theorem Predicate.reread_eq_iff : (p q : Predicate) →
    p.Everywhere Segment.Writable Predicate.Lasting →
    q.Everywhere Segment.Writable Predicate.Lasting → (p.reread = q.reread ↔ p.same q = true)
  | .present path, q, hp, hq => by
    cases q with
    | present other =>
      simpa [Predicate.reread, Predicate.same] using Subpath.reread_eq_iff path other hp.2 hq.2
    | _ => simp [Predicate.reread, Predicate.same]
  | .compare path op value, q, hp, hq => by
    cases q with
    | compare other op' value' =>
      have paths := Subpath.reread_eq_iff path other hp.2 hq.2
      have values := Value.reread_eq_iff ⟨hp.1.1, hp.1.2⟩ ⟨hq.1.1, hq.1.2⟩
      simp [Predicate.reread, Predicate.same, paths, values, and_assoc]
    | _ => simp [Predicate.reread, Predicate.same]
  | .resembles path pattern, q, hp, hq => by
    cases q with
    | resembles other pattern' =>
      simp [Predicate.reread, Predicate.same, Subpath.reread_eq_iff path other hp.2 hq.2]
    | _ => simp [Predicate.reread, Predicate.same]
  | .not p, q, hp, hq => by
    cases q with
    | not q => simpa [Predicate.reread, Predicate.same] using Predicate.reread_eq_iff p q hp.2 hq.2
    | _ => simp [Predicate.reread, Predicate.same]
  | .logical op left right, q, hp, hq => by
    cases q with
    | logical op' left' right' =>
      have first := Predicate.reread_eq_iff left left' hp.2.1 hq.2.1
      have second := Predicate.reread_eq_iff right right' hp.2.2 hq.2.2
      simp [Predicate.reread, Predicate.same, first, second, and_assoc]
    | _ => simp [Predicate.reread, Predicate.same]

theorem Subpath.reread_eq_iff : (path other : Subpath) →
    path.Everywhere Segment.Writable Predicate.Lasting →
    other.Everywhere Segment.Writable Predicate.Lasting →
    (path.reread = other.reread ↔ path.same other = true)
  | .mk anchor segments, .mk anchor' segments', h, h' => by
    simp [Subpath.reread, Subpath.same, rereadSegments_eq_iff segments segments' h h']

theorem rereadSegments_eq_iff : (segments others : List Segment) →
    everywhere Segment.Writable Predicate.Lasting segments →
    everywhere Segment.Writable Predicate.Lasting others →
    (rereadSegments segments = rereadSegments others ↔ sameSegments segments others = true)
  | [], others, _, _ => by cases others <;> simp [rereadSegments, sameSegments]
  | s :: segments, others, h, h' => by
    cases others with
    | nil => simp [rereadSegments, sameSegments]
    | cons t others =>
      have first := Segment.reread_eq_iff s t h.1 h'.1 h.2.1 h'.2.1
      have more := rereadSegments_eq_iff segments others h.2.2 h'.2.2
      simp [rereadSegments, sameSegments, first, more]

end

/-! What is read again is written alike -/

omit [Pattern.Engine] in
theorem Number.text_reread (x : Number) :
    (Value.number x.reread).text = (Value.number x).text := by
  cases x with
  | infinite => rfl
  | finite negative units fits =>
    by_cases h : units = 0
    · subst h
      cases negative with
      | false => rfl
      | true => simp [Value.text, Value.toJson, reread, Value.numberToJson, isWhole, truncate?]
    · have hne : (units != 0) = true := by simpa using h
      rw [reread, hne, Bool.and_true]

omit [Pattern.Engine] in
@[simp] theorem Value.text_reread (v : Value) : v.reread.text = v.text := by
  cases v with
  | number x =>
    cases x with
    | finite => exact Number.text_reread _
    | infinite => rfl
  | _ => rfl

mutual

theorem Segment.text_reread : (s : Segment) → s.reread.text = s.text
  | .filter p => by simp [Segment.reread, Segment.text, Predicate.text_reread p]
  | .function name args => by simp [Segment.reread, Segment.text, Function.comp_def]
  | .field _ | .wild | .recursive | .index _ | .slice .. | .union _ => rfl

theorem Predicate.text_reread : (p : Predicate) → p.reread.text = p.text
  | .present path => by simp [Predicate.reread, Predicate.text, Subpath.text_reread path]
  | .compare path op value => by simp [Predicate.reread, Predicate.text, Subpath.text_reread path]
  | .resembles path pattern => by simp [Predicate.reread, Predicate.text, Subpath.text_reread path]
  | .not p => by simp [Predicate.reread, Predicate.text, Predicate.text_reread p]
  | .logical op left right => by
    simp [Predicate.reread, Predicate.text, Predicate.text_reread left, Predicate.text_reread right]

theorem Subpath.text_reread : (path : Subpath) → path.reread.text = path.text
  | .mk anchor segments => by simp [Subpath.reread, Subpath.text, segmentsText_reread segments]

theorem segmentsText_reread : (segments : List Segment) →
    segmentsText (rereadSegments segments) = segmentsText segments
  | [] => rfl
  | s :: segments => by
    simp [rereadSegments, segmentsText, Segment.text_reread s, segmentsText_reread segments]

end

/-! Texts that are alike are read alike -/

namespace Grammar

/-- The parser is a function, so the tokens have one tree at most. -/
theorem Path.unique {env : Environment} {n : Nat} {ks : List Kind} {a b : List Segment}
    (ha : Path env n ks a) (hb : Path env n ks b) : a = b := by
  have hks : (Query.bareTokens ks).map Token.kind = ks := by
    simp [Query.bareTokens, Function.comp_def]
  have reads {path : List Segment} (h : Path env n ks path) : Parser.ReadsOn
      (Parser.segments env (Parser.level env n) {} (Query.bareTokens ks ++ [])) path [] :=
    Parser.segments_complete (Parser.level_complete env n) h hks (by simp [Parser.peek])
  obtain ⟨_, ha⟩ := reads ha
  obtain ⟨_, hb⟩ := reads hb
  cases ha.symm.trans hb
  rfl

end Grammar

end

namespace Query
section
variable [Pattern.Engine] {env : Environment} {q r : Query}

theorem text_reread (q : Query) : q.reread.text = q.text := by
  simp [text, reread, segmentsText_reread]

theorem kinds_eq_of_text_eq (hq : q.Everywhere Segment.Writable Predicate.Admitted)
    (hr : r.Everywhere Segment.Writable Predicate.Admitted) (h : q.text = r.text) :
    segmentsKinds q.segments = segmentsKinds r.segments := by
  have same := (leads_text hq).unique (h ▸ leads_text hr) rfl rfl
  exact (List.cons.inj (List.append_cancel_right same)).2

/-- Texts that are alike are read as one query, on enough levels for both. -/
theorem reread_eq_of_text_eq (hq : q.Everywhere (Segment.Expressible env) Predicate.Admitted)
    (hr : r.Everywhere (Segment.Expressible env) Predicate.Admitted) (h : q.text = r.text) :
    q.reread = r.reread := by
  have writable {p : Query} (hp : p.Everywhere (Segment.Expressible env) Predicate.Admitted) :
      p.Everywhere Segment.Writable Predicate.Admitted := hp.imp (fun _ _ hs => hs.2) fun _ hp => hp
  have left := segments_derived q.segments hq (max q.nesting r.nesting) (Nat.le_max_left ..)
  have right := segments_derived r.segments hr (max q.nesting r.nesting) (Nat.le_max_right ..)
  rw [← kinds_eq_of_text_eq (writable hq) (writable hr) h] at right
  exact congrArg Query.mk (left.unique right)

theorem reread_eq_iff (hq : q.Everywhere Segment.Writable Predicate.Lasting)
    (hr : r.Everywhere Segment.Writable Predicate.Lasting) :
    q.reread = r.reread ↔ q.same r = true := by
  rw [same, ← rereadSegments_eq_iff _ _ hq hr, reread, reread, Query.mk.injEq]

/-- Of queries that are parsed in the standard environment, those without infinities are equal
exactly when their canonical texts are. -/
theorem same_iff_text_eq {s t : String} (hs : parse .standard s = .ok q)
    (ht : parse .standard t = .ok r) (hq : q.Everywhere (fun _ _ => True) Predicate.Finite)
    (hr : r.Everywhere (fun _ _ => True) Predicate.Finite) :
    q.same r = true ↔ q.text = r.text := by
  have lasting {p : Query} (ha : p.Admitted .standard)
      (hf : p.Everywhere (fun _ _ => True) Predicate.Finite) :
      p.Everywhere Segment.Writable Predicate.Lasting :=
    (Everywhere.and ha hf).imp (fun _ _ hs => hs.1.writable) fun _ hp => hp
  have expressible {p : Query} (ha : p.Admitted .standard) :
      p.Everywhere (Segment.Expressible .standard) Predicate.Admitted :=
    ha.imp (fun _ _ hs => ⟨hs, hs.writable⟩) fun _ hp => hp
  have qa := parse_admitted hs
  have ra := parse_admitted ht
  rw [← reread_eq_iff (lasting qa hq) (lasting ra hr)]
  constructor
  · intro h
    rw [← text_reread q, h, text_reread]
  · exact reread_eq_of_text_eq (expressible qa) (expressible ra)

end

/-- The filter for what has a zero of this sign under the name U+0000. -/
def zeroUnderNul (negative : Bool) : Query :=
  ⟨[.filter (.compare (.mk .current [.field "\x00"]) .eq
    (.number (.finite negative 0 Number.fits_zero)))]⟩

/-- The sign of a zero, the side of the literal and the spelling of the name leave no trace in the
text, which is itself no query. -/
theorem same_iff_text_eq_zeros :
    parse .standard "$[?@['\\u0000']==-0.0]" = .ok (zeroUnderNul true) ∧
      parse .standard "$[?0=@[\"\\u0000\"]]" = .ok (zeroUnderNul false) ∧
      ((zeroUnderNul true).same (zeroUnderNul false) = true ↔
        (zeroUnderNul true).text = (zeroUnderNul false).text) := by
  have minus : Literal (.float "-0.0") (.number (.finite true 0 Number.fits_zero)) := by
    have read : Numeral.read? "-0.0".toList = some (⟨true, ['0'], some ['0'], none⟩, []) := by
      decide
    refine .float ?_
    rw [Number.ofText?, read]
    exact congrArg some (Decimal.toNumber_zero true _)
  have plus : Literal (.int "0") (.number (.finite false 0 Number.fits_zero)) := by
    have read : Numeral.read? "0".toList = some (⟨false, ['0'], none, none⟩, []) := by decide
    refine .int ?_
    rw [Number.ofText?, read]
    exact congrArg some (Decimal.toNumber_zero false _)
  have name (quote : Quote) : Quoted (.string quote "\\u0000") "\x00" := .mk rfl
  have path (quote : Quote) : Path .standard 63 _ [.field "\x00"] :=
    .selection (.name (name quote)) .nil
  have left := Text.root (.selection (.filter (.one (.one
    (.compare .current .eq (path .single) minus)))) .nil)
  have right := Text.root (.selection (.filter (.one (.one
    (.flipped .current .eq plus (path .double))))) .nil)
  have parsedLeft : parse .standard "$[?@['\\u0000']==-0.0]" = _ := parse_of_text (by decide) left
  have parsedRight : parse .standard "$[?0=@[\"\\u0000\"]]" = _ := parse_of_text (by decide) right
  have finite (negative : Bool) :
      (zeroUnderNul negative).Everywhere (fun _ _ => True) Predicate.Finite :=
    ⟨trivial, ⟨rfl, trivial, trivial, trivial⟩, trivial⟩
  exact ⟨parsedLeft, parsedRight,
    same_iff_text_eq parsedLeft parsedRight (finite true) (finite false)⟩

end Query
end PathQuery
