import PathQuery.Proofs.Query.Alike
import PathQuery.Proofs.Query.Everywhere
import PathQuery.Query.Eval

/-! What parsing and evaluation see of an environment: the functions that are called, and no
others. -/
namespace PathQuery
open Token

/-- What the segment calls, if anything, is in `names`. -/
def Segment.CallsWithin [Pattern.Engine] (names : String → Prop) : Segment → Prop
  | .function name _ => names name
  | _ => True

/-- What the query calls, at any depth, is in `names`. -/
def Query.CallsWithin [Pattern.Engine] (names : String → Prop) (q : Query) : Prop :=
  q.Everywhere (fun s _ => s.CallsWithin names) fun _ => True

/-- What the text calls is in `names`. -/
def Lexer.CallsWithin (names : String → Prop) (text : String) : Prop :=
  ∀ t ∈ tokenize text, ∀ name, t.kind = .function name → names name

namespace Environment
variable {env env' : Environment} {name other : String}

theorem agree_insert (h : other ≠ name) (f : Function) : (env.insert name f).Agree env other := by
  have hget := Members.get?_insert env.functions name other f
  rwa [if_neg h] at hget

theorem agree_erase (h : other ≠ name) : (env.erase name).Agree env other := by
  have hget := Members.get?_erase env.functions name other
  rwa [if_neg h] at hget

end Environment

/-! Evaluation -/

section
variable [Pattern.Engine] {env env' : Environment} (root : Value)

mutual

theorem Segment.select_env_irrel : (s : Segment) →
    s.CallsWithin (env.Agree env') →
    s.Within (fun s _ => s.CallsWithin (env.Agree env')) (fun _ => True) →
    ∀ n, s.select env root n = s.select env' root n
  | .field _, _, _, _ | .wild, _, _, _ | .recursive, _, _, _ | .index _, _, _, _
  | .slice .., _, _, _ | .union _, _, _, _ => rfl
  | .function name args, h, _, n => by
    have resolve := Environment.Agree.resolve h args
    simp only [Segment.select, Node.apply, resolve]
  | .filter p, _, h, n => by
    have holds (c : Node) := Predicate.holds_env_irrel p h c.value
    simp only [Segment.select, holds]

theorem Predicate.holds_env_irrel : (p : Predicate) →
    p.Everywhere (fun s _ => s.CallsWithin (env.Agree env')) (fun _ => True) →
    ∀ v, p.holds env root v = p.holds env' root v
  | .present path, h, v | .compare path _ _, h, v | .resembles path _, h, v => by
    simp only [Predicate.holds, Subpath.nodes_env_irrel path h.2 v]
  | .not p, h, v => by
    simp only [Predicate.holds, Predicate.holds_env_irrel p h.2 v]
  | .logical .and left right, h, v | .logical .or left right, h, v => by
    simp only [Predicate.holds, Predicate.holds_env_irrel left h.2.1 v,
      Predicate.holds_env_irrel right h.2.2 v]

theorem Subpath.nodes_env_irrel : (path : Subpath) →
    path.Everywhere (fun s _ => s.CallsWithin (env.Agree env')) (fun _ => True) →
    ∀ v, path.nodes env root v = path.nodes env' root v
  | .mk .current segments, h, v => resolve_env_irrel segments h [.ofRoot v]
  | .mk .root segments, h, _ => resolve_env_irrel segments h [.ofRoot root]

theorem resolve_env_irrel : (segments : List Segment) →
    everywhere (fun s _ => s.CallsWithin (env.Agree env')) (fun _ => True) segments →
    ∀ nodes, resolve env root segments nodes = resolve env' root segments nodes
  | [], _, _ => rfl
  | s :: rest, h, nodes => by
    have select : s.select env root = s.select env' root :=
      funext (Segment.select_env_irrel s h.1 h.2.1)
    simp only [resolve, select, resolve_env_irrel rest h.2.2]

end

end

namespace Query
variable [Pattern.Engine] {env env' : Environment} {q : Query} {names names' : String → Prop}

theorem CallsWithin.mono (h : q.CallsWithin names) (hn : ∀ name, names name → names' name) :
    q.CallsWithin names' := by
  refine Everywhere.imp (fun s rest hs => ?_) (fun _ => id) h
  cases s with
  | function name args => exact hn name hs
  | _ => trivial

theorem find_env_irrel (h : q.CallsWithin (env.Agree env')) (document : Value) :
    q.find env document = q.find env' document :=
  resolve_env_irrel document q.segments h [.ofRoot document]

/-! Parsing -/

theorem ofTokens_env_irrel {ts : List Token}
    (h : ∀ t ∈ ts, ∀ name, t.kind = .function name → env.Agree env' name) :
    ofTokens env ts = ofTokens env' ts := by
  have alike : TokensAlike env env' Eq ts ts :=
    List.forall₂_same.2 fun t ht => ⟨rfl, rfl, h t ht⟩
  have same : Alike Eq Eq (ofTokens env ts) (ofTokens env' ts) := ofTokens_alike rfl alike
  exact same.eq

theorem parse_env_irrel {text : String} (h : Lexer.CallsWithin (env.Agree env') text) :
    parse env text = parse env' text := by
  simp only [parse, bind, Except.bind]
  cases hl : lex text with
  | error e => dsimp only
  | ok ts =>
    have hts := tokenize_of_lex hl
    exact ofTokens_env_irrel (hts ▸ h)

end Query

/-- Only the functions that are called matter: environments that agree on them read a text alike
and find the same nodes. So what is called under other names may be added, replaced or removed. -/
theorem Environment.only_calls_matter [Pattern.Engine] (env env' : Environment) :
    (∀ text, Lexer.CallsWithin (env.Agree env') text →
      Query.parse env text = Query.parse env' text) ∧
    (∀ q : Query, q.CallsWithin (env.Agree env') → ∀ document,
      q.find env document = q.find env' document) ∧
    ∀ name f,
      (∀ text, Lexer.CallsWithin (· ≠ name) text →
        Query.parse (env.insert name f) text = Query.parse env text ∧
        Query.parse (env.erase name) text = Query.parse env text) ∧
      ∀ q : Query, q.CallsWithin (· ≠ name) → ∀ document,
        q.find (env.insert name f) document = q.find env document ∧
        q.find (env.erase name) document = q.find env document := by
  refine ⟨fun text h => Query.parse_env_irrel h, fun q h => Query.find_env_irrel h,
    fun name f => ⟨fun text h => ⟨?_, ?_⟩, fun q h document => ⟨?_, ?_⟩⟩⟩
  · exact Query.parse_env_irrel fun t ht other hk => agree_insert (h t ht other hk) f
  · exact Query.parse_env_irrel fun t ht other hk => agree_erase (h t ht other hk)
  · exact Query.find_env_irrel (h.mono fun other hne => agree_insert hne f) document
  · exact Query.find_env_irrel (h.mono fun other hne => agree_erase hne) document

/-- Without `keys`, and with another `length`, `$[?@.values()]` is what it was. -/
theorem Environment.only_calls_matter_values :
    Lexer.CallsWithin ((Environment.standard.erase "keys").Agree
        (Environment.standard.insert "length" .keys)) "$[?@.values()]" ∧
      Query.parse (Environment.standard.erase "keys") "$[?@.values()]" =
        Query.parse (Environment.standard.insert "length" .keys) "$[?@.values()]" ∧
      Query.CallsWithin (· ≠ "length")
        ⟨[.filter (.present (.mk .current [.function "values" []]))]⟩ ∧
      ∀ document,
        Query.find ⟨[.filter (.present (.mk .current [.function "values" []]))]⟩
            (Environment.standard.insert "length" .keys) document =
          Query.find ⟨[.filter (.present (.mk .current [.function "values" []]))]⟩
            .standard document := by
  have kinds : (Lexer.tokenize "$[?@.values()]").map Token.kind = [.root, .openBracket, .question,
      .current, .dot, .function "values", .openParen, .closeParen, .closeBracket,
      .endOfQuery] := by decide
  have text : Lexer.CallsWithin ((Environment.standard.erase "keys").Agree
      (Environment.standard.insert "length" .keys)) "$[?@.values()]" := by
    intro t ht name hk
    have hm := List.mem_map_of_mem (f := Token.kind) ht
    rw [kinds, hk] at hm
    have hname : name = "values" := by simpa using hm
    subst hname
    rfl
  have query : Query.CallsWithin (· ≠ "length")
      ⟨[.filter (.present (.mk .current [.function "values" []]))]⟩ :=
    ⟨trivial, ⟨trivial, by simp [Segment.CallsWithin], trivial, trivial⟩, trivial⟩
  obtain ⟨parse, -, -⟩ := only_calls_matter (Environment.standard.erase "keys")
    (Environment.standard.insert "length" .keys)
  obtain ⟨-, -, change⟩ := only_calls_matter .standard .standard
  exact ⟨text, parse _ text, query, fun document => ((change "length" .keys).2 _ query document).1⟩

end PathQuery
