import Mathlib.Algebra.GroupWithZero.Nat
import PathQuery.Cli
import PathQuery.Proofs.Node.Misread
import PathQuery.Proofs.Query.Safety
import PathQuery.Proofs.Value.Printable

/-! What the command line prints. The text of a value holds no line feed, but a path repeats those
of its names, so a match can take more than one line. -/
namespace PathQuery

/-! Paths -/

namespace Location

/-- The line feeds in the names on the way. -/
def lineFeeds (l : Location) : Nat :=
  (l.map fun
    | .item _ => 0
    | .member name => name.toList.count '\n').sum

theorem lineFeeds_eq_zero_iff {l : Location} :
    l.lineFeeds = 0 ↔ ∀ name, Step.member name ∈ l → '\n' ∉ name.toList := by
  induction l with
  | nil => simp [lineFeeds]
  | cons s l ih =>
    cases s with
    | item i => simpa [lineFeeds] using ih
    | member name =>
      have hcons : lineFeeds (.member name :: l) = name.toList.count '\n' + lineFeeds l := rfl
      rw [hcons, Nat.add_eq_zero_iff, ih, List.count_eq_zero]
      constructor
      · rintro ⟨hname, hl⟩ other hother
        rcases List.mem_cons.1 hother with h | h
        · cases h
          exact hname
        · exact hl other h
      · intro h
        exact ⟨h name (by simp), fun other hother => h other (by simp [hother])⟩

theorem count_pathName (cs : List Char) : (pathName cs).count '\n' = cs.count '\n' := by
  induction cs with
  | nil => rfl
  | cons c cs ih =>
    by_cases hc : c = '\''
    · subst hc
      simp [ih]
    · rw [pathName_cons hc, List.count_cons, List.count_cons, ih]

/-- A path has the line feeds of its names. -/
theorem count_stepsText (l : Location) : (stepsText l).count '\n' = l.lineFeeds := by
  induction l with
  | nil => rfl
  | cons s l ih =>
    cases s with
    | item i =>
      have hdigits : '\n' ∉ Nat.toDigits 10 i := by
        intro h
        exact absurd (Numeral.isDigits_toDigits i _ h) (by decide)
      have hcons : lineFeeds (.item i :: l) = lineFeeds l := by simp [lineFeeds]
      rw [stepsText_item, hcons, ← ih]
      simpa using List.count_eq_zero.2 hdigits
    | member name =>
      have hcons : lineFeeds (.member name :: l) = name.toList.count '\n' + lineFeeds l := rfl
      rw [stepsText_member, hcons, ← ih]
      simp [count_pathName]

end Location

/-! Lines -/

namespace Cli

/-- The line of a match, without the line feed at its end. -/
def entry (n : Node) : String := n.path ++ " => " ++ n.value.text

/-- An output cut at its line feeds. -/
def lines (output : String) : List String := (output.toList.splitOn '\n').map String.ofList

theorem count_entry (n : Node) : (entry n).toList.count '\n' = n.location.lineFeeds := by
  have hvalue : n.value.text.toList.count '\n' = 0 :=
    List.count_eq_zero.2 n.value.printable_text.lineFeed_notMem
  have hpath : n.path.toList = '$' :: stepsText n.location := Location.toList_text n.location
  have harrow : " => ".toList.count '\n' = 0 := by decide
  rw [entry, String.toList_append, String.toList_append, List.count_append, List.count_append,
    hvalue, harrow, hpath, ← Location.count_stepsText]
  simp

theorem length_splitOn (text : List Char) : (text.splitOn '\n').length = text.count '\n' + 1 := by
  induction text with
  | nil => rfl
  | cons c text ih =>
    rw [List.splitOn_cons_eq_if_modifyHead, List.count_cons]
    by_cases hc : c = '\n'
    · simp [hc, ih]
    · simp [hc, ih]

theorem splitOn_join (texts : List (List Char)) :
    (texts.flatMap (· ++ ['\n'])).splitOn '\n' = texts.flatMap (List.splitOn '\n') ++ [[]] := by
  induction texts with
  | nil => rfl
  | cons text texts ih =>
    rw [List.flatMap_cons, List.append_assoc, List.singleton_append, List.splitOn_append_cons_self,
      ih, List.flatMap_cons, List.append_assoc]

theorem toList_join_line (found : List Node) :
    (String.join (found.map line)).toList =
      (found.map fun n => (entry n).toList).flatMap (· ++ ['\n']) := by
  rw [String.toList_join, List.flatMap_map, List.flatMap_map]
  simp [line, entry]

/-- Each line feed in a name makes one more line. -/
theorem length_lines (found : List Node) :
    (lines (String.join (found.map line))).length =
      found.length + (found.map fun n => n.location.lineFeeds).sum + 1 := by
  have hcount : (String.join (found.map line)).toList.count '\n' =
      found.length + (found.map fun n => n.location.lineFeeds).sum := by
    rw [toList_join_line]
    induction found with
    | nil => rfl
    | cons n found ih =>
      simp only [List.map_cons, List.flatMap_cons, List.count_append, count_entry, ih,
        List.count_singleton_self, List.length_cons, List.sum_cons]
      omega
  rw [lines, List.length_map, length_splitOn, hcount]

theorem lines_eq_iff (found : List Node) :
    lines (String.join (found.map line)) = found.map entry ++ [""] ↔
      ∀ n ∈ found, ∀ name, Step.member name ∈ n.location → '\n' ∉ name.toList := by
  constructor
  · intro h n hn
    have hlength := congrArg List.length h
    rw [length_lines, List.length_append, List.length_map, List.length_singleton] at hlength
    have hzero : (found.map fun n => n.location.lineFeeds).sum = 0 := by omega
    rw [← Location.lineFeeds_eq_zero_iff]
    exact List.sum_eq_zero_iff_forall_eq_nat.1 hzero _ (List.mem_map_of_mem hn)
  · intro h
    have hplain : ∀ n ∈ found, (entry n).toList.splitOn '\n' = [(entry n).toList] := by
      intro n hn
      apply List.splitOn_eq_singleton
      rw [← List.count_eq_zero, count_entry]
      exact Location.lineFeeds_eq_zero_iff.2 (h n hn)
    have hpieces : found.flatMap (fun n => (entry n).toList.splitOn '\n') =
        found.map fun n => (entry n).toList := by
      rw [List.flatMap_congr hplain, List.map_eq_flatMap]
    rw [lines, toList_join_line, splitOn_join, List.flatMap_map, hpieces]
    simp

/-- A query that parses prints its matches in every document, each on a line of its own exactly if
no name in a path holds a line feed; otherwise each line feed in a name makes one more line. -/
theorem run_lines [Pattern.Engine] {text input : String} {q : Query} {document : Json}
    (hq : Query.parse .standard text = .ok q) (hd : Json.ofText? input = some document)
    (more : List String) :
    ∃ found, q.find .standard (Value.ofJson document) = .ok found ∧
      run (text :: more) input =
        ⟨0, String.join (found.map fun n => n.path ++ " => " ++ n.value.text ++ "\n"), ""⟩ ∧
      (lines (run (text :: more) input).stdout =
          found.map (fun n => n.path ++ " => " ++ n.value.text) ++ [""] ↔
        ∀ n ∈ found, ∀ name, Step.member name ∈ n.location → '\n' ∉ name.toList) ∧
      (lines (run (text :: more) input).stdout).length =
        found.length + (found.map fun n => n.location.lineFeeds).sum + 1 := by
  have admitted := Query.parse_admitted hq
  obtain ⟨found, hfound⟩ := Query.find_succeeds admitted admitted.resolves (Value.ofJson document)
  have hnodes : nodes (text :: more) input = .ok found := by
    simp [nodes, hq, hd, hfound, Except.mapError, bind, Except.bind, pure, Except.pure]
  have hrun : run (text :: more) input = ⟨0, String.join (found.map line), ""⟩ := by
    rw [run, hnodes]
  rw [hrun]
  exact ⟨found, hfound, rfl, lines_eq_iff found, length_lines found⟩

/-- The line feed of a value is escaped. -/
theorem run_lines_value :
    Query.parse .standard "$.*" = .ok ⟨[.wild]⟩ ∧
      ∃ document, Json.ofText? "\x7b\"a\":\"\\n\"\x7d" = some document ∧
        ∃ found, Query.find ⟨[.wild]⟩ .standard (Value.ofJson document) = .ok found ∧
          run ["$.*"] "\x7b\"a\":\"\\n\"\x7d" =
            ⟨0, String.join (found.map fun n => n.path ++ " => " ++ n.value.text ++ "\n"), ""⟩ ∧
          (lines (run ["$.*"] "\x7b\"a\":\"\\n\"\x7d").stdout =
              found.map (fun n => n.path ++ " => " ++ n.value.text) ++ [""] ↔
            ∀ n ∈ found, ∀ name, Step.member name ∈ n.location → '\n' ∉ name.toList) ∧
          (lines (run ["$.*"] "\x7b\"a\":\"\\n\"\x7d").stdout).length =
            found.length + (found.map fun n => n.location.lineFeeds).sum + 1 := by
  have derived : Grammar.Text .standard _ ⟨[.wild]⟩ := .root (.shorthand (.bare .wild) .nil)
  have parsed : Query.parse .standard "$.*" = .ok ⟨[.wild]⟩ :=
    Query.parse_of_text (by decide) derived
  have isDocument : (Json.ofText? "\x7b\"a\":\"\\n\"\x7d").isSome = true := by decide +kernel
  obtain ⟨document, read⟩ := Option.isSome_iff_exists.1 isDocument
  exact ⟨parsed, document, read, run_lines parsed read []⟩

/-- One match, printed on two lines: the name of the member holds a line feed. -/
theorem run_lines_name :
    ∃ found, nodes ["$.*"] "\x7b\"a\\nb\":true\x7d" = .ok found ∧ found.length = 1 ∧
      run ["$.*"] "\x7b\"a\\nb\":true\x7d" = ⟨0, "$['a\nb'] => true\n", ""⟩ ∧
      lines (run ["$.*"] "\x7b\"a\\nb\":true\x7d").stdout = ["$['a", "b'] => true", ""] ∧
      lines (run ["$.*"] "\x7b\"a\\nb\":true\x7d").stdout ≠
        found.map (fun n => n.path ++ " => " ++ n.value.text) ++ [""] := by
  have hone : (nodes ["$.*"] "\x7b\"a\\nb\":true\x7d").toOption.map List.length = some 1 := by
    decide +kernel
  have hrun : run ["$.*"] "\x7b\"a\\nb\":true\x7d" = ⟨0, "$['a\nb'] => true\n", ""⟩ := by
    decide +kernel
  have hlines : lines "$['a\nb'] => true\n" = ["$['a", "b'] => true", ""] := by decide
  obtain ⟨found, hfound, hlength⟩ := Option.map_eq_some_iff.1 hone
  cases hnodes : nodes ["$.*"] "\x7b\"a\\nb\":true\x7d" with
  | error e => simp [hnodes, Except.toOption] at hfound
  | ok nodes =>
    obtain rfl : nodes = found := by simpa [hnodes, Except.toOption] using hfound
    rw [hrun]
    refine ⟨nodes, rfl, hlength, rfl, hlines, fun h => ?_⟩
    have := congrArg List.length (hlines.symm.trans h)
    rw [List.length_append, List.length_map, hlength] at this
    exact absurd this (by decide)

end Cli

end PathQuery
