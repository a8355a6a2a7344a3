import PathRouter.Proofs.Compiler.Structure
import PathRouter.Proofs.Pattern.Interpretation
import PathRouter.Proofs.Regex.Captures

/-!
# Expressions against interpretations

The expression of a pattern whose constraints have no groups is read in the
ways in which the pattern is interpreted, in the same order.  A state of the
expression is turned into a reading of the pattern by looking up the tokens to
which its groups belong.

## Main definitions

* `Pattern.Numbers`: groups belong to tokens.
* `MatchState.toReading`: a state of the expression as a reading.

## Main statements

* `Pattern.map_rowWays_items`: the ways of the items of a pattern are its
  readings.
-/

namespace PathRouter

open Regex

/-- A state of an expression as a reading of a pattern, where `nameOf` names the
tokens to which groups belong. -/
def MatchState.toReading (path : List Char) (nameOf : Nat → String)
    (state : MatchState) : Pattern.Reading where
  position := state.position
  found := state.captures.map fun (index, start, stop) =>
    (nameOf index, Pattern.textBetween path start stop)

/-- The characters between two places, as a text. -/
theorem ofList_extract (path : List Char) (start stop : Nat) :
    String.ofList (path.toArray.extract start stop).toList =
      Pattern.textBetween path start stop := by
  rw [Array.toList_extract, List.extract_eq_take_drop]
  rfl

namespace Regex

/-- A row of characters reads exactly its own text. -/
theorem rowWays_exactly
    (chars : List Char)
    (path : List Char)
    (state : MatchState) :
    rowWays path.toArray (chars.map fun c => .one (.exactly c.toNat)) state =
      if chars.isPrefixOf (path.drop state.position) then
        [{ state with position := state.position + chars.length }]
      else [] := by
  induction chars generalizing state with
  | nil => rfl
  | cons c rest inductionHypothesis =>
      rw [List.map_cons, rowWays, ways, List.getElem?_toArray]
      cases here : path[state.position]? with
      | none =>
          rw [List.drop_eq_nil_of_le (List.getElem?_eq_none_iff.mp here)]
          rfl
      | some d =>
          obtain ⟨within, equal⟩ := List.getElem?_eq_some_iff.mp here
          have moved := inductionHypothesis
            { state with position := state.position + 1 }
          rw [List.drop_eq_getElem_cons within, equal, List.isPrefixOf]
          dsimp only
          rw [CharTest.holds_exactly]
          by_cases same : c = d
          · subst same
            rw [beq_self_eq_true, if_pos rfl, List.flatMap_singleton, moved,
              beq_self_eq_true, Bool.true_and, List.length_cons,
              Nat.add_assoc, Nat.add_comm 1]
          · have otherCode : (d.toNat == c.toNat) = false :=
              beq_false_of_ne fun equalCode =>
                same (Char.toNat_inj.mp equalCode.symm)
            rw [otherCode, beq_false_of_ne same]
            rfl

/-- An option is tried before it is skipped. -/
theorem ways_option
    (body : Regex)
    (text : Array Char)
    (state : MatchState) :
    (loop .greedy 0 (some 1) body).ways text state =
      body.ways text state ++ [state] := by
  have stop (fuel : Nat) (after : MatchState) :
      greedyWays (body.ways text) (fuel + 1) 0 (some 0) (some state.position)
        after = [after] := rfl
  change (body.ways text state).flatMap
    (greedyWays (body.ways text) (0 + (text.size - state.position) + 1) 0
      (some 0) (some state.position)) ++ [state] = _
  rw [funext (stop _), List.flatMap_singleton']

end Regex

namespace Pattern

/-- The groups behind the first `count` belong to the tokens, in order. -/
def Numbers (nameOf : Nat → String) (count : Nat) (tokens : List TokenRef) :
    Prop :=
  ∀ entry ∈ tokens.zipIdx (count + 1), nameOf entry.2 = entry.1.name

/-- The constraints of the tokens bring no groups of their own. -/
def IsFree (last : TokenRef → Reader) (tokens : List TokenRef) : Prop :=
  ∀ ref ∈ tokens, (last ref).groupNames = [] ∧ (last ref).top.body.indices = []

variable
  {last : TokenRef → Reader}
  {nameOf : Nat → String}
  {admits : TokenRef → Nat → List Nat}

theorem numbers_cons_iff
    {count : Nat}
    {ref : TokenRef}
    {tokens : List TokenRef} :
    Numbers nameOf count (ref :: tokens) ↔
      nameOf (count + 1) = ref.name ∧ Numbers nameOf (count + 1) tokens :=
  List.forall_mem_cons

theorem numbers_append_iff
    {count : Nat}
    {first second : List TokenRef} :
    Numbers nameOf count (first ++ second) ↔
      Numbers nameOf count first ∧
        Numbers nameOf (count + first.length) second := by
  rw [Numbers, List.zipIdx_append, List.forall_mem_append,
    Nat.add_right_comm]
  rfl

theorem isFree_cons_iff
    {ref : TokenRef}
    {tokens : List TokenRef} :
    IsFree last (ref :: tokens) ↔
      ((last ref).groupNames = [] ∧ (last ref).top.body.indices = []) ∧
        IsFree last tokens :=
  List.forall_mem_cons

theorem isFree_append_iff
    {first second : List TokenRef} :
    IsFree last (first ++ second) ↔ IsFree last first ∧ IsFree last second :=
  List.forall_mem_append

/-- Without other groups, there is one group for each token. -/
theorem groupNames_of_free
    {tree : Pattern}
    (free : IsFree last tree.tokens) :
    tree.groupNames last = tree.tokens.map fun ref => some ref.name := by
  induction tree with
  | nil => rfl
  | literal text rest inductionHypothesis => exact inductionHypothesis free
  | token ref rest inductionHypothesis =>
      obtain ⟨⟨noGroups, _⟩, restFree⟩ := isFree_cons_iff.mp free
      rw [groupNames, noGroups, inductionHypothesis restFree]
      rfl
  | group inner rest innerHypothesis restHypothesis =>
      obtain ⟨innerFree, restFree⟩ := isFree_append_iff.mp free
      rw [groupNames, innerHypothesis innerFree, restHypothesis restFree,
        tokens, List.map_append]

/-- The ways of the items of a pattern are its readings, in the same order. -/
theorem map_rowWays_items
    {tree : Pattern}
    {count : Nat}
    {path : List Char}
    (numbers : Numbers nameOf count tree.tokens)
    (free : IsFree last tree.tokens)
    (admitted : ∀ ref ∈ tree.tokens,
      admits ref = (last ref).top.body.ends path.toArray)
    (state : MatchState) :
    (rowWays path.toArray (tree.items last count) state).map
        (·.toReading path nameOf) =
      tree.readings admits path (state.toReading path nameOf) := by
  induction tree generalizing count state with
  | nil => rfl
  | literal text rest inductionHypothesis =>
      rw [items, rowWays_append, rowWays_exactly, readings]
      have here : (state.toReading path nameOf).position = state.position := rfl
      rw [here]
      split
      · rw [List.flatMap_singleton]
        exact inductionHypothesis numbers free admitted _
      · rfl
  | token ref rest inductionHypothesis =>
      obtain ⟨name, restNumbers⟩ := numbers_cons_iff.mp numbers
      obtain ⟨⟨noGroups, noIndices⟩, restFree⟩ := isFree_cons_iff.mp free
      obtain ⟨here, restAdmitted⟩ := List.forall_mem_cons.mp admitted
      have behind := inductionHypothesis restNumbers restFree restAdmitted
      rw [items, noGroups, rowWays, ways, shift_of_indices_eq_nil noIndices,
        ways_eq_map_ends noIndices, List.flatMap_map, List.flatMap_map,
        List.map_flatMap, readings, here]
      refine congrArg (List.flatMap · _) (funext fun stop => ?_)
      refine (behind _).trans (congrArg (rest.readings admits path) ?_)
      simp only [MatchState.toReading, MatchState.enter, MatchState.record,
        Reading.record, List.map_cons, name]
  | group inner rest innerHypothesis restHypothesis =>
      obtain ⟨innerNumbers, restNumbers⟩ := numbers_append_iff.mp numbers
      obtain ⟨innerFree, restFree⟩ := isFree_append_iff.mp free
      obtain ⟨innerAdmitted, restAdmitted⟩ :=
        List.forall_mem_append.mp admitted
      have size : (inner.groupNames last).length = inner.tokens.length := by
        rw [groupNames_of_free innerFree, List.length_map]
      have inside := innerHypothesis innerNumbers innerFree innerAdmitted
      have behind := restHypothesis restNumbers restFree restAdmitted
      rw [items, size, rowWays, ways_option, ways, ways_sequence,
        List.flatMap_append, List.flatMap_singleton, List.map_append, behind,
        readings, ← inside, List.map_flatMap, List.flatMap_map]
      simp only [behind]

end Pattern
end PathRouter
