import Mathlib
import PathRouter.Proofs.Compiler.Simulation
import PathRouter.Proofs.Regex.Plain

/-!
# Correctness of the compiler

A pattern whose tokens have plain constraints is compiled into an expression
that reads whole paths as the pattern is interpreted: a token reads up to the
places that its constraint, matched alone, can reach from there.

## Main definitions

* `Compiler.admits`: the places up to which a token can read.

## Main statements

* `Compiler.fullMatch?_eq_interpret?`: compiled and interpreted, a pattern reads
  the same.
-/

namespace PathRouter

open Regex

/-! ## Groups and their tokens -/

namespace Pattern

variable {last : TokenRef → Reader}

/-- The groups of a pattern come one after another. -/
theorem bounds_of_mem_indices_items
    {tree : Pattern}
    {count index : Nat}
    (free : IsFree last tree.tokens)
    (member : index ∈ (tree.items last count).flatMap Regex.indices) :
    count < index ∧ index ≤ count + tree.tokens.length := by
  induction tree generalizing count with
  | nil => cases member
  | literal text rest inductionHypothesis =>
      rw [items, List.flatMap_append, List.flatMap_map] at member
      rcases List.mem_append.mp member with here | behind
      · obtain ⟨_, _, none⟩ := List.mem_flatMap.mp here
        cases none
      · exact inductionHypothesis free behind
  | token ref rest inductionHypothesis =>
      obtain ⟨⟨noGroups, noIndices⟩, restFree⟩ := isFree_cons_iff.mp free
      rw [items, List.flatMap_cons, shift_of_indices_eq_nil noIndices,
        Regex.indices, noIndices, noGroups] at member
      rw [tokens, List.length_cons]
      rcases List.mem_append.mp member with here | behind
      · rw [List.mem_singleton.mp here]
        omega
      · have bounds := inductionHypothesis restFree behind
        rw [List.length_nil] at bounds
        omega
  | group inner rest innerHypothesis restHypothesis =>
      obtain ⟨innerFree, restFree⟩ := isFree_append_iff.mp free
      rw [items, List.flatMap_cons, Regex.indices, Regex.indices,
        indices_sequence, groupNames_of_free innerFree, List.length_map]
        at member
      rw [tokens, List.length_append]
      rcases List.mem_append.mp member with inside | behind
      · have bounds := innerHypothesis innerFree inside
        omega
      · have bounds := restHypothesis restFree behind
        omega

/-- The name of the token to which a group belongs. -/
def nameOf (tree : Pattern) (index : Nat) : String :=
  (tree.tokens[index - 1]?.map TokenRef.name).getD ""

theorem numbers_nameOf (tree : Pattern) :
    Numbers tree.nameOf 0 tree.tokens := by
  rintro ⟨ref, index⟩ member
  obtain ⟨_, found⟩ := List.mk_mem_zipIdx_iff_le_and_getElem?_sub.mp member
  rw [nameOf, found]
  rfl

/-- Different groups belong to tokens with different names. -/
theorem nameOf_inj
    {tree : Pattern}
    (distinct : (tree.tokens.map TokenRef.name).Nodup)
    {first second : Nat}
    (firstBounds : 0 < first ∧ first ≤ tree.tokens.length)
    (secondBounds : 0 < second ∧ second ≤ tree.tokens.length)
    (equal : tree.nameOf first = tree.nameOf second) :
    first = second := by
  have within : first - 1 < (tree.tokens.map TokenRef.name).length := by
    rw [List.length_map]
    omega
  have same : (tree.tokens.map TokenRef.name)[first - 1]? =
      (tree.tokens.map TokenRef.name)[second - 1]? := by
    rw [nameOf, nameOf, List.getElem?_eq_getElem (by omega),
      List.getElem?_eq_getElem (by omega)] at equal
    rw [List.getElem?_map, List.getElem?_map,
      List.getElem?_eq_getElem (by omega),
      List.getElem?_eq_getElem (by omega)]
    exact congrArg some equal
  have places := (List.getElem?_inj within distinct).mp same
  omega

end Pattern

/-- A token has read what its group has read. -/
theorem MatchState.lookup_found_toReading
    {path : List Char}
    {nameOf : Nat → String}
    {state : MatchState}
    {index : Nat}
    (apart : ∀ entry ∈ state.captures,
      nameOf entry.1 = nameOf index → entry.1 = index) :
    (state.toReading path nameOf).found.lookup (nameOf index) =
      Program.captured path.toArray state index := by
  rcases state with ⟨position, captures⟩
  rw [toReading, Program.captured, span?]
  dsimp only at apart ⊢
  induction captures with
  | nil => rfl
  | cons entry rest inductionHypothesis =>
      obtain ⟨other, start, stop⟩ := entry
      have behind := inductionHypothesis fun entry member =>
        apart entry (List.mem_cons_of_mem _ member)
      rw [List.map_cons, List.lookup_cons, List.lookup_cons]
      by_cases same : index = other
      · subst same
        rw [beq_self_eq_true, beq_self_eq_true]
        exact congrArg some (ofList_extract path start stop).symm
      · have different : nameOf index ≠ nameOf other := fun equal =>
          same (apart _ List.mem_cons_self equal.symm).symm
        rw [beq_false_of_ne same, beq_false_of_ne different]
        exact behind

/-! ## Compiled and interpreted -/

namespace Pattern

variable
  {last : TokenRef → Reader}
  {admits : TokenRef → Nat → List Nat}
  {tree : Pattern}

/-- With one group for each token, the named groups are the tokens. -/
theorem namedIndices_groupNames
    (free : IsFree last tree.tokens) :
    namedIndices (tree.groupNames last) =
      tree.tokens.zipIdx.map fun (ref, index) => (ref.name, index + 1) := by
  rw [groupNames_of_free free, namedIndices, List.zipIdx_map,
    List.filterMap_map, ← List.filterMap_eq_map]
  rfl

theorem haveDistinctNames_groupNames
    (free : IsFree last tree.tokens)
    (distinct : (tree.tokens.map TokenRef.name).Nodup) :
    HaveDistinctNames (tree.groupNames last) := by
  rw [groupNames_of_free free, HaveDistinctNames, List.filterMap_map]
  rw [← List.filterMap_eq_map] at distinct
  exact distinct

/-- In every way of reading a pattern, its tokens have read what their groups
have read. -/
theorem captured_eq_lookup
    {path : List Char}
    {state : MatchState}
    (distinct : (tree.tokens.map TokenRef.name).Nodup)
    (free : IsFree last tree.tokens)
    (reached : state ∈ rowWays path.toArray (tree.items last 0) {}) :
    tree.tokens.zipIdx.map
        (fun entry => (entry.1.name,
          Program.captured path.toArray state (entry.2 + 1))) =
      tree.tokens.map fun ref => (ref.name,
        (state.toReading path tree.nameOf).found.lookup ref.name) := by
  have bounds : ∀ entry ∈ state.captures,
      0 < entry.1 ∧ entry.1 ≤ tree.tokens.length := by
    intro entry member
    rcases (records_of_mem_rowWays reached).mem_or member with old | own
    · cases old
    · obtain ⟨item, among, inside⟩ := List.mem_flatMap.mp own
      simpa using bounds_of_mem_indices_items free
        (List.mem_flatMap.mpr ⟨item, among,
          recorded_subset_indices item inside⟩)
  refine (List.map_congr_left fun entry member => ?_).trans
    (List.map_map.symm.trans
      (congrArg (List.map _) (List.zipIdx_map_fst 0 tree.tokens)))
  obtain ⟨ref, place⟩ := entry
  have found := List.mk_mem_zipIdx_iff_getElem?.mp member
  obtain ⟨within, _⟩ := List.getElem?_eq_some_iff.mp found
  have name : tree.nameOf (place + 1) = ref.name := by
    rw [nameOf, Nat.add_sub_cancel, found]
    rfl
  have apart : ∀ entry ∈ state.captures,
      tree.nameOf entry.1 = tree.nameOf (place + 1) → entry.1 = place + 1 :=
    fun entry member => nameOf_inj distinct (bounds entry member)
      ⟨Nat.succ_pos place, within⟩
  have lookup := @MatchState.lookup_found_toReading path _ _ _ apart
  rw [name] at lookup
  exact congrArg (Prod.mk ref.name) lookup.symm

/-- The expression of a pattern reads a whole path as the pattern is
interpreted. -/
theorem fullMatch?_program
    {path : String}
    (distinct : (tree.tokens.map TokenRef.name).Nodup)
    (free : IsFree last tree.tokens)
    (admitted : ∀ ref ∈ tree.tokens,
      admits ref = (last ref).top.body.ends path.toList.toArray) :
    (tree.program last).fullMatch? path = tree.interpret? admits path := by
  have ways := map_rowWays_items tree.numbers_nameOf free admitted {}
  have start : ({} : MatchState).toReading path.toList tree.nameOf = {} := rfl
  rw [start] at ways
  rw [interpret?, ← ways, List.find?_map, Option.map_map]
  rw [Program.fullMatch?, program]
  dsimp only
  rw [fullMatch?_anchored, namedIndices_groupNames free, List.size_toArray]
  change Option.map _ (List.find? (fun state : MatchState =>
    state.position = path.toList.length) _) = Option.map _ (List.find?
      (fun state : MatchState => state.position = path.toList.length) _)
  cases whole : List.find? (fun state : MatchState =>
    state.position = path.toList.length)
      (rowWays path.toList.toArray (tree.items last 0) {}) with
  | none => rfl
  | some state =>
      have reached := List.mem_of_find?_eq_some whole
      refine congrArg (fun entries => some (Table.ofList entries)) ?_
      rw [List.map_map]
      exact captured_eq_lookup distinct free reached

end Pattern

namespace Compiler

section Correctness

variable [CharacterNames]

/-- The places up to which a token can read from a place of a path on. -/
def admits (compiler : Compiler) (path : String) (ref : TokenRef)
    (start : Nat) : List Nat :=
  match compiler.constraint? ref with
  | none => []
  | some constraint =>
      match Regex.parse constraint with
      | .error _ => []
      | .ok program => program.body.ends path.toList.toArray start

variable {compiler : Compiler}

/-- Tokens with plain constraints are read by expressions without groups. -/
theorem exists_last
    {tokens : List TokenRef}
    (plain : ∀ ref ∈ tokens, ∃ constraint,
      compiler.constraint? ref = some constraint ∧ IsPlain constraint) :
    ∃ last : TokenRef → Reader,
      (∀ ref ∈ tokens, ∃ constraint,
        compiler.constraint? ref = some constraint ∧
          Splices constraint (last ref)) ∧
      Pattern.IsFree last tokens ∧
      ∀ ref ∈ tokens, ∀ path, compiler.admits path ref =
        (last ref).top.body.ends path.toList.toArray := by
  have each (ref : TokenRef) : ∃ last : Reader, ref ∈ tokens →
      (∃ constraint, compiler.constraint? ref = some constraint ∧
        Splices constraint last) ∧
      (last.groupNames = [] ∧ last.top.body.indices = []) ∧
      ∀ path, compiler.admits path ref =
        last.top.body.ends path.toList.toArray := by
    by_cases member : ref ∈ tokens
    · obtain ⟨constraint, found, isPlain⟩ := plain ref member
      obtain ⟨last, splices, names, indices, program, parsed, body⟩ :=
        isPlain.exists_splices
      refine ⟨last, fun _ => ⟨⟨constraint, found, splices⟩, ⟨names, indices⟩,
        fun path => funext fun start => ?_⟩⟩
      rw [admits, found]
      dsimp only
      rw [parsed, ← body]
    · exact ⟨{}, fun among => absurd among member⟩
  obtain ⟨last, property⟩ := Classical.skolem.mp each
  exact ⟨last, fun ref member => (property ref member).1,
    fun ref member => (property ref member).2.1,
    fun ref member => (property ref member).2.2⟩

/-- A pattern whose tokens have plain constraints is compiled, and its
expression reads a whole path as the pattern is interpreted: both fail, or both
succeed with the same texts.  Reading an expression has no limit of depth here:
constraints whose nesting exhausts the stack of the machine that reads them are
left out of account. -/
theorem fullMatch?_eq_interpret?
    {pattern : String}
    {tree : Pattern}
    (parsed : parsePattern pattern = .ok tree)
    (plain : ∀ ref ∈ tree.tokens, ∃ constraint,
      compiler.constraint? ref = some constraint ∧ IsPlain constraint) :
    ∃ program, compiler.compile pattern = .ok program ∧
      ∀ path, program.fullMatch? path =
        tree.interpret? (compiler.admits path) path := by
  have isTree : Pattern.parse pattern = .ok tree :=
    mapError_eq_ok_iff.mp parsed
  have distinct := Pattern.nodup_of_parse isTree
  obtain ⟨last, splices, free, admitted⟩ := exists_last plain
  obtain ⟨text, rendered⟩ := @exists_sourceOf compiler tree
    fun ref member => (plain ref member).imp fun _ found => found.1
  have source : compiler.source pattern = .ok ("^" ++ text ++ "$") := by
    rw [Compiler.source, parsed, ok_bind, rendered]
    rfl
  have whole := parse_source rendered
    (fun ref => Pattern.isTokenName_of_parse isTree) splices
    (Pattern.haveDistinctNames_groupNames free distinct)
  refine ⟨tree.program last, ?_, fun path => ?_⟩
  · rw [compile, source, ok_bind, whole]
    rfl
  · exact Pattern.fullMatch?_program distinct free fun ref member =>
      admitted ref member path

end Correctness

open scoped CharacterNames.BasicLatin

/-- A token of digits, and all other tokens of as few letters as possible. -/
def digitsAndLetters : Compiler where
  registry := .ofList [("x", "[\\N\x7bDIGIT ZERO\x7d-9]+")]
  defaultConstraint := .text "[a-z]*?"

/-- A literal question mark behind an optional group. -/
def questionTree : Pattern :=
  .literal "/" (.token { name := "x" }
    (.group (.literal "-" (.token { name := "y" } .nil)) (.literal "?" .nil)))

/-- The question mark does not become the strategy of the group before it, and
the first of the digits may go by its name. -/
theorem fullMatch?_eq_interpret?_question :
    parsePattern "/:x(-:y)?" = .ok questionTree ∧
      (∀ ref ∈ questionTree.tokens, ∃ constraint,
        digitsAndLetters.constraint? ref = some constraint ∧
          IsPlain constraint) ∧
      ∃ program, digitsAndLetters.compile "/:x(-:y)?" = .ok program ∧
        ∀ path, program.fullMatch? path =
          questionTree.interpret? (digitsAndLetters.admits path) path := by
  have parsed : parsePattern "/:x(-:y)?" = .ok questionTree := by cbv
  have plain : ∀ ref ∈ questionTree.tokens, ∃ constraint,
      digitsAndLetters.constraint? ref = some constraint ∧
        IsPlain constraint := by
    intro ref member
    rcases List.mem_cons.mp member with rfl | behind
    · exact ⟨"[\\N\x7bDIGIT ZERO\x7d-9]+", rfl, _, rfl, rfl, rfl⟩
    · rw [List.mem_singleton.mp behind]
      exact ⟨"[a-z]*?", rfl, _, rfl, rfl, rfl⟩
  exact ⟨parsed, plain, fullMatch?_eq_interpret? parsed plain⟩

example : questionTree.interpret? (digitsAndLetters.admits "/12?") "/12?" =
    some (.ofList [("x", some "12"), ("y", none)]) := by rfl

end Compiler
end PathRouter
