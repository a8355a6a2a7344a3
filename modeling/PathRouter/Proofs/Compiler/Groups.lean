import Mathlib
import PathRouter.Proofs.Compiler.Structure
import PathRouter.Proofs.Regex.SelfContained

/-!
# Groups of compiled patterns

A pattern whose tokens have self-contained constraints compiles, and its groups
are the groups of its tokens, each followed by the groups of its constraint.

## Main definitions

* `Compiler.tokenIndex`: the index of the group of a token.
* `Compiler.tokenGroups`: the named groups of a pattern.

## Main statements

* `Compiler.exists_compile_of_isSelfContained`: the pattern compiles, and its
  groups are in their places.
-/

namespace PathRouter

open Regex

/-- The groups of a pattern are those of its tokens, in order. -/
theorem Pattern.groupNames_eq_flatMap
    (last : TokenRef → Reader)
    (tree : Pattern) :
    tree.groupNames last =
      tree.tokens.flatMap fun ref =>
        some ref.name :: (last ref).groupNames := by
  induction tree with
  | nil => rfl
  | literal content rest inductionHypothesis => exact inductionHypothesis
  | token ref rest inductionHypothesis =>
      rw [groupNames, inductionHypothesis, tokens, List.flatMap_cons]
  | group inner rest innerHypothesis restHypothesis =>
      rw [groupNames, innerHypothesis, restHypothesis, tokens,
        List.flatMap_append]

namespace Compiler

/-! ## Places of groups -/

section Places

variable (own : TokenRef → Program)

/-- The index of the group of the token at a place, behind the tokens before it
and the groups of their constraints. -/
def tokenIndex (tokens : List TokenRef) (place : Nat) : Nat :=
  place + 1 + ((tokens.take place).map fun ref => (own ref).groupCount).sum

/-- The named groups of tokens: each token, followed by the named groups of its
constraint. -/
def tokenGroups (tokens : List TokenRef) : List (String × Nat) :=
  tokens.zipIdx.flatMap fun (ref, place) =>
    (ref.name, tokenIndex own tokens place) ::
      (own ref).names.map fun (name, index) =>
        (name, tokenIndex own tokens place + index)

theorem tokenIndex_cons_succ
    (ref : TokenRef)
    (rest : List TokenRef)
    (place : Nat) :
    tokenIndex own (ref :: rest) (place + 1) =
      (own ref).groupCount + 1 + tokenIndex own rest place := by
  rw [tokenIndex, tokenIndex, List.take_succ_cons, List.map_cons,
    List.sum_cons]
  omega

/-- A token and its constraint push the groups behind them back. -/
theorem tokenGroups_cons (ref : TokenRef) (rest : List TokenRef) :
    tokenGroups own (ref :: rest) =
      (ref.name, 1) ::
        (own ref).names.map (fun (name, index) => (name, 1 + index)) ++
        (tokenGroups own rest).map fun (name, index) =>
          (name, (own ref).groupCount + 1 + index) := by
  rw [tokenGroups, List.zipIdx_cons, List.flatMap_cons, List.zipIdx_succ,
    List.flatMap_map, tokenGroups, List.map_flatMap]
  refine congrArg (_ :: List.map _ (own ref).names ++ ·) ?_
  congr 1
  funext entry
  rw [List.map_cons, List.map_map]
  simp only [tokenIndex_cons_succ, Function.comp_def, Nat.add_assoc]

end Places

section Names

variable {own : TokenRef → Program} {last : TokenRef → Reader}

/-- The named groups of tokens are those of the readers of their
constraints. -/
theorem namedIndices_flatMap
    {tokens : List TokenRef}
    (known : ∀ ref ∈ tokens,
      (own ref).groupCount = (last ref).groupNames.length ∧
        (own ref).names = namedIndices (last ref).groupNames) :
    namedIndices
        (tokens.flatMap fun ref => some ref.name :: (last ref).groupNames) =
      tokenGroups own tokens := by
  induction tokens with
  | nil => rfl
  | cons ref rest inductionHypothesis =>
      obtain ⟨⟨count, names⟩, restKnown⟩ := List.forall_mem_cons.mp known
      have first : namedIndices (some ref.name :: (last ref).groupNames) =
          (ref.name, 1) :: (namedIndices (last ref).groupNames).map
            fun (name, index) => (name, 1 + index) :=
        namedIndices_append [some ref.name] (last ref).groupNames
      rw [List.flatMap_cons, namedIndices_append, first,
        inductionHypothesis restKnown, tokenGroups_cons, names, count,
        List.length_cons]

theorem length_flatMap
    {tokens : List TokenRef}
    (known : ∀ ref ∈ tokens,
      (own ref).groupCount = (last ref).groupNames.length) :
    (tokens.flatMap fun ref =>
        some ref.name :: (last ref).groupNames).length =
      tokens.length + (tokens.map fun ref => (own ref).groupCount).sum := by
  induction tokens with
  | nil => rfl
  | cons ref rest inductionHypothesis =>
      obtain ⟨count, restKnown⟩ := List.forall_mem_cons.mp known
      rw [List.flatMap_cons, List.length_append,
        inductionHypothesis restKnown, List.map_cons, List.sum_cons, count,
        List.length_cons, List.length_cons]
      omega

theorem haveDistinctNames_flatMap
    {tokens : List TokenRef}
    (known : ∀ ref ∈ tokens,
      (own ref).names = namedIndices (last ref).groupNames)
    (distinct : (tokens.flatMap fun ref =>
      ref.name :: (own ref).names.map Prod.fst).Nodup) :
    HaveDistinctNames
      (tokens.flatMap fun ref => some ref.name :: (last ref).groupNames) := by
  have names : ∀ ref ∈ tokens,
      (some ref.name :: (last ref).groupNames).filterMap id =
        ref.name :: (own ref).names.map Prod.fst := by
    intro ref member
    rw [known ref member, map_fst_namedIndices]
    rfl
  rw [HaveDistinctNames, List.filterMap_flatMap, List.flatMap_def,
    List.map_congr_left names]
  exact distinct

end Names

/-! ## Compiling -/

section Compiling

variable
  [CharacterNames]
  {compiler : Compiler}
  {own : TokenRef → Program}

/-- The readers at the ends of self-contained constraints. -/
theorem exists_last_of_isSelfContained
    {tokens : List TokenRef}
    (selfContained : ∀ ref ∈ tokens, ∃ constraint,
      compiler.constraint? ref = some constraint ∧
        IsSelfContained constraint (own ref)) :
    ∃ last : TokenRef → Reader, ∀ ref ∈ tokens,
      (∃ constraint, compiler.constraint? ref = some constraint ∧
        Splices constraint (last ref)) ∧
      (own ref).groupCount = (last ref).groupNames.length ∧
      (own ref).names = namedIndices (last ref).groupNames := by
  have each (ref : TokenRef) : ∃ last : Reader, ref ∈ tokens →
      (∃ constraint, compiler.constraint? ref = some constraint ∧
        Splices constraint last) ∧
      (own ref).groupCount = last.groupNames.length ∧
      (own ref).names = namedIndices last.groupNames := by
    by_cases member : ref ∈ tokens
    · obtain ⟨constraint, found, isSelfContained⟩ := selfContained ref member
      obtain ⟨last, splices, count, names⟩ := isSelfContained.exists_splices
      exact ⟨last, fun _ => ⟨⟨constraint, found, splices⟩, count, names⟩⟩
    · exact ⟨{}, fun among => absurd among member⟩
  exact Classical.skolem.mp each

/-- A pattern compiles if the constraints of its tokens are self-contained and
no two groups share a name.  Its groups are the groups of its tokens, each
followed by the groups of its constraint.  Reading has no limit of depth here:
expressions whose nesting exhausts the stack of the machine that reads them are
left out of account. -/
theorem exists_compile_of_isSelfContained
    {pattern : String}
    {tree : Pattern}
    (parsed : parsePattern pattern = .ok tree)
    (selfContained : ∀ ref ∈ tree.tokens, ∃ constraint,
      compiler.constraint? ref = some constraint ∧
        IsSelfContained constraint (own ref))
    (distinct : (tree.tokens.flatMap fun ref =>
      ref.name :: (own ref).names.map Prod.fst).Nodup) :
    ∃ program, compiler.compile pattern = .ok program ∧
      program.groupCount = tree.tokens.length +
        (tree.tokens.map fun ref => (own ref).groupCount).sum ∧
      (∀ place ref, tree.tokens[place]? = some ref →
        (ref.name, tokenIndex own tree.tokens place) ∈ program.names) ∧
      program.names = tokenGroups own tree.tokens := by
  have isTree : Pattern.parse pattern = .ok tree :=
    mapError_eq_ok_iff.mp parsed
  obtain ⟨last, known⟩ := exists_last_of_isSelfContained selfContained
  obtain ⟨text, rendered⟩ := @exists_sourceOf compiler tree
    fun ref member => (selfContained ref member).imp fun _ found => found.1
  have source : compiler.source pattern = .ok ("^" ++ text ++ "$") := by
    rw [Compiler.source, parsed, ok_bind, rendered]
    rfl
  have whole := parse_source rendered
    (fun ref => Pattern.isTokenName_of_parse isTree)
    (fun ref member => (known ref member).1)
    (by
      rw [Pattern.groupNames_eq_flatMap]
      exact haveDistinctNames_flatMap
        (fun ref member => (known ref member).2.2) distinct)
  have names : (tree.program last).names = tokenGroups own tree.tokens := by
    rw [Pattern.program, Pattern.groupNames_eq_flatMap]
    exact namedIndices_flatMap fun ref member => (known ref member).2
  refine ⟨tree.program last, ?_, ?_, ?_, names⟩
  · rw [compile, source, ok_bind, whole]
    rfl
  · rw [Pattern.program, Pattern.groupNames_eq_flatMap]
    exact length_flatMap fun ref member => (known ref member).2.1
  · intro place ref found
    rw [names]
    refine List.mem_flatMap.mpr ⟨(ref, place), ?_, List.mem_cons_self⟩
    exact List.mk_mem_zipIdx_iff_getElem?.mpr found

end Compiling

open scoped CharacterNames.BasicLatin

/-- Two tokens whose constraints have groups, one of them with a name. -/
def dateAndFlag : Compiler where
  registry := .ofList [("date", "(?P<year>a)(b)"), ("flag", "(a)?|b")]

/-- The expressions of the two constraints by themselves. -/
def dateAndFlagOwn (ref : TokenRef) : Program :=
  let a : Regex := .one (.exactly 97)
  let b : Regex := .one (.exactly 98)
  if ref.name = "date" then
    { body := .seq (.capture 1 a) (.capture 2 b)
      groupCount := 2
      names := [("year", 1)] }
  else
    { body := .alt (.loop .greedy 0 (some 1) (.capture 1 a)) b
      groupCount := 1
      names := [] }

/-- A date, and a flag in an optional group. -/
def dateAndFlagTree : Pattern :=
  .literal "/" (.token { name := "date" }
    (.group (.literal "-" (.token { name := "flag" } .nil)) .nil))

/-- The flag comes behind the date and the two groups of its constraint. -/
theorem exists_compile_of_isSelfContained_date :
    parsePattern "/:date(-:flag)" = .ok dateAndFlagTree ∧
      (∀ ref ∈ dateAndFlagTree.tokens, ∃ constraint,
        dateAndFlag.constraint? ref = some constraint ∧
          IsSelfContained constraint (dateAndFlagOwn ref)) ∧
      ∃ program, dateAndFlag.compile "/:date(-:flag)" = .ok program ∧
        program.groupCount = 5 ∧
        program.names = [("date", 1), ("year", 2), ("flag", 4)] := by
  have parsed : parsePattern "/:date(-:flag)" = .ok dateAndFlagTree := by
    cbv
  have date : IsSelfContained "(?P<year>a)(b)"
      (dateAndFlagOwn { name := "date" }) :=
    ⟨by cbv, by cbv, Reader.isNumberFree_iff.mp (by cbv), by cbv⟩
  have flag : IsSelfContained "(a)?|b" (dateAndFlagOwn { name := "flag" }) :=
    ⟨by cbv, by cbv, Reader.isNumberFree_iff.mp (by cbv),
      by cbv⟩
  have selfContained : ∀ ref ∈ dateAndFlagTree.tokens, ∃ constraint,
      dateAndFlag.constraint? ref = some constraint ∧
        IsSelfContained constraint (dateAndFlagOwn ref) := by
    intro ref member
    rcases List.mem_cons.mp member with rfl | behind
    · exact ⟨_, by cbv, date⟩
    · cases List.mem_singleton.mp behind
      exact ⟨_, by cbv, flag⟩
  obtain ⟨program, compiled, count, _, names⟩ :=
    exists_compile_of_isSelfContained parsed selfContained (by decide)
  exact ⟨parsed, selfContained, program, compiled, count, names⟩

end Compiler
end PathRouter
