import PathRouter.Compiler
import PathRouter.Proofs.Pattern.Tokens
import PathRouter.Proofs.Regex.Contribution

/-!
# The expression of a pattern

The text of the expression of a pattern is assembled from literal texts, named
groups around constraints, and options.  It is read as the expression that
these parts make: the seams between them disappear, and the groups of a
constraint are numbered behind the group of its token.

## Main definitions

* `Pattern.items` and `Pattern.groupNames`: the items and the groups of the
  expression of a pattern.
* `Pattern.program`: the expression of a pattern.

## Main statements

* `Compiler.contributes_sourceOf`: the text of a pattern contributes its items.
* `Compiler.parse_source`: the text stands for the expression of the pattern.
-/

namespace PathRouter

open Regex

/-! ## What a pattern adds -/

namespace Pattern

variable (last : TokenRef → Reader)

/-- The names of the groups of a pattern, where each token brings the groups of
its constraint. -/
def groupNames : Pattern → List (Option String)
  | nil => []
  | literal _ rest => rest.groupNames
  | token ref rest => some ref.name :: (last ref).groupNames ++ rest.groupNames
  | group inner rest => inner.groupNames ++ rest.groupNames

/-- The items of the expression of a pattern behind `count` groups. -/
def items : Pattern → (count : Nat) → List Regex
  | nil, _ => []
  | literal text rest, count =>
      text.toList.map (fun c => .one (.exactly c.toNat)) ++ rest.items count
  | token ref rest, count =>
      .capture (count + 1) ((last ref).top.body.shift (count + 1)) ::
        rest.items (count + (last ref).groupNames.length + 1)
  | group inner rest, count =>
      .loop .greedy 0 (some 1) (.group (sequence (inner.items count))) ::
        rest.items (count + (inner.groupNames last).length)

/-- What a pattern looks for behind a place, its constraints look for. -/
theorem exists_of_mem_widthsBehind
    {tree : Pattern}
    {count : Nat}
    {width : Width}
    (member : width ∈ (tree.items last count).flatMap widthsBehind) :
    ∃ ref ∈ tree.tokens, width ∈ (last ref).top.body.widthsBehind := by
  induction tree generalizing count with
  | nil => cases member
  | literal content rest inductionHypothesis =>
      rw [items, List.flatMap_append, List.flatMap_map] at member
      rcases List.mem_append.mp member with here | behind
      · obtain ⟨_, _, none⟩ := List.mem_flatMap.mp here
        cases none
      · exact inductionHypothesis behind
  | token ref rest inductionHypothesis =>
      rw [items, List.flatMap_cons] at member
      rcases List.mem_append.mp member with here | behind
      · rw [widthsBehind, widthsBehind_shift] at here
        exact ⟨ref, List.mem_cons_self, here⟩
      · obtain ⟨other, present, inside⟩ := inductionHypothesis behind
        exact ⟨other, List.mem_cons_of_mem _ present, inside⟩
  | group inner rest innerHypothesis restHypothesis =>
      rw [items, List.flatMap_cons] at member
      rcases List.mem_append.mp member with here | behind
      · rw [widthsBehind, widthsBehind, widthsBehind_sequence] at here
        obtain ⟨other, present, inside⟩ := innerHypothesis here
        exact ⟨other, List.mem_append_left _ present, inside⟩
      · obtain ⟨other, present, inside⟩ := restHypothesis behind
        exact ⟨other, List.mem_append_right _ present, inside⟩

/-- The expression of a pattern, anchored at both ends. -/
def program (tree : Pattern) : Program where
  body := sequence
    (.assert .textStart :: (tree.items last 0 ++ [.assert .lastLineEnd]))
  groupCount := (tree.groupNames last).length
  names := namedIndices (tree.groupNames last)

end Pattern

namespace Compiler

variable
  {compiler : Compiler}
  {last : TokenRef → Reader}

theorem exists_sourceOf
    {tree : Pattern}
    (declared : ∀ ref ∈ tree.tokens, ∃ constraint,
      compiler.constraint? ref = some constraint) :
    ∃ text, compiler.sourceOf tree = .ok text := by
  induction tree with
  | nil => exact ⟨"", rfl⟩
  | literal content rest inductionHypothesis =>
      obtain ⟨behind, rendered⟩ := inductionHypothesis declared
      rw [sourceOf, rendered]
      exact ⟨_, rfl⟩
  | token ref rest inductionHypothesis =>
      obtain ⟨⟨constraint, found⟩, restDeclared⟩ :=
        List.forall_mem_cons.mp declared
      obtain ⟨behind, rendered⟩ := inductionHypothesis restDeclared
      rw [sourceOf, found]
      dsimp only
      rw [rendered]
      exact ⟨_, rfl⟩
  | group inner rest innerHypothesis restHypothesis =>
      obtain ⟨innerDeclared, restDeclared⟩ :=
        List.forall_mem_append.mp declared
      obtain ⟨inside, innerRendered⟩ := innerHypothesis innerDeclared
      obtain ⟨behind, rendered⟩ := restHypothesis restDeclared
      rw [sourceOf, innerRendered, ok_bind, rendered]
      exact ⟨_, rfl⟩

variable [CharacterNames]

/-- The text of a pattern contributes its items and its groups. -/
theorem contributes_sourceOf
    {tree : Pattern}
    {text : String}
    (rendered : compiler.sourceOf tree = .ok text)
    (named : ∀ ref ∈ tree.tokens, IsTokenName ref.name)
    (splices : ∀ ref ∈ tree.tokens, ∀ constraint,
      compiler.constraint? ref = some constraint →
        Splices constraint (last ref)) :
    Contributes text (tree.groupNames last) (tree.items last) := by
  induction tree generalizing text with
  | nil =>
      cases rendered
      exact .empty
  | literal content rest inductionHypothesis =>
      obtain ⟨behind, renderedRest, equal⟩ := exists_of_bind rendered
      cases equal
      exact (Contributes.literal content).append
        (inductionHypothesis renderedRest named splices)
  | token ref rest inductionHypothesis =>
      rw [sourceOf] at rendered
      cases found : compiler.constraint? ref with
      | none =>
          rw [found] at rendered
          cases rendered
      | some constraint =>
          rw [found] at rendered
          obtain ⟨behind, renderedRest, equal⟩ := exists_of_bind rendered
          cases equal
          obtain ⟨isName, restNamed⟩ := List.forall_mem_cons.mp named
          obtain ⟨refSplices, restSplices⟩ := List.forall_mem_cons.mp splices
          have here := Contributes.named (isName.not_mem (by decide))
            (isName.not_mem (by decide)) isName.isIdentifier
            (refSplices constraint found)
          exact here.append
            (inductionHypothesis renderedRest restNamed restSplices)
  | group inner rest innerHypothesis restHypothesis =>
      obtain ⟨inside, renderedInner, remaining⟩ := exists_of_bind rendered
      obtain ⟨behind, renderedRest, equal⟩ := exists_of_bind remaining
      cases equal
      obtain ⟨innerNamed, restNamed⟩ := List.forall_mem_append.mp named
      obtain ⟨innerSplices, restSplices⟩ := List.forall_mem_append.mp splices
      have here := innerHypothesis renderedInner innerNamed innerSplices
      exact here.optional.append
        (restHypothesis renderedRest restNamed restSplices)

/-- The text of the expression of a pattern stands for that expression. -/
theorem parse_source
    {tree : Pattern}
    {text : String}
    (rendered : compiler.sourceOf tree = .ok text)
    (named : ∀ ref ∈ tree.tokens, IsTokenName ref.name)
    (splices : ∀ ref ∈ tree.tokens, ∃ constraint,
      compiler.constraint? ref = some constraint ∧
        Splices constraint (last ref))
    (distinct : HaveDistinctNames (tree.groupNames last)) :
    Regex.parse ("^" ++ text ++ "$") = .ok (tree.program last) := by
  have body := contributes_sourceOf rendered named
    fun ref member constraint found => by
      obtain ⟨other, same, splicesOther⟩ := splices ref member
      rw [found] at same
      cases same
      exact splicesOther
  have whole := (Contributes.caret.append body).append .dollar
  simp only [List.nil_append, List.append_nil, List.length_nil,
    Nat.add_zero] at whole
  refine whole.parse_eq_ok distinct ?_
  refine checkWidthsBehind_of_subset fun width member => ?_
  rw [widthsBehind_sequence, List.flatMap_append, List.flatMap_append]
    at member
  rcases List.mem_append.mp member with front | ending
  · rcases List.mem_append.mp front with start | inside
    · cases start
    · obtain ⟨ref, present, among⟩ := Pattern.exists_of_mem_widthsBehind last
        inside
      obtain ⟨_, _, splicesRef⟩ := splices ref present
      exact ⟨_, among, splicesRef.reads.widths⟩
  · cases ending

end Compiler
end PathRouter
