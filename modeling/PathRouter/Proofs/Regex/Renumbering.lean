import PathRouter.Regex.Basic

/-!
# Renumbering groups

An expression that is spliced into another one finds groups before its own, so
that all numbers in it move up.  Its shape and its bounds stay the same.

## Main definitions

* `Regex.indices`: the groups that an expression captures or refers to.
* `Regex.shift`: the expression with the numbers of its groups moved up.

## Main statements

* `Regex.width_shift`: moving groups and their bounds together changes no
  bounds.
* `Regex.shift_of_indices_eq_nil`: without groups nothing moves.
-/

namespace PathRouter
namespace Regex

/-- The groups that an expression captures or refers to. -/
def indices : Regex → List Nat
  | empty | one _ | assert _ => []
  | backreference _ index => [index]
  | seq first second => first.indices ++ second.indices
  | alt first second => first.indices ++ second.indices
  | loop _ _ _ body => body.indices
  | capture index body => index :: body.indices
  | group body => body.indices
  | ifGroup index yes no => index :: (yes.indices ++ no.indices)
  | ahead _ body => body.indices
  | behind _ _ body => body.indices
  | atomic body => body.indices

/-- An expression whose groups stand behind `offset` others. -/
def shift (offset : Nat) : Regex → Regex
  | empty => empty
  | one test => one test
  | assert anchor => assert anchor
  | backreference folding index => backreference folding (offset + index)
  | seq first second => seq (first.shift offset) (second.shift offset)
  | alt first second => alt (first.shift offset) (second.shift offset)
  | loop strategy least most body =>
      loop strategy least most (body.shift offset)
  | capture index body => capture (offset + index) (body.shift offset)
  | group body => group (body.shift offset)
  | ifGroup index yes no =>
      ifGroup (offset + index) (yes.shift offset) (no.shift offset)
  | ahead positive body => ahead positive (body.shift offset)
  | behind positive width body => behind positive width (body.shift offset)
  | atomic body => atomic (body.shift offset)

/-! ## Rows and alternatives -/

theorem sequence_shift (offset : Nat) (row : List Regex) :
    sequence (row.map (shift offset)) = (sequence row).shift offset := by
  fun_induction sequence row with
  | case1 => rfl
  | case2 r => rfl
  | case3 r rest nonempty inductionHypothesis =>
      cases rest with
      | nil => exact absurd rfl nonempty
      | cons next rest =>
          rw [List.map_cons, List.map_cons, sequence, shift,
            ← inductionHypothesis, List.map_cons]
          exact List.cons_ne_nil _ _

theorem alternation_shift (offset : Nat) (branches : List Regex) :
    alternation (branches.map (shift offset)) =
      (alternation branches).shift offset := by
  fun_induction alternation branches with
  | case1 => rfl
  | case2 r => rfl
  | case3 r rest nonempty inductionHypothesis =>
      cases rest with
      | nil => exact absurd rfl nonempty
      | cons next rest =>
          rw [List.map_cons, List.map_cons, alternation, shift,
            ← inductionHypothesis, List.map_cons]
          exact List.cons_ne_nil _ _

theorem indices_sequence (row : List Regex) :
    (sequence row).indices = row.flatMap indices := by
  fun_induction sequence row with
  | case1 => rfl
  | case2 r => simp
  | case3 r rest nonempty inductionHypothesis =>
      rw [indices, inductionHypothesis, List.flatMap_cons]

theorem indices_alternation (branches : List Regex) :
    (alternation branches).indices = branches.flatMap indices := by
  fun_induction alternation branches with
  | case1 => rfl
  | case2 r => simp
  | case3 r rest nonempty inductionHypothesis =>
      rw [indices, inductionHypothesis, List.flatMap_cons]

theorem widthsBehind_sequence (row : List Regex) :
    (sequence row).widthsBehind = row.flatMap widthsBehind := by
  fun_induction sequence row with
  | case1 => rfl
  | case2 r => simp
  | case3 r rest nonempty inductionHypothesis =>
      rw [widthsBehind, inductionHypothesis, List.flatMap_cons]

/-! ## What moving groups keeps -/

@[simp] theorem isAnchor_shift (offset : Nat) (r : Regex) :
    (r.shift offset).isAnchor = r.isAnchor := by
  cases r <;> rfl

@[simp] theorem isLoop_shift (offset : Nat) (r : Regex) :
    (r.shift offset).isLoop = r.isLoop := by
  cases r <;> rfl

/-- Moving groups together with their bounds changes no bounds. -/
theorem width_shift
    {offset : Nat}
    {before after : Nat → Width}
    {r : Regex}
    (moved : ∀ index ∈ r.indices, after (offset + index) = before index) :
    (r.shift offset).width after = r.width before := by
  induction r with
  | backreference folding index => exact moved index List.mem_cons_self
  | seq first second firstHypothesis secondHypothesis
  | alt first second firstHypothesis secondHypothesis =>
      have onFirst := firstHypothesis fun index member =>
        moved index (List.mem_append_left _ member)
      have onSecond := secondHypothesis fun index member =>
        moved index (List.mem_append_right _ member)
      rw [shift, width, width, onFirst, onSecond]
  | loop strategy least most body inductionHypothesis =>
      rw [shift, width, width, inductionHypothesis moved]
  | capture index body inductionHypothesis =>
      exact inductionHypothesis fun index member =>
        moved index (List.mem_cons_of_mem _ member)
  | group body inductionHypothesis
  | atomic body inductionHypothesis => exact inductionHypothesis moved
  | ifGroup index yes no yesHypothesis noHypothesis =>
      have onYes := yesHypothesis fun index member =>
        moved index (List.mem_cons_of_mem _ (List.mem_append_left _ member))
      have onNo := noHypothesis fun index member =>
        moved index (List.mem_cons_of_mem _ (List.mem_append_right _ member))
      rw [shift, width, width, onYes, onNo]
  | empty | one _ | assert _ | ahead _ _ _ | behind _ _ _ _ => rfl

@[simp] theorem widthsBehind_shift (offset : Nat) (r : Regex) :
    (r.shift offset).widthsBehind = r.widthsBehind := by
  induction r with
  | empty | one _ | assert _ | backreference _ _ => rfl
  | _ => simp only [shift, widthsBehind, *]

/-- Without groups nothing moves. -/
theorem shift_of_indices_eq_nil
    {offset : Nat}
    {r : Regex}
    (free : r.indices = []) :
    r.shift offset = r := by
  induction r with
  | empty | one _ | assert _ => rfl
  | backreference _ _ | capture _ _ _ | ifGroup _ _ _ _ _ => cases free
  | seq first second firstHypothesis secondHypothesis
  | alt first second firstHypothesis secondHypothesis =>
      have parts := List.append_eq_nil_iff.mp free
      rw [shift, firstHypothesis parts.1, secondHypothesis parts.2]
  | loop _ _ _ _ inductionHypothesis | group _ inductionHypothesis
  | ahead _ _ inductionHypothesis | behind _ _ _ inductionHypothesis
  | atomic _ inductionHypothesis =>
      rw [shift, inductionHypothesis free]

end Regex
end PathRouter
