import Mathlib
import PathRouter.Proofs.Compiler.Assembly
import PathRouter.Proofs.Regex.Limits

/-!
# Limits of patterns

Whatever the constraints are, a pattern that cannot be compiled is mostly said
to be a wrong configuration.  The exceptions are limits: a constraint may hold
a repetition count, or spell a code point, that is too large to be read, and
then the pattern fails with the limit instead.

## Main statements

* `Compiler.compile_isConfiguration_iff`: the failure of a pattern is one of
  the configuration unless the text of its expression exceeds a limit.
-/

namespace PathRouter
namespace Compiler

variable {compiler : Compiler} {pattern source : String}

/-- The text of an expression begins with an anchor. -/
theorem head?_toList_of_source
    (rendered : compiler.source pattern = .ok source) :
    source.toList.head? = some '^' := by
  obtain ⟨tree, parsed, _⟩ := exists_of_bind rendered
  obtain ⟨text, _, rfl⟩ := exists_sourceOf_of_source parsed rendered
  rw [String.toList_append, String.toList_append]
  rfl

/-- Rendering a pattern fails only because of the configuration. -/
theorem isConfiguration_of_source
    {failure : RoutingError}
    (failed : compiler.source pattern = .error failure) :
    failure.kind.isConfiguration = true := by
  rw [Compiler.source, parsePattern] at failed
  cases parsed : Pattern.parse pattern with
  | error fault =>
      rw [parsed] at failed
      cases failed
      rfl
  | ok tree =>
      rw [parsed] at failed
      cases rendered : compiler.sourceOf tree with
      | ok body =>
          simp only [Except.mapError, ok_bind, rendered] at failed
          cases failed
      | error ref =>
          simp only [Except.mapError, ok_bind, rendered] at failed
          cases failed
          rfl

section Limits

variable [CharacterNames]

/-- The text of the expression of a pattern exceeds a limit. -/
def SourceExceeds
    (compiler : Compiler)
    (pattern : String)
    (exceeded : Limit) : Prop :=
  ∃ source, compiler.source pattern = .ok source ∧
    Regex.ExceedsLimit source exceeded

theorem blamesUnless_compile (compiler : Compiler) (pattern : String) :
    BlamesUnless (compiler.SourceExceeds pattern)
      (compiler.compile pattern) := by
  refine .bind ?_ fun source rendered => ?_
  · cases rendered : compiler.source pattern with
    | ok source => trivial
    | error failure => exact .inl (isConfiguration_of_source rendered)
  · have anchored := head?_toList_of_source rendered
    cases parsed : Regex.parse source with
    | ok program => trivial
    | error fault =>
        cases fault with
        | malformed cause position => exact .inl rfl
        | limit exceeded =>
            have exceeds := (Regex.parse_eq_limit_iff anchored).mp parsed
            exact .inr ⟨exceeded, rfl, source, rendered, exceeds⟩

theorem SourceExceeds.compile_eq
    {exceeded : Limit}
    (exceeds : compiler.SourceExceeds pattern exceeded) :
    compiler.compile pattern = .error (.limit exceeded) := by
  obtain ⟨source, rendered, exceeds⟩ := exceeds
  have anchored := head?_toList_of_source rendered
  rw [compile, rendered, ok_bind,
    (Regex.parse_eq_limit_iff anchored).mpr exceeds]
  rfl

/-- A pattern is compiled, or it fails as a wrong configuration, exactly if the
text of its expression, if there is one, does not exceed a limit.  Reading an
expression has no limit of depth here, so that this says nothing of expressions
whose nesting exhausts the stack of the machine that reads them. -/
theorem compile_isConfiguration_iff
    (compiler : Compiler)
    (pattern : String) :
    ((∃ program, compiler.compile pattern = .ok program) ∨
      ∃ failure, compiler.compile pattern = .error failure ∧
        failure.kind.isConfiguration = true) ↔
      ∀ source exceeded, compiler.source pattern = .ok source →
        ¬Regex.ExceedsLimit source exceeded := by
  have blames := blamesUnless_compile compiler pattern
  rw [blames.ok_or_isConfiguration_iff fun _ => SourceExceeds.compile_eq]
  constructor
  · intro never source exceeded rendered exceeds
    exact never exceeded ⟨source, rendered, exceeds⟩
  · rintro never exceeded ⟨source, rendered, exceeds⟩
    exact never source exceeded rendered exceeds

end Limits

open scoped CharacterNames.BasicLatin

/-- A registry whose only constraint counts too far. -/
def countless : Compiler where
  registry := .ofList [(":a", "a\x7b4294967295\x7d")]

/-- A repetition count that is too large is not blamed on the configuration. -/
theorem compile_countless :
    countless.compile "/:a" = .error (.limit .repetitionCount) ∧
      (RoutingError.limit .repetitionCount).kind.isConfiguration = false := by
  have source : countless.source "/:a" =
      .ok "^/(?P<a>a\x7b4294967295\x7d)$" := by cbv
  have refused : Regex.parse "^/(?P<a>a\x7b4294967295\x7d)$" =
      .error (.limit .repetitionCount) := by cbv
  refine ⟨?_, rfl⟩
  rw [compile, source, ok_bind, refused]
  rfl

end Compiler
end PathRouter
