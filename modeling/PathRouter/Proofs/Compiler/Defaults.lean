import Mathlib
import PathRouter.Proofs.Compiler.Rendering
import PathRouter.Proofs.Pattern.WithoutDefaults

/-!
# Defaults and expressions

The defaults that a pattern gives have no influence on what it matches: without
them, its text is a pattern if it was one, with the same expression, or with the
same token that has no constraint.

## Main statements

* `Compiler.sourceOf_bare`: a tree is rendered without looking at its defaults.
* `Compiler.source_withoutDefaults`: a pattern and the same pattern without its
  defaults.
-/

namespace PathRouter
namespace Compiler

variable {compiler : Compiler} {pattern : String}

/-- A tree is rendered without looking at its defaults. -/
theorem sourceOf_bare (tree : Pattern) :
    compiler.sourceOf tree.bare =
      (compiler.sourceOf tree).mapError TokenRef.bare := by
  induction tree with
  | nil => rfl
  | literal text rest inductionHypothesis =>
      rw [Pattern.bare, sourceOf, sourceOf, inductionHypothesis]
      cases compiler.sourceOf rest <;> rfl
  | token ref rest inductionHypothesis =>
      have same : compiler.constraint? ref.bare = compiler.constraint? ref :=
        rfl
      rw [Pattern.bare, sourceOf, sourceOf, inductionHypothesis, same]
      cases compiler.constraint? ref with
      | none => rfl
      | some constraint => cases compiler.sourceOf rest <;> rfl
  | group inner rest innerHypothesis restHypothesis =>
      rw [Pattern.bare, sourceOf, sourceOf, innerHypothesis, restHypothesis]
      cases compiler.sourceOf inner with
      | error ref => rfl
      | ok inside => cases compiler.sourceOf rest <;> rfl

section Texts

variable {tree : Pattern}

/-- A text without its defaults is a pattern if the text is one, and then stands
for the same tree without defaults. -/
theorem parsePattern_withoutDefaults_eq_ok_iff {row : Pattern} :
    parsePattern (String.ofList (Pattern.withoutDefaults pattern.toList)) =
        .ok row ↔
      ∃ tree, parsePattern pattern = .ok tree ∧ tree.bare = row := by
  simp only [parsePattern, mapError_eq_ok_iff]
  exact Pattern.parse_withoutDefaults_eq_ok_iff

/-- A pattern without its defaults is rendered like its tree. -/
theorem source_withoutDefaults_of_parse
    (parsed : parsePattern pattern = .ok tree) :
    compiler.source
        (String.ofList (Pattern.withoutDefaults pattern.toList)) =
      match compiler.sourceOf tree with
      | .ok body => .ok ("^" ++ body ++ "$")
      | .error ref => .error (.undeclaredToken ref.key
          (String.ofList (Pattern.withoutDefaults pattern.toList))) := by
  have kept := parsePattern_withoutDefaults_eq_ok_iff.mpr ⟨tree, parsed, rfl⟩
  rw [source_of_parse kept, sourceOf_bare]
  cases compiler.sourceOf tree <;> rfl

/-- The same expressions are rendered with and without defaults. -/
theorem source_withoutDefaults_eq_ok_iff {source : String} :
    compiler.source
        (String.ofList (Pattern.withoutDefaults pattern.toList)) =
          .ok source ↔
      compiler.source pattern = .ok source := by
  have same {tree : Pattern} (parsed : parsePattern pattern = .ok tree) :
      compiler.source
          (String.ofList (Pattern.withoutDefaults pattern.toList)) =
            .ok source ↔
        compiler.source pattern = .ok source := by
    rw [source_withoutDefaults_of_parse parsed, source_of_parse parsed]
    cases compiler.sourceOf tree with
    | ok body => rfl
    | error ref => exact iff_of_false nofun nofun
  constructor
  · intro rendered
    obtain ⟨row, kept, _⟩ := exists_of_bind rendered
    obtain ⟨tree, parsed, _⟩ := parsePattern_withoutDefaults_eq_ok_iff.mp kept
    exact (same parsed).mp rendered
  · intro rendered
    obtain ⟨tree, parsed, _⟩ := exists_of_bind rendered
    exact (same parsed).mpr rendered

theorem compile_eq_ok_iff [CharacterNames] {program : Regex.Program} :
    compiler.compile pattern = .ok program ↔
      ∃ source, compiler.source pattern = .ok source ∧
        Regex.parse source = .ok program := by
  rw [compile]
  cases compiler.source pattern <;> simp

end Texts

/-- The defaults of a pattern have no influence on what it matches.  Without
them, its text is a pattern if and only if it is one with them.  Then either
both have the same expression, or the same token is reported of both; so what
one compiles to, the other one compiles to, and the pattern without its
defaults gives none. -/
theorem source_withoutDefaults
    [CharacterNames]
    (compiler : Compiler)
    (pattern : String) :
    let left := String.ofList (Pattern.withoutDefaults pattern.toList)
    ((∃ tree, parsePattern left = .ok tree) ↔
        ∃ tree, parsePattern pattern = .ok tree) ∧
      ((∃ tree, parsePattern pattern = .ok tree) ↔
        (∃ source, compiler.source pattern = .ok source ∧
            compiler.source left = .ok source) ∨
          ∃ token,
            compiler.source pattern =
              .error (.undeclaredToken token pattern) ∧
            compiler.source left = .error (.undeclaredToken token left)) ∧
      (∀ program, compiler.compile left = .ok program ↔
        compiler.compile pattern = .ok program) ∧
      ((∃ tree, parsePattern pattern = .ok tree) ↔
        defaults left = .ok .empty) := by
  intro left
  have accepted : (∃ tree, parsePattern left = .ok tree) ↔
      ∃ tree, parsePattern pattern = .ok tree := by
    constructor
    · rintro ⟨row, kept⟩
      obtain ⟨tree, parsed, _⟩ := parsePattern_withoutDefaults_eq_ok_iff.mp kept
      exact ⟨tree, parsed⟩
    · rintro ⟨tree, parsed⟩
      exact ⟨tree.bare,
        parsePattern_withoutDefaults_eq_ok_iff.mpr ⟨tree, parsed, rfl⟩⟩
  refine ⟨accepted, ?_, fun program => ?_, ?_⟩
  · constructor
    · rintro ⟨tree, parsed⟩
      rw [source_of_parse parsed, source_withoutDefaults_of_parse parsed]
      cases compiler.sourceOf tree with
      | ok body => exact .inl ⟨_, rfl, rfl⟩
      | error ref => exact .inr ⟨_, rfl, rfl⟩
    · rintro (⟨source, rendered, _⟩ | ⟨token, failed, _⟩)
      · obtain ⟨tree, parsed, _⟩ := exists_of_bind rendered
        exact ⟨tree, parsed⟩
      · exact exists_parsePattern_of_undeclared failed
  · simp only [compile_eq_ok_iff, left, source_withoutDefaults_eq_ok_iff]
  · constructor
    · rintro ⟨tree, parsed⟩
      have kept :=
        parsePattern_withoutDefaults_eq_ok_iff.mpr ⟨tree, parsed, rfl⟩
      rw [defaults, kept, ok_bind, Pattern.defaults_bare]
      rfl
    · intro none
      obtain ⟨row, kept, _⟩ := exists_of_bind none
      exact accepted.mp ⟨row, kept⟩

/-- A second equals sign belongs to the default, and an equals sign without a
name in front of it starts none. -/
example : Pattern.withoutDefaults "/:a==b:c=(=/:d=x:=y)".toList =
    "/:a:c(=/:d:=y)".toList := by
  decide +kernel

end Compiler
end PathRouter
