import Mathlib
import PathRouter.Proofs.Router.Arguments
import PathRouter.Target

/-!
# Templates without an arrow

A bracket ends a field of a target template as an arrow does, and the fields are
told by their places alone.  So the fields of a template without an arrow are
its parts between brackets: what stands behind its first bracket, up to the next
one, is taken for the method.

## Main definitions

* `Target.unspaced`: the characters of a template that count.
* `Target.HoldsBehindBracket`: something stands right behind the first bracket
  of a text.

## Main statements

* `Target.fields_eq_splitOnP`: without an arrow, brackets alone end a field.
* `Target.method?_of_noArrow`: which templates without an arrow, and which
  routes that lead to them, have a method.
-/

namespace PathRouter
namespace Target

/-- The characters of a template that count. -/
def unspaced (template : String) : List Char :=
  template.toList.filter fun c => !Text.isBlank c.toNat

/-- Whether a character is a bracket. -/
def isBracket (c : Char) : Bool := c == '(' || c == ')'

/-- The characters in front of the first bracket of a text. -/
def beforeBracket (text : List Char) : List Char :=
  text.takeWhile (!isBracket ·)

/-- The characters behind the first bracket of a text. -/
def behindBracket (text : List Char) : List Char :=
  (text.dropWhile (!isBracket ·)).drop 1

/-- The first bracket of a text has a character right behind it that is no
bracket. -/
def HoldsBehindBracket (text : List Char) : Prop :=
  ∃ before bracket c behind, text = before ++ bracket :: c :: behind ∧
    (∀ d ∈ before, isBracket d = false) ∧ isBracket bracket = true ∧
    isBracket c = false

variable {text : List Char} {template : String}

theorem isBracket_eq_true_iff {c : Char} :
    isBracket c = true ↔ c = '(' ∨ c = ')' := by
  rw [isBracket, Bool.or_eq_true, beq_iff_eq, beq_iff_eq]

/-! ## The first bracket -/

/-- There is no bracket in a text, or one of them is the first. -/
theorem forall_or_exists_bracket (text : List Char) :
    (∀ c ∈ text, isBracket c = false) ∨
      ∃ before bracket behind, text = before ++ bracket :: behind ∧
        (∀ c ∈ before, isBracket c = false) ∧ isBracket bracket = true := by
  induction text with
  | nil => exact .inl nofun
  | cons c rest inductionHypothesis =>
      cases bracket : isBracket c with
      | true => exact .inr ⟨[], c, rest, rfl, nofun, bracket⟩
      | false =>
          rcases inductionHypothesis with none | ⟨before, first, behind, rfl,
            free, isFirst⟩
          · exact .inl (List.forall_mem_cons.mpr ⟨bracket, none⟩)
          · exact .inr ⟨c :: before, first, behind, rfl,
              List.forall_mem_cons.mpr ⟨bracket, free⟩, isFirst⟩

section FirstBracket

variable {before behind : List Char} {bracket : Char}

theorem not_isBracket_of_free
    (free : ∀ c ∈ before, isBracket c = false) :
    ∀ c ∈ before, (!isBracket c) = true := by
  intro c member
  rw [free c member]
  rfl

/-- Without a bracket, a text is what stands in front of one. -/
theorem beforeBracket_of_free
    (free : ∀ c ∈ before, isBracket c = false) :
    beforeBracket before = before :=
  List.takeWhile_eq_self_iff.mpr (not_isBracket_of_free free)

theorem behindBracket_of_free
    (free : ∀ c ∈ before, isBracket c = false) :
    behindBracket before = [] := by
  rw [behindBracket,
    List.dropWhile_eq_nil_iff.mpr (not_isBracket_of_free free)]
  rfl

theorem beforeBracket_append
    (free : ∀ c ∈ before, isBracket c = false)
    (isFirst : isBracket bracket = true) :
    beforeBracket (before ++ bracket :: behind) = before := by
  rw [beforeBracket, List.takeWhile_append_of_pos (not_isBracket_of_free free)]
  simp [isFirst]

theorem behindBracket_append
    (free : ∀ c ∈ before, isBracket c = false)
    (isFirst : isBracket bracket = true) :
    behindBracket (before ++ bracket :: behind) = behind := by
  rw [behindBracket, List.dropWhile_append_of_pos (not_isBracket_of_free free)]
  simp [isFirst]

end FirstBracket

/-- Something stands right behind the first bracket of a text exactly if there
is something between this bracket and the next one. -/
theorem holdsBehindBracket_iff :
    HoldsBehindBracket text ↔ beforeBracket (behindBracket text) ≠ [] := by
  constructor
  · rintro ⟨before, bracket, c, behind, rfl, free, isFirst, other⟩
    rw [behindBracket_append free isFirst]
    simp [beforeBracket, other]
  · intro something
    rcases forall_or_exists_bracket text with free | ⟨before, bracket, behind,
      rfl, free, isFirst⟩
    · rw [behindBracket_of_free free] at something
      exact absurd rfl something
    · rw [behindBracket_append free isFirst] at something
      cases behind with
      | nil => exact absurd rfl something
      | cons c behind =>
          refine ⟨before, bracket, c, behind, rfl, free, isFirst, ?_⟩
          apply Bool.eq_false_iff.mpr
          intro isNext
          exact something (@beforeBracket_append [] behind c nofun isNext)

/-! ## Fields between brackets -/

/-- Without an arrow, the fields of a text are its parts between brackets. -/
theorem fields_eq_splitOnP
    (noArrow : ¬['-', '>'] <:+: text) :
    fields text = text.splitOnP isBracket := by
  induction text with
  | nil => rfl
  | cons c rest inductionHypothesis =>
      have apart : ∀ behind, c = '-' → rest = '>' :: behind → False := by
        rintro behind rfl rfl
        exact noArrow ⟨[], behind, rfl⟩
      have behind := inductionHypothesis fun arrow =>
        noArrow (List.infix_cons arrow)
      rw [fields.eq_3 c rest apart, behind,
        List.splitOnP_cons_eq_if_modifyHead]
      simp only [isBracket_eq_true_iff]
      split
      · rfl
      · cases split : rest.splitOnP isBracket with
        | nil => exact absurd split (List.splitOnP_ne_nil _ _)
        | cons field more => rfl

/-- The first part of a text between brackets. -/
theorem getD_splitOnP_zero (text : List Char) :
    (text.splitOnP isBracket).getD 0 [] = beforeBracket text := by
  rcases forall_or_exists_bracket text with free | ⟨before, bracket, behind,
    rfl, free, isFirst⟩
  · rw [List.splitOnP_eq_singleton free, beforeBracket_of_free free]
    rfl
  · rw [List.splitOnP_append_cons _ _ isFirst,
      List.splitOnP_eq_singleton free, beforeBracket_append free isFirst]
    rfl

/-- The second part of a text between brackets, if there is one. -/
theorem getD_splitOnP_one (text : List Char) :
    (text.splitOnP isBracket).getD 1 [] =
      beforeBracket (behindBracket text) := by
  rcases forall_or_exists_bracket text with free | ⟨before, bracket, behind,
    rfl, free, isFirst⟩
  · rw [List.splitOnP_eq_singleton free, behindBracket_of_free free]
    rfl
  · rw [List.splitOnP_append_cons _ _ isFirst,
      List.splitOnP_eq_singleton free, behindBracket_append free isFirst,
      ← getD_splitOnP_zero]
    rfl

/-- Without an arrow, the method is what stands behind the first bracket. -/
theorem method?_eq_nonempty?
    (noArrow : ¬['-', '>'] <:+: unspaced template) :
    (parse template).method? =
      nonempty? (beforeBracket (behindBracket (unspaced template))) := by
  rw [← getD_splitOnP_one, ← fields_eq_splitOnP noArrow]
  rfl

theorem nonempty?_eq_none_iff {field : List Char} :
    nonempty? field = none ↔ field = [] := by
  rw [nonempty?]
  cases field <;> simp

/-- Without an arrow, there is no method unless something stands right behind
the first bracket. -/
theorem method?_eq_none_iff
    (noArrow : ¬['-', '>'] <:+: unspaced template) :
    (parse template).method? = none ↔
      ¬HoldsBehindBracket (unspaced template) := by
  rw [method?_eq_nonempty? noArrow, nonempty?_eq_none_iff,
    holdsBehindBracket_iff, not_not]

/-! ## Methods of templates and routes -/

/-- A template without an arrow has a method exactly if something stands right
behind its first bracket, and the method is what stands there, up to the next
bracket.  So it is with the routes that are found by such a template. -/
theorem method?_of_noArrow
    [CharacterNames]
    {template : String}
    (noArrow : ¬['-', '>'] <:+: unspaced template) :
    (parse template).method? =
        nonempty? (beforeBracket (behindBracket (unspaced template))) ∧
      ((parse template).method? = none ↔
        ¬HoldsBehindBracket (unspaced template)) ∧
      ∀ {router : Router} {path pattern : String} {route : Route},
        router.resolve path = .ok (.matched pattern route) →
        router.routes.get? pattern = some template →
          (route.hasMethod = false ↔
            ¬HoldsBehindBracket (unspaced template)) := by
  refine ⟨method?_eq_nonempty? noArrow, method?_eq_none_iff noArrow, ?_⟩
  intro router path pattern route resolved registered
  obtain ⟨found, captures, _, rfl⟩ :=
    Router.exists_routeMatch_of_resolve resolved
  cases found.registered.symm.trans registered
  rw [← method?_eq_none_iff noArrow, Route.hasMethod,
    Option.isSome_eq_false_iff, Option.isNone_iff_eq_none]
  rfl

open scoped CharacterNames.BasicLatin

/-- A router with two templates that lack their arrow. -/
def pagesRouter : Router :=
  (Router.empty.addRoute "/x" "Pages(a=1)").addRoute "/y" "Pages ) ( show"

/-- What stands behind a later bracket is no method. -/
theorem method?_of_noArrow_pages :
    ¬['-', '>'] <:+: unspaced "Pages ) ( show" ∧
      (parse "Pages ) ( show").method? = none ∧
      ∃ route, pagesRouter.resolve "/y" = .ok (.matched "/y" route) ∧
        route.hasMethod = false := by
  have noArrow : ¬['-', '>'] <:+: unspaced "Pages ) ( show" := by decide
  have nothing : ¬HoldsBehindBracket (unspaced "Pages ) ( show") := by
    rw [holdsBehindBracket_iff]
    decide
  have resolved : pagesRouter.resolve "/y" = .ok (.matched "/y"
      ⟨some "Pages", none, some (.ofList [("show", "")])⟩) := by
    cbv
  have registered : pagesRouter.routes.get? "/y" = some "Pages ) ( show" := by
    decide
  obtain ⟨_, methodless, routes⟩ := method?_of_noArrow noArrow
  exact ⟨noArrow, methodless.mpr nothing, _, resolved,
    (routes resolved registered).mpr nothing⟩

/-- Without an arrow, the arguments of a template are taken for its method. -/
theorem hasMethod_pages :
    ¬['-', '>'] <:+: unspaced "Pages(a=1)" ∧
      (parse "Pages(a=1)").method? = some "a=1" ∧
      ∃ route, pagesRouter.resolve "/x" = .ok (.matched "/x" route) ∧
        route.hasMethod = true := by
  have resolved : pagesRouter.resolve "/x" =
      .ok (.matched "/x" ⟨some "Pages", some "a=1", some {}⟩) := by
    cbv
  exact ⟨by decide, by decide, _, resolved, rfl⟩

end Target
end PathRouter
