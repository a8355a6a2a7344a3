import Mathlib.Data.List.Forall2
import PathRouter.Result
import PathRouter.Router

/-!
# Going through routes

Checking a router and resolving a path both go through the routes in the order
of the table and compile the patterns that they reach.  A check ends at the
first pattern that does not compile; a path ends there, too, unless an earlier
route matches it.

## Main definitions

* `Compiler.Compiles` and `Compiler.Passes`: a pattern compiles; it does, and
  its expression does not match a path.
* `Router.FirstFailure`: what a check of patterns ends with.
* `Router.FirstMatch`: the first route that matches a path.

## Main statements

* `Router.compileAll_eq_ok_iff` and `Router.compileAll_eq_error_iff`: what a
  check finds out.
* `Router.matchRoute_of_firstMatch`: the first match decides.
-/

namespace PathRouter

namespace Compiler

theorem exists_parsePattern_of_source
    {compiler : Compiler}
    {pattern source : String}
    (rendered : compiler.source pattern = .ok source) :
    ∃ tree, parsePattern pattern = .ok tree := by
  obtain ⟨tree, parsed, _⟩ := exists_of_bind rendered
  exact ⟨tree, parsed⟩

variable [CharacterNames]

/-- The pattern compiles. -/
def Compiles (compiler : Compiler) (pattern : String) : Prop :=
  ∃ program, compiler.compile pattern = .ok program

/-- The pattern compiles, and its expression does not match the path. -/
def Passes (compiler : Compiler) (path pattern : String) : Prop :=
  ∃ program, compiler.compile pattern = .ok program ∧
    program.fullMatch? path = none

theorem Compiles.source
    {compiler : Compiler}
    {pattern : String}
    (compiles : compiler.Compiles pattern) :
    ∃ source, compiler.source pattern = .ok source := by
  obtain ⟨program, compiled⟩ := compiles
  obtain ⟨source, rendered, _⟩ := exists_of_bind compiled
  exact ⟨source, rendered⟩

/-- The defaults of a pattern that compiles can be read. -/
theorem Compiles.defaults
    {compiler : Compiler}
    {pattern : String}
    (compiles : compiler.Compiles pattern) :
    ∃ inline, Compiler.defaults pattern = .ok inline := by
  obtain ⟨source, rendered⟩ := compiles.source
  obtain ⟨tree, parsed⟩ := exists_parsePattern_of_source rendered
  exact ⟨.ofList tree.defaults, by rw [Compiler.defaults, parsed, ok_bind]; rfl⟩

end Compiler

namespace Router

variable {compiler : Compiler} {path pattern template : String}

/-! ## Texts of expressions -/

/-- The texts of all expressions come in the order of their patterns. -/
theorem forall₂_of_sourcesOf
    {patterns : List String}
    {sources : List (String × String)}
    (rendered : sourcesOf compiler patterns = .ok sources) :
    List.Forall₂
      (fun pattern entry => entry.1 = pattern ∧
        compiler.source pattern = .ok entry.2)
      patterns sources := by
  induction patterns generalizing sources with
  | nil =>
      cases rendered
      exact .nil
  | cons pattern rest inductionHypothesis =>
      obtain ⟨source, here, rendered⟩ := exists_of_bind rendered
      obtain ⟨behind, others, rendered⟩ := exists_of_bind rendered
      cases rendered
      exact .cons ⟨rfl, here⟩ (inductionHypothesis others)

/-- Without the text of an expression, there are none. -/
theorem exists_of_sourcesOf_eq_error
    {patterns : List String}
    {failure : RoutingError}
    (failed : sourcesOf compiler patterns = .error failure) :
    ∃ pattern ∈ patterns, compiler.source pattern = .error failure := by
  induction patterns with
  | nil => cases failed
  | cons pattern rest inductionHypothesis =>
      rcases bind_eq_error_iff.mp failed with here | ⟨source, _, failed⟩
      · exact ⟨pattern, List.mem_cons_self, here⟩
      · rcases bind_eq_error_iff.mp failed with behind | ⟨sources, _, failed⟩
        · obtain ⟨other, member, failed⟩ := inductionHypothesis behind
          exact ⟨other, List.mem_cons_of_mem _ member, failed⟩
        · cases failed

variable [CharacterNames]

/-! ## Checks -/

/-- The failure of the first of some patterns that does not compile. -/
def FirstFailure (compiler : Compiler) (patterns : List String)
    (failure : RoutingError) : Prop :=
  ∃ before pattern after,
    patterns = before ++ pattern :: after ∧
      (∀ earlier ∈ before, compiler.Compiles earlier) ∧
      compiler.compile pattern = .error failure

theorem compileAll_cons_of_compiles
    (compiles : compiler.Compiles pattern)
    (rest : List String) :
    compileAll compiler (pattern :: rest) = compileAll compiler rest := by
  obtain ⟨program, compiled⟩ := compiles
  rw [compileAll, compiled, ok_bind]

theorem compileAll_cons_of_error
    {failure : RoutingError}
    (failed : compiler.compile pattern = .error failure)
    (rest : List String) :
    compileAll compiler (pattern :: rest) = .error failure := by
  rw [compileAll, failed, error_bind]

/-- Patterns that compile make no difference to a check. -/
theorem compileAll_append_of_compiles
    {before : List String}
    (all : ∀ pattern ∈ before, compiler.Compiles pattern)
    (rest : List String) :
    compileAll compiler (before ++ rest) = compileAll compiler rest := by
  induction before with
  | nil => rfl
  | cons pattern before inductionHypothesis =>
      rw [List.cons_append,
        compileAll_cons_of_compiles (all pattern List.mem_cons_self)]
      exact inductionHypothesis fun other member =>
        all other (List.mem_cons_of_mem _ member)

/-- All patterns compile, or one is the first that does not. -/
theorem forall_compiles_or_exists_firstFailure
    (compiler : Compiler)
    (patterns : List String) :
    (∀ pattern ∈ patterns, compiler.Compiles pattern) ∨
      ∃ failure, FirstFailure compiler patterns failure := by
  induction patterns with
  | nil => exact .inl (by simp)
  | cons pattern rest inductionHypothesis =>
      cases compiled : compiler.compile pattern with
      | error failure =>
          exact .inr ⟨failure, [], pattern, rest, rfl, by simp, compiled⟩
      | ok program =>
          have compiles : compiler.Compiles pattern := ⟨program, compiled⟩
          rcases inductionHypothesis with all | ⟨failure, first⟩
          · exact .inl (List.forall_mem_cons.mpr ⟨compiles, all⟩)
          · obtain ⟨before, failing, after, rfl, all, failed⟩ := first
            exact .inr ⟨failure, pattern :: before, failing, after, rfl,
              List.forall_mem_cons.mpr ⟨compiles, all⟩, failed⟩

theorem compileAll_of_compiles
    {patterns : List String}
    (all : ∀ pattern ∈ patterns, compiler.Compiles pattern) :
    compileAll compiler patterns = .ok () := by
  have checked := compileAll_append_of_compiles all []
  rwa [List.append_nil] at checked

theorem FirstFailure.compileAll_eq
    {patterns : List String}
    {failure : RoutingError}
    (first : FirstFailure compiler patterns failure) :
    compileAll compiler patterns = .error failure := by
  obtain ⟨before, failing, after, rfl, all, failed⟩ := first
  rw [compileAll_append_of_compiles all, compileAll_cons_of_error failed]

/-- A check succeeds exactly when all patterns compile. -/
theorem compileAll_eq_ok_iff (patterns : List String) :
    compileAll compiler patterns = .ok () ↔
      ∀ pattern ∈ patterns, compiler.Compiles pattern := by
  refine ⟨fun checked => ?_, compileAll_of_compiles⟩
  rcases forall_compiles_or_exists_firstFailure compiler patterns with
    all | ⟨failure, first⟩
  · exact all
  · rw [first.compileAll_eq] at checked
    cases checked

/-- A check fails exactly with the failure of the first pattern that does not
compile. -/
theorem compileAll_eq_error_iff
    (patterns : List String)
    (failure : RoutingError) :
    compileAll compiler patterns = .error failure ↔
      FirstFailure compiler patterns failure := by
  refine ⟨fun checked => ?_, FirstFailure.compileAll_eq⟩
  rcases forall_compiles_or_exists_firstFailure compiler patterns with
    all | ⟨actual, first⟩
  · rw [compileAll_of_compiles all] at checked
    cases checked
  · rw [first.compileAll_eq] at checked
    cases checked
    exact first

/-- The texts of all expressions are there when all patterns compile. -/
theorem exists_sourcesOf
    {patterns : List String}
    (all : ∀ pattern ∈ patterns, compiler.Compiles pattern) :
    ∃ sources, sourcesOf compiler patterns = .ok sources := by
  induction patterns with
  | nil => exact ⟨[], rfl⟩
  | cons pattern rest inductionHypothesis =>
      obtain ⟨source, rendered⟩ := (all pattern List.mem_cons_self).source
      obtain ⟨sources, behind⟩ := inductionHypothesis fun other member =>
        all other (List.mem_cons_of_mem _ member)
      refine ⟨(pattern, source) :: sources, ?_⟩
      rw [sourcesOf, rendered, ok_bind, behind, ok_bind]
      rfl

/-! ## Paths -/

/-- The route to which the first match of a path leads, where the expressions
of all routes before it are known not to match. -/
inductive FirstMatch (compiler : Compiler) (path : String) :
    List (String × String) → Route → Prop
  | here
      {pattern template : String}
      {program : Regex.Program}
      {captures : Captures}
      {inline : Table String}
      (compiled : compiler.compile pattern = .ok program)
      (matched : program.fullMatch? path = some captures)
      (defaults : Compiler.defaults pattern = .ok inline)
      (rest : List (String × String)) :
      FirstMatch compiler path ((pattern, template) :: rest)
        (.ofTarget (Target.parse template) captures inline)
  | later
      {pattern template : String}
      {rest : List (String × String)}
      {route : Route}
      (passes : compiler.Passes path pattern)
      (behind : FirstMatch compiler path rest route) :
      FirstMatch compiler path ((pattern, template) :: rest) route

theorem findRoute_cons_of_passes
    (passes : compiler.Passes path pattern)
    (rest : List (String × String)) :
    findRoute compiler path ((pattern, template) :: rest) =
      findRoute compiler path rest := by
  obtain ⟨program, compiled, unmatched⟩ := passes
  rw [findRoute, compiled, ok_bind, unmatched]

/-- Routes whose expressions do not match make no difference. -/
theorem findRoute_append_of_passes
    {before : List (String × String)}
    (pass : ∀ entry ∈ before, compiler.Passes path entry.1)
    (rest : List (String × String)) :
    findRoute compiler path (before ++ rest) =
      findRoute compiler path rest := by
  induction before with
  | nil => rfl
  | cons entry before inductionHypothesis =>
      rw [List.cons_append,
        findRoute_cons_of_passes (pass entry List.mem_cons_self)]
      exact inductionHypothesis fun other member =>
        pass other (List.mem_cons_of_mem _ member)

theorem findRoute_cons_of_error
    {failure : RoutingError}
    (failed : compiler.compile pattern = .error failure)
    (rest : List (String × String)) :
    findRoute compiler path ((pattern, template) :: rest) =
      .error failure := by
  rw [findRoute, failed, error_bind]

/-- Among routes that compile, one is the first to match or all of them pass
the path on. -/
theorem exists_firstMatch_or_passes
    (path : String)
    {entries : List (String × String)}
    (all : ∀ entry ∈ entries, compiler.Compiles entry.1) :
    (∃ route, FirstMatch compiler path entries route) ∨
      ∀ entry ∈ entries, compiler.Passes path entry.1 := by
  induction entries with
  | nil => exact .inr (by simp)
  | cons entry rest inductionHypothesis =>
      obtain ⟨pattern, template⟩ := entry
      obtain ⟨program, compiled⟩ := all (pattern, template) List.mem_cons_self
      have compiles : compiler.Compiles pattern := ⟨program, compiled⟩
      cases found : program.fullMatch? path with
      | some captures =>
          obtain ⟨inline, defaults⟩ := compiles.defaults
          exact .inl ⟨_, .here compiled found defaults rest⟩
      | none =>
          have passes : compiler.Passes path pattern :=
            ⟨program, compiled, found⟩
          have behind := inductionHypothesis fun other member =>
            all other (List.mem_cons_of_mem _ member)
          rcases behind with ⟨route, first⟩ | pass
          · exact .inl ⟨route, .later passes first⟩
          · exact .inr (List.forall_mem_cons.mpr ⟨passes, pass⟩)

/-- Routes behind the first match make no difference. -/
theorem FirstMatch.append
    {entries : List (String × String)}
    {route : Route}
    (first : FirstMatch compiler path entries route)
    (after : List (String × String)) :
    FirstMatch compiler path (entries ++ after) route := by
  induction first with
  | here compiled matched defaults rest =>
      exact .here compiled matched defaults (rest ++ after)
  | later passes _ inductionHypothesis =>
      exact .later passes inductionHypothesis

/-- The first match is found, with what its pattern and its template are. -/
theorem FirstMatch.findRoute_eq
    {entries : List (String × String)}
    {route : Route}
    (first : FirstMatch compiler path entries route) :
    ∃ pattern template captures inline,
      findRoute compiler path entries =
          .ok (some (pattern, template, captures)) ∧
        Compiler.defaults pattern = .ok inline ∧
        route = .ofTarget (Target.parse template) captures inline := by
  induction first with
  | @here pattern template program captures inline compiled matched defaults
      rest =>
      refine ⟨pattern, template, captures, inline, ?_, defaults, rfl⟩
      rw [findRoute, compiled, ok_bind, matched]
      rfl
  | later passes _ inductionHypothesis =>
      rw [findRoute_cons_of_passes passes]
      exact inductionHypothesis

/-- The first match is what a path leads to. -/
theorem matchRoute_of_firstMatch
    {router : Router}
    {route : Route}
    (first : FirstMatch router.compiler path router.routes.entries route) :
    router.matchRoute path = .ok (some route) := by
  obtain ⟨pattern, template, captures, inline, found, defaults, rfl⟩ :=
    first.findRoute_eq
  rw [matchRoute, resolve, found, ok_bind]
  change Resolution.route? <$> (Compiler.defaults pattern >>= _) = _
  rw [defaults]
  rfl

theorem matchRoute_of_passes
    {router : Router}
    (pass : ∀ entry ∈ router.routes.entries,
      router.compiler.Passes path entry.1) :
    router.matchRoute path = .ok none := by
  have found := findRoute_append_of_passes pass []
  rw [List.append_nil] at found
  rw [matchRoute, resolve, found]
  rfl

/-- A path that all routes before it pass on ends at a pattern that does not
compile. -/
theorem matchRoute_of_failure
    {router : Router}
    {before after : List (String × String)}
    {failure : RoutingError}
    (split : router.routes.entries = before ++ (pattern, template) :: after)
    (pass : ∀ entry ∈ before, router.compiler.Passes path entry.1)
    (failed : router.compiler.compile pattern = .error failure) :
    router.matchRoute path = .error failure := by
  rw [matchRoute, resolve, split, findRoute_append_of_passes pass,
    findRoute_cons_of_error failed]
  rfl

end Router
end PathRouter
