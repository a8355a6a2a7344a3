import Mathlib
import PathRouter.Proofs.Arguments.Merging
import PathRouter.Proofs.Pattern.References
import PathRouter.Proofs.Regex.Naming
import PathRouter.Result
import PathRouter.Router

/-!
# Arguments of resolved routes

The arguments of a route that a path leads to come from three places: the groups
that took part in the match, the target template, and the pattern.  Each of them
counts where the ones before it say nothing.

## Main definitions

* `Router.RouteMatch`: a registered pattern whose expression matches a path.
* `Router.RouteMatch.captured`: what the named groups have read.

## Main statements

* `Router.arguments_of_resolve`: the arguments of a route, and the law by which
  they are merged.
-/

namespace PathRouter

namespace Router

section Arguments

variable [CharacterNames]

/-- A registered pattern whose expression matches a path. -/
structure RouteMatch (router : Router) (path pattern : String) where
  /-- The template of the target. -/
  template : String
  /-- What the pattern stands for. -/
  tree : Pattern
  /-- The expression of the pattern. -/
  program : Regex.Program
  /-- The state in which the expression has read the path. -/
  state : MatchState
  /-- The pattern is registered with the template. -/
  registered : router.routes.get? pattern = some template
  /-- The pattern can be read. -/
  parsed : parsePattern pattern = .ok tree
  /-- The pattern compiles. -/
  compiled : router.compiler.compile pattern = .ok program
  /-- The expression matches the whole path. -/
  matched : program.body.fullMatch? path.toList.toArray = some state

namespace RouteMatch

variable {router : Router} {path pattern : String}

/-- The target to which the route leads. -/
def target (found : router.RouteMatch path pattern) : Target :=
  .parse found.template

/-- What the named groups that took part in the match have read. -/
def captured (found : router.RouteMatch path pattern) :
    List (String × String) :=
  found.program.names.filterMap fun (name, index) =>
    (Regex.Program.captured path.toList.toArray found.state index).map
      (name, ·)

/-- The named groups come in the order of their indices. -/
theorem isNamed (found : router.RouteMatch path pattern) :
    found.program.IsNamed := by
  obtain ⟨source, _, parsed⟩ := exists_of_bind found.compiled
  exact Regex.isNamed_of_parse (mapError_eq_ok_iff.mp parsed)

/-- What the groups have read are the captures of the expression. -/
theorem captured_eq_participating
    (found : router.RouteMatch path pattern)
    {captures : Captures}
    (matched : found.program.fullMatch? path = some captures) :
    found.captured = captures.participating := by
  obtain ⟨state, reached, entries⟩ :=
    found.isNamed.entries_of_fullMatch? matched
  cases found.matched.symm.trans reached
  rw [Captures.participating, entries, List.filterMap_map]
  rfl

end RouteMatch

variable {router : Router} {path pattern template : String}

theorem exists_of_findRoute
    {compiler : Compiler}
    {captures : Captures}
    {entries : List (String × String)}
    (found : findRoute compiler path entries =
      .ok (some (pattern, template, captures))) :
    (pattern, template) ∈ entries ∧
      ∃ program, compiler.compile pattern = .ok program ∧
        program.fullMatch? path = some captures := by
  induction entries with
  | nil => cases found
  | cons entry rest inductionHypothesis =>
      obtain ⟨program, compiled, tried⟩ := exists_of_bind found
      split at tried
      · rename_i matched
        cases tried
        exact ⟨List.mem_cons_self, program, compiled, matched⟩
      · obtain ⟨member, behind⟩ := inductionHypothesis tried
        exact ⟨List.mem_cons_of_mem _ member, behind⟩

/-- A path leads to the target of a match, with the arguments that the match
gives. -/
theorem exists_routeMatch_of_resolve
    {route : Route}
    (resolved : router.resolve path = .ok (.matched pattern route)) :
    ∃ (found : router.RouteMatch path pattern) (captures : Captures),
      found.program.fullMatch? path = some captures ∧
      route = .ofTarget found.target captures
        (.ofList found.tree.defaults) := by
  obtain ⟨found?, search, decided⟩ := exists_of_bind resolved
  split at decided
  · cases decided
  · obtain ⟨inline, defaults, equal⟩ := exists_of_bind decided
    obtain ⟨tree, parsed, isInline⟩ := exists_of_bind defaults
    cases isInline
    cases equal
    obtain ⟨member, program, compiled, matched⟩ := exists_of_findRoute search
    obtain ⟨state, reached, _⟩ := Option.map_eq_some_iff.mp matched
    refine ⟨⟨_, tree, program, state, Table.get?_of_mem member, parsed,
      compiled, reached⟩, _, matched, rfl⟩

/-- The arguments of a resolved route are what the groups that took part in the
match have read, in the order of the groups; then the defaults of the target
whose names are new to these; then the defaults of the pattern whose names are
new to both.  Every token with a default has an argument.  For any captures and
tables of defaults, merging them layers them: the captures win over the tables
and an earlier table over a later one, and more tables move no entry. -/
theorem arguments_of_resolve :
    (∀ {router : Router} {path pattern : String} {route : Route},
      router.resolve path = .ok (.matched pattern route) →
        ∃ (found : router.RouteMatch path pattern) (arguments : Arguments),
          router.matchRoute path = .ok (some route) ∧
          route = ⟨found.target.controller?, found.target.method?,
            some arguments⟩ ∧
          arguments.entries =
            found.captured ++
            newEntries found.captured found.target.defaults.entries ++
            newEntries (found.captured ++ found.target.defaults.entries)
              found.tree.defaults ∧
          found.program.names.Pairwise (fun first second =>
            first.2 < second.2) ∧
          arguments.keys.Nodup ∧
          ∀ ref ∈ found.tree.tokens, ref.default? ≠ none →
            ref.name ∈ arguments) ∧
    ∀ (captures : Captures) (tables : List (Table String)),
      (Arguments.merge captures tables).entries =
        layered (captures.participating :: tables.map Table.entries) ∧
      (∀ name, (Arguments.merge captures tables).get? name =
        (captures.get? name).join.or (tables.findSome? (·.get? name))) ∧
      ∀ more, (Arguments.merge captures tables).entries <+:
        (Arguments.merge captures (tables ++ more)).entries := by
  refine ⟨?_, fun captures tables => ⟨Arguments.entries_merge captures tables,
    Arguments.get?_merge captures tables,
    Arguments.merge_append_extends captures tables⟩⟩
  intro router path pattern route resolved
  obtain ⟨found, captures, matched, equal⟩ :=
    exists_routeMatch_of_resolve resolved
  have layers : (Arguments.extract captures found.target
      (.ofList found.tree.defaults)).entries =
        layered [found.captured, found.target.defaults.entries,
          found.tree.defaults] := by
    rw [Arguments.extract, Arguments.entries_merge, List.map_cons,
      List.map_singleton, Pattern.entries_ofList_defaults found.parsed,
      found.captured_eq_participating matched]
  refine ⟨found, .extract captures found.target (.ofList found.tree.defaults),
    ?_, equal, layers.trans layered_three, found.isNamed.ascending,
    Table.distinct _, ?_⟩
  · rw [matchRoute, resolved]
    rfl
  · intro ref member given
    change ref.name ∈ (Arguments.extract captures found.target
      (.ofList found.tree.defaults)).entries.map Prod.fst
    rw [layers, mem_keys_layered]
    exact ⟨found.tree.defaults, by simp,
      Pattern.mem_keys_defaults member given⟩

end Arguments

open scoped CharacterNames.BasicLatin

/-- A router whose route gives each of its arguments in another way. -/
def pageRouter : Router :=
  let routed := Router.empty.addRoute "/:section(/:slug=all)/p(:page=1)"
    "Page->show(slug=none,format=html)"
  ((routed.addToken "section" "[a-z]*").addToken "slug" "[a-z]+").addToken
    "page" "[0-9]+"

/-- A group that has read nothing wins over a default, a default of the target
over one of the pattern, and only then comes what the pattern gives. -/
theorem arguments_of_resolve_page :
    ∃ route,
      pageRouter.resolve "//p" =
        .ok (.matched "/:section(/:slug=all)/p(:page=1)" route) ∧
      ∃ (found : pageRouter.RouteMatch "//p"
          "/:section(/:slug=all)/p(:page=1)") (arguments : Arguments),
        route.arguments? = some arguments ∧
        arguments.entries =
          found.captured ++
          newEntries found.captured found.target.defaults.entries ++
          newEntries (found.captured ++ found.target.defaults.entries)
            found.tree.defaults ∧
        arguments.entries = [("section", ""), ("slug", "none"),
          ("format", "html"), ("page", "1")] := by
  have resolved : pageRouter.resolve "//p" =
      .ok (.matched "/:section(/:slug=all)/p(:page=1)"
        ⟨some "Page", some "show", some (.ofList [("section", ""),
          ("slug", "none"), ("format", "html"), ("page", "1")])⟩) := by
    cbv
  obtain ⟨found, arguments, _, equal, entries, _⟩ :=
    arguments_of_resolve.1 resolved
  have same := Option.some.inj (congrArg Route.arguments? equal)
  refine ⟨_, resolved, found, arguments, congrArg some same, entries, ?_⟩
  rw [← same]
  decide

end Router
end PathRouter
