import Mathlib
import PathRouter.Proofs.Router.Reachable
import PathRouter.Proofs.Router.Scan
import PathRouter.Proofs.Table.Reading

/-!
# What a resolution depends on

A path is decided by the first route that matches it or does not compile.  The
routes behind that one are never looked at, and the registry is read only at
the tokens of the patterns up to that one.  So two routers that share the routes
up to the deciding one, and the constraints of the tokens in them, resolve the
path in the same way.

## Main definitions

* `Compiler.AgreesOn`: two compilers give the tokens of a pattern the same
  constraints.
* `Router.Decides`: the last of some routes decides a path.
* `Operation.Spares`: an operation touches neither some routes nor the tokens
  that they refer to.

## Main statements

* `Router.matchRoute_of_decides`: two routers that share the deciding routes.
* `Router.keeps_after`: a run of operations that spare the deciding routes.
-/

namespace PathRouter

/-! ## Tokens -/

/-- The pattern refers to the token that is registered under a key. -/
def RefersTo (pattern key : String) : Prop :=
  ∃ tree, parsePattern pattern = .ok tree ∧ ∃ ref ∈ tree.tokens, ref.key = key

namespace Compiler

variable {first second third : Compiler} {pattern : String}

/-- Two compilers give the same constraints to the tokens of a pattern, or none
in both. -/
def AgreesOn (first second : Compiler) (pattern : String) : Prop :=
  ∀ tree, parsePattern pattern = .ok tree →
    ∀ ref ∈ tree.tokens, first.constraint? ref = second.constraint? ref

theorem AgreesOn.refl (compiler : Compiler) (pattern : String) :
    compiler.AgreesOn compiler pattern := by
  intro tree parsed ref member
  rfl

theorem AgreesOn.trans
    (agree : first.AgreesOn second pattern)
    (next : second.AgreesOn third pattern) :
    first.AgreesOn third pattern := by
  intro tree parsed ref member
  exact (agree tree parsed ref member).trans (next tree parsed ref member)

/-- A tree is rendered by the constraints of its own tokens alone. -/
theorem sourceOf_congr
    {tree : Pattern}
    (agree : ∀ ref ∈ tree.tokens,
      first.constraint? ref = second.constraint? ref) :
    first.sourceOf tree = second.sourceOf tree := by
  induction tree with
  | nil => rfl
  | literal text rest inductionHypothesis =>
      rw [sourceOf, sourceOf, inductionHypothesis agree]
  | token ref rest inductionHypothesis =>
      obtain ⟨here, behind⟩ := List.forall_mem_cons.mp agree
      rw [sourceOf, sourceOf, here, inductionHypothesis behind]
  | group inner rest innerHypothesis restHypothesis =>
      obtain ⟨inside, behind⟩ := List.forall_mem_append.mp agree
      rw [sourceOf, sourceOf, innerHypothesis inside, restHypothesis behind]

/-- A pattern is compiled by the constraints of its own tokens alone. -/
theorem AgreesOn.compile_eq
    [CharacterNames]
    (agree : first.AgreesOn second pattern) :
    first.compile pattern = second.compile pattern := by
  have same : first.source pattern = second.source pattern := by
    cases parsed : parsePattern pattern with
    | error failure => simp [source, parsed]
    | ok tree =>
        rw [source, source, parsed, ok_bind, ok_bind,
          sourceOf_congr (agree tree parsed)]
  rw [compile, compile, same]

theorem AgreesOn.passes_iff
    [CharacterNames]
    (agree : first.AgreesOn second pattern)
    (path : String) :
    first.Passes path pattern ↔ second.Passes path pattern := by
  rw [Passes, Passes, agree.compile_eq]

/-- Registering a token changes no constraint of another one. -/
theorem agreesOn_insert
    (compiler : Compiler)
    (name constraint : String)
    (unused : ¬RefersTo pattern (tokenKey name)) :
    compiler.AgreesOn
      { compiler with registry := compiler.registry.insert name constraint }
      pattern := by
  intro tree parsed ref member
  have other : tokenKey ref.key ≠ tokenKey name := by
    intro same
    rw [tokenKey_key] at same
    exact unused ⟨tree, parsed, ref, member, same⟩
  simp [constraint?, defaultText?, TokenRegistry.get?, TokenRegistry.insert,
    Table.get?_insert, other]

end Compiler

namespace Router

variable [CharacterNames] {first second router : Router} {path : String}
  {routes : List (String × String)}

/-! ## Deciding routes -/

/-- The last of some routes decides a path: it matches the path or does not
compile, and all routes before it pass the path on. -/
def Decides (compiler : Compiler) (path : String)
    (routes : List (String × String)) : Prop :=
  ∃ before last, routes = before ++ [last] ∧
    (∀ entry ∈ before, compiler.Passes path entry.1) ∧
    ¬compiler.Passes path last.1

/-- Routes that pass a path on decide nothing, and otherwise one of them is the
first that does. -/
theorem forall_passes_or_exists_decides
    (compiler : Compiler)
    (path : String)
    (entries : List (String × String)) :
    (∀ entry ∈ entries, compiler.Passes path entry.1) ∨
      ∃ routes, routes <+: entries ∧ Decides compiler path routes := by
  induction entries with
  | nil => exact .inl (by simp)
  | cons entry rest inductionHypothesis =>
      by_cases passes : compiler.Passes path entry.1
      · rcases inductionHypothesis with all | ⟨routes, front, decides⟩
        · exact .inl (List.forall_mem_cons.mpr ⟨passes, all⟩)
        · obtain ⟨before, last, rfl, all, stops⟩ := decides
          refine .inr ⟨entry :: (before ++ [last]),
            (List.prefix_cons_inj entry).mpr front, entry :: before, last,
            rfl, List.forall_mem_cons.mpr ⟨passes, all⟩, stops⟩
      · exact .inr ⟨[entry], by simp, [], entry, rfl, by simp, passes⟩

/-- Routes behind the deciding one are not looked at. -/
theorem Decides.findRoute_append
    {compiler : Compiler}
    (decides : Decides compiler path routes)
    (after : List (String × String)) :
    findRoute compiler path (routes ++ after) =
      findRoute compiler path routes := by
  obtain ⟨before, ⟨pattern, template⟩, rfl, all, stops⟩ := decides
  rw [List.append_assoc, findRoute_append_of_passes all,
    findRoute_append_of_passes all, List.singleton_append]
  cases compiled : compiler.compile pattern with
  | error failure => simp only [findRoute_cons_of_error compiled]
  | ok program =>
      cases matched : program.fullMatch? path with
      | none => exact absurd ⟨program, compiled, matched⟩ stops
      | some captures => simp [findRoute, compiled, matched]

/-- Some route of a router decides a path exactly when the path leads to a
route or to a failure. -/
theorem exists_decides_iff (router : Router) (path : String) :
    (∃ routes, routes <+: router.routes.entries ∧
        Decides router.compiler path routes) ↔
      router.matchRoute path ≠ .ok none := by
  constructor
  · rintro ⟨_, ⟨after, entries⟩, decides⟩ unmatched
    rw [matchRoute, resolve, ← entries, decides.findRoute_append] at unmatched
    obtain ⟨before, ⟨pattern, template⟩, rfl, all, stops⟩ := decides
    rw [findRoute_append_of_passes all] at unmatched
    cases compiled : router.compiler.compile pattern with
    | error failure => simp [findRoute, compiled] at unmatched
    | ok program =>
        cases matched : program.fullMatch? path with
        | none => exact stops ⟨program, compiled, matched⟩
        | some captures =>
            have compiles : router.compiler.Compiles pattern :=
              ⟨program, compiled⟩
            obtain ⟨inline, defaults⟩ := compiles.defaults
            simp [findRoute, compiled, matched, defaults, Resolution.route?]
              at unmatched
  · intro decided
    rcases forall_passes_or_exists_decides router.compiler path
        router.routes.entries with all | found
    · exact absurd (matchRoute_of_passes all) decided
    · exact found

theorem findRoute_congr
    {one other : Compiler}
    (agree : ∀ entry ∈ routes, one.AgreesOn other entry.1)
    (path : String) :
    findRoute one path routes = findRoute other path routes := by
  induction routes with
  | nil => rfl
  | cons entry rest inductionHypothesis =>
      obtain ⟨here, behind⟩ := List.forall_mem_cons.mp agree
      rw [findRoute, findRoute, here.compile_eq, inductionHypothesis behind]

theorem Decides.congr
    {one other : Compiler}
    (decides : Decides one path routes)
    (agree : ∀ entry ∈ routes, one.AgreesOn other entry.1) :
    Decides other path routes := by
  obtain ⟨before, last, rfl, all, stops⟩ := decides
  obtain ⟨early, late⟩ := List.forall_mem_append.mp agree
  refine ⟨before, last, rfl, fun entry member => ?_, fun passes => ?_⟩
  · exact ((early entry member).passes_iff path).mp (all entry member)
  · exact stops (((late last (by simp)).passes_iff path).mpr passes)

/-- A path is resolved by the deciding routes and by the constraints of the
tokens in them. -/
theorem Decides.matchRoute_eq
    (decides : Decides first.compiler path routes)
    (inFirst : routes <+: first.routes.entries)
    (inSecond : routes <+: second.routes.entries)
    (agree : ∀ entry ∈ routes,
      first.compiler.AgreesOn second.compiler entry.1) :
    second.matchRoute path = first.matchRoute path := by
  obtain ⟨afterFirst, entriesFirst⟩ := inFirst
  obtain ⟨afterSecond, entriesSecond⟩ := inSecond
  have found : findRoute second.compiler path second.routes.entries =
      findRoute first.compiler path first.routes.entries := by
    calc findRoute second.compiler path second.routes.entries
        = findRoute second.compiler path routes := by
          rw [← entriesSecond, (decides.congr agree).findRoute_append]
      _ = findRoute first.compiler path routes :=
          (findRoute_congr agree path).symm
      _ = findRoute first.compiler path first.routes.entries := by
          rw [← entriesFirst, decides.findRoute_append]
  rw [matchRoute, matchRoute, resolve, resolve, found]

end Router

/-! ## Runs of operations -/

/-- An operation touches neither some routes nor the tokens that they refer to.
It may register other routes and other tokens. -/
def Operation.Spares (routes : List (String × String)) : Operation → Prop
  | .setRoutes _ => False
  | .addRoute pattern _ => pattern ∉ routes.map Prod.fst
  | .addToken name _ => ∀ entry ∈ routes, ¬RefersTo entry.1 (tokenKey name)
  | _ => True

theorem prefix_insertEntry
    {front entries : List (String × α)}
    {key : String}
    (inside : front <+: entries)
    (new : key ∉ front.map Prod.fst)
    (value : α) :
    front <+: insertEntry key value entries := by
  obtain ⟨after, rfl⟩ := inside
  induction front with
  | nil => exact List.nil_prefix
  | cons entry rest inductionHypothesis =>
      rw [List.map_cons, List.mem_cons, not_or] at new
      have different : ¬entry.1 = key := fun same => new.1 same.symm
      rw [List.cons_append, insertEntry, if_neg different]
      exact (List.prefix_cons_inj entry).mpr (inductionHypothesis new.2)

namespace Router

/-- A second router still starts with some routes of a first one, and gives
their tokens the same constraints. -/
structure Keeps (routes : List (String × String)) (first second : Router) :
    Prop where
  /-- The routes are the first ones. -/
  inside : routes <+: second.routes.entries
  /-- Their tokens have the same constraints. -/
  agree : ∀ entry ∈ routes, first.compiler.AgreesOn second.compiler entry.1

variable {first second router : Router} {path : String}
  {routes : List (String × String)}

theorem Keeps.addRoute
    (keeps : Keeps routes first second)
    {pattern : String}
    (new : pattern ∉ routes.map Prod.fst)
    (target : String) :
    Keeps routes first (second.addRoute pattern target) where
  inside := prefix_insertEntry keeps.inside new target
  agree := keeps.agree

theorem Keeps.addToken
    (keeps : Keeps routes first second)
    {name : String}
    (unused : ∀ entry ∈ routes, ¬RefersTo entry.1 (tokenKey name))
    (constraint : String) :
    Keeps routes first (second.addToken name constraint) where
  inside := keeps.inside
  agree := fun entry member =>
    (keeps.agree entry member).trans
      (Compiler.agreesOn_insert _ name constraint (unused entry member))

theorem keeps_self (inside : routes <+: router.routes.entries) :
    Keeps routes router router where
  inside := inside
  agree := fun entry _ => Compiler.AgreesOn.refl router.compiler entry.1

section Runs

variable [CharacterNames]

/-- The router behind a run of operations. -/
def after (router : Router) (operations : List Operation) : Router :=
  operations.foldl (fun router operation => (router.outcome operation).2)
    router

theorem Keeps.outcome
    (keeps : Keeps routes first second)
    {operation : Operation}
    (spares : operation.Spares routes) :
    Keeps routes first (second.outcome operation).2 := by
  cases operation with
  | setRoutes source => exact spares.elim
  | addRoute pattern target => exact keeps.addRoute spares target
  | addToken name constraint => exact keeps.addToken spares constraint
  | matchRoute path =>
      rw [outcome_matchRoute]
      exact keeps
  | _ =>
      rw [snd_outcome_of_ask rfl]
      exact keeps

/-- Operations that spare some routes keep them, in any number. -/
theorem Keeps.after
    (keeps : Keeps routes first second)
    {operations : List Operation}
    (spare : ∀ operation ∈ operations, operation.Spares routes) :
    Keeps routes first (second.after operations) := by
  induction operations generalizing second with
  | nil => exact keeps
  | cons operation rest inductionHypothesis =>
      obtain ⟨here, behind⟩ := List.forall_mem_cons.mp spare
      exact inductionHypothesis (keeps.outcome here) behind

theorem Decides.matchRoute_eq_of_keeps
    (decides : Decides first.compiler path routes)
    (inside : routes <+: first.routes.entries)
    (keeps : Keeps routes first second) :
    second.matchRoute path = first.matchRoute path :=
  decides.matchRoute_eq inside keeps.inside keeps.agree

/-- A path leads to a route or to a failure exactly when some route decides it.
Then any two routers that share the routes up to the deciding one, and the
constraints of the tokens in them, resolve the path alike.  So neither another
pattern nor a token to which these routes do not refer, nor any number of both,
makes a difference to the path. -/
theorem matchRoute_of_decides :
    (∀ (router : Router) (path : String),
      (∃ routes, routes <+: router.routes.entries ∧
          Decides router.compiler path routes) ↔
        router.matchRoute path ≠ .ok none) ∧
    (∀ {first second : Router} {path : String}
        {routes : List (String × String)},
      routes <+: first.routes.entries →
      Decides first.compiler path routes →
      routes <+: second.routes.entries →
      (∀ entry ∈ routes, first.compiler.AgreesOn second.compiler entry.1) →
        second.matchRoute path = first.matchRoute path) ∧
    ∀ {router : Router} {path : String} {routes : List (String × String)},
      routes <+: router.routes.entries →
      Decides router.compiler path routes →
        (∀ pattern target, pattern ∉ router.routes →
          (router.addRoute pattern target).matchRoute path =
            router.matchRoute path) ∧
        (∀ name constraint,
          (∀ entry ∈ routes, ¬RefersTo entry.1 (tokenKey name)) →
            (router.addToken name constraint).matchRoute path =
              router.matchRoute path) ∧
        ∀ operations : List Operation,
          (∀ operation ∈ operations, operation.Spares routes) →
            (router.after operations).matchRoute path =
              router.matchRoute path := by
  refine ⟨exists_decides_iff, ?_, ?_⟩
  · intro first second path routes inFirst decides inSecond agree
    exact decides.matchRoute_eq inFirst inSecond agree
  · intro router path routes inside decides
    have keeps := keeps_self inside
    refine ⟨fun pattern target new => ?_, fun name constraint unused => ?_,
      fun operations spare => ?_⟩
    · have newInside : pattern ∉ routes.map Prod.fst := by
        intro member
        exact new ((inside.map Prod.fst).subset member)
      exact decides.matchRoute_eq_of_keeps inside
        (keeps.addRoute newInside target)
    · exact decides.matchRoute_eq_of_keeps inside
        (keeps.addToken unused constraint)
    · exact decides.matchRoute_eq_of_keeps inside (keeps.after spare)

end Runs

open scoped CharacterNames.BasicLatin

/-- A router with a token whose name goes on behind a shorter name. -/
def identityRouter : Router :=
  (Router.empty.addRoute "/:identity" "User->show").addToken "identity"
    "[a-z]+"

/-- A token with the shorter name and a route behind that does not compile make
no difference. -/
theorem matchRoute_of_decides_identity :
    let operations : List Operation :=
      [.addToken "id" "[", .addRoute "/:id" "Broken"]
    Decides identityRouter.compiler "/ann" [("/:identity", "User->show")] ∧
      (∀ operation ∈ operations,
        operation.Spares [("/:identity", "User->show")]) ∧
      (identityRouter.after operations).matchRoute "/ann" =
        identityRouter.matchRoute "/ann" ∧
      identityRouter.matchRoute "/ann" =
        .ok (some ⟨some "User", some "show",
          some (.ofList [("identity", "ann")])⟩) := by
  intro operations
  have decides : Decides identityRouter.compiler "/ann"
      [("/:identity", "User->show")] := by
    refine ⟨[], ("/:identity", "User->show"), rfl, by simp, ?_⟩
    rintro ⟨program, compiled, unmatched⟩
    have matched : (identityRouter.compiler.compile "/:identity").map
        (·.fullMatch? "/ann") =
          .ok (some (.ofList [("identity", some "ann")])) := by
      cbv
    rw [compiled] at matched
    cases (Except.ok.inj matched).symm.trans unmatched
  have parsed : parsePattern "/:identity" =
      .ok (.literal "/" (.token { name := "identity" } .nil)) := by
    cbv
  have unused : ¬RefersTo "/:identity" (tokenKey "id") := by
    rintro ⟨tree, same, ref, member, key⟩
    cases parsed.symm.trans same
    cases List.mem_singleton.mp member
    revert key
    decide
  have spare : ∀ operation ∈ operations,
      operation.Spares [("/:identity", "User->show")] := by
    intro operation member
    rcases List.mem_cons.mp member with rfl | last
    · exact List.forall_mem_singleton.mpr unused
    · cases List.mem_singleton.mp last
      change "/:id" ∉ ["/:identity"]
      decide
  have inside : [("/:identity", "User->show")] <+:
      identityRouter.routes.entries := List.prefix_rfl
  refine ⟨decides, spare, ?_, by cbv⟩
  exact (matchRoute_of_decides.2.2 inside decides).2.2 operations spare

end Router
end PathRouter
