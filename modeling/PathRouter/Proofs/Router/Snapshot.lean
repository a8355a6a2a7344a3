import Mathlib
import PathRouter.Proofs.Router.Reachable

/-!
# Routers from their own tables

The tables of a reachable router make a router that no operations can tell
apart from it, unless a pattern does not compile.
-/

namespace PathRouter
namespace Router

section Rebuilding

variable [CharacterNames]

/-- The configuration of a router gives the router back, or the failure of its
check. -/
theorem ofConfiguration_configuration
    {router : Router}
    (normal : router.compiler.registry.IsNormal) :
    ofConfiguration router.configuration =
      router.check.map fun _ => router := by
  have same : router.configuration.compiler = router.compiler := by
    change Compiler.mk (.ofList router.compiler.registry.table.entries) _ = _
    rw [TokenRegistry.ofList_entries normal]
    rfl
  rw [ofConfiguration, same, check]
  change (compileAll router.compiler router.routes.keys >>= _) = _
  cases compileAll router.compiler router.routes.keys <;> rfl

/-- Building a router from the tables of a reachable one fails exactly as its
check does, and otherwise gives a router in which every sequence of operations
has the same outcomes. -/
theorem outcomes_rebuilt
    {router : Router}
    (reachable : Reachable router) :
    match ofSource (.made router.configuration) with
    | .error failure => router.check = .error failure
    | .ok rebuilt =>
        router.check = .ok () ∧
          ∀ operations, rebuilt.outcomes operations =
            router.outcomes operations := by
  change match ofConfiguration router.configuration with
    | .error failure => router.check = .error failure
    | .ok rebuilt => _
  rw [ofConfiguration_configuration reachable.isNormal]
  cases router.check with
  | error failure => rfl
  | ok _ => exact ⟨rfl, fun operations => rfl⟩

end Rebuilding

open scoped CharacterNames.BasicLatin

/-- A router whose token was registered behind the route that needs it. -/
def postRouter : Router :=
  ((Router.empty.outcome (.addRoute "/post/:id" "Post->show")).2.outcome
    (.addToken "id" "[0-9]+")).2

theorem reachable_postRouter : Reachable postRouter :=
  .performed (.performed .empty _) _

/-- Such a router is rebuilt, since its pattern compiles. -/
theorem outcomes_rebuilt_postRouter :
    Reachable postRouter ∧
      ∃ rebuilt, ofSource (.made postRouter.configuration) = .ok rebuilt ∧
        ∀ operations, rebuilt.outcomes operations =
          postRouter.outcomes operations := by
  have checked : postRouter.check = .ok () := by cbv
  have decided := outcomes_rebuilt reachable_postRouter
  refine ⟨reachable_postRouter, ?_⟩
  cases made : ofSource (.made postRouter.configuration) with
  | error failure =>
      rw [made] at decided
      rw [checked] at decided
      cases decided
  | ok rebuilt =>
      rw [made] at decided
      exact ⟨rebuilt, rfl, decided.2⟩

end Router
end PathRouter
