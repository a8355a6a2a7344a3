import PathRouter.Proofs.TokenRegistry.Keys
import PathRouter.Result
import PathRouter.Router.Operation

/-!
# Reachable routers

A router is reachable when it is empty, when it was built from a source, or
when it is what an operation on a reachable router leaves behind.

## Main statements

* `Router.outcome_setRoutes`: what replacing all tables comes to.
* `Router.Reachable.isNormal`: the tokens of a reachable router are registered
  under names with a colon.
-/

namespace PathRouter
namespace Router

/-! ## Running actions -/

theorem run_bind
    (action : Action α)
    (next : α → Action β)
    (router : Router) :
    (action >>= next).run.run router =
      match action.run.run router with
      | (.ok value, router) => (next value).run.run router
      | (.error failure, router) => (.error failure, router) := by
  change (match action.run.run router with
    | (result, router) => (ExceptT.bindCont next result).run router) = _
  rcases action.run.run router with ⟨_ | _, _⟩ <;> rfl

/-- What fails at once changes nothing. -/
theorem run_attempt_bind
    (result : Except RoutingError α)
    (next : α → Action β)
    (router : Router) :
    (attempt result >>= next).run.run router =
      match result with
      | .ok value => (next value).run.run router
      | .error failure => (.error failure, router) := by
  rw [run_bind]
  cases result <;> rfl

theorem run_ask
    (question : Router → Except RoutingError Answer)
    (router : Router) :
    (ask question).run.run router =
      ((fun answer => { answer }) <$> question router, router) := by
  change (attempt (question router) >>= _).run.run router = _
  rw [run_attempt_bind]
  cases question router <;> rfl

variable [CharacterNames]

/-- The routers that operations can lead to. -/
inductive Reachable : Router → Prop
  | empty : Reachable .empty
  | built
      {source : ConfigurationSource}
      {router : Router}
      (made : ofSource source = .ok router) :
      Reachable router
  | performed
      {router : Router}
      (reachable : Reachable router)
      (operation : Operation) :
      Reachable (router.outcome operation).2

/-! ## What operations come to -/

/-- All tables are replaced by those of the source, or nothing is changed. -/
theorem run_setRoutes (source : ConfigurationSource) (router : Router) :
    (setRoutes source).run.run router =
      match ofSource source with
      | .ok next => (.ok (), next)
      | .error failure => (.error failure, router) := by
  rw [setRoutes, run_attempt_bind, ofSource]
  cases source.read with
  | error failure => rfl
  | ok configuration =>
      rw [ok_bind, ofConfiguration]
      dsimp only
      rw [run_attempt_bind]
      cases compileAll configuration.compiler configuration.routes.keys <;> rfl

theorem outcome_setRoutes (source : ConfigurationSource) (router : Router) :
    router.outcome (.setRoutes source) =
      match ofSource source with
      | .ok next => (.ok { answer := .done }, next)
      | .error failure => (.error failure, router) := by
  change (setRoutes source >>= _).run.run router = _
  rw [run_bind, run_setRoutes]
  cases ofSource source <;> rfl

theorem outcome_addRoute (router : Router) (pattern target : String) :
    router.outcome (.addRoute pattern target) =
      (.ok { answer := .done, log := router.addRouteLog pattern target },
        router.addRoute pattern target) := rfl

theorem outcome_addToken (router : Router) (name constraint : String) :
    router.outcome (.addToken name constraint) =
      (.ok { answer := .done, log := router.addTokenLog name constraint },
        router.addToken name constraint) := rfl

theorem outcome_matchRoute (router : Router) (path : String) :
    router.outcome (.matchRoute path) =
      ((fun resolution => { answer := .route resolution.route?
                            log := [resolution.record path] }) <$>
        router.resolve path, router) := by
  change (attempt (router.resolve path) >>= _).run.run router = _
  rw [run_attempt_bind]
  cases router.resolve path <;> rfl

/-- A question changes nothing. -/
theorem snd_outcome_of_ask
    {operation : Operation}
    {question : Router → Except RoutingError Answer}
    (asked : perform operation = ask question)
    (router : Router) :
    (router.outcome operation).2 = router := by
  rw [outcome, asked, run_ask]

/-! ## What reachable routers are like -/

theorem isNormal_ofSource
    {source : ConfigurationSource}
    {router : Router}
    (made : ofSource source = .ok router) :
    router.compiler.registry.IsNormal := by
  obtain ⟨configuration, _, built⟩ := exists_of_bind made
  obtain ⟨_, _, equal⟩ := exists_of_bind built
  cases equal
  exact TokenRegistry.isNormal_ofList configuration.tokens.entries

theorem isNormal_outcome
    {router : Router}
    (normal : router.compiler.registry.IsNormal)
    (operation : Operation) :
    (router.outcome operation).2.compiler.registry.IsNormal := by
  cases operation with
  | setRoutes source =>
      rw [outcome_setRoutes]
      cases made : ofSource source with
      | error failure => exact normal
      | ok next => exact isNormal_ofSource made
  | addRoute pattern target => exact normal
  | addToken name constraint => exact normal.insert name constraint
  | matchRoute path =>
      rw [outcome_matchRoute]
      exact normal
  | _ =>
      rw [snd_outcome_of_ask rfl]
      exact normal

/-- The tokens of a reachable router are registered under names with a
colon. -/
theorem Reachable.isNormal
    {router : Router}
    (reachable : Reachable router) :
    router.compiler.registry.IsNormal := by
  induction reachable with
  | empty => exact TokenRegistry.isNormal_empty
  | built made => exact isNormal_ofSource made
  | performed _ operation inductionHypothesis =>
      exact isNormal_outcome inductionHypothesis operation

end Router
end PathRouter
