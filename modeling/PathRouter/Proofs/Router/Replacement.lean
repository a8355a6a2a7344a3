import PathRouter.Proofs.Router.Reachable
import PathRouter.Proofs.Router.Scan

/-!
# Replacing all tables

All tables of a router are replaced at once, or none of them is.  What the new
tables are does not depend on the old ones.
-/

namespace PathRouter

/-- The constraint that a source gives to all tokens that it does not name:
none if it is silent about them. -/
def ConfigurationSource.defaultConstraint : ConfigurationSource → Value
  | made configuration => configuration.defaultConstraint
  | mapping content =>
      (content.named.get? "default_constraint").getD .null

theorem Configuration.defaultConstraint_of_ofFields
    {routes tokens defaultConstraint : Value}
    {configuration : Configuration}
    (read : ofFields routes tokens defaultConstraint = .ok configuration) :
    configuration.defaultConstraint = defaultConstraint := by
  rw [ofFields, mapError_eq_ok_iff] at read
  obtain ⟨_, _, read⟩ := exists_of_bind read
  obtain ⟨_, _, read⟩ := exists_of_bind read
  cases read
  rfl

theorem ConfigurationSource.defaultConstraint_of_read
    {source : ConfigurationSource}
    {configuration : Configuration}
    (read : source.read = .ok configuration) :
    configuration.defaultConstraint = source.defaultConstraint := by
  cases source with
  | made content =>
      cases read
      rfl
  | mapping content =>
      rw [ConfigurationSource.read, Configuration.ofMapping] at read
      split at read
      · dsimp only at read
        split at read
        · exact Configuration.defaultConstraint_of_ofFields read
        · exact Configuration.defaultConstraint_of_ofFields read
        · cases read
      · cases read

namespace Router

variable [CharacterNames]

theorem ofConfiguration_eq_error_iff
    (configuration : Configuration)
    (failure : RoutingError) :
    ofConfiguration configuration = .error failure ↔
      FirstFailure configuration.compiler configuration.routes.keys
        failure := by
  rw [← compileAll_eq_error_iff, ofConfiguration]
  cases compileAll configuration.compiler configuration.routes.keys with
  | error other => simp
  | ok _ => simp

theorem ofSource_eq_error_iff
    (source : ConfigurationSource)
    (failure : RoutingError) :
    ofSource source = .error failure ↔
      source.read = .error failure ∨
        ∃ configuration, source.read = .ok configuration ∧
          FirstFailure configuration.compiler configuration.routes.keys
            failure := by
  rw [ofSource]
  cases source.read with
  | error other => simp
  | ok configuration => simp [ofConfiguration_eq_error_iff]

/-- A router that was built from a source has the tables of the source. -/
theorem tables_of_ofSource
    {source : ConfigurationSource}
    {router : Router}
    (made : ofSource source = .ok router) :
    ∃ configuration, source.read = .ok configuration ∧
      router.routes = configuration.routes ∧
      router.compiler = configuration.compiler ∧
      router.check = .ok () := by
  obtain ⟨configuration, read, built⟩ := exists_of_bind made
  obtain ⟨_, checked, equal⟩ := exists_of_bind built
  cases equal
  exact ⟨configuration, read, rfl, rfl, checked⟩

/-- Replacing all tables fails exactly when the source is refused or, with the
tokens and the default constraint of the source, a pattern of the source does
not compile; the failure is that of the source, or else of the first such
pattern.  After a failure the router is what it was.  Otherwise its routes,
its tokens under their keys and its default constraint are those of the source,
and it passes its check. -/
theorem outcome_setRoutes_all_or_nothing
    (router : Router)
    (source : ConfigurationSource) :
    (∀ failure,
      (router.outcome (.setRoutes source)).1 = .error failure ↔
        source.read = .error failure ∨
          ∃ configuration, source.read = .ok configuration ∧
            FirstFailure configuration.compiler configuration.routes.keys
              failure) ∧
    match router.outcome (.setRoutes source) with
    | (.error _, next) => next = router
    | (.ok _, next) =>
        ∃ configuration, source.read = .ok configuration ∧
          next.routes = configuration.routes ∧
          next.tokens = .ofList (configuration.tokens.entries.map
            fun entry => (tokenKey entry.1, entry.2)) ∧
          next.compiler.defaultConstraint = source.defaultConstraint ∧
          next.check = .ok () := by
  constructor
  · intro failure
    rw [← ofSource_eq_error_iff, outcome_setRoutes]
    cases ofSource source <;> simp
  · rw [outcome_setRoutes]
    cases made : ofSource source with
    | error failure => rfl
    | ok next =>
        obtain ⟨configuration, read, routes, compiler, checked⟩ :=
          tables_of_ofSource made
        refine ⟨configuration, read, routes, ?_, ?_, checked⟩
        · rw [tokens, compiler, Configuration.compiler,
            TokenRegistry.table_ofList]
        · rw [compiler, ← ConfigurationSource.defaultConstraint_of_read read]
          rfl

end Router
end PathRouter
