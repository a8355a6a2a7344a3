import Mathlib
import PathRouter.Proofs.Router.Locality
import PathRouter.Proofs.Table.Writing

/-!
# Registering routes and tokens

Routes and tokens are registered by any number of calls in any order.  Either
table holds what the calls for it have left behind: its keys stand in the order
in which they first arrived, and each has the value that it was given last.  A
call either adds a key or overwrites an entry and reports so.

## Main definitions

* `Registration`: a call that registers a route or a token.
* `Registration.routeWrites` and `Registration.tokenWrites`: what calls write to
  either table.
* `Router.overwrites`: how often some outcomes report an overwritten entry.

## Main statements

* `Router.after_registrations`: the router behind a run of calls.
* `Router.overwrites_registrations`: each call adds a key or reports.
* `Router.getToken_spelled`: tokens are found with and without their colon.
* `Router.tables_of_registrations`: the tables and the records of a run.
-/

namespace PathRouter

/-- A call that registers a route or a token. -/
inductive Registration where
  /-- Registers a route, or changes its target. -/
  | route (pattern target : String)
  /-- Registers a token, or changes its constraint. -/
  | token (name constraint : String)

namespace Registration

/-- The operation of a call. -/
def operation : Registration → Operation
  | route pattern target => .addRoute pattern target
  | token name constraint => .addToken name constraint

/-- What a call writes to the routes. -/
def routeWrite? : Registration → Option (String × String)
  | route pattern target => some (pattern, target)
  | token _ _ => none

/-- What a call writes to the tokens, which are registered under their keys. -/
def tokenWrite? : Registration → Option (String × String)
  | route _ _ => none
  | token name constraint => some (tokenKey name, constraint)

/-- What some calls write to the routes. -/
def routeWrites (calls : List Registration) : List (String × String) :=
  calls.filterMap routeWrite?

/-- What some calls write to the tokens. -/
def tokenWrites (calls : List Registration) : List (String × String) :=
  calls.filterMap tokenWrite?

end Registration

/-- Whether a record says that an entry is overwritten. -/
def LogRecord.tellsOverwriting : LogRecord → Bool
  | routeOverwritten _ _ _ => true
  | tokenOverwritten _ _ => true
  | unmatched _ => false
  | matched _ _ _ _ => false

namespace Router

/-- The records of an outcome. -/
def records : Except RoutingError Report → List LogRecord
  | .ok report => report.log
  | .error _ => []

/-- How many records of some outcomes say that an entry is overwritten. -/
def overwrites (outcomes : List (Except RoutingError Report)) : Nat :=
  (outcomes.flatMap records).countP LogRecord.tellsOverwriting

/-- How many keys some calls add to the tables of a router. -/
def addedKeys (router : Router) (calls : List Registration) : Nat :=
  (router.routes.newKeys (Registration.routeWrites calls)).length +
    (router.tokens.newKeys (Registration.tokenWrites calls)).length

section Calls

variable (router : Router) (calls : List Registration)

/-! ## The records of a call -/

section Counts

variable (pattern target name constraint : String)

/-- A route is reported if its pattern is registered already. -/
theorem countP_addRouteLog :
    (router.addRouteLog pattern target).countP LogRecord.tellsOverwriting =
      if pattern ∈ router.routes then 1 else 0 := by
  rw [addRouteLog]
  cases found : router.routes.get? pattern with
  | none =>
      rw [if_neg (Table.get?_eq_none_iff.mp found)]
      rfl
  | some earlier =>
      have present : pattern ∈ router.routes := by
        by_contra absent
        cases found.symm.trans (Table.get?_eq_none_iff.mpr absent)
      rw [if_pos present]
      rfl

/-- A token is reported if its key is registered already. -/
theorem countP_addTokenLog :
    (router.addTokenLog name constraint).countP LogRecord.tellsOverwriting =
      if tokenKey name ∈ router.tokens then 1 else 0 := by
  have known : router.compiler.registry.contains name =
      decide (tokenKey name ∈ router.tokens) := rfl
  rw [addTokenLog, known]
  by_cases present : tokenKey name ∈ router.tokens
  · rw [decide_eq_true present, if_pos present]
    rfl
  · rw [decide_eq_false present, if_neg present]
    rfl

theorem addedKeys_route :
    router.addedKeys (.route pattern target :: calls) =
      (if pattern ∈ router.routes then 0 else 1) +
        (router.addRoute pattern target).addedKeys calls := by
  change (router.routes.newKeys ((pattern, target) :: _)).length + _ = _
  rw [Table.newKeys_cons, List.length_append, Nat.add_assoc]
  split <;> rfl

theorem addedKeys_token :
    router.addedKeys (.token name constraint :: calls) =
      (if tokenKey name ∈ router.tokens then 0 else 1) +
        (router.addToken name constraint).addedKeys calls := by
  change _ + (router.tokens.newKeys ((tokenKey name, constraint) :: _)).length =
    _
  rw [Table.newKeys_cons, List.length_append, Nat.add_left_comm]
  split <;> rfl

end Counts

/-! ## Tokens with and without their colon -/

/-- A token is found under its name and under the name with a colon in front, or
it is found under neither because it is not registered. -/
theorem getToken_spelled
    {name : String}
    (noColon : name.toList.head? ≠ some ':') :
    router.hasToken (":" ++ name) = router.hasToken name ∧
      (∀ constraint,
        (router.getToken name = .ok constraint ↔
          router.tokens.get? (":" ++ name) = some constraint) ∧
        (router.getToken (":" ++ name) = .ok constraint ↔
          router.getToken name = .ok constraint)) ∧
      (router.getToken name = .error (.unknownToken name) ↔
        router.hasToken name = false) ∧
      (router.getToken (":" ++ name) = .error (.unknownToken (":" ++ name)) ↔
        router.hasToken name = false) := by
  have short := tokenKey_of_noColon noColon
  have long := tokenKey_colon_append name
  have sameKey : router.compiler.registry.contains (":" ++ name) =
      router.compiler.registry.contains name := by
    rw [TokenRegistry.contains, TokenRegistry.contains, short, long]
  refine ⟨sameKey, fun constraint => ⟨?_, ?_⟩, ?_, ?_⟩
  · rw [getToken, TokenRegistry.get_eq_ok_iff, TokenRegistry.get?, short]
    rfl
  · rw [getToken, getToken, TokenRegistry.get_eq_ok_iff,
      TokenRegistry.get_eq_ok_iff, TokenRegistry.get?, TokenRegistry.get?,
      short, long]
  · rw [getToken, TokenRegistry.get_eq_error_iff, hasToken]
    exact and_iff_left rfl
  · rw [getToken, TokenRegistry.get_eq_error_iff, sameKey, hasToken]
    exact and_iff_left rfl

variable [CharacterNames]

/-! ## The tables of a run -/

/-- A run of calls writes to both tables, and changes nothing else. -/
theorem after_registrations :
    router.after (calls.map Registration.operation) =
      { routes := router.routes.insertMany (Registration.routeWrites calls)
        compiler :=
          { registry :=
              ⟨router.tokens.insertMany (Registration.tokenWrites calls)⟩
            defaultConstraint := router.compiler.defaultConstraint } } := by
  induction calls generalizing router with
  | nil => rfl
  | cons call rest inductionHypothesis =>
      change (router.outcome call.operation).2.after
        (rest.map Registration.operation) = _
      rw [inductionHypothesis]
      cases call <;> rfl

theorem outcomes_registrations :
    ∀ outcome ∈ router.outcomes (calls.map Registration.operation),
      ∃ log, outcome = .ok { answer := .done, log } := by
  induction calls generalizing router with
  | nil => exact nofun
  | cons call rest inductionHypothesis =>
      refine List.forall_mem_cons.mpr ⟨?_, inductionHypothesis _⟩
      cases call <;> exact ⟨_, rfl⟩

/-! ## The records of a run -/

/-- A call adds a key or reports that an entry is overwritten; the other calls
add to the tables that it leaves behind. -/
theorem countP_records_registration (call : Registration) :
    (records (router.outcome call.operation).1).countP
          LogRecord.tellsOverwriting +
        router.addedKeys (call :: calls) =
      (router.outcome call.operation).2.addedKeys calls + 1 := by
  cases call with
  | route pattern target =>
      simp only [Registration.operation, outcome_addRoute, records,
        countP_addRouteLog, addedKeys_route]
      split <;> omega
  | token name constraint =>
      simp only [Registration.operation, outcome_addToken, records,
        countP_addTokenLog, addedKeys_token]
      split <;> omega

/-- Each call either adds a key or reports that an entry is overwritten. -/
theorem overwrites_registrations :
    overwrites (router.outcomes (calls.map Registration.operation)) +
        router.addedKeys calls = calls.length := by
  induction calls generalizing router with
  | nil => rfl
  | cons call rest inductionHypothesis =>
      have here := router.countP_records_registration rest call
      have behind := inductionHypothesis (router.outcome call.operation).2
      rw [overwrites] at behind ⊢
      rw [List.map_cons, outcomes, List.flatMap_cons, List.countP_append,
        List.length_cons]
      omega

/-! ## Both tables -/

/-- Any number of calls in any order leave behind two tables, which are the
answers to the questions for them: the keys of the old table in their places,
then those that the calls for this table have added, in the order of the first
calls for them, all with the values of the last calls for them.  Nothing else is
changed.  Tokens are found with and without their colon, and the calls that add
no key are those that report an overwritten entry. -/
theorem tables_of_registrations
    (router : Router)
    (calls : List Registration) :
    let operations := calls.map Registration.operation
    let next := router.after operations
    let writtenRoutes := Registration.routeWrites calls
    let writtenTokens := Registration.tokenWrites calls
    (∀ outcome ∈ router.outcomes operations,
        ∃ log, outcome = .ok { answer := .done, log }) ∧
      next.outcome .routes = (.ok { answer := .table next.routes }, next) ∧
      next.outcome .tokens = (.ok { answer := .table next.tokens }, next) ∧
      next.routes = router.routes.insertMany writtenRoutes ∧
      next.routes.keys =
        router.routes.keys ++ router.routes.newKeys writtenRoutes ∧
      (∀ pattern, next.routes.get? pattern =
        (writtenRoutes.reverse.lookup pattern).or
          (router.routes.get? pattern)) ∧
      next.tokens = router.tokens.insertMany writtenTokens ∧
      next.tokens.keys =
        router.tokens.keys ++ router.tokens.newKeys writtenTokens ∧
      (∀ key, next.tokens.get? key =
        (writtenTokens.reverse.lookup key).or (router.tokens.get? key)) ∧
      next.compiler.defaultConstraint = router.compiler.defaultConstraint ∧
      (∀ name, name.toList.head? ≠ some ':' →
        next.hasToken (":" ++ name) = next.hasToken name ∧
          (∀ constraint,
            (next.getToken name = .ok constraint ↔
              next.tokens.get? (":" ++ name) = some constraint) ∧
            (next.getToken (":" ++ name) = .ok constraint ↔
              next.getToken name = .ok constraint)) ∧
          (next.getToken name = .error (.unknownToken name) ↔
            next.hasToken name = false) ∧
          (next.getToken (":" ++ name) =
              .error (.unknownToken (":" ++ name)) ↔
            next.hasToken name = false)) ∧
      overwrites (router.outcomes operations) +
          ((router.routes.newKeys writtenRoutes).length +
            (router.tokens.newKeys writtenTokens).length) =
        calls.length := by
  intro operations next writtenRoutes writtenTokens
  have equal : next = _ := router.after_registrations calls
  have routes : next.routes = router.routes.insertMany writtenRoutes := by
    rw [equal]
  have tokens : next.tokens = router.tokens.insertMany writtenTokens := by
    rw [equal]
    rfl
  refine ⟨router.outcomes_registrations calls, rfl, rfl, routes, ?_, ?_, tokens,
    ?_, ?_, ?_, fun name noColon => next.getToken_spelled noColon,
    router.overwrites_registrations calls⟩
  · rw [routes, Table.keys_insertMany]
  · rw [routes]
    exact Table.get?_insertMany _ _
  · rw [tokens, Table.keys_insertMany]
  · rw [tokens]
    exact Table.get?_insertMany _ _
  · rw [equal]

end Calls

open scoped CharacterNames.BasicLatin

/-- A router with a route and its token. -/
def archiveRouter : Router :=
  (Router.empty.addRoute "/:id" "Post->show").addToken "id" "[0-9]+"

/-- Calls that register a route twice, and the token of the router by its other
name. -/
def archiveCalls : List Registration :=
  [.token ":id" "[a-z]+", .route "/" "Home", .route "/:id" "Post->view",
    .route "/" "Start", .token "slug" ".*"]

/-- Of the five calls two add a key, and the new token is found under both
names. -/
theorem tables_of_registrations_archive :
    let operations := archiveCalls.map Registration.operation
    let next := archiveRouter.after operations
    next.routes.entries = [("/:id", "Post->view"), ("/", "Start")] ∧
      next.tokens.entries = [(":id", "[a-z]+"), (":slug", ".*")] ∧
      "slug".toList.head? ≠ some ':' ∧
      next.getToken "slug" = .ok ".*" ∧
      next.getToken ":slug" = .ok ".*" ∧
      overwrites (archiveRouter.outcomes operations) = 3 := by
  intro operations next
  obtain ⟨_, _, _, _, _, _, _, _, _, _, spelled, count⟩ :=
    tables_of_registrations archiveRouter archiveCalls
  have noColon : "slug".toList.head? ≠ some ':' := by decide
  obtain ⟨_, found, _⟩ := spelled "slug" noColon
  have constraint : next.tokens.get? ":slug" = some ".*" := by decide
  have short := (found ".*").1.mpr constraint
  have newRoutes : archiveRouter.routes.newKeys
      (Registration.routeWrites archiveCalls) = ["/"] := by
    decide
  have newTokens : archiveRouter.tokens.newKeys
      (Registration.tokenWrites archiveCalls) = [":slug"] := by
    decide
  rw [newRoutes, newTokens] at count
  exact ⟨by decide, by decide, noColon, short, (found ".*").2.mpr short,
    Nat.add_right_cancel count⟩

end Router
end PathRouter
