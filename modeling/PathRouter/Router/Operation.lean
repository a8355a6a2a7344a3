import PathRouter.Router

/-!
# Operations on routers

What a caller may ask of a router is an operation.  Performing it gives an
answer or a failure, some records, and the router as it is afterwards, also
after a failure: what was changed before a failure would stay changed.

## Main definitions

* `ConfigurationSource`: what the tables of a router may be replaced by.
* `Router.setRoutes`: replacing all tables.
* `Operation` and `Router.perform`: the operations, and performing one.
* `Router.outcome` and `Router.outcomes`: what comes of one or many operations.
-/

namespace PathRouter

/-- What the tables of a router may be replaced by. -/
inductive ConfigurationSource where
  /-- A configuration. -/
  | made (configuration : Configuration)
  /-- A mapping, which is still to be checked. -/
  | mapping (content : Mapping)

/-- The configuration that a source stands for. -/
def ConfigurationSource.read :
    ConfigurationSource → Except RoutingError Configuration
  | made configuration => .ok configuration
  | mapping content => Configuration.ofMapping content

/-- An operation on a router. -/
inductive Operation where
  /-- Replaces all tables. -/
  | setRoutes (source : ConfigurationSource)
  /-- Registers a route, or changes its target. -/
  | addRoute (pattern target : String)
  /-- Registers a token, or changes its constraint. -/
  | addToken (name constraint : String)
  /-- Asks for all routes. -/
  | routes
  /-- Asks for the target of a route. -/
  | route (pattern : String)
  /-- Asks whether a route is registered. -/
  | hasRoute (pattern : String)
  /-- Asks for all tokens. -/
  | tokens
  /-- Asks for the constraint of a token. -/
  | token (name : String)
  /-- Asks whether a token is registered. -/
  | hasToken (name : String)
  /-- Asks for the texts of all expressions. -/
  | sources
  /-- Asks whether all patterns compile. -/
  | check
  /-- Asks for all tables at once. -/
  | configuration
  /-- Asks what a path leads to. -/
  | matchRoute (path : String)

/-- What an operation answers. -/
inductive Answer where
  /-- Nothing is asked for. -/
  | done
  /-- A truth value. -/
  | truth (holds : Bool)
  /-- A text. -/
  | text (content : String)
  /-- A table. -/
  | table (content : Table String)
  /-- The texts of expressions by pattern. -/
  | sources (content : List (String × String))
  /-- A configuration. -/
  | configuration (content : Configuration)
  /-- A route, if there is one. -/
  | route (route? : Option Route)

/-- An answer with the records that were written on the way to it. -/
structure Report where
  /-- The answer. -/
  answer : Answer
  /-- The records. -/
  log : List LogRecord := []

namespace Router

variable [CharacterNames]

/-- A computation that may change a router and may fail, where a failure does
not take changes back. -/
abbrev Action := ExceptT RoutingError (StateM Router)

/-- The computation that has a result at once and changes nothing. -/
def attempt {α : Type} (result : Except RoutingError α) : Action α :=
  ExceptT.mk (pure result)

/-- A router with the tables of a source. -/
def ofSource (source : ConfigurationSource) : Except RoutingError Router := do
  let configuration ← source.read
  ofConfiguration configuration

/-- Replaces all tables by those of a source, once all its patterns have been
compiled. -/
def setRoutes (source : ConfigurationSource) : Action Unit := do
  let configuration ← attempt source.read
  let compiler := configuration.compiler
  attempt (compileAll compiler configuration.routes.keys)
  modify fun router => { router with routes := configuration.routes }
  modify fun router => { router with compiler }

/-- Reports what a router answers to a question. -/
def ask (question : Router → Except RoutingError Answer) : Action Report := do
  let router ← get
  let answer ← attempt (question router)
  return { answer }

/-- Performs an operation. -/
def perform : Operation → Action Report
  | .setRoutes source => do
      setRoutes source
      return { answer := .done }
  | .addRoute pattern target => do
      let router ← get
      set (router.addRoute pattern target)
      return { answer := .done, log := router.addRouteLog pattern target }
  | .addToken name constraint => do
      let router ← get
      set (router.addToken name constraint)
      return { answer := .done, log := router.addTokenLog name constraint }
  | .routes => ask fun router => .ok (.table router.routes)
  | .route pattern => ask fun router => .text <$> router.getRoute pattern
  | .hasRoute pattern =>
      ask fun router => .ok (.truth (router.hasRoute pattern))
  | .tokens => ask fun router => .ok (.table router.tokens)
  | .token name => ask fun router => .text <$> router.getToken name
  | .hasToken name => ask fun router => .ok (.truth (router.hasToken name))
  | .sources => ask fun router => .sources <$> router.sources
  | .check => ask fun router => (fun _ => .done) <$> router.check
  | .configuration =>
      ask fun router => .ok (.configuration router.configuration)
  | .matchRoute path => do
      let router ← get
      let resolution ← attempt (router.resolve path)
      return { answer := .route resolution.route?
               log := [resolution.record path] }

/-- The outcome of an operation, and the router behind it. -/
def outcome (router : Router) (operation : Operation) :
    Except RoutingError Report × Router :=
  (perform operation).run.run router

/-- The outcomes of operations that are performed in turn. -/
def outcomes : List Operation → Router → List (Except RoutingError Report)
  | [], _ => []
  | operation :: rest, router =>
      let (result, next) := router.outcome operation
      result :: outcomes rest next

end Router
end PathRouter
