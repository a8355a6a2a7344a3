import PathRouter.Compiler
import PathRouter.Configuration
import PathRouter.LogRecord
import PathRouter.Route

/-!
# Routers

A router holds a table of routes and the constraints of their tokens.  A path is
resolved by the first route, in the order of the table, whose expression matches
the whole path.  Patterns are compiled when they are tried, so that a later
route does not matter once an earlier one has matched.

## Main definitions

* `Router.ofConfiguration`: a router with the tables of a configuration, all of
  whose patterns compile.
* `Router.addRoute` and `Router.addToken`: changes of one entry.
* `Router.resolve`: what a path leads to.
* `Router.check` and `Router.sources`: compiling all patterns.
-/

namespace PathRouter

/-- The constraints that a configuration gives to tokens. -/
def Configuration.compiler (configuration : Configuration) : Compiler where
  registry := .ofList configuration.tokens.entries
  defaultConstraint := configuration.defaultConstraint

/-- A table of routes with the constraints of their tokens.

One field stands for what registers tokens, compiles patterns and matches paths.
Whatever matches paths does so by one compiler and keeps nothing else, and the
compiler holds the very registry in which tokens are registered.  When the
tables are replaced, a new registry, a compiler that holds it and a matcher that
holds the compiler take their places together, behind everything that may fail;
no other operation replaces any of them.  So no two of them can ever disagree,
and a token that is registered is there for all of them. -/
structure Router where
  /-- The targets by pattern, in the order in which they are tried. -/
  routes : Table String := {}
  /-- The constraints of the tokens. -/
  compiler : Compiler := {}

namespace Router

variable [CharacterNames]

/-- The router without routes. -/
def empty : Router := {}

instance : EmptyCollection Router := ⟨empty⟩

/-- The constraints of the tokens by name. -/
def tokens (router : Router) : Table String := router.compiler.registry.table

/-- Compiles patterns in turn, up to the first that does not compile. -/
def compileAll (compiler : Compiler) :
    List String → Except RoutingError Unit
  | [] => .ok ()
  | pattern :: rest => do
      let _ ← compiler.compile pattern
      compileAll compiler rest

/-- Fails with the first pattern that does not compile. -/
def check (router : Router) : Except RoutingError Unit :=
  compileAll router.compiler router.routes.keys

/-- A router with the tables of a configuration, if all its patterns
compile. -/
def ofConfiguration (configuration : Configuration) :
    Except RoutingError Router := do
  let compiler := configuration.compiler
  compileAll compiler configuration.routes.keys
  return { routes := configuration.routes, compiler }

/-- The tables of a router. -/
def configuration (router : Router) : Configuration where
  routes := router.routes
  tokens := router.tokens
  defaultConstraint := router.compiler.defaultConstraint

/-- Registers a route, or changes its target in place. -/
def addRoute (router : Router) (pattern target : String) : Router :=
  { router with routes := router.routes.insert pattern target }

/-- What registering a route reports. -/
def addRouteLog (router : Router) (pattern target : String) :
    List LogRecord :=
  match router.routes.get? pattern with
  | some earlier => [.routeOverwritten pattern earlier target]
  | none => []

/-- The target of a route. -/
def getRoute (router : Router) (pattern : String) :
    Except RoutingError String :=
  match router.routes.get? pattern with
  | some target => .ok target
  | none => .error (.unknownRoute pattern)

/-- Whether a route is registered. -/
def hasRoute (router : Router) (pattern : String) : Bool :=
  pattern ∈ router.routes

/-- Registers a token, or changes its constraint in place. -/
def addToken (router : Router) (name constraint : String) : Router :=
  { router with
    compiler :=
      { router.compiler with
        registry := router.compiler.registry.insert name constraint } }

/-- What registering a token reports. -/
def addTokenLog (router : Router) (name constraint : String) :
    List LogRecord :=
  if router.compiler.registry.contains name then
    [.tokenOverwritten name constraint]
  else []

/-- The constraint of a token. -/
def getToken (router : Router) (name : String) : Except RoutingError String :=
  router.compiler.registry.get name

/-- Whether a token is registered. -/
def hasToken (router : Router) (name : String) : Bool :=
  router.compiler.registry.contains name

/-- The texts of the expressions of patterns. -/
def sourcesOf (compiler : Compiler) :
    List String → Except RoutingError (List (String × String))
  | [] => .ok []
  | pattern :: rest => do
      let source ← compiler.source pattern
      let sources ← sourcesOf compiler rest
      return (pattern, source) :: sources

/-- The texts of the expressions of all patterns. -/
def sources (router : Router) :
    Except RoutingError (List (String × String)) :=
  sourcesOf router.compiler router.routes.keys

/-- The first of some routes whose expression matches a path, with what its
groups read. -/
def findRoute (compiler : Compiler) (path : String) :
    List (String × String) →
      Except RoutingError (Option (String × String × Captures))
  | [] => .ok none
  | (pattern, target) :: rest => do
      let program ← compiler.compile pattern
      match program.fullMatch? path with
      | some captures => return some (pattern, target, captures)
      | none => findRoute compiler path rest

/-- What a path leads to. -/
inductive Resolution where
  /-- No route matches. -/
  | unmatched
  /-- A route matches. -/
  | matched (pattern : String) (route : Route)
deriving DecidableEq

namespace Resolution

/-- The route that matches, if there is one. -/
def route? : Resolution → Option Route
  | unmatched => none
  | matched _ route => some route

/-- What resolving a path reports. -/
def record (path : String) : Resolution → LogRecord
  | unmatched => .unmatched path
  | matched pattern route =>
      .matched path pattern route.controller? route.method?

end Resolution

/-- Resolves a path. -/
def resolve (router : Router) (path : String) :
    Except RoutingError Resolution := do
  match ← findRoute router.compiler path router.routes.entries with
  | none => return .unmatched
  | some (pattern, template, captures) =>
      let inline ← Compiler.defaults pattern
      return .matched pattern
        (.ofTarget (Target.parse template) captures inline)

/-- The route that a path leads to, if there is one. -/
def matchRoute (router : Router) (path : String) :
    Except RoutingError (Option Route) :=
  Resolution.route? <$> router.resolve path

end Router
end PathRouter
