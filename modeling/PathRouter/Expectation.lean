import PathRouter.Router

/-!
# Expectations

Tests of a route table state what a path is expected to lead to.  An
expectation that is not met says what the path leads to instead.
-/

namespace PathRouter

/-- A table as messages show it. -/
def Arguments.render (arguments : Arguments) : String :=
  (Value.ofTexts arguments).render

/-- The arguments of a route as messages show them. -/
def Route.renderArguments (route : Route) : String :=
  match route.arguments? with
  | none => "None"
  | some arguments => arguments.render

/-- A controller and a method as messages show them. -/
def renderTarget (controller? method? : Option String) : String :=
  LogRecord.nameOrNone controller? ++ "->" ++ LogRecord.nameOrNone method?

/-- The controller and the method of a route as messages show them. -/
def Route.renderTarget (route : Route) : String :=
  PathRouter.renderTarget route.controller? route.method?

/-- An expectation that is not met. -/
inductive Disappointment where
  /-- No route matches. -/
  | unmatched (path : String)
  /-- Another method is called. -/
  | otherTarget (path : String) (route : Route)
      (controller? method? : Option String)
  /-- The arguments differ. -/
  | otherArguments (path : String) (route : Route) (arguments : Arguments)
  /-- A route matches. -/
  | matched (path : String) (route : Route)
deriving DecidableEq

namespace Disappointment

/-- The wording of an expectation that is not met. -/
def message : Disappointment → String
  | unmatched path => "No route matches " ++ Text.quoted path
  | otherTarget path route controller? method? =>
      Text.quoted path ++ " resolved to " ++ route.renderTarget ++
        ", expected " ++ renderTarget controller? method?
  | otherArguments path route arguments =>
      Text.quoted path ++ " resolved with args " ++ route.renderArguments ++
        ", expected " ++ arguments.render
  | matched path route =>
      Text.quoted path ++ " unexpectedly resolved to " ++ route.renderTarget ++
        " with args " ++ route.renderArguments

end Disappointment

namespace Router

/-- Expects that a path leads to a method and, if they are given, has the
arguments, in any order. -/
def Resolution.expectRoute (resolution : Resolution)
    (path : String) (controller? method? : Option String)
    (arguments? : Option Arguments) : Except Disappointment Route :=
  match resolution with
  | .unmatched => .error (.unmatched path)
  | .matched _ route =>
      if route.controller? = controller? ∧ route.method? = method? then
        match arguments? with
        | none => .ok route
        | some arguments =>
            if route.arguments?.any (·.agree arguments) then .ok route
            else .error (.otherArguments path route arguments)
      else .error (.otherTarget path route controller? method?)

/-- Expects that a path leads nowhere. -/
def Resolution.expectNone (resolution : Resolution) (path : String) :
    Except Disappointment Unit :=
  match resolution with
  | .unmatched => .ok ()
  | .matched _ route => .error (.matched path route)

end Router
end PathRouter
