import PathRouter.Arguments

/-!
# Resolved routes

A resolved route names the controller and the method that are to be called, and
the arguments to call them with.  Its owner may change any of them before the
call.
-/

namespace PathRouter

/-- What is to be called for a path. -/
structure Route where
  /-- The controller, if there is one. -/
  controller? : Option String
  /-- The method, if there is one. -/
  method? : Option String
  /-- The arguments, if they are set. -/
  arguments? : Option Arguments := none
deriving DecidableEq

namespace Route

/-- The route that leads to a target, with the arguments of a match. -/
def ofTarget (target : Target) (captures : Captures)
    (inline : Table String) : Route where
  controller? := target.controller?
  method? := target.method?
  arguments? := some (.extract captures target inline)

/-- Changes the controller. -/
def setController (route : Route) (controller? : Option String) : Route :=
  { route with controller? }

/-- Changes the method. -/
def setMethod (route : Route) (method? : Option String) : Route :=
  { route with method? }

/-- Changes the arguments. -/
def setArguments (route : Route) (arguments? : Option Arguments) : Route :=
  { route with arguments? }

/-- Writes one argument. -/
def setArgument (route : Route) (name value : String) : Route :=
  { route with
    arguments? := some ((route.arguments?.getD {}).insert name value) }

/-- Whether there is a controller. -/
def hasController (route : Route) : Bool := route.controller?.isSome

/-- Whether there is a method. -/
def hasMethod (route : Route) : Bool := route.method?.isSome

/-- Whether the arguments are set, be they empty. -/
def hasArguments (route : Route) : Bool := route.arguments?.isSome

/-- Whether two routes call the same method with the same arguments; the order
of the arguments does not count. -/
def agree (a b : Route) : Bool :=
  a.controller? == b.controller? && a.method? == b.method? &&
    match a.arguments?, b.arguments? with
    | none, none => true
    | some first, some second => first.agree second
    | _, _ => false

end Route
end PathRouter
