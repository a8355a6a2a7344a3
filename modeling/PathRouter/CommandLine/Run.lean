import PathRouter.CommandLine.Invocation
import PathRouter.CommandLine.Source
import PathRouter.Json.Writer

/-!
# Running commands

A run writes a report to one stream, and refusals and records to another one,
and it ends with a status.  What is wrong with the configuration is reported;
an input that exceeds a limit ends the run as a failure.

## Main definitions

* `Report`: what a run leaves behind.
* `listRoutes`, `resolvePath` and `checkRoutes`: the commands.
* `run`: a run with some arguments.
-/

namespace PathRouter
namespace CommandLine

/-- How a run ends. -/
inductive Ending where
  /-- With a status; zero says that all is well. -/
  | exit (status : Nat)
  /-- With a failure that is not reported. -/
  | failure (error : RoutingError)
deriving DecidableEq, Repr

/-- What a run leaves behind. -/
structure Report where
  /-- The report. -/
  output : String := ""
  /-- Refusals and records. -/
  errors : String := ""
  /-- How the run ends. -/
  ending : Ending := .exit 0
deriving DecidableEq, Repr

/-- The name under which routers report what they do. -/
def loggerName : String := PublicName.package ++ ".routing"

namespace Report

/-- A report of some lines. -/
def lines (lines : List String) : Report where
  output := String.join (lines.map (· ++ "\n"))

/-- The report of a reason why there is nothing to report. -/
def refusal (reason : String) : Report where
  errors := reason ++ "\n"
  ending := .exit 1

/-- The report of an error. -/
def error (message : String) : Report := refusal ("Error: " ++ message)

/-- The report of a failure. -/
def ofError (failure : RoutingError) : Report :=
  if failure.kind.isConfiguration then error failure.message
  else { ending := .failure failure }

/-- What is wrong with the configuration is reported, and nothing else. -/
theorem ofError_of_isConfiguration
    {failure : RoutingError}
    (isConfiguration : failure.kind.isConfiguration = true) :
    ofError failure =
      { output := "", errors := "Error: " ++ failure.message ++ "\n",
        ending := .exit 1 } :=
  if_pos isConfiguration

/-- The report of a source that stands for no router. -/
def ofSourceFault (fault : SourceFault) : Report :=
  match fault.escaping? with
  | some failure => { ending := .failure failure }
  | none => error fault.message

/-- A report with a record in front of what else goes wrong, if it is
shown. -/
def withRecord (level : LogLevel) (message : String) (report : Report) :
    Report :=
  if level = .debug then
    { report with
      errors := LogRecord.level ++ " " ++ loggerName ++ ": " ++ message ++
        "\n" ++ report.errors }
  else report

end Report

/-! ## Listing routes -/

/-- A row of the table of routes. -/
structure Row where
  /-- The pattern of the route. -/
  pattern : String
  /-- What the route leads to. -/
  target : String
  /-- The text of the expression of the pattern. -/
  source : String
deriving DecidableEq, Repr

namespace Row

/-- The heads of the columns. -/
def header : Row := ⟨"PATTERN", "TARGET", "REGEX"⟩

/-- The greatest width of a column over some rows. -/
def width (column : Row → String) (rows : List Row) : Nat :=
  rows.foldl (fun width row => max width (column row).length) 0

/-- A row, whose first two columns are filled up to their widths. -/
def render (patternWidth targetWidth : Nat) (row : Row) : String :=
  Interface.fill patternWidth row.pattern ++ "  " ++
    Interface.fill targetWidth row.target ++ "  " ++ row.source

/-- The greatest width of the rule below the header. -/
def maxRuleWidth : Nat := 80

/-- The lines of a table. -/
def table (rows : List Row) : List String :=
  let patternWidth := width pattern (header :: rows)
  let targetWidth := width target (header :: rows)
  let ruleWidth := patternWidth + targetWidth + 4 + width source rows
  header.render patternWidth targetWidth ::
    String.ofList (List.replicate (min ruleWidth maxRuleWidth) '-') ::
    rows.map (render patternWidth targetWidth)

end Row

/-- Lists the routes. -/
def listRoutes (router : Router) : Report :=
  match router.routes.entries with
  | [] => .lines ["No routes registered."]
  | routes =>
      match router.sources with
      | .error failure => .ofError failure
      | .ok sources =>
          .lines (Row.table (List.zipWith
            (fun route source => ⟨route.1, route.2, source.2⟩)
            routes sources))

/-! ## Resolving a path -/

/-- A name, or nothing. -/
def nameValue : Option String → Value
  | some name => .text name
  | none => .null

/-- A resolved route as a value. -/
def routeValue (route : Route) : Value :=
  .ofTable (.ofList [
    ("controller", nameValue route.controller?),
    ("method", nameValue route.method?),
    ("args", (route.arguments?.map .ofTexts).getD .null)])

variable [CharacterNames]

/-- Resolves a path. -/
def resolvePath (level : LogLevel) (router : Router) (path : String) :
    Report :=
  match router.resolve path with
  | .error failure => .ofError failure
  | .ok resolution =>
      let report : Report :=
        match resolution.route? with
        | none => .refusal ("No route matches " ++ Text.quoted path)
        | some route => .lines [Json.render (routeValue route)]
      report.withRecord level (resolution.record path).message

/-- Resolves no path at all, which works if there is no route. -/
def resolveNothing (level : LogLevel) (router : Router) : Report :=
  match router.routes.keys with
  | [] =>
      let reason := "No route matches " ++ (Value.list []).render
      (Report.refusal reason).withRecord level reason
  | pattern :: _ =>
      match router.compiler.compile pattern with
      | .error failure => .ofError failure
      | .ok _ => .ofError (.limit .missingText)

/-! ## Checking routes -/

/-- Compiles all routes. -/
def checkRoutes (router : Router) : Report :=
  match router.check with
  | .error failure => .ofError failure
  | .ok () =>
      let count := router.routes.size
      .lines ["OK: " ++ toString count ++ " route" ++
        (if count = 1 then "" else "s") ++ " compiled."]

/-! ## Runs -/

/-- Runs a command on a router. -/
def runCommand (invocation : Invocation) (router : Router) : Report :=
  match invocation.command, invocation.path? with
  | .routes, _ => listRoutes router
  | .check, _ => checkRoutes router
  | .resolve, some path => resolvePath invocation.level router path
  | .resolve, none => resolveNothing invocation.level router

/-- What an early end of the reading of arguments leaves behind. -/
def Exit.report : Exit → Report
  | help interface => { output := interface.help }
  | refused interface refusal =>
      { errors := interface.refusal refusal.message, ending := .exit 2 }

/-- A run with some arguments. -/
def run (surroundings : Surroundings) (arguments : List String) : Report :=
  match Invocation.read arguments with
  | .error exit => exit.report
  | .ok invocation =>
      match surroundings.routerOf invocation.source? with
      | .error fault => .ofSourceFault fault
      | .ok router => runCommand invocation router

section

variable
  {surroundings : Surroundings}
  {arguments : List String}
  {invocation : Invocation}

/-- A run reports why its source stands for no router. -/
theorem run_of_error
    {fault : SourceFault}
    (read : Invocation.read arguments = .ok invocation)
    (failed : surroundings.routerOf invocation.source? = .error fault) :
    run surroundings arguments = .ofSourceFault fault := by
  rw [run, read]
  dsimp only
  rw [failed]

/-- A run ends as its command does on the router of its source. -/
theorem run_of_ok
    {router : Router}
    (read : Invocation.read arguments = .ok invocation)
    (found : surroundings.routerOf invocation.source? = .ok router) :
    run surroundings arguments = runCommand invocation router := by
  rw [run, read]
  dsimp only
  rw [found]

end

end CommandLine
end PathRouter
