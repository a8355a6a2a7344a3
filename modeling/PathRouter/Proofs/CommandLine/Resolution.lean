import Mathlib
import PathRouter.Proofs.CommandLine.ImportStrings
import PathRouter.Proofs.Configuration.Files
import PathRouter.Proofs.Router.Arguments

/-!
# Reports of resolved paths

The route that a path leads to is reported as a document, which is read as the
names and the arguments of the route, whatever characters they consist of.  A
path that leads nowhere is reported to the other stream.

## Main statements

* `parse_render_routeValue`: the report of a route is read as the route.
* `runCommand_resolve`: what resolving a path reports.
-/

namespace PathRouter
namespace CommandLine

/-! ## Routes as documents -/

/-- The tokens of a name, or of nothing. -/
def nameTokens : Option String → List Json.Token
  | some name => [.text name]
  | none => [.scalar .null]

/-- The tokens of some arguments, or of nothing. -/
def argumentTokens : Option Arguments → List Json.Token
  | some arguments => Configuration.tableTokens arguments
  | none => [.scalar .null]

/-- Some arguments as a value, or nothing. -/
def argumentsValue (arguments? : Option Arguments) : Value :=
  (arguments?.map .ofTexts).getD .null

/-- The members of the report of a route. -/
def routeFields (route : Route) : List (String × Value) :=
  [("controller", nameValue route.controller?),
    ("method", nameValue route.method?),
    ("args", argumentsValue route.arguments?)]

/-- The members of the report of a route with the tokens of their values. -/
def routeTokens (route : Route) : List (String × List Json.Token) :=
  [("controller", nameTokens route.controller?),
    ("method", nameTokens route.method?),
    ("args", argumentTokens route.arguments?)]

theorem entries_routeFields (route : Route) :
    (Table.ofList (routeFields route)).entries = routeFields route := by
  apply Table.entries_ofList
  change ["controller", "method", "args"].Nodup
  decide

theorem scans_null : Json.Scans [.scalar .null] "null".toList :=
  fun _ => Json.map_scan_cons rfl rfl

theorem delivers_null : Json.Delivers [.scalar .null] .null := fun _ => rfl

theorem delivers_nameTokens (name? : Option String) :
    Json.Delivers (nameTokens name?) (nameValue name?) := by
  cases name? with
  | none => exact delivers_null
  | some name => exact Json.delivers_text name

theorem delivers_argumentTokens (arguments? : Option Arguments) :
    Json.Delivers (argumentTokens arguments?) (argumentsValue arguments?) := by
  cases arguments? with
  | none => exact delivers_null
  | some arguments => exact Configuration.delivers_tableTokens arguments

theorem scans_nameTokens (name? : Option String) (depth : Nat) :
    Json.Scans (nameTokens name?) (Json.write depth (nameValue name?)) := by
  cases name? with
  | none =>
      rw [nameValue, Json.write]
      exact scans_null
  | some name =>
      rw [nameValue, Json.write]
      exact (Json.areWritten_writtenText name).scans

theorem scans_argumentTokens (arguments? : Option Arguments) (depth : Nat) :
    Json.Scans (argumentTokens arguments?)
      (Json.write depth (argumentsValue arguments?)) := by
  cases arguments? with
  | none =>
      change Json.Scans _ (Json.write depth .null)
      rw [Json.write]
      exact scans_null
  | some arguments =>
      exact Configuration.laidOut_write_ofTexts Json.isLayout_scans arguments
        depth

/-- The report of a route is read as the value of the route. -/
theorem parse_render_routeValue (route : Route) :
    Json.parse (Json.render (routeValue route) ++ "\n").toList =
      .ok (routeValue route) := by
  have laysOut : Json.LaysOutMembers Json.Scans (routeTokens route)
      (Table.ofList (routeFields route)).entries :=
    (entries_routeFields route).symm ▸
      .cons ⟨rfl, scans_nameTokens _⟩
        (.cons ⟨rfl, scans_nameTokens _⟩
          (.cons ⟨rfl, scans_argumentTokens _⟩ .nil))
  have delivered : Json.AreDelivered (routeTokens route)
      (Table.ofList (routeFields route)).entries :=
    (entries_routeFields route).symm ▸
      .cons ⟨rfl, delivers_nameTokens _⟩
        (.cons ⟨rfl, delivers_nameTokens _⟩
          (.cons ⟨rfl, delivers_argumentTokens _⟩ .nil))
  have lineEnd : Json.AreWritten [] "\n".toList :=
    .nil fun c member => List.mem_singleton.mp member ▸ rfl
  have scans := (Json.isLayout_scans.write laysOut 0).append lineEnd.scans
  rw [List.append_nil] at scans
  rw [Json.render, String.toList_append, String.toList_ofList]
  exact scans.parse_eq (Json.delivers_mapTokens delivered)

/-! ## Reports -/

section Reports

variable
  {surroundings : Surroundings}
  {invocation : Invocation}
  {router : Router}
  {path : String}

namespace Report

variable {level : LogLevel} {message : String} {report : Report}

/-- A record changes only what goes to the other stream. -/
theorem output_withRecord :
    (report.withRecord level message).output = report.output := by
  unfold withRecord
  split <;> rfl

theorem ending_withRecord :
    (report.withRecord level message).ending = report.ending := by
  unfold withRecord
  split <;> rfl

/-- A record stands in front of what else goes wrong. -/
theorem errors_suffix_withRecord
    (level : LogLevel)
    (message : String)
    (report : Report) :
    report.errors.toList <:+
      (report.withRecord level message).errors.toList := by
  unfold withRecord
  split
  · exact String.toList_append ▸ List.suffix_append _ _
  · exact List.suffix_refl _

theorem output_lines_singleton (line : String) :
    (lines [line]).output = line ++ "\n" :=
  String.empty_append

theorem ending_ofError_ne (failure : RoutingError) :
    (ofError failure).ending ≠ .exit 0 := by
  unfold ofError
  split
  · exact nofun
  · exact nofun

end Report

variable [CharacterNames]

/-- A route that a path leads to has arguments. -/
theorem exists_arguments_of_matchRoute
    {route : Route}
    (matched : router.matchRoute path = .ok (some route)) :
    ∃ arguments, route.arguments? = some arguments := by
  obtain ⟨resolution, resolved, isRoute⟩ := exists_of_map matched
  cases resolution with
  | unmatched => cases isRoute
  | matched pattern found =>
      cases isRoute
      obtain ⟨found, captures, _, rfl⟩ :=
        Router.exists_routeMatch_of_resolve resolved
      exact ⟨_, rfl⟩

section Paths

variable (level : LogLevel)

theorem resolvePath_of_matched
    {route : Route}
    (matched : router.matchRoute path = .ok (some route)) :
    ∃ message, resolvePath level router path =
      (Report.lines [Json.render (routeValue route)]).withRecord level
        message := by
  obtain ⟨resolution, resolved, isRoute⟩ := exists_of_map matched
  rw [resolvePath, resolved]
  dsimp only
  rw [isRoute]
  exact ⟨_, rfl⟩

theorem resolvePath_of_unmatched
    (unmatched : router.matchRoute path = .ok none) :
    ∃ message, resolvePath level router path =
      (Report.refusal ("No route matches " ++ Text.quoted path)).withRecord
        level message := by
  obtain ⟨resolution, resolved, isNone⟩ := exists_of_map unmatched
  rw [resolvePath, resolved]
  dsimp only
  rw [isNone]
  exact ⟨_, rfl⟩

theorem resolvePath_of_error
    {failure : RoutingError}
    (failed : router.matchRoute path = .error failure) :
    resolvePath level router path = .ofError failure := by
  rw [Router.matchRoute] at failed
  rw [resolvePath]
  cases resolved : router.resolve path with
  | ok resolution =>
      rw [resolved] at failed
      cases failed
  | error other =>
      rw [resolved] at failed
      cases failed
      rfl

/-- A path is reported with success exactly if it leads to a route. -/
theorem ending_resolvePath_iff :
    (resolvePath level router path).ending = .exit 0 ↔
      ∃ route, router.matchRoute path = .ok (some route) := by
  cases outcome : router.matchRoute path with
  | error failure =>
      rw [resolvePath_of_error level outcome]
      exact iff_of_false (Report.ending_ofError_ne failure) nofun
  | ok route? =>
      cases route? with
      | none =>
          obtain ⟨message, report⟩ := resolvePath_of_unmatched level outcome
          rw [report, Report.ending_withRecord]
          exact iff_of_false nofun nofun
      | some route =>
          obtain ⟨message, report⟩ := resolvePath_of_matched level outcome
          rw [report, Report.ending_withRecord]
          exact iff_of_true rfl ⟨route, rfl⟩

end Paths

/-- On a router, resolving a path succeeds exactly if the path leads to a route.
The report is then read as the names and the arguments of the route.  Nothing is
reported to the same stream if no route matches or if a pattern does not
compile; the other stream tells the path or the failure, and the run does not
succeed. -/
theorem runCommand_resolve
    (found : surroundings.routerOf invocation.source? = .ok router)
    (isResolve : invocation.command = .resolve)
    (given : invocation.path? = some path) :
    let report := runCommand invocation router
    (∀ arguments, Invocation.read arguments = .ok invocation →
      run surroundings arguments = report) ∧
    (report.ending = .exit 0 ↔
      ∃ route, router.matchRoute path = .ok (some route)) ∧
    (∀ route, router.matchRoute path = .ok (some route) →
      ∃ arguments, route.arguments? = some arguments ∧
        Json.parse report.output.toList =
          .ok (.ofTable (.ofList [
            ("controller", (route.controller?.map .text).getD .null),
            ("method", (route.method?.map .text).getD .null),
            ("args", .ofTable (arguments.mapValues fun _ => .text))]))) ∧
    (router.matchRoute path = .ok none →
      report.output = "" ∧ report.ending = .exit 1 ∧
        ("No route matches " ++ Text.quoted path ++ "\n").toList <:+
          report.errors.toList) ∧
    ∀ failure, router.matchRoute path = .error failure →
      failure.kind.isConfiguration = true →
        report =
          { output := "", errors := "Error: " ++ failure.message ++ "\n",
            ending := .exit 1 } := by
  intro report
  have isReport : report = resolvePath invocation.level router path := by
    change runCommand invocation router = _
    rw [runCommand, isResolve, given]
  refine ⟨fun arguments read => run_of_ok read found, ?_, ?_, ?_, ?_⟩
  · rw [isReport]
    exact ending_resolvePath_iff invocation.level
  · intro route matched
    obtain ⟨arguments, set⟩ := exists_arguments_of_matchRoute matched
    obtain ⟨message, resolved⟩ :=
      resolvePath_of_matched invocation.level matched
    refine ⟨arguments, set, ?_⟩
    rw [isReport, resolved, Report.output_withRecord,
      Report.output_lines_singleton, parse_render_routeValue, routeValue, set]
    cases route.controller? <;> cases route.method? <;> rfl
  · intro unmatched
    obtain ⟨message, resolved⟩ :=
      resolvePath_of_unmatched invocation.level unmatched
    rw [isReport, resolved, Report.output_withRecord, Report.ending_withRecord]
    exact ⟨rfl, rfl, Report.errors_suffix_withRecord invocation.level message
      (.refusal _)⟩
  · intro failure failed isConfiguration
    rw [isReport, resolvePath_of_error invocation.level failed,
      Report.ofError_of_isConfiguration isConfiguration]

end Reports

open scoped CharacterNames.BasicLatin

/-- A router whose route takes any text. -/
def noteRouter : Router :=
  (Router.empty.addRoute "/notes/:text" "Note->show(kind=plain)").addToken
    "text" ".*"

/-- Marks and characters beyond the first ones are reported as they are. -/
theorem runCommand_resolve_notes :
    let surroundings := Surroundings.ofRouter noteRouter
    let report := run surroundings ["match", "app", "/notes/\"😀\\"]
    surroundings.routerOf (some "app") = .ok noteRouter ∧
      report.ending = .exit 0 ∧
      Json.parse report.output.toList = .ok (.ofTable (.ofList [
        ("controller", .text "Note"),
        ("method", .text "show"),
        ("args", .ofTable (.ofList [("text", .text "\"😀\\"),
          ("kind", .text "plain")]))])) := by
  intro surroundings report
  have read : Invocation.read ["match", "app", "/notes/\"😀\\"] =
      .ok ⟨.warning, .resolve, some "app", some "/notes/\"😀\\"⟩ := by
    cbv
  have found := Surroundings.routerOf_ofRouter noteRouter
  have resolved : noteRouter.resolve "/notes/\"😀\\" =
      .ok (.matched "/notes/:text" ⟨some "Note", some "show",
        some (.ofList [("text", "\"😀\\"), ("kind", "plain")])⟩) := by
    cbv
  have matched : noteRouter.matchRoute "/notes/\"😀\\" =
      .ok (some ⟨some "Note", some "show",
        some (.ofList [("text", "\"😀\\"), ("kind", "plain")])⟩) := by
    rw [Router.matchRoute, resolved]
    rfl
  obtain ⟨isRun, ending, document, _⟩ := @runCommand_resolve surroundings
    ⟨.warning, .resolve, some "app", some "/notes/\"😀\\"⟩ noteRouter _ _ found
    rfl rfl
  obtain ⟨arguments, set, parsed⟩ := document _ matched
  cases set
  have isReport : report = _ := isRun _ read
  rw [isReport]
  exact ⟨found, ending.mpr ⟨_, matched⟩, parsed⟩

end CommandLine
end PathRouter
