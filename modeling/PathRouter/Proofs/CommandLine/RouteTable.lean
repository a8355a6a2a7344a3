import Mathlib
import PathRouter.Proofs.CommandLine.ImportStrings
import PathRouter.Proofs.Compiler.Limits
import PathRouter.Proofs.Router.Scan
import PathRouter.Proofs.Table.Reading

/-!
# The table of routes

The routes of a router are listed with one line to a route.  The targets and the
expressions start in columns of their own, which leave room for the longest
pattern and the longest target.  So each route can be read back from its line.

## Main definitions

* `longest`: the length of the longest of some texts.
* `Row.StandsIn`: a line in which a row stands in its columns.
* `Row.ofLine`: the row that a line shows when it is cut at its columns.

## Main statements

* `Row.standsIn_render`: a row is written into its columns.
* `Row.StandsIn.isReadBack`: a row is read back from its line.
* `runCommand_routes`: what listing routes reports.
-/

namespace PathRouter
namespace CommandLine

/-! ## Lengths -/

/-- The length of the longest of some texts. -/
def longest (texts : List String) : Nat :=
  (texts.map String.length).foldr max 0

theorem longest_cons (text : String) (texts : List String) :
    longest (text :: texts) = max text.length (longest texts) :=
  rfl

theorem length_le_longest
    {text : String}
    {texts : List String}
    (member : text ∈ texts) :
    text.length ≤ longest texts := by
  induction texts with
  | nil => cases member
  | cons other rest inductionHypothesis =>
      rw [longest_cons]
      rcases List.mem_cons.mp member with rfl | member
      · exact le_max_left _ _
      · exact (inductionHypothesis member).trans (le_max_right _ _)

/-! ## Lines -/

/-- Each of some texts has one line. -/
def HasOneLine (texts : List String) : Prop :=
  ∀ text ∈ texts, '\n' ∉ text.toList

/-- Lines that are ended one by one fall apart where they end. -/
theorem splitOn_toList_lines
    {lines : List String}
    (oneLine : HasOneLine lines) :
    (Report.lines lines).output.toList.splitOn '\n' =
      lines.map String.toList ++ [[]] := by
  rw [Report.lines, String.toList_join]
  induction lines with
  | nil => rfl
  | cons line rest inductionHypothesis =>
      obtain ⟨here, behind⟩ := List.forall_mem_cons.mp oneLine
      rw [List.map_cons, List.flatMap_cons, String.toList_append]
      change ((line.toList ++ ['\n']) ++ _).splitOn '\n' = _
      rw [List.append_assoc, List.singleton_append,
        List.splitOn_append_cons_self, List.splitOn_eq_singleton here,
        inductionHypothesis behind]
      rfl

theorem toList_fill (width : Nat) (text : String) :
    (Interface.fill width text).toList =
      text.toList ++ List.replicate (width - text.length) ' ' := by
  rw [Interface.fill, String.toList_append, String.toList_ofList]

/-! ## Padding -/

/-- A text without the blanks at its end. -/
def withoutPadding (text : List Char) : String :=
  .ofList (text.rdropWhile (· = ' '))

/-- Blanks that are added to a text are dropped. -/
theorem withoutPadding_append
    {text : String}
    (noBlank : text.toList.getLast? ≠ some ' ')
    (count : Nat) :
    withoutPadding (text.toList ++ List.replicate count ' ') = text := by
  have alone : text.toList.rdropWhile (· = ' ') = text.toList := by
    rw [List.rdropWhile_eq_self_iff]
    intro nonempty blank
    apply noBlank
    rw [List.getLast?_eq_some_getLast nonempty, of_decide_eq_true blank]
  have dropped : (text.toList ++ List.replicate count ' ').rdropWhile
      (· = ' ') = text.toList := by
    induction count with
    | zero => rw [List.replicate_zero, List.append_nil, alone]
    | succ count inductionHypothesis =>
        rw [List.replicate_succ', ← List.append_assoc,
          List.rdropWhile_concat_pos _ _ _ rfl, inductionHypothesis]
  rw [withoutPadding, dropped, String.ofList_toList]

namespace Row

variable
  {row : Row}
  {line : List Char}
  {targetColumn sourceColumn : Nat}

/-! ## Columns -/

/-- A line in which a row stands in its columns, with at least two blanks
between them. -/
def StandsIn (targetColumn sourceColumn : Nat) (row : Row) (line : List Char) :
    Prop :=
  ∃ behindPattern behindTarget,
    2 ≤ behindPattern ∧ 2 ≤ behindTarget ∧
      row.pattern.length + behindPattern = targetColumn ∧
      targetColumn + row.target.length + behindTarget = sourceColumn ∧
      line = row.pattern.toList ++ List.replicate behindPattern ' ' ++
        (row.target.toList ++ List.replicate behindTarget ' ' ++
          row.source.toList)

/-- The row that a line shows when it is cut at its columns. -/
def ofLine (targetColumn sourceColumn : Nat) (line : List Char) : Row where
  pattern := withoutPadding (line.take targetColumn)
  target := withoutPadding (line.extract targetColumn sourceColumn)
  source := .ofList (line.drop sourceColumn)

/-- What a row has in common with the one that is read back from its line. -/
structure IsReadBack (row back : Row) : Prop where
  /-- The pattern, unless it ends in a blank. -/
  pattern : row.pattern.toList.getLast? ≠ some ' ' →
    back.pattern = row.pattern
  /-- The target, unless it ends in a blank. -/
  target : row.target.toList.getLast? ≠ some ' ' → back.target = row.target
  /-- The text of the expression. -/
  source : back.source = row.source

/-- A row is read back from its line. -/
theorem StandsIn.isReadBack
    (stands : row.StandsIn targetColumn sourceColumn line) :
    row.IsReadBack (ofLine targetColumn sourceColumn line) := by
  obtain ⟨behindPattern, behindTarget, _, _, first, second, rfl⟩ := stands
  have front : (row.pattern.toList ++ List.replicate behindPattern ' ').length =
      targetColumn := by
    rw [List.length_append, List.length_replicate, String.length_toList, first]
  have middle : (row.target.toList ++ List.replicate behindTarget ' ').length =
      sourceColumn - targetColumn := by
    rw [List.length_append, List.length_replicate, String.length_toList]
    omega
  have whole : sourceColumn = targetColumn + (sourceColumn - targetColumn) := by
    omega
  constructor
  · intro noBlank
    rw [ofLine, List.take_left' front]
    exact withoutPadding_append noBlank behindPattern
  · intro noBlank
    rw [ofLine, List.extract_eq_take_drop, List.drop_left' front,
      List.take_left' middle]
    exact withoutPadding_append noBlank behindTarget
  · rw [ofLine]
    change String.ofList (List.drop sourceColumn _) = _
    rw [whole, ← List.drop_drop, List.drop_left' front, List.drop_left' middle,
      String.ofList_toList]

/-- A line has no line end if its row has none. -/
theorem StandsIn.not_mem
    (stands : row.StandsIn targetColumn sourceColumn line)
    (pattern : '\n' ∉ row.pattern.toList)
    (target : '\n' ∉ row.target.toList)
    (source : '\n' ∉ row.source.toList) :
    '\n' ∉ line := by
  obtain ⟨behindPattern, behindTarget, _, _, _, _, rfl⟩ := stands
  have blanks (count : Nat) : '\n' ∉ List.replicate count ' ' := by
    intro member
    cases List.eq_of_mem_replicate member
  simp only [List.mem_append, not_or]
  exact ⟨⟨pattern, blanks _⟩, ⟨target, blanks _⟩, source⟩

/-- A row is written into its columns. -/
theorem standsIn_render
    {patternWidth targetWidth : Nat}
    (pattern : row.pattern.length ≤ patternWidth)
    (target : row.target.length ≤ targetWidth) :
    row.StandsIn (patternWidth + 2) (patternWidth + 2 + (targetWidth + 2))
      (row.render patternWidth targetWidth).toList := by
  have padding (count : Nat) :
      List.replicate count ' ' ++ "  ".toList =
        List.replicate (count + 2) ' ' := by
    rw [List.replicate_add]
    rfl
  refine ⟨patternWidth - row.pattern.length + 2,
    targetWidth - row.target.length + 2, by omega, by omega, by omega, by omega,
    ?_⟩
  rw [render]
  simp only [String.toList_append, toList_fill, List.append_assoc, ← padding]

/-- The width of a column is the length of its longest text. -/
theorem width_eq_longest (column : Row → String) (rows : List Row) :
    width column rows = longest (rows.map column) := by
  have folded (start : Nat) :
      rows.foldl (fun width row => max width (column row).length) start =
        max start (longest (rows.map column)) := by
    induction rows generalizing start with
    | nil => exact (Nat.max_zero start).symm
    | cons row rest inductionHypothesis =>
        rw [List.foldl_cons, inductionHypothesis, List.map_cons, longest_cons,
          max_assoc]
  rw [width, folded, Nat.zero_max]

theorem length_le_width
    {rows : List Row}
    (member : row ∈ rows)
    (column : Row → String) :
    (column row).length ≤ width column rows :=
  width_eq_longest column rows ▸
    length_le_longest (List.mem_map_of_mem member)

/-- All rows of a table are written into the same columns. -/
theorem standsIn_of_mem
    {rows : List Row}
    (member : row ∈ rows) :
    row.StandsIn (width pattern rows + 2)
      (width pattern rows + 2 + (width Row.target rows + 2))
      (row.render (width pattern rows) (width Row.target rows)).toList :=
  standsIn_render (length_le_width member pattern)
    (length_le_width member Row.target)

example :
    table [⟨"/", "Home->index", "^/$"⟩, ⟨"/about", "Home->about", "^/about$"⟩] =
      ["PATTERN  TARGET       REGEX", "------------------------------",
        "/        Home->index  ^/$", "/about   Home->about  ^/about$"] := by
  decide

end Row

/-! ## Rows of routes -/

variable
  {surroundings : Surroundings}
  {invocation : Invocation}
  {router : Router}

/-- The width of the column of patterns. -/
def patternWidth (routes : Table String) : Nat :=
  max 7 (longest (routes.entries.map Prod.fst))

/-- The width of the column of targets. -/
def targetWidth (routes : Table String) : Nat :=
  max 6 (longest (routes.entries.map Prod.snd))

/-- The column in which targets start. -/
def targetColumn (routes : Table String) : Nat := patternWidth routes + 2

/-- The column in which the texts of expressions start. -/
def sourceColumn (routes : Table String) : Nat :=
  targetColumn routes + (targetWidth routes + 2)

/-- The line of a row in the table of some routes. -/
def lineOf (routes : Table String) (row : Row) : String :=
  row.render (patternWidth routes) (targetWidth routes)

/-- The row of a route with the text of its expression. -/
def rowOf (pair : (String × String) × (String × String)) : Row :=
  ⟨pair.1.1, pair.1.2, pair.2.2⟩

/-- The texts of the expressions of some routes, in their order. -/
abbrev AreSources
    (compiler : Compiler)
    (routes sources : List (String × String)) : Prop :=
  List.Forall₂
    (fun route entry => entry.1 = route.1 ∧
      compiler.source route.1 = .ok entry.2)
    routes sources

namespace AreSources

variable
  {compiler : Compiler}
  {routes sources : List (String × String)}
  (areSources : AreSources compiler routes sources)
include areSources

theorem map_fst : sources.map Prod.fst = routes.map Prod.fst := by
  induction areSources with
  | nil => rfl
  | cons isSource _ inductionHypothesis =>
      rw [List.map_cons, List.map_cons, isSource.1, inductionHypothesis]

theorem map_fst_zip : (routes.zip sources).map Prod.fst = routes :=
  List.map_fst_zip areSources.length_eq.le

theorem map_snd_zip : (routes.zip sources).map Prod.snd = sources :=
  List.map_snd_zip areSources.length_eq.ge

/-- Every route has a text of its expression. -/
theorem exists_of_mem
    {route : String × String}
    (member : route ∈ routes) :
    ∃ source, compiler.source route.1 = .ok source := by
  rw [← areSources.map_fst_zip] at member
  obtain ⟨pair, paired, rfl⟩ := List.mem_map.mp member
  exact ⟨_, (List.forall₂_zip areSources paired).2⟩

/-- The first two columns of the rows are parts of the routes. -/
theorem map_rowOf
    {column : Row → String}
    {part : String × String → String}
    (isPart : column ∘ rowOf = part ∘ Prod.fst) :
    ((routes.zip sources).map rowOf).map column = routes.map part := by
  rw [List.map_map, isPart, ← List.map_map, areSources.map_fst_zip]

theorem map_source :
    ((routes.zip sources).map rowOf).map Row.source =
      sources.map Prod.snd := by
  have isPart : Row.source ∘ rowOf = Prod.snd ∘ Prod.snd := rfl
  rw [List.map_map, isPart, ← List.map_map, areSources.map_snd_zip]

theorem hasOneLine_sources
    (texts : ∀ route ∈ routes, ∀ source,
      compiler.source route.1 = .ok source → '\n' ∉ source.toList) :
    HasOneLine (sources.map Prod.snd) := by
  rw [HasOneLine, List.forall_mem_map]
  intro entry member
  rw [← areSources.map_snd_zip] at member
  obtain ⟨pair, paired, rfl⟩ := List.mem_map.mp member
  exact texts pair.1 (List.of_mem_zip paired).1 _
    (List.forall₂_zip areSources paired).2

end AreSources

section Table

variable
  {compiler : Compiler}
  {routes : Table String}
  {sources : List (String × String)}
  (areSources : AreSources compiler routes.entries sources)
include areSources

theorem AreSources.width_pattern :
    Row.width Row.pattern
        (Row.header :: (routes.entries.zip sources).map rowOf) =
      patternWidth routes := by
  have isPart : Row.pattern ∘ rowOf = Prod.fst ∘ Prod.fst := rfl
  rw [Row.width_eq_longest, List.map_cons, areSources.map_rowOf isPart]
  rfl

theorem AreSources.width_target :
    Row.width Row.target
        (Row.header :: (routes.entries.zip sources).map rowOf) =
      targetWidth routes := by
  have isPart : Row.target ∘ rowOf = Prod.snd ∘ Prod.fst := rfl
  rw [Row.width_eq_longest, List.map_cons, areSources.map_rowOf isPart]
  rfl

/-- A table consists of its header, a rule, and one line to a route. -/
theorem AreSources.table_eq :
    Row.table ((routes.entries.zip sources).map rowOf) =
      lineOf routes Row.header ::
        .ofList (List.replicate
          (min (sourceColumn routes + longest (sources.map Prod.snd)) 80)
          '-') ::
        (routes.entries.zip sources).map fun pair =>
          lineOf routes (rowOf pair) := by
  have ruleWidth : patternWidth routes + targetWidth routes + 4 +
      longest (sources.map Prod.snd) =
        sourceColumn routes + longest (sources.map Prod.snd) := by
    rw [sourceColumn, targetColumn]
    omega
  rw [Row.table, areSources.width_pattern, areSources.width_target,
    Row.width_eq_longest Row.source, areSources.map_source, ruleWidth,
    List.map_map]
  rfl

/-- The header and the rows of all routes stand in the same columns. -/
theorem AreSources.standsIn
    {row : Row}
    (member : row ∈ Row.header :: (routes.entries.zip sources).map rowOf) :
    row.StandsIn (targetColumn routes) (sourceColumn routes)
      (lineOf routes row).toList := by
  have stands := Row.standsIn_of_mem member
  rwa [areSources.width_pattern, areSources.width_target] at stands

/-- Each line of a table is one line. -/
theorem AreSources.hasOneLine_table
    (patterns : HasOneLine (routes.entries.map Prod.fst))
    (targets : HasOneLine (routes.entries.map Prod.snd))
    (texts : HasOneLine (sources.map Prod.snd)) :
    HasOneLine (Row.table ((routes.entries.zip sources).map rowOf)) := by
  rw [areSources.table_eq, HasOneLine, List.forall_mem_cons,
    List.forall_mem_cons, List.forall_mem_map]
  refine ⟨?_, ?_, fun pair paired => ?_⟩
  · exact (areSources.standsIn List.mem_cons_self).not_mem (by decide)
      (by decide) (by decide)
  · rw [String.toList_ofList]
    intro member
    cases List.eq_of_mem_replicate member
  · have stands := areSources.standsIn
      (List.mem_cons_of_mem _ (List.mem_map_of_mem paired))
    obtain ⟨isRoute, isSource⟩ := List.of_mem_zip paired
    exact stands.not_mem (patterns _ (List.mem_map_of_mem isRoute))
      (targets _ (List.mem_map_of_mem isRoute))
      (texts _ (List.mem_map_of_mem isSource))

/-- The routes have their lines in their order. -/
theorem AreSources.forall₂_lines :
    List.Forall₂
      (fun route line => ∃ source, sources.lookup route.1 = some source ∧
        (Row.mk route.1 route.2 source).StandsIn (targetColumn routes)
          (sourceColumn routes) line)
      routes.entries
      ((routes.entries.zip sources).map fun pair =>
        (lineOf routes (rowOf pair)).toList) := by
  have distinct : (sources.map Prod.fst).Nodup :=
    areSources.map_fst ▸ routes.distinct
  suffices lines : List.Forall₂ _
      ((routes.entries.zip sources).map Prod.fst) _ by
    rwa [areSources.map_fst_zip] at lines
  rw [List.forall₂_map_left_iff, List.forall₂_map_right_iff, List.forall₂_same]
  intro pair paired
  have same := (List.forall₂_zip areSources paired).1
  refine ⟨pair.2.2, ?_, areSources.standsIn
    (List.mem_cons_of_mem _ (List.mem_map_of_mem paired))⟩
  rw [← same]
  exact lookup_of_mem distinct (List.of_mem_zip paired).2

end Table

theorem listRoutes_eq
    (nonempty : router.routes.entries ≠ []) :
    listRoutes router =
      match router.sources with
      | .error failure => .ofError failure
      | .ok sources => .lines (Row.table
          ((router.routes.entries.zip sources).map rowOf)) := by
  unfold listRoutes
  split
  · next empty => exact absurd empty nonempty
  · simp only [← List.map_uncurry_zip_eq_zipWith]
    rfl

theorem areSources_of_sources
    {sources : List (String × String)}
    (rendered : router.sources = .ok sources) :
    AreSources router.compiler router.routes.entries sources :=
  List.forall₂_map_left_iff.mp (Router.forall₂_of_sourcesOf rendered)

/-! ## Reports -/

/-- A pattern of a router whose expression has no text because of the
configuration. -/
structure LacksSource
    (router : Router)
    (pattern : String)
    (failure : RoutingError) : Prop where
  /-- The pattern is that of a route. -/
  registered : pattern ∈ router.routes.keys
  /-- Its expression has no text. -/
  failed : router.compiler.source pattern = .error failure
  /-- The configuration is to blame. -/
  isConfiguration : failure.kind.isConfiguration = true

/-- No text is missing if all of them are there. -/
theorem not_lacksSource
    {sources : List (String × String)}
    {pattern : String}
    {failure : RoutingError}
    (rendered : router.sources = .ok sources) :
    ¬LacksSource router pattern failure := by
  rintro ⟨member, failed, _⟩
  obtain ⟨route, isRoute, rfl⟩ := List.mem_map.mp member
  obtain ⟨source, isSource⟩ :=
    (areSources_of_sources rendered).exists_of_mem isRoute
  cases failed.symm.trans isSource

/-- The failure to give the texts is that one of them is missing. -/
theorem exists_lacksSource
    {failure : RoutingError}
    (failed : router.sources = .error failure) :
    ∃ pattern, LacksSource router pattern failure := by
  obtain ⟨pattern, member, failed⟩ :=
    Router.exists_of_sourcesOf_eq_error failed
  exact ⟨pattern, member, failed, Compiler.isConfiguration_of_source failed⟩

/-- If the text of an expression is missing, then nothing is listed. -/
theorem exists_failure_of_listRoutes
    (nonempty : router.routes.entries ≠ [])
    (lacking : ∃ pattern failure, LacksSource router pattern failure) :
    ∃ pattern failure, LacksSource router pattern failure ∧
      listRoutes router =
        { output := "", errors := "Error: " ++ failure.message ++ "\n",
          ending := .exit 1 } := by
  obtain ⟨pattern, failure, lacks⟩ := lacking
  rw [listRoutes_eq nonempty]
  cases rendered : router.sources with
  | ok sources => exact absurd lacks (not_lacksSource rendered)
  | error failure =>
      obtain ⟨pattern, lacks⟩ := exists_lacksSource rendered
      exact ⟨pattern, failure, lacks,
        Report.ofError_of_isConfiguration lacks.isConfiguration⟩

/-- If no text of an expression is missing, then the routes are listed in their
order. -/
theorem exists_lines_of_listRoutes
    {sources : List (String × String)}
    (nonempty : router.routes.entries ≠ [])
    (rendered : router.sources = .ok sources)
    (patterns : HasOneLine (router.routes.entries.map Prod.fst))
    (targets : HasOneLine (router.routes.entries.map Prod.snd))
    (texts : HasOneLine (sources.map Prod.snd)) :
    ∃ head lines,
      (listRoutes router).output.toList.splitOn '\n' =
        head :: List.replicate
          (min (sourceColumn router.routes + longest (sources.map Prod.snd)) 80)
          '-' :: (lines ++ [[]]) ∧
      Row.header.StandsIn (targetColumn router.routes)
        (sourceColumn router.routes) head ∧
      List.Forall₂ (fun route line => ∃ source,
          sources.lookup route.1 = some source ∧
          (Row.mk route.1 route.2 source).StandsIn (targetColumn router.routes)
            (sourceColumn router.routes) line)
        router.routes.entries lines := by
  have areSources := areSources_of_sources rendered
  have report : listRoutes router = .lines (Row.table
      ((router.routes.entries.zip sources).map rowOf)) := by
    rw [listRoutes_eq nonempty, rendered]
  have split := splitOn_toList_lines
    (areSources.hasOneLine_table patterns targets texts)
  rw [← report, areSources.table_eq, List.map_cons, List.map_cons,
    String.toList_ofList, List.map_map] at split
  exact ⟨_, _, split, areSources.standsIn List.mem_cons_self,
    areSources.forall₂_lines⟩

/-- The texts of the expressions are there unless one is missing. -/
theorem exists_sources
    (complete : ¬∃ pattern failure, LacksSource router pattern failure) :
    ∃ sources, router.sources = .ok sources := by
  cases rendered : router.sources with
  | ok sources => exact ⟨sources, rfl⟩
  | error failure =>
      obtain ⟨pattern, lacks⟩ := exists_lacksSource rendered
      exact absurd ⟨pattern, failure, lacks⟩ complete

theorem ending_listRoutes
    {sources : List (String × String)}
    (rendered : router.sources = .ok sources) :
    (listRoutes router).ending = .exit 0 := by
  unfold listRoutes
  rw [rendered]
  split <;> rfl

open scoped CharacterNames.BasicLatin

/-- A router with a route that has a token and one that has none. -/
def postRouter : Router :=
  ((Router.empty.addRoute "/" "Home->index").addRoute "/post/:id"
    "Post->show").addToken "id" "[0-9]+"

end CommandLine
end PathRouter
