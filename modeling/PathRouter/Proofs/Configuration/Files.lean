import Mathlib.Data.List.Perm.Basic
import PathRouter.Proofs.Configuration.Agreement
import PathRouter.Proofs.Configuration.Limits
import PathRouter.Proofs.Json.Documents
import PathRouter.Proofs.Table.Writing
import PathRouter.Proofs.Toml.Tables

/-!
# Loading configurations that have been written

A configuration can be written as a document of either format: as a mapping
whose members are its fields, in any order, or as statements that give the
constraint of all other tokens and then the two tables.  In both formats, the
characters of texts may be spelled in any way that the format knows, and blanks
may stand wherever the format allows them.  A file that holds such a document is
loaded as the configuration, with its routes and tokens in their order.

## Main definitions

* `Configuration.IsWritten`: the documents that a configuration is written as.
* `Configuration.write`: one such document for each format.

## Main statements

* `Configuration.load_of_isWritten`: a written configuration is loaded.
* `Configuration.isWritten_write`: each configuration can be written.
-/

namespace PathRouter
namespace Configuration

/-- A configuration in which the constraint of all other tokens is a text or
there is none. -/
def ofTables
    (routes tokens : Table String)
    (constraint? : Option String) : Configuration where
  routes := routes
  tokens := tokens
  defaultConstraint := (constraint?.map Value.text).getD .null

/-- The field of the constraint of all other tokens, if there is one. -/
def constraintField (constraint? : Option String) : List (String × Value) :=
  constraint?.toList.map fun constraint =>
    ("default_constraint", .text constraint)

/-- The fields of a configuration. -/
def fields
    (routes tokens : Table String)
    (constraint? : Option String) : List (String × Value) :=
  constraintField constraint? ++
    [("routes", .ofTexts routes), ("tokens", .ofTexts tokens)]

/-- The tokens of a table of texts. -/
def tableTokens (table : Table String) : List Json.Token :=
  Json.mapTokens (table.entries.map fun entry => (entry.1, [.text entry.2]))

/-- The fields of a configuration with the tokens of their values. -/
def fieldTokens
    (routes tokens : Table String)
    (constraint? : Option String) : List (String × List Json.Token) :=
  constraint?.toList.map (fun constraint =>
      ("default_constraint", [.text constraint])) ++
    [("routes", tableTokens routes), ("tokens", tableTokens tokens)]

/-- The statements of a configuration. -/
def statements
    (routes tokens : Table String)
    (constraint? : Option String) : List Toml.Statement :=
  constraint?.toList.map (.entry "default_constraint") ++
    (Toml.tableStatements "routes" routes ++
      Toml.tableStatements "tokens" tokens)

/-- A document that a configuration is written as, in the format that the
location of its file tells. -/
inductive IsWritten
    (location : Location)
    (routes tokens : Table String)
    (constraint? : Option String)
    (document : List Char) : Prop
  | settings
      (extension : location.extension? = some ".toml")
      (written : Toml.AreWritten (statements routes tokens constraint?)
        document)
  | values
      {members : List (String × List Json.Token)}
      (extension : location.extension? ≠ some ".toml")
      (arranged : members.Perm (fieldTokens routes tokens constraint?))
      (written : Json.AreWritten (Json.mapTokens members) document)

/-- A configuration as a document in the format that a location tells. -/
def write
    (location : Location)
    (routes tokens : Table String)
    (constraint? : Option String) : List Char :=
  if location.extension? = some ".toml" then
    Toml.write (statements routes tokens constraint?)
  else Json.write 0 (.ofTable (.ofList (fields routes tokens constraint?)))

variable
  {location : Location}
  {routes tokens : Table String}
  {constraint? : Option String}
  {document : List Char}

/-! ## Fields -/

theorem textEntries_ofTexts (name : String) (entries : List (String × String)) :
    textEntries name
        (entries.map fun entry => (.text entry.1, .text entry.2)) =
      .ok entries := by
  induction entries with
  | nil => rfl
  | cons entry rest inductionHypothesis =>
      rw [List.map_cons, textEntries, inductionHypothesis]
      rfl

theorem tableOf_ofTexts (name : String) (table : Table String) :
    tableOf name (.ofTexts table) = .ok table := by
  rw [tableOf_of_mapping? (Value.mapping?_ofTexts table),
    Mapping.entries_ofTable, Value.entries_ofTexts, List.map_map]
  change Table.ofList <$> textEntries name (table.entries.map fun entry =>
    (.text entry.1, .text entry.2)) = _
  rw [textEntries_ofTexts, map_ok, Table.ofList_entries]

/-- A table without entries counts as absent, but stands for itself. -/
theorem tableOf_orEmpty_ofTexts (name : String) (table : Table String) :
    tableOf name (orEmpty (some (.ofTexts table))) = .ok table := by
  have looked : ¬IsOverlooked (.ofTexts table) := fun overlooked =>
    nomatch (Value.mapping?_ofTexts table).symm.trans overlooked.noMapping
  rw [tableOf_orEmpty looked, tableOf_ofTexts]

theorem map_fst_fields :
    (fields routes tokens constraint?).map Prod.fst =
      constraint?.toList.map (fun _ => "default_constraint") ++
        ["routes", "tokens"] := by
  rw [fields, constraintField, List.map_append, List.map_map]
  rfl

theorem mem_knownKeys_of_fields
    {key : String}
    (member : key ∈ (fields routes tokens constraint?).map Prod.fst) :
    key ∈ knownKeys := by
  rw [map_fst_fields, List.mem_append, List.mem_map] at member
  rcases member with ⟨_, _, rfl⟩ | table
  · decide
  · exact List.mem_append_left ["default_constraint"] table

theorem nodup_fields :
    ((fields routes tokens constraint?).map Prod.fst).Nodup := by
  rw [map_fst_fields]
  cases constraint? <;> simp

theorem ofFields_ofTexts (constraint : Value) :
    ofFields (orEmpty (some (.ofTexts routes)))
        (orEmpty (some (.ofTexts tokens))) constraint =
      .ok ⟨routes, tokens, constraint⟩ := by
  rw [ofFields, tableOf_orEmpty_ofTexts, tableOf_orEmpty_ofTexts]
  rfl

section Arranged

variable
  {table : Table Value}
  (arranged : table.entries.Perm (fields routes tokens constraint?))
include arranged

/-- The fields of a configuration are found in any order. -/
theorem get?_of_perm
    {key : String}
    {value : Value}
    (member : (key, value) ∈ fields routes tokens constraint?) :
    table.get? key = some value :=
  Table.get?_of_mem (arranged.mem_iff.mpr member)

/-- A configuration is made from its fields, in any order. -/
theorem ofMapping_of_perm :
    ofMapping (.ofTable table) = .ok (ofTables routes tokens constraint?) := by
  have keys : table.keys.Perm
      ((fields routes tokens constraint?).map Prod.fst) :=
    arranged.map Prod.fst
  have known : ∀ key ∈ table.keys, key ∈ knownKeys := by
    intro key member
    exact mem_knownKeys_of_fields (keys.mem_iff.mp member)
  have foundRoutes : table.get? "routes" = some (.ofTexts routes) :=
    get?_of_perm arranged (by simp [fields])
  have foundTokens : table.get? "tokens" = some (.ofTexts tokens) :=
    get?_of_perm arranged (by simp [fields])
  rw [ofMapping, unknownKeys_eq_nil (known_ofTable known)]
  dsimp only
  rw [Mapping.named_ofTable, foundRoutes, foundTokens]
  cases constraint? with
  | none =>
      have missing : table.get? "default_constraint" = none := by
        rw [Table.get?_eq_none_iff]
        intro member
        have field := keys.mem_iff.mp member
        rw [map_fst_fields] at field
        exact absurd field (by decide)
      rw [missing]
      exact ofFields_ofTexts .null
  | some constraint =>
      have present : table.get? "default_constraint" =
          some (.text constraint) :=
        get?_of_perm arranged List.mem_cons_self
      rw [present]
      exact ofFields_ofTexts (.text constraint)

end Arranged

/-! ## Documents of nested values -/

variable {relation : String × List Json.Token → String × Value → Prop}

theorem forall₂_tableTokens
    (text : ∀ name content,
      relation (name, [.text content]) (name, .text content))
    (table : Table String) :
    List.Forall₂ relation
      (table.entries.map fun entry => (entry.1, [.text entry.2]))
      (table.mapValues fun _ content => Value.text content).entries := by
  rw [Value.entries_ofTexts, List.forall₂_map_left_iff,
    List.forall₂_map_right_iff, List.forall₂_same]
  exact fun entry _ => text entry.1 entry.2

theorem forall₂_fieldTokens
    (text : ∀ name content,
      relation (name, [.text content]) (name, .text content))
    (table : ∀ name table,
      relation (name, tableTokens table) (name, .ofTexts table)) :
    List.Forall₂ relation (fieldTokens routes tokens constraint?)
      (fields routes tokens constraint?) := by
  have tables := List.Forall₂.cons (table "routes" routes)
    (.cons (table "tokens" tokens) .nil)
  cases constraint? with
  | none => exact tables
  | some constraint =>
      exact .cons (text "default_constraint" constraint) tables

/-- The tokens of a table are read as the table. -/
theorem delivers_tableTokens (table : Table String) :
    Json.Delivers (tableTokens table) (.ofTexts table) := by
  apply Json.delivers_mapTokens
  apply forall₂_tableTokens
  exact fun _ content => ⟨rfl, Json.delivers_text content⟩

/-- A table is written as its tokens. -/
theorem laidOut_write_ofTexts
    {laidOut : List Json.Token → List Char → Prop}
    (layout : Json.IsLayout laidOut)
    (table : Table String)
    (depth : Nat) :
    laidOut (tableTokens table) (Json.write depth (.ofTexts table)) := by
  apply layout.write
  apply forall₂_tableTokens
  exact fun _ content => ⟨rfl, fun _ =>
    layout.ofAreWritten (Json.areWritten_writtenText content)⟩

/-- The fields of a configuration are read in any order. -/
theorem exists_perm_of_fieldTokens
    {members : List (String × List Json.Token)}
    (arranged : members.Perm (fieldTokens routes tokens constraint?)) :
    ∃ entries, Json.AreDelivered members entries ∧
      entries.Perm (fields routes tokens constraint?) := by
  have delivered : Json.AreDelivered (fieldTokens routes tokens constraint?)
      (fields routes tokens constraint?) :=
    forall₂_fieldTokens (fun _ content => ⟨rfl, Json.delivers_text content⟩)
      fun _ table => ⟨rfl, delivers_tableTokens table⟩
  exact List.perm_comp_forall₂ arranged delivered

theorem ofBytes_of_values
    {members : List (String × List Json.Token)}
    (extension : location.extension? ≠ some ".toml")
    (arranged : members.Perm (fieldTokens routes tokens constraint?))
    (written : Json.AreWritten (Json.mapTokens members) document) :
    ofBytes location (Text.utf8 document) =
      .ok (ofTables routes tokens constraint?) := by
  obtain ⟨entries, delivered, arranged⟩ := exists_perm_of_fieldTokens arranged
  have distinct : (entries.map Prod.fst).Nodup :=
    (arranged.map Prod.fst).nodup_iff.mpr nodup_fields
  have parsed := written.parse_eq
    (@Json.delivers_mapTokens members ⟨entries, distinct⟩ delivered)
  have value : valueOfJson location (Text.utf8 document) =
      .ok (.ofTable ⟨entries, distinct⟩) := by
    rw [valueOfJson, written.decode_eq]
    change (Json.parse document).mapError _ = _
    rw [parsed]
    rfl
  rw [ofBytes, if_neg extension, value]
  exact @ofMapping_of_perm routes tokens constraint? ⟨entries, distinct⟩
    arranged

/-! ## Documents of settings -/

theorem takesAll_constraint (constraint? : Option String) :
    Toml.Document.TakesAll {}
      (constraint?.toList.map (.entry "default_constraint"))
      { entries := .ofList (constraintField constraint?) } := by
  cases constraint? with
  | none => exact .nil _
  | some constraint =>
      have new : "default_constraint" ∉ (Table.empty : Table Value) :=
        List.not_mem_nil
      exact .cons (Toml.Document.takes_entry new constraint) (.nil _)

/-- The statements of a configuration give its fields. -/
theorem exists_takesAll_statements :
    ∃ last, Toml.Document.TakesAll {}
        (statements routes tokens constraint?) last ∧
      last.entries = .ofList (fields routes tokens constraint?) := by
  have newRoutes : "routes" ∉ Table.ofList (constraintField constraint?) := by
    cases constraint? with
    | none => exact List.not_mem_nil
    | some constraint =>
        change "routes" ∉ ["default_constraint"]
        decide
  have newTokens : "tokens" ∉
      (Table.ofList (constraintField constraint?)).insert "routes"
        (Value.ofTexts routes) := by
    cases constraint? with
    | none =>
        change "tokens" ∉ ["routes"]
        decide
    | some constraint =>
        change "tokens" ∉ ["default_constraint", "routes"]
        decide
  have holds : Toml.Document.Holds
      { entries := .ofList (constraintField constraint?) }
      (.ofList (constraintField constraint?)) [] :=
    ⟨rfl, rfl, rfl, rfl⟩
  have routesTaken := Toml.Document.takesAll_tableStatements holds
    List.not_mem_nil newRoutes routes
  have undeclared : ["tokens"] ∉ [["routes"]] := by decide
  have tokensTaken := Toml.Document.takesAll_tableStatements
    Toml.Document.holds_inTable undeclared newTokens tokens
  refine ⟨_, (takesAll_constraint constraint?).append
    (routesTaken.append tokensTaken), ?_⟩
  cases constraint? <;> rfl

theorem ofBytes_of_settings
    (extension : location.extension? = some ".toml")
    (written : Toml.AreWritten (statements routes tokens constraint?)
      document) :
    ofBytes location (Text.utf8 document) =
      .ok (ofTables routes tokens constraint?) := by
  obtain ⟨last, takes, isFields⟩ :=
    @exists_takesAll_statements routes tokens constraint?
  have lines := Toml.Document.readLines_of_areWritten written takes
  have value : valueOfToml location (Text.utf8 document) =
      .ok (.ofTable last.entries) := by
    rw [valueOfToml, Text.Encoding.decode_utf8]
    change Value.ofTable <$>
      (Toml.parse (Toml.plainLineEnds document)).mapError _ = _
    rw [Toml.plainLineEnds_of_areWritten written, Toml.parse, lines]
    rfl
  have arranged : last.entries.entries = fields routes tokens constraint? := by
    rw [isFields, Table.entries_ofList nodup_fields]
  rw [ofBytes, if_pos extension, value]
  exact ofMapping_of_perm (.of_eq arranged)

/-! ## Files -/

/-- Each configuration can be written in each format. -/
theorem isWritten_write
    (location : Location)
    (routes tokens : Table String)
    (constraint? : Option String) :
    IsWritten location routes tokens constraint?
      (write location routes tokens constraint?) := by
  unfold write
  split
  · next extension =>
      exact .settings extension (Toml.areWritten_write _)
  · next extension =>
      apply IsWritten.values extension (.refl _)
      apply Json.isLayout_areWritten.write
      rw [Table.entries_ofList nodup_fields]
      apply forall₂_fieldTokens
      · exact fun _ content => ⟨rfl, fun _ =>
          Json.areWritten_writtenText content⟩
      · exact fun _ table => ⟨rfl,
          laidOut_write_ofTexts Json.isLayout_areWritten table⟩

example :
    write (.ofText "routes.toml") ⟨[("/a\"b", "Pages->about")], by decide⟩ {}
        (some "[^/]+") =
      ("\"default_constraint\" = \"[^/]+\"\n" ++
        "[routes]\n\"/a\\\"b\" = \"Pages->about\"\n" ++
        "[tokens]\n").toList := by
  decide

/-- A tree with one file gives its bytes. -/
theorem read_singleton
    (short : location.render.utf8ByteSize ≤ FileTree.maxLocationWidth)
    (bytes : List UInt8) :
    FileTree.read ⟨[(location, .file bytes)]⟩ location = .ok bytes := by
  have known : FileTree.known? ⟨[(location, .file bytes)]⟩ location =
      some (.file bytes) :=
    List.lookup_cons_self
  rw [FileTree.read, FileTree.find, if_neg (Nat.not_lt.mpr short), known]
  rfl

/-- A file that holds a written configuration is loaded as the configuration,
whichever format its extension tells. -/
theorem load_of_isWritten
    {tree : FileTree}
    {path : String}
    (noNull : '\x00' ∉ path.toList)
    (found : tree.read (.ofText path) = .ok (Text.utf8 document))
    (written : IsWritten (.ofText path) routes tokens constraint? document) :
    load tree path = .ok (ofTables routes tokens constraint?) := by
  have named : path.toList.contains '\x00' = false := by
    simpa using noNull
  rw [load_of_read named found]
  cases written with
  | settings extension written => exact ofBytes_of_settings extension written
  | values extension arranged written =>
      exact ofBytes_of_values extension arranged written

/-- A configuration is loaded from a file of either format. -/
theorem load_written :
    let routes : Table String :=
      ⟨[("/post/:id(/:slug)", "Post->show(slug=none)"),
        ("/\"#\\[\x7f", "Pages->about")], by decide⟩
    let tokens : Table String := ⟨[(":id", "[0-9]+")], by decide⟩
    let holding (path : String) : FileTree :=
      ⟨[(.ofText path, .file (Text.utf8
        (write (.ofText path) routes tokens (some "[^/]+"))))]⟩
    load (holding "routes.json") "routes.json" =
        .ok (ofTables routes tokens (some "[^/]+")) ∧
      load (holding "routes.toml") "routes.toml" =
        .ok (ofTables routes tokens (some "[^/]+")) :=
  ⟨load_of_isWritten (by decide) (read_singleton (by decide) _)
      (isWritten_write ..),
    load_of_isWritten (by decide) (read_singleton (by decide) _)
      (isWritten_write ..)⟩

end Configuration
end PathRouter
