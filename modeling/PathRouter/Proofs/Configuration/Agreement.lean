import PathRouter.Configuration
import PathRouter.Proofs.Value.Tables
import PathRouter.Result

/-!
# Two ways to make a configuration

A configuration is made from a mapping or from separate fields.  Both ways check
the tables alike, routes before tokens and their entries in order, so that they
fail with the same first fault.  They differ in one point: in a mapping, a value
that counts as absent is not looked at any further.  A table that is `false`,
zero, the empty text or the empty list is therefore refused as a field and taken
for an empty table in a mapping.

## Main definitions

* `Configuration.TableFault`: what is wrong with a table, by its first entry
  that is not made of texts.
* `Configuration.FirstTableFault`: what is wrong with the first faulty table.
* `Configuration.IsOverlooked`: the values that only a mapping lets pass.

## Main statements

* `Configuration.ofFields_eq_error_iff`: fields are refused exactly for their
  first fault.
* `Configuration.ofMapping_eq_ofFieldEntries_iff`: when the two ways agree.
-/

namespace PathRouter
namespace Configuration

/-- Whether an entry is made of texts. -/
def isTextEntry : Scalar × Value → Bool
  | (.text _, .text _) => true
  | _ => false

/-- What is wrong with the table of a name: it is no mapping, or its first entry
that is not made of texts. -/
inductive TableFault (name : String) : Value → ConfigurationFault → Prop
  | kind
      {value : Value}
      (present : value ≠ .null)
      (noMapping : value.mapping? = none) :
      TableFault name value (.tableKind name value.kind)
  | entry
      {value : Value}
      {mapping : Mapping}
      {key : Scalar}
      {content : Value}
      (isMapping : value.mapping? = some mapping)
      (first : mapping.entries.find? (!isTextEntry ·) = some (key, content)) :
      TableFault name value (.entryKind name key.render)

/-- What is wrong with the tables of a configuration: the fault of the routes,
or, if there is none, that of the tokens. -/
inductive FirstTableFault (routes tokens : Value) : ConfigurationFault → Prop
  | routes
      {fault : ConfigurationFault}
      (faulty : TableFault "routes" routes fault) :
      FirstTableFault routes tokens fault
  | tokens
      {fault : ConfigurationFault}
      (correct : ∀ other, ¬TableFault "routes" routes other)
      (faulty : TableFault "tokens" tokens fault) :
      FirstTableFault routes tokens fault

/-- A value that is no table but counts as absent: `false`, zero, the empty text
or the empty list. -/
structure IsOverlooked (value : Value) : Prop where
  /-- The value counts as absent. -/
  absent : value.isPresent = false
  /-- The value is not missing. -/
  present : value ≠ .null
  /-- The value is no mapping. -/
  noMapping : value.mapping? = none

/-- The value of a field that may be missing: the table of no entries. -/
def field (name : String) (mapping : Mapping) : Value :=
  (mapping.named.get? name).getD (.ofMapping {})

variable
  {name : String}
  {value routes tokens constraint : Value}
  {fault : ConfigurationFault}
  {failure : RoutingError}
  {entries : List (Scalar × Value)}
  {mapping : Mapping}

/-! ## Faults of tables -/

theorem textEntries_of_not_isTextEntry
    {key : Scalar}
    {content : Value}
    (noTexts : isTextEntry (key, content) = false) :
    textEntries name ((key, content) :: entries) =
      .error (.entryKind name key.render) := by
  cases key with
  | text key =>
      cases content with
      | scalar content =>
          cases content with
          | text content => cases noTexts
          | _ => rfl
      | _ => rfl
  | _ => rfl

theorem textEntries_of_isTextEntry
    {entry : Scalar × Value}
    (texts : isTextEntry entry = true) :
    textEntries name (entry :: entries) = .error fault ↔
      textEntries name entries = .error fault := by
  rw [isTextEntry.eq_def] at texts
  split at texts
  · rw [textEntries]
    cases textEntries name entries with
    | ok rest => exact ⟨nofun, nofun⟩
    | error other => rfl
  · cases texts

/-- The entries of a mapping are refused for the first one that is not made of
texts. -/
theorem textEntries_eq_error_iff :
    textEntries name entries = .error fault ↔
      ∃ key content, entries.find? (!isTextEntry ·) = some (key, content) ∧
        fault = .entryKind name key.render := by
  induction entries with
  | nil => exact ⟨nofun, nofun⟩
  | cons entry rest inductionHypothesis =>
      cases texts : isTextEntry entry with
      | true =>
          rw [textEntries_of_isTextEntry texts, inductionHypothesis,
            List.find?_cons_of_neg (by rw [texts]; exact Bool.false_ne_true)]
      | false =>
          rw [textEntries_of_not_isTextEntry texts,
            List.find?_cons_of_pos (by rw [texts]; rfl)]
          constructor
          · intro refused
            cases refused
            exact ⟨_, _, rfl, rfl⟩
          · rintro ⟨key, content, same, rfl⟩
            cases same
            rfl

theorem tableOf_of_mapping? (isMapping : value.mapping? = some mapping) :
    tableOf name value =
      Table.ofList <$> textEntries name mapping.entries := by
  cases value with
  | map keys values =>
      cases isMapping
      rfl
  | scalar | list => cases isMapping

theorem tableOf_of_mapping?_eq_none
    (present : value ≠ .null)
    (noMapping : value.mapping? = none) :
    tableOf name value = .error (.tableKind name value.kind) := by
  cases value with
  | map => cases noMapping
  | list => rfl
  | scalar content =>
      cases content with
      | null => exact absurd rfl present
      | _ => rfl

/-- A table is refused exactly for its fault. -/
theorem tableOf_eq_error_iff :
    tableOf name value = .error fault ↔ TableFault name value fault := by
  cases isMapping : value.mapping? with
  | some mapping =>
      have refused : tableOf name value = .error fault ↔
          textEntries name mapping.entries = .error fault := by
        rw [tableOf_of_mapping? isMapping]
        cases textEntries name mapping.entries with
        | ok _ => exact ⟨nofun, nofun⟩
        | error _ => simp only [map_error, Except.error.injEq]
      rw [refused, textEntries_eq_error_iff]
      constructor
      · rintro ⟨key, content, first, rfl⟩
        exact .entry isMapping first
      · rintro (⟨_, noMapping⟩ | ⟨same, first⟩)
        · cases isMapping.symm.trans noMapping
        · cases isMapping.symm.trans same
          exact ⟨_, _, first, rfl⟩
  | none =>
      by_cases missing : value = .null
      · rw [missing]
        refine ⟨nofun, ?_⟩
        rintro (⟨present, _⟩ | ⟨same, _⟩)
        · exact absurd rfl present
        · cases same
      · rw [tableOf_of_mapping?_eq_none missing isMapping]
        constructor
        · intro refused
          cases refused
          exact .kind missing isMapping
        · rintro (_ | ⟨same, _⟩)
          · rfl
          · cases isMapping.symm.trans same

theorem not_tableFault_of_ok
    {table : Table String}
    (read : tableOf name value = .ok table) :
    ¬TableFault name value fault := fun faulty => by
  cases read.symm.trans (tableOf_eq_error_iff.mpr faulty)

/-- Fields are refused exactly for the fault of the first faulty table. -/
theorem ofFields_eq_error_iff :
    ofFields routes tokens constraint = .error failure ↔
      ∃ fault, failure = .configuration fault ∧
        FirstTableFault routes tokens fault := by
  rw [ofFields]
  cases routesRead : tableOf "routes" routes with
  | error first =>
      have isFirst := tableOf_eq_error_iff.mp routesRead
      constructor
      · intro refused
        cases refused
        exact ⟨first, rfl, .routes isFirst⟩
      · rintro ⟨fault, rfl, faulty | ⟨correct, _⟩⟩
        · cases routesRead.symm.trans (tableOf_eq_error_iff.mpr faulty)
          rfl
        · exact absurd isFirst (correct first)
  | ok table =>
      cases tokensRead : tableOf "tokens" tokens with
      | error second =>
          have isSecond := tableOf_eq_error_iff.mp tokensRead
          constructor
          · intro refused
            cases refused
            exact ⟨second, rfl,
              .tokens (fun _ => not_tableFault_of_ok routesRead) isSecond⟩
          · rintro ⟨fault, rfl, faulty | ⟨_, faulty⟩⟩
            · exact absurd faulty (not_tableFault_of_ok routesRead)
            · cases tokensRead.symm.trans (tableOf_eq_error_iff.mpr faulty)
              rfl
      | ok other =>
          refine ⟨nofun, ?_⟩
          rintro ⟨fault, _, faulty | ⟨_, faulty⟩⟩
          · exact absurd faulty (not_tableFault_of_ok routesRead)
          · exact absurd faulty (not_tableFault_of_ok tokensRead)

/-! ## Values that count as absent -/

theorem orEmpty_get? :
    orEmpty (mapping.named.get? name) =
      orEmpty (some (field name mapping)) := by
  rw [field]
  cases mapping.named.get? name <;> rfl

/-- A mapping lets an overlooked value pass as the table of no entries. -/
theorem IsOverlooked.orEmpty_eq (overlooked : IsOverlooked value) :
    orEmpty (some value) = .ofMapping {} := by
  rw [orEmpty, overlooked.absent]
  rfl

theorem IsOverlooked.tableFault (overlooked : IsOverlooked value) :
    TableFault name value (.tableKind name value.kind) :=
  .kind overlooked.present overlooked.noMapping

/-- A mapping that counts as absent has no entries. -/
theorem entries_eq_nil_of_absent
    (isMapping : value.mapping? = some mapping)
    (absent : value.isPresent = false) :
    mapping.entries = [] := by
  cases value with
  | map keys values =>
      cases isMapping
      apply List.eq_nil_of_length_eq_zero
      rw [Mapping.entries, List.length_ofFn]
      simpa [Value.isPresent] using absent
  | scalar | list => cases isMapping

/-- Any other value stands for the same table, whether it counts as absent or
not. -/
theorem tableOf_orEmpty
    (looked : ¬IsOverlooked value) :
    tableOf name (orEmpty (some value)) = tableOf name value := by
  cases present : value.isPresent with
  | true => rw [orEmpty, present, if_pos rfl]
  | false =>
      rw [orEmpty, present, if_neg Bool.false_ne_true]
      cases isMapping : value.mapping? with
      | some mapping =>
          rw [tableOf_of_mapping? isMapping,
            entries_eq_nil_of_absent isMapping present]
          rfl
      | none =>
          by_cases missing : value = .null
          · rw [missing]
            rfl
          · exact absurd ⟨present, missing, isMapping⟩ looked

/-- A fault names the table that has it. -/
theorem TableFault.eq_of_tableKind
    {other kind : String}
    (faulty : TableFault name value (.tableKind other kind)) :
    name = other := by
  generalize same : ConfigurationFault.tableKind other kind = fault at faulty
  cases faulty with
  | kind _ _ =>
      cases same
      rfl
  | entry _ => cases same

/-- Letting absent values pass changes nothing, unless a table is overlooked
that would be the first to be refused. -/
theorem ofFields_orEmpty_eq_iff :
    ofFields (orEmpty (some routes)) (orEmpty (some tokens)) constraint =
        ofFields routes tokens constraint ↔
      ¬IsOverlooked routes ∧
        ((∃ fault, TableFault "routes" routes fault) ∨
          ¬IsOverlooked tokens) := by
  constructor
  · intro same
    have refused {fault : ConfigurationFault}
        (faulty : FirstTableFault routes tokens fault) :
        FirstTableFault (orEmpty (some routes)) (orEmpty (some tokens))
          fault := by
      obtain ⟨_, equal, faulty⟩ := ofFields_eq_error_iff.mp
        (same.trans (ofFields_eq_error_iff.mpr ⟨fault, rfl, faulty⟩))
      cases equal
      exact faulty
    refine ⟨fun overlooked => ?_, Classical.or_iff_not_imp_left.mpr
      fun correct overlooked => ?_⟩
    · have faulty := refused (.routes overlooked.tableFault)
      rw [overlooked.orEmpty_eq] at faulty
      rcases faulty with faulty | ⟨_, faulty⟩
      · exact not_tableFault_of_ok rfl faulty
      · exact absurd faulty.eq_of_tableKind (by decide)
    · have faulty := refused (.tokens
        (fun other faulty => correct ⟨other, faulty⟩) overlooked.tableFault)
      rw [overlooked.orEmpty_eq] at faulty
      rcases faulty with faulty | ⟨_, faulty⟩
      · exact absurd faulty.eq_of_tableKind (by decide)
      · exact not_tableFault_of_ok rfl faulty
  · rintro ⟨routesLooked, others⟩
    rw [ofFields, ofFields, tableOf_orEmpty routesLooked]
    rcases others with ⟨fault, faulty⟩ | tokensLooked
    · rw [tableOf_eq_error_iff.mpr faulty]
      rfl
    · rw [tableOf_orEmpty tokensLooked]

/-! ## Mappings and fields -/

/-- A mapping of known keys has no unknown ones. -/
theorem unknownKeys_eq_nil
    (known : ∀ key ∈ mapping.keys.list, ∃ name ∈ knownKeys, key = .text name) :
    unknownKeys mapping = [] := by
  apply List.filter_eq_nil_iff.mpr
  intro key member
  obtain ⟨name, isKnown, rfl⟩ := known key member
  have found : knownKeys.any fun other =>
      (Scalar.text name).isSame (.text other) :=
    List.any_eq_true.mpr ⟨name, isKnown, beq_self_eq_true name⟩
  simp [found]

theorem known_ofTable
    {table : Table Value}
    (known : ∀ key ∈ table.keys, key ∈ knownKeys) :
    ∀ key ∈ (Mapping.ofTable table).keys.list,
      ∃ name ∈ knownKeys, key = .text name := by
  intro key member
  rw [Mapping.list_keys_ofTable] at member
  obtain ⟨name, present, rfl⟩ := List.mem_map.mp member
  exact ⟨name, known name present, rfl⟩

theorem ofMapping_eq
    (known : ∀ key ∈ mapping.keys.list, ∃ name ∈ knownKeys, key = .text name)
    (isText : ∀ value ∈ mapping.named.get? "default_constraint",
      value = .null ∨ ∃ text, value = .text text) :
    ofMapping mapping =
      ofFields (orEmpty (some (field "routes" mapping)))
        (orEmpty (some (field "tokens" mapping)))
        ((mapping.named.get? "default_constraint").getD .null) := by
  rw [ofMapping, unknownKeys_eq_nil known]
  dsimp only
  rw [orEmpty_get?, orEmpty_get?]
  cases found : mapping.named.get? "default_constraint" with
  | none => rfl
  | some value => rcases isText value found with rfl | ⟨text, rfl⟩ <;> rfl

/-- Where all keys are known and the constraint of all other tokens is missing
or a text, a mapping and separate fields make the same configuration or fail in
the same way, unless a table is overlooked that is the first faulty one.  Fields
are refused exactly for the first fault of the first faulty table, and the
wording names that table, and the key of the entry. -/
theorem ofMapping_eq_ofFieldEntries_iff
    (known : ∀ key ∈ mapping.keys.list, ∃ name ∈ knownKeys, key = .text name)
    (isText : ∀ value ∈ mapping.named.get? "default_constraint",
      value = .null ∨ ∃ text, value = .text text) :
    (ofMapping mapping = ofFieldEntries mapping ↔
      ¬IsOverlooked (field "routes" mapping) ∧
        ((∃ fault, TableFault "routes" (field "routes" mapping) fault) ∨
          ¬IsOverlooked (field "tokens" mapping))) ∧
    (∀ failure, ofFieldEntries mapping = .error failure ↔
      ∃ fault, failure = .configuration fault ∧
        FirstTableFault (field "routes" mapping) (field "tokens" mapping)
          fault) ∧
    (∀ table kind, (ConfigurationFault.tableKind table kind).message =
      Text.quoted table ++ " must be a mapping of strings, got " ++ kind) ∧
    ∀ table key, (ConfigurationFault.entryKind table key).message =
      Text.quoted table ++ " entry " ++ key ++
        " must map a string to a string" := by
  rw [ofMapping_eq known isText]
  exact ⟨ofFields_orEmpty_eq_iff, fun _ => ofFields_eq_error_iff,
    fun _ _ => rfl, fun _ _ => rfl⟩

/-- A mapping without routes, whose second token is a number. -/
def numberedTokens : Mapping :=
  .ofTable (.ofList
    [("tokens", .ofMapping (.ofEntries [(.text ":id", .text "[0-9]+"),
      (.int 1, .null), (.null, .text "")] (by decide))), ("routes", .null)])

/-- Both ways refuse the second entry of the tokens, although the routes are
missing and the entries behind it are no better. -/
theorem ofMapping_eq_ofFieldEntries_number :
    ofMapping numberedTokens = ofFieldEntries numberedTokens ∧
      ofFieldEntries numberedTokens =
        .error (.configuration (.entryKind "tokens" "1")) := by
  have agree := @ofMapping_eq_ofFieldEntries_iff numberedTokens
    (known_ofTable (by decide)) nofun
  have shown : (Scalar.int 1).render = "1" := rfl
  have faulty : TableFault "tokens" (field "tokens" numberedTokens)
      (.entryKind "tokens" "1") := shown ▸ .entry rfl rfl
  refine ⟨agree.1.mpr ⟨fun overlooked => overlooked.present rfl, .inr ?_⟩,
    (agree.2.1 _).mpr ⟨_, rfl, .tokens ?_ faulty⟩⟩
  · exact fun overlooked => nomatch overlooked.noMapping
  · exact fun _ => not_tableFault_of_ok rfl

/-- A mapping with the empty list as its routes. -/
def listedRoutes : Mapping := .ofTable (.ofList [("routes", .list [])])

/-- The empty list is no table of routes, but a mapping lets it pass. -/
theorem ofMapping_emptyList :
    ofMapping listedRoutes = .ok {} ∧
      ofFieldEntries listedRoutes =
        .error (.configuration (.tableKind "routes" "list")) := by
  constructor
  · rw [@ofMapping_eq listedRoutes (known_ofTable (by decide)) nofun]
    rfl
  · rfl

end Configuration
end PathRouter
