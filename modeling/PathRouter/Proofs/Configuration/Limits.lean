import PathRouter.ConfigurationFile
import PathRouter.Proofs.Json.Documents
import PathRouter.Proofs.Json.Limits
import PathRouter.Proofs.Toml.Limits

/-!
# Limits of configurations

Whatever a path leads to, a configuration that cannot be loaded is mostly said
to be a wrong one.  The exceptions are limits: the path may hold the null
character, which no name of a file has, and the file may hold an integer with
too many digits.  A mapping that was not read from a file may also have keys
that are not texts; then its unknown keys cannot be listed.

## Main definitions

* `Configuration.FileExceeds`: the limit that the bytes of a file exceed.
* `Configuration.KeysExceed`: the limit that unknown keys exceed.

## Main statements

* `Configuration.ofMapping_isConfiguration_iff`: the failure of a mapping is one
  of the configuration unless an unknown key is not a text.
* `Configuration.load_isConfiguration_iff`: the failure to load is one of the
  configuration unless the path or the file exceeds a limit.
-/

namespace PathRouter
namespace Configuration

/-- The bytes of a file are the text of a document that exceeds a limit. -/
inductive FileExceeds
    (location : Location)
    (bytes : List UInt8)
    (exceeded : Limit) : Prop
  | settings
      {text : List Char}
      (extension : location.extension? = some ".toml")
      (decoded : Text.Encoding.utf8.decode false 0 bytes = .ok text)
      (exceeds : Toml.ExceedsLimit (Toml.plainLineEnds text) exceeded)
  | values
      {text : List Char}
      (extension : location.extension? ≠ some ".toml")
      (decoded : Json.decode bytes = .ok text)
      (exceeds : Json.ExceedsLimit text exceeded)

/-- The null character in the path, or what the file at its location holds,
exceeds a limit. -/
inductive LoadExceeds (tree : FileTree) (path : String) : Limit → Prop
  | path
      (null : path.toList.contains '\x00' = true) :
      LoadExceeds tree path .nullCharacter
  | file
      {bytes : List UInt8}
      {exceeded : Limit}
      (noNull : path.toList.contains '\x00' = false)
      (found : tree.read (.ofText path) = .ok bytes)
      (exceeds : FileExceeds (.ofText path) bytes exceeded) :
      LoadExceeds tree path exceeded

/-- Keys that are texts. -/
def AreTexts (keys : List Scalar) : Prop :=
  ∃ names : List String, keys = names.map .text

/-- Keys that are to be listed exceed a limit if they are not all texts. -/
def KeysExceed (keys : List Scalar) (exceeded : Limit) : Prop :=
  ¬AreTexts keys ∧ exceeded = keyLimit keys

variable {location : Location} {bytes : List UInt8} {exceeded : Limit}

/-! ## Values in files -/

theorem blamesUnless_valueOfJson
    (extension : location.extension? ≠ some ".toml") :
    BlamesUnless (FileExceeds location bytes)
      (valueOfJson location bytes) := by
  refine .bind (.mapError fun _ => rfl) fun text decoded => ?_
  have found := mapError_eq_ok_iff.mp decoded
  cases parsed : Json.parse text with
  | ok value => trivial
  | error fault =>
      cases fault with
      | malformed cause left => exact .inl rfl
      | limit exceeded =>
          have exceeds := Json.parse_eq_limit_iff.mp parsed
          exact .inr ⟨exceeded, rfl, .values extension found exceeds⟩

theorem blamesUnless_valueOfToml
    (extension : location.extension? = some ".toml") :
    BlamesUnless (FileExceeds location bytes)
      (valueOfToml location bytes) := by
  refine .bind (.mapError fun _ => rfl) fun text decoded => ?_
  have found := mapError_eq_ok_iff.mp decoded
  dsimp only
  cases parsed : Toml.parse (Toml.plainLineEnds text) with
  | ok entries => trivial
  | error fault =>
      cases fault with
      | malformed cause left => exact .inl rfl
      | limit exceeded =>
          have exceeds := Toml.parse_eq_limit_iff.mp parsed
          exact .inr ⟨exceeded, rfl, .settings extension found exceeds⟩

/-- The value in a file has texts as keys if it is a mapping. -/
theorem isNamed_of_valueOfJson
    {value : Value}
    (read : valueOfJson location bytes = .ok value) :
    value.IsNamed := by
  obtain ⟨text, _, parsed⟩ := exists_of_bind read
  exact Json.isNamed_of_parse (mapError_eq_ok_iff.mp parsed)

theorem isNamed_of_valueOfToml
    {value : Value}
    (read : valueOfToml location bytes = .ok value) :
    value.IsNamed := by
  obtain ⟨text, _, parsed⟩ := exists_of_bind read
  obtain ⟨table, _, rfl⟩ := exists_of_map parsed
  exact Value.isNamed_ofTable table

/-! ## Configurations in mappings -/

theorem mapM_text?_eq_some_iff {keys : List Scalar} {names : List String} :
    keys.mapM Scalar.text? = some names ↔ keys = names.map .text := by
  induction keys generalizing names with
  | nil =>
      cases names with
      | nil => exact ⟨fun _ => rfl, fun _ => rfl⟩
      | cons name names => exact ⟨nofun, nofun⟩
  | cons key keys inductionHypothesis =>
      rw [List.mapM_cons]
      constructor
      · intro found
        obtain ⟨name, isText, found⟩ := Option.bind_eq_some_iff.mp found
        obtain ⟨rest, texts, same⟩ := Option.bind_eq_some_iff.mp found
        cases same
        cases key with
        | text content =>
            cases isText
            exact congrArg _ (inductionHypothesis.mp texts)
        | _ => cases isText
      · intro areTexts
        cases names with
        | nil => cases areTexts
        | cons name names =>
            obtain ⟨rfl, rest⟩ := List.cons.inj areTexts
            rw [inductionHypothesis.mpr rest]
            rfl

/-- Unknown keys are listed if all of them are texts. -/
theorem isConfiguration_refusal
    {keys : List Scalar}
    (texts : AreTexts keys) :
    (refusal keys).kind.isConfiguration = true := by
  obtain ⟨names, areTexts⟩ := texts
  rw [refusal, mapM_text?_eq_some_iff.mpr areTexts]
  rfl

theorem KeysExceed.refusal_eq
    {keys : List Scalar}
    (exceeds : KeysExceed keys exceeded) :
    refusal keys = .limit exceeded := by
  obtain ⟨notTexts, rfl⟩ := exceeds
  unfold refusal
  cases texts : keys.mapM Scalar.text? with
  | some names => exact absurd ⟨names, mapM_text?_eq_some_iff.mp texts⟩ notTexts
  | none => rfl

variable {mapping : Mapping}

/-- What a mapping with unknown keys is refused for. -/
theorem ofMapping_of_unknownKeys
    (unknown : unknownKeys mapping ≠ []) :
    ofMapping mapping = .error (refusal (unknownKeys mapping)) := by
  unfold ofMapping
  split
  · next known => exact absurd known unknown
  · rfl

theorem blamesUnless_ofMapping (mapping : Mapping) :
    BlamesUnless (KeysExceed (unknownKeys mapping)) (ofMapping mapping) := by
  by_cases known : unknownKeys mapping = []
  · rw [ofMapping, known]
    dsimp only
    split
    · exact .mapError fun _ => rfl
    · exact .mapError fun _ => rfl
    · exact .inl rfl
  · rw [ofMapping_of_unknownKeys known]
    by_cases texts : AreTexts (unknownKeys mapping)
    · exact .inl (isConfiguration_refusal texts)
    · exact .inr ⟨_, KeysExceed.refusal_eq ⟨texts, rfl⟩, texts, rfl⟩

theorem KeysExceed.ofMapping_eq
    (exceeds : KeysExceed (unknownKeys mapping) exceeded) :
    ofMapping mapping = .error (.limit exceeded) := by
  have unknown : unknownKeys mapping ≠ [] :=
    fun known => exceeds.1 ⟨[], known⟩
  rw [ofMapping_of_unknownKeys unknown, exceeds.refusal_eq]

/-- A mapping makes a configuration, or it is said to be a wrong one, exactly if
its unknown keys are texts. -/
theorem ofMapping_isConfiguration_iff (mapping : Mapping) :
    ((∃ configuration, ofMapping mapping = .ok configuration) ∨
      ∃ failure, ofMapping mapping = .error failure ∧
        failure.kind.isConfiguration = true) ↔
      AreTexts (unknownKeys mapping) := by
  have blames := blamesUnless_ofMapping mapping
  rw [blames.ok_or_isConfiguration_iff fun _ => KeysExceed.ofMapping_eq]
  constructor
  · intro never
    by_contra notTexts
    exact never _ ⟨notTexts, rfl⟩
  · intro texts exceeded exceeds
    exact exceeds.1 texts

/-- The unknown keys of a table are texts. -/
theorem areTexts_unknownKeys (table : Table Value) :
    AreTexts (unknownKeys (.ofTable table)) := by
  rw [unknownKeys, Mapping.list_keys_ofTable, List.filter_map]
  exact ⟨_, rfl⟩

/-! ## Configurations in files -/

/-- What a value makes exceeds no limit if its keys are texts. -/
theorem blamesUnless_ofNamed
    {value : Value}
    (named : value.IsNamed)
    (exceeds : Limit → Prop) :
    BlamesUnless exceeds (match value.mapping? with
      | some mapping => ofMapping mapping
      | none => throw (.configuration (.noTable location.render))) := by
  split
  · next mapping isMapping =>
      obtain ⟨table, rfl⟩ := named mapping isMapping
      refine (blamesUnless_ofMapping (.ofTable table)).mono ?_
      exact fun exceeded exceeds =>
        (exceeds.1 (areTexts_unknownKeys table)).elim
  · exact .inl rfl

theorem blamesUnless_ofBytes (location : Location) (bytes : List UInt8) :
    BlamesUnless (FileExceeds location bytes) (ofBytes location bytes) := by
  unfold ofBytes
  dsimp only
  split
  · next extension =>
      exact (blamesUnless_valueOfToml extension).bind fun value read =>
        blamesUnless_ofNamed (isNamed_of_valueOfToml read) _
  · next extension =>
      exact (blamesUnless_valueOfJson extension).bind fun value read =>
        blamesUnless_ofNamed (isNamed_of_valueOfJson read) _

theorem FileExceeds.ofBytes_eq
    (exceeds : FileExceeds location bytes exceeded) :
    ofBytes location bytes = .error (.limit exceeded) := by
  cases exceeds with
  | settings extension decoded exceeds =>
      have value : valueOfToml location bytes =
          .error (.limit exceeded) := by
        rw [valueOfToml, decoded]
        change _ <$> (Toml.parse _).mapError _ = _
        rw [Toml.parse_eq_limit_iff.mpr exceeds]
        rfl
      rw [ofBytes, if_pos extension, value, error_bind]
  | values extension decoded exceeds =>
      have value : valueOfJson location bytes =
          .error (.limit exceeded) := by
        rw [valueOfJson, decoded]
        change (Json.parse _).mapError _ = _
        rw [Json.parse_eq_limit_iff.mpr exceeds]
        rfl
      rw [ofBytes, if_neg extension, value, error_bind]

/-! ## Loading -/

variable {tree : FileTree} {path : String}

/-- Where a path leads to a file, its bytes are read as a configuration. -/
theorem load_of_read
    (noNull : path.toList.contains '\x00' = false)
    (found : tree.read (.ofText path) = .ok bytes) :
    load tree path = ofBytes (.ofText path) bytes := by
  rw [load, if_neg (Bool.eq_false_iff.mp noNull)]
  dsimp only
  rw [found]

theorem blamesUnless_load (tree : FileTree) (path : String) :
    BlamesUnless (LoadExceeds tree path) (load tree path) := by
  cases null : path.toList.contains '\x00' with
  | true =>
      rw [load, if_pos null]
      exact .inr ⟨.nullCharacter, rfl, .path null⟩
  | false =>
      cases found : tree.read (.ofText path) with
      | error fault =>
          rw [load, if_neg (Bool.eq_false_iff.mp null)]
          dsimp only
          rw [found]
          exact .inl rfl
      | ok bytes =>
          rw [load_of_read null found]
          apply (blamesUnless_ofBytes (.ofText path) bytes).mono
          exact fun exceeded exceeds => .file null found exceeds

theorem LoadExceeds.load_eq (exceeds : LoadExceeds tree path exceeded) :
    load tree path = .error (.limit exceeded) := by
  cases exceeds with
  | path null =>
      rw [load, if_pos null]
      rfl
  | file noNull found exceeds =>
      rw [load_of_read noNull found]
      exact exceeds.ofBytes_eq

/-- A configuration is loaded, or it is said to be a wrong one, exactly if the
path does not hold the null character and the file, if there is one, does not
hold an integer with too many digits.  Reading a document has no limit of depth
here, so that this says nothing of documents whose nesting exhausts the stack of
the machine that reads them. -/
theorem load_isConfiguration_iff (tree : FileTree) (path : String) :
    ((∃ configuration, load tree path = .ok configuration) ∨
      ∃ failure, load tree path = .error failure ∧
        failure.kind.isConfiguration = true) ↔
      path.toList.contains '\x00' = false ∧
        ∀ bytes exceeded, tree.read (.ofText path) = .ok bytes →
          ¬FileExceeds (.ofText path) bytes exceeded := by
  have blames := blamesUnless_load tree path
  rw [blames.ok_or_isConfiguration_iff fun _ => LoadExceeds.load_eq]
  constructor
  · intro never
    have noNull : path.toList.contains '\x00' = false :=
      Bool.eq_false_iff.mpr fun null => never _ (.path null)
    refine ⟨noNull, fun bytes exceeded found exceeds => ?_⟩
    exact never exceeded (.file noNull found exceeds)
  · rintro ⟨noNull, never⟩ exceeded exceeds
    cases exceeds with
    | path null => cases noNull.symm.trans null
    | file _ found exceeds => exact never _ exceeded found exceeds

/-- The null character in a path is not blamed on the configuration. -/
theorem load_nullCharacter :
    load {} "routes\x00.json" = .error (.limit .nullCharacter) ∧
      (RoutingError.limit .nullCharacter).kind.isConfiguration = false :=
  ⟨rfl, rfl⟩

end Configuration
end PathRouter
