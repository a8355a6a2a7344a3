import Mathlib
import PathRouter.CommandLine.Run
import PathRouter.Result

/-!
# Sources that name an object of a module

A source that is no file names an object of a module.  Whatever goes wrong on
the way to the object is reported, except for two limits: the name of the module
may be empty, and the source may be too long to be looked up as a file.

## Main definitions

* `Surroundings.IsImportString`: a source that names an object of a module.
* `Surroundings.IsTooLong`: a source that is too long to be looked up.
* `Surroundings.ofRouter`: a router as an object of a module.

## Main statements

* `ModuleSet.load_eq_emptyName_iff`: which name of a module is empty.
* `Surroundings.IsImportString.routerOf_eq`: a source that can be looked up as a
  file names an object.
* `run_reports_iff`: when every failure to find a router is reported.
-/

namespace PathRouter
namespace CommandLine

/-- A source that names an object of a module: it ends in no extension of a
configuration file, and there is no file of that name. -/
structure Surroundings.IsImportString
    (surroundings : Surroundings)
    (source : String) : Prop where
  /-- It has no extension of a configuration file. -/
  noExtension : ∀ extension ∈ fileExtensions,
    ¬extension.toList <:+ source.toList
  /-- There is no file of that name. -/
  noFile : ∀ bytes, surroundings.files.find (.ofText source) ≠
    .ok (.file bytes)

/-- A source that is too long to be looked up as a file.  Nothing is looked up
that holds the null character. -/
def Surroundings.IsTooLong
    (surroundings : Surroundings)
    (source : String) : Prop :=
  '\x00' ∉ source.toList ∧
    surroundings.files.find (.ofText source) = .error .longName

/-! ## Modules -/

namespace ModuleSet

variable {set : ModuleSet} {name : String}

/-- Only a list of no names lacks a name. -/
theorem loadFirst_ne_emptyName
    {names : List String}
    (nonempty : names ≠ []) :
    set.loadFirst names ≠ .error .emptyName := by
  induction names with
  | nil => exact absurd rfl nonempty
  | cons name outer inductionHypothesis =>
      cases outer with
      | nil =>
          rw [loadFirst]
          cases set.find? name <;> exact nofun
      | cons parent rest =>
          have inside := inductionHypothesis (List.cons_ne_nil _ _)
          rw [loadFirst]
          cases set.find? name with
          | some members => exact nofun
          | none =>
              dsimp only
              rw [ne_eq, bind_eq_error_iff]
              rintro (unnamed | ⟨_, _, notPackage⟩)
              · exact inside unnamed
              · cases notPackage

/-- Only the empty text is an empty name of a module. -/
theorem load_eq_emptyName_iff :
    set.load name = .error .emptyName ↔ name = "" := by
  rw [← String.toList_eq_nil_iff, load]
  split
  · rename_i empty
    exact iff_of_true rfl empty
  · rename_i relative
    rw [relative]
    exact iff_of_false nofun nofun
  · rename_i nonempty _
    exact iff_of_false (loadFirst_ne_emptyName (List.cons_ne_nil _ _)) nonempty

end ModuleSet

namespace Surroundings

variable {surroundings : Surroundings} {source : String} {fault : SourceFault}

/-! ## Objects of modules -/

/-- The module that a source names has no name exactly if nothing stands in
front of the first colon. -/
theorem splitSource_fst_eq_empty_iff :
    (splitSource source).1 = "" ↔
      source = "" ∨ source.toList.head? = some ':' := by
  rw [← String.toList_eq_nil_iff, ← String.toList_eq_nil_iff]
  change (String.ofList (source.toList.takeWhile (· ≠ ':'))).toList = [] ↔ _
  rw [String.toList_ofList]
  cases source.toList with
  | nil => simp
  | cons c rest => simp [List.takeWhile_cons]

/-- A module without a name is none. -/
theorem routerOfMember_of_emptyName
    (unnamed : (splitSource source).1 = "") :
    surroundings.routerOfMember source = .error (.absent .emptyName) := by
  have absent : surroundings.modules.load "" = .error .emptyName := rfl
  unfold routerOfMember
  rcases names : splitSource source with ⟨name, member⟩
  rw [names] at unnamed
  cases unnamed
  dsimp only
  rw [absent]
  rfl

/-- What is wrong with an object is reported if the module has a name. -/
theorem escaping?_of_routerOfMember
    (named : (splitSource source).1 ≠ "")
    (failed : surroundings.routerOfMember source = .error fault) :
    fault.escaping? = none := by
  unfold routerOfMember at failed
  rcases names : splitSource source with ⟨name, member⟩
  rw [names] at failed named
  dsimp only at failed named
  rcases bind_eq_error_iff.mp failed with absent | ⟨members, _, failed⟩
  · cases loaded : surroundings.modules.load name with
    | ok members =>
        rw [loaded] at absent
        cases absent
    | error absence =>
        rw [loaded] at absent
        cases absent
        cases absence with
        | emptyName =>
            exact absurd (ModuleSet.load_eq_emptyName_iff.mp loaded) named
        | missing | notPackage | relative => rfl
  · cases found : members.get? member with
    | none =>
        rw [found] at failed
        cases failed
        rfl
    | some given =>
        rw [found] at failed
        rcases bind_eq_error_iff.mp failed with broken | ⟨object, _, failed⟩
        · cases given with
          | object object => cases broken
          | factory result =>
              cases result with
              | ok object => cases broken
              | error reason =>
                  cases broken
                  rfl
        · cases object <;> cases failed <;> rfl

/-! ## Sources -/

/-- Without a file of that name, a source can only name an object. -/
theorem isImportString_of_missing
    (noExtension : ∀ extension ∈ fileExtensions,
      ¬extension.toList <:+ source.toList)
    (missing : surroundings.files.find (.ofText source) = .error .missing) :
    surroundings.IsImportString source ∧ ¬surroundings.IsTooLong source :=
  ⟨⟨noExtension, fun _ found => nomatch missing.symm.trans found⟩,
    fun tooLong => nomatch missing.symm.trans tooLong.2⟩

namespace IsImportString

variable (isImport : surroundings.IsImportString source)
include isImport

theorem isFileSource_eq :
    surroundings.isFileSource source = surroundings.hasFile source := by
  rw [isFileSource, if_neg]
  intro extended
  obtain ⟨extension, member, isSuffix⟩ := List.any_eq_true.mp extended
  exact isImport.noExtension extension member
    (List.isSuffixOf_iff_suffix.mp isSuffix)

/-- There is no file of that name, unless the name is too long to tell. -/
theorem hasFile_eq (short : ¬surroundings.IsTooLong source) :
    surroundings.hasFile source = .ok false := by
  unfold hasFile
  by_cases null : '\x00' ∈ source.toList
  · rw [if_pos (List.contains_iff_mem.mpr null)]
  · rw [if_neg (mt List.contains_iff_mem.mp null)]
    split
    · rename_i bytes found
      exact absurd found (isImport.noFile bytes)
    · rename_i tooLong
      exact absurd ⟨null, tooLong⟩ short
    · rfl

variable [CharacterNames]

/-- A source that can be looked up as a file names an object. -/
theorem routerOf_eq (short : ¬surroundings.IsTooLong source) :
    surroundings.routerOf (some source) =
      surroundings.routerOfMember source := by
  rw [routerOf, isImport.isFileSource_eq, isImport.hasFile_eq short]
  rfl

/-- The failure to look a source up is not reported. -/
theorem routerOf_of_isTooLong (tooLong : surroundings.IsTooLong source) :
    surroundings.routerOf (some source) =
      .error (.routing (.limit
        (.longFileName (Location.ofText source).render))) := by
  have refused : surroundings.hasFile source = .error (.limit
      (.longFileName (Location.ofText source).render)) := by
    unfold hasFile
    rw [if_neg (mt List.contains_iff_mem.mp tooLong.1), tooLong.2]
  rw [routerOf, isImport.isFileSource_eq, refused]
  rfl

end IsImportString

/-- A module that holds a router under the name that is meant without one. -/
def ofRouter (router : Router) : Surroundings where
  modules.modules := [("app", .ofList [("router", .object (.router router))])]

theorem routerOf_ofRouter [CharacterNames] (router : Router) :
    (ofRouter router).routerOf (some "app") = .ok router := by
  obtain ⟨isImport, short⟩ := @isImportString_of_missing (ofRouter router) "app"
    (by decide) rfl
  rw [isImport.routerOf_eq short]
  rfl

end Surroundings

/-! ## Runs -/

section Runs

variable
  [CharacterNames]
  {surroundings : Surroundings}
  {arguments : List String}
  {invocation : Invocation}
  {source : String}

/-- Whatever is wrong with a source is reported, unless it escapes. -/
theorem run_reports_iff_escaping?
    (read : Invocation.read arguments = .ok invocation)
    (named : invocation.source? = some source) :
    ((∃ router, surroundings.routerOf (some source) = .ok router) ∨
      ∃ fault, surroundings.routerOf (some source) = .error fault ∧
        run surroundings arguments =
          { output := "", errors := "Error: " ++ fault.message ++ "\n",
            ending := .exit 1 }) ↔
      ∀ fault, surroundings.routerOf (some source) = .error fault →
        fault.escaping? = none := by
  cases found : surroundings.routerOf (some source) with
  | ok router => exact iff_of_true (.inl ⟨router, rfl⟩) fun _ => nofun
  | error fault =>
      rw [run_of_error read (named.symm ▸ found), Report.ofSourceFault]
      cases escapes : fault.escaping? with
      | none =>
          refine iff_of_true (.inr ⟨fault, rfl, rfl⟩) fun other same => ?_
          cases same
          exact escapes
      | some failure =>
          refine iff_of_false ?_ fun caught => ?_
          · rintro (⟨_, found⟩ | ⟨_, _, reported⟩)
            · cases found
            · cases congrArg Report.ending reported
          · cases escapes.symm.trans (caught fault rfl)

end Runs

open scoped CharacterNames.BasicLatin

/-- A module with a function that fails and with an object of another kind. -/
def failingModules : ModuleSet where
  modules := [("app", ⟨[("make", .factory (.error "no table")),
    ("table", .object (.other "Table"))], by decide⟩)]

end CommandLine
end PathRouter
