import Mathlib.Data.List.TakeWhile
import PathRouter.Proofs.Table.Updating
import PathRouter.Proofs.Target.Writing

/-!
# Lists of defaults

The defaults of a target are told by a list of entries between commas.  What a
list stands for is settled by three rules: an empty text stands for no defaults,
a text without a comma for a single one, and two lists with a comma between them
for the defaults of the first one, updated by those of the second one.

## Main definitions

* `Target.StandsFor`: the name and the value that an entry stands for.

## Main statements

* `Target.standsFor_iff`: what an entry is read as.
* `Target.defaultsOf_append_comma`: two lists with a comma between them.
* `Target.parseDefaults_rules`: the three rules.
-/

namespace PathRouter
namespace Target

/-- An entry stands for the text in front of its first equals sign and the text
behind it, or for itself and nothing if it has no equals sign. -/
inductive StandsFor : String → String × String → Prop
  | sign
      {name : String}
      (noEquals : '=' ∉ name.toList)
      (value : String) :
      StandsFor (name ++ "=" ++ value) (name, value)
  | bare
      {name : String}
      (noEquals : '=' ∉ name.toList) :
      StandsFor name (name, "")

/-! ## Entries -/

/-- Without an equals sign, an entry is a name. -/
theorem entry_of_noEquals
    {name : List Char}
    (noEquals : '=' ∉ name) :
    entry name = (String.ofList name, "") := by
  have passes : ∀ c ∈ name, decide (c ≠ '=') = true := by
    intro c member
    exact decide_eq_true fun equals => noEquals (equals ▸ member)
  rw [entry, List.takeWhile_eq_self_iff.mpr passes,
    List.dropWhile_eq_nil_iff.mpr passes]
  rfl

theorem StandsFor.entry_eq
    {text : String}
    {default : String × String}
    (stands : StandsFor text default) :
    entry text.toList = default := by
  cases stands with
  | sign noEquals value =>
      rw [String.toList_append, String.toList_append, List.append_assoc]
      change entry (_ ++ '=' :: value.toList) = _
      rw [entry_append_sign noEquals, String.ofList_toList,
        String.ofList_toList]
  | bare noEquals =>
      rw [entry_of_noEquals noEquals, String.ofList_toList]

/-- Every text stands for some name and some value. -/
theorem exists_standsFor (text : String) :
    ∃ default, StandsFor text default := by
  by_cases sign : '=' ∈ text.toList
  · obtain ⟨name, value, split, noEquals⟩ := List.eq_append_cons_of_mem sign
    have written : text =
        String.ofList name ++ "=" ++ String.ofList value := by
      apply String.toList_inj.mp
      simp [split]
    rw [written]
    exact ⟨_, .sign (by rwa [String.toList_ofList]) _⟩
  · exact ⟨_, .bare sign⟩

/-- An entry is read as what it stands for. -/
theorem standsFor_iff
    {text : String}
    {default : String × String} :
    StandsFor text default ↔ entry text.toList = default := by
  refine ⟨StandsFor.entry_eq, ?_⟩
  rintro rfl
  obtain ⟨default, stands⟩ := exists_standsFor text
  rw [stands.entry_eq]
  exact stands

/-! ## Lists of entries -/

theorem defaultsOf_singleton
    {text : List Char}
    (nonempty : text ≠ [])
    (noComma : ',' ∉ text) :
    (defaultsOf text).entries = [entry text] := by
  rw [defaultsOf, splitAt_eq_splitOn, List.splitOn_eq_singleton noComma,
    List.filter_cons_of_pos (by simpa using nonempty)]
  rfl

/-- Two lists with a comma between them. -/
theorem defaultsOf_append_comma (first second : List Char) :
    defaultsOf (first ++ ',' :: second) =
      (defaultsOf first).update (defaultsOf second) := by
  rw [defaultsOf, splitAt_eq_splitOn, List.splitOn_append_cons_self,
    List.filter_append, List.map_append, Table.ofList_append]
  simp only [defaultsOf, splitAt_eq_splitOn]

/-- The rules of lists of defaults: the empty text stands for none, a text
without a comma for the single one that it is, and a list behind another one and
a comma updates the defaults of the first one.  An update keeps the keys of the
first list in their places and lets the new ones of the second list follow in
their order, and the values of the second list win. -/
theorem parseDefaults_rules :
    parseDefaults "" = {} ∧
      (∀ text, text ≠ "" → ',' ∉ text.toList →
        (∃ default, StandsFor text default) ∧
          ∀ default, (parseDefaults text).entries = [default] ↔
            StandsFor text default) ∧
      ∀ first second,
        let defaults := parseDefaults (first ++ "," ++ second)
        defaults = (parseDefaults first).update (parseDefaults second) ∧
          defaults.keys = (parseDefaults first).keys ++
            (parseDefaults second).keys.filter (· ∉ parseDefaults first) ∧
          ∀ key, defaults.get? key =
            ((parseDefaults second).get? key).or
              ((parseDefaults first).get? key) := by
  refine ⟨rfl, fun text nonempty noComma => ⟨exists_standsFor text, ?_⟩,
    fun first second => ?_⟩
  · intro default
    have isText : text.toList ≠ [] := mt String.toList_eq_nil_iff.mp nonempty
    rw [standsFor_iff, parseDefaults, defaultsOf_singleton isText noComma,
      List.singleton_inj]
  · have updated : parseDefaults (first ++ "," ++ second) =
        (parseDefaults first).update (parseDefaults second) := by
      simp only [parseDefaults, ← defaultsOf_append_comma,
        String.toList_append, List.append_assoc]
      rfl
    dsimp only
    rw [updated]
    exact ⟨rfl, Table.keys_update .., Table.get?_update _ _⟩

/-- A repeated name keeps its place and takes its last value, with all that
stands behind its first equals sign. -/
theorem parseDefaults_rules_repeated :
    "q=a=b" ≠ "" ∧ ',' ∉ "q=a=b".toList ∧
      StandsFor "q=a=b" ("q", "a=b") ∧
      (parseDefaults "q=a=b").entries = [("q", "a=b")] ∧
      parseDefaults ("q=1,,p" ++ "," ++ "q=a=b") =
        (parseDefaults "q=1,,p").update (parseDefaults "q=a=b") ∧
      (parseDefaults "q=1,,p,q=a=b").entries = [("q", "a=b"), ("p", "")] := by
  obtain ⟨_, single, both⟩ := parseDefaults_rules
  have nonempty : "q=a=b" ≠ "" := by decide
  have noComma : ',' ∉ "q=a=b".toList := by decide
  have read : (parseDefaults "q=a=b").entries = [("q", "a=b")] := by decide
  have stands := ((single "q=a=b" nonempty noComma).2 _).mp read
  exact ⟨nonempty, noComma, stands, read, (both "q=1,,p" "q=a=b").1,
    by decide⟩

end Target
end PathRouter
