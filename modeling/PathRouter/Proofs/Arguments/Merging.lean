import PathRouter.Arguments
import PathRouter.Proofs.Table.Reading
import PathRouter.Proofs.Table.Writing
import Mathlib.Tactic.Tauto

/-!
# Merging arguments

Arguments come in layers: what a match tells, and then one table of defaults
after another.  An entry of a layer counts only if no earlier layer has its
key, and the entries that count keep the order of the layers and their order in
each of them.

## Main definitions

* `layered`: the entries of some layers that count.
* `Captures.participating`: what the groups that took part in a match have
  read.

## Main statements

* `lookup_layered`: the first layer with a key decides what it stands for.
* `Arguments.entries_merge`: merged arguments are layered.
* `Arguments.get?_merge` and `Arguments.merge_append_extends`: what captures
  and earlier tables give is neither changed nor moved by later ones.
-/

namespace PathRouter

/-! ## Layers of entries -/

/-- The entries of a list whose keys another list lacks. -/
def newEntries (known entries : List (String × α)) : List (String × α) :=
  entries.filter fun entry => entry.1 ∉ known.map Prod.fst

/-- The entries of some layers, each without those whose keys an earlier layer
has. -/
def layered : List (List (String × α)) → List (String × α)
  | [] => []
  | entries :: rest => entries ++ newEntries entries (layered rest)

section Layers

variable {known entries more : List (String × α)} {key : String}

@[simp] theorem newEntries_append :
    newEntries known (entries ++ more) =
      newEntries known entries ++ newEntries known more :=
  List.filter_append ..

theorem newEntries_cons_of_mem
    {entry : String × α}
    (present : entry.1 ∈ known.map Prod.fst) :
    newEntries known (entry :: entries) = newEntries known entries :=
  List.filter_cons_of_neg (by rwa [decide_eq_true_iff, not_not])

theorem newEntries_cons_of_not_mem
    {entry : String × α}
    (new : entry.1 ∉ known.map Prod.fst) :
    newEntries known (entry :: entries) =
      entry :: newEntries known entries :=
  List.filter_cons_of_pos (decide_eq_true new)

theorem newEntries_concat_of_not_mem
    {entry : String × α}
    (apart : entry.1 ∉ entries.map Prod.fst) :
    newEntries (known ++ [entry]) entries = newEntries known entries := by
  apply List.filter_congr
  intro other member
  have differs : other.1 ≠ entry.1 := fun same =>
    apart (same ▸ List.mem_map_of_mem member)
  simp [differs]

theorem mem_keys_newEntries :
    key ∈ (newEntries known entries).map Prod.fst ↔
      key ∈ entries.map Prod.fst ∧ key ∉ known.map Prod.fst := by
  rw [newEntries, List.mem_map, List.mem_map]
  constructor
  · rintro ⟨entry, member, rfl⟩
    obtain ⟨present, new⟩ := List.mem_filter.mp member
    exact ⟨⟨entry, present, rfl⟩, of_decide_eq_true new⟩
  · rintro ⟨⟨entry, present, rfl⟩, new⟩
    exact ⟨entry, List.mem_filter.mpr ⟨present, decide_eq_true new⟩, rfl⟩

/-- New to some entries and to others is what is new to both of them. -/
theorem newEntries_newEntries :
    newEntries known (newEntries entries more) =
      newEntries (known ++ entries) more := by
  rw [newEntries, newEntries, List.filter_filter]
  apply List.filter_congr
  intro entry _
  rw [← Bool.decide_and, decide_eq_decide, List.map_append, List.mem_append,
    not_or]

theorem newEntries_append_newEntries :
    newEntries (known ++ newEntries known entries) more =
      newEntries (known ++ entries) more := by
  apply List.filter_congr
  intro entry _
  rw [decide_eq_decide, List.map_append, List.mem_append,
    mem_keys_newEntries, List.map_append, List.mem_append]
  tauto

/-- Two layers may be put together before the others are added. -/
theorem layered_cons_cons (layers : List (List (String × α))) :
    layered (known :: entries :: layers) =
      layered ((known ++ newEntries known entries) :: layers) := by
  rw [layered, layered, layered, newEntries_append, newEntries_newEntries,
    newEntries_append_newEntries, List.append_assoc]

/-- Every layer has a say on its keys. -/
theorem mem_keys_layered {layers : List (List (String × α))} :
    key ∈ (layered layers).map Prod.fst ↔
      ∃ entries ∈ layers, key ∈ entries.map Prod.fst := by
  induction layers with
  | nil => simp [layered]
  | cons entries rest inductionHypothesis =>
      rw [layered, List.map_append, List.mem_append, mem_keys_newEntries,
        inductionHypothesis]
      by_cases present : key ∈ entries.map Prod.fst
      · simp only [present, true_or, true_iff]
        exact ⟨entries, List.mem_cons_self, present⟩
      · simp only [present, false_or, not_false_eq_true, and_true,
          List.mem_cons, exists_eq_or_imp]

/-- Of three layers the first counts in full, the second as far as it is new to
the first, and the third as far as it is new to both. -/
theorem layered_three :
    layered [known, entries, more] =
      known ++ newEntries known entries ++
        newEntries (known ++ entries) more := by
  rw [layered_cons_cons, layered, newEntries_append_newEntries, layered,
    layered]
  exact congrArg (_ ++ newEntries _ ·) (List.append_nil more)

theorem lookup_newEntries
    (new : known.lookup key = none) :
    (newEntries known entries).lookup key = entries.lookup key := by
  rw [lookup_eq_none_iff_not_mem] at new
  induction entries with
  | nil => rfl
  | cons entry rest inductionHypothesis =>
      obtain ⟨name, value⟩ := entry
      by_cases same : key = name
      · subst same
        rw [newEntries_cons_of_not_mem new, List.lookup_cons_self,
          List.lookup_cons_self]
      · have differs : (key == name) = false := beq_eq_false_iff_ne.mpr same
        rw [List.lookup_cons, differs, ← inductionHypothesis]
        by_cases present : name ∈ known.map Prod.fst
        · rw [newEntries_cons_of_mem present]
        · rw [newEntries_cons_of_not_mem present, List.lookup_cons, differs]

/-- The first layer with a key decides what it stands for. -/
theorem lookup_layered (layers : List (List (String × α))) (key : String) :
    (layered layers).lookup key = layers.findSome? (·.lookup key) := by
  induction layers with
  | nil => rfl
  | cons entries rest inductionHypothesis =>
      rw [layered, List.lookup_append, List.findSome?_cons]
      cases found : entries.lookup key with
      | some value => rfl
      | none =>
          rw [lookup_newEntries found, inductionHypothesis]
          rfl

end Layers

/-! ## Adding defaults -/

/-- What the groups that took part in a match have read. -/
def Captures.participating (captures : Captures) : List (String × String) :=
  captures.entries.filterMap fun (name, text?) => text?.map (name, ·)

/-- The names of groups that took part are names of groups, in order. -/
theorem keys_participating_sublist (entries : List (String × Option String)) :
    ((entries.filterMap fun (name, text?) => text?.map (name, ·)).map
      Prod.fst).Sublist (entries.map Prod.fst) := by
  induction entries with
  | nil => exact .slnil
  | cons entry rest inductionHypothesis =>
      obtain ⟨name, _ | text⟩ := entry
      · exact inductionHypothesis.cons _
      · exact inductionHypothesis.cons_cons _

theorem lookup_participating
    {entries : List (String × Option String)}
    (distinct : (entries.map Prod.fst).Nodup)
    (key : String) :
    (entries.filterMap fun (name, text?) => text?.map (name, ·)).lookup key =
      (entries.lookup key).join := by
  induction entries with
  | nil => rfl
  | cons entry rest inductionHypothesis =>
      obtain ⟨name, text?⟩ := entry
      obtain ⟨new, distinctBehind⟩ := List.nodup_cons.mp distinct
      by_cases same : key = name
      · subst same
        rw [List.lookup_cons_self]
        cases text? with
        | some text => exact List.lookup_cons_self
        | none =>
            apply lookup_eq_none_iff_not_mem.mpr
            exact mt (fun member => (keys_participating_sublist rest).subset
              member) new
      · have differs : (key == name) = false := beq_eq_false_iff_ne.mpr same
        rw [List.lookup_cons, differs, ← inductionHypothesis distinctBehind]
        cases text? with
        | some text =>
            change List.lookup key ((name, text) :: _) = _
            rw [List.lookup_cons, differs]
        | none => rfl

namespace Arguments

theorem entries_ofCaptures (captures : Captures) :
    (ofCaptures captures).entries = captures.participating :=
  Table.entries_ofList
    (captures.distinct.sublist (keys_participating_sublist _))

/-- Defaults that are new come behind the arguments, in their order. -/
theorem entries_addDefaults (arguments : Arguments) (defaults : Table String) :
    (arguments.addDefaults defaults).entries =
      arguments.entries ++ newEntries arguments.entries defaults.entries := by
  obtain ⟨entries, distinct⟩ := defaults
  rw [addDefaults]
  dsimp only at distinct ⊢
  induction entries generalizing arguments with
  | nil => exact (List.append_nil _).symm
  | cons entry rest inductionHypothesis =>
      obtain ⟨key, value⟩ := entry
      obtain ⟨apart, distinctBehind⟩ := List.nodup_cons.mp distinct
      rw [List.foldl_cons, inductionHypothesis _ distinctBehind,
        Table.insertIfNew]
      split
      · rename_i present
        rw [newEntries_cons_of_mem present]
      · rename_i new
        have written : (arguments.insert key value).entries =
            arguments.entries ++ [(key, value)] :=
          insertEntry_of_not_mem new value
        rw [written, newEntries_concat_of_not_mem apart,
          newEntries_cons_of_not_mem new, List.append_assoc,
          List.singleton_append]

/-- The entries of arguments with defaults added to them are layered. -/
theorem entries_foldl_addDefaults
    (arguments : Arguments)
    (tables : List (Table String)) :
    (tables.foldl addDefaults arguments).entries =
      layered (arguments.entries :: tables.map Table.entries) := by
  induction tables generalizing arguments with
  | nil => exact (List.append_nil _).symm
  | cons defaults rest inductionHypothesis =>
      rw [List.foldl_cons, inductionHypothesis, entries_addDefaults,
        List.map_cons, layered_cons_cons]

/-- Merged arguments are layered: what the captures give, and then the tables
in turn. -/
theorem entries_merge (captures : Captures) (tables : List (Table String)) :
    (merge captures tables).entries =
      layered (captures.participating :: tables.map Table.entries) := by
  rw [merge, entries_foldl_addDefaults, entries_ofCaptures]

/-- What captures give wins over every table, and an earlier table wins over a
later one. -/
theorem get?_merge
    (captures : Captures)
    (tables : List (Table String))
    (name : String) :
    (merge captures tables).get? name =
      (captures.get? name).join.or (tables.findSome? (·.get? name)) := by
  rw [Table.get?, entries_merge, lookup_layered, List.findSome?_cons,
    Captures.participating, lookup_participating captures.distinct,
    List.findSome?_map]
  rw [Table.get?]
  cases (captures.entries.lookup name).join <;> rfl

/-- More tables move no entry that is there without them. -/
theorem merge_append_extends
    (captures : Captures)
    (tables more : List (Table String)) :
    (merge captures tables).entries <+:
      (merge captures (tables ++ more)).entries := by
  rw [merge, merge, List.foldl_append, entries_foldl_addDefaults _ more]
  exact List.prefix_append ..

end Arguments
end PathRouter
