import Mathlib.Data.List.Basic
import Mathlib.Data.List.Induction
import PathRouter.Proofs.Table.Reading
import PathRouter.Proofs.Table.Writing

/-!
# Updating tables

A table is updated by the entries of a second one: its own keys keep their
places, those of the second table that are new follow in their order, and the
second table decides about the values of its keys.  Writing many entries in turn
is updating by the table that they leave behind.

## Main statements

* `Table.ext_get?`: a table consists of its keys and of what it gives for them.
* `Table.keys_update` and `Table.get?_update`: what an update leaves behind.
* `Table.update_ofList`: writes in turn are an update.
* `Table.ofList_append`: two rows of writes are an update of the first one.
-/

namespace PathRouter

/-! ## Lists without repetitions -/

/-- Leaving out later occurrences and leaving out some values can be done in
either order. -/
theorem filter_eraseDups
    [BEq α] [LawfulBEq α]
    (passes : α → Bool)
    (list : List α) :
    list.eraseDups.filter passes = (list.filter passes).eraseDups := by
  induction list using List.reverseRecOn with
  | nil => rfl
  | append_singleton front last inductionHypothesis =>
      rw [List.eraseDups_append, List.filter_append, inductionHypothesis,
        List.filter_append, List.eraseDups_append]
      congr 1
      by_cases present : last ∈ front <;> by_cases kept : passes last <;>
      simp [List.removeAll, present, kept]

theorem eraseDups_of_nodup
    [BEq α] [LawfulBEq α]
    {list : List α}
    (distinct : list.Nodup) :
    list.eraseDups = list := by
  induction list with
  | nil => rfl
  | cons value rest inductionHypothesis =>
      obtain ⟨new, distinctBehind⟩ := List.nodup_cons.mp distinct
      have kept : rest.filter (fun other => !other == value) = rest := by
        apply List.filter_eq_self.mpr
        intro other member
        have differs : other ≠ value := fun same => new (same ▸ member)
        simpa using differs
      rw [List.eraseDups_cons, kept, inductionHypothesis distinctBehind]

namespace Table

variable (table other : Table α) (writes : List (String × α)) (key : String)

/-! ## Keys and values -/

theorem entries_eq_filterMap :
    table.entries =
      table.keys.filterMap fun key => (table.get? key).map (key, ·) := by
  rw [keys, List.filterMap_map]
  calc table.entries
      = table.entries.filterMap some := List.filterMap_some.symm
    _ = _ := by
        apply List.filterMap_congr
        rintro ⟨key, value⟩ member
        simp [get?_of_mem member]

/-- Two tables are equal if they have the same keys in the same order and give
the same values. -/
theorem ext_get?
    {first second : Table α}
    (keys : first.keys = second.keys)
    (values : ∀ key, first.get? key = second.get? key) :
    first = second := by
  apply ext_entries
  rw [entries_eq_filterMap first, entries_eq_filterMap second, keys]
  simp only [values]

theorem keys_ofList :
    (ofList writes).keys = (writes.map Prod.fst).eraseDups := by
  rw [ofList, keys_insertMany, newKeys, keys_empty, List.nil_append]
  congr 1
  apply List.filter_eq_self.mpr
  intro key _
  exact decide_eq_true List.not_mem_nil

theorem get?_ofList :
    (ofList writes).get? key = writes.reverse.lookup key := by
  rw [ofList, get?_insertMany]
  exact Option.or_none

/-! ## Updates -/

/-- Keys keep their places, and new ones follow in the order of the second
table. -/
theorem keys_update :
    (table.update other).keys =
      table.keys ++ other.keys.filter (· ∉ table) := by
  rw [update, keys_insertMany, newKeys]
  exact congrArg _ (eraseDups_of_nodup (other.distinct.filter _))

/-- After an update, what the second table gives for a key wins. -/
theorem get?_update :
    (table.update other).get? key =
      (other.get? key).or (table.get? key) := by
  have own := get?_ofList other.entries key
  rw [ofList_entries] at own
  rw [update, get?_insertMany, own]

/-- Writing entries in turn is updating by the table that they leave behind. -/
theorem update_ofList :
    table.update (ofList writes) = table.insertMany writes := by
  apply ext_get?
  · rw [keys_update, keys_insertMany, keys_ofList, filter_eraseDups]
    rfl
  · intro key
    rw [get?_update, get?_ofList, get?_insertMany]

/-- What two rows of writes leave behind is what the first one does, updated by
what the second one does. -/
theorem ofList_append (first second : List (String × α)) :
    ofList (first ++ second) = (ofList first).update (ofList second) := by
  rw [update_ofList]
  exact List.foldl_append

end Table
end PathRouter
