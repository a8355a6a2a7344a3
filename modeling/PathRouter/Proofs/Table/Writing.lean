import PathRouter.Table.Basic

/-!
# Writing to ordered tables

Writing entries with new and distinct keys appends them, so that a table is
what its own entries leave behind.  In general, keys keep their places, and
those that are new follow in the order in which they are first written.

## Main definitions

* `Table.newKeys`: the keys that writing some entries adds to a table.

## Main statements

* `Table.entries_ofList`: distinct keys keep their entries and their order.
* `Table.ofList_entries`: a table is rebuilt from its entries.
* `Table.keys_insertMany`: where the keys are after any number of writes.
-/

namespace PathRouter

theorem insertEntry_of_not_mem
    {key : String}
    {entries : List (String × α)}
    (new : key ∉ entries.map Prod.fst)
    (value : α) :
    insertEntry key value entries = entries ++ [(key, value)] := by
  induction entries with
  | nil => rfl
  | cons entry rest inductionHypothesis =>
      obtain ⟨first, content⟩ := entry
      rw [List.map_cons, List.mem_cons, not_or] at new
      have different : ¬first = key := fun equal => new.1 equal.symm
      rw [insertEntry, if_neg different, inductionHypothesis new.2,
        List.cons_append]

/-- Only the last write to a key counts. -/
theorem insertEntry_insertEntry
    (key : String)
    (old value : α)
    (entries : List (String × α)) :
    insertEntry key value (insertEntry key old entries) =
      insertEntry key value entries := by
  induction entries with
  | nil => simp [insertEntry]
  | cons entry rest inductionHypothesis =>
      obtain ⟨first, content⟩ := entry
      by_cases same : first = key
      · simp [insertEntry, same]
      · simp [insertEntry, same, inductionHypothesis]

namespace Table

theorem ext_entries
    {first second : Table α}
    (equal : first.entries = second.entries) :
    first = second := by
  cases first
  cases second
  subst equal
  rfl

theorem insert_insert
    (table : Table α)
    (key : String)
    (old value : α) :
    (table.insert key old).insert key value = table.insert key value :=
  ext_entries (insertEntry_insertEntry key old value table.entries)

/-- Writing new and distinct keys appends their entries. -/
theorem entries_insertMany
    (table : Table α)
    {entries : List (String × α)}
    (distinct : (table.keys ++ entries.map Prod.fst).Nodup) :
    (table.insertMany entries).entries = table.entries ++ entries := by
  induction entries generalizing table with
  | nil => simp [insertMany]
  | cons entry rest inductionHypothesis =>
      obtain ⟨key, value⟩ := entry
      have new : key ∉ table.entries.map Prod.fst := by
        intro present
        have apart := (List.nodup_append.mp distinct).2.2
        exact apart key present key (by simp) rfl
      have written : (table.insert key value).entries =
          table.entries ++ [(key, value)] :=
        insertEntry_of_not_mem new value
      have distinctBehind :
          ((table.insert key value).keys ++ rest.map Prod.fst).Nodup := by
        rw [keys, written]
        simpa [keys] using distinct
      change ((table.insert key value).insertMany rest).entries = _
      rw [inductionHypothesis _ distinctBehind, written, List.append_assoc]
      rfl

/-- Entries with distinct keys are the entries of their table. -/
theorem entries_ofList
    {entries : List (String × α)}
    (distinct : (entries.map Prod.fst).Nodup) :
    (ofList entries).entries = entries := by
  rw [ofList, entries_insertMany empty (by simpa using distinct)]
  rfl

/-- A table is what writing its entries leaves behind. -/
theorem ofList_entries (table : Table α) : ofList table.entries = table :=
  ext_entries (entries_ofList table.distinct)

theorem mem_insert
    {table : Table α}
    {key other : String}
    {value : α} :
    other ∈ table.insert key value ↔ other ∈ table ∨ other = key := by
  change other ∈ (table.insert key value).keys ↔ other ∈ table.keys ∨ _
  rw [keys_insert]
  split
  · rename_i present
    exact ⟨.inl, fun known => known.elim id fun same => same ▸ present⟩
  · rw [List.mem_append, List.mem_singleton]

/-- The keys that writing some entries adds to a table, in the order in which
they are first written. -/
def newKeys (table : Table α) (writes : List (String × α)) : List String :=
  ((writes.map Prod.fst).filter (· ∉ table)).eraseDups

/-- The first write adds its key if the key is new; the others add to the table
that it leaves behind. -/
theorem newKeys_cons
    (table : Table α)
    (key : String)
    (value : α)
    (rest : List (String × α)) :
    table.newKeys ((key, value) :: rest) =
      (if key ∈ table then [] else [key]) ++
        (table.insert key value).newKeys rest := by
  rw [newKeys, newKeys, List.map_cons]
  split
  · rename_i present
    rw [List.filter_cons_of_neg (by simpa using present), List.nil_append]
    congr 1
    apply List.filter_congr
    intro other _
    rw [decide_eq_decide, mem_insert]
    exact not_congr
      ⟨.inl, fun known => known.elim id fun same => same ▸ present⟩
  · rename_i new
    rw [List.filter_cons_of_pos (by simpa using new), List.eraseDups_cons,
      List.filter_filter, List.singleton_append]
    congr 2
    apply List.filter_congr
    intro other _
    simp [mem_insert, Bool.and_comm, Bool.beq_eq_decide_eq]

/-- Keys keep their places, and new ones follow in the order in which they are
first written. -/
theorem keys_insertMany (table : Table α) (writes : List (String × α)) :
    (table.insertMany writes).keys = table.keys ++ table.newKeys writes := by
  induction writes generalizing table with
  | nil => exact (List.append_nil _).symm
  | cons write rest inductionHypothesis =>
      obtain ⟨key, value⟩ := write
      change ((table.insert key value).insertMany rest).keys = _
      rw [inductionHypothesis, newKeys_cons, keys_insert, ← List.append_assoc]
      split
      · rw [List.append_nil]
      · rfl

end Table
end PathRouter
