import PathRouter.Table.Basic

/-!
# Reading ordered tables

The keys of a table are distinct, so that a table gives for a key exactly what
its entry holds.

## Main statements

* `Table.get?_of_mem`: a table gives what its entries hold.
* `Table.get?_insert`: what a table gives after a write.
* `Table.get?_insertMany`: what a table gives after any number of writes.
-/

namespace PathRouter

variable {entries : List (String × α)} {key : String} {value : α}

theorem lookup_eq_none_iff_not_mem :
    entries.lookup key = none ↔ key ∉ entries.map Prod.fst := by
  rw [List.lookup_eq_none_iff, List.mem_map, not_exists]
  constructor
  · rintro absent entry ⟨member, rfl⟩
    simpa using absent entry member
  · intro absent entry member
    apply bne_iff_ne.mpr
    intro same
    exact absent entry ⟨member, same.symm⟩

theorem lookup_of_mem
    (distinct : (entries.map Prod.fst).Nodup)
    (member : (key, value) ∈ entries) :
    entries.lookup key = some value := by
  induction entries with
  | nil => cases member
  | cons entry rest inductionHypothesis =>
      obtain ⟨new, distinctBehind⟩ := List.nodup_cons.mp distinct
      rcases List.mem_cons.mp member with rfl | behind
      · exact List.lookup_cons_self
      · have differs : (key == entry.1) = false := by
          apply beq_eq_false_iff_ne.mpr
          intro same
          exact new (same ▸ List.mem_map_of_mem behind)
        rw [List.lookup_cons, differs]
        exact inductionHypothesis distinctBehind behind

/-- A table gives what its entries hold. -/
theorem Table.get?_of_mem
    {table : Table α}
    (member : (key, value) ∈ table.entries) :
    table.get? key = some value :=
  lookup_of_mem table.distinct member

/-- A table gives nothing exactly for the keys that it lacks. -/
theorem Table.get?_eq_none_iff {table : Table α} :
    table.get? key = none ↔ key ∉ table :=
  lookup_eq_none_iff_not_mem

theorem lookup_insertEntry (other : String) :
    (insertEntry key value entries).lookup other =
      if other = key then some value else entries.lookup other := by
  induction entries with
  | nil => by_cases same : other = key <;> simp [insertEntry, same]
  | cons entry rest inductionHypothesis =>
      obtain ⟨first, content⟩ := entry
      by_cases written : first = key
      · subst written
        by_cases same : other = first
        · simp [insertEntry, same]
        · have differs : (other == first) = false :=
            beq_eq_false_iff_ne.mpr same
          simp [insertEntry, List.lookup_cons, same, differs]
      · by_cases same : other = first
        · subst same
          simp [insertEntry, written]
        · have differs : (other == first) = false :=
            beq_eq_false_iff_ne.mpr same
          simp [insertEntry, List.lookup_cons, written, differs,
            inductionHypothesis]

/-- A write changes what a table gives for the key that is written, and for no
other key. -/
theorem Table.get?_insert (table : Table α) (other : String) :
    (table.insert key value).get? other =
      if other = key then some value else table.get? other :=
  lookup_insertEntry other

/-- After any number of writes, a table gives what was last written to the key,
or else what it gave before. -/
theorem Table.get?_insertMany
    (table : Table α)
    (writes : List (String × α))
    (key : String) :
    (table.insertMany writes).get? key =
      (writes.reverse.lookup key).or (table.get? key) := by
  induction writes generalizing table with
  | nil => rfl
  | cons write rest inductionHypothesis =>
      change ((table.insert write.1 write.2).insertMany rest).get? key = _
      rw [inductionHypothesis, Table.get?_insert, List.reverse_cons,
        List.lookup_append, Option.or_assoc, List.lookup_cons]
      by_cases same : key = write.1
      · rw [if_pos same, beq_iff_eq.mpr same]
        rfl
      · rw [if_neg same, beq_eq_false_iff_ne.mpr same]
        rfl

end PathRouter
