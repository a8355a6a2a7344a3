/-!
# Ordered tables

A table maps texts to values and remembers the order in which its keys first
arrived.  Writing to a key that is present changes its value and leaves it in
its place; writing to a new key adds it at the end.

## Main definitions

* `Table.insert`, `Table.insertIfNew`, `Table.update`: writing one or many
  entries.
* `Table.get?` and membership: reading.
* `Table.ofList`: the table that a sequence of writes leaves behind.
-/

namespace PathRouter

/-- The entries after a write: in place if the key is present, else at the
end. -/
def insertEntry (key : String) (value : α) :
    List (String × α) → List (String × α)
  | [] => [(key, value)]
  | (k, v) :: rest =>
      if k = key then (key, value) :: rest
      else (k, v) :: insertEntry key value rest

/-- A write changes no key and no place, except that a new key is added at the
end. -/
theorem keys_insertEntry (key : String) (value : α)
    (entries : List (String × α)) :
    (insertEntry key value entries).map Prod.fst =
      if key ∈ entries.map Prod.fst then entries.map Prod.fst
      else entries.map Prod.fst ++ [key] := by
  induction entries with
  | nil => simp [insertEntry]
  | cons entry rest inductionHypothesis =>
      obtain ⟨k, v⟩ := entry
      by_cases equal : k = key
      · simp [insertEntry, equal]
      · have different : ¬key = k := fun h => equal h.symm
        simp only [insertEntry, equal, if_false, List.map_cons,
          inductionHypothesis, List.mem_cons, different, false_or]
        split <;> simp

/-- Distinct keys stay distinct under a write. -/
theorem nodup_keys_insertEntry {key : String} {value : α}
    {entries : List (String × α)}
    (distinct : (entries.map Prod.fst).Nodup) :
    ((insertEntry key value entries).map Prod.fst).Nodup := by
  rw [keys_insertEntry]
  split
  · exact distinct
  · next absent =>
      rw [List.nodup_append]
      refine ⟨distinct, by simp, ?_⟩
      intro a member b last equal
      rw [List.mem_singleton] at last
      exact absent (last ▸ equal ▸ member)

/-- A table of values by key, in the order in which the keys first arrived. -/
structure Table (α : Type) where
  /-- The keys with their values, in order. -/
  entries : List (String × α)
  /-- No key occurs twice. -/
  distinct : (entries.map Prod.fst).Nodup
deriving DecidableEq

namespace Table

/-- The table without entries. -/
def empty : Table α := ⟨[], List.nodup_nil⟩

instance : EmptyCollection (Table α) := ⟨empty⟩

instance : Inhabited (Table α) := ⟨empty⟩

/-- The keys in order. -/
def keys (t : Table α) : List String := t.entries.map Prod.fst

/-- The number of entries. -/
def size (t : Table α) : Nat := t.entries.length

/-- A key is a member of a table when it has a value there. -/
instance : Membership String (Table α) := ⟨fun t key => key ∈ t.keys⟩

instance (key : String) (t : Table α) : Decidable (key ∈ t) :=
  inferInstanceAs (Decidable (key ∈ t.keys))

/-- The value of a key. -/
def get? (t : Table α) (key : String) : Option α := t.entries.lookup key

/-- Writes a value: in place if the key is present, else at the end. -/
def insert (t : Table α) (key : String) (value : α) : Table α where
  entries := insertEntry key value t.entries
  distinct := nodup_keys_insertEntry t.distinct

/-- Writes a value only if the key is new. -/
def insertIfNew (t : Table α) (key : String) (value : α) : Table α :=
  if key ∈ t then t else t.insert key value

/-- Writes the entries of a list in turn. -/
def insertMany (t : Table α) (entries : List (String × α)) : Table α :=
  entries.foldl (fun table entry => table.insert entry.1 entry.2) t

/-- The table that writing the entries of a list in turn leaves behind. -/
def ofList (entries : List (String × α)) : Table α := empty.insertMany entries

/-- Writes all entries of a second table in turn. -/
def update (t u : Table α) : Table α := t.insertMany u.entries

/-- The same keys in the same order, with other values. -/
def mapValues (f : String → α → β) (t : Table α) : Table β where
  entries := t.entries.map fun entry => (entry.1, f entry.1 entry.2)
  distinct := by
    have same : (t.entries.map fun entry => (entry.1, f entry.1 entry.2)).map
        Prod.fst = t.entries.map Prod.fst := by simp
    rw [same]
    exact t.distinct

@[simp] theorem entries_empty : (empty : Table α).entries = [] := rfl

@[simp] theorem keys_empty : (empty : Table α).keys = [] := rfl

@[simp] theorem entries_insert (t : Table α) (key : String) (value : α) :
    (t.insert key value).entries = insertEntry key value t.entries := rfl

/-- A write keeps the keys and their order, and adds a new key at the end. -/
theorem keys_insert (t : Table α) (key : String) (value : α) :
    (t.insert key value).keys =
      if key ∈ t then t.keys else t.keys ++ [key] :=
  keys_insertEntry key value t.entries

end Table
end PathRouter
