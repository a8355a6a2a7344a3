import PathRouter.Proofs.Table.Writing
import PathRouter.Value

/-!
# Tables as mappings

Documents and configurations have mappings whose keys are texts.  Such a mapping
is made of a table, and the table is found again in it.

## Main statements

* `Mapping.entries_ofTable`: the entries of a table as a mapping.
* `Mapping.named_ofTable`: the table that a mapping was made of.
-/

namespace PathRouter
namespace Mapping

theorem entries_ofEntries
    {entries : List (Scalar × Value)}
    (distinct : (entries.map Prod.fst).Pairwise
      fun a b => a.isSame b = false) :
    (ofEntries entries distinct).entries = entries := by
  apply List.ext_getElem
  · change (List.ofFn _).length = _
    rw [List.length_ofFn]
    exact List.length_map Prod.fst
  · intro index _ bound
    have inKeys : index < (entries.map Prod.fst).length := by
      rwa [List.length_map]
    refine (List.getElem_ofFn _).trans ?_
    change ((entries.map Prod.fst)[index], entries[index].2) = entries[index]
    rw [List.getElem_map]

/-- A table and its mapping have the same entries. -/
theorem entries_ofTable (table : Table Value) :
    (ofTable table).entries =
      table.entries.map fun entry => (.text entry.1, entry.2) :=
  entries_ofEntries _

theorem list_keys_ofTable (table : Table Value) :
    (ofTable table).keys.list = table.keys.map .text := by
  change (table.entries.map _).map Prod.fst = (table.entries.map Prod.fst).map _
  rw [List.map_map, List.map_map]
  rfl

/-- The table that a mapping was made of is found in it. -/
theorem named_ofTable (table : Table Value) :
    (ofTable table).named = table := by
  have texts : (ofTable table).entries.filterMap namedEntry? =
      table.entries := by
    rw [entries_ofTable, List.filterMap_map]
    exact List.filterMap_some
  rw [named, texts, Table.ofList_entries]

end Mapping

namespace Value

/-- If a value is a mapping, then its keys are texts. -/
def IsNamed (value : Value) : Prop :=
  ∀ mapping ∈ value.mapping?, ∃ table, mapping = .ofTable table

theorem isNamed_scalar (content : Scalar) : IsNamed (scalar content) := nofun

theorem isNamed_list (members : List Value) : IsNamed (list members) := nofun

theorem isNamed_ofTable (table : Table Value) : IsNamed (ofTable table) :=
  fun _ same => ⟨table, (Option.some.inj same).symm⟩

theorem mapping?_ofTexts (table : Table String) :
    (ofTexts table).mapping? =
      some (.ofTable (table.mapValues fun _ content => text content)) := rfl

/-- A table of texts holds its texts. -/
theorem entries_ofTexts (table : Table String) :
    (table.mapValues fun _ content => text content).entries =
      table.entries.map fun entry => (entry.1, text entry.2) := rfl

end Value
end PathRouter
