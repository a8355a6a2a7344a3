import PathRouter.Toml.Fault
import PathRouter.Value

/-!
# Nested tables

The tables of a document lie inside of each other, and a key leads from the
outside to one of them.  Tables that are not there yet are made on the way.  A
list of tables stands for its last member, unless it was written as a value.
-/

namespace PathRouter
namespace Toml

/-- The entries of a table. -/
abbrev Entries := Table Value

/-- Changes the table that a key leads to; nothing but a table may lie on the
way. -/
def changeTable (throughLists : Bool)
    (change : Entries → Except Cause Entries) :
    Key → Entries → Except Cause Entries
  | [], entries => change entries
  | part :: key, entries => do
      let inside ← match entries.get? part with
        | none => Value.ofTable <$> changeTable throughLists change key {}
        | some (.map keys values) =>
            Value.ofTable <$>
              changeTable throughLists change key (Mapping.mk keys values).named
        | some (.list members) =>
            match throughLists, members.getLast? with
            | true, some (.map keys values) => do
                let changed ←
                  changeTable throughLists change key
                    (Mapping.mk keys values).named
                pure (Value.list (members.dropLast ++ [.ofTable changed]))
            | _, _ => throw .overwritten
        | some _ => throw .overwritten
      return entries.insert part inside

/-- Writes a value that must be new. -/
def addValue (taken : String → Cause) (name : String) (value : Value)
    (entries : Entries) : Except Cause Entries :=
  match entries.get? name with
  | some _ => .error (taken name)
  | none => .ok (entries.insert name value)

/-- Adds an empty table to a list of tables, which is made if it is not there
yet. -/
def addToList (name : String) (entries : Entries) : Except Cause Entries :=
  match entries.get? name with
  | none => .ok (entries.insert name (.list [.ofTable {}]))
  | some (.list members) =>
      .ok (entries.insert name (.list (members ++ [.ofTable {}])))
  | some _ => .error .overwritten

end Toml
end PathRouter
