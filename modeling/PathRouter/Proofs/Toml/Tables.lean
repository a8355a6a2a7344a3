import PathRouter.Proofs.Table.Reading
import PathRouter.Proofs.Toml.Documents

/-!
# Documents of tables

A header opens a table behind those that are there, and the entries on the next
lines join it, each behind those in front of it.  In this way a document gives
its tables, and the entries of each table, in the order of its lines.

## Main definitions

* `tableStatements`: the header of a table and its entries.
* `Document.Holds`: entries and tables without anything closed or pending.
* `Document.inTable`: what has been read when the last lines gave a table.

## Main statements

* `Document.takesAll_tableStatements`: the statements of a table give the table
  behind those that are there.
-/

namespace PathRouter
namespace Toml

/-- An entry of a table of texts. -/
def entryStatement (entry : String × String) : Statement :=
  .entry entry.1 entry.2

/-- The header of a table and its entries. -/
def tableStatements (name : String) (table : Table String) : List Statement :=
  .header name :: table.entries.map entryStatement

namespace Document

variable
  {before : Document}
  {front inner : Table Value}
  {declared : List Key}
  {name key : String}

/-- What has been read consists of entries, and of some tables that are
declared; nothing is closed to later lines. -/
structure Holds
    (document : Document)
    (front : Table Value)
    (declared : List Key) : Prop where
  /-- The entries. -/
  entries : document.entries = front
  /-- The tables that are declared. -/
  declared : document.declared = declared
  /-- No table is about to count as declared. -/
  noPending : document.pending = []
  /-- No table was written as a value. -/
  noClosed : document.closed = []

/-- What has been read when the last lines gave a table, behind the ones in
front. -/
def inTable
    (front : Table Value)
    (name : String)
    (inner : Table Value)
    (declared : List Key) : Document where
  entries := front.insert name (.ofTable inner)
  header := [name]
  declared := declared

theorem holds_inTable :
    (inTable front name inner declared).Holds
      (front.insert name (.ofTable inner)) declared :=
  ⟨rfl, rfl, rfl, rfl⟩

/-! ## Changes -/

/-- A value of a new key is added behind the others. -/
theorem addValue_new
    {taken : String → Cause}
    (new : key ∉ front)
    (value : Value) :
    addValue taken key value front = .ok (front.insert key value) := by
  rw [addValue, Table.get?_eq_none_iff.mpr new]

/-- A table that is not there yet is made behind the others. -/
theorem changeTable_new (new : name ∉ front) :
    changeTable true .ok [name] front =
      .ok (front.insert name (.ofTable {})) := by
  rw [changeTable, Table.get?_eq_none_iff.mpr new]
  rfl

/-- The last table is changed in its place. -/
theorem changeTable_last
    {change : Entries → Except Cause Entries}
    {changed : Entries}
    (changes : change inner = .ok changed) :
    changeTable true change [name] (front.insert name (.ofTable inner)) =
      .ok (front.insert name (.ofTable changed)) := by
  have found : (front.insert name (.ofTable inner)).get? name =
      some (.ofTable inner) := by
    rw [Table.get?_insert, if_pos rfl]
  rw [changeTable, found, Value.ofTable, Value.ofMapping]
  dsimp only
  rw [Mapping.named_ofTable, changeTable, changes]
  change Except.ok _ = _
  rw [Table.insert_insert]

/-- A key with one part is written where the header leads to. -/
theorem assign_singleton
    (document : Document)
    (notClosed : document.isClosed document.header = false)
    (content : String)
    (left : List Char) :
    document.assign [key] (.text content) left =
      document.change left document.header
        (addValue (fun _ => .overwritten) key (.text content)) := by
  have outer : document.header ++ [key].dropLast = document.header :=
    List.append_nil _
  have passed : passedTables document.header [key] = [] := rfl
  have last : [key].getLastD "" = key := rfl
  rw [assign, outer, passed, last, List.find?_nil, notClosed,
    if_neg Bool.false_ne_true]
  cases document.change left document.header
    (addValue (fun _ => .overwritten) key (.text content)) <;> rfl

/-! ## Statements -/

/-- Outside of all tables, an entry joins the ones in front of it. -/
theorem takes_entry
    (new : key ∉ front)
    (content : String) :
    Takes { entries := front } (.entry key content)
      { entries := front.insert key (.text content) } := by
  intro left
  rw [assign_singleton _ rfl, change, changeTable, addValue_new new]

/-- A header opens a table. -/
theorem takes_header
    (holds : before.Holds front declared)
    (undeclared : [name] ∉ declared)
    (new : name ∉ front) :
    before.Takes (.header name)
      (inTable front name {} ([name] :: declared)) := by
  intro left
  have entries : before.atHeader.entries = front := holds.entries
  have notDeclared : before.atHeader.isDeclared [name] = false := by
    simpa [isDeclared, atHeader, holds.noPending, holds.declared]
      using undeclared
  have notClosed : before.atHeader.isClosed [name] = false := by
    simp [isClosed, atHeader, holds.noClosed]
  rw [declareTable, notDeclared, notClosed, Bool.or_self,
    if_neg Bool.false_ne_true, change, entries, changeTable_new new]
  simp [inTable, atHeader, holds.noPending, holds.noClosed, holds.declared]

/-- Inside of a table, an entry joins the ones in front of it. -/
theorem takes_entry_inTable
    (new : key ∉ inner)
    (content : String) :
    (inTable front name inner declared).Takes (.entry key content)
      (inTable front name (inner.insert key (.text content)) declared) := by
  intro left
  rw [assign_singleton _ rfl, change, inTable,
    changeTable_last (addValue_new new _)]
  rfl

/-! ## Tables -/

/-- The entries of a table join it one by one. -/
theorem takesAll_entries
    (inner : Table Value)
    {entries : List (String × String)}
    (distinct : (inner.keys ++ entries.map Prod.fst).Nodup) :
    TakesAll (inTable front name inner declared)
      (entries.map entryStatement)
      (inTable front name
        (inner.insertMany (entries.map fun entry => (entry.1, .text entry.2)))
        declared) := by
  induction entries generalizing inner with
  | nil => exact .nil _
  | cons entry rest inductionHypothesis =>
      obtain ⟨key, content⟩ := entry
      have new : key ∉ inner := by
        intro present
        rw [List.nodup_append] at distinct
        exact distinct.2.2 key present key List.mem_cons_self rfl
      have further := inductionHypothesis (inner.insert key (.text content)) (by
        rw [Table.keys_insert, if_neg new, List.append_assoc]
        exact distinct)
      exact .cons (takes_entry_inTable new content) further

/-- The statements of a table give the table behind those that are there. -/
theorem takesAll_tableStatements
    (holds : before.Holds front declared)
    (undeclared : [name] ∉ declared)
    (new : name ∉ front)
    (table : Table String) :
    TakesAll before (tableStatements name table)
      { entries := front.insert name (.ofTexts table)
        header := [name]
        declared := [name] :: declared } := by
  have opens := takes_header holds undeclared new
  have entries := @takesAll_entries front ([name] :: declared) name .empty
    table.entries table.distinct
  have texts := Table.ofList_entries
    (table.mapValues fun _ content => Value.text content)
  rw [Table.ofList] at texts
  rw [← Value.entries_ofTexts, texts] at entries
  exact .cons opens entries

end Document

end Toml
end PathRouter
