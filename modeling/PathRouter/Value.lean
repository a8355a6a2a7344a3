import PathRouter.Scalar
import PathRouter.Table.Basic

/-!
# Dynamic values

Configurations arrive as values of a data format: scalars, lists and mappings.
Before a value counts as a configuration, its parts are checked; until then it
is a `Value`.

The keys of a mapping are scalars, no two of which are the same.  Since a nested
type cannot say so of a list of entries, the keys of a mapping come first, and
its values are given by the places of their keys.

## Main definitions

* `Value` and `Mapping`: the values, and the mappings among them.
* `Mapping.entries`: the keys with their values, in order.
* `Mapping.ofTable` and `Mapping.named`: a table as a mapping, and the table of
  those entries of a mapping whose keys are texts.
* `Value.kind`: the name of the kind of a value.
* `Value.render` and `Value.inText`: a value as messages show it, and as it
  stands in running text.
-/

namespace PathRouter

/-- Keys in order. -/
structure Keys where
  /-- The keys. -/
  list : List Scalar
  /-- No two keys are the same. -/
  distinct : list.Pairwise fun a b => a.isSame b = false

/-- A value of a data format. -/
inductive Value where
  /-- A value without parts. -/
  | scalar (content : Scalar)
  /-- A list. -/
  | list (members : List Value)
  /-- A mapping, with a value for the place of each key. -/
  | map (keys : Keys) (values : Fin keys.list.length → Value)
deriving Inhabited

/-- A mapping. -/
structure Mapping where
  /-- The keys. -/
  keys : Keys
  /-- The value for the place of each key. -/
  values : Fin keys.list.length → Value

namespace Mapping

/-- The keys with their values, in order. -/
def entries (mapping : Mapping) : List (Scalar × Value) :=
  List.ofFn fun place => (mapping.keys.list.get place, mapping.values place)

/-- The mapping with some entries. -/
def ofEntries (entries : List (Scalar × Value))
    (distinct : (entries.map Prod.fst).Pairwise
      fun a b => a.isSame b = false) : Mapping where
  keys := ⟨entries.map Prod.fst, distinct⟩
  values place := (entries.get (place.cast (List.length_map Prod.fst))).2

/-- The mapping without entries. -/
def empty : Mapping := .ofEntries [] .nil

instance : EmptyCollection Mapping := ⟨empty⟩

/-- A table as a mapping whose keys are texts. -/
def ofTable (table : Table Value) : Mapping :=
  .ofEntries (table.entries.map fun entry => (.text entry.1, entry.2)) (by
    rw [List.map_map, List.pairwise_map]
    exact (List.pairwise_map.mp table.distinct).imp beq_eq_false_iff_ne.mpr)

/-- An entry by the text that its key is, if the key is a text. -/
def namedEntry? (entry : Scalar × Value) : Option (String × Value) :=
  entry.1.text?.map fun name => (name, entry.2)

/-- The table of the entries whose keys are texts. -/
def named (mapping : Mapping) : Table Value :=
  .ofList (mapping.entries.filterMap namedEntry?)

end Mapping

namespace Value

/-- Nothing. -/
@[match_pattern] abbrev null : Value := scalar .null

/-- A truth value. -/
@[match_pattern] abbrev bool (b : Bool) : Value := scalar (.bool b)

/-- An integer. -/
@[match_pattern] abbrev int (n : Int) : Value := scalar (.int n)

/-- A binary fraction. -/
@[match_pattern] abbrev float (x : Float) : Value := scalar (.float x)

/-- A text. -/
@[match_pattern] abbrev text (s : String) : Value := scalar (.text s)

/-- A moment in time. -/
@[match_pattern] abbrev moment (m : Moment) : Value := scalar (.moment m)

/-- A mapping as a value. -/
def ofMapping (mapping : Mapping) : Value := map mapping.keys mapping.values

/-- The mapping that a value is. -/
def mapping? : Value → Option Mapping
  | map keys values => some ⟨keys, values⟩
  | _ => none

/-- A table as a mapping. -/
def ofTable (table : Table Value) : Value := ofMapping (.ofTable table)

/-- A table of texts as a mapping. -/
def ofTexts (table : Table String) : Value :=
  ofTable (table.mapValues fun _ content => text content)

/-- The name of the kind of a value. -/
def kind : Value → String
  | scalar content => content.kind
  | list _ => "list"
  | map .. => "dict"

/-- Whether a value counts as present: zeros and what is empty do not. -/
def isPresent : Value → Bool
  | scalar content => content.isPresent
  | list members => !members.isEmpty
  | map keys _ => !keys.list.isEmpty

mutual

/-- A value as messages show it. -/
def render : Value → String
  | scalar content => content.render
  | list members => "[" ++ ", ".intercalate (renderMembers members) ++ "]"
  | map keys values =>
      let entries := List.ofFn fun place =>
        (keys.list.get place).render ++ ": " ++ (values place).render
      "\x7b" ++ ", ".intercalate entries ++ "\x7d"

/-- The members of a list as messages show them. -/
def renderMembers : List Value → List String
  | [] => []
  | member :: rest => member.render :: renderMembers rest

end

/-- A value in running text: texts stand as they are. -/
def inText : Value → String
  | scalar content => content.inText
  | value => value.render

end Value
end PathRouter
