import PathRouter.Proofs.Regex.Splicing
import PathRouter.Proofs.Table.Writing

/-!
# Names of groups

The named groups of an expression come in the order of their indices, and no
two of them share a name.  What a match tells about them is therefore one
entry for each.

## Main definitions

* `Regex.namedIndices`: the indices of the groups that have names.
* `Regex.Program.IsNamed`: the named groups of a program are in order and apart.

## Main statements

* `Regex.isNamed_of_parse`: every text that is read stands for such a program.
* `Regex.Program.IsNamed.entries_of_fullMatch?`: what a match tells.
-/

namespace PathRouter
namespace Regex

/-- The indices of the groups that have names. -/
def namedIndices (names : List (Option String)) : List (String × Nat) :=
  names.zipIdx.filterMap fun (name?, index) => name?.map (·, index + 1)

theorem Reader.names_eq (reader : Reader) :
    reader.names = namedIndices reader.groupNames := by
  rw [names, namedIndices, groupNames, List.zipIdx_map, List.filterMap_map]
  rfl

theorem map_fst_namedIndices (names : List (Option String)) :
    (namedIndices names).map Prod.fst = names.filterMap id := by
  have fst :
      (fun entry : Option String × Nat =>
        (entry.1.map fun name => (name, entry.2 + 1)).map Prod.fst) =
          id ∘ Prod.fst := by
    funext entry
    obtain ⟨_ | name, index⟩ := entry <;> rfl
  rw [namedIndices, List.map_filterMap, fst, ← List.filterMap_map,
    List.zipIdx_map_fst]

theorem pairwise_namedIndices (names : List (Option String)) :
    (namedIndices names).Pairwise fun first second =>
      first.2 < second.2 := by
  have ascending : names.zipIdx.Pairwise fun first second =>
      first.2 < second.2 := by
    apply List.pairwise_map.mp
    rw [List.zipIdx_map_snd]
    exact List.pairwise_lt_range'
  apply ascending.filterMap
  rintro ⟨name?, first⟩ ⟨other?, second⟩ before named isNamed other isOther
  obtain ⟨name, _, rfl⟩ := Option.map_eq_some_iff.mp isNamed
  obtain ⟨name, _, rfl⟩ := Option.map_eq_some_iff.mp isOther
  exact Nat.add_lt_add_right before 1

/-- Groups are counted from one on. -/
theorem bounds_of_mem_namedIndices
    {names : List (Option String)}
    {name : String}
    {index : Nat}
    (member : (name, index) ∈ namedIndices names) :
    0 < index ∧ index ≤ names.length := by
  obtain ⟨⟨name?, place⟩, listed, isEntry⟩ := List.mem_filterMap.mp member
  obtain ⟨_, _, equal⟩ := Option.map_eq_some_iff.mp isEntry
  cases equal
  have within := (List.mem_zipIdx listed).2.1
  omega

theorem exists_mem_namedIndices
    {names : List (Option String)}
    {name : String}
    (member : some name ∈ names) :
    ∃ index, (name, index) ∈ namedIndices names := by
  have among : name ∈ (namedIndices names).map Prod.fst := by
    rw [map_fst_namedIndices]
    exact List.mem_filterMap.mpr ⟨some name, member, rfl⟩
  obtain ⟨⟨_, index⟩, listed, rfl⟩ := List.mem_map.mp among
  exact ⟨index, listed⟩

theorem namedIndices_append (first second : List (Option String)) :
    namedIndices (first ++ second) =
      namedIndices first ++ (namedIndices second).map fun (name, index) =>
        (name, first.length + index) := by
  have behind : second.zipIdx first.length =
      second.zipIdx.map fun (name?, index) => (name?, first.length + index) :=
    List.zipIdx_eq_map_add
  rw [namedIndices, namedIndices, namedIndices, List.zipIdx_append,
    List.filterMap_append, Nat.zero_add, behind, List.filterMap_map,
    List.map_filterMap]
  congr 2
  funext entry
  obtain ⟨_ | name, index⟩ := entry <;> rfl

namespace Program

/-- The named groups come in the order of their indices, and no two of them
share a name. -/
structure IsNamed (program : Program) : Prop where
  /-- No two groups share a name. -/
  distinct : (program.names.map Prod.fst).Nodup
  /-- An earlier group has a smaller index. -/
  ascending : program.names.Pairwise fun first second => first.2 < second.2

end Program

theorem ReadsTo.haveDistinctNames
    [CharacterNames]
    {source : String}
    {last : Reader}
    (reads : ReadsTo source last) :
    HaveDistinctNames last.groupNames := by
  obtain ⟨before, wasRead, settled⟩ := reads.reads
  have grown := (Reader.extends_readRow wasRead).trans
    (Reader.extends_settle settled).1
  exact grown.distinct List.nodup_nil

/-- A text that is read stands for a program whose named groups are in order
and apart. -/
theorem isNamed_of_parse
    [CharacterNames]
    {source : String}
    {program : Program}
    (parsed : parse source = .ok program) :
    program.IsNamed := by
  obtain ⟨last, reads, rfl⟩ := exists_readsTo_of_parse parsed
  constructor
  · change (last.names.map Prod.fst).Nodup
    rw [last.names_eq, map_fst_namedIndices]
    exact reads.haveDistinctNames
  · change last.names.Pairwise _
    rw [last.names_eq]
    exact pairwise_namedIndices _

namespace Program

variable {program : Program} {path : String} {captures : Captures}

/-- A match of a whole path tells for each named group what it has read. -/
theorem IsNamed.entries_of_fullMatch?
    (named : program.IsNamed)
    (matched : program.fullMatch? path = some captures) :
    ∃ state,
      program.body.fullMatch? path.toList.toArray = some state ∧
      captures.entries = program.names.map fun (name, index) =>
        (name, captured path.toList.toArray state index) := by
  obtain ⟨state, found, rfl⟩ := Option.map_eq_some_iff.mp matched
  refine ⟨state, found, Table.entries_ofList ?_⟩
  rw [List.map_map]
  exact named.distinct

end Program
end Regex
end PathRouter
