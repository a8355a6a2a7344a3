import PathRouter.Proofs.Regex.Splicing

/-!
# Plain constraints

A constraint is plain if it is an expression by itself, has no groups, and
turns on no flags for the whole expression.  Without groups there is nothing
that a number could refer to, so that a plain constraint may be spliced.

## Main statements

* `Regex.IsPlain.exists_splices`: plain constraints may be spliced.
-/

namespace PathRouter
namespace Regex

variable [CharacterNames]

/-- The flags that a text turns on for the whole expression. -/
def globalFlags (source : String) : List Flag :=
  let settled := do
    let reader ← ({} : Reader).readAll (Symbol.ofChars source.toList)
    reader.settle none
  match settled with
  | .ok last => last.globalFlags
  | .error _ => []

/-- A constraint that is an expression by itself, without groups and without
flags for the whole expression. -/
def IsPlain (constraint : String) : Prop :=
  ∃ program, parse constraint = .ok program ∧ program.groupCount = 0 ∧
    globalFlags constraint = []

namespace ReadsTo

variable
  {source : String}
  {last : Reader}
  (reads : ReadsTo source last)

include reads

theorem globalFlags_eq : globalFlags source = last.globalFlags := by
  obtain ⟨before, wasRead, settled⟩ := reads.reads
  rw [globalFlags, Reader.readAll_eq_readRow reads.complete, wasRead,
    ok_bind, settled]

/-- Without groups there are no conditions, because none refers to a group
zero. -/
theorem conditions_eq_nil
    (free : last.groups.size = 0) :
    last.conditions = [] := by
  obtain ⟨before, wasRead, settled⟩ := reads.reads
  have grown := (Reader.extends_readRow wasRead).trans
    (Reader.extends_settle settled).1
  refine List.eq_nil_iff_forall_not_mem.mpr fun entry member => ?_
  have positive := grown.positive nofun entry member
  have known := reads.conditions entry member
  omega

/-- Without groups nothing refers to one. -/
theorem splices
    (free : last.groups.size = 0)
    (noFlags : last.globalFlags = []) :
    Splices source last ∧ last.groupNames = [] ∧
      last.top.body.indices = [] := by
  obtain ⟨before, wasRead, settled⟩ := reads.reads
  have numberFree := Reader.numberFree_of_size_eq_zero wasRead settled free
  have conditions := reads.conditions_eq_nil free
  have names : last.groupNames = [] := by
    rw [← List.length_eq_zero_iff, Reader.length_groupNames, free]
  have admits : ({} : Reader).Admits last :=
    ⟨conditions, noFlags, fun _ _ => nofun⟩
  have sound := (reads.inside numberFree admits).1
  refine ⟨⟨reads, numberFree, conditions, noFlags⟩, names, ?_⟩
  refine List.eq_nil_iff_forall_not_mem.mpr fun index member => ?_
  have numbered := sound.top.body index member
  omega

end ReadsTo

/-- Plain constraints may be spliced. -/
theorem IsPlain.exists_splices
    {constraint : String}
    (plain : IsPlain constraint) :
    ∃ last, Splices constraint last ∧ last.groupNames = [] ∧
      last.top.body.indices = [] ∧
      ∃ program, parse constraint = .ok program ∧
        program.body = last.top.body := by
  obtain ⟨program, parsed, groupCount, noFlags⟩ := plain
  obtain ⟨last, reads, equal⟩ := exists_readsTo_of_parse parsed
  rw [equal] at groupCount
  rw [reads.globalFlags_eq] at noFlags
  obtain ⟨splices, names, indices⟩ := reads.splices groupCount noFlags
  exact ⟨last, splices, names, indices, program, parsed, by rw [equal]⟩

end Regex
end PathRouter
