import PathRouter.Proofs.Regex.Assembly
import PathRouter.Proofs.Regex.Naming

/-!
# What parts of a text contribute

A part of the text of an expression contributes items and groups wherever it
stands between other items.  Parts that contribute are put together to texts
that contribute, so that an expression is known from the parts of its text.

## Main definitions

* `Regex.Contributes`: what a part of a text adds.

## Main statements

* `Regex.Contributes.append`: two parts in a row.
* `Regex.Contributes.literal`, `Regex.Contributes.optional` and
  `Regex.Contributes.named`: the parts.
* `Regex.Contributes.parse_eq_ok`: a text that contributes is an expression.
-/

namespace PathRouter
namespace Regex

namespace HaveDistinctNames

variable {first second : List (Option String)}

theorem not_mem
    {name : String}
    (distinct : HaveDistinctNames (first ++ second))
    (member : some name ∈ second) :
    some name ∉ first := by
  rw [HaveDistinctNames, List.filterMap_append, List.nodup_append] at distinct
  intro other
  exact distinct.2.2 name (List.mem_filterMap.mpr ⟨some name, other, rfl⟩) name
    (List.mem_filterMap.mpr ⟨some name, member, rfl⟩) rfl

theorem left
    (distinct : HaveDistinctNames (first ++ second)) :
    HaveDistinctNames first := by
  rw [HaveDistinctNames, List.filterMap_append] at distinct
  exact (List.nodup_append.mp distinct).1

end HaveDistinctNames

/-- Everything that is looked for behind a place has a fixed length if it has
in another expression. -/
theorem checkWidthsBehind_of_subset
    {body : Regex}
    (among : ∀ width ∈ body.widthsBehind, ∃ other : Regex,
      width ∈ other.widthsBehind ∧ Reader.checkWidthsBehind other = .ok ()) :
    Reader.checkWidthsBehind body = .ok () := by
  refine forM_eq_ok_iff.mpr fun width member => ?_
  obtain ⟨other, present, checked⟩ := among width member
  exact forM_eq_ok_iff.mp checked width present

variable [CharacterNames]

/-- Wherever a text stands between other items, it is read, and adds groups
with the given names and the items that depend on the number of groups before
it. -/
def Contributes (text : String) (names : List (Option String))
    (items : (count : Nat) → List Regex) : Prop :=
  ∃ row, Symbol.Spells text.toList row ∧
    ∀ reader : Reader, reader.IsCalm →
      HaveDistinctNames (reader.groupNames ++ names) →
        ∃ after, reader.readRow row = .ok after ∧
          reader.Adds (items reader.groups.size) names after

namespace Contributes

theorem empty : Contributes "" [] fun _ => [] :=
  ⟨[], ⟨rfl, nofun⟩, fun reader calm _ =>
    ⟨reader, rfl, .refl calm.toIsQuiet⟩⟩

theorem append
    {first second : String}
    {names more : List (Option String)}
    {items others : Nat → List Regex}
    (begun : Contributes first names items)
    (ended : Contributes second more others) :
    Contributes (first ++ second) (names ++ more) fun count =>
      items count ++ others (count + names.length) := by
  obtain ⟨row, spells, reads⟩ := begun
  obtain ⟨other, spellsToo, readsToo⟩ := ended
  refine ⟨row ++ other, ?_, fun reader calm distinct => ?_⟩
  · rw [String.toList_append]
    exact spells.append spellsToo
  · rw [← List.append_assoc] at distinct
    obtain ⟨middle, wasRead, adds⟩ := reads reader calm distinct.left
    have middleDistinct : HaveDistinctNames (middle.groupNames ++ more) := by
      rw [adds.groupNames]
      exact distinct
    obtain ⟨after, wasReadToo, addsToo⟩ :=
      readsToo middle (adds.calm calm) middleDistinct
    rw [adds.size] at addsToo
    refine ⟨after, ?_, adds.trans addsToo⟩
    rw [Reader.readRow_append, wasRead, ok_bind, wasReadToo]

theorem literal (text : String) :
    Contributes (String.ofList (literalChars text.toList)) [] fun _ =>
      text.toList.map fun c => .one (.exactly c.toNat) := by
  refine ⟨text.toList.map literalSymbol, ?_, fun reader calm _ =>
    reader.readRow_literal calm.toIsQuiet text.toList⟩
  rw [String.toList_ofList]
  exact Symbol.spells_literalChars text.toList

theorem optional
    {inside : String}
    {names : List (Option String)}
    {items : Nat → List Regex}
    (inner : Contributes inside names items) :
    Contributes ("(?:" ++ inside ++ ")?") names fun count =>
      [.loop .greedy 0 (some 1) (.group (sequence (items count)))] := by
  obtain ⟨row, spells, reads⟩ := inner
  refine ⟨_, Symbol.spells_optional spells, fun reader calm distinct => ?_⟩
  refine Reader.readRow_optional calm fun opened openedCalm same => ?_
  have size : opened.groups.size = reader.groups.size := by
    rw [← Reader.length_groupNames, same, Reader.length_groupNames]
  rw [← size]
  exact reads opened openedCalm (same ▸ distinct)

theorem named
    {name constraint : String}
    {last : Reader}
    (closed : '>' ∉ name.toList)
    (plainly : '\\' ∉ name.toList)
    (identifier : Text.isIdentifier (name.toList.map Char.toNat) = true)
    (splices : Splices constraint last) :
    Contributes ("(?P<" ++ name ++ ">" ++ constraint ++ ")")
      (some name :: last.groupNames) fun count =>
        [.capture (count + 1) (last.top.body.shift (count + 1))] := by
  refine ⟨_, Symbol.spells_named plainly splices.reads.complete,
    fun reader calm distinct => ?_⟩
  have apart : HaveDistinctNames
      ((reader.groupNames ++ [some name]) ++ last.groupNames) := by
    rw [List.append_assoc]
    exact distinct
  have new := distinct.not_mem List.mem_cons_self
  have read := @Reader.readRow_constraint reader _ name.toList constraint last
    calm closed identifier
  rw [String.ofList_toList] at read
  exact read new splices fun other member => apart.not_mem member

/-- A character that adds an anchor contributes it. -/
theorem anchor
    {c : Char}
    {here : Anchor}
    (plainly : '\\' ≠ c)
    (adds : ∀ reader : Reader, reader.IsQuiet →
      ∃ after, reader.step (.plain c) false = .ok after ∧
        reader.Adds [.assert here] [] after) :
    Contributes (String.ofList [c]) [] fun _ => [.assert here] := by
  refine ⟨[c].map Symbol.plain, ?_, fun reader calm _ => ?_⟩
  · rw [String.toList_ofList]
    exact Symbol.spells_plain fun member =>
      plainly (List.mem_singleton.mp member)
  · obtain ⟨after, stepped, added⟩ := adds reader calm.toIsQuiet
    rw [List.map_singleton, Reader.readRow_cons, stepped, ok_bind]
    exact ⟨after, rfl, added⟩

theorem caret : Contributes "^" [] fun _ => [.assert .textStart] :=
  anchor (by decide) fun _ => Reader.step_caret

theorem dollar : Contributes "$" [] fun _ => [.assert .lastLineEnd] :=
  anchor (by decide) fun _ => Reader.step_dollar

/-- A text that contributes is an expression by itself, if what it looks for
behind a place has a fixed length. -/
theorem parse_eq_ok
    {text : String}
    {names : List (Option String)}
    {items : Nat → List Regex}
    (contributes : Contributes text names items)
    (distinct : HaveDistinctNames names)
    (widths : Reader.checkWidthsBehind (sequence (items 0)) = .ok ()) :
    parse text = .ok
      { body := sequence (items 0)
        groupCount := names.length
        names := namedIndices names } := by
  obtain ⟨row, spells, reads⟩ := contributes
  have calm : ({} : Reader).IsCalm := ⟨⟨.inl rfl, rfl⟩, rfl⟩
  obtain ⟨after, wasRead, adds⟩ := reads {} calm distinct
  have complete : .dangling ∉ Symbol.ofChars text.toList :=
    spells.reads ▸ spells.complete
  have settled : after.settle none = .ok { after with mode := .ready } :=
    Reader.settle_calm adds.mode ⟨nofun, nofun⟩
  have count : after.groups.size = names.length := by
    rw [adds.size]
    exact Nat.zero_add _
  have named : after.names = namedIndices names := by
    have groupNames : after.groupNames = names := adds.groupNames
    rw [after.names_eq, groupNames]
  have body : after.top.body = sequence (items 0) := by
    rw [adds.top]
    change sequence ((items 0).reverse ++ []).reverse = _
    rw [List.append_nil, List.reverse_reverse]
  have ended : Reader.checkEnd { after with mode := .ready } = .ok () := by
    rw [Reader.checkEnd]
    exact if_pos (List.isEmpty_iff.mpr adds.below)
  have globalFlags : after.globalFlags = [] := adds.globalFlags
  have conditions : after.conditions = [] := adds.conditions
  rw [parse, Reader.readAll_eq_readRow complete, spells.reads, wasRead,
    ok_bind, Reader.finish, settled, ok_bind, ended, ok_bind]
  dsimp only
  rw [globalFlags, conditions, body, ← count, ← named]
  change (Reader.checkWidthsBehind (sequence (items 0)) >>= fun _ => _) = _
  rw [widths]
  rfl

end Contributes
end Regex
end PathRouter
