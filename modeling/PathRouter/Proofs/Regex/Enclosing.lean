import PathRouter.Proofs.Regex.Assembly
import PathRouter.Proofs.Regex.Mirroring

/-!
# Brackets around expressions

A named group around a text that is an expression by itself adds one item, the
group with that name, however the text refers to groups and names.  The bracket
behind the text closes the group, and the text captures only groups that it has
opened itself.

## Main statements

* `Regex.ReadsTo.leaves`: the bracket behind a text closes the bracket before
  it.
* `Regex.ReadsTo.grows`: a named group around a text is one item.
-/

namespace PathRouter
namespace Regex

/-- A reader that has just opened a group is where a reader is that has read
nothing. -/
theorem Reader.mirrors_openGroup
    {reader : Reader}
    (quiet : reader.IsQuiet)
    (start : Nat)
    (name? : Option String) :
    (reader.openGroup start name?).Mirrors {}
      (reader.openGroup start name?) where
  position := rfl
  mode := rfl
  comment := nofun
  grown := Nat.le_refl _
  surrounded := List.cons_ne_nil _ _
  nested := by
    refine .bottom rfl rfl ?_ .nil
    change reader.top.flags.change [] [] = _
    rw [quiet.flags]
    rfl

namespace ReadsTo

variable
  [CharacterNames]
  {source : String}
  {last reader after : Reader}
  (reads : ReadsTo source last)

include reads

/-- The bracket behind a text closes the bracket before it.  In between, the
text has opened groups, and captures only these. -/
theorem leaves
    {start : Nat}
    {name? : Option String}
    (quiet : reader.IsQuiet)
    (wasRead : (reader.openGroup start name?).readRow
      (Symbol.ofChars source.toList ++ [.plain ')']) = .ok after) :
    ∃ settled,
      (reader.openGroup start name?).Extends settled ∧
      after = settled.leave reader.top reader.below ∧
      settled.top.opener = .capture (reader.groups.size + 1) ∧
      Between (reader.groups.size + 1) settled.groups.size
        settled.top.body.recorded := by
  let opened := reader.openGroup start name?
  have size : opened.groups.size = reader.groups.size + 1 :=
    Array.size_push ..
  rw [Reader.readRow_append] at wasRead
  obtain ⟨ended, wasReadInside, closing⟩ := exists_of_bind wasRead
  obtain ⟨closed, stepped, isAfter⟩ := exists_of_bind closing
  cases isAfter
  obtain ⟨settled, settledInside, leaving⟩ := exists_of_bind stepped
  obtain ⟨before, wasReadAlone, settledAlone⟩ := reads.reads
  obtain ⟨sameSettled, atEnd⟩ :=
    Reader.settle_closing settledAlone reads.ended
  have mirrors : opened.Mirrors last settled :=
    ((Reader.mirrors_openGroup quiet start name?).readRow _ before
      wasReadAlone ended wasReadInside).settle _ last sameSettled settled
        settledInside
  have grown := (Reader.extends_readRow wasReadInside).trans
    (Reader.extends_settle settledInside).1
  have nested := mirrors.nested
  have flags : opened.top.flags = {} := by
    change reader.top.flags.change [] [] = _
    rw [quiet.flags]
    rfl
  generalize around : settled.below = others at nested
  rw [Reader.below_eq_nil_of_checkEnd reads.ended atEnd] at nested
  cases nested with
  | bottom opener outerFlags _ recorded =>
      have ready : settled.mode = .ready := by
        rcases atEnd with ready | comment
        · rw [mirrors.mode, ready]
          rfl
        · have isComment : settled.mode = .lineComment := by
            rw [mirrors.mode, comment]
            rfl
          have verbose := mirrors.comment isComment
          rw [outerFlags, flags] at verbose
          cases verbose
      refine ⟨settled, grown, ?_, ?_, ?_⟩
      · rw [Reader.read_closing ready around] at leaving
        exact (Except.ok.inj leaving).symm
      · rw [opener]
        exact congrArg Opener.capture size
      · rw [← size]
        exact recorded.of_subset settled.top.recorded_body_subset

/-- A named group around a text is one item, and behind the group of the name
come the groups that the text has opened. -/
theorem grows
    {name : List Char}
    (quiet : reader.IsQuiet)
    (inside : '>' ∉ name)
    (identifier : Text.isIdentifier (name.map Char.toNat) = true)
    (wasRead : reader.readRow
      ([.plain '(', .plain '?', .plain 'P', .plain '<'] ++
        (name.map Symbol.plain ++ [.plain '>']) ++
          (Symbol.ofChars source.toList ++ [.plain ')'])) = .ok after) :
    ∃ body own,
      Between (reader.groups.size + 1)
        (reader.groups.size + 1 + own.length) body.recorded ∧
      reader.Grows [.capture (reader.groups.size + 1) body]
        (some (String.ofList name) :: own) after := by
  let before : Reader :=
    { reader with position := reader.position + 4 + name.length + 1 }
  have quietBefore : before.IsQuiet := ⟨quiet.mode, quiet.flags⟩
  rw [Reader.readRow_append] at wasRead
  obtain ⟨opened, opening, behind⟩ := exists_of_bind wasRead
  have new := Reader.new_of_readRow_named quiet inside identifier opening
  rw [Reader.readRow_named quiet inside identifier new] at opening
  cases opening
  obtain ⟨settled, grown, rfl, opener, between⟩ :=
    reads.leaves quietBefore behind
  obtain ⟨own, names⟩ := grown.groups
  have settledNames : settled.groupNames =
      reader.groupNames ++ some (String.ofList name) :: own := by
    rw [← names, Reader.groupNames_openGroup, List.append_assoc]
    rfl
  have size : settled.groups.size = reader.groups.size + 1 + own.length := by
    rw [← Reader.length_groupNames, settledNames, List.length_append,
      Reader.length_groupNames, List.length_cons]
    omega
  refine ⟨settled.top.body, own, size ▸ between, .inl rfl, ?_, rfl, ?_⟩
  · rw [Reader.leave, Reader.closedFrame, opener]
    rfl
  · exact (Reader.groupNames_leaveFrame _).trans settledNames

end ReadsTo
end Regex
end PathRouter
