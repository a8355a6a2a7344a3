import PathRouter.Compiler
import PathRouter.Proofs.Pattern.Tokens
import PathRouter.Proofs.Regex.Enclosing
import PathRouter.Proofs.Regex.Naming

/-!
# The parts of compiled patterns

Whatever the constraints of its tokens are, as long as each of them is an
expression by itself, the expression of a pattern that compiles consists of the
literal texts, of one group for each token, and of an option for each optional
group.  The constraint of a token captures nothing but groups behind that of the
token and before the next one.

## Main definitions

* `Pattern.Assembles`: items and groups that belong to a pattern.
* `Pattern.Spells`: a text whose reading adds such items and groups.

## Main statements

* `Compiler.spells_sourceOf`: the text that the compiler gives to a pattern.
* `Compiler.exists_assembles_of_compile`: a pattern that compiles is assembled
  from its parts.
-/

namespace PathRouter

open Regex

/-- Items and names of groups are those of a pattern behind `count` groups,
where each token is a group around some expression. -/
inductive Pattern.Assembles :
    Pattern → (count : Nat) → List Regex → List (Option String) → Prop
  | nil {count : Nat} : Assembles .nil count [] []
  | literal
      {rest : Pattern}
      {count : Nat}
      {items : List Regex}
      {names : List (Option String)}
      (text : String)
      (behind : Assembles rest count items names) :
      Assembles (.literal text rest) count
        (text.toList.map (fun c => .one (.exactly c.toNat)) ++ items) names
  | token
      {rest : Pattern}
      {count : Nat}
      {body : Regex}
      {items : List Regex}
      {own names : List (Option String)}
      (ref : TokenRef)
      (recorded : Between (count + 1) (count + 1 + own.length) body.recorded)
      (behind : Assembles rest (count + 1 + own.length) items names) :
      Assembles (.token ref rest) count (.capture (count + 1) body :: items)
        (some ref.name :: own ++ names)
  | group
      {inner rest : Pattern}
      {count : Nat}
      {items more : List Regex}
      {names others : List (Option String)}
      (inside : Assembles inner count items names)
      (behind : Assembles rest (count + names.length) more others) :
      Assembles (.group inner rest) count
        (.loop .greedy 0 (some 1) (.group (Regex.sequence items)) :: more)
        (names ++ others)

namespace Pattern

variable [CharacterNames]

/-- A text is a row of symbols, and whoever reads them all adds items and groups
that belong to the pattern. -/
def Spells (tree : Pattern) (text : String) : Prop :=
  ∃ row, Symbol.Spells text.toList row ∧
    ∀ reader after : Reader, reader.IsQuiet →
      reader.readRow row = .ok after →
        ∃ items names, tree.Assembles reader.groups.size items names ∧
          reader.Grows items names after

namespace Spells

variable
  {inner rest : Pattern}
  {inside behind : String}

theorem nil : Pattern.nil.Spells "" := by
  refine ⟨[], ⟨rfl, List.not_mem_nil⟩, fun reader after quiet wasRead => ?_⟩
  cases wasRead
  exact ⟨[], [], .nil, .refl quiet⟩

theorem literal
    (text : String)
    (spells : rest.Spells behind) :
    (Pattern.literal text rest).Spells
      (String.ofList (literalChars text.toList) ++ behind) := by
  obtain ⟨row, isRow, reads⟩ := spells
  refine ⟨text.toList.map literalSymbol ++ row, ?_, ?_⟩
  · rw [String.toList_append, String.toList_ofList]
    exact (Symbol.spells_literalChars text.toList).append isRow
  · intro reader after quiet wasRead
    obtain ⟨middle, isLiteral, adds⟩ :=
      Reader.readRow_literal quiet text.toList
    rw [Reader.readRow_append, isLiteral, ok_bind] at wasRead
    obtain ⟨items, names, assembles, grows⟩ :=
      reads middle after (adds.quiet quiet) wasRead
    rw [adds.size] at assembles
    exact ⟨_, _, .literal text assembles, adds.toGrows.trans grows⟩

theorem token
    {ref : TokenRef}
    {constraint : String}
    {last : Reader}
    (isName : IsTokenName ref.name)
    (alone : ReadsTo constraint last)
    (spells : rest.Spells behind) :
    (Pattern.token ref rest).Spells
      ("(?P<" ++ ref.name ++ ">" ++ constraint ++ ")" ++ behind) := by
  obtain ⟨row, isRow, reads⟩ := spells
  have whole := (Symbol.spells_named (isName.not_mem (by decide))
    alone.complete).append isRow
  rw [← String.toList_append] at whole
  refine ⟨_, whole, fun reader after quiet wasRead => ?_⟩
  rw [Reader.readRow_append] at wasRead
  obtain ⟨middle, isGroup, wasReadRest⟩ := exists_of_bind wasRead
  obtain ⟨body, own, recorded, begun⟩ := alone.grows quiet
    (isName.not_mem (by decide)) isName.isIdentifier isGroup
  rw [String.ofList_toList] at begun
  obtain ⟨items, names, assembles, grows⟩ :=
    reads middle after (begun.quiet quiet) wasReadRest
  rw [begun.size, List.length_cons, Nat.add_comm own.length,
    ← Nat.add_assoc] at assembles
  exact ⟨_, _, .token ref recorded assembles, begun.trans grows⟩

theorem group
    (spells : inner.Spells inside)
    (spellsRest : rest.Spells behind) :
    (Pattern.group inner rest).Spells ("(?:" ++ inside ++ ")?" ++ behind) := by
  obtain ⟨row, isRow, reads⟩ := spells
  obtain ⟨other, isOther, readsRest⟩ := spellsRest
  have whole := (Symbol.spells_optional isRow).append isOther
  rw [← String.toList_append] at whole
  refine ⟨_, whole, fun reader after quiet wasRead => ?_⟩
  let before : Reader :=
    { reader with position := reader.position + 3, mode := .ready }
  have quietBefore : before.IsQuiet := ⟨.inl rfl, quiet.flags⟩
  rw [List.append_assoc, Reader.readRow_append,
    Reader.readRow_plainOpening quiet, ok_bind, List.append_assoc,
    Reader.readRow_append] at wasRead
  obtain ⟨middle, wasReadInner, closing⟩ := exists_of_bind wasRead
  obtain ⟨items, names, assembles, grown⟩ := reads _ middle
    (Reader.quiet_openFrame quietBefore reader.position) wasReadInner
  obtain ⟨behindOption, ended, added, _⟩ :=
    Reader.readRow_optionEnd quietBefore _ grown
  rw [Reader.readRow_append, ended, ok_bind] at closing
  have option : reader.Grows
      [.loop .greedy 0 (some 1) (.group (Regex.sequence items))] names
      behindOption :=
    ⟨added.mode, added.top, added.below, added.groupNames⟩
  obtain ⟨more, others, assemblesRest, grows⟩ :=
    readsRest behindOption after (option.quiet quiet) closing
  rw [option.size] at assemblesRest
  exact ⟨_, _, .group assembles assemblesRest, option.trans grows⟩

/-- A reader of the whole text, between anchors, ends up with the items and the
groups of the pattern. -/
theorem anchored
    {tree : Pattern}
    {text : String}
    {last : Reader}
    (spells : tree.Spells text)
    (reads : ReadsTo ("^" ++ text ++ "$") last) :
    ∃ items,
      tree.Assembles 0 items last.groupNames ∧
      last.top.body = Regex.sequence
        (.assert .textStart :: (items ++ [.assert .lastLineEnd])) := by
  obtain ⟨row, isRow, readsRow⟩ := spells
  obtain ⟨before, wasRead, settled⟩ := reads.reads
  have whole : Symbol.Spells ("^" ++ text ++ "$").toList
      ([.plain '^'] ++ row ++ [.plain '$']) := by
    have caret : Symbol.Spells "^".toList [.plain '^'] := ⟨rfl, by simp⟩
    have dollar : Symbol.Spells "$".toList [.plain '$'] := ⟨rfl, by simp⟩
    rw [String.toList_append, String.toList_append]
    exact (caret.append isRow).append dollar
  have quiet : ({} : Reader).IsQuiet := ⟨.inl rfl, rfl⟩
  obtain ⟨started, caret, begun⟩ := Reader.step_caret quiet
  rw [whole.reads, Reader.readRow_append, Reader.readRow_append,
    Reader.readRow_cons, caret] at wasRead
  obtain ⟨middle, wasReadRow, ending⟩ := exists_of_bind wasRead
  obtain ⟨items, names, assembles, grows⟩ :=
    readsRow started middle (begun.quiet quiet) wasReadRow
  rw [begun.size] at assembles
  obtain ⟨ended, dollar, added⟩ :=
    Reader.step_dollar (grows.quiet (begun.quiet quiet))
  rw [Reader.readRow_cons, dollar] at ending
  obtain rfl : ended = before := Except.ok.inj ending
  have atEnd : ended.settle none = .ok { ended with mode := .ready } :=
    Reader.settle_calm added.mode ⟨nofun, nofun⟩
  rw [atEnd] at settled
  cases settled
  have all := (begun.toGrows.trans grows).trans added.toGrows
  have groupNames : ended.groupNames = names := by
    rw [all.groupNames, List.append_nil]
    rfl
  refine ⟨items, ?_, ?_⟩
  · change tree.Assembles 0 items ended.groupNames
    rw [groupNames]
    exact assembles
  · change ended.top.body = _
    rw [all.top]
    change Regex.sequence (List.reverse (List.reverse _ ++ [])) = _
    rw [List.append_nil, List.reverse_reverse, List.append_assoc]
    rfl

end Spells
end Pattern

namespace Compiler

variable
  {compiler : Compiler}
  {tree : Pattern}
  {text : String}

/-- The text of the expression is that of the pattern between two anchors. -/
theorem exists_sourceOf_of_source
    {pattern source : String}
    (parsed : parsePattern pattern = .ok tree)
    (rendered : compiler.source pattern = .ok source) :
    ∃ text, compiler.sourceOf tree = .ok text ∧
      source = "^" ++ text ++ "$" := by
  rw [Compiler.source, parsed, ok_bind] at rendered
  cases found : compiler.sourceOf tree with
  | error ref =>
      rw [found] at rendered
      cases rendered
  | ok text =>
      rw [found] at rendered
      exact ⟨text, rfl, (Except.ok.inj rendered).symm⟩

variable [CharacterNames]

/-- The text that the compiler gives to a pattern spells it, as long as the
constraints are expressions by themselves. -/
theorem spells_sourceOf
    (rendered : compiler.sourceOf tree = .ok text)
    (named : ∀ ref ∈ tree.tokens, IsTokenName ref.name)
    (readable : ∀ ref ∈ tree.tokens, ∀ constraint,
      compiler.constraint? ref = some constraint →
        ∃ last, ReadsTo constraint last) :
    tree.Spells text := by
  induction tree generalizing text with
  | nil =>
      cases rendered
      exact .nil
  | literal content rest inductionHypothesis =>
      obtain ⟨behind, renderedRest, equal⟩ := exists_of_bind rendered
      cases equal
      exact (inductionHypothesis renderedRest named readable).literal content
  | token ref rest inductionHypothesis =>
      rw [sourceOf] at rendered
      cases found : compiler.constraint? ref with
      | none =>
          rw [found] at rendered
          cases rendered
      | some constraint =>
          rw [found] at rendered
          obtain ⟨behind, renderedRest, equal⟩ := exists_of_bind rendered
          cases equal
          obtain ⟨isName, restNamed⟩ := List.forall_mem_cons.mp named
          obtain ⟨refReadable, restReadable⟩ :=
            List.forall_mem_cons.mp readable
          obtain ⟨last, alone⟩ := refReadable constraint found
          exact .token isName alone
            (inductionHypothesis renderedRest restNamed restReadable)
  | group inner rest innerHypothesis restHypothesis =>
      obtain ⟨inside, renderedInner, remaining⟩ := exists_of_bind rendered
      obtain ⟨behind, renderedRest, equal⟩ := exists_of_bind remaining
      cases equal
      obtain ⟨innerNamed, restNamed⟩ := List.forall_mem_append.mp named
      obtain ⟨innerReadable, restReadable⟩ :=
        List.forall_mem_append.mp readable
      exact .group (innerHypothesis renderedInner innerNamed innerReadable)
        (restHypothesis renderedRest restNamed restReadable)

/-- If a pattern compiles and the constraints of its tokens are expressions,
then the expression is assembled from the parts of the pattern, between two
anchors. -/
theorem exists_assembles_of_compile
    {pattern : String}
    {program : Program}
    (parsed : parsePattern pattern = .ok tree)
    (constraints : ∀ ref ∈ tree.tokens, ∀ constraint,
      compiler.constraint? ref = some constraint →
        ∃ alone, Regex.parse constraint = .ok alone)
    (compiled : compiler.compile pattern = .ok program) :
    ∃ items names,
      tree.Assembles 0 items names ∧
      program.body = Regex.sequence
        (.assert .textStart :: (items ++ [.assert .lastLineEnd])) ∧
      program.names = namedIndices names := by
  obtain ⟨source, isSource, read⟩ := exists_of_bind compiled
  obtain ⟨text, rendered, rfl⟩ := exists_sourceOf_of_source parsed isSource
  obtain ⟨last, reads, rfl⟩ :=
    exists_readsTo_of_parse (mapError_eq_ok_iff.mp read)
  have spells := spells_sourceOf rendered
    (fun ref => Pattern.isTokenName_of_parse (mapError_eq_ok_iff.mp parsed))
    fun ref member constraint found => by
      obtain ⟨alone, isAlone⟩ := constraints ref member constraint found
      obtain ⟨own, readsAlone, _⟩ := exists_readsTo_of_parse isAlone
      exact ⟨own, readsAlone⟩
  obtain ⟨items, assembles, body⟩ := spells.anchored reads
  exact ⟨items, last.groupNames, assembles, body, last.names_eq⟩

end Compiler
end PathRouter
