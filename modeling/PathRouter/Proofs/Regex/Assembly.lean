import PathRouter.Proofs.Regex.Splicing
import PathRouter.Regex.Symbol

/-!
# Assembling expressions

Between its items a reader is calm: it is in the middle of nothing but perhaps
the strategy of a repetition.  Each part from which the text of an expression
is assembled takes a calm reader to a calm one and adds known items and known
groups to it.  No part that comes next can be taken for a strategy, because its
first symbol is neither a question mark nor a plus sign.

## Main definitions

* `Reader.IsCalm`: the state of a reader between two items.
* `Reader.Adds`: reading adds items and groups.

## Main statements

* `Reader.readRow_literal`: a literal text adds its characters.
* `Reader.readRow_optional`: brackets and a question mark add an option.
* `Reader.readRow_constraint`: a named group around a text that is an
  expression by itself adds that expression.
-/

namespace PathRouter
namespace Regex
namespace Reader

/-- A reader that is in the middle of nothing and has no flags. -/
structure IsQuiet (reader : Reader) : Prop where
  /-- At most, a strategy may follow. -/
  mode : reader.mode = .ready ∨ reader.mode = .repeated
  /-- No flags are in force. -/
  flags : reader.top.flags = {}

/-- The state of a reader between two items. -/
structure IsCalm (reader : Reader) : Prop extends reader.IsQuiet where
  /-- Nothing is looked for behind a place. -/
  groupsBefore? : reader.groupsBefore? = none

/-- Reading from `before` to `after` adds items to the innermost frame and
groups with the given names. -/
structure Grows (before : Reader) (items : List Regex)
    (names : List (Option String)) (after : Reader) : Prop where
  /-- At most, a strategy may follow. -/
  mode : after.mode = .ready ∨ after.mode = .repeated
  /-- The items are added to the innermost frame. -/
  top : after.top =
    { before.top with items := items.reverse ++ before.top.items }
  /-- The frames around it are the same. -/
  below : after.below = before.below
  /-- The groups are added to the old ones. -/
  groupNames : after.groupNames = before.groupNames ++ names

/-- Reading from `before` to `after` adds items and groups, and nothing
else. -/
structure Adds (before : Reader) (items : List Regex)
    (names : List (Option String)) (after : Reader) : Prop
    extends before.Grows items names after where
  /-- Nothing else is looked for behind a place. -/
  groupsBefore? : after.groupsBefore? = before.groupsBefore?
  /-- Choices refer to the same groups. -/
  conditions : after.conditions = before.conditions
  /-- The same flags hold for the whole expression. -/
  globalFlags : after.globalFlags = before.globalFlags

section Growth

variable
  {before middle after : Reader}
  {items others : List Regex}
  {names more : List (Option String)}

theorem Grows.quiet
    (grows : before.Grows items names after)
    (quiet : before.IsQuiet) :
    after.IsQuiet where
  mode := grows.mode
  flags := by rw [grows.top, quiet.flags]

theorem Grows.refl (quiet : before.IsQuiet) :
    before.Grows [] [] before where
  mode := quiet.mode
  top := rfl
  below := rfl
  groupNames := (List.append_nil _).symm

theorem Grows.trans
    (first : before.Grows items names middle)
    (second : middle.Grows others more after) :
    before.Grows (items ++ others) (names ++ more) after where
  mode := second.mode
  top := by
    rw [second.top, first.top, List.reverse_append, List.append_assoc]
  below := second.below.trans first.below
  groupNames := by
    rw [second.groupNames, first.groupNames, List.append_assoc]

theorem Grows.size
    (grows : before.Grows items names after) :
    after.groups.size = before.groups.size + names.length := by
  rw [← length_groupNames, grows.groupNames, List.length_append,
    length_groupNames]

theorem Adds.calm
    (adds : before.Adds items names after)
    (calm : before.IsCalm) :
    after.IsCalm where
  toIsQuiet := adds.quiet calm.toIsQuiet
  groupsBefore? := adds.groupsBefore?.trans calm.groupsBefore?

theorem Adds.refl (quiet : before.IsQuiet) : before.Adds [] [] before where
  toGrows := .refl quiet
  groupsBefore? := rfl
  conditions := rfl
  globalFlags := rfl

theorem Adds.trans
    (first : before.Adds items names middle)
    (second : middle.Adds others more after) :
    before.Adds (items ++ others) (names ++ more) after where
  toGrows := first.toGrows.trans second.toGrows
  groupsBefore? := second.groupsBefore?.trans first.groupsBefore?
  conditions := second.conditions.trans first.conditions
  globalFlags := second.globalFlags.trans first.globalFlags

end Growth

variable {reader : Reader}

/-! ## Opening and closing groups -/

theorem quiet_openFrame
    (quiet : reader.IsQuiet)
    (start : Nat) :
    (reader.openFrame start .plain [] []).IsQuiet := by
  refine ⟨.inl rfl, ?_⟩
  change reader.top.flags.change [] [] = _
  rw [quiet.flags]
  rfl

/-- What has just opened a group embeds a reader that has read nothing. -/
theorem embed_openGroup
    (calm : reader.IsCalm)
    (start : Nat)
    (name? : Option String) :
    (reader.openGroup start name?).embed {} = reader.openGroup start name? := by
  have flags : reader.top.flags.change [] [] = {} := by
    rw [calm.flags]
    rfl
  rcases reader with ⟨position, mode, top, below, groups, groupsBefore?,
    conditions, globalFlags⟩
  cases calm.groupsBefore?
  rw [embed, openGroup, openFrame]
  dsimp only
  rw [flags, Array.append_empty]
  rfl

/-- The bottom frame of a spliced reader is closed as the group that surrounds
it. -/
theorem closedFrame_embed_bottom
    {outer last : Reader}
    (opener : last.top.opener = .whole) :
    (outer.embed last).closedFrame (outer.embed last).top =
      .capture outer.groups.size (last.top.body.shift outer.groups.size) := by
  have body := Frame.body_embed outer last.top
  rw [closedFrame, embed_top, body, Frame.embed, opener]
  rfl

/-- Behind a spliced text that looks for nothing behind a place, nothing is
looked for there either. -/
theorem groupsBefore?_leaveFrame_embed
    {outer last : Reader}
    (alone : last.groupsBefore? = none)
    (frame : Frame) :
    ((outer.embed last).leaveFrame frame).groupsBefore? = none := by
  rcases groupsBefore?_leaveFrame (outer.embed last) frame with
    none | ⟨same, _⟩
  · exact none
  · rw [same, embed, alone]
    rfl

/-! ## Literal texts -/

/-- What is no strategy ends a repetition. -/
theorem settle_calm
    {next? : Option Symbol}
    (mode : reader.mode = .ready ∨ reader.mode = .repeated)
    (noStrategy : next? ≠ some (.plain '?') ∧ next? ≠ some (.plain '+')) :
    reader.settle next? = .ok { reader with mode := .ready } := by
  rw [settle]
  rcases mode with ready | repeated
  · have same : { reader with mode := .ready } = reader := by rw [← ready]
    rw [ready, same]
  · rw [repeated]
    dsimp only
    rw [if_neg (not_or.mpr noStrategy)]

theorem readEscape_special
    {c : Char}
    (special : c ∈ specialChars) :
    reader.readEscape c = .ok (reader.pushLiteral c.toNat) := by
  simp only [specialChars, List.mem_cons, List.not_mem_nil, or_false]
    at special
  rcases special with rfl | rfl | rfl | rfl | rfl | rfl | rfl | rfl | rfl |
    rfl | rfl | rfl | rfl | rfl | rfl | rfl | rfl | rfl | rfl | rfl | rfl |
    rfl | rfl | rfl <;> rfl

theorem readFresh_ordinary
    {c : Char}
    (ordinary : c ∉ specialChars)
    (flags : reader.top.flags = {}) :
    reader.readFresh (.plain c) = .ok (reader.pushLiteral c.toNat) := by
  unfold readFresh
  dsimp only
  rw [flags]
  split
  · cases ‹_›
  · split
    · cases ‹_›
    · split
      case h_12 => rfl
      all_goals exact absurd (by decide) ordinary

variable [CharacterNames]

/-- A character of a literal text adds the test for it. -/
theorem step_literalSymbol
    (quiet : reader.IsQuiet)
    (c : Char) :
    ∃ after, reader.step (literalSymbol c) false = .ok after ∧
      reader.Adds [.one (.exactly c.toNat)] [] after := by
  have fresh : ({ reader with mode := .ready } : Reader).readFresh
      (literalSymbol c) =
        .ok (({ reader with mode := .ready } : Reader).pushLiteral
          c.toNat) := by
    rw [literalSymbol]
    split
    · exact readEscape_special (List.contains_iff_mem.mp ‹_›)
    · refine readFresh_ordinary (fun member => ?_) quiet.flags
      exact absurd (List.contains_iff_mem.mpr member) ‹_›
  have noStrategy : some (literalSymbol c) ≠ some (.plain '?') ∧
      some (literalSymbol c) ≠ some (.plain '+') := by
    rw [literalSymbol]
    split
    · constructor <;> (intro equal; cases equal)
    · rename_i ordinary
      constructor <;> (intro equal; cases equal; exact ordinary rfl)
  rw [step, settle_calm quiet.mode noStrategy, ok_bind]
  change ∃ after, (({ reader with mode := .ready } : Reader).readFresh
    (literalSymbol c) >>= _) = .ok after ∧ _
  rw [fresh]
  refine ⟨_, rfl, ⟨.inl rfl, ?_, rfl, (List.append_nil _).symm⟩, rfl, rfl,
    rfl⟩
  change reader.top.push (reader.top.flags.literal c.toNat) = _
  rw [quiet.flags]
  rfl

/-- A literal text adds its characters. -/
theorem readRow_literal
    (quiet : reader.IsQuiet)
    (text : List Char) :
    ∃ after, reader.readRow (text.map literalSymbol) = .ok after ∧
      reader.Adds (text.map fun c => .one (.exactly c.toNat)) [] after := by
  induction text generalizing reader with
  | nil => exact ⟨reader, rfl, .refl quiet⟩
  | cons c rest inductionHypothesis =>
      obtain ⟨middle, stepped, first⟩ := step_literalSymbol quiet c
      obtain ⟨after, wasRead, second⟩ :=
        inductionHypothesis (first.quiet quiet)
      refine ⟨after, ?_, first.trans second⟩
      rw [List.map_cons, readRow_cons, stepped, ok_bind, wasRead]

/-! ## Anchors -/

/-- A character that stands for an anchor adds that anchor. -/
theorem step_anchor
    {c : Char}
    {anchor : Anchor}
    (quiet : reader.IsQuiet)
    (noStrategy : some (Symbol.plain c) ≠ some (.plain '?') ∧
      some (Symbol.plain c) ≠ some (.plain '+'))
    (fresh : ({ reader with mode := .ready } : Reader).readFresh (.plain c) =
      .ok (({ reader with mode := .ready } : Reader).push (.assert anchor))) :
    ∃ after, reader.step (.plain c) false = .ok after ∧
      reader.Adds [.assert anchor] [] after := by
  rw [step, settle_calm quiet.mode noStrategy, ok_bind]
  change ∃ after, (({ reader with mode := .ready } : Reader).readFresh
    (.plain c) >>= _) = .ok after ∧ _
  rw [fresh]
  exact ⟨_, rfl, ⟨.inl rfl, rfl, rfl, (List.append_nil _).symm⟩, rfl, rfl,
    rfl⟩

theorem step_caret (quiet : reader.IsQuiet) :
    ∃ after, reader.step (.plain '^') false = .ok after ∧
      reader.Adds [.assert .textStart] [] after := by
  refine step_anchor quiet ⟨by decide, by decide⟩ ?_
  rcases reader with ⟨_, _, ⟨_, _, _, _, _⟩, _, _, _, _, _⟩
  cases quiet.flags
  rfl

theorem step_dollar (quiet : reader.IsQuiet) :
    ∃ after, reader.step (.plain '$') false = .ok after ∧
      reader.Adds [.assert .lastLineEnd] [] after := by
  refine step_anchor quiet ⟨by decide, by decide⟩ ?_
  rcases reader with ⟨_, _, ⟨_, _, _, _, _⟩, _, _, _, _, _⟩
  cases quiet.flags
  rfl

/-! ## Options -/

theorem readRow_plainOpening (quiet : reader.IsQuiet) :
    reader.readRow [.plain '(', .plain '?', .plain ':'] =
      .ok (({ reader with
        position := reader.position + 3
        mode := .ready } : Reader).openFrame reader.position .plain [] []) := by
  rcases reader with ⟨position, mode, ⟨opener, start, flags, branches, items⟩,
    below, groups, groupsBefore?, conditions, globalFlags⟩
  obtain ⟨rfl | rfl, rfl⟩ := quiet <;> rfl

/-- The reader behind the bracket that closes its innermost frame. -/
def leave (reader : Reader) (frame : Frame) (below : List Frame) : Reader :=
  { reader.leaveFrame reader.top with
    position := reader.position + 1
    mode := .ready
    top := frame.push (reader.closedFrame reader.top)
    below }

/-- A closing bracket makes an item of the innermost frame. -/
theorem read_closing
    {frame : Frame}
    {below : List Frame}
    (ready : reader.mode = .ready)
    (around : reader.below = frame :: below) :
    reader.read (.plain ')') = .ok (reader.leave frame below) := by
  rw [read, readHere, ready]
  dsimp only
  rw [readFresh_closing, close, around]
  refine congrArg Except.ok ?_
  rcases reader with ⟨position, mode, ⟨opener, start, flags, branches, items⟩,
    below, groups, groupsBefore?, conditions, globalFlags⟩
  cases opener with
  | behind direction outermost => cases outermost <;> rfl
  | _ => rfl

theorem step_option
    {body : Regex}
    {items : List Regex}
    (ready : reader.mode = .ready)
    (flags : reader.top.flags = {})
    (current : reader.top.items = .group body :: items) :
    reader.step (.plain '?') false =
      .ok { reader with
        position := reader.position + 1
        mode := .repeated
        top :=
          { reader.top with
            items := .loop .greedy 0 (some 1) (.group body) :: items } } := by
  rcases reader with ⟨position, mode, ⟨opener, start, flags, branches, items⟩,
    below, groups, groupsBefore?, conditions, globalFlags⟩
  cases ready
  cases flags
  cases current
  rfl

/-- Behind the bracket of an option, the option is an item of the frame around
it. -/
theorem readRow_optionEnd
    {outer middle : Reader}
    {items : List Regex}
    {names : List (Option String)}
    (quiet : outer.IsQuiet)
    (start : Nat)
    (grows : (outer.openFrame start .plain [] []).Grows items names middle) :
    ∃ after,
      middle.readRow [.plain ')', .plain '?'] = .ok after ∧
      outer.Grows [.loop .greedy 0 (some 1) (.group (sequence items))] names
        after ∧
      after.groupsBefore? = middle.groupsBefore? ∧
      after.conditions = middle.conditions ∧
      after.globalFlags = middle.globalFlags := by
  have around : middle.below = outer.top :: outer.below := grows.below
  let settled : Reader := { middle with mode := .ready }
  have closed : middle.step (.plain ')') false =
      .ok (settled.leave outer.top outer.below) := by
    rw [step, settle_calm grows.mode ⟨by decide, by decide⟩, ok_bind]
    exact @read_closing settled _ _ _ rfl around
  have item : settled.closedFrame settled.top = .group (sequence items) := by
    change settled.closedFrame middle.top = _
    rw [grows.top]
    change Regex.group (sequence (items.reverse ++ []).reverse) = _
    rw [List.append_nil, List.reverse_reverse]
  have left : settled.leaveFrame settled.top = settled := by
    change settled.leaveFrame middle.top = _
    rw [grows.top]
    rfl
  have optional := @step_option (settled.leave outer.top outer.below) _
    (sequence items) outer.top.items rfl quiet.flags (by rw [leave, item]; rfl)
  rw [readRow_cons, closed, ok_bind, readRow_cons, optional, leave, left]
  exact ⟨_, rfl, ⟨.inr rfl, rfl, rfl, grows.groupNames⟩, rfl, rfl, rfl⟩

/-- Brackets and a question mark add an option. -/
theorem readRow_optional
    {inside : List Symbol}
    {items : List Regex}
    {names : List (Option String)}
    (calm : reader.IsCalm)
    (inner : ∀ opened : Reader, opened.IsCalm →
      opened.groupNames = reader.groupNames →
        ∃ after, opened.readRow inside = .ok after ∧
          opened.Adds items names after) :
    ∃ after,
      reader.readRow ([.plain '(', .plain '?', .plain ':'] ++
        (inside ++ [.plain ')', .plain '?'])) = .ok after ∧
      reader.Adds [.loop .greedy 0 (some 1) (.group (sequence items))] names
        after := by
  let before : Reader :=
    { reader with position := reader.position + 3, mode := .ready }
  have quiet : before.IsQuiet := ⟨.inl rfl, calm.flags⟩
  obtain ⟨middle, wasRead, adds⟩ :=
    inner (before.openFrame reader.position .plain [] [])
      ⟨quiet_openFrame quiet _, calm.groupsBefore?⟩ rfl
  rw [readRow_append, readRow_plainOpening calm.toIsQuiet, ok_bind,
    readRow_append]
  change ∃ after, (before.openFrame _ _ _ _).readRow inside >>= _ =
    .ok after ∧ _
  obtain ⟨after, ended, grows, behind, conditions, globalFlags⟩ :=
    readRow_optionEnd quiet _ adds.toGrows
  rw [wasRead, ok_bind, ended]
  exact ⟨after, rfl, ⟨grows.mode, grows.top, grows.below, grows.groupNames⟩,
    behind.trans adds.groupsBefore?, conditions.trans adds.conditions,
    globalFlags.trans adds.globalFlags⟩

/-! ## Named groups -/

theorem readRow_namedOpening (quiet : reader.IsQuiet) :
    reader.readRow [.plain '(', .plain '?', .plain 'P', .plain '<'] =
      .ok { reader with
        position := reader.position + 4
        mode :=
          .name reader.position .definition (reader.position + 4) [] } := by
  rcases reader with ⟨position, mode, ⟨opener, start, flags, branches, items⟩,
    below, groups, groupsBefore?, conditions, globalFlags⟩
  obtain ⟨rfl | rfl, rfl⟩ := quiet <;> rfl

theorem readRow_name
    {start nameStart : Nat}
    {text name : List Char}
    (current : reader.mode = .name start .definition nameStart text)
    (inside : '>' ∉ name) :
    reader.readRow (name.map Symbol.plain) =
      .ok { reader with
        position := reader.position + name.length
        mode := .name start .definition nameStart (text ++ name) } := by
  induction name generalizing reader text with
  | nil =>
      rw [List.append_nil, ← current]
      rfl
  | cons c rest inductionHypothesis =>
      rw [List.mem_cons, not_or] at inside
      have goesOn : Symbol.plain c ≠ .plain NameUse.definition.terminator :=
        fun equal => inside.1 (Symbol.plain.inj equal).symm
      have stepped : reader.step (.plain c) false =
          .ok { reader with
            position := reader.position + 1
            mode := .name start .definition nameStart (text ++ [c]) } := by
        rw [step, settle, current]
        dsimp only
        rw [ok_bind]
        change reader.readHere (.plain c) >>= _ = _
        rw [readHere, current]
        dsimp only
        rw [if_neg goesOn]
        rfl
      rw [List.map_cons, readRow_cons, stepped, ok_bind,
        inductionHypothesis rfl inside.2]
      simp [Nat.add_assoc, Nat.add_comm 1]

/-- The bracket behind a name completes it. -/
theorem step_nameEnd_eq
    {start nameStart : Nat}
    {name : List Char}
    (current : reader.mode = .name start .definition nameStart name)
    (identifier : Text.isIdentifier (name.map Char.toNat) = true) :
    reader.step (.plain '>') false =
      match reader.indexOf? (String.ofList name) with
      | some earlier =>
          malformed (.redefinedName (String.ofList name)
            (reader.groups.size + 1) earlier) nameStart
      | none =>
          .ok { reader.openGroup start (some (String.ofList name)) with
            position := reader.position + 1 } := by
  have nonempty : name.isEmpty = false := by
    cases name with
    | nil => cases identifier
    | cons c rest => rfl
  have ends : Symbol.plain '>' = .plain NameUse.definition.terminator := rfl
  rw [step, settle, current]
  dsimp only
  rw [ok_bind]
  change reader.readHere (.plain '>') >>= _ = _
  rw [readHere, current]
  dsimp only
  rw [if_pos ends, nonempty, if_neg Bool.false_ne_true, useName,
    if_pos identifier]
  cases reader.indexOf? (String.ofList name) <;> rfl

/-- The bracket behind a name opens the group with that name. -/
theorem step_nameEnd
    {start nameStart : Nat}
    {name : List Char}
    (current : reader.mode = .name start .definition nameStart name)
    (identifier : Text.isIdentifier (name.map Char.toNat) = true)
    (new : some (String.ofList name) ∉ reader.groupNames) :
    reader.step (.plain '>') false =
      .ok { reader.openGroup start (some (String.ofList name)) with
        position := reader.position + 1 } := by
  have unknown : reader.indexOf? (String.ofList name) = none := by
    cases found : reader.indexOf? (String.ofList name) with
    | none => rfl
    | some index => exact absurd (exists_of_indexOf? found).2.2 new
  rw [step_nameEnd_eq current identifier, unknown]

/-- The reader in front of the bracket behind the name of a group. -/
def inName (reader : Reader) (name : List Char) : Reader :=
  { reader with
    position := reader.position + 4 + name.length
    mode := .name reader.position .definition (reader.position + 4) name }

theorem readRow_nameEnd
    {name : List Char}
    (quiet : reader.IsQuiet)
    (inside : '>' ∉ name) :
    reader.readRow ([.plain '(', .plain '?', .plain 'P', .plain '<'] ++
        (name.map Symbol.plain ++ [.plain '>'])) =
      (reader.inName name).step (.plain '>') false := by
  rw [readRow_append, readRow_namedOpening quiet, ok_bind, readRow_append,
    readRow_name rfl inside, ok_bind, readRow_cons]
  change (reader.inName name).step _ _ >>= _ = _
  cases (reader.inName name).step (.plain '>') false <;> rfl

/-- A named group is opened behind the groups that are there. -/
theorem readRow_named
    {name : List Char}
    (quiet : reader.IsQuiet)
    (inside : '>' ∉ name)
    (identifier : Text.isIdentifier (name.map Char.toNat) = true)
    (new : some (String.ofList name) ∉ reader.groupNames) :
    reader.readRow ([.plain '(', .plain '?', .plain 'P', .plain '<'] ++
        (name.map Symbol.plain ++ [.plain '>'])) =
      .ok (({ reader with
        position := reader.position + 4 + name.length + 1 } :
          Reader).openGroup reader.position (some (String.ofList name))) := by
  rw [readRow_nameEnd quiet inside]
  exact @step_nameEnd (reader.inName name) _ _ _ _ rfl identifier new

/-- A named group that can be opened has a new name. -/
theorem new_of_readRow_named
    {name : List Char}
    {after : Reader}
    (quiet : reader.IsQuiet)
    (inside : '>' ∉ name)
    (identifier : Text.isIdentifier (name.map Char.toNat) = true)
    (wasRead : reader.readRow
      ([.plain '(', .plain '?', .plain 'P', .plain '<'] ++
        (name.map Symbol.plain ++ [.plain '>'])) = .ok after) :
    some (String.ofList name) ∉ reader.groupNames := by
  rw [readRow_nameEnd quiet inside,
    @step_nameEnd_eq (reader.inName name) _ _ _ _ rfl identifier] at wasRead
  cases found : (reader.inName name).indexOf? (String.ofList name) with
  | none => exact not_mem_of_indexOf? found
  | some index =>
      rw [found] at wasRead
      cases wasRead

/-- A named group around a text that is an expression by itself adds that
expression, and behind the group of the name the groups of the text. -/
theorem readRow_constraint
    {name : List Char}
    {source : String}
    {last : Reader}
    (calm : reader.IsCalm)
    (inside : '>' ∉ name)
    (identifier : Text.isIdentifier (name.map Char.toNat) = true)
    (new : some (String.ofList name) ∉ reader.groupNames)
    (splices : Splices source last)
    (apart : ∀ other, some other ∈ last.groupNames →
      some other ∉ reader.groupNames ++ [some (String.ofList name)]) :
    ∃ after,
      reader.readRow ([.plain '(', .plain '?', .plain 'P', .plain '<'] ++
        (name.map Symbol.plain ++ [.plain '>']) ++
          (Symbol.ofChars source.toList ++ [.plain ')'])) = .ok after ∧
      reader.Adds
        [.capture (reader.groups.size + 1)
          (last.top.body.shift (reader.groups.size + 1))]
        (some (String.ofList name) :: last.groupNames) after := by
  let before : Reader :=
    { reader with position := reader.position + 4 + name.length + 1 }
  let opened := before.openGroup reader.position (some (String.ofList name))
  have names : opened.groupNames =
      reader.groupNames ++ [some (String.ofList name)] :=
    @groupNames_openGroup before _ _
  have size : opened.groups.size = reader.groups.size + 1 := Array.size_push ..
  have admits : opened.Admits last :=
    ⟨splices.conditions, splices.globalFlags, fun other member =>
      names ▸ apart other member⟩
  have fresh : opened.embed {} = opened :=
    @embed_openGroup before ⟨⟨calm.mode, calm.flags⟩, calm.groupsBefore?⟩ _ _
  obtain ⟨sound, closing⟩ := splices.reads.inside splices.free admits
  rw [fresh] at closing
  obtain ⟨mode, below, opener, _, groupsBefore?⟩ :=
    splices.reads.bottom sound
  obtain ⟨ended, wasRead, settled⟩ := exists_of_bind closing
  have closed := @read_closing (opened.embed last) _ reader.top reader.below
    (congrArg (Mode.move _) mode) (by rw [embed, below]; rfl)
  have behind := @groupsBefore?_leaveFrame_embed opened last groupsBefore?
    (opened.embed last).top
  refine ⟨(opened.embed last).leave reader.top reader.below, ?_,
    ⟨.inl rfl, ?_, rfl, ?_⟩, behind.trans calm.groupsBefore?.symm,
    conditions_leaveFrame _, globalFlags_leaveFrame _⟩
  · rw [readRow_append, readRow_named calm.toIsQuiet inside identifier new,
      ok_bind, readRow_append]
    change (opened.readRow _ >>= _) = _
    rw [wasRead, ok_bind, readRow_cons, step, settled, ok_bind]
    change (opened.embed last).read _ >>= _ = _
    rw [closed]
    rfl
  · rw [leave, closedFrame_embed_bottom opener, size]
    rfl
  · change ((opened.embed last).leaveFrame _).groupNames = _
    rw [groupNames_leaveFrame, groupNames_embed, names, List.append_assoc]
    rfl

end Reader
end Regex
end PathRouter
