import PathRouter.Proofs.Regex.Soundness

/-!
# Reading inside as alone

Whatever a reader does successfully on a text of its own, it does inside of an
outer reader, and the embedding is kept.  Three things would betray where the
text stands, and are excluded: flags for the whole expression, numbers that
refer to groups, and names that the outer reader knows.

## Main definitions

* `Reader.Admits`: an outer reader has no objection to a text.
* `Reader.Follows`: a step inside follows the step alone.

## Main statements

* `Reader.follows_step`: every step inside follows the step alone.
-/

namespace PathRouter
namespace Regex
namespace Reader

/-- What a reader has met so far may stand inside of an outer reader. -/
structure Admits (outer reader : Reader) : Prop where
  /-- No choice refers to a group by its number. -/
  conditions : reader.conditions = []
  /-- No flag holds for the whole expression. -/
  globalFlags : reader.globalFlags = []
  /-- No group has the name of an outer one. -/
  apart : ∀ name, some name ∈ reader.groupNames →
    some name ∉ outer.groupNames

variable {outer reader : Reader}

theorem Admits.of_extends
    {after : Reader}
    (admits : outer.Admits after)
    (grown : reader.Extends after) :
    outer.Admits reader where
  conditions := List.prefix_nil.mp (admits.conditions ▸ grown.conditions)
  globalFlags := List.prefix_nil.mp (admits.globalFlags ▸ grown.globalFlags)
  apart := fun name member =>
    admits.apart name (grown.groups.subset member)

/-- If a step succeeds alone, it succeeds inside of an outer reader, and keeps
the invariant and the embedding. -/
def Follows (outer reader : Reader) (alone inside : Except Fault Reader) :
    Prop :=
  ∀ after, alone = .ok after →
    reader.Extends after ∧
      (reader.IsSound → outer.Admits after →
        after.IsSound ∧ inside = .ok (outer.embed after))

namespace Follows

theorem error
    {fault : Fault}
    {inside : Except Fault Reader} :
    Follows outer reader (.error fault) inside := by
  intro after equal
  cases equal

theorem ok
    {after other : Reader}
    (grown : reader.Extends after)
    (kept : reader.IsSound → outer.Admits after →
      after.IsSound ∧ other = outer.embed after) :
    Follows outer reader (.ok after) (.ok other) := by
  intro result equal
  cases equal
  refine ⟨grown, fun sound admits => ?_⟩
  obtain ⟨afterSound, embedded⟩ := kept sound admits
  exact ⟨afterSound, congrArg Except.ok embedded⟩

theorem ite
    {condition : Prop}
    [Decidable condition]
    {yes no yesInside noInside : Except Fault Reader}
    (yesFollows : condition → Follows outer reader yes yesInside)
    (noFollows : ¬condition → Follows outer reader no noInside) :
    Follows outer reader (if condition then yes else no)
      (if condition then yesInside else noInside) := by
  split
  · exact yesFollows ‹_›
  · exact noFollows ‹_›

theorem bind
    {alone inside : Except Fault Reader}
    {next nextInside : Reader → Except Fault Reader}
    (first : Follows outer reader alone inside)
    (second : ∀ middle, alone = .ok middle →
      Follows outer middle (next middle) (nextInside (outer.embed middle))) :
    Follows outer reader (alone >>= next) (inside >>= nextInside) := by
  intro after done
  obtain ⟨middle, begun, ended⟩ := exists_of_bind done
  obtain ⟨early, firstKept⟩ := first middle begun
  obtain ⟨late, secondKept⟩ := second middle begun after ended
  refine ⟨early.trans late, fun sound admits => ?_⟩
  obtain ⟨middleSound, middleInside⟩ :=
    firstKept sound (admits.of_extends late)
  rw [middleInside, ok_bind]
  exact secondKept middleSound admits

/-! ## Items and frames -/

theorem inMode
    {mode : Mode}
    (fits : mode.Fits reader.top.flags) :
    Follows outer reader (.ok { reader with mode })
      (.ok { outer.embed reader with mode := mode.move outer.position }) :=
  ok (.of_eq rfl rfl rfl) fun sound _ => ⟨sound.inMode fits, rfl⟩

/-- An item that refers to no group is the same inside. -/
theorem push
    {item : Regex}
    (free : item.indices = []) :
    Follows outer reader (.ok (reader.push item))
      (.ok ((outer.embed reader).push item)) := by
  refine ok (.of_eq rfl rfl rfl) fun sound _ => ⟨?_, ?_⟩
  · exact sound.push (isNumbered_of_indices_eq_nil free _)
  · rw [← embed_push, shift_of_indices_eq_nil free]

theorem pushLiteral (c : CodePoint) :
    Follows outer reader (.ok (reader.pushLiteral c))
      (.ok ((outer.embed reader).pushLiteral c)) :=
  push rfl

theorem openFrame
    {start otherStart : Nat}
    {opener : Opener}
    {on off : List Flag}
    (inner : opener ≠ .whole)
    (numbered : reader.IsSound → ∀ index ∈ opener.indices,
      0 < index ∧ index ≤ reader.groups.size)
    (moved : otherStart = outer.position + start) :
    Follows outer reader (.ok (reader.openFrame start opener on off))
      (.ok ((outer.embed reader).openFrame otherStart
        (opener.shift outer.groups.size) on off)) := by
  refine ok (.of_eq rfl rfl rfl) fun sound _ =>
    ⟨sound.openFrame inner (numbered sound), ?_⟩
  rw [moved, openFrame_embed inner]

theorem openGroup
    {start otherStart : Nat}
    {name? : Option String}
    (new : ∀ name ∈ name?, some name ∉ reader.groupNames)
    (moved : otherStart = outer.position + start) :
    Follows outer reader (.ok (reader.openGroup start name?))
      (.ok ((outer.embed reader).openGroup otherStart name?)) := by
  refine ok (extends_openGroup new start) fun sound _ =>
    ⟨sound.openGroup, ?_⟩
  rw [moved, openGroup_embed]

theorem openBehind
    {start otherStart : Nat}
    {positive : Bool}
    (moved : otherStart = outer.position + start) :
    Follows outer reader (.ok (reader.openBehind start positive))
      (.ok ((outer.embed reader).openBehind otherStart positive)) := by
  refine ok (.of_eq rfl rfl rfl) fun sound _ => ⟨sound.openBehind, ?_⟩
  rw [moved, openBehind_embed]

end Follows

/-! ## Settling -/

/-- Whether the next symbol, or the end of the text, makes digits behind a
backslash the number of a group. -/
def RefersByNumber (reader : Reader) (next? : Option Symbol) : Prop :=
  ∃ start digits, reader.mode = .number start digits ∧
    next?.any (numberAccepts digits) = false

theorem follows_settle
    {next? : Option Symbol}
    (unnumbered : ¬reader.RefersByNumber next?) :
    Follows outer reader (reader.settle next?)
      ((outer.embed reader).settle next?) := by
  have unchanged : Follows outer reader (.ok reader)
      (.ok (outer.embed reader)) :=
    .ok (.refl reader) fun sound _ => ⟨sound, rfl⟩
  rw [settle, settle, embed_mode]
  cases current : reader.mode with
  | repeated => exact .ite (fun _ => unchanged) fun _ => .inMode trivial
  | braces start least most? =>
      refine .ite (fun _ => unchanged) fun _ => ?_
      exact .ok (extends_pushLiterals _) fun sound _ =>
        ⟨sound.pushLiterals _, pushLiterals_embed _⟩
  | spelling start spelling =>
      refine .ite (fun _ => unchanged) fun _ => ?_
      intro after valued
      obtain ⟨code, value, pushed⟩ := exists_of_bind valued
      rw [Spelling.value_anywhere value, ok_bind]
      exact Follows.pushLiteral code after pushed
  | number start digits =>
      refine .ite (fun _ => unchanged) fun ends => ?_
      exact absurd ⟨start, digits, current, by simpa using ends⟩ unnumbered
  | set start set =>
      intro after settled
      obtain ⟨next, moved, equal⟩ := exists_of_bind settled
      dsimp only [Mode.move]
      rw [embed_position, SetReader.settle_move _ moved, ok_bind]
      exact @Follows.inMode _ _ (.set start next) trivial after equal
  | bracket start =>
      refine .ite (fun _ => unchanged) fun _ => ?_
      exact .openGroup nofun rfl
  | ready | question _ | letter _ | angle _ | name _ _ _ _ | flagsOn _ _
  | flagsOff _ _ _ | comment _ | lineComment => exact unchanged

/-! ## Escapes and flags -/

theorem follows_readEscape (c : Char) :
    Follows outer reader (reader.readEscape c)
      ((outer.embed reader).readEscape c) := by
  unfold readEscape
  dsimp only
  split
  · exact .push rfl
  · exact .push rfl
  · exact .push rfl
  · exact .push rfl
  · exact .inMode trivial
  · split
    · exact .push rfl
    · exact .pushLiteral _
    · exact .inMode trivial
    · refine .ite (fun _ => .inMode trivial) fun _ => ?_
      exact .ite (fun _ => .error) fun _ => .pushLiteral _

/-- Flags for the whole expression are not admitted. -/
theorem follows_setGlobalFlags
    {start : Nat}
    {on : List Flag}
    {inside : Except Fault Reader}
    (nonempty : reader.IsSound → on ≠ []) :
    Follows outer reader (reader.setGlobalFlags start on) inside := by
  intro after changed
  rw [setGlobalFlags] at changed
  split at changed
  · cases changed
    refine ⟨⟨List.prefix_rfl, List.prefix_rfl, List.prefix_append .., id, id⟩,
      fun sound admits => ?_⟩
    have empty := (List.append_eq_nil_iff.mp admits.globalFlags).2
    exact absurd empty (nonempty sound)
  · cases changed

theorem follows_addFlag
    {start otherStart : Nat}
    (on : List Flag)
    (flag : Flag)
    (moved : otherStart = outer.position + start) :
    Follows outer reader (reader.addFlag start on flag)
      ((outer.embed reader).addFlag otherStart on flag) := by
  subst moved
  refine .ite (fun _ => .error) fun _ => .ite (fun _ => .error) fun _ => ?_
  exact .inMode (List.cons_ne_nil flag on)

theorem follows_notAFlag
    {s : Symbol}
    {otherwise : Cause}
    {inside : Except Fault Reader} :
    Follows outer reader (reader.notAFlag s otherwise) inside := by
  rw [notAFlag.eq_def]
  split <;> exact .error

theorem follows_openFlagged
    {start otherStart : Nat}
    (on off : List Flag)
    (moved : otherStart = outer.position + start) :
    Follows outer reader (reader.openFlagged start on off)
      ((outer.embed reader).openFlagged otherStart on off) := by
  refine .ite (fun _ => .error) fun _ => .ite (fun _ => .error) fun _ => ?_
  exact .openFrame nofun nofun moved

theorem follows_readFlagOn
    {start otherStart : Nat}
    {on : List Flag}
    (nonempty : reader.IsSound → on ≠ [])
    (moved : otherStart = outer.position + start)
    (s : Symbol) :
    Follows outer reader (reader.readFlagOn start on s)
      ((outer.embed reader).readFlagOn otherStart on s) := by
  refine .ite (fun _ => follows_setGlobalFlags nonempty) fun _ => ?_
  refine .ite (fun _ => ?_) fun _ => ?_
  · refine .ite (fun _ => .error) fun _ => .ite (fun _ => ?_) fun _ => ?_
    · subst moved
      exact .inMode trivial
    · exact follows_openFlagged on [] moved
  · cases flagOf? s with
    | none => exact follows_notAFlag
    | some flag => exact follows_addFlag on flag moved

theorem follows_readFlagOff
    {start otherStart : Nat}
    (on off : List Flag)
    (moved : otherStart = outer.position + start)
    (s : Symbol) :
    Follows outer reader (reader.readFlagOff start on off s)
      ((outer.embed reader).readFlagOff otherStart on off s) := by
  refine .ite (fun _ => follows_openFlagged on off moved) fun _ => ?_
  cases flagOf? s with
  | none => exact follows_notAFlag
  | some flag =>
      refine .ite (fun _ => .error) fun _ => ?_
      subst moved
      exact .inMode trivial

/-! ## Openings of groups -/

theorem follows_readQuestion
    {start otherStart : Nat}
    (moved : otherStart = outer.position + start)
    (s : Symbol) :
    Follows outer reader (reader.readQuestion start s)
      ((outer.embed reader).readQuestion otherStart s) := by
  subst moved
  unfold readQuestion
  dsimp only
  split
  · exact .inMode trivial
  · exact .openFrame nofun nofun rfl
  · exact .inMode trivial
  · exact .openFrame nofun nofun rfl
  · exact .openFrame nofun nofun rfl
  · exact .inMode trivial
  · exact .inMode trivial
  · exact .openFrame nofun nofun rfl
  · exact .inMode trivial
  · cases flagOf? s with
    | none => exact .error
    | some flag => exact follows_addFlag [] flag rfl

/-- A number that decides a choice is not admitted, and a name is found where
it is found alone. -/
theorem follows_openChoice
    {start otherStart nameStart otherNameStart : Nat}
    (moved : otherStart = outer.position + start)
    (text : List Char) :
    Follows outer reader (reader.openChoice start nameStart text)
      ((outer.embed reader).openChoice otherStart otherNameStart text) := by
  rw [openChoice, openChoice]
  refine .ite (fun _ => ?_) fun _ => ?_
  · intro after chosen
    cases found : reader.indexOf? (String.ofList text) with
    | none =>
        rw [found] at chosen
        cases chosen
    | some index =>
        rw [found] at chosen
        obtain ⟨_, allowed, opened⟩ := exists_of_bind chosen
        cases opened
        obtain ⟨positive, known, named⟩ := exists_of_indexOf? found
        refine ⟨.of_eq rfl rfl rfl, fun sound admits => ?_⟩
        have unknown := admits.apart _ named
        rw [indexOf?_embed unknown, found, Option.map_some]
        dsimp only
        rw [checkBehind_embed positive allowed, ok_bind]
        refine (@Follows.openFrame _ _ _ _ (.ifGroup index) [] [] nofun ?_
          moved _ rfl).2 sound admits
        intro _ other member
        rw [List.mem_singleton.mp member]
        exact ⟨positive, known⟩
  · intro after chosen
    split at chosen
    · cases chosen
    · rename_i index notZero _
      split at chosen
      · cases chosen
      · -- The choice leaves a condition behind, old or new.
        obtain ⟨_, _, opened⟩ := exists_of_bind chosen
        by_cases known : (reader.conditions.any (·.1 == index)) = true
        · simp only [if_pos known] at opened
          cases opened
          refine ⟨.of_eq rfl rfl rfl, fun sound admits => ?_⟩
          have none : reader.conditions = [] := admits.conditions
          rw [none] at known
          cases known
        · simp only [if_neg known] at opened
          cases opened
          refine ⟨⟨List.prefix_rfl, List.prefix_append .., List.prefix_rfl,
            fun positive entry member => ?_, id⟩, fun sound admits => ?_⟩
          · rcases List.mem_append.mp member with old | new
            · exact positive entry old
            · rw [List.mem_singleton.mp new]
              exact Nat.pos_of_ne_zero notZero
          cases (List.append_eq_nil_iff.mp admits.conditions).2
    · cases chosen

theorem follows_useName
    {start otherStart nameStart otherNameStart : Nat}
    (moved : otherStart = outer.position + start)
    (use : NameUse)
    (text : List Char) :
    Follows outer reader (reader.useName start nameStart use text)
      ((outer.embed reader).useName otherStart otherNameStart use text) := by
  cases use with
  | condition => exact follows_openChoice moved text
  | definition =>
      refine .ite (fun _ => ?_) fun _ => .error
      intro after used
      cases found : reader.indexOf? (String.ofList text) with
      | some index =>
          rw [found] at used
          cases used
      | none =>
          rw [found] at used
          cases used
          have new : ∀ other ∈ some (String.ofList text),
              some other ∉ reader.groupNames := by
            intro other equal
            cases equal
            exact not_mem_of_indexOf? found
          refine ⟨extends_openGroup new start, fun sound admits => ?_⟩
          have unknown := admits.apart (String.ofList text) (by
            rw [groupNames_openGroup]
            exact List.mem_append_right _ List.mem_cons_self)
          rw [indexOf?_embed unknown, found, Option.map_none]
          exact (Follows.openGroup new moved _ rfl).2 sound admits
  | reference =>
      refine .ite (fun _ => ?_) fun _ => .error
      intro after used
      cases found : reader.indexOf? (String.ofList text) with
      | none =>
          rw [found] at used
          cases used
      | some index =>
          rw [found] at used
          obtain ⟨positive, known, named⟩ := exists_of_indexOf? found
          dsimp only at used ⊢
          split at used
          · rename_i closed
            obtain ⟨_, allowed, pushed⟩ := exists_of_bind used
            cases pushed
            refine ⟨.of_eq rfl rfl rfl, fun sound admits => ⟨?_, ?_⟩⟩
            · refine sound.push fun other member => ?_
              rw [List.mem_singleton.mp member]
              exact ⟨positive, known⟩
            · have unknown := admits.apart _ named
              rw [indexOf?_embed unknown, found, Option.map_some]
              dsimp only
              rw [isClosed_embed positive, if_pos closed,
                checkBehind_embed positive allowed]
              rfl
          · cases used

/-! ## Reading -/

theorem follows_close :
    Follows outer reader reader.close (outer.embed reader).close := by
  intro after closed
  rw [close] at closed
  split at closed
  · split at closed <;> cases closed
  · rename_i frame below around
    cases closed
    refine ⟨.of_eq (groupNames_leaveFrame _) (conditions_leaveFrame _)
      (globalFlags_leaveFrame _), fun sound admits => ⟨sound.leave around, ?_⟩⟩
    have stack := sound.stack
    rw [around] at stack
    have positive : ∀ index ∈ reader.top.indices, 0 < index :=
      fun index member => (sound.top index member).1
    have inside : (outer.embed reader).below = frame.embed outer ::
        (below.map (Frame.embed outer) ++ outer.below) := by
      rw [embed, around]
      rfl
    rw [close, inside]
    dsimp only
    rw [embed_top, closedFrame_embed positive stack.1,
      leaveFrame_embed positive stack.1]
    rfl

theorem follows_readBar :
    Follows outer reader reader.readBar (outer.embed reader).readBar := by
  rw [readBar, readBar, embed_top, Frame.isFullChoice_embed,
    Frame.nextBranch_embed]
  refine .ite (fun _ => .error) fun _ => ?_
  refine .ok (.of_eq rfl rfl rfl) fun sound _ => ⟨?_, rfl⟩
  exact ⟨sound.stack.congr rfl rfl, sound.top.nextBranch, sound.below,
    sound.fits, sound.behind⟩

theorem follows_repeatLast
    {start otherStart least : Nat}
    {most : Option Nat} :
    Follows outer reader (reader.repeatLast start least most)
      ((outer.embed reader).repeatLast otherStart least most) := by
  intro after repeated
  refine ⟨?_, fun sound admits =>
    ⟨sound.repeatLast repeated, repeatLast_embed repeated _⟩⟩
  rw [repeatLast] at repeated
  split at repeated
  · cases repeated
  · split at repeated
    · cases repeated
    · split at repeated
      · cases repeated
      · cases repeated
        exact .of_eq rfl rfl rfl

theorem follows_readFresh (s : Symbol) :
    Follows outer reader (reader.readFresh s)
      ((outer.embed reader).readFresh s) := by
  cases s with
  | dangling => exact .error
  | escaped c => exact follows_readEscape c
  | plain c =>
      unfold readFresh
      dsimp only
      refine .ite (fun _ => ?_) fun _ => .ite (fun comment => ?_) fun _ => ?_
      · exact .ok (.refl reader) fun sound _ => ⟨sound, rfl⟩
      · exact .inMode (Bool.and_eq_true_iff.mp comment).1
      split
      · exact follows_readBar
      · exact follows_close
      · exact .inMode trivial
      · exact .inMode trivial
      · exact follows_repeatLast
      · exact follows_repeatLast
      · exact follows_repeatLast
      · exact .inMode trivial
      · exact .push rfl
      · exact .push rfl
      · exact .push rfl
      · exact .pushLiteral _

theorem follows_setStrategy (strategy : Strategy) :
    Follows outer reader (.ok (reader.setStrategy strategy))
      (.ok ((outer.embed reader).setStrategy strategy)) := by
  refine .ok ?_ fun sound _ => ⟨sound.setStrategy, setStrategy_embed strategy⟩
  rw [setStrategy]
  split <;> exact .of_eq rfl rfl rfl

theorem follows_closeBraces
    {start otherStart : Nat}
    {least : List Char}
    {most? : Option (List Char)} :
    Follows outer reader (reader.closeBraces start least most?)
      ((outer.embed reader).closeBraces otherStart least most?) := by
  intro after closed
  obtain ⟨least?, leastCounted, rest⟩ := exists_of_bind closed
  obtain ⟨most, mostCounted, repeated⟩ := exists_of_bind rest
  rw [closeBraces, leastCounted, ok_bind, mostCounted, ok_bind]
  refine Follows.ite (fun _ => .error) (fun _ => ?_) after repeated
  exact follows_repeatLast

/-- A character set refers to no group. -/
theorem indices_set
    (flags : Flags)
    (negated : Bool)
    (members : List SetMember) :
    (flags.set negated members).indices = [] := by
  rw [Flags.set]
  split <;> rfl

variable [CharacterNames]

theorem follows_readHere (s : Symbol) :
    Follows outer reader (reader.readHere s)
      ((outer.embed reader).readHere s) := by
  rw [readHere, readHere, embed_mode]
  cases current : reader.mode with
  | ready => exact follows_readFresh s
  | repeated => exact follows_setStrategy _
  | braces start least most? =>
      refine .ite (fun _ => follows_closeBraces) fun _ => ?_
      refine .ite (fun _ => .inMode trivial) fun _ => ?_
      cases most? with
      | none => exact .inMode trivial
      | some most => exact .inMode trivial
  | spelling start spelling =>
      intro after wasRead
      obtain ⟨next, pushed, equal⟩ := exists_of_bind wasRead
      dsimp only [Mode.move]
      rw [Spelling.push_anywhere pushed, ok_bind]
      exact @Follows.inMode _ _ (.spelling start next) trivial after equal
  | number start digits =>
      dsimp only [Mode.move]
      split
      · exact .inMode trivial
      · exact .inMode trivial
  | set start set =>
      intro after wasRead
      obtain ⟨⟨next, closed⟩, moved, equal⟩ := exists_of_bind wasRead
      dsimp only [Mode.move]
      rw [embed_position, SetReader.read_move _ moved, ok_bind]
      refine Follows.ite (fun _ => ?_) (fun _ => ?_) after equal
      · exact .push (indices_set ..)
      · exact .inMode trivial
  | bracket start => exact .inMode trivial
  | question start => exact follows_readQuestion rfl s
  | letter start =>
      refine .ite (fun _ => .inMode trivial) fun _ => ?_
      exact .ite (fun _ => .inMode trivial) fun _ => .error
  | angle start =>
      refine .ite (fun _ => .openBehind rfl) fun _ => ?_
      exact .ite (fun _ => .openBehind rfl) fun _ => .error
  | name start use nameStart text =>
      refine .ite (fun _ => ?_) fun _ => .inMode trivial
      exact .ite (fun _ => .error) fun _ => follows_useName rfl use text
  | flagsOn start on =>
      refine follows_readFlagOn (fun sound => ?_) rfl s
      have fits := sound.fits
      rw [current] at fits
      exact fits
  | flagsOff start on off => exact follows_readFlagOff on off rfl s
  | comment start =>
      exact .ite (fun _ => .inMode trivial) fun _ => .inMode trivial
  | lineComment =>
      refine .ite (fun _ => .inMode trivial) fun _ => ?_
      exact .ok (.refl reader) fun sound _ => ⟨sound, rfl⟩

theorem follows_read (s : Symbol) :
    Follows outer reader (reader.read s) ((outer.embed reader).read s) := by
  refine (follows_readHere s).bind fun middle _ => ?_
  refine .ok (.of_eq rfl rfl rfl) fun sound _ =>
    ⟨⟨sound.stack, sound.top, sound.below, sound.fits, sound.behind⟩, ?_⟩
  rw [embed_position, Nat.add_assoc]
  rfl

/-- Every step inside follows the step alone. -/
theorem follows_step
    {s : Symbol}
    (unnumbered : ¬reader.RefersByNumber (some s)) :
    Follows outer reader (reader.step s false)
      ((outer.embed reader).step s false) :=
  (follows_settle unnumbered).bind fun _ _ => follows_read s

end Reader
end Regex
end PathRouter
