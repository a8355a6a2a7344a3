import PathRouter.Regex.Reader
import PathRouter.Result

/-!
# Places in expressions

A reader keeps the places where things began, so that it can report them.  They
decide nothing else: what is read successfully is read in the same way at a
later place.

## Main definitions

* `SetReader.move` and `Mode.move`: the state of a reader at a later place.

## Main statements

* `SetReader.settle_move` and `SetReader.read_move`: character sets are read in
  the same way at a later place.
-/

namespace PathRouter
namespace Regex

namespace Spelling

/-- The value of a spelling does not depend on its place. -/
theorem value_anywhere
    {spelling : Spelling}
    {start position : Nat}
    {code : CodePoint}
    (valued : spelling.value start position = .ok code)
    (otherStart otherPosition : Nat) :
    spelling.value otherStart otherPosition = .ok code := by
  cases spelling with
  | hex letter size digits =>
      rw [value] at valued ⊢
      split at valued
      · rename_i full
        rw [if_pos full]
        dsimp only at valued ⊢
        split at valued
        · rename_i small
          rw [if_pos small]
          exact valued
        · split at valued <;> cases valued
      · cases valued
  | octal digits =>
      rw [value] at valued ⊢
      split at valued
      · rename_i small
        rw [if_pos small]
        exact valued
      · cases valued
  | named opened name =>
      cases opened with
      | false => cases valued
      | true =>
          rw [value] at valued
          split at valued <;> cases valued
  | character c => exact valued

theorem push_anywhere
    [CharacterNames]
    {spelling after : Spelling}
    {start position : Nat}
    {s : Symbol}
    (pushed : spelling.push start position s = .ok after)
    (otherStart otherPosition : Nat) :
    spelling.push otherStart otherPosition s = .ok after := by
  cases spelling with
  | hex letter size digits => exact pushed
  | octal digits => exact pushed
  | named opened name =>
      cases opened with
      | false => exact pushed
      | true =>
          rw [push] at pushed ⊢
          split at pushed
          · rename_i closing
            rw [if_pos closing]
            split at pushed
            · cases pushed
            · rename_i filled
              rw [if_neg filled]
              split at pushed
              · exact pushed
              · cases pushed
          · rename_i goesOn
            rw [if_neg goesOn]
            exact pushed
  | character c => exact pushed

end Spelling

namespace SetReader

/-- A set that stands `distance` characters later. -/
def move (distance : Nat) (reader : SetReader) : SetReader :=
  { reader with
    stage :=
      match reader.stage with
      | .spelling start text spelling =>
          .spelling (distance + start) text spelling
      | .upperSpelling atom start text spelling =>
          .upperSpelling atom (distance + start) text spelling
      | stage => stage }

variable {reader after : SetReader} {position : Nat} (distance : Nat)

theorem addRange_move
    {low high : SetAtom}
    (added : reader.addRange low high position = .ok after)
    (otherPosition : Nat) :
    (reader.move distance).addRange low high otherPosition =
      .ok (after.move distance) := by
  rw [addRange] at added ⊢
  split at added
  · split at added
    · rename_i ordered
      rw [if_pos ordered]
      cases added
      rfl
    · cases added
  · cases added

theorem settle_move
    {next? : Option Symbol}
    (settled : reader.settle position next? = .ok after) :
    (reader.move distance).settle (distance + position) next? =
      .ok (after.move distance) := by
  rcases reader with ⟨negated, members, stage⟩
  cases stage with
  | spelling start text spelling =>
      rw [settle] at settled
      rw [move, settle]
      dsimp only at settled ⊢
      split at settled
      · rename_i goesOn
        rw [if_pos goesOn]
        cases settled
        rfl
      · rename_i ends
        rw [if_neg ends]
        obtain ⟨code, valued, joined⟩ := exists_of_bind settled
        rw [Spelling.value_anywhere valued, ok_bind]
        cases joined
        rw [pure_eq_ok]
        split <;> rfl
  | upperSpelling atom start text spelling =>
      rw [settle] at settled
      rw [move, settle]
      dsimp only at settled ⊢
      split at settled
      · rename_i goesOn
        rw [if_pos goesOn]
        cases settled
        rfl
      · rename_i ends
        rw [if_neg ends]
        obtain ⟨code, valued, added⟩ := exists_of_bind settled
        rw [Spelling.value_anywhere valued, ok_bind]
        exact addRange_move distance added _
  | afterAtom atom =>
      rw [settle] at settled
      rw [move, settle]
      dsimp only at settled ⊢
      cases settled
      split <;> rfl
  | opened | between | afterHyphen atom =>
      cases settled
      rfl

theorem ofEscape_anywhere
    {c : Char}
    {found : SetMember ⊕ Spelling}
    (escaped : ofEscape position c = .ok found)
    (otherPosition : Nat) :
    ofEscape otherPosition c = .ok found := by
  rw [ofEscape] at escaped ⊢
  split at escaped
  · exact escaped
  · exact escaped
  · exact escaped
  · split at escaped
    · rename_i octal
      rw [if_pos octal]
      exact escaped
    · rename_i notOctal
      rw [if_neg notOctal]
      split at escaped
      · cases escaped
      · rename_i notLetter
        rw [if_neg notLetter]
        exact escaped

/-- A member starts in the same way at a later place, if what is made of it
does not depend on the place. -/
theorem startAtom_move
    {s : Symbol}
    {found movedFound : SetAtom → Except Fault SetReader}
    {pending movedPending : List Char → Spelling → SetReader}
    (started : startAtom position s found pending = .ok after)
    (foundMoves : ∀ atom after, found atom = .ok after →
      movedFound atom = .ok (after.move distance))
    (pendingMoves : ∀ text spelling,
      movedPending text spelling = (pending text spelling).move distance)
    (otherPosition : Nat) :
    startAtom otherPosition s movedFound movedPending =
      .ok (after.move distance) := by
  cases s with
  | escaped c =>
      rw [startAtom] at started ⊢
      obtain ⟨meaning, escaped, used⟩ := exists_of_bind started
      rw [ofEscape_anywhere escaped, ok_bind]
      cases meaning with
      | inl member => exact foundMoves _ _ used
      | inr spelling =>
          cases used
          exact congrArg Except.ok (pendingMoves _ spelling)
  | plain c => exact foundMoves _ _ started
  | dangling => exact foundMoves _ _ started

theorem readMember_move
    {s : Symbol}
    (begun : reader.readMember position s = .ok after) :
    (reader.move distance).readMember (distance + position) s =
      .ok (after.move distance) := by
  refine startAtom_move distance begun ?_ ?_ _
  · intro atom other found
    cases found
    rfl
  · intro text spelling
    rfl

/-- A set that stays open is read at a later place if the reader behind it
is. -/
theorem goOn_move
    {alone moved : Except Fault SetReader}
    {closed : Bool}
    (wasRead : (fun next => (next, false)) <$> alone = .ok (after, closed))
    (moves : ∀ next, alone = .ok next → moved = .ok (next.move distance)) :
    (fun next => (next, false)) <$> moved =
      .ok (after.move distance, closed) := by
  obtain ⟨next, begun, equal⟩ := exists_of_map wasRead
  cases equal
  rw [moves _ begun, map_ok]

theorem read_move
    [CharacterNames]
    {s : Symbol}
    {closed : Bool}
    (wasRead : reader.read position s = .ok (after, closed)) :
    (reader.move distance).read (distance + position) s =
      .ok (after.move distance, closed) := by
  rcases reader with ⟨negated, members, stage⟩
  cases stage with
  | opened =>
      rw [read] at wasRead
      rw [move, read]
      dsimp only at wasRead ⊢
      split at wasRead
      · rename_i caret
        rw [if_pos caret]
        cases wasRead
        rfl
      · rename_i member
        rw [if_neg member]
        exact goOn_move distance wasRead fun _ => readMember_move distance
  | between =>
      rw [read] at wasRead
      rw [move, read]
      dsimp only at wasRead ⊢
      split at wasRead
      · rename_i closing
        rw [if_pos closing]
        cases wasRead
        rfl
      · rename_i member
        rw [if_neg member]
        exact goOn_move distance wasRead fun _ => readMember_move distance
  | afterAtom atom =>
      cases wasRead
      rfl
  | afterHyphen low =>
      rw [read] at wasRead
      rw [move, read]
      dsimp only at wasRead ⊢
      split at wasRead
      · rename_i closing
        rw [if_pos closing]
        cases wasRead
        rfl
      · rename_i member
        rw [if_neg member]
        refine goOn_move distance wasRead fun next begun =>
          startAtom_move distance begun ?_ ?_ _
        · intro atom other added
          exact addRange_move distance added _
        · intro text spelling
          rfl
  | spelling start text spelling =>
      obtain ⟨next, pushed, equal⟩ := exists_of_bind wasRead
      cases equal
      rw [move, read]
      dsimp only
      rw [Spelling.push_anywhere pushed]
      rfl
  | upperSpelling low start text spelling =>
      obtain ⟨next, pushed, equal⟩ := exists_of_bind wasRead
      cases equal
      rw [move, read]
      dsimp only
      rw [Spelling.push_anywhere pushed]
      rfl

end SetReader

namespace Mode

/-- What the reader is in the middle of, `distance` characters later. -/
def move (distance : Nat) : Mode → Mode
  | braces start least most? => braces (distance + start) least most?
  | spelling start digits => spelling (distance + start) digits
  | number start digits => number (distance + start) digits
  | set start reader => set (distance + start) (reader.move distance)
  | bracket start => bracket (distance + start)
  | question start => question (distance + start)
  | letter start => letter (distance + start)
  | angle start => angle (distance + start)
  | name start use nameStart text =>
      name (distance + start) use (distance + nameStart) text
  | flagsOn start on => flagsOn (distance + start) on
  | flagsOff start on off => flagsOff (distance + start) on off
  | comment start => comment (distance + start)
  | mode => mode

end Mode
end Regex
end PathRouter
