import PathRouter.Proofs.Regex.Splicing
import PathRouter.Proofs.Regex.Stacking

/-!
# Reading inside beside reading alone

Two readers of the same symbols, one alone and one inside of an outer reader,
stay where the other one is as long as both succeed, whatever numbers and names
of groups mean inside.

## Main definitions

* `Reader.Parallel`: two results belong together if both are there.

## Main statements

* `Reader.Mirrors.step` and `Reader.Mirrors.readRow`: both readers go on side
  by side.
-/

namespace PathRouter
namespace Regex
namespace Reader

/-- If both steps succeed, one reader is where the other one is. -/
def Parallel (outer : Reader) (first second : Except Fault Reader) : Prop :=
  ∀ alone, first = .ok alone → ∀ inside, second = .ok inside →
    outer.Mirrors alone inside

namespace Parallel

variable
  {outer alone inside : Reader}
  {first second : Except Fault Reader}

theorem ok
    (mirrors : outer.Mirrors alone inside) :
    Parallel outer (.ok alone) (.ok inside) := by
  intro own isOwn other isOther
  cases isOwn
  cases isOther
  exact mirrors

theorem error {fault : Fault} : Parallel outer (.error fault) second := by
  intro own isOwn
  cases isOwn

theorem errorInside {fault : Fault} :
    Parallel outer first (.error fault) := by
  intro own _ other isOther
  cases isOther

theorem ite
    {condition : Prop}
    [Decidable condition]
    {yes no yesInside noInside : Except Fault Reader}
    (yesParallel : condition → Parallel outer yes yesInside)
    (noParallel : ¬condition → Parallel outer no noInside) :
    Parallel outer (if condition then yes else no)
      (if condition then yesInside else noInside) := by
  split
  · exact yesParallel ‹_›
  · exact noParallel ‹_›

/-- What comes before a step may differ on both sides. -/
theorem bind
    {before : Except Fault α}
    {other : Except Fault β}
    {next : α → Except Fault Reader}
    {nextInside : β → Except Fault Reader}
    (behind : ∀ own, before = .ok own → ∀ value, other = .ok value →
      Parallel outer (next own) (nextInside value)) :
    Parallel outer (before >>= next) (other >>= nextInside) := by
  intro own isOwn result isResult
  obtain ⟨middle, begun, ended⟩ := exists_of_bind isOwn
  obtain ⟨value, begunInside, endedInside⟩ := exists_of_bind isResult
  exact behind middle begun value begunInside own ended result endedInside

end Parallel

namespace Mirrors

variable {outer alone inside : Reader}

/-! ## Settling -/

theorem pushNumber
    {start otherStart : Nat}
    {digits : List Char}
    (mirrors : outer.Mirrors alone inside) :
    Parallel outer (alone.pushNumber start digits)
      (inside.pushNumber otherStart digits) := by
  intro own pushed other pushedInside
  rw [Reader.pushNumber] at pushed pushedInside
  split at pushed
  · split at pushed
    · split at pushedInside
      · split at pushedInside
        · obtain ⟨_, _, equal⟩ := exists_of_bind pushed
          obtain ⟨_, _, equalInside⟩ := exists_of_bind pushedInside
          cases equal
          cases equalInside
          exact mirrors.push .nil
        · cases pushedInside
      · cases pushedInside
    · cases pushed
  · cases pushed

theorem settle
    (mirrors : outer.Mirrors alone inside)
    (next? : Option Symbol) :
    Parallel outer (alone.settle next?) (inside.settle next?) := by
  rw [Reader.settle, Reader.settle, mirrors.mode]
  cases current : alone.mode with
  | repeated =>
      exact .ite (fun _ => .ok mirrors) fun _ => .ok (mirrors.turn rfl rfl)
  | braces start least most? =>
      refine .ite (fun _ => .ok mirrors) fun _ => ?_
      exact .ok (mirrors.pushLiterals _)
  | spelling start spelling =>
      refine .ite (fun _ => .ok mirrors) fun _ => ?_
      exact .bind fun _ _ _ _ => .ok (mirrors.pushLiteral ..)
  | number start digits =>
      exact .ite (fun _ => .ok mirrors) fun _ => mirrors.pushNumber
  | set start set =>
      dsimp only [Mode.move]
      refine .bind fun own moved other movedInside => ?_
      rw [mirrors.position, SetReader.settle_move _ moved] at movedInside
      cases movedInside
      exact .ok (mirrors.turn rfl rfl)
  | bracket start =>
      exact .ite (fun _ => .ok mirrors) fun _ => .ok mirrors.openGroup
  | ready | question _ | letter _ | angle _ | name _ _ _ _ | flagsOn _ _
  | flagsOff _ _ _ | comment _ | lineComment => exact .ok mirrors

/-! ## Escapes and flags -/

theorem readEscape
    (mirrors : outer.Mirrors alone inside)
    (c : Char) :
    Parallel outer (alone.readEscape c) (inside.readEscape c) := by
  unfold Reader.readEscape
  dsimp only
  split
  · exact .ok (mirrors.push .nil)
  · exact .ok (mirrors.push .nil)
  · exact .ok (mirrors.push .nil)
  · exact .ok (mirrors.push .nil)
  · exact .ok (mirrors.turn (by rw [mirrors.position]; rfl) rfl)
  · split
    · exact .ok (mirrors.push .nil)
    · exact .ok (mirrors.pushLiteral ..)
    · exact .ok (mirrors.turn (by rw [mirrors.position]; rfl) rfl)
    · refine .ite (fun _ => ?_) fun _ => ?_
      · exact .ok (mirrors.turn (by rw [mirrors.position]; rfl) rfl)
      · exact .ite (fun _ => .error) fun _ => .ok (mirrors.pushLiteral ..)

/-- Inside of a bracket no flag can hold for the whole expression. -/
theorem setGlobalFlags
    {start : Nat}
    {on : List Flag}
    {first : Except Fault Reader}
    (mirrors : outer.Mirrors alone inside) :
    Parallel outer first (inside.setGlobalFlags start on) := by
  have surrounded : inside.below.isEmpty = false :=
    List.isEmpty_eq_false_iff.mpr mirrors.below_ne_nil
  rw [Reader.setGlobalFlags, surrounded]
  exact .errorInside

theorem addFlag
    {start : Nat}
    (mirrors : outer.Mirrors alone inside)
    (on : List Flag)
    (flag : Flag) :
    Parallel outer (alone.addFlag start on flag)
      (inside.addFlag (outer.position + start) on flag) := by
  refine .ite (fun _ => .error) fun _ => .ite (fun _ => .error) fun _ => ?_
  exact .ok (mirrors.turn rfl rfl)

theorem openFlagged
    {start otherStart : Nat}
    (mirrors : outer.Mirrors alone inside)
    (on off : List Flag) :
    Parallel outer (alone.openFlagged start on off)
      (inside.openFlagged otherStart on off) := by
  refine .ite (fun _ => .error) fun _ => .ite (fun _ => .error) fun _ => ?_
  exact .ok (mirrors.openFrame .nil)

theorem notAFlag
    {s : Symbol}
    {otherwise : Cause}
    {second : Except Fault Reader} :
    Parallel outer (alone.notAFlag s otherwise) second := by
  rw [notAFlag.eq_def]
  split <;> exact .error

theorem readFlagOn
    {start : Nat}
    (mirrors : outer.Mirrors alone inside)
    (on : List Flag)
    (s : Symbol) :
    Parallel outer (alone.readFlagOn start on s)
      (inside.readFlagOn (outer.position + start) on s) := by
  refine .ite (fun _ => mirrors.setGlobalFlags) fun _ => ?_
  refine .ite (fun _ => ?_) fun _ => ?_
  · refine .ite (fun _ => .error) fun _ => .ite (fun _ => ?_) fun _ => ?_
    · exact .ok (mirrors.turn rfl rfl)
    · exact mirrors.openFlagged on []
  · cases flagOf? s with
    | none => exact notAFlag
    | some flag => exact mirrors.addFlag on flag

theorem readFlagOff
    {start : Nat}
    (mirrors : outer.Mirrors alone inside)
    (on off : List Flag)
    (s : Symbol) :
    Parallel outer (alone.readFlagOff start on off s)
      (inside.readFlagOff (outer.position + start) on off s) := by
  refine .ite (fun _ => mirrors.openFlagged on off) fun _ => ?_
  cases flagOf? s with
  | none => exact notAFlag
  | some flag =>
      refine .ite (fun _ => .error) fun _ => ?_
      exact .ok (mirrors.turn rfl rfl)

/-! ## Openings of groups -/

theorem readQuestion
    {start : Nat}
    (mirrors : outer.Mirrors alone inside)
    (s : Symbol) :
    Parallel outer (alone.readQuestion start s)
      (inside.readQuestion (outer.position + start) s) := by
  unfold Reader.readQuestion
  dsimp only
  split
  · exact .ok (mirrors.turn rfl rfl)
  · exact .ok (mirrors.openFrame .nil)
  · exact .ok (mirrors.turn rfl rfl)
  · exact .ok (mirrors.openFrame .nil)
  · exact .ok (mirrors.openFrame .nil)
  · exact .ok (mirrors.turn rfl rfl)
  · exact .ok (mirrors.turn (by rw [mirrors.position]; rfl) rfl)
  · exact .ok (mirrors.openFrame .nil)
  · exact .ok (mirrors.turn rfl rfl)
  · cases flagOf? s with
    | none => exact .error
    | some flag => exact mirrors.addFlag [] flag

end Mirrors

/-- A choice opens a frame, and perhaps leaves a condition behind. -/
theorem exists_of_openChoice
    {reader after : Reader}
    {start nameStart : Nat}
    {text : List Char}
    (chosen : reader.openChoice start nameStart text = .ok after) :
    ∃ conditions index,
      after = { reader with conditions }.openFrame start (.ifGroup index)
        [] [] := by
  rw [openChoice] at chosen
  split at chosen
  · split at chosen
    · cases chosen
    · obtain ⟨_, _, opened⟩ := exists_of_bind chosen
      cases opened
      exact ⟨_, _, rfl⟩
  · split at chosen
    · cases chosen
    · split at chosen
      · cases chosen
      · obtain ⟨_, _, opened⟩ := exists_of_bind chosen
        cases opened
        exact ⟨_, _, rfl⟩
    · cases chosen

namespace Mirrors

variable {outer alone inside : Reader}

theorem openChoice
    {start otherStart nameStart otherNameStart : Nat}
    {text : List Char}
    (mirrors : outer.Mirrors alone inside) :
    Parallel outer (alone.openChoice start nameStart text)
      (inside.openChoice otherStart otherNameStart text) := by
  intro own chosen other chosenInside
  obtain ⟨conditions, index, rfl⟩ := exists_of_openChoice chosen
  obtain ⟨otherConditions, otherIndex, rfl⟩ :=
    exists_of_openChoice chosenInside
  have same : outer.Mirrors { alone with conditions }
      { inside with conditions := otherConditions } :=
    ⟨mirrors.position, mirrors.mode, mirrors.comment, mirrors.grown,
      mirrors.surrounded, mirrors.nested⟩
  exact same.openFrame .nil

theorem useName
    {start otherStart nameStart otherNameStart : Nat}
    (mirrors : outer.Mirrors alone inside)
    (use : NameUse)
    (text : List Char) :
    Parallel outer (alone.useName start nameStart use text)
      (inside.useName otherStart otherNameStart use text) := by
  cases use with
  | condition => exact mirrors.openChoice
  | definition =>
      refine .ite (fun _ => ?_) fun _ => .error
      cases alone.indexOf? (String.ofList text) with
      | some index => exact .error
      | none =>
          cases inside.indexOf? (String.ofList text) with
          | some index => exact .errorInside
          | none => exact .ok mirrors.openGroup
  | reference =>
      refine .ite (fun _ => ?_) fun _ => .error
      cases alone.indexOf? (String.ofList text) with
      | none => exact .error
      | some index =>
          cases inside.indexOf? (String.ofList text) with
          | none => exact .errorInside
          | some other =>
              dsimp only
              split
              · split
                · exact .bind fun _ _ _ _ => .ok (mirrors.push .nil)
                · exact .errorInside
              · exact .error

/-! ## Reading -/

theorem close
    (mirrors : outer.Mirrors alone inside) :
    Parallel outer alone.close inside.close := by
  intro own closed other closedInside
  rw [Reader.close] at closed closedInside
  split at closed
  · split at closed <;> cases closed
  · rename_i around
    split at closedInside
    · split at closedInside <;> cases closedInside
    · rename_i aroundInside
      cases closed
      cases closedInside
      exact mirrors.leave around aroundInside

theorem readBar
    (mirrors : outer.Mirrors alone inside) :
    Parallel outer alone.readBar inside.readBar := by
  rw [Reader.readBar, Reader.readBar]
  split
  · exact .error
  · split
    · exact .errorInside
    · refine .ok (mirrors.withTop mirrors.mode mirrors.comment rfl rfl rfl ?_)
      exact mirrors.nested.recorded.of_subset
        inside.top.recorded_nextBranch_subset

end Mirrors

/-- The last item is what is repeated. -/
theorem exists_of_repeatLast
    {reader after : Reader}
    {start least : Nat}
    {most : Option Nat}
    (repeated : reader.repeatLast start least most = .ok after) :
    ∃ item items, reader.top.items = item :: items ∧
      after =
        { reader with
          mode := .repeated
          top :=
            { reader.top with
              items := .loop .greedy least most item :: items } } := by
  rw [repeatLast] at repeated
  split at repeated
  · cases repeated
  · rename_i item items current
    split at repeated
    · cases repeated
    · split at repeated
      · cases repeated
      · cases repeated
        exact ⟨item, items, current, rfl⟩

/-- A strategy changes neither the bracket nor what is captured. -/
theorem exists_of_setStrategy (reader : Reader) (strategy : Strategy) :
    ∃ top, reader.setStrategy strategy =
        { reader with mode := .ready, top } ∧
      top.opener = reader.top.opener ∧ top.flags = reader.top.flags ∧
      top.recorded = reader.top.recorded := by
  rw [setStrategy]
  split
  · rename_i other least most body items current
    refine ⟨_, rfl, rfl, rfl, ?_⟩
    rw [Frame.recorded, Frame.recorded, current]
    rfl
  · exact ⟨_, rfl, rfl, rfl, rfl⟩

namespace Mirrors

variable {outer alone inside : Reader}

theorem repeatLast
    {start otherStart least : Nat}
    {most : Option Nat}
    (mirrors : outer.Mirrors alone inside) :
    Parallel outer (alone.repeatLast start least most)
      (inside.repeatLast otherStart least most) := by
  intro own repeated other repeatedInside
  obtain ⟨item, items, _, rfl⟩ := exists_of_repeatLast repeated
  obtain ⟨inner, others, current, rfl⟩ := exists_of_repeatLast repeatedInside
  refine mirrors.withTop rfl nofun rfl rfl rfl ?_
  have recorded := mirrors.nested.recorded
  rw [Frame.recorded, current] at recorded
  exact recorded

theorem setStrategy
    (mirrors : outer.Mirrors alone inside)
    (strategy : Strategy) :
    outer.Mirrors (alone.setStrategy strategy)
      (inside.setStrategy strategy) := by
  obtain ⟨own, equal, _, ownFlags, _⟩ := exists_of_setStrategy alone strategy
  obtain ⟨frame, equalInside, opener, flags, recorded⟩ :=
    exists_of_setStrategy inside strategy
  rw [equal, equalInside]
  refine mirrors.withTop rfl nofun ownFlags opener flags ?_
  rw [recorded]
  exact mirrors.nested.recorded

theorem closeBraces
    {start otherStart : Nat}
    {least : List Char}
    {most? : Option (List Char)}
    (mirrors : outer.Mirrors alone inside) :
    Parallel outer (alone.closeBraces start least most?)
      (inside.closeBraces otherStart least most?) := by
  rw [Reader.closeBraces, Reader.closeBraces]
  refine .bind fun own counted value same => ?_
  cases counted.symm.trans same
  refine .bind fun own counted value same => ?_
  cases counted.symm.trans same
  exact .ite (fun _ => .error) fun _ => mirrors.repeatLast

theorem readFresh
    (mirrors : outer.Mirrors alone inside)
    (s : Symbol) :
    Parallel outer (alone.readFresh s) (inside.readFresh s) := by
  cases s with
  | dangling => exact .error
  | escaped c => exact mirrors.readEscape c
  | plain c =>
      unfold Reader.readFresh
      dsimp only
      rw [mirrors.flags]
      refine .ite (fun _ => .ok mirrors) fun _ => ?_
      refine .ite (fun comment => ?_) fun _ => ?_
      · exact .ok (mirrors.inMode rfl fun _ =>
          (Bool.and_eq_true_iff.mp comment).1)
      split
      · exact mirrors.readBar
      · exact mirrors.close
      · exact .ok (mirrors.turn (by rw [mirrors.position]; rfl) rfl)
      · exact .ok (mirrors.turn (by rw [mirrors.position]; rfl) rfl)
      · exact mirrors.repeatLast
      · exact mirrors.repeatLast
      · exact mirrors.repeatLast
      · exact .ok (mirrors.turn (by rw [mirrors.position]; rfl) rfl)
      · exact .ok (mirrors.push .nil)
      · exact .ok (mirrors.push .nil)
      · exact .ok (mirrors.push .nil)
      · exact .ok (mirrors.pushLiteral ..)

/-- A character set captures nothing. -/
theorem recorded_set
    (flags : Flags)
    (negated : Bool)
    (members : List SetMember) :
    (flags.set negated members).recorded = [] := by
  rw [Flags.set]
  split <;> rfl

variable [CharacterNames]

theorem readHere
    (mirrors : outer.Mirrors alone inside)
    (s : Symbol) :
    Parallel outer (alone.readHere s) (inside.readHere s) := by
  rw [Reader.readHere, Reader.readHere, mirrors.mode]
  cases current : alone.mode with
  | ready => exact mirrors.readFresh s
  | repeated => exact .ok (mirrors.setStrategy _)
  | braces start least most? =>
      refine .ite (fun _ => mirrors.closeBraces) fun _ => ?_
      refine .ite (fun _ => .ok (mirrors.turn rfl rfl)) fun _ => ?_
      cases most? with
      | none => exact .ok (mirrors.turn rfl rfl)
      | some most => exact .ok (mirrors.turn rfl rfl)
  | spelling start spelling =>
      dsimp only [Mode.move]
      refine .bind fun own pushed other pushedInside => ?_
      rw [Spelling.push_anywhere pushed] at pushedInside
      cases pushedInside
      exact .ok (mirrors.turn rfl rfl)
  | number start digits =>
      dsimp only [Mode.move]
      split
      · exact .ok (mirrors.turn rfl rfl)
      · exact .ok (mirrors.turn rfl rfl)
  | set start set =>
      dsimp only [Mode.move]
      refine .bind fun own moved other movedInside => ?_
      rw [mirrors.position, SetReader.read_move _ moved] at movedInside
      cases movedInside
      refine .ite (fun _ => ?_) fun _ => ?_
      · refine .ok (mirrors.push ?_)
        rw [recorded_set]
        exact .nil
      · exact .ok (mirrors.turn rfl rfl)
  | bracket start => exact .ok (mirrors.turn rfl rfl)
  | question start => exact mirrors.readQuestion s
  | letter start =>
      have inName (use : NameUse) : outer.Mirrors
          { alone with mode := .name start use (alone.position + 1) [] }
          { inside with
            mode :=
              .name (outer.position + start) use (inside.position + 1) [] } :=
        mirrors.turn (by rw [mirrors.position]; rfl) rfl
      refine .ite (fun _ => .ok (inName .definition)) fun _ => ?_
      exact .ite (fun _ => .ok (inName .reference)) fun _ => .error
  | angle start =>
      refine .ite (fun _ => .ok mirrors.openBehind) fun _ => ?_
      exact .ite (fun _ => .ok mirrors.openBehind) fun _ => .error
  | name start use nameStart text =>
      refine .ite (fun _ => ?_) fun _ => .ok (mirrors.turn rfl rfl)
      exact .ite (fun _ => .error) fun _ => mirrors.useName use text
  | flagsOn start on => exact mirrors.readFlagOn on s
  | flagsOff start on off => exact mirrors.readFlagOff on off s
  | comment start =>
      exact .ite (fun _ => .ok (mirrors.turn rfl rfl)) fun _ =>
        .ok (mirrors.turn rfl rfl)
  | lineComment =>
      exact .ite (fun _ => .ok (mirrors.turn rfl rfl)) fun _ =>
        .ok mirrors

theorem read
    (mirrors : outer.Mirrors alone inside)
    (s : Symbol) :
    Parallel outer (alone.read s) (inside.read s) := by
  refine .bind fun own wasRead other wasReadInside => ?_
  have next := mirrors.readHere s own wasRead other wasReadInside
  refine .ok ⟨?_, next.mode, next.comment, next.grown, next.surrounded,
    next.nested⟩
  dsimp only
  rw [mirrors.position, Nat.add_assoc]

/-- Both readers take a step side by side. -/
theorem step
    (mirrors : outer.Mirrors alone inside)
    (s : Symbol) :
    Parallel outer (alone.step s false) (inside.step s false) := by
  refine .bind fun own settled other settledInside => ?_
  exact (mirrors.settle (some s) own settled other settledInside).read s

/-- Both readers read a row of symbols side by side. -/
theorem readRow
    (mirrors : outer.Mirrors alone inside)
    (row : List Symbol) :
    Parallel outer (alone.readRow row) (inside.readRow row) := by
  induction row generalizing alone inside with
  | nil => exact .ok mirrors
  | cons s rest inductionHypothesis =>
      rw [readRow_cons, readRow_cons]
      refine .bind fun own stepped other steppedInside => ?_
      exact inductionHypothesis
        (mirrors.step s own stepped other steppedInside)

end Mirrors
end Reader
end Regex
end PathRouter
