import PathRouter.Proofs.Regex.Following
import PathRouter.Proofs.Regex.Symbols

/-!
# Spliced expressions

A text that is an expression by itself may stand in the brackets of a group:
up to the closing bracket it is read as it is alone, and the bracket settles it
as its end does alone.

## Main definitions

* `Reader.readRow`: reading a row of symbols.
* `Regex.ReadsTo`: the reader in which a text ends.

## Main statements

* `Regex.exists_readsTo_of_parse`: a text that is an expression ends in a
  reader.
* `Regex.ReadsTo.inside`: the text and a closing bracket inside of an outer
  reader.
-/

namespace PathRouter
namespace Regex

namespace Reader

variable {reader after : Reader}

/-- A symbol that is no blank and starts no comment has the same meaning under
all flags. -/
theorem readFresh_closing :
    reader.readFresh (.plain ')') = reader.close := by
  have blank : Text.isAsciiBlank ')'.toNat = false := by decide
  have hash : (')' == '#') = false := by decide
  unfold readFresh
  dsimp -failIfUnchanged only
  rw [blank, hash, Bool.and_false]
  rfl

theorem readFresh_bar :
    reader.readFresh (.plain '|') = reader.readBar := by
  have blank : Text.isAsciiBlank '|'.toNat = false := by decide
  have hash : ('|' == '#') = false := by decide
  unfold readFresh
  dsimp -failIfUnchanged only
  rw [blank, hash, Bool.and_false]
  rfl

/-! ## The end of a text and a closing bracket -/

/-- No number behind a backslash goes on with a closing bracket. -/
theorem numberAccepts_closing (digits : List Char) :
    numberAccepts digits (.plain ')') = false := by
  rw [numberAccepts.eq_def]
  split
  · rename_i equal
    cases equal
    decide
  · rename_i a b c equal
    cases equal
    have digit : isOctalDigit ')' = false := by decide
    rw [digit, Bool.and_false]
  · rfl

theorem refersByNumber_closing_iff :
    reader.RefersByNumber (some (.plain ')')) ↔
      reader.RefersByNumber none := by
  constructor
  · rintro ⟨start, digits, current, _⟩
    exact ⟨start, digits, current, rfl⟩
  · rintro ⟨start, digits, current, _⟩
    exact ⟨start, digits, current, numberAccepts_closing digits⟩

theorem mode_pushLiterals (reader : Reader) (c : Char) (rest : List Char) :
    (reader.pushLiterals (c :: rest)).mode = .ready := by
  induction rest generalizing reader c with
  | nil => rfl
  | cons next rest inductionHypothesis =>
      exact inductionHypothesis (reader.pushLiteral c.toNat) next

theorem mode_pushNumber
    {start : Nat}
    {digits : List Char}
    (pushed : reader.pushNumber start digits = .ok after) :
    after.mode = .ready := by
  rw [pushNumber] at pushed
  split at pushed
  · split at pushed
    · obtain ⟨_, _, equal⟩ := exists_of_bind pushed
      cases equal
      rfl
    · cases pushed
  · cases pushed

/-- No spelling that has a value goes on with a closing bracket. -/
theorem accepts_closing
    {spelling : Spelling}
    {start position : Nat}
    {code : CodePoint}
    (valued : spelling.value start position = .ok code) :
    spelling.accepts (.plain ')') = false := by
  cases spelling with
  | hex letter size digits =>
      have digit : (Text.hexDigitValue? ')').isSome = false := by decide
      rw [Spelling.accepts, digit, Bool.and_false]
  | octal digits =>
      have digit : isOctalDigit ')' = false := by decide
      rw [Spelling.accepts, digit, Bool.and_false]
  | named opened name =>
      cases opened with
      | false => cases valued
      | true =>
          rw [Spelling.value] at valued
          split at valued <;> cases valued
  | character c => rfl

theorem below_eq_nil_of_checkEnd
    (ended : reader.checkEnd = .ok ())
    (settled : reader.mode = .ready ∨ reader.mode = .lineComment) :
    reader.below = [] := by
  rw [checkEnd] at ended
  rcases settled with ready | comment
  · rw [ready] at ended
    dsimp only at ended
    split at ended
    · exact List.isEmpty_iff.mp ‹_›
    · cases ended
  · rw [comment] at ended
    dsimp only at ended
    split at ended
    · exact List.isEmpty_iff.mp ‹_›
    · cases ended

/-- The end of a text and a closing bracket settle a reader alike, if the text
may end there. -/
theorem settle_closing
    (settled : reader.settle none = .ok after)
    (ended : after.checkEnd = .ok ()) :
    reader.settle (some (.plain ')')) = .ok after ∧
      (after.mode = .ready ∨ after.mode = .lineComment) := by
  rw [settle] at settled ⊢
  cases current : reader.mode with
  | ready | lineComment =>
      rw [current] at settled
      cases settled
      simp [current]
  | repeated =>
      rw [current] at settled
      cases settled
      exact ⟨rfl, .inl rfl⟩
  | braces start least most? =>
      rw [current] at settled
      cases settled
      exact ⟨rfl, .inl (mode_pushLiterals reader _ _)⟩
  | spelling start spelling =>
      rw [current] at settled
      obtain ⟨code, valued, pushed⟩ := exists_of_bind settled
      cases pushed
      have ends := Bool.eq_false_iff.mp (accepts_closing valued)
      dsimp only
      rw [Option.any_some, if_neg ends, valued]
      exact ⟨rfl, .inl rfl⟩
  | number start digits =>
      have ends := Bool.eq_false_iff.mp (numberAccepts_closing digits)
      rw [current] at settled
      dsimp only
      rw [Option.any_some, if_neg ends]
      exact ⟨settled, .inl (mode_pushNumber settled)⟩
  | set start set =>
      rw [current] at settled
      obtain ⟨next, _, moved⟩ := exists_of_bind settled
      cases moved
      cases ended
  | bracket start =>
      rw [current] at settled
      cases settled
      cases ended
  | question start | letter start | angle start | flagsOn start on
  | flagsOff start on off | comment start =>
      rw [current] at settled
      cases settled
      rw [checkEnd, current] at ended
      cases ended
  | name start use nameStart text =>
      rw [current] at settled
      cases settled
      rw [checkEnd, current] at ended
      dsimp only at ended
      split at ended <;> cases ended

theorem extends_pushNumber
    {start : Nat}
    {digits : List Char}
    (pushed : reader.pushNumber start digits = .ok after) :
    reader.Extends after ∧ 0 < reader.groups.size := by
  rw [pushNumber] at pushed
  split at pushed
  · split at pushed
    · rename_i closed
      obtain ⟨_, _, equal⟩ := exists_of_bind pushed
      cases equal
      refine ⟨.of_eq rfl rfl rfl, Nat.pos_of_ne_zero fun none => ?_⟩
      rw [isClosed, Array.getElem?_eq_none (by omega)] at closed
      cases closed
    · cases pushed
  · cases pushed

theorem extends_settle
    {next? : Option Symbol}
    (settled : reader.settle next? = .ok after) :
    reader.Extends after ∧
      (reader.RefersByNumber next? → 0 < reader.groups.size) := by
  by_cases refers : reader.RefersByNumber next?
  · obtain ⟨start, digits, current, ends⟩ := refers
    rw [settle, current] at settled
    dsimp only at settled
    rw [if_neg (Bool.eq_false_iff.mp ends)] at settled
    have pushed := extends_pushNumber settled
    exact ⟨pushed.1, fun _ => pushed.2⟩
  · exact ⟨(@follows_settle {} _ _ refers after settled).1,
      fun refersToo => absurd refersToo refers⟩

theorem Extends.size_le
    {reader after : Reader}
    (grown : reader.Extends after) :
    reader.groups.size ≤ after.groups.size := by
  rw [← length_groupNames, ← length_groupNames]
  exact grown.groups.length_le

variable [CharacterNames]

/-- Before a dangling backslash, reading stops. -/
theorem step_beforeDangling (s : Symbol) :
    reader.step s true ≠ .ok after := by
  intro stepped
  obtain ⟨settled, _, wasRead⟩ := exists_of_bind stepped
  split at wasRead
  · cases wasRead
  · rename_i stops
    obtain ⟨next, here, _⟩ := exists_of_bind wasRead
    rw [Bool.true_and, Bool.not_eq_true, Bool.not_eq_false', stopsAt,
      Bool.and_eq_true_iff, decide_eq_true_iff, Bool.or_eq_true_iff,
      Bool.and_eq_true_iff, Bool.and_eq_true_iff, decide_eq_true_iff,
      decide_eq_true_iff] at stops
    obtain ⟨ready, ⟨rfl, bottom⟩ | ⟨rfl, full⟩⟩ := stops
    · rw [readHere, ready] at here
      dsimp only at here
      rw [readFresh_closing, close, List.isEmpty_iff.mp bottom] at here
      dsimp only at here
      split at here <;> cases here
    · rw [readHere, ready] at here
      dsimp only at here
      rw [readFresh_bar, readBar, if_pos full] at here
      cases here

/-! ## Rows of symbols -/

/-- Reads a row of symbols behind which no dangling backslash stands. -/
def readRow (reader : Reader) (row : List Symbol) : Except Fault Reader :=
  row.foldlM (fun reader s => reader.step s false) reader

theorem readRow_cons (s : Symbol) (rest : List Symbol) :
    reader.readRow (s :: rest) =
      reader.step s false >>= fun next => next.readRow rest := rfl

theorem readRow_append (first second : List Symbol) :
    reader.readRow (first ++ second) =
      reader.readRow first >>= fun next => next.readRow second :=
  List.foldlM_append

theorem readAll_eq_readRow
    {row : List Symbol}
    (complete : .dangling ∉ row) :
    reader.readAll row = reader.readRow row := by
  induction row generalizing reader with
  | nil => rfl
  | cons s rest inductionHypothesis =>
      have behind : .dangling ∉ rest := fun member =>
        complete (List.mem_cons_of_mem s member)
      have notLast : (rest = [.dangling] : Bool) = false := by
        rw [decide_eq_false_iff_not]
        rintro rfl
        exact behind List.mem_cons_self
      rw [readAll, readRow_cons, notLast]
      exact congrArg _ (funext fun next => inductionHypothesis behind)

theorem readAll_dangling_ne_ok (row : List Symbol) (s : Symbol) :
    reader.readAll (s :: (row ++ [.dangling])) ≠ .ok after := by
  intro wasRead
  induction row generalizing reader s with
  | nil =>
      obtain ⟨next, stepped, _⟩ := exists_of_bind wasRead
      exact step_beforeDangling s stepped
  | cons other rest inductionHypothesis =>
      obtain ⟨next, _, behind⟩ := exists_of_bind wasRead
      exact inductionHypothesis other behind

/-- What is read from the start to the end has no dangling backslash. -/
theorem dangling_not_mem_of_readAll
    {text : List Char}
    (wasRead : ({} : Reader).readAll (Symbol.ofChars text) = .ok after) :
    .dangling ∉ Symbol.ofChars text := by
  intro dangles
  obtain ⟨front, equal⟩ := Symbol.exists_of_dangling_mem dangles
  rw [equal] at wasRead
  cases front with
  | nil => cases wasRead
  | cons s front => exact readAll_dangling_ne_ok front s wasRead

/-! ## Reading inside of an outer reader -/

/-- No digits behind a backslash are the number of a group, in a row of symbols
and at its end. -/
def NumberFree (reader : Reader) : List Symbol → Prop
  | [] => ¬reader.RefersByNumber none
  | s :: rest => ¬reader.RefersByNumber (some s) ∧
      ∀ next, reader.step s false = .ok next → next.NumberFree rest

theorem NumberFree.last
    {row : List Symbol}
    (free : reader.NumberFree row)
    (wasRead : reader.readRow row = .ok after) :
    ¬after.RefersByNumber none := by
  induction row generalizing reader with
  | nil =>
      cases wasRead
      exact free
  | cons s rest inductionHypothesis =>
      obtain ⟨next, stepped, behind⟩ := exists_of_bind wasRead
      exact inductionHypothesis (free.2 next stepped) behind

theorem follows_readRow
    {outer : Reader}
    {row : List Symbol}
    (free : reader.NumberFree row) :
    Follows outer reader (reader.readRow row)
      ((outer.embed reader).readRow row) := by
  induction row generalizing reader with
  | nil => exact .ok (.refl reader) fun sound _ => ⟨sound, rfl⟩
  | cons s rest inductionHypothesis =>
      exact (follows_step free.1).bind fun next stepped =>
        inductionHypothesis (free.2 next stepped)

/-! ## What reading leaves behind -/

theorem extends_step
    {s : Symbol}
    (stepped : reader.step s false = .ok after) :
    reader.Extends after ∧
      (reader.RefersByNumber (some s) → 0 < reader.groups.size) := by
  obtain ⟨next, settled, wasRead⟩ := exists_of_bind stepped
  have early := extends_settle settled
  have late := (@follows_read {} next _ s after wasRead).1
  exact ⟨early.1.trans late, early.2⟩

theorem extends_readRow
    {row : List Symbol}
    (wasRead : reader.readRow row = .ok after) :
    reader.Extends after := by
  induction row generalizing reader with
  | nil =>
      cases wasRead
      exact .refl _
  | cons s rest inductionHypothesis =>
      obtain ⟨next, stepped, behind⟩ := exists_of_bind wasRead
      exact (extends_step stepped).1.trans (inductionHypothesis behind)

/-- Without groups there are no numbers of groups. -/
theorem numberFree_of_size_eq_zero
    {row : List Symbol}
    {last : Reader}
    (wasRead : reader.readRow row = .ok after)
    (settled : after.settle none = .ok last)
    (free : last.groups.size = 0) :
    reader.NumberFree row := by
  induction row generalizing reader with
  | nil =>
      cases wasRead
      have grown := extends_settle settled
      have size := grown.1.size_le
      intro refers
      have positive := grown.2 refers
      omega
  | cons s rest inductionHypothesis =>
      obtain ⟨next, stepped, behind⟩ := exists_of_bind wasRead
      refine ⟨fun refers => ?_, fun other sameStep => ?_⟩
      · have positive := (extends_step stepped).2 refers
        have size := (extends_readRow wasRead).size_le
        have lastSize := (extends_settle settled).1.size_le
        omega
      · cases stepped.symm.trans sameStep
        exact inductionHypothesis behind

end Reader

/-! ## Texts that are expressions by themselves -/

variable [CharacterNames]

/-- A text is an expression by itself, and `last` is the settled reader at its
end. -/
structure ReadsTo (source : String) (last : Reader) : Prop where
  /-- The text does not end in a backslash. -/
  complete : .dangling ∉ Symbol.ofChars source.toList
  /-- The reader is settled by the end of the text. -/
  reads : ∃ before, ({} : Reader).readRow (Symbol.ofChars source.toList) =
    .ok before ∧ before.settle none = .ok last
  /-- The text may end there. -/
  ended : last.checkEnd = .ok ()
  /-- Choices refer to groups that there are. -/
  conditions : ∀ entry ∈ last.conditions, entry.1 ≤ last.groups.size
  /-- What is looked for behind a place has a fixed length. -/
  widths : Reader.checkWidthsBehind last.top.body = .ok ()

theorem exists_readsTo_of_parse
    {source : String}
    {program : Program}
    (parsed : parse source = .ok program) :
    ∃ last, ReadsTo source last ∧
      program = ⟨last.top.body, last.groups.size, last.names⟩ := by
  obtain ⟨before, wasRead, finished⟩ := exists_of_bind parsed
  obtain ⟨last, settled, rest⟩ := exists_of_bind finished
  obtain ⟨_, ended, rest⟩ := exists_of_bind rest
  have complete := Reader.dangling_not_mem_of_readAll wasRead
  rw [Reader.readAll_eq_readRow complete] at wasRead
  split at rest
  · cases rest
  · obtain ⟨_, conditions, rest⟩ := exists_of_bind rest
    obtain ⟨_, widths, equal⟩ := exists_of_bind rest
    refine ⟨last, ⟨complete, ⟨before, wasRead, settled⟩, ended, ?_, widths⟩,
      (Except.ok.inj equal).symm⟩
    intro entry member
    have known := forM_eq_ok_iff.mp conditions entry member
    dsimp only at known
    split at known
    · cases known
    · omega

namespace ReadsTo

variable
  {source : String}
  {last : Reader}
  (reads : ReadsTo source last)

include reads

/-- Inside of an outer reader, the text and the closing bracket lead to the
reader in which the text ends alone. -/
theorem inside
    (free : ({} : Reader).NumberFree (Symbol.ofChars source.toList))
    {outer : Reader}
    (admits : outer.Admits last) :
    last.IsSound ∧
      ((outer.embed {}).readRow (Symbol.ofChars source.toList) >>=
        fun before => before.settle (some (.plain ')'))) =
          .ok (outer.embed last) := by
  obtain ⟨before, wasRead, settled⟩ := reads.reads
  have unnumbered := free.last wasRead
  have closing := (Reader.settle_closing settled reads.ended).1
  have row := @Reader.follows_readRow {} _ outer _ free before wasRead
  have late := @Reader.follows_settle outer _ _
    (mt Reader.refersByNumber_closing_iff.mp unnumbered) last closing
  obtain ⟨sound, inside⟩ :=
    row.2 Reader.isSound_empty (admits.of_extends late.1)
  obtain ⟨lastSound, closed⟩ := late.2 sound admits
  rw [inside, ok_bind]
  exact ⟨lastSound, closed⟩

/-- Alone, the text ends outside of all brackets, in the middle of nothing. -/
theorem bottom
    (sound : last.IsSound) :
    last.mode = .ready ∧ last.below = [] ∧ last.top.opener = .whole ∧
      last.top.flags = {} ∧ last.groupsBefore? = none := by
  obtain ⟨before, wasRead, settled⟩ := reads.reads
  have calm := (Reader.settle_closing settled reads.ended).2
  have below := Reader.below_eq_nil_of_checkEnd reads.ended calm
  have stack := sound.stack
  rw [below] at stack
  refine ⟨?_, below, stack.1, stack.2, ?_⟩
  · rcases calm with ready | comment
    · exact ready
    · have fits := sound.fits
      rw [comment, stack.2] at fits
      cases fits
  · rcases sound.behind with none | ⟨positive, member⟩
    · exact none
    · rw [Reader.openers, below] at member
      rw [List.map_singleton, List.mem_singleton, stack.1] at member
      cases member

end ReadsTo

/-- A constraint may be spliced if it is an expression by itself, has no flags
for the whole expression, and refers to no group by its number.  The settled
reader at its end is `last`. -/
structure Splices (constraint : String) (last : Reader) : Prop where
  /-- The constraint is an expression by itself. -/
  reads : ReadsTo constraint last
  /-- No digits behind a backslash are the number of a group. -/
  free : ({} : Reader).NumberFree (Symbol.ofChars constraint.toList)
  /-- No choice refers to a group by its number. -/
  conditions : last.conditions = []
  /-- No flag holds for the whole expression. -/
  globalFlags : last.globalFlags = []

end Regex
end PathRouter
