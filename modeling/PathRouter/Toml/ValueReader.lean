import PathRouter.Toml.Key
import PathRouter.Toml.Moment
import PathRouter.Toml.Numeral
import PathRouter.Toml.Tree

/-!
# Reading values of documents

A value is a text, a truth value, a moment, a number, a list or a table.  The
lists and tables that are open are kept on a stack; a value that is complete
joins the innermost of them.  A list or table that is complete is closed to
later keys of the table around it.

## Main definitions

* `readScalar`: a value that is no list or table.
* `ValueState.step`: one step with the innermost list or table.
* `readValue`: a value.
-/

namespace PathRouter
namespace Toml

/-- The word at the front of a text as a truth value, and what stands behind
it. -/
def leadingTruth? (text : List Char) : Option (Value × List Char) :=
  if "true".toList.isPrefixOf text then some (.bool true, text.drop 4)
  else if "false".toList.isPrefixOf text then some (.bool false, text.drop 5)
  else none

/-- Reads a text behind the first of its opening marks, as a value. -/
def readTextValue (plain : Bool) (text : List Char) :
    Except Fault (Value × List Char) :=
  match readQuoted plain text with
  | .ok (content, behind) => .ok (.text (String.ofList content), behind)
  | .error fault => .error fault

/-- Reads a value that is no list or table. -/
def readScalar (text : List Char) : Except Fault (Value × List Char) :=
  match text with
  | '"' :: rest => readTextValue false rest
  | '\x27' :: rest => readTextValue true rest
  | _ =>
      match leadingTruth? text with
      | some result => .ok result
      | none =>
          match leadingMoment? text with
          | some result => result
          | none =>
              match leadingNumber? text with
              | some result => result
              | none => refuse .badValue text

/-- What stands behind a text is no longer than the text. -/
theorem length_le_of_readTextValue {plain : Bool} {text behind : List Char}
    {value : Value} (read : readTextValue plain text = .ok (value, behind)) :
    behind.length ≤ text.length := by
  unfold readTextValue at read
  split at read
  · next found =>
      simp only [Except.ok.injEq, Prod.mk.injEq] at read
      exact read.2 ▸ length_le_of_readQuoted found
  · simp at read

/-- What stands behind a truth value is shorter than the text. -/
theorem length_lt_of_leadingTruth? {text behind : List Char} {value : Value}
    (found : leadingTruth? text = some (value, behind)) :
    behind.length < text.length := by
  unfold leadingTruth? at found
  split at found
  · next front =>
      have bound := (List.isPrefixOf_iff_prefix.mp front).length_le
      simp only [Option.some.injEq, Prod.mk.injEq] at found
      rw [← found.2, List.length_drop]
      simp only [String.reduceToList, List.length_cons, List.length_nil]
        at bound
      omega
  · split at found
    · next front =>
        have bound := (List.isPrefixOf_iff_prefix.mp front).length_le
        simp only [Option.some.injEq, Prod.mk.injEq] at found
        rw [← found.2, List.length_drop]
        simp only [String.reduceToList, List.length_cons, List.length_nil]
          at bound
        omega
    · simp at found

/-- What stands behind a value is shorter than the text. -/
theorem length_lt_of_readScalar {text behind : List Char} {value : Value}
    (read : readScalar text = .ok (value, behind)) :
    behind.length < text.length := by
  unfold readScalar at read
  split at read
  · exact Nat.lt_succ_of_le (length_le_of_readTextValue read)
  · exact Nat.lt_succ_of_le (length_le_of_readTextValue read)
  · split at read
    · next truth =>
        simp only [Except.ok.injEq] at read
        exact length_lt_of_leadingTruth? (truth.trans (congrArg some read))
    · split at read
      · next moment =>
          exact length_lt_of_leadingMoment? (moment.trans (congrArg some read))
      · split at read
        · next number =>
            exact length_lt_of_leadingNumber?
              (number.trans (congrArg some read))
        · simp [refuse] at read

/-- Something that is open. -/
inductive Frame where
  /-- A list with its members so far, the last one first. -/
  | list (members : List Value)
  /-- A table with its entries so far, the keys that are closed in it, and the
  key whose value is still to come. -/
  | table (entries : Entries) (closed : List Key) (key : Key)

/-- How far a value has been read. -/
inductive ValueState where
  /-- A value has to come. -/
  | due (frames : List Frame)
  /-- A value is complete. -/
  | complete (value : Value) (frames : List Frame)

namespace ValueState

/-- Reads what stands behind the opening bracket of a list. -/
def openList (frames : List Frame) (text : List Char) :
    Except Fault (ValueState × List Char) :=
  match skipTrivia text with
  | .error fault => .error fault
  | .ok (']' :: behind) => .ok (complete (.list []) frames, behind)
  | .ok behind => .ok (due (.list [] :: frames), behind)

/-- Reads what stands behind the opening brace of a table. -/
def openTable (frames : List Frame) (text : List Char) :
    Except Fault (ValueState × List Char) :=
  match skipSpaces text with
  | '\x7d' :: behind => .ok (complete (.ofTable {}) frames, behind)
  | behind =>
      match readAssignment behind with
      | .error fault => .error fault
      | .ok (key, behind) => .ok (due (.table {} [] key :: frames), behind)

/-- Reads a value, or the start of one. -/
def begin (frames : List Frame) (text : List Char) :
    Except Fault (ValueState × List Char) :=
  match text with
  | '[' :: rest => openList frames rest
  | '\x7b' :: rest => openTable frames rest
  | _ =>
      match readScalar text with
      | .error fault => .error fault
      | .ok (value, behind) => .ok (complete value frames, behind)

/-- Adds a value to a list, and reads what stands behind the value. -/
def addMember (value : Value) (members : List Value) (frames : List Frame)
    (text : List Char) : Except Fault (ValueState × List Char) :=
  let members := value :: members
  match skipTrivia text with
  | .error fault => .error fault
  | .ok (']' :: behind) =>
      .ok (complete (.list members.reverse) frames, behind)
  | .ok (',' :: behind) =>
      match skipTrivia behind with
      | .error fault => .error fault
      | .ok (']' :: behind) =>
          .ok (complete (.list members.reverse) frames, behind)
      | .ok behind => .ok (due (.list members :: frames), behind)
  | .ok behind => refuse .unclosedList behind

/-- Whether a value is a list or a table. -/
def hasParts : Value → Bool
  | .list _ | .map .. => true
  | _ => false

/-- The entries of a table behind a new one. -/
def addEntry (value : Value) (entries : Entries) (closed : List Key)
    (key : Key) : Except Cause Entries :=
  if closed.any (·.isPrefixOf key) then .error (.immutable key)
  else
    changeTable false (addValue .duplicateKey (key.getLastD "") value)
      key.dropLast entries

/-- Adds a value to a table, and reads what stands behind the value. -/
def addToTable (value : Value) (entries : Entries) (closed : List Key)
    (key : Key) (frames : List Frame) (text : List Char) :
    Except Fault (ValueState × List Char) :=
  match addEntry value entries closed key with
  | .error cause => refuse cause text
  | .ok entries =>
      match skipSpaces text with
      | '\x7d' :: behind => .ok (complete (.ofTable entries) frames, behind)
      | ',' :: behind =>
          let closed := if hasParts value then key :: closed else closed
          match readAssignment (skipSpaces behind) with
          | .error fault => .error fault
          | .ok (key, behind) =>
              .ok (due (.table entries closed key :: frames), behind)
      | behind => refuse .unclosedTable behind

/-- Goes on with a value that is due or complete, unless nothing is open. -/
def step (state : ValueState) (text : List Char) :
    Except Fault (ValueState × List Char) :=
  match state with
  | due frames => begin frames text
  | complete value (.list members :: frames) =>
      addMember value members frames text
  | complete value (.table entries closed key :: frames) =>
      addToTable value entries closed key frames text
  | complete _ [] => refuse .badValue text

/-- What stands behind the start of a list is no longer than the text. -/
theorem length_le_of_openList {frames : List Frame} {text behind : List Char}
    {state : ValueState} (read : openList frames text = .ok (state, behind)) :
    behind.length ≤ text.length := by
  unfold openList at read
  split at read
  · simp at read
  · next rest skipped =>
      have bound := length_le_of_skipTrivia skipped
      simp only [Except.ok.injEq, Prod.mk.injEq] at read
      rw [← read.2]
      exact Nat.le_of_succ_le bound
  · next skipped =>
      simp only [Except.ok.injEq, Prod.mk.injEq] at read
      exact read.2 ▸ length_le_of_skipTrivia skipped

/-- What stands behind the start of a table is no longer than the text. -/
theorem length_le_of_openTable {frames : List Frame} {text behind : List Char}
    {state : ValueState} (read : openTable frames text = .ok (state, behind)) :
    behind.length ≤ text.length := by
  have spaces := length_dropWhile_le isSpace text
  unfold openTable at read
  split at read
  · next rest skipped =>
      unfold skipSpaces at skipped
      rw [skipped, List.length_cons] at spaces
      simp only [Except.ok.injEq, Prod.mk.injEq] at read
      rw [← read.2]
      omega
  · split at read
    · simp at read
    · next found =>
        have bound := length_lt_of_readAssignment found
        unfold skipSpaces at bound
        simp only [Except.ok.injEq, Prod.mk.injEq] at read
        rw [← read.2]
        omega

/-- What stands behind a step is shorter than the text. -/
theorem length_lt_of_begin {frames : List Frame} {text behind : List Char}
    {state : ValueState} (read : begin frames text = .ok (state, behind)) :
    behind.length < text.length := by
  unfold begin at read
  split at read
  · exact Nat.lt_succ_of_le (length_le_of_openList read)
  · exact Nat.lt_succ_of_le (length_le_of_openTable read)
  · split at read
    · simp at read
    · next found =>
        simp only [Except.ok.injEq, Prod.mk.injEq] at read
        exact read.2 ▸ length_lt_of_readScalar found

/-- What stands behind a step is shorter than the text. -/
theorem length_lt_of_addMember {value : Value} {members : List Value}
    {frames : List Frame} {text behind : List Char} {state : ValueState}
    (read : addMember value members frames text = .ok (state, behind)) :
    behind.length < text.length := by
  unfold addMember at read
  dsimp only at read
  split at read
  · simp at read
  · next rest skipped =>
      simp only [Except.ok.injEq, Prod.mk.injEq] at read
      exact read.2 ▸ length_le_of_skipTrivia skipped
  · next rest skipped =>
      have front := length_le_of_skipTrivia skipped
      rw [List.length_cons] at front
      split at read
      · simp at read
      · next last trailing =>
          have bound := length_le_of_skipTrivia trailing
          simp only [Except.ok.injEq, Prod.mk.injEq] at read
          rw [← read.2]
          rw [List.length_cons] at bound
          omega
      · next trailing =>
          have bound := length_le_of_skipTrivia trailing
          simp only [Except.ok.injEq, Prod.mk.injEq] at read
          rw [← read.2]
          omega
  · simp [refuse] at read

/-- What stands behind a step is shorter than the text. -/
theorem length_lt_of_addToTable {value : Value} {entries : Entries}
    {closed : List Key} {key : Key} {frames : List Frame}
    {text behind : List Char} {state : ValueState}
    (read : addToTable value entries closed key frames text =
      .ok (state, behind)) :
    behind.length < text.length := by
  have spaces := length_dropWhile_le isSpace text
  unfold addToTable at read
  split at read
  · simp [refuse] at read
  · split at read
    · next rest skipped =>
        unfold skipSpaces at skipped
        rw [skipped, List.length_cons] at spaces
        simp only [Except.ok.injEq, Prod.mk.injEq] at read
        exact read.2 ▸ spaces
    · next rest skipped =>
        have later := length_dropWhile_le isSpace rest
        unfold skipSpaces at skipped
        rw [skipped, List.length_cons] at spaces
        dsimp only at read
        split at read
        · simp at read
        · next found =>
            have bound := length_lt_of_readAssignment found
            unfold skipSpaces at bound
            simp only [Except.ok.injEq, Prod.mk.injEq] at read
            rw [← read.2]
            omega
    · simp [refuse] at read

/-- What stands behind a step is shorter than the text. -/
theorem length_lt_of_step {before after : ValueState} {text behind : List Char}
    (read : before.step text = .ok (after, behind)) :
    behind.length < text.length := by
  unfold step at read
  split at read
  · exact length_lt_of_begin read
  · exact length_lt_of_addMember read
  · exact length_lt_of_addToTable read
  · simp [refuse] at read

/-- Goes on until a value is complete and nothing is open. -/
def run (state : ValueState) (text : List Char) :
    Except Fault (Value × List Char) :=
  match state with
  | complete value [] => .ok (value, text)
  | state =>
      match _step : state.step text with
      | .error fault => .error fault
      | .ok (next, behind) => run next behind
termination_by text.length
decreasing_by exact length_lt_of_step _step

/-- What stands behind a run is no longer than the text. -/
theorem length_le_of_run {state : ValueState} {text behind : List Char}
    {value : Value} (read : state.run text = .ok (value, behind)) :
    behind.length ≤ text.length := by
  fun_induction run state text with
  | case1 =>
      simp only [Except.ok.injEq, Prod.mk.injEq] at read
      exact read.2 ▸ Nat.le_refl _
  | case2 => simp at read
  | case3 _ _ _ _ _ equal inductionHypothesis =>
      exact Nat.le_trans (inductionHypothesis read)
        (Nat.le_of_lt (length_lt_of_step equal))

end ValueState

/-- Reads a value. -/
def readValue (text : List Char) : Except Fault (Value × List Char) :=
  (ValueState.due []).run text

/-- What stands behind a value is no longer than the text. -/
theorem length_le_of_readValue {text behind : List Char} {value : Value}
    (read : readValue text = .ok (value, behind)) :
    behind.length ≤ text.length :=
  ValueState.length_le_of_run read

end Toml
end PathRouter
