import PathRouter.Proofs.Within
import PathRouter.Toml.Document

/-!
# Which settings documents exceed a limit

A settings document that cannot be read is malformed unless an integer to base
ten with too many digits stands where a value is due: behind a key, or inside
of the lists and tables that are written there.

## Main definitions

* `BeginsWithLongInteger`: a text begins with such an integer.
* `ValueState.LeadsTo` and `Document.LeadsTo`: reading gets from one place of a
  value, or from one line, to a later one.
* `ExceedsLimit`: the limit that a document exceeds.

## Main statements

* `parse_eq_limit_iff`: a document is refused with a limit exactly if it
  exceeds the limit.
-/

namespace PathRouter
namespace Toml

/-! ## What exceeds a limit -/

/-- A text begins with an integer to base ten that has too many digits. -/
structure BeginsWithLongInteger (text : List Char) (digits : Nat) :
    Prop where
  /-- The text does not begin with a moment. -/
  noMoment : leadingMoment? text = none
  /-- No other base is announced. -/
  noBase : announcedInteger? text = none
  /-- The number of digits. -/
  count : (leadingWhole (leadingSign text).2).1.length = digits
  /-- No fraction follows. -/
  noFraction :
    (leadingFraction (leadingWhole (leadingSign text).2).2).1 = []
  /-- No exponent follows. -/
  noExponent :
    (leadingExponent (leadingFraction
      (leadingWhole (leadingSign text).2).2).2).1 = none
  /-- The digits are too many. -/
  large : Limit.maxNumeralDigits < digits

/-- A value is due, and the text goes on with an integer that has too many
digits. -/
inductive ValueState.Exceeds : ValueState → List Char → Limit → Prop
  | integer
      {frames : List Frame}
      {text : List Char}
      {digits : Nat}
      (long : BeginsWithLongInteger text digits) :
      Exceeds (.due frames) text (.numeralDigits digits)

/-- Reading a value gets from one place to a later one. -/
inductive ValueState.LeadsTo :
    ValueState → List Char → ValueState → List Char → Prop
  | refl (state : ValueState) (text : List Char) : LeadsTo state text state text
  | step
      {state next last : ValueState}
      {text rest behind : List Char}
      (stepped : state.step text = .ok (next, rest))
      (further : LeadsTo next rest last behind) :
      LeadsTo state text last behind

/-- A text begins with a value in which a limit is exceeded. -/
def ValueExceeds (text : List Char) (exceeded : Limit) : Prop :=
  ∃ state behind, ValueState.LeadsTo (.due []) text state behind ∧
    state.Exceeds behind exceeded

/-- A line gives a key a value in which a limit is exceeded. -/
inductive LineExceeds (text : List Char) (exceeded : Limit) : Prop
  | entry
      {key : Key}
      {behindKey : List Char}
      (assigns : readAssignment (skipSpaces text) = .ok (key, behindKey))
      (value : ValueExceeds behindKey exceeded)

/-- Reading lines gets from the start of one to the start of a later one. -/
inductive Document.LeadsTo :
    Document → List Char → Document → List Char → Prop
  | refl (document : Document) (text : List Char) :
      LeadsTo document text document text
  | line
      {document next last : Document}
      {text rest behind : List Char}
      (read : document.readLine text = .ok (next, '\n' :: rest))
      (further : LeadsTo next rest last behind) :
      LeadsTo document text last behind

/-- Reading a document gets without a fault to a line in which a limit is
exceeded. -/
def ExceedsLimit (text : List Char) (exceeded : Limit) : Prop :=
  ∃ document line, Document.LeadsTo {} text document line ∧
    LineExceeds line exceeded

/-- A fault exceeds the limit that it names, if any. -/
theorem within_error
    {kept : α → Prop}
    {expected : Limit → Prop}
    {fault : Fault}
    (limits : ∀ exceeded, fault = .limit exceeded → expected exceeded) :
    Within kept expected (.error fault : Except Fault α) := by
  cases fault with
  | malformed cause left => exact .refused rfl
  | limit exceeded => exact .limit rfl (limits exceeded rfl)

/-! ## Blanks, texts and keys -/

theorem calm_skipComment (text : List Char) :
    Calm (fun _ => True) (skipComment text) := by
  unfold skipComment
  dsimp only
  split
  · trivial
  · exact .refused rfl

theorem calm_skipAnyComment (text : List Char) :
    Calm (fun _ => True) (skipAnyComment text) := by
  unfold skipAnyComment
  split
  · exact calm_skipComment _
  · trivial

theorem calm_skipTrivia (text : List Char) :
    Calm (fun _ => True) (skipTrivia text) := by
  fun_induction skipTrivia text with
  | case1 _ _ _ _ _ inductionHypothesis => exact inductionHypothesis
  | case2 _ _ _ _ failed => exact (calm_skipComment _).passed failed
  | case3 => trivial

theorem calm_readPlain
    (mark : List Char)
    (illegal : Char → Bool)
    (text : List Char) :
    Calm (fun _ => True) (readPlain mark illegal text) := by
  unfold readPlain
  split
  · exact .refused rfl
  · split
    · trivial
    · exact .refused rfl

theorem calm_readCode (width : Nat) (text : List Char) :
    Calm (fun _ => True) (readCode width text) := by
  unfold readCode
  dsimp only
  split
  · refine .ite (fun _ => .refused rfl) fun _ => ?_
    exact .ite (fun _ => trivial) fun _ => .refused rfl
  · exact .refused rfl

theorem calm_readEscape (severalLines : Bool) (text : List Char) :
    Calm (fun _ => True) (readEscape severalLines text) := by
  unfold readEscape
  split
  · exact .refused rfl
  · refine .ite (fun _ => ?_) fun _ => ?_
    · split
      · trivial
      · trivial
      · exact .refused rfl
    · refine .ite (fun _ => calm_readCode ..) fun _ => ?_
      refine .ite (fun _ => calm_readCode ..) fun _ => ?_
      split
      · trivial
      · exact .refused rfl

theorem calm_readEscaped (severalLines : Bool) (text : List Char) :
    Calm (fun _ => True) (readEscaped severalLines text) := by
  fun_induction readEscaped severalLines text with
  | case1 | case7 => exact .refused rfl
  | case2 | case3 => trivial
  | case4 _ _ _ inductionHypothesis
  | case5 _ _ _ _ inductionHypothesis
  | case8 _ _ _ _ _ inductionHypothesis =>
      exact .bind inductionHypothesis fun _ _ _ => trivial
  | case6 _ _ failed => exact (calm_readEscape ..).passed failed

theorem calm_readSingleLine (plain : Bool) (text : List Char) :
    Calm (fun _ => True) (readSingleLine plain text) :=
  .ite (fun _ => calm_readPlain ..) fun _ => calm_readEscaped ..

theorem calm_readQuoted (plain : Bool) (text : List Char) :
    Calm (fun _ => True) (readQuoted plain text) := by
  have block (text : List Char) :
      Calm (fun _ => True) (readBlock plain text) :=
    .ite (fun _ => calm_readPlain ..) fun _ => calm_readEscaped ..
  refine .ite (fun _ => ?_) fun _ => calm_readSingleLine ..
  unfold readSeveralLines
  split
  · next failed => exact (block _).passed failed
  · trivial

theorem calm_readPart (text : List Char) :
    Calm (fun _ => True) (readPart text) := by
  unfold readPart
  split
  · exact .refused rfl
  · refine .ite (fun _ => trivial) fun _ => ?_
    refine .ite (fun _ => calm_readSingleLine ..) fun _ => ?_
    exact .ite (fun _ => calm_readSingleLine ..) fun _ => .refused rfl

theorem calm_readKey (text : List Char) :
    Calm (fun _ => True) (readKey text) := by
  fun_induction readKey text with
  | case1 _ _ failed => exact (calm_readPart _).passed failed
  | case2 _ _ _ _ _ _ inductionHypothesis =>
      exact .bind inductionHypothesis fun _ _ _ => trivial
  | case3 => trivial

theorem calm_readAssignment (text : List Char) :
    Calm (fun _ => True) (readAssignment text) := by
  unfold readAssignment
  split
  · next failed => exact (calm_readKey text).passed failed
  · trivial
  · exact .refused rfl

/-! ## Values -/

theorem calm_leadingMoment?
    {text : List Char}
    {result : Except Fault (Value × List Char)}
    (found : leadingMoment? text = some result) :
    Calm (fun _ => True) result := by
  unfold leadingMoment? at found
  split at found
  · cases found
    refine .ite (fun _ => ?_) fun _ => .refused rfl
    split <;> trivial
  · obtain ⟨_, _, rfl⟩ := Option.map_eq_some_iff.mp found
    trivial

theorem BeginsWithLongInteger.leadingDecimal?_eq
    {text : List Char}
    {digits : Nat}
    (long : BeginsWithLongInteger text digits) :
    leadingDecimal? text = some (.error (.limit (.numeralDigits digits))) := by
  have nonempty : (leadingWhole (leadingSign text).2).1.isEmpty = false := by
    rw [List.isEmpty_eq_false_iff, ← List.length_pos_iff, long.count]
    exact Nat.zero_lt_of_lt long.large
  have large := long.large
  rw [← long.count] at large ⊢
  unfold leadingDecimal?
  dsimp only
  rw [if_neg (Bool.eq_false_iff.mp nonempty), long.noFraction,
    long.noExponent, List.isEmpty_nil, Option.isNone_none, Bool.and_self,
    if_pos rfl, if_pos large]

theorem beginsWithLongInteger_of_leadingDecimal?
    {text : List Char}
    {exceeded : Limit}
    (noMoment : leadingMoment? text = none)
    (noBase : announcedInteger? text = none)
    (refused : leadingDecimal? text = some (.error (.limit exceeded))) :
    ∃ digits, exceeded = .numeralDigits digits ∧
      BeginsWithLongInteger text digits := by
  unfold leadingDecimal? at refused
  dsimp only at refused
  split at refused
  · cases refused
  · split at refused
    · next plain =>
        rw [Bool.and_eq_true, List.isEmpty_iff, Option.isNone_iff_eq_none]
          at plain
        split at refused
        · next large =>
            cases refused
            exact ⟨_, rfl, noMoment, noBase, rfl, plain.1, plain.2, large⟩
        · cases refused
    · cases refused

/-- A number exceeds a limit only as an integer to base ten. -/
theorem beginsWithLongInteger_of_leadingNumber?
    {text : List Char}
    {exceeded : Limit}
    (noMoment : leadingMoment? text = none)
    (refused : leadingNumber? text = some (.error (.limit exceeded))) :
    ∃ digits, exceeded = .numeralDigits digits ∧
      BeginsWithLongInteger text digits := by
  unfold leadingNumber? at refused
  cases announced : announcedInteger? text with
  | some result =>
      rw [announced] at refused
      cases refused
  | none =>
      rw [announced] at refused
      cases decimal : leadingDecimal? text with
      | none =>
          rw [decimal] at refused
          obtain ⟨word, _, equal⟩ := Option.map_eq_some_iff.mp refused
          cases equal
      | some result =>
          rw [decimal] at refused
          cases refused
          exact beginsWithLongInteger_of_leadingDecimal? noMoment announced
            decimal

/-- A number to base ten begins with a digit or a sign. -/
theorem head_of_leadingWhole
    {c : Char}
    {rest : List Char}
    (nonempty : (leadingWhole (leadingSign (c :: rest)).2).1 ≠ []) :
    c.isDigit = true ∨ c = '-' ∨ c = '+' := by
  unfold leadingSign at nonempty
  split at nonempty
  · next equal => exact .inr (.inl (List.cons.inj equal).1)
  · next equal => exact .inr (.inr (List.cons.inj equal).1)
  · refine .inl ?_
    unfold leadingWhole at nonempty
    split at nonempty
    · next equal =>
        rw [(List.cons.inj equal).1]
        rfl
    · rw [groupedDigits] at nonempty
      split at nonempty
      · assumption
      · exact absurd rfl nonempty

theorem BeginsWithLongInteger.exists_head
    {text : List Char}
    {digits : Nat}
    (long : BeginsWithLongInteger text digits) :
    ∃ c rest, text = c :: rest ∧
      (c.isDigit = true ∨ c = '-' ∨ c = '+') := by
  have nonempty : (leadingWhole (leadingSign text).2).1 ≠ [] := by
    rw [← List.length_pos_iff, long.count]
    exact Nat.zero_lt_of_lt long.large
  cases text with
  | nil => exact absurd rfl nonempty
  | cons c rest => exact ⟨c, rest, rfl, head_of_leadingWhole nonempty⟩

/-- A value is refused with a limit where it begins with an integer that has too
many digits. -/
theorem BeginsWithLongInteger.begin_eq
    {text : List Char}
    {digits : Nat}
    (long : BeginsWithLongInteger text digits)
    (frames : List Frame) :
    ValueState.begin frames text =
      .error (.limit (.numeralDigits digits)) := by
  have number : leadingNumber? text =
      some (.error (.limit (.numeralDigits digits))) := by
    rw [leadingNumber?, long.noBase, long.leadingDecimal?_eq]
    rfl
  have moment := long.noMoment
  obtain ⟨c, rest, rfl, starts⟩ := long.exists_head
  have notMark (mark : Char) (plain : mark.isDigit = false)
      (minus : mark ≠ '-') (plus : mark ≠ '+') (other : List Char) :
      c :: rest = mark :: other → False := by
    rintro equal
    cases equal
    rcases starts with digit | equal | equal
    · cases plain.symm.trans digit
    · exact minus equal
    · exact plus equal
  have quotation := notMark '"' rfl (by decide) (by decide)
  have apostrophe := notMark '\x27' rfl (by decide) (by decide)
  have bracket := notMark '[' rfl (by decide) (by decide)
  have brace := notMark '\x7b' rfl (by decide) (by decide)
  have noTruth : leadingTruth? (c :: rest) = none := by
    have t : 't' ≠ c := fun equal =>
      notMark 't' rfl (by decide) (by decide) rest (by rw [equal])
    have f : 'f' ≠ c := fun equal =>
      notMark 'f' rfl (by decide) (by decide) rest (by rw [equal])
    simp [leadingTruth?, t, f]
  have scalar : readScalar (c :: rest) =
      .error (.limit (.numeralDigits digits)) := by
    rw [readScalar.eq_3 _ quotation apostrophe, noTruth, moment, number]
  rw [ValueState.begin.eq_3 _ _ bracket brace, scalar]

theorem readScalar_within (text : List Char) :
    Within (fun _ => True)
      (fun exceeded => ∃ digits, exceeded = .numeralDigits digits ∧
        BeginsWithLongInteger text digits)
      (readScalar text) := by
  have quoted (plain : Bool) (text : List Char) :
      Calm (fun _ => True) (readTextValue plain text) := by
    unfold readTextValue
    split
    · trivial
    · next failed => exact (calm_readQuoted ..).passed failed
  unfold readScalar
  split
  · exact (quoted ..).within
  · exact (quoted ..).within
  · split
    · trivial
    · split
      · next moment => exact (calm_leadingMoment? moment).within
      · next noMoment =>
          split
          · next result number =>
              cases result with
              | ok value => trivial
              | error fault =>
                  apply within_error
                  rintro exceeded rfl
                  exact beginsWithLongInteger_of_leadingNumber? noMoment number
          · exact .refused rfl

namespace ValueState

variable {state : ValueState} {text : List Char} {exceeded : Limit}

theorem calm_openList (frames : List Frame) (text : List Char) :
    Calm (fun _ => True) (openList frames text) := by
  unfold openList
  split
  · next failed => exact (calm_skipTrivia text).passed failed
  · trivial
  · trivial

theorem calm_openTable (frames : List Frame) (text : List Char) :
    Calm (fun _ => True) (openTable frames text) := by
  unfold openTable
  split
  · trivial
  · split
    · next failed => exact (calm_readAssignment _).passed failed
    · trivial

theorem calm_addMember
    (value : Value)
    (members : List Value)
    (frames : List Frame)
    (text : List Char) :
    Calm (fun _ => True) (addMember value members frames text) := by
  unfold addMember
  dsimp only
  split
  · next failed => exact (calm_skipTrivia text).passed failed
  · trivial
  · split
    · next failed => exact (calm_skipTrivia _).passed failed
    · trivial
    · trivial
  · exact .refused rfl

theorem calm_addToTable
    (value : Value)
    (entries : Entries)
    (closed : List Key)
    (key : Key)
    (frames : List Frame)
    (text : List Char) :
    Calm (fun _ => True)
      (addToTable value entries closed key frames text) := by
  unfold addToTable
  split
  · exact .refused rfl
  · split
    · trivial
    · dsimp only
      split
      · next failed => exact (calm_readAssignment _).passed failed
      · trivial
    · exact .refused rfl

theorem begin_within (frames : List Frame) (text : List Char) :
    Within (fun _ => True) ((due frames).Exceeds text)
      (begin frames text) := by
  unfold begin
  split
  · exact (calm_openList ..).within
  · exact (calm_openTable ..).within
  · have scalar := readScalar_within text
    split
    · next fault failed =>
        rw [failed] at scalar
        intro exceeded limit
        obtain ⟨digits, rfl, long⟩ := scalar exceeded limit
        exact .integer long
    · trivial

/-- A step exceeds a limit only where a value is due. -/
theorem step_within (state : ValueState) (text : List Char) :
    Within (fun _ => True) (state.Exceeds text) (state.step text) := by
  unfold step
  split
  · exact begin_within ..
  · exact (calm_addMember ..).within
  · exact (calm_addToTable ..).within
  · exact .refused rfl

theorem Exceeds.step_eq (exceeds : state.Exceeds text exceeded) :
    state.step text = .error (.limit exceeded) := by
  cases exceeds with
  | integer long => exact long.begin_eq _

/-- A run exceeds a limit exactly if one of its steps does. -/
theorem run_eq_limit_iff :
    state.run text = .error (.limit exceeded) ↔
      ∃ last behind, LeadsTo state text last behind ∧
        last.Exceeds behind exceeded := by
  fun_induction run state text with
  | case1 text value =>
      constructor
      · intro refused
        cases refused
      · rintro ⟨last, behind, leads, exceeds⟩
        cases leads with
        | refl => cases exceeds
        | step stepped further => cases stepped
  | case2 text state unfinished fault failed =>
      have within := step_within state text
      rw [failed] at within
      constructor
      · intro refused
        cases refused
        exact ⟨state, text, .refl .., within _ rfl⟩
      · rintro ⟨last, behind, leads, exceeds⟩
        cases leads with
        | refl =>
            cases failed.symm.trans exceeds.step_eq
            rfl
        | step stepped further => cases failed.symm.trans stepped
  | case3 text state unfinished next rest stepped inductionHypothesis =>
      rw [inductionHypothesis]
      constructor
      · rintro ⟨last, behind, leads, exceeds⟩
        exact ⟨last, behind, .step stepped leads, exceeds⟩
      · rintro ⟨last, behind, leads, exceeds⟩
        cases leads with
        | refl => cases stepped.symm.trans exceeds.step_eq
        | step sameStep further =>
            cases stepped.symm.trans sameStep
            exact ⟨last, behind, further, exceeds⟩

end ValueState

theorem readValue_eq_limit_iff
    {text : List Char}
    {exceeded : Limit} :
    readValue text = .error (.limit exceeded) ↔ ValueExceeds text exceeded :=
  ValueState.run_eq_limit_iff

/-! ## Lines -/

theorem isKeyStart_of_readPart
    {c : Char}
    {rest part behind : List Char}
    (read : readPart (c :: rest) = .ok (part, behind)) :
    isKeyStart c = true := by
  rw [readPart] at read
  unfold isKeyStart
  split at read
  · next bare => simp [bare]
  · split at read
    · next apostrophe => simp [apostrophe]
    · split at read
      · next quotation => simp [quotation]
      · cases read

/-- A key begins with a character that no other statement begins with. -/
theorem exists_head_of_readAssignment
    {text behind : List Char}
    {key : Key}
    (read : readAssignment text = .ok (key, behind)) :
    ∃ c rest, text = c :: rest ∧ isKeyStart c = true := by
  unfold readAssignment at read
  rw [readKey] at read
  cases part : readPart text with
  | error fault =>
      rw [part] at read
      cases read
  | ok found =>
      cases text with
      | nil => cases part
      | cons c rest => exact ⟨c, rest, rfl, isKeyStart_of_readPart part⟩

namespace Document

variable {document : Document} {text : List Char} {exceeded : Limit}

theorem calm_change
    (document : Document)
    (left : List Char)
    (key : Key)
    (how : Entries → Except Cause Entries) :
    Calm (fun _ => True) (document.change left key how) := by
  unfold change
  split
  · exact .refused rfl
  · trivial

theorem calm_declareTable
    (document : Document)
    (key : Key)
    (left : List Char) :
    Calm (fun _ => True) (document.declareTable key left) := by
  refine .ite (fun _ => .refused rfl) fun _ => ?_
  refine .bind (calm_change ..) fun _ _ _ => ?_
  split
  · trivial
  · exact .refused rfl

theorem calm_declareMember
    (document : Document)
    (key : Key)
    (left : List Char) :
    Calm (fun _ => True) (document.declareMember key left) := by
  refine .ite (fun _ => .refused rfl) fun _ => ?_
  refine .bind (calm_change ..) fun _ _ _ => ?_
  split
  · trivial
  · exact .refused rfl

theorem calm_readHeader (document : Document) (text : List Char) :
    Calm (fun _ => True) (document.readHeader text) := by
  unfold readHeader
  dsimp only
  split
  · split
    · next failed => exact (calm_readKey _).passed failed
    · exact calm_declareMember ..
  · split
    · next failed => exact (calm_readKey _).passed failed
    · exact calm_declareTable ..

theorem calm_assign
    (document : Document)
    (key : Key)
    (value : Value)
    (left : List Char) :
    Calm (fun _ => True) (document.assign key value left) := by
  unfold assign
  dsimp only
  split
  · exact .refused rfl
  · refine .ite (fun _ => .refused rfl) fun _ => ?_
    exact .bind (calm_change ..) fun _ _ _ => trivial

theorem readEntry_within (document : Document) (text : List Char) :
    Within (fun _ => True)
      (fun exceeded => ∃ key behindKey,
        readAssignment text = .ok (key, behindKey) ∧
          ValueExceeds behindKey exceeded)
      (document.readEntry text) := by
  unfold readEntry
  split
  · next failed => exact (calm_readAssignment text).passed failed
  · next key behindKey assigns =>
      split
      · next fault failed =>
          apply within_error
          rintro exceeded rfl
          exact ⟨key, behindKey, assigns, readValue_eq_limit_iff.mp failed⟩
      · split
        · next failed => exact (calm_assign ..).passed failed
        · trivial

/-- A line exceeds a limit only in the value that it gives to a key. -/
theorem readLine_within (document : Document) (text : List Char) :
    Within (fun _ => True) (LineExceeds text) (document.readLine text) := by
  have statement : Within (fun _ => True) (LineExceeds text)
      (document.readStatement (skipSpaces text)) := by
    unfold readStatement
    split
    · trivial
    · next c rest front =>
        refine .ite (fun _ => ?_) fun _ => ?_
        · refine (readEntry_within ..).mono ?_
          rintro exceeded ⟨key, behindKey, assigns, value⟩
          exact .entry assigns value
        · refine .ite (fun _ => (calm_readHeader ..).within) fun _ => ?_
          exact .ite (fun _ => trivial) fun _ => .refused rfl
  refine .bind statement fun _ _ _ => ?_
  exact .bind (calm_skipAnyComment _).within fun _ _ _ => trivial

end Document

theorem LineExceeds.readLine_eq
    {text : List Char}
    {exceeded : Limit}
    (exceeds : LineExceeds text exceeded)
    (document : Document) :
    document.readLine text = .error (.limit exceeded) := by
  cases exceeds with
  | entry assigns value =>
      have entry : document.readEntry (skipSpaces text) =
          .error (.limit exceeded) := by
        rw [Document.readEntry, assigns]
        dsimp only
        rw [readValue_eq_limit_iff.mpr value]
      obtain ⟨c, rest, front, starts⟩ := exists_head_of_readAssignment assigns
      have statement : document.readStatement (skipSpaces text) =
          .error (.limit exceeded) := by
        rw [front] at entry ⊢
        rw [Document.readStatement, if_pos starts, entry]
      rw [Document.readLine, statement, error_bind]

/-- Reading lines exceeds a limit exactly if one of the lines does. -/
theorem Document.readLines_eq_limit_iff
    {document : Document}
    {text : List Char}
    {exceeded : Limit} :
    document.readLines text = .error (.limit exceeded) ↔
      ∃ last line, LeadsTo document text last line ∧
        LineExceeds line exceeded := by
  fun_induction readLines document text with
  | case1 document text fault failed =>
      have within := readLine_within document text
      rw [failed] at within
      constructor
      · intro refused
        cases refused
        exact ⟨document, text, .refl .., within _ rfl⟩
      · rintro ⟨last, line, leads, exceeds⟩
        cases leads with
        | refl =>
            cases failed.symm.trans (exceeds.readLine_eq document)
            rfl
        | line read further => cases failed.symm.trans read
  | case2 document text next read =>
      constructor
      · intro refused
        cases refused
      · rintro ⟨last, line, leads, exceeds⟩
        cases leads with
        | refl => cases read.symm.trans (exceeds.readLine_eq document)
        | line other further => cases read.symm.trans other
  | case3 document text next rest read inductionHypothesis =>
      rw [inductionHypothesis]
      constructor
      · rintro ⟨last, line, leads, exceeds⟩
        exact ⟨last, line, .line read leads, exceeds⟩
      · rintro ⟨last, line, leads, exceeds⟩
        cases leads with
        | refl => cases read.symm.trans (exceeds.readLine_eq document)
        | line sameLine further =>
            cases read.symm.trans sameLine
            exact ⟨last, line, further, exceeds⟩
  | case4 document text next behind notNil notLineEnd read =>
      constructor
      · intro refused
        cases refused
      · rintro ⟨last, line, leads, exceeds⟩
        cases leads with
        | refl => cases read.symm.trans (exceeds.readLine_eq document)
        | line other further =>
            cases read.symm.trans other
            exact (notLineEnd _ rfl).elim

/-- A document is refused with a limit exactly if it exceeds the limit. -/
theorem parse_eq_limit_iff
    {document : List Char}
    {exceeded : Limit} :
    parse document = .error (.limit exceeded) ↔
      ExceedsLimit document exceeded := by
  rw [ExceedsLimit, ← Document.readLines_eq_limit_iff, parse]
  cases Document.readLines {} document with
  | error fault =>
      constructor
      · intro refused
        cases refused
        rfl
      · intro refused
        cases refused
        rfl
  | ok last =>
      constructor
      · intro refused
        cases refused
      · intro refused
        cases refused

end Toml
end PathRouter
