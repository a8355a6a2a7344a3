import PathRouter.Proofs.Regex.Splicing
import PathRouter.Proofs.Within

/-!
# Which expressions exceed a limit

Almost all texts that cannot be read are malformed.  Only two things exceed a
limit instead: a repetition count in braces that is too large, and a code point
that eight hexadecimal digits spell far beyond the last one.  Flags that clash
are a third way, which is closed to an expression that begins with an anchor.

## Main definitions

* `Reader.Exceeds`: the limit that a reader exceeds before what is left.
* `Reader.LeadsTo`: reading gets from one place to a later one.
* `ExceedsLimit`: the limit that the text of an expression exceeds.

## Main statements

* `parse_eq_limit_iff`: an anchored expression exceeds a limit exactly where
  one of the two things is read.
-/

namespace PathRouter
namespace Regex

/-! ## What exceeds a limit -/

/-- The spelled code point is too large even to be compared with the last
one. -/
def Spelling.IsHuge : Spelling → Prop
  | hex _ size digits =>
      digits.length = size ∧ 0x80000000 ≤ (Text.hexValue? digits).getD 0
  | _ => False

/-- The member of a set that is still spelled out. -/
def SetReader.spelling? (reader : SetReader) : Option Spelling :=
  match reader.stage with
  | .spelling _ _ spelling => some spelling
  | .upperSpelling _ _ _ spelling => some spelling
  | _ => none

namespace Reader

/-- The limit that the digits of a repetition count exceed. -/
def exceededByCount? (digits : List Char) : Option Limit :=
  if Limit.maxNumeralDigits < digits.length then
    some (.numeralDigits digits.length)
  else if countLimit ≤ Text.digitsValue
      (digits.map fun c => c.toNat - 0x30) then
    some .repetitionCount
  else none

/-- The limit that the first of two repetition counts exceeds, or else the
second one; a missing second count is the first one again. -/
def exceededByCounts? (least : List Char) (most? : Option (List Char)) :
    Option Limit :=
  exceededByCount? least <|> exceededByCount? (most?.getD least)

/-- The code point that is being spelled out, in a set or outside of one. -/
def spelled? (reader : Reader) : Option Spelling :=
  match reader.mode with
  | .spelling _ spelling => some spelling
  | .set _ set => set.spelling?
  | _ => none

/-- The next symbol, or the end of the text, completes the spelling of a code
point that is too large. -/
def SpellsHuge (reader : Reader) (next? : Option Symbol) : Prop :=
  ∃ spelling, reader.spelled? = some spelling ∧
    next?.any spelling.accepts = false ∧ spelling.IsHuge

/-- The limit that a reader exceeds before the symbols that are left. -/
inductive Exceeds (reader : Reader) : List Symbol → Limit → Prop
  | codePoint
      {rest : List Symbol}
      (huge : reader.SpellsHuge rest.head?) :
      Exceeds reader rest .codePoint
  | count
      {start : Nat}
      {least : List Char}
      {most? : Option (List Char)}
      {rest : List Symbol}
      {exceeded : Limit}
      (mode : reader.mode = .braces start least most?)
      (counted : bracesAccept least most? (.plain '\x7d') = true)
      (goesOn : rest ≠ [.dangling])
      (large : exceededByCounts? least most? = some exceeded) :
      Exceeds reader (.plain '\x7d' :: rest) exceeded

/-- Reading gets from one place in a row of symbols to a later one. -/
inductive LeadsTo [CharacterNames] :
    Reader → List Symbol → Reader → List Symbol → Prop
  | refl (reader : Reader) (row : List Symbol) : LeadsTo reader row reader row
  | step
      {reader next last : Reader}
      {s : Symbol}
      {rest behind : List Symbol}
      (stepped : reader.step s (rest = [.dangling]) = .ok next)
      (further : LeadsTo next rest last behind) :
      LeadsTo reader (s :: rest) last behind

end Reader

/-- Reading the text of an expression gets without a fault to a place where it
exceeds a limit. -/
def ExceedsLimit [CharacterNames] (source : String) (exceeded : Limit) : Prop :=
  ∃ reader behind,
    Reader.LeadsTo {} (Symbol.ofChars source.toList) reader behind ∧
      reader.Exceeds behind exceeded

/-! ## Readers that have begun -/

namespace Reader

/-- The outermost frame holds something, and no flag holds for the whole
expression: none can be set any more. -/
structure HasBegun (reader : Reader) : Prop where
  /-- The outermost frame holds something. -/
  filled : ∀ frame ∈ (reader.top :: reader.below).getLast?,
    frame.branches ≠ [] ∨ frame.items ≠ []
  /-- No flag holds for the whole expression. -/
  globalFlags : reader.globalFlags = []

namespace HasBegun

variable {reader : Reader}

/-- Only the frames and the flags matter. -/
theorem congr
    {other : Reader}
    (begun : reader.HasBegun)
    (top : other.top = reader.top)
    (below : other.below = reader.below)
    (globalFlags : other.globalFlags = reader.globalFlags) :
    other.HasBegun where
  filled := by
    rw [top, below]
    exact begun.filled
  globalFlags := globalFlags.trans begun.globalFlags

/-- The innermost frame may be replaced by one that holds something. -/
theorem withTop
    {other : Reader}
    (begun : reader.HasBegun)
    (filled : other.top.branches ≠ [] ∨ other.top.items ≠ [])
    (below : other.below = reader.below)
    (globalFlags : other.globalFlags = reader.globalFlags) :
    other.HasBegun where
  filled := by
    rw [below]
    cases around : reader.below with
    | nil =>
        intro frame last
        cases last
        exact filled
    | cons frame outer =>
        have outermost := begun.filled
        rw [around, List.getLast?_cons_cons] at outermost
        rwa [List.getLast?_cons_cons]
  globalFlags := globalFlags.trans begun.globalFlags

theorem push (begun : reader.HasBegun) (item : Regex) :
    (reader.push item).HasBegun :=
  begun.withTop (.inr (List.cons_ne_nil _ _)) rfl rfl

theorem pushLiterals (begun : reader.HasBegun) (text : List Char) :
    (reader.pushLiterals text).HasBegun := by
  induction text generalizing reader with
  | nil => exact begun
  | cons c rest inductionHypothesis =>
      exact inductionHypothesis (begun.push _)

theorem openFrame
    (begun : reader.HasBegun)
    (start : Nat)
    (opener : Opener)
    (on off : List Flag) :
    (reader.openFrame start opener on off).HasBegun where
  filled := by
    change ∀ frame ∈ (_ :: reader.top :: reader.below).getLast?, _
    rw [List.getLast?_cons_cons]
    exact begun.filled
  globalFlags := begun.globalFlags

theorem openGroup
    (begun : reader.HasBegun)
    (start : Nat)
    (name? : Option String) :
    (reader.openGroup start name?).HasBegun := by
  have grown : { reader with
      groups := reader.groups.push { name? } }.HasBegun :=
    begun.congr rfl rfl rfl
  exact grown.openFrame start _ [] []

theorem openBehind
    (begun : reader.HasBegun)
    (start : Nat)
    (positive : Bool) :
    (reader.openBehind start positive).HasBegun := by
  have outermost : { reader with
      groupsBefore? :=
        some (reader.groupsBefore?.getD reader.groups.size) }.HasBegun :=
    begun.congr rfl rfl rfl
  exact outermost.openFrame start _ [] []

theorem leave
    {other : Reader}
    {frame : Frame}
    {outer : List Frame}
    (begun : reader.HasBegun)
    (around : reader.below = frame :: outer)
    (top : other.top = frame)
    (below : other.below = outer)
    (globalFlags : other.globalFlags = reader.globalFlags) :
    other.HasBegun where
  filled := by
    rw [top, below]
    have outermost := begun.filled
    rwa [around, List.getLast?_cons_cons] at outermost
  globalFlags := globalFlags.trans begun.globalFlags

theorem setStrategy (begun : reader.HasBegun) (strategy : Strategy) :
    (reader.setStrategy strategy).HasBegun := by
  rw [Reader.setStrategy]
  split
  · exact begun.withTop (.inr (List.cons_ne_nil _ _)) rfl rfl
  · exact begun.congr rfl rfl rfl

end HasBegun

end Reader

/-! ## Escapes and flags -/

namespace Reader

/-- A reader goes on without exceeding a limit. -/
abbrev GoesOn (result : Except Fault Reader) : Prop := Calm HasBegun result

variable {reader : Reader}

theorem HasBegun.readEscape (begun : reader.HasBegun) (c : Char) :
    GoesOn (reader.readEscape c) := by
  unfold Reader.readEscape
  dsimp only
  split
  · exact begun.push _
  · exact begun.push _
  · exact begun.push _
  · exact begun.push _
  · exact begun.congr rfl rfl rfl
  · split
    · exact begun.push _
    · exact begun.push _
    · exact begun.congr rfl rfl rfl
    · refine .ite (fun _ => begun.congr rfl rfl rfl) fun _ => ?_
      exact .ite (fun _ => .refused rfl) fun _ => begun.push _

/-- Flags for the whole expression come too late. -/
theorem HasBegun.setGlobalFlags
    (begun : reader.HasBegun)
    (start : Nat)
    (on : List Flag) :
    GoesOn (reader.setGlobalFlags start on) := by
  rw [Reader.setGlobalFlags]
  refine .ite (fun atStart => ?_) fun _ => .refused rfl
  rw [Bool.and_eq_true, Bool.and_eq_true, List.isEmpty_iff, List.isEmpty_iff,
    List.isEmpty_iff] at atStart
  obtain ⟨⟨below, branches⟩, items⟩ := atStart
  have filled := begun.filled
  rw [below] at filled
  rcases filled reader.top rfl with branched | itemized
  · exact absurd branches branched
  · exact absurd items itemized

theorem HasBegun.addFlag
    (begun : reader.HasBegun)
    (start : Nat)
    (on : List Flag)
    (flag : Flag) :
    GoesOn (reader.addFlag start on flag) :=
  .ite (fun _ => .refused rfl) fun _ =>
    .ite (fun _ => .refused rfl) fun _ => begun.congr rfl rfl rfl

theorem calm_notAFlag (reader : Reader) (s : Symbol) (otherwise : Cause) :
    GoesOn (reader.notAFlag s otherwise) := by
  cases s <;> exact .refused rfl

theorem HasBegun.openFlagged
    (begun : reader.HasBegun)
    (start : Nat)
    (on off : List Flag) :
    GoesOn (reader.openFlagged start on off) :=
  .ite (fun _ => .refused rfl) fun _ =>
    .ite (fun _ => .refused rfl) fun _ => begun.openFrame ..

theorem HasBegun.readFlagOn
    (begun : reader.HasBegun)
    (start : Nat)
    (on : List Flag)
    (s : Symbol) :
    GoesOn (reader.readFlagOn start on s) := by
  rw [Reader.readFlagOn]
  refine .ite (fun _ => begun.setGlobalFlags start on) fun _ => ?_
  refine .ite (fun _ => ?_) fun _ => ?_
  · refine .ite (fun _ => .refused rfl) fun _ => ?_
    exact .ite (fun _ => begun.congr rfl rfl rfl) fun _ =>
      begun.openFlagged ..
  · split
    · exact begun.addFlag ..
    · exact calm_notAFlag ..

theorem HasBegun.readFlagOff
    (begun : reader.HasBegun)
    (start : Nat)
    (on off : List Flag)
    (s : Symbol) :
    GoesOn (reader.readFlagOff start on off s) := by
  rw [Reader.readFlagOff]
  refine .ite (fun _ => begun.openFlagged ..) fun _ => ?_
  split
  · exact .ite (fun _ => .refused rfl) fun _ => begun.congr rfl rfl rfl
  · exact calm_notAFlag ..

/-! ## Openings of groups -/

theorem HasBegun.readQuestion
    (begun : reader.HasBegun)
    (start : Nat)
    (s : Symbol) :
    GoesOn (reader.readQuestion start s) := by
  have inMode (mode : Mode) : GoesOn (.ok { reader with mode }) :=
    begun.congr rfl rfl rfl
  unfold Reader.readQuestion
  dsimp only
  split
  · exact inMode _
  · exact begun.openFrame ..
  · exact inMode _
  · exact begun.openFrame ..
  · exact begun.openFrame ..
  · exact inMode _
  · exact inMode _
  · exact begun.openFrame ..
  · exact inMode _
  · split
    · exact begun.addFlag ..
    · exact .refused rfl

theorem calm_checkBehind (reader : Reader) (index position : Nat) :
    Calm (fun _ => True) (reader.checkBehind index position) := by
  rw [checkBehind]
  split
  · trivial
  · refine .ite (fun _ => .refused rfl) fun _ => ?_
    exact .ite (fun _ => .refused rfl) fun _ => trivial

theorem HasBegun.openChoice
    (begun : reader.HasBegun)
    (start nameStart : Nat)
    (text : List Char) :
    GoesOn (reader.openChoice start nameStart text) := by
  unfold Reader.openChoice
  dsimp only
  refine .ite (fun _ => ?_) fun _ => ?_
  · split
    · exact .refused rfl
    · refine .bind (calm_checkBehind reader _ _) fun _ _ _ => ?_
      exact begun.openFrame ..
  · split
    · exact .refused rfl
    · refine .ite (fun _ => .refused rfl) fun _ => ?_
      refine .bind (calm_checkBehind reader _ _) fun _ _ _ => ?_
      have noted (conditions : List (Nat × Nat)) :
          { reader with conditions }.HasBegun := begun.congr rfl rfl rfl
      exact (noted _).openFrame ..
    · exact .refused rfl

theorem HasBegun.useName
    (begun : reader.HasBegun)
    (start nameStart : Nat)
    (use : NameUse)
    (text : List Char) :
    GoesOn (reader.useName start nameStart use text) := by
  unfold Reader.useName
  dsimp only
  cases use with
  | condition => exact begun.openChoice ..
  | definition =>
      refine .ite (fun _ => ?_) fun _ => .refused rfl
      split
      · exact .refused rfl
      · exact begun.openGroup ..
  | reference =>
      refine .ite (fun _ => ?_) fun _ => .refused rfl
      split
      · exact .refused rfl
      · refine .ite (fun _ => ?_) fun _ => .refused rfl
        refine .bind (calm_checkBehind reader _ _) fun _ _ _ => ?_
        exact begun.push _

/-! ## Brackets, bars and repetitions -/

/-- Clashing flags cannot have been set. -/
theorem HasBegun.close (begun : reader.HasBegun) : GoesOn reader.close := by
  rw [Reader.close]
  split
  · rw [begun.globalFlags]
    exact .refused rfl
  · next frame outer around =>
      have left : { reader.leaveFrame reader.top with
          top := frame, below := outer }.HasBegun :=
        begun.leave around rfl rfl (globalFlags_leaveFrame _)
      exact left.push _

theorem HasBegun.readBar (begun : reader.HasBegun) : GoesOn reader.readBar :=
  .ite (fun _ => .refused rfl) fun _ =>
    begun.withTop (.inl (List.cons_ne_nil _ _)) rfl rfl

theorem HasBegun.repeatLast
    (begun : reader.HasBegun)
    (start least : Nat)
    (most : Option Nat) :
    GoesOn (reader.repeatLast start least most) := by
  rw [Reader.repeatLast]
  split
  · exact .refused rfl
  · refine .ite (fun _ => .refused rfl) fun _ => ?_
    refine .ite (fun _ => .refused rfl) fun _ => ?_
    exact begun.withTop (.inr (List.cons_ne_nil _ _)) rfl rfl

theorem HasBegun.readFresh (begun : reader.HasBegun) (s : Symbol) :
    GoesOn (reader.readFresh s) := by
  have inMode (mode : Mode) : GoesOn (.ok { reader with mode }) :=
    begun.congr rfl rfl rfl
  cases s with
  | dangling => exact .refused rfl
  | escaped c => exact begun.readEscape c
  | plain c =>
      unfold Reader.readFresh
      dsimp only
      refine .ite (fun _ => begun) fun _ => ?_
      refine .ite (fun _ => inMode _) fun _ => ?_
      split
      · exact begun.readBar
      · exact begun.close
      · exact inMode _
      · exact inMode _
      · exact begun.repeatLast ..
      · exact begun.repeatLast ..
      · exact begun.repeatLast ..
      · exact inMode _
      · exact begun.push _
      · exact begun.push _
      · exact begun.push _
      · exact begun.push _

/-! ## Repetition counts -/

/-- A repetition count is refused exactly when it exceeds a limit. -/
theorem count?_eq (digits : List Char) :
    count? digits =
      match exceededByCount? digits with
      | some exceeded => .error (.limit exceeded)
      | none =>
          .ok (if digits.isEmpty then none
            else some (Text.digitsValue
              (digits.map fun c => c.toNat - 0x30))) := by
  rw [count?, exceededByCount?]
  cases digits with
  | nil => rfl
  | cons digit rest =>
      rw [if_neg (by simp)]
      by_cases long : Limit.maxNumeralDigits < (digit :: rest).length
      · rw [if_pos long, if_pos long]
      · rw [if_neg long, if_neg long]
        by_cases large : countLimit ≤ Text.digitsValue
            ((digit :: rest).map fun c => c.toNat - 0x30)
        · rw [if_pos large, if_neg (Nat.not_lt.mpr large)]
        · rw [if_neg large, if_pos (Nat.not_le.mp large)]
          rfl

theorem closeBraces_eq_limit
    {least : List Char}
    {most? : Option (List Char)}
    {exceeded : Limit}
    (large : exceededByCounts? least most? = some exceeded)
    (start : Nat) :
    reader.closeBraces start least most? = .error (.limit exceeded) := by
  rw [Reader.closeBraces, count?_eq, count?_eq]
  rw [exceededByCounts?] at large
  cases first : exceededByCount? least with
  | some limit =>
      rw [first] at large
      cases large
      rfl
  | none =>
      rw [first] at large
      change exceededByCount? (most?.getD least) = some exceeded at large
      rw [large]
      rfl

theorem HasBegun.closeBraces
    (begun : reader.HasBegun)
    (start : Nat)
    (least : List Char)
    (most? : Option (List Char)) :
    Within HasBegun
      (fun exceeded => exceededByCounts? least most? = some exceeded)
      (reader.closeBraces start least most?) := by
  rw [Reader.closeBraces, exceededByCounts?, count?_eq, count?_eq]
  cases exceededByCount? least with
  | some exceeded => exact .limit rfl rfl
  | none =>
      cases exceededByCount? (most?.getD least) with
      | some exceeded => exact .limit rfl rfl
      | none =>
          change Within _ _ (ite _ _ _)
          exact .ite (fun _ => .refused rfl) fun _ =>
            (begun.repeatLast ..).within

end Reader

/-! ## Spelled code points -/

theorem Spelling.calm_push
    [CharacterNames]
    (start position : Nat)
    (s : Symbol)
    (spelling : Spelling) :
    Calm (fun _ => True) (spelling.push start position s) := by
  unfold push
  split
  · trivial
  · trivial
  · trivial
  · refine .ite (fun _ => ?_) fun _ => trivial
    refine .ite (fun _ => .refused rfl) fun _ => ?_
    split
    · trivial
    · exact .refused rfl
  · trivial

/-- Only eight digits that are far too large exceed a limit. -/
theorem Spelling.value_within (start position : Nat) (spelling : Spelling) :
    Within (fun _ => True)
      (fun exceeded => exceeded = .codePoint ∧ spelling.IsHuge)
      (spelling.value start position) := by
  unfold value
  split
  · next letter size digits =>
      dsimp only
      refine .ite (fun complete => ?_) fun _ => .refused rfl
      refine .ite (fun _ => trivial) fun _ => ?_
      refine .ite (fun _ => .refused rfl) fun large => ?_
      exact .limit rfl ⟨rfl, complete, Nat.not_lt.mp large⟩
  · exact .ite (fun _ => trivial) fun _ => .refused rfl
  · exact .refused rfl
  · exact .ite (fun _ => .refused rfl) fun _ => .refused rfl
  · trivial

theorem Spelling.IsHuge.value_eq
    {spelling : Spelling}
    (huge : spelling.IsHuge)
    (start position : Nat) :
    spelling.value start position = .error (.limit .codePoint) := by
  cases spelling with
  | hex letter size digits =>
      obtain ⟨complete, large⟩ := huge
      rw [value]
      dsimp only
      rw [if_pos complete, if_neg (by omega), if_neg (by omega)]
  | octal digits => exact huge.elim
  | named opened name => exact huge.elim
  | character c => exact huge.elim

namespace SetReader

theorem calm_addRange
    (reader : SetReader)
    (low high : SetAtom)
    (stop : Nat) :
    Calm (fun _ => True) (reader.addRange low high stop) := by
  unfold addRange
  dsimp only
  split
  · exact .ite (fun _ => trivial) fun _ => .refused rfl
  · exact .refused rfl

theorem calm_ofEscape (position : Nat) (c : Char) :
    Calm (fun _ => True) (ofEscape position c) := by
  unfold ofEscape
  split
  · trivial
  · trivial
  · trivial
  · refine .ite (fun _ => trivial) fun _ => ?_
    exact .ite (fun _ => .refused rfl) fun _ => trivial

theorem calm_startAtom
    {position : Nat}
    {s : Symbol}
    {found : SetAtom → Except Fault SetReader}
    {pending : List Char → Spelling → SetReader}
    (calm : ∀ atom, Calm (fun _ => True) (found atom)) :
    Calm (fun _ => True) (startAtom position s found pending) := by
  cases s with
  | plain c => exact calm _
  | dangling => exact calm _
  | escaped c =>
      refine .bind (calm_ofEscape position c) fun meaning _ _ => ?_
      cases meaning with
      | inl member => exact calm _
      | inr spelling => trivial

theorem calm_read [CharacterNames]
    (position : Nat)
    (s : Symbol)
    (reader : SetReader) :
    Calm (fun _ => True) (reader.read position s) := by
  have member : Calm (fun _ => True) (reader.readMember position s) :=
    calm_startAtom fun _ => trivial
  unfold read
  dsimp only
  split
  · exact .ite (fun _ => trivial) fun _ => member.map fun _ _ => trivial
  · exact .ite (fun _ => trivial) fun _ => member.map fun _ _ => trivial
  · trivial
  · refine .ite (fun _ => trivial) fun _ => ?_
    refine Calm.map (calm_startAtom fun _ => ?_) fun _ _ => trivial
    exact calm_addRange ..
  · exact .bind (Spelling.calm_push ..) fun _ _ _ => trivial
  · exact .bind (Spelling.calm_push ..) fun _ _ _ => trivial

theorem settle_within
    (position : Nat)
    (next? : Option Symbol)
    (reader : SetReader) :
    Within (fun _ => True)
      (fun exceeded => exceeded = .codePoint ∧ ∃ spelling,
        reader.spelling? = some spelling ∧
          next?.any spelling.accepts = false ∧ spelling.IsHuge)
      (reader.settle position next?) := by
  unfold settle spelling?
  cases reader.stage with
  | spelling start text spelling =>
      dsimp only
      refine .ite (fun _ => trivial) fun complete => ?_
      refine .bind ((spelling.value_within start position).mono ?_)
        fun _ _ _ => trivial
      rintro exceeded ⟨rfl, huge⟩
      exact ⟨rfl, spelling, rfl, by simpa using complete, huge⟩
  | upperSpelling low start text spelling =>
      dsimp only
      refine .ite (fun _ => trivial) fun complete => ?_
      refine .bind ((spelling.value_within start position).mono ?_)
        fun _ _ _ => Calm.within (calm_addRange ..)
      rintro exceeded ⟨rfl, huge⟩
      exact ⟨rfl, spelling, rfl, by simpa using complete, huge⟩
  | opened | between | afterAtom _ | afterHyphen _ => trivial

theorem settle_eq_limit
    {position : Nat}
    {next? : Option Symbol}
    {reader : SetReader}
    {spelling : Spelling}
    (spelled : reader.spelling? = some spelling)
    (complete : next?.any spelling.accepts = false)
    (huge : spelling.IsHuge) :
    reader.settle position next? = .error (.limit .codePoint) := by
  unfold spelling? at spelled
  unfold settle
  dsimp only
  split at spelled
  · next current =>
      cases spelled
      rw [current]
      dsimp only
      rw [if_neg (by simp [complete]), huge.value_eq, error_bind]
  · next current =>
      cases spelled
      rw [current]
      dsimp only
      rw [if_neg (by simp [complete]), huge.value_eq, error_bind]
  · cases spelled

end SetReader

/-! ## Settling a reader -/

namespace Reader

variable {reader after : Reader}

theorem HasBegun.pushNumber
    (begun : reader.HasBegun)
    (start : Nat)
    (digits : List Char) :
    GoesOn (reader.pushNumber start digits) := by
  unfold Reader.pushNumber
  dsimp only
  refine .ite (fun _ => ?_) fun _ => .refused rfl
  refine .ite (fun _ => ?_) fun _ => .refused rfl
  refine .bind (calm_checkBehind reader _ _) fun _ _ _ => ?_
  exact begun.push _

theorem HasBegun.settle
    (begun : reader.HasBegun)
    (next? : Option Symbol) :
    Within HasBegun
      (fun exceeded => exceeded = .codePoint ∧ reader.SpellsHuge next?)
      (reader.settle next?) := by
  rw [Reader.settle]
  cases current : reader.mode with
  | repeated =>
      exact .ite (fun _ => begun) fun _ => begun.congr rfl rfl rfl
  | braces start least most? =>
      exact .ite (fun _ => begun) fun _ => begun.pushLiterals _
  | spelling start spelling =>
      refine .ite (fun _ => begun) fun complete => ?_
      refine .bind ((spelling.value_within start reader.position).mono ?_)
        fun code _ _ => begun.push _
      rintro exceeded ⟨rfl, huge⟩
      have spelled : reader.spelled? = some spelling := by
        rw [spelled?, current]
      exact ⟨rfl, spelling, spelled, by simpa using complete, huge⟩
  | number start digits =>
      exact .ite (fun _ => begun) fun _ => (begun.pushNumber ..).within
  | set start set =>
      refine .bind ((set.settle_within reader.position next?).mono ?_)
        fun settled _ _ => begun.congr rfl rfl rfl
      rintro exceeded ⟨rfl, spelling, spelled, huge⟩
      have outside : reader.spelled? = some spelling := by
        rw [spelled?, current]
        exact spelled
      exact ⟨rfl, spelling, outside, huge⟩
  | bracket start =>
      exact .ite (fun _ => begun) fun _ => begun.openGroup start none
  | ready | question start | letter start | angle start
  | name start use nameStart text | flagsOn start on
  | flagsOff start on off | comment start | lineComment => exact begun

theorem SpellsHuge.settle_eq
    {next? : Option Symbol}
    (spells : reader.SpellsHuge next?) :
    reader.settle next? = .error (.limit .codePoint) := by
  obtain ⟨spelling, spelled, complete, huge⟩ := spells
  rw [spelled?] at spelled
  rw [settle]
  split at spelled
  · next current =>
      cases spelled
      rw [current]
      dsimp only
      rw [if_neg (by simp [complete]), huge.value_eq, error_bind]
  · next current =>
      rw [current]
      dsimp only
      rw [SetReader.settle_eq_limit spelled complete huge, error_bind]
  · cases spelled

/-- Braces are still open only if the next symbol goes on with them. -/
theorem eq_of_settle_of_braces
    {next? : Option Symbol}
    {start : Nat}
    {least : List Char}
    {most? : Option (List Char)}
    (settled : reader.settle next? = .ok after)
    (mode : after.mode = .braces start least most?) :
    after = reader ∧ next?.any (bracesAccept least most?) = true := by
  rw [settle] at settled
  cases current : reader.mode with
  | braces start' least' most?' =>
      rw [current] at settled
      dsimp only at settled
      split at settled
      · next accepted =>
          cases settled
          cases current.symm.trans mode
          exact ⟨rfl, accepted⟩
      · cases settled
        cases (mode_pushLiterals reader _ _).symm.trans mode
  | repeated =>
      rw [current] at settled
      dsimp only at settled
      split at settled <;> cases settled
      · cases current.symm.trans mode
      · cases mode
  | spelling start' spelling =>
      rw [current] at settled
      dsimp only at settled
      split at settled
      · cases settled
        cases current.symm.trans mode
      · obtain ⟨code, _, pushed⟩ := exists_of_bind settled
        cases pushed
        cases mode
  | number start' digits =>
      rw [current] at settled
      dsimp only at settled
      split at settled
      · cases settled
        cases current.symm.trans mode
      · cases (mode_pushNumber settled).symm.trans mode
  | set start' set =>
      rw [current] at settled
      obtain ⟨_, _, moved⟩ := exists_of_bind settled
      cases moved
      cases mode
  | bracket start' =>
      rw [current] at settled
      dsimp only at settled
      split at settled <;> cases settled
      · cases current.symm.trans mode
      · cases mode
  | ready | question start' | letter start' | angle start'
  | name start' use nameStart text | flagsOn start' on
  | flagsOff start' on off | comment start' | lineComment =>
      rw [current] at settled
      cases settled
      cases current.symm.trans mode

/-! ## The end of the text -/

theorem calm_checkEnd (reader : Reader) :
    Calm (fun _ => True) reader.checkEnd := by
  unfold checkEnd
  split
  · exact .refused rfl
  · exact .refused rfl
  · exact .refused rfl
  · exact .refused rfl
  · exact .ite (fun _ => .refused rfl) fun _ => .refused rfl
  · exact .refused rfl
  · exact .refused rfl
  · exact .refused rfl
  · exact .ite (fun _ => trivial) fun _ => .refused rfl

theorem calm_checkWidthsBehind (body : Regex) :
    Calm (fun _ => True) (checkWidthsBehind body) :=
  .forM fun _ =>
    .ite (fun _ => .refused rfl) fun _ =>
      .ite (fun _ => .refused rfl) fun _ => trivial

/-- At its end, a text exceeds a limit only by a spelled code point. -/
theorem HasBegun.finish (begun : reader.HasBegun) :
    Within (fun _ => True) (reader.Exceeds []) reader.finish := by
  refine .bind ((begun.settle none).mono ?_) fun last _ lastBegun => ?_
  · rintro exceeded ⟨rfl, spells⟩
    exact .codePoint spells
  · refine .bind (calm_checkEnd last).within fun _ _ _ => ?_
    refine .ite (fun clash => ?_) fun _ => ?_
    · simp [lastBegun.globalFlags] at clash
    · refine .bind (Calm.within (.forM fun entry => ?_)) fun _ _ _ => ?_
      · exact .ite (fun _ => .refused rfl) fun _ => trivial
      · exact .bind (calm_checkWidthsBehind _).within fun _ _ _ => trivial

theorem Exceeds.finish_eq
    {exceeded : Limit}
    (exceeds : reader.Exceeds [] exceeded) :
    reader.finish = .error (.limit exceeded) := by
  cases exceeds with
  | codePoint spells =>
      have settled := spells.settle_eq
      rw [List.head?_nil] at settled
      rw [finish, settled, error_bind]

/-! ## The start of the text -/

/-- The reader behind the anchor at the start of a text. -/
theorem hasBegun_anchored :
    { ({} : Reader).push (.assert .textStart) with position := 1 }.HasBegun where
  filled := by
    intro frame last
    cases last
    exact .inr (List.cons_ne_nil _ _)
  globalFlags := rfl

theorem not_exceeds_empty (row : List Symbol) (exceeded : Limit) :
    ¬({} : Reader).Exceeds row exceeded := by
  intro exceeds
  cases exceeds with
  | codePoint spells =>
      obtain ⟨spelling, spelled, _⟩ := spells
      cases spelled
  | count mode counted goesOn large => cases mode

/-! ## One step -/

variable [CharacterNames]

/-- A settled reader exceeds a limit only where braces are closed. -/
theorem HasBegun.readHere (begun : reader.HasBegun) (s : Symbol) :
    Within HasBegun
      (fun exceeded => s = .plain '\x7d' ∧ ∃ start least most?,
        reader.mode = .braces start least most? ∧
          exceededByCounts? least most? = some exceeded)
      (reader.readHere s) := by
  have inMode (mode : Mode) : { reader with mode }.HasBegun :=
    begun.congr rfl rfl rfl
  unfold Reader.readHere
  dsimp only
  split
  · exact (begun.readFresh s).within
  · exact begun.setStrategy _
  · next start least most? current =>
      refine .ite (fun closing => ?_) fun _ => ?_
      · refine (begun.closeBraces start least most?).mono ?_
        intro exceeded large
        exact ⟨closing, start, least, most?, current, large⟩
      · refine .ite (fun _ => inMode _) fun _ => ?_
        split <;> exact inMode _
  · exact .bind (Calm.within (Spelling.calm_push ..)) fun _ _ _ => inMode _
  · split <;> exact inMode _
  · next start set current =>
      refine .bind (Calm.within (set.calm_read reader.position s))
        fun result _ _ => ?_
      exact .ite (fun _ => begun.push _) fun _ => inMode _
  · exact inMode _
  · exact (begun.readQuestion _ s).within
  · refine .ite (fun _ => inMode _) fun _ => ?_
    exact .ite (fun _ => inMode _) fun _ => .refused rfl
  · refine .ite (fun _ => begun.openBehind ..) fun _ => ?_
    exact .ite (fun _ => begun.openBehind ..) fun _ => .refused rfl
  · refine .ite (fun _ => ?_) fun _ => inMode _
    exact .ite (fun _ => .refused rfl) fun _ => (begun.useName ..).within
  · exact (begun.readFlagOn ..).within
  · exact (begun.readFlagOff ..).within
  · exact .ite (fun _ => inMode _) fun _ => inMode _
  · exact .ite (fun _ => inMode _) fun _ => begun

/-- One step exceeds a limit only where one of the two things is read. -/
theorem HasBegun.step
    (begun : reader.HasBegun)
    (s : Symbol)
    (rest : List Symbol) :
    Within HasBegun (reader.Exceeds (s :: rest))
      (reader.step s (rest = [.dangling])) := by
  refine .bind ((begun.settle (some s)).mono ?_) fun next settled nextBegun => ?_
  · rintro exceeded ⟨rfl, spells⟩
    exact .codePoint spells
  · refine .ite (fun _ => .refused rfl) fun goesOn => ?_
    refine .bind ((nextBegun.readHere s).mono ?_) fun _ _ lastBegun =>
      lastBegun.congr rfl rfl rfl
    rintro exceeded ⟨rfl, start, least, most?, mode, large⟩
    obtain ⟨rfl, counted⟩ := eq_of_settle_of_braces settled mode
    have notLast : rest ≠ [.dangling] := by
      rintro rfl
      exact goesOn (by simp [stopsAt, mode])
    exact .count mode counted notLast large

theorem Exceeds.step_eq
    {s : Symbol}
    {rest : List Symbol}
    {exceeded : Limit}
    (exceeds : reader.Exceeds (s :: rest) exceeded) :
    reader.step s (rest = [.dangling]) = .error (.limit exceeded) := by
  cases exceeds with
  | codePoint spells =>
      have settled := spells.settle_eq
      rw [List.head?_cons] at settled
      rw [step, settled, error_bind]
  | @count start least most? _ _ mode counted goesOn large =>
      have settled : reader.settle (some (.plain '\x7d')) = .ok reader := by
        rw [settle, mode]
        dsimp only
        rw [Option.any_some, if_pos counted]
      have refused : reader.readHere (.plain '\x7d') =
          .error (.limit exceeded) := by
        rw [readHere, mode]
        dsimp only
        rw [if_pos rfl, closeBraces_eq_limit large]
      rw [step, settled, ok_bind, decide_eq_false goesOn, Bool.false_and,
        if_neg Bool.false_ne_true, read, refused, error_bind]

/-! ## Whole texts -/

/-- A row of symbols exceeds a limit exactly if reading leads to a place where
one of the two things is read. -/
theorem HasBegun.readAll_finish_eq_limit_iff
    {row : List Symbol}
    {exceeded : Limit}
    (begun : reader.HasBegun) :
    (reader.readAll row >>= fun last => last.finish) =
        .error (.limit exceeded) ↔
      ∃ last behind, LeadsTo reader row last behind ∧
        last.Exceeds behind exceeded := by
  -- Each step either goes on, which is the induction hypothesis, or ends the
  -- run right here.
  induction row generalizing reader with
  | nil =>
      have ends := begun.finish
      constructor
      · intro refused
        change reader.finish = _ at refused
        rw [refused] at ends
        exact ⟨reader, [], .refl .., ends _ rfl⟩
      · rintro ⟨last, behind, leads, exceeds⟩
        cases leads
        exact exceeds.finish_eq
  | cons s rest inductionHypothesis =>
      have goes := begun.step s rest
      rw [readAll]
      constructor
      · intro refused
        cases stepped : reader.step s (rest = [.dangling]) with
        | ok next =>
            rw [stepped] at goes refused
            rw [ok_bind] at refused
            obtain ⟨last, behind, leads, exceeds⟩ :=
              (inductionHypothesis goes).mp refused
            exact ⟨last, behind, .step stepped leads, exceeds⟩
        | error fault =>
            rw [stepped] at goes refused
            cases refused
            exact ⟨reader, s :: rest, .refl .., goes _ rfl⟩
      · rintro ⟨last, behind, leads, exceeds⟩
        cases leads with
        | refl => rw [exceeds.step_eq, error_bind, error_bind]
        | step stepped further =>
            rw [stepped] at goes
            rw [stepped, ok_bind]
            exact (inductionHypothesis goes).mpr
              ⟨last, behind, further, exceeds⟩

/-- Behind the anchor, a text exceeds a limit exactly where the row of its
symbols does. -/
theorem readAll_anchored_eq_limit_iff
    (row : List Symbol)
    (exceeded : Limit) :
    (({} : Reader).readAll (.plain '^' :: row) >>= fun last => last.finish) =
        .error (.limit exceeded) ↔
      ∃ last behind, LeadsTo {} (.plain '^' :: row) last behind ∧
        last.Exceeds behind exceeded := by
  rw [readAll]
  by_cases ends : row = [.dangling]
  · -- Reading stops before the dangling backslash.
    have stops : ({} : Reader).step (.plain '^') (row = [.dangling]) =
        .error (.malformed .endsInBackslash (some 1)) := by
      rw [decide_eq_true ends]
      rfl
    rw [stops]
    constructor
    · intro refused
      cases refused
    · rintro ⟨last, behind, leads, exceeds⟩
      cases leads with
      | refl => exact absurd exceeds (not_exceeds_empty _ _)
      | step stepped further => cases stops.symm.trans stepped
  · have goes : ({} : Reader).step (.plain '^') (row = [.dangling]) =
        .ok { ({} : Reader).push (.assert .textStart) with position := 1 } := by
      rw [decide_eq_false ends]
      rfl
    rw [goes, ok_bind, hasBegun_anchored.readAll_finish_eq_limit_iff]
    constructor
    · rintro ⟨last, behind, leads, exceeds⟩
      exact ⟨last, behind, .step goes leads, exceeds⟩
    · rintro ⟨last, behind, leads, exceeds⟩
      cases leads with
      | refl => exact absurd exceeds (not_exceeds_empty _ _)
      | step stepped further =>
          cases goes.symm.trans stepped
          exact ⟨last, behind, further, exceeds⟩

end Reader

/-- The text of an expression that begins with an anchor exceeds a limit exactly
where a code point is spelled that is too large, or a repetition count. -/
theorem parse_eq_limit_iff
    [CharacterNames]
    {source : String}
    {exceeded : Limit}
    (anchored : source.toList.head? = some '^') :
    parse source = .error (.limit exceeded) ↔
      ExceedsLimit source exceeded := by
  obtain ⟨rest, chars⟩ := List.head?_eq_some_iff.mp anchored
  have symbols : Symbol.ofChars source.toList =
      .plain '^' :: Symbol.ofChars rest := by
    rw [chars]
    rfl
  rw [parse, ExceedsLimit, symbols]
  exact Reader.readAll_anchored_eq_limit_iff _ _

end Regex
end PathRouter
