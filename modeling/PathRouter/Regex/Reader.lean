import PathRouter.Regex.Flags
import PathRouter.Regex.Program
import PathRouter.Regex.SetReader
import PathRouter.Text.Identifier
import PathRouter.Text.Numeral

/-!
# Reading expressions

An expression is read symbol by symbol by a pushdown machine.  Each open
bracket has a frame that collects the items and the alternatives inside it; a
closing bracket turns the frame into one item of the frame below.  Between
symbols the machine remembers what it is in the middle of: a repetition count,
an escape, a character set, or the opening of a group.

A step has two halves.  First the reader is *settled* by the symbol to come:
whatever that symbol does not continue gets its final meaning.  Then the symbol
is *read*.  The end of the text settles the reader for the last time.

The machine never looks at a frame below the innermost one before that one is
closed, and numbers groups in the order in which they open.  So the text of an
expression with balanced brackets is read in the same way wherever it stands.

## Main definitions

* `Reader`: the state of the machine.
* `Reader.settle` and `Reader.read`: the two halves of a step.
* `Reader.readAll` and `Reader.finish`: a whole text, and its end.
* `Regex.parse`: the expression that a text stands for.
-/

namespace PathRouter
namespace Regex

/-- What the bracket that opens a frame makes of its contents. -/
inductive Opener where
  /-- No bracket: the whole expression. -/
  | whole
  /-- A group with an index. -/
  | capture (index : Nat)
  /-- A bracket that only groups. -/
  | plain
  /-- An expression that is read in its preferred way only. -/
  | atomic
  /-- A look at what follows. -/
  | ahead (positive : Bool)
  /-- A look at what precedes, which may stand in another one. -/
  | behind (positive outermost : Bool)
  /-- A choice by whether a group has read something. -/
  | ifGroup (index : Nat)
deriving DecidableEq, Repr

/-- An open bracket and what has been read inside it. -/
structure Frame where
  /-- What the bracket means. -/
  opener : Opener
  /-- The place of the bracket. -/
  start : Nat
  /-- The flags in force. -/
  flags : Flags
  /-- The finished alternatives, the last one first. -/
  branches : List Regex := []
  /-- The items of the current alternative, the last one first. -/
  items : List Regex := []
deriving DecidableEq, Repr

namespace Frame

/-- The current alternative. -/
def branch (frame : Frame) : Regex := sequence frame.items.reverse

/-- All alternatives. -/
def body (frame : Frame) : Regex :=
  alternation (frame.branch :: frame.branches).reverse

/-- Adds an item. -/
def push (frame : Frame) (item : Regex) : Frame :=
  { frame with items := item :: frame.items }

/-- Starts the next alternative. -/
def nextBranch (frame : Frame) : Frame :=
  { frame with branches := frame.branch :: frame.branches, items := [] }

/-- Whether a choice already has its second branch. -/
def isFullChoice (frame : Frame) : Bool :=
  match frame.opener with
  | .ifGroup _ => !frame.branches.isEmpty
  | _ => false

end Frame

/-- A group that has been opened. -/
structure Group where
  /-- Its name. -/
  name? : Option String
  /-- The bounds on what it reads, once it is closed. -/
  width? : Option Width := none
deriving DecidableEq, Repr

/-- What a name in the opening of a group is for. -/
inductive NameUse where
  /-- It names the group. -/
  | definition
  /-- It refers to a group whose text is read again. -/
  | reference
  /-- It refers to the group that decides a choice. -/
  | condition
deriving DecidableEq, Repr

/-- The character that ends a name. -/
def NameUse.terminator : NameUse → Char
  | definition => '>'
  | _ => ')'

/-- What the reader is in the middle of.  Places are those where it began. -/
inductive Mode where
  /-- Nothing. -/
  | ready
  /-- Behind a repetition, whose strategy may follow. -/
  | repeated
  /-- A repetition count in braces. -/
  | braces (start : Nat) (least : List Char) (most? : Option (List Char))
  /-- The spelling of a code point. -/
  | spelling (start : Nat) (spelling : Spelling)
  /-- A number behind a backslash. -/
  | number (start : Nat) (digits : List Char)
  /-- A character set. -/
  | set (start : Nat) (reader : SetReader)
  /-- Behind an opening bracket. -/
  | bracket (start : Nat)
  /-- Behind an opening bracket and a question mark. -/
  | question (start : Nat)
  /-- Behind the letter that announces a name. -/
  | letter (start : Nat)
  /-- Behind the sign that announces a look at what precedes. -/
  | angle (start : Nat)
  /-- In a name. -/
  | name (start : Nat) (use : NameUse) (nameStart : Nat) (text : List Char)
  /-- Behind flags that are turned on. -/
  | flagsOn (start : Nat) (on : List Flag)
  /-- Behind the hyphen, and the flags that are turned off. -/
  | flagsOff (start : Nat) (on off : List Flag)
  /-- In a bracketed comment. -/
  | comment (start : Nat)
  /-- In a comment up to the end of the line. -/
  | lineComment
deriving DecidableEq, Repr

/-- The state of the machine that reads an expression. -/
structure Reader where
  /-- The place of the next symbol. -/
  position : Nat := 0
  /-- What the reader is in the middle of. -/
  mode : Mode := .ready
  /-- The innermost frame. -/
  top : Frame := { opener := .whole, start := 0, flags := {} }
  /-- The frames around it, from the inside. -/
  below : List Frame := []
  /-- The groups in the order in which they were opened. -/
  groups : Array Group := #[]
  /-- The number of groups before the outermost open look at what precedes. -/
  groupsBefore? : Option Nat := none
  /-- The numbers of groups that choices refer to, each with its first
  place. -/
  conditions : List (Nat × Nat) := []
  /-- The flags that were turned on for the whole expression. -/
  globalFlags : List Flag := []
deriving DecidableEq, Repr

namespace Reader

/-- A malformed text. -/
def malformed (cause : Cause) (position : Nat) : Except Fault α :=
  .error (.malformed cause (some position))

/-- The bounds on what a group reads. -/
def groupWidth (reader : Reader) (index : Nat) : Width :=
  ((reader.groups[index - 1]?).bind Group.width?).getD .zero

/-- Whether a group is closed. -/
def isClosed (reader : Reader) (index : Nat) : Bool :=
  ((reader.groups[index - 1]?).bind Group.width?).isSome

/-- The index of the group with a name. -/
def indexOf? (reader : Reader) (name : String) : Option Nat :=
  (reader.groups.findIdx? fun group => group.name? == some name).map (· + 1)

/-- Adds an item to the innermost frame. -/
def push (reader : Reader) (item : Regex) : Reader :=
  { reader with top := reader.top.push item, mode := .ready }

/-- Adds a literal to the innermost frame. -/
def pushLiteral (reader : Reader) (c : CodePoint) : Reader :=
  reader.push (reader.top.flags.literal c)

/-- Adds the literals of a text to the innermost frame. -/
def pushLiterals (reader : Reader) (text : List Char) : Reader :=
  text.foldl (fun reader c => reader.pushLiteral c.toNat) reader

/-- Opens a frame. -/
def openFrame (reader : Reader) (start : Nat) (opener : Opener)
    (on off : List Flag) : Reader :=
  { reader with
    mode := .ready
    top :=
      { opener, start, flags := reader.top.flags.change on off }
    below := reader.top :: reader.below }

/-- Opens the frame of a group with an index. -/
def openGroup (reader : Reader) (start : Nat) (name? : Option String) :
    Reader :=
  let reader := { reader with groups := reader.groups.push { name? } }
  reader.openFrame start (.capture reader.groups.size) [] []

/-- Opens the frame of a look at what precedes. -/
def openBehind (reader : Reader) (start : Nat) (positive : Bool) : Reader :=
  let outermost := reader.groupsBefore?.isNone
  let before := reader.groupsBefore?.getD reader.groups.size
  { reader with groupsBefore? := some before }.openFrame start
    (.behind positive outermost) [] []

/-- The expression of a frame whose bracket is closed. -/
def closedFrame (reader : Reader) (frame : Frame) : Regex :=
  match frame.opener with
  | .capture index => .capture index frame.body
  | .atomic => .atomic frame.body
  | .ahead positive => .ahead positive frame.body
  | .behind positive _ =>
      .behind positive (frame.body.width reader.groupWidth) frame.body
  | .ifGroup index =>
      match frame.branches with
      | [] => .ifGroup index frame.branch .empty
      | yes :: _ => .ifGroup index yes frame.branch
  | .plain | .whole => .group frame.body

/-- What closing a frame changes besides the frames. -/
def leaveFrame (reader : Reader) (frame : Frame) : Reader :=
  match frame.opener with
  | .capture index =>
      let width := frame.body.width reader.groupWidth
      { reader with
        groups := reader.groups.modify (index - 1) fun group =>
          { group with width? := some width } }
  | .behind _ true => { reader with groupsBefore? := none }
  | _ => reader

/-- Fails if a look at what precedes may not refer to the group. -/
def checkBehind (reader : Reader) (index position : Nat) :
    Except Fault Unit :=
  match reader.groupsBefore? with
  | none => .ok ()
  | some before =>
      if !reader.isClosed index then malformed .openGroup position
      else if before < index then malformed .groupBehind position
      else .ok ()

/-- Makes the last item a repetition. -/
def repeatLast (reader : Reader) (start least : Nat) (most : Option Nat) :
    Except Fault Reader :=
  match reader.top.items with
  | [] => malformed .nothingToRepeat start
  | item :: items =>
      if item.isAnchor then malformed .nothingToRepeat start
      else if item.isLoop then malformed .multipleRepeat start
      else
        .ok { reader with
          mode := .repeated
          top :=
            { reader.top with
              items := .loop .greedy least most item :: items } }

/-- Changes the strategy of the repetition that was read last. -/
def setStrategy (reader : Reader) (strategy : Strategy) : Reader :=
  match reader.top.items with
  | .loop _ least most body :: items =>
      { reader with
        mode := .ready
        top :=
          { reader.top with
            items := .loop strategy least most body :: items } }
  | _ => { reader with mode := .ready }

/-- Repetition counts are smaller than this number. -/
def countLimit : Nat := 0xffffffff

/-- A repetition count; no digits stand for no count. -/
def count? (digits : List Char) : Except Fault (Option Nat) :=
  if digits.isEmpty then .ok none
  else if Limit.maxNumeralDigits < digits.length then
    .error (.limit (.numeralDigits digits.length))
  else
    let count := Text.digitsValue (digits.map fun c => c.toNat - 0x30)
    if count < countLimit then .ok (some count)
    else .error (.limit .repetitionCount)

/-- Makes the last item a repetition with the counts of a pair of braces. -/
def closeBraces (reader : Reader) (start : Nat) (least : List Char)
    (most? : Option (List Char)) : Except Fault Reader := do
  let least? ← count? least
  let most ← count? (most?.getD least)
  let least := least?.getD 0
  if most.any (· < least) then malformed .crossedCounts (start + 1)
  else reader.repeatLast start least most

/-- The literals of braces that hold no counts. -/
def giveUpBraces (reader : Reader) (least : List Char)
    (most? : Option (List Char)) : Reader :=
  let rest := (most?.map (',' :: ·)).getD []
  reader.pushLiterals ('\x7b' :: (least ++ rest))

/-- Adds a reference to the group with a number. -/
def pushNumber (reader : Reader) (start : Nat) (digits : List Char) :
    Except Fault Reader := do
  let index := Text.digitsValue (digits.map fun c => c.toNat - 0x30)
  if index ≤ reader.groups.size then
    if reader.isClosed index then
      reader.checkBehind index reader.position
      return reader.push (.backreference reader.top.flags.folding index)
    else malformed .openGroup start
  else malformed (.unknownReference index) (start + 1)

/-- Whether a number behind a backslash goes on with a symbol.  Three octal
digits make it the spelling of a code point. -/
def numberAccepts : List Char → Symbol → Bool
  | [_], .plain c => isDigit c
  | [a, b], .plain c => isOctalDigit a && isOctalDigit b && isOctalDigit c
  | _, _ => false

/-- Whether a count in braces goes on with a symbol, the closing brace
included. -/
def bracesAccept (least : List Char) (most? : Option (List Char)) :
    Symbol → Bool
  | .plain c =>
      isDigit c || c == ',' && most?.isNone ||
        c == '\x7d' && !(least.isEmpty && most?.isNone)
  | _ => false

/-- Gives its final meaning to whatever the next symbol, or the end of the
text, does not continue. -/
def settle (reader : Reader) (next? : Option Symbol) :
    Except Fault Reader :=
  match reader.mode with
  | .repeated =>
      if next? = some (.plain '?') ∨ next? = some (.plain '+') then .ok reader
      else .ok { reader with mode := .ready }
  | .braces _ least most? =>
      if next?.any (bracesAccept least most?) then .ok reader
      else .ok (reader.giveUpBraces least most?)
  | .spelling start spelling =>
      if next?.any spelling.accepts then .ok reader
      else do
        let code ← spelling.value start reader.position
        return reader.pushLiteral code
  | .number start digits =>
      if next?.any (numberAccepts digits) then .ok reader
      else reader.pushNumber start digits
  | .set start set => do
      let set ← set.settle reader.position next?
      return { reader with mode := .set start set }
  | .bracket start =>
      if next? = some (.plain '?') then .ok reader
      else .ok (reader.openGroup start none)
  | _ => .ok reader

/-- The meaning of an escape outside of sets. -/
def readEscape (reader : Reader) (c : Char) : Except Fault Reader :=
  let flags := reader.top.flags
  let inMode (mode : Mode) : Except Fault Reader := .ok { reader with mode }
  match c with
  | 'A' => .ok (reader.push (.assert .textStart))
  | 'Z' => .ok (reader.push (.assert .textEnd))
  | 'b' => .ok (reader.push (flags.boundary false))
  | 'B' => .ok (reader.push (flags.boundary true))
  | '0' => inMode (.spelling reader.position (.octal ['0']))
  | _ =>
      match categoryEscape? c, controlEscape? c, Spelling.ofLetter? c with
      | some (property, negated), _, _ =>
          .ok (reader.push (flags.category property negated))
      | none, some code, _ => .ok (reader.pushLiteral code)
      | none, none, some spelling =>
          inMode (.spelling reader.position spelling)
      | none, none, none =>
          if isDigit c then inMode (.number reader.position [c])
          else if Text.isAsciiLetter c.toNat then
            malformed (.badEscape (String.ofList ['\\', c])) reader.position
          else .ok (reader.pushLiteral c.toNat)

/-- Turns flags on for the whole expression. -/
def setGlobalFlags (reader : Reader) (start : Nat) (on : List Flag) :
    Except Fault Reader :=
  if reader.below.isEmpty && reader.top.branches.isEmpty &&
      reader.top.items.isEmpty then
    .ok { reader with
      mode := .ready
      top := { reader.top with flags := reader.top.flags.change on [] }
      globalFlags := reader.globalFlags ++ on }
  else malformed .misplacedFlags start

/-- Adds a flag to those that are turned on. -/
def addFlag (reader : Reader) (start : Nat) (on : List Flag) (flag : Flag) :
    Except Fault Reader :=
  if flag = .locale then malformed .localeFlag (reader.position + 1)
  else if flag.choosesRules &&
      on.any (fun other => other.choosesRules && other != flag) then
    malformed .clashingFlags (reader.position + 1)
  else .ok { reader with mode := .flagsOn start (flag :: on) }

/-- A symbol that should have been a flag: a letter is an unknown one. -/
def notAFlag (reader : Reader) (s : Symbol) (otherwise : Cause) :
    Except Fault α :=
  match s with
  | .plain c =>
      malformed (if Text.isLetter c.toNat then .unknownFlag else otherwise)
        reader.position
  | _ => malformed otherwise reader.position

/-- The flag that a symbol stands for. -/
def flagOf? : Symbol → Option Flag
  | .plain c => Flag.ofChar? c
  | _ => none

/-- Opens a part of the expression with flags of its own. -/
def openFlagged (reader : Reader) (start : Nat) (on off : List Flag) :
    Except Fault Reader :=
  if off.contains .template then malformed .globalFlagOff reader.position
  else if on.any off.contains then malformed .flagOnAndOff reader.position
  else .ok (reader.openFrame start .plain on off)

/-- Reads a symbol behind flags that are turned on. -/
def readFlagOn (reader : Reader) (start : Nat) (on : List Flag)
    (s : Symbol) : Except Fault Reader :=
  if s = .plain ')' then reader.setGlobalFlags start on
  else if s = .plain ':' ∨ s = .plain '-' then
    if on.contains .template then malformed .globalFlagOn reader.position
    else if s = .plain '-' then
      .ok { reader with mode := .flagsOff start on [] }
    else reader.openFlagged start on []
  else
    match flagOf? s with
    | some flag => reader.addFlag start on flag
    | none => reader.notAFlag s .unfinishedFlags

/-- Reads a symbol behind the hyphen, and the flags that are turned off. -/
def readFlagOff (reader : Reader) (start : Nat) (on off : List Flag)
    (s : Symbol) : Except Fault Reader :=
  if s = .plain ':' ∧ off ≠ [] then reader.openFlagged start on off
  else
    match flagOf? s with
    | some flag =>
        if flag.choosesRules then
          malformed .ruleFlagOff (reader.position + 1)
        else .ok { reader with mode := .flagsOff start on (flag :: off) }
    | none =>
        reader.notAFlag s (if off.isEmpty then .missingFlag else .missingColon)

/-- Reads the symbol behind an opening bracket and a question mark. -/
def readQuestion (reader : Reader) (start : Nat) (s : Symbol) :
    Except Fault Reader :=
  let inMode (mode : Mode) : Except Fault Reader := .ok { reader with mode }
  match s with
  | .plain 'P' => inMode (.letter start)
  | .plain ':' => .ok (reader.openFrame start .plain [] [])
  | .plain '#' => inMode (.comment start)
  | .plain '=' => .ok (reader.openFrame start (.ahead true) [] [])
  | .plain '!' => .ok (reader.openFrame start (.ahead false) [] [])
  | .plain '<' => inMode (.angle start)
  | .plain '(' => inMode (.name start .condition (reader.position + 1) [])
  | .plain '>' => .ok (reader.openFrame start .atomic [] [])
  | .plain '-' => inMode (.flagsOff start [] [])
  | _ =>
      match flagOf? s with
      | some flag => reader.addFlag start [] flag
      | none =>
          malformed (.unknownExtension (String.ofList ('?' :: s.chars)))
            (start + 1)

/-- The number of groups that an expression may have. -/
def groupLimit : Nat := 0x3fffffff

/-- Opens the choice that a number or a name decides.  A number may be that of
a group still to come. -/
def openChoice (reader : Reader) (start nameStart : Nat) (text : List Char) :
    Except Fault Reader := do
  let name := String.ofList text
  let behind := reader.position + 1
  if Text.isIdentifier (text.map Char.toNat) then
    match reader.indexOf? name with
    | none => malformed (.unknownName name) nameStart
    | some index =>
        reader.checkBehind index behind
        return reader.openFrame start (.ifGroup index) [] []
  else
    match Text.integer? Limit.maxNumeralDigits text with
    | some (.ofNat 0) => malformed .badGroupNumber nameStart
    | some (.ofNat index) =>
        if groupLimit ≤ index then
          malformed (.unknownReference index) nameStart
        else
          let known := reader.conditions.any fun entry => entry.1 == index
          let conditions :=
            if known then reader.conditions
            else reader.conditions ++ [(index, nameStart)]
          reader.checkBehind index behind
          return { reader with conditions }.openFrame start (.ifGroup index)
            [] []
    | _ => malformed (.badName name) nameStart

/-- Uses a name that is complete. -/
def useName (reader : Reader) (start nameStart : Nat) (use : NameUse)
    (text : List Char) : Except Fault Reader :=
  let name := String.ofList text
  let isIdentifier := Text.isIdentifier (text.map Char.toNat)
  match use with
  | .condition => reader.openChoice start nameStart text
  | .definition =>
      if isIdentifier then
        match reader.indexOf? name with
        | some earlier =>
            malformed
              (.redefinedName name (reader.groups.size + 1) earlier) nameStart
        | none => .ok (reader.openGroup start (some name))
      else malformed (.badName name) nameStart
  | .reference => do
      if isIdentifier then
        match reader.indexOf? name with
        | none => malformed (.unknownName name) nameStart
        | some index =>
            if reader.isClosed index then
              reader.checkBehind index (reader.position + 1)
              return reader.push
                (.backreference reader.top.flags.folding index)
            else malformed .openGroup nameStart
      else malformed (.badName name) nameStart

/-- Reads a closing bracket. -/
def close (reader : Reader) : Except Fault Reader :=
  match reader.below with
  | [] =>
      if reader.globalFlags.contains .ascii &&
          reader.globalFlags.contains .unicode then
        .error (.limit .characterRules)
      else malformed .unbalancedBracket reader.position
  | frame :: below =>
      let item := reader.closedFrame reader.top
      .ok ({ reader.leaveFrame reader.top with
        top := frame, below }.push item)

/-- Reads the bar between alternatives. -/
def readBar (reader : Reader) : Except Fault Reader :=
  if reader.top.isFullChoice then malformed .tooManyBranches reader.position
  else .ok { reader with top := reader.top.nextBranch }

/-- Reads a symbol that nothing before it claims. -/
def readFresh (reader : Reader) (s : Symbol) : Except Fault Reader :=
  let inMode (mode : Mode) : Except Fault Reader := .ok { reader with mode }
  let flags := reader.top.flags
  match s with
  | .dangling => malformed .endsInBackslash reader.position
  | .escaped c => reader.readEscape c
  | .plain c =>
      if flags.verbose && Text.isAsciiBlank c.toNat then .ok reader
      else if flags.verbose && c == '#' then inMode .lineComment
      else
        match c with
        | '|' => reader.readBar
        | ')' => reader.close
        | '(' => inMode (.bracket reader.position)
        | '[' => inMode (.set reader.position {})
        | '*' => reader.repeatLast reader.position 0 none
        | '+' => reader.repeatLast reader.position 1 none
        | '?' => reader.repeatLast reader.position 0 (some 1)
        | '\x7b' => inMode (.braces reader.position [] none)
        | '.' => .ok (reader.push flags.dot)
        | '^' => .ok (reader.push flags.caret)
        | '$' => .ok (reader.push flags.dollar)
        | _ => .ok (reader.pushLiteral c.toNat)

variable [CharacterNames]

/-- Reads a symbol after the reader was settled by it, without moving on. -/
def readHere (reader : Reader) (s : Symbol) : Except Fault Reader :=
  let inMode (mode : Mode) : Except Fault Reader := .ok { reader with mode }
  match reader.mode with
  | .ready => reader.readFresh s
  | .repeated =>
      .ok (reader.setStrategy
        (if s = .plain '+' then .possessive else .lazy))
  | .braces start least most? =>
      if s = .plain '\x7d' then reader.closeBraces start least most?
      else if s = .plain ',' then inMode (.braces start least (some []))
      else
        match most? with
        | none => inMode (.braces start (least ++ s.chars) none)
        | some most => inMode (.braces start least (some (most ++ s.chars)))
  | .spelling start spelling => do
      let spelling ← spelling.push start reader.position s
      inMode (.spelling start spelling)
  | .number start digits =>
      match digits with
      | [_] => inMode (.number start (digits ++ s.chars))
      | _ => inMode (.spelling start (.octal (digits ++ s.chars)))
  | .set start set => do
      let (set, closed) ← set.read reader.position s
      if closed then
        return reader.push
          (reader.top.flags.set set.negated set.members.reverse)
      else inMode (.set start set)
  | .bracket start => inMode (.question start)
  | .question start => reader.readQuestion start s
  | .letter start =>
      if s = .plain '<' then
        inMode (.name start .definition (reader.position + 1) [])
      else if s = .plain '=' then
        inMode (.name start .reference (reader.position + 1) [])
      else
        malformed (.unknownExtension (String.ofList ('?' :: 'P' :: s.chars)))
          (start + 1)
  | .angle start =>
      if s = .plain '=' then .ok (reader.openBehind start true)
      else if s = .plain '!' then .ok (reader.openBehind start false)
      else
        malformed (.unknownExtension (String.ofList ('?' :: '<' :: s.chars)))
          (start + 1)
  | .name start use nameStart text =>
      if s = .plain use.terminator then
        if text.isEmpty then
          malformed (.missingName "group name") reader.position
        else reader.useName start nameStart use text
      else inMode (.name start use nameStart (text ++ s.chars))
  | .flagsOn start on => reader.readFlagOn start on s
  | .flagsOff start on off => reader.readFlagOff start on off s
  | .comment start =>
      if s = .plain ')' then inMode .ready else inMode (.comment start)
  | .lineComment =>
      if s = .plain '\n' then inMode .ready else .ok reader

/-- Reads a symbol after the reader was settled by it. -/
def read (reader : Reader) (s : Symbol) : Except Fault Reader := do
  let next ← reader.readHere s
  return { next with position := reader.position + s.width }

/-- Whether reading stops at a symbol for good, instead of going past it. -/
def stopsAt (reader : Reader) (s : Symbol) : Bool :=
  reader.mode = .ready &&
    (s = .plain ')' && reader.below.isEmpty ||
      s = .plain '|' && reader.top.isFullChoice)

/-- One step: the reader is settled by the symbol and reads it.  A symbol
behind which only a dangling backslash stands is not read any more. -/
def step (reader : Reader) (s : Symbol) (isBeforeDangling : Bool) :
    Except Fault Reader := do
  let reader ← reader.settle (some s)
  if isBeforeDangling && !reader.stopsAt s then
    malformed .endsInBackslash (reader.position + s.width)
  else reader.read s

/-- Reads symbols one by one. -/
def readAll (reader : Reader) : List Symbol → Except Fault Reader
  | [] => .ok reader
  | s :: rest => do
      let reader ← reader.step s (rest = [.dangling])
      reader.readAll rest

/-- What is missing at the end of the text. -/
def checkEnd (reader : Reader) : Except Fault Unit :=
  match reader.mode with
  | .set start _ => malformed .unterminatedSet start
  | .question _ | .letter _ | .angle _ =>
      malformed .unexpectedEnd reader.position
  | .name _ use nameStart text =>
      if text.isEmpty then
        malformed (.missingName "group name") reader.position
      else malformed (.unterminatedName use.terminator) nameStart
  | .flagsOn _ _ => malformed .unfinishedFlags reader.position
  | .flagsOff _ _ off =>
      malformed (if off.isEmpty then .missingFlag else .missingColon)
        reader.position
  | .comment start => malformed .unterminatedComment start
  | _ =>
      if reader.below.isEmpty then .ok ()
      else malformed .unterminatedGroup reader.top.start

/-- The greatest length of what is looked for behind a place. -/
def behindLimit : Nat := 0xffffffff

/-- Fails unless everything that is looked for behind a place has a fixed
length. -/
def checkWidthsBehind (body : Regex) : Except Fault Unit :=
  body.widthsBehind.forM fun width =>
    if behindLimit < width.least then .error (.malformed .farBehind none)
    else if width.least ≠ width.most then
      .error (.malformed .variableBehind none)
    else .ok ()

/-- The names of the groups with their indices. -/
def names (reader : Reader) : List (String × Nat) :=
  reader.groups.toList.zipIdx.filterMap fun (entry, index) =>
    entry.name?.map (·, index + 1)

/-- The expression that has been read, at the end of its text. -/
def finish (reader : Reader) : Except Fault Program := do
  let reader ← reader.settle none
  reader.checkEnd
  if reader.globalFlags.contains .ascii &&
      reader.globalFlags.contains .unicode then
    throw (.limit .characterRules)
  reader.conditions.forM fun (index, position) =>
    if reader.groups.size < index then
      malformed (.unknownReference index) position
    else .ok ()
  let body := reader.top.body
  checkWidthsBehind body
  return { body, groupCount := reader.groups.size, names := reader.names }

end Reader

/-- The expression that a text stands for. -/
def parse [CharacterNames] (source : String) : Except Fault Program := do
  let reader ← ({} : Reader).readAll (Symbol.ofChars source.toList)
  reader.finish

end Regex
end PathRouter
