import PathRouter.CommandLine.Interface
import PathRouter.Text.Alphanumeric

/-!
# Kinds of arguments

Each argument is an operand, the terminator behind which all are operands, or
spells a switch.  A switch with two hyphens may be shortened, and its value may
be attached behind an equals sign.  Behind the single letter of a switch, the
rest of the argument is attached.

## Main definitions

* `Spelling` and `Argument`: what an argument spells.
* `Argument.classify`: what all arguments spell.
-/

namespace PathRouter
namespace CommandLine

/-- What stands behind the spelling of a switch in the same argument. -/
structure Attachment where
  /-- Whether an equals sign comes first. -/
  behindSign : Bool
  /-- The text. -/
  text : List Char
deriving DecidableEq, Repr

/-- What an argument spells. -/
inductive Spelling where
  /-- A plain text. -/
  | operand
  /-- Two hyphens, behind which all arguments are operands. -/
  | terminator
  /-- A switch, which is spelled with a single letter or with a word. -/
  | switch (switch : Switch) (isLetter : Bool) (attached? : Option Attachment)
  /-- Something that looks like a switch and is none. -/
  | unknown
deriving DecidableEq, Repr

/-- An argument with what it spells. -/
structure Argument where
  /-- The argument. -/
  text : String
  /-- What it spells. -/
  spelling : Spelling
deriving DecidableEq, Repr

/-- Why arguments are not accepted. -/
inductive Refusal where
  /-- An argument may stand for several switches. -/
  | ambiguous (text : String) (spellings : List String)
  /-- A switch does not take what is attached to it. -/
  | ignoredText (switch : Switch) (text : String)
  /-- A switch lacks its value. -/
  | missingValue (switch : Switch)
  /-- There is no such level. -/
  | unknownLevel (text : String)
  /-- There is no such command. -/
  | unknownCommand (text : String)
  /-- Operands are missing. -/
  | missingOperands (operands : List Operand)
  /-- Arguments are left over. -/
  | leftOver (arguments : List String)
deriving DecidableEq, Repr

/-- A text that is none of some choices. -/
def invalidChoice (text : String) (choices : List String) : String :=
  "invalid choice: " ++ Text.quoted text ++ " (choose from " ++
    ", ".intercalate (choices.map Text.quoted) ++ ")"

/-- The wording of each refusal. -/
def Refusal.message : Refusal → String
  | ambiguous text spellings =>
      "ambiguous option: " ++ text ++ " could match " ++
        ", ".intercalate spellings
  | ignoredText switch text =>
      "argument " ++ switch.inMessages ++ ": ignored explicit argument " ++
        Text.quoted text
  | missingValue switch =>
      "argument " ++ switch.inMessages ++ ": expected one argument"
  | unknownLevel text =>
      "argument " ++ Switch.logLevel.inMessages ++ ": " ++
        invalidChoice text (LogLevel.all.map LogLevel.name)
  | unknownCommand text =>
      "argument " ++ Operand.command.name ++ ": " ++
        invalidChoice text (CommandKind.all.map CommandKind.name)
  | missingOperands operands =>
      "the following arguments are required: " ++
        ", ".intercalate (operands.map Operand.name)
  | leftOver arguments =>
      "unrecognized arguments: " ++ " ".intercalate arguments

namespace Argument

/-- Two hyphens. -/
def terminatorText : String := "--"

/-- Whether digits, perhaps with a point in front of the last ones, follow a
hyphen; a line end may come last. -/
def isNegativeNumber (text : List Char) : Bool :=
  let isDigit (c : Char) : Bool := Text.isDecimalDigit c.toNat
  match text with
  | '-' :: unsigned =>
      let unsigned :=
        if unsigned.getLast? = some '\n' then unsigned.dropLast else unsigned
      let whole := unsigned.takeWhile isDigit
      match unsigned.dropWhile isDigit with
      | [] => !whole.isEmpty
      | '.' :: fraction => !fraction.isEmpty && fraction.all isDigit
      | _ => false
  | _ => false

/-- The text in front of the first equals sign, and the text behind it if there
is one. -/
def splitAtSign (text : List Char) : List Char × Option (List Char) :=
  (text.takeWhile (· ≠ '='),
    match text.dropWhile (· ≠ '=') with
    | _ :: value => some value
    | [] => none)

/-- A switch that is spelled in full, perhaps with an equals sign behind it. -/
def spelledInFull? (spellings : List (String × Switch)) (text : List Char) :
    Option Spelling :=
  let (start, value?) := splitAtSign text
  (spellings.lookup (String.ofList start)).map fun found =>
    .switch found (start.length = 2) (value?.map (⟨true, ·⟩))

/-- The switches that an argument may stand for, if it does not spell one in
full. -/
def candidates (spellings : List (String × Switch)) (text : List Char) :
    List (String × Spelling) :=
  match text with
  | '-' :: '-' :: _ =>
      let (start, value?) := splitAtSign text
      (spellings.filter fun (spelling, _) =>
        start.isPrefixOf spelling.toList).map fun (spelling, found) =>
          (spelling, .switch found false (value?.map (⟨true, ·⟩)))
  | '-' :: letter :: rest =>
      (spellings.filter fun (spelling, _) =>
        spelling.toList = ['-', letter]).map fun (spelling, found) =>
          (spelling, .switch found true (some ⟨false, rest⟩))
  | _ => []

/-- What an argument spells, unless it is the terminator. -/
def spellingOf (interface : Interface) (text : List Char) :
    Except Refusal Spelling :=
  match text with
  | '-' :: c :: rest =>
      match spelledInFull? interface.spellings text with
      | some spelling => .ok spelling
      | none =>
          match candidates interface.spellings text with
          | [(_, spelling)] => .ok spelling
          | [] =>
              if isNegativeNumber text || (c :: rest).contains ' ' then
                .ok .operand
              else .ok .unknown
          | several =>
              .error (.ambiguous (String.ofList text)
                (several.map Prod.fst))
  | _ => .ok .operand

/-- What arguments spell. -/
def classify (interface : Interface) :
    List String → Except Refusal (List Argument)
  | [] => .ok []
  | text :: rest =>
      if text = terminatorText then
        .ok (⟨text, .terminator⟩ :: rest.map (⟨·, .operand⟩))
      else do
        let spelling ← spellingOf interface text.toList
        let arguments ← classify interface rest
        return ⟨text, spelling⟩ :: arguments

/-- Whether an argument is the terminator. -/
def isTerminator (argument : Argument) : Bool :=
  argument.spelling == .terminator

/-- Whether an argument looks like a switch. -/
def isSwitch (argument : Argument) : Bool :=
  match argument.spelling with
  | .switch .. | .unknown => true
  | _ => false

end Argument
end CommandLine
end PathRouter
