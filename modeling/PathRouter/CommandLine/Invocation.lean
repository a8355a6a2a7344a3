import PathRouter.CommandLine.Argument

/-!
# Reading arguments

Arguments are read from left to right.  A row of arguments that spell no switch
fills as many operands as it can, in their order; the operand that is a command
takes everything that follows.  What fills no operand is left over, and so is
every unknown switch.  The help switch ends the reading at once.

A terminator goes to the operand next to it and does not count as its text.
Without one, an operand that consists of two hyphens has no text.

## Main definitions

* `Invocation`: a command with its operands and the level of what is logged.
* `Invocation.read`: the command that arguments stand for.
-/

namespace PathRouter
namespace CommandLine

/-- Why the reading of arguments ends early. -/
inductive Exit where
  /-- The help text is asked for. -/
  | help (interface : Interface)
  /-- The arguments are not accepted. -/
  | refused (interface : Interface) (refusal : Refusal)
deriving DecidableEq, Repr

/-- How far arguments have been read. -/
structure Reading where
  /-- The operands that are still to come. -/
  due : List Operand
  /-- The operands so far with the arguments that have filled them. -/
  filled : List (Operand × List String) := []
  /-- The level of what is logged. -/
  level : LogLevel := .warning
  /-- The arguments that are left over. -/
  leftOver : List String := []
deriving DecidableEq, Repr

namespace Operand

/-- The arguments at the front that fill an operand, and those that are
left. -/
def take? (operand : Operand) (arguments : List Argument) :
    Option (List String × List Argument) :=
  let before := arguments.takeWhile Argument.isTerminator
  match arguments.dropWhile Argument.isTerminator with
  | ⟨text, .operand⟩ :: rest =>
      let (behind, left) :=
        if operand = .command then (rest, [])
        else
          (rest.takeWhile Argument.isTerminator,
            rest.dropWhile Argument.isTerminator)
      some ((before ++ ⟨text, .operand⟩ :: behind).map (·.text), left)
  | _ => none

/-- The operands that arguments fill, those that are still to come, and the
arguments that are left. -/
def takeAll : List Operand → List Argument →
    List (Operand × List String) × List Operand × List Argument
  | [], arguments => ([], [], arguments)
  | operand :: due, arguments =>
      match operand.take? arguments with
      | none => ([], operand :: due, arguments)
      | some (texts, rest) =>
          let (filled, due, rest) := takeAll due rest
          ((operand, texts) :: filled, due, rest)

/-- What is left when an operand is filled is shorter. -/
theorem length_lt_of_take? {operand : Operand} {arguments rest : List Argument}
    {texts : List String}
    (taken : operand.take? arguments = some (texts, rest)) :
    rest.length < arguments.length := by
  have front := (List.dropWhile_suffix (l := arguments)
    Argument.isTerminator).length_le
  unfold take? at taken
  dsimp only at taken
  split at taken
  · next text behind equal =>
      have tail := (List.dropWhile_suffix (l := behind)
        Argument.isTerminator).length_le
      rw [equal, List.length_cons] at front
      split at taken <;>
        simp only [Option.some.injEq, Prod.mk.injEq] at taken <;>
        rw [← taken.2]
      · simp only [List.length_nil]
        omega
      · omega
  · simp at taken

/-- What is left is no longer, and shorter if an operand is filled. -/
theorem length_takeAll (due : List Operand) (arguments : List Argument) :
    (takeAll due arguments).2.2.length +
      (if (takeAll due arguments).1.isEmpty then 0 else 1) ≤
        arguments.length := by
  induction due generalizing arguments with
  | nil => simp [takeAll]
  | cons operand due inductionHypothesis =>
      unfold takeAll
      split
      · simp
      · next texts rest taken =>
          have shorter := length_lt_of_take? taken
          have later := inductionHypothesis rest
          cases equal : takeAll due rest
          simp only [equal, List.isEmpty_cons, Bool.false_eq_true,
            if_false] at later ⊢
          omega

end Operand

/-- The text that an argument behind the letter of the help switch must not
have, if it has one: what stands behind further letters of the switch. -/
def ignoredText? : List Char → Option (List Char)
  | [] => none
  | ['h'] => none
  | '-' :: rest => some ('-' :: rest)
  | 'h' :: '=' :: rest => some rest
  | 'h' :: rest => ignoredText? rest
  | _ => none

namespace Reading

/-- Fills operands, after which others are still to come. -/
def fill (reading : Reading) (filled : List (Operand × List String))
    (due : List Operand) : Reading :=
  { reading with due, filled := reading.filled ++ filled }

/-- Leaves an argument over. -/
def leave (reading : Reading) (argument : Argument) : Reading :=
  { reading with leftOver := reading.leftOver ++ [argument.text] }

/-- Reads the value of a switch that chooses the level. -/
def setLevel (reading : Reading) (text : String) : Except Refusal Reading :=
  match LogLevel.ofName? text with
  | some level => .ok { reading with level }
  | none => .error (.unknownLevel text)

/-- Reads an argument that looks like a switch; `none` asks for help. -/
def readSwitch (reading : Reading) (argument : Argument)
    (rest : List Argument) :
    Except Refusal (Option (Reading × List Argument)) :=
  match argument.spelling with
  | .switch .help isLetter (some attached) =>
      let ignored? :=
        if isLetter && !attached.behindSign then ignoredText? attached.text
        else some attached.text
      match ignored? with
      | some text => .error (.ignoredText .help (String.ofList text))
      | none => .ok none
  | .switch .help _ none => .ok none
  | .switch .logLevel _ (some attached) =>
      match reading.setLevel (String.ofList attached.text) with
      | .error refusal => .error refusal
      | .ok reading => .ok (some (reading, rest))
  | .switch .logLevel _ none =>
      match rest with
      | ⟨text, .operand⟩ :: rest =>
          match reading.setLevel text with
          | .error refusal => .error refusal
          | .ok reading => .ok (some (reading, rest))
      | _ => .error (.missingValue .logLevel)
  | _ => .ok (some (reading.leave argument, rest))

/-- What is left behind a switch is no longer. -/
theorem length_le_of_readSwitch {before after : Reading} {argument : Argument}
    {arguments rest : List Argument}
    (read : before.readSwitch argument arguments = .ok (some (after, rest))) :
    rest.length ≤ arguments.length := by
  unfold readSwitch at read
  split at read
  · dsimp only at read
    split at read <;> simp at read
  · simp at read
  · split at read
    · simp at read
    · simp only [Except.ok.injEq, Option.some.injEq, Prod.mk.injEq] at read
      simp [← read.2]
  · split at read
    · split at read
      · simp at read
      · simp only [Except.ok.injEq, Option.some.injEq, Prod.mk.injEq] at read
        simp [← read.2]
    · simp at read
  · simp only [Except.ok.injEq, Option.some.injEq, Prod.mk.injEq] at read
    simp [← read.2]

/-- Reads arguments that an interface accepts. -/
def run (interface : Interface) (reading : Reading) :
    List Argument → Except Exit Reading
  | [] => .ok reading
  | argument :: rest =>
      if argument.isSwitch then
        match _switch : reading.readSwitch argument rest with
        | .error refusal => .error (.refused interface refusal)
        | .ok none => .error (.help interface)
        | .ok (some (reading, rest)) => run interface reading rest
      else
        match _taken : Operand.takeAll reading.due (argument :: rest) with
        | ([], _, _) => run interface (reading.leave argument) rest
        | (filled :: more, due, left) =>
            run interface (reading.fill (filled :: more) due) left
termination_by arguments => arguments.length
decreasing_by
  · have bound := length_le_of_readSwitch _switch
    simp only [List.length_cons]
    omega
  · simp
  · have bound := Operand.length_takeAll reading.due (argument :: rest)
    simp only [_taken, List.isEmpty_cons, Bool.false_eq_true, if_false]
      at bound
    omega

end Reading

/-- Reads arguments that an interface accepts, all of whose operands have to be
there. -/
def Interface.read (interface : Interface) (arguments : List String) :
    Except Exit Reading := do
  let arguments ← (Argument.classify interface arguments).mapError
    (.refused interface)
  let reading ← Reading.run interface { due := interface.operands } arguments
  match reading.due.filter Operand.isRequired with
  | [] => return reading
  | missing => throw (.refused interface (.missingOperands missing))

/-- A command with its operands. -/
structure Invocation where
  /-- The level of what is logged. -/
  level : LogLevel
  /-- The command. -/
  command : CommandKind
  /-- Where the routes come from. -/
  source? : Option String
  /-- The path that is resolved, if the command resolves one. -/
  path? : Option String
deriving DecidableEq, Repr

namespace Invocation

/-- The text of an operand: the argument that has filled it without one
terminator. -/
def operandText? (texts : List String) : Option String :=
  (texts.erase Argument.terminatorText).head?

/-- The text of an operand that has been filled. -/
def textOf? (reading : Reading) (operand : Operand) : Option String :=
  (reading.filled.lookup operand).bind operandText?

/-- Reads the operands of a command. -/
def readCommand (outer : Reading) (name : String) (arguments : List String) :
    Except Exit Invocation :=
  match CommandKind.ofName? name with
  | none => .error (.refused .main (.unknownCommand name))
  | some command => do
      let inner ← (Interface.ofCommand command).read arguments
      match outer.leftOver ++ inner.leftOver with
      | [] =>
          return {
            level := outer.level
            command
            source? := textOf? inner .source
            path? := textOf? inner .path }
      | leftOver => throw (.refused .main (.leftOver leftOver))

/-- The command that arguments stand for; without one, help is asked for. -/
def read (arguments : List String) : Except Exit Invocation := do
  let outer ← Interface.main.read arguments
  match outer.filled.lookup .command, outer.leftOver with
  | some (name :: rest), _ => readCommand outer name rest
  | _, [] => throw (.help .main)
  | _, leftOver => throw (.refused .main (.leftOver leftOver))

end Invocation
end CommandLine
end PathRouter
