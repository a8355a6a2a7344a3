import PathRouter.Regex.Escape

/-!
# Reading character sets

A character set is read symbol by symbol after its opening bracket.  A caret
right after the bracket negates the set.  The first member may be a closing
bracket.  A hyphen between two members makes a range of them, and stands for
itself at the end of the set.

Before each symbol the reader is settled: a spelling that does not go on is
given its value, and a member behind which no hyphen stands joins the set.
-/

namespace PathRouter
namespace Regex

/-- A member of a set, with the text that messages show for it. -/
structure SetAtom where
  /-- The member. -/
  member : SetMember
  /-- Its first symbol. -/
  text : List Char
deriving DecidableEq, Repr

/-- What may come next in a set. -/
inductive SetStage where
  /-- Anything, and a caret would negate the set. -/
  | opened
  /-- A member, or the end of the set. -/
  | between
  /-- More of the spelling of a member. -/
  | spelling (start : Nat) (text : List Char) (spelling : Spelling)
  /-- A hyphen, which would make a range. -/
  | afterAtom (atom : SetAtom)
  /-- The upper end of a range, or the end of the set. -/
  | afterHyphen (atom : SetAtom)
  /-- More of the spelling of the upper end of a range. -/
  | upperSpelling (atom : SetAtom) (start : Nat) (text : List Char)
      (spelling : Spelling)
deriving DecidableEq, Repr

/-- A character set that is being read. -/
structure SetReader where
  /-- All others are meant. -/
  negated : Bool := false
  /-- The members so far, the last one first. -/
  members : List SetMember := []
  /-- What may come next. -/
  stage : SetStage := .opened
deriving DecidableEq, Repr

namespace SetReader

/-- Adds a member. -/
def add (reader : SetReader) (member : SetMember) : SetReader :=
  { reader with members := member :: reader.members, stage := .between }

/-- Adds the range between two atoms, whose text ends at `stop`. -/
def addRange (reader : SetReader) (low high : SetAtom) (stop : Nat) :
    Except Fault SetReader :=
  let bad : Fault :=
    .malformed (.badRange (String.ofList low.text) (String.ofList high.text))
      (some (stop - (low.text.length + 1 + high.text.length)))
  match low.member, high.member with
  | .code first, .code last =>
      if first ≤ last then .ok (reader.add (.range first last))
      else .error bad
  | _, _ => .error bad

/-- The meaning of an escape in a set: a member at once, or a spelling. -/
def ofEscape (position : Nat) (c : Char) :
    Except Fault (SetMember ⊕ Spelling) :=
  match controlEscape? c, categoryEscape? c, Spelling.ofLetter? c with
  | some code, _, _ => .ok (.inl (.code code))
  | none, some (property, negated), _ =>
      .ok (.inl (.category property negated))
  | none, none, some spelling => .ok (.inr spelling)
  | none, none, none =>
      if isOctalDigit c then .ok (.inr (.octal [c]))
      else if isDigit c || Text.isAsciiLetter c.toNat then
        .error (.malformed (.badEscape (String.ofList ['\\', c]))
          (some position))
      else .ok (.inl (.code c.toNat))

/-- Gives pending spellings their value and lets a member join the set, unless
the next symbol goes on with them. -/
def settle (position : Nat) (next? : Option Symbol) (reader : SetReader) :
    Except Fault SetReader :=
  let join (atom : SetAtom) : SetReader :=
    if next? = some (.plain '-') then { reader with stage := .afterAtom atom }
    else reader.add atom.member
  match reader.stage with
  | .spelling start text spelling =>
      if next?.any spelling.accepts then .ok reader
      else do
        let code ← spelling.value start position
        return join ⟨.code code, text⟩
  | .upperSpelling low start text spelling =>
      if next?.any spelling.accepts then .ok reader
      else do
        let code ← spelling.value start position
        reader.addRange low ⟨.code code, text⟩ position
  | .afterAtom atom => .ok (join atom)
  | _ => .ok reader

/-- A settled reader after a member starts: `found` uses a member that is
complete, and `pending` one that is still spelled out. -/
def startAtom (position : Nat) (s : Symbol)
    (found : SetAtom → Except Fault SetReader)
    (pending : List Char → Spelling → SetReader) : Except Fault SetReader :=
  match s with
  | .escaped c => do
      match ← ofEscape position c with
      | .inl member => found ⟨member, s.chars⟩
      | .inr spelling => return pending s.chars spelling
  | .plain c => found ⟨.code c.toNat, s.chars⟩
  | .dangling => found ⟨.code 0x5c, s.chars⟩

/-- A settled reader after the start of a member. -/
def readMember (position : Nat) (s : Symbol) (reader : SetReader) :
    Except Fault SetReader :=
  startAtom position s
    (fun atom => .ok { reader with stage := .afterAtom atom })
    (fun text spelling =>
      { reader with stage := .spelling position text spelling })

/-- A settled reader after one more symbol, and whether the symbol closes the
set. -/
def read [CharacterNames] (position : Nat) (s : Symbol)
    (reader : SetReader) : Except Fault (SetReader × Bool) :=
  let goOn (reader : SetReader) : SetReader × Bool := (reader, false)
  match reader.stage with
  | .opened =>
      if s = .plain '^' then
        .ok (goOn { reader with negated := true, stage := .between })
      else goOn <$> reader.readMember position s
  | .between =>
      if s = .plain ']' && !reader.members.isEmpty then .ok (reader, true)
      else goOn <$> reader.readMember position s
  | .afterAtom atom => .ok (goOn { reader with stage := .afterHyphen atom })
  | .afterHyphen low =>
      if s = .plain ']' then
        .ok ((reader.add low.member).add (.code 0x2d), true)
      else
        goOn <$> startAtom position s
          (fun high => reader.addRange low high (position + s.width))
          (fun text spelling =>
            { reader with
              stage := .upperSpelling low position text spelling })
  | .spelling start text spelling => do
      let spelling ← spelling.push start position s
      return goOn { reader with stage := .spelling start text spelling }
  | .upperSpelling low start text spelling => do
      let spelling ← spelling.push start position s
      return goOn
        { reader with stage := .upperSpelling low start text spelling }

end SetReader
end Regex
end PathRouter
