import PathRouter.Regex.Basic

/-!
# Matching expressions

An expression is matched against a text by ordered backtracking: of the ways in
which it can be read from a place, they are tried one after another in the
order of preference, and the first one that lets the rest succeed is taken.
What is still to be read is a continuation from states to results.

A repetition beyond its least count is not tried again at a place where its
previous round began, so that rounds that read nothing end.

## Main definitions

* `MatchState`: a place in the text and what the groups have read.
* `Regex.run`: matching with a continuation.
* `Regex.fullMatch?`: matching a whole text.
-/

namespace PathRouter

/-- A place in the text, and what the groups have read. -/
structure MatchState where
  /-- The number of characters read. -/
  position : Nat := 0
  /-- The places between which the groups have read, the latest first. -/
  captures : List (Nat × Nat × Nat) := []
  /-- The places where groups began to read, the latest first. -/
  begun : List (Nat × Nat) := []
deriving DecidableEq, Repr

namespace MatchState

/-- The places between which a group has read last. -/
def span? (state : MatchState) (index : Nat) : Option (Nat × Nat) :=
  state.captures.lookup index

/-- Records that a group begins to read. -/
def enter (state : MatchState) (index : Nat) : MatchState :=
  { state with begun := (index, state.position) :: state.begun }

/-- Records that a group has read from `start` to the current place. -/
def record (state : MatchState) (index start : Nat) : MatchState :=
  { state with captures := (index, start, state.position) :: state.captures }

/-- Whether a group counts as one that has read something: it has, and it has
not begun again behind that. -/
def hasRead (state : MatchState) (index : Nat) : Bool :=
  (state.span? index).any fun (_, stop) =>
    (state.begun.lookup index).all (· ≤ stop)

end MatchState

/-- What is to be done with a state. -/
abbrev Continuation := MatchState → Option MatchState

namespace Anchor

/-- Whether the character at a place is a word character. -/
def isWordAt (text : Array Char) (ascii : Bool) (position : Nat) : Bool :=
  text[position]?.any fun c => CharProperty.word.holds ascii c.toNat

/-- Whether a place is behind a line feed. -/
def isBehindLineFeed (text : Array Char) (position : Nat) : Bool :=
  0 < position && text[position - 1]? == some '\n'

/-- Whether the anchor holds at a place.  No place of an empty text is a
boundary, and none is known not to be one. -/
def holds (text : Array Char) (position : Nat) : Anchor → Bool
  | textStart => position = 0
  | lineStart => position = 0 || isBehindLineFeed text position
  | textEnd => position = text.size
  | lastLineEnd =>
      position = text.size ||
        position + 1 = text.size && text[position]? == some '\n'
  | lineEnd => position = text.size || text[position]? == some '\n'
  | wordBoundary ascii negated =>
      text.size ≠ 0 &&
        ((0 < position && isWordAt text ascii (position - 1)) !=
          isWordAt text ascii position) != negated

end Anchor

namespace Regex

/-- Whether the text reads the same at two places, for a number of characters
that are compared by their representatives. -/
def sameText (text : Array Char) (folding : Folding) :
    Nat → Nat → Nat → Bool
  | 0, _, _ => true
  | count + 1, i, j =>
      match text[i]?, text[j]? with
      | some c, some d =>
          folding.apply c.toNat == folding.apply d.toNat &&
            sameText text folding count (i + 1) (j + 1)
      | _, _ => false

/-- Whether a repetition with `most` rounds left may start another one at a
place, when its previous round began at `last?`. -/
def mayRepeat (most : Option Nat) (last? : Option Nat) (position : Nat) :
    Bool :=
  most != some 0 && last? != some position

/-- Rounds of `body`, as many as possible first.  Every round beyond the least
count moves on, except perhaps the last one, so that `fuel` suffices when it
exceeds the least count by the characters left and two. -/
def runGreedy (body : MatchState → Continuation → Option MatchState) :
    (fuel least : Nat) → (most last? : Option Nat) → MatchState →
      Continuation → Option MatchState
  | 0, _, _, _, _, _ => none
  | fuel + 1, least + 1, most, last?, state, next =>
      body state fun state =>
        runGreedy body fuel least (most.map (· - 1)) last? state next
  | fuel + 1, 0, most, last?, state, next =>
      if mayRepeat most last? state.position then
        (body state fun after =>
          runGreedy body fuel 0 (most.map (· - 1)) (some state.position)
            after next) <|> next state
      else next state

/-- Rounds of `body`, as few as possible first. -/
def runLazy (body : MatchState → Continuation → Option MatchState) :
    (fuel least : Nat) → (most last? : Option Nat) → MatchState →
      Continuation → Option MatchState
  | 0, _, _, _, _, _ => none
  | fuel + 1, least + 1, most, last?, state, next =>
      body state fun state =>
        runLazy body fuel least (most.map (· - 1)) last? state next
  | fuel + 1, 0, most, last?, state, next =>
      next state <|>
        if mayRepeat most last? state.position then
          body state fun after =>
            runLazy body fuel 0 (most.map (· - 1)) (some state.position)
              after next
        else none

/-- Rounds of `body`, each in its preferred way only, until none can be
added or a round reads nothing. -/
def runPossessive (body : MatchState → Continuation → Option MatchState) :
    (fuel least : Nat) → (most : Option Nat) → MatchState →
      Option MatchState
  | 0, _, _, _ => none
  | fuel + 1, least + 1, most, state =>
      match body state some with
      | none => none
      | some after => runPossessive body fuel least (most.map (· - 1)) after
  | fuel + 1, 0, most, state =>
      if most = some 0 then some state
      else
        match body state some with
        | none => some state
        | some after =>
            if after.position = state.position then some after
            else runPossessive body fuel 0 (most.map (· - 1)) after

/-- Matches an expression from a state on, and lets the continuation decide
which of its ways is taken. -/
def run (text : Array Char) :
    Regex → MatchState → Continuation → Option MatchState
  | empty, state, next => next state
  | one test, state, next =>
      match text[state.position]? with
      | none => none
      | some c =>
          if test.holds c.toNat then
            next { state with position := state.position + 1 }
          else none
  | assert anchor, state, next =>
      if anchor.holds text state.position then next state else none
  | backreference folding index, state, next =>
      match state.span? index with
      | none => none
      | some (start, stop) =>
          if sameText text folding (stop - start) start state.position then
            next { state with position := state.position + (stop - start) }
          else none
  | seq first second, state, next =>
      first.run text state fun state => second.run text state next
  | alt first second, state, next =>
      first.run text state next <|> second.run text state next
  | loop strategy least most body, state, next =>
      let fuel := least + (text.size - state.position) + 2
      match strategy with
      | .greedy => runGreedy (body.run text) fuel least most none state next
      | .lazy => runLazy (body.run text) fuel least most none state next
      | .possessive =>
          (runPossessive (body.run text) fuel least most state).bind next
  | capture index body, state, next =>
      body.run text (state.enter index) fun after =>
        next (after.record index state.position)
  | group body, state, next => body.run text state next
  | ifGroup index yes no, state, next =>
      if state.hasRead index then yes.run text state next
      else no.run text state next
  | ahead positive body, state, next =>
      match body.run text state some with
      | some after =>
          if positive then next { after with position := state.position }
          else none
      | none => if positive then none else next state
  | behind positive width body, state, next =>
      let found :=
        if width.least ≤ state.position then
          body.run text
            { state with position := state.position - width.least } some
        else none
      match found with
      | some after =>
          if positive then next { after with position := state.position }
          else none
      | none => if positive then none else next state
  | atomic body, state, next => (body.run text state some).bind next

/-- Matches an expression against a whole text. -/
def fullMatch? (r : Regex) (text : Array Char) : Option MatchState :=
  r.run text {} fun state =>
    if state.position = text.size then some state else none

end Regex
end PathRouter
