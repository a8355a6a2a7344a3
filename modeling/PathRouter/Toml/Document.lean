import PathRouter.Toml.ValueReader

/-!
# Reading documents of settings

A document is read line by line.  A line may give a value to a key, or it may
name the table, or a new member of the list of tables, that the keys of the next
lines belong to.  What has been declared and what has been written as a value
cannot be changed later on.

## Main definitions

* `Document`: what has been read, and what is closed to later lines.
* `Document.readLine`: one line.
* `parse`: the table that a document stands for.
-/

namespace PathRouter
namespace Toml

/-- What the lines of a document have given so far. -/
structure Document where
  /-- The entries of the outermost table. -/
  entries : Entries := {}
  /-- The table that keys belong to. -/
  header : Key := []
  /-- Tables that have been declared. -/
  declared : List Key := []
  /-- Tables that count as declared from the next header on. -/
  pending : List Key := []
  /-- Lists and tables that were written as values. -/
  closed : List Key := []

namespace Document

/-- Whether a key leads into a list or table that was written as a value. -/
def isClosed (document : Document) (key : Key) : Bool :=
  key != [] && document.closed.any (·.isPrefixOf key)

/-- Whether a key leads to a table that has been declared. -/
def isDeclared (document : Document) (key : Key) : Bool :=
  document.declared.contains key

/-- The document at a new header. -/
def atHeader (document : Document) : Document :=
  { document with
    declared := document.pending ++ document.declared
    pending := [] }

/-- The document after a change of its tables, refused where `left` is left. -/
def change (document : Document) (left : List Char) (key : Key)
    (how : Entries → Except Cause Entries) : Except Fault Document :=
  match changeTable true how key document.entries with
  | .error cause => refuse cause left
  | .ok entries => .ok { document with entries }

/-- Declares a table, whose key ends where `left` is left. -/
def declareTable (document : Document) (key : Key) (left : List Char) :
    Except Fault (Document × List Char) :=
  if document.isDeclared key || document.isClosed key then
    refuse (.declaredTwice key) left
  else do
    let document ← document.change left key .ok
    match left with
    | ']' :: behind =>
        .ok ({ document with
          header := key
          declared := key :: document.declared }, behind)
    | _ => refuse .unclosedTableName left

/-- Declares a new member of a list of tables, whose key ends where `left` is
left.  What was declared inside of the last member is no longer declared. -/
def declareMember (document : Document) (key : Key) (left : List Char) :
    Except Fault (Document × List Char) :=
  if document.isClosed key then refuse (.immutable key) left
  else do
    let document ←
      document.change left key.dropLast (addToList (key.getLastD ""))
    match left with
    | ']' :: ']' :: behind =>
        let outside (other : Key) : Bool := !key.isPrefixOf other
        .ok ({ document with
          header := key
          declared := key :: document.declared.filter outside
          closed := document.closed.filter outside }, behind)
    | _ => refuse .unclosedListName left

/-- Reads a header behind its first bracket. -/
def readHeader (document : Document) (text : List Char) :
    Except Fault (Document × List Char) :=
  let document := document.atHeader
  match text with
  | '[' :: rest =>
      match readKey (skipSpaces rest) with
      | .error fault => .error fault
      | .ok (key, behind) => document.declareMember key behind
  | _ =>
      match readKey (skipSpaces text) with
      | .error fault => .error fault
      | .ok (key, behind) => document.declareTable key behind

/-- The tables that a dotted key passes through, from the outside. -/
def passedTables (header key : Key) : List Key :=
  ((List.range key.length).drop 1).map fun length =>
    header ++ key.take length

/-- Gives a value to a key, where `left` is left behind the value. -/
def assign (document : Document) (key : Key) (value : Value)
    (left : List Char) : Except Fault Document :=
  let outer := document.header ++ key.dropLast
  let passed := passedTables document.header key
  match passed.find? document.isDeclared with
  | some table => refuse (.redefined table) left
  | none =>
      if document.isClosed outer then refuse (.immutable outer) left
      else do
        let document ← document.change left outer
          (addValue (fun _ => .overwritten) (key.getLastD "") value)
        return { document with
          pending := passed ++ document.pending
          closed :=
            if ValueState.hasParts value then
              (document.header ++ key) :: document.closed
            else document.closed }

/-- Reads a key and its value. -/
def readEntry (document : Document) (text : List Char) :
    Except Fault (Document × List Char) :=
  match readAssignment text with
  | .error fault => .error fault
  | .ok (key, behindKey) =>
      match readValue behindKey with
      | .error fault => .error fault
      | .ok (value, behind) =>
          match document.assign key value behind with
          | .error fault => .error fault
          | .ok document => .ok (document, behind)

/-- Reads the statement of a line. -/
def readStatement (document : Document) (text : List Char) :
    Except Fault (Document × List Char) :=
  match text with
  | [] => .ok (document, [])
  | c :: rest =>
      if isKeyStart c then readEntry document text
      else if c = '[' then readHeader document rest
      else if c = '#' ∨ c = '\n' then .ok (document, text)
      else refuse .badStatement text

/-- Reads a line up to its end. -/
def readLine (document : Document) (text : List Char) :
    Except Fault (Document × List Char) := do
  let (document, behind) ← document.readStatement (skipSpaces text)
  let behind ← skipAnyComment (skipSpaces behind)
  return (document, behind)

/-! ## What is left -/

/-- What stands behind the name of a table is no longer than the text. -/
theorem length_le_of_declareTable {before after : Document} {key : Key}
    {left behind : List Char}
    (read : before.declareTable key left = .ok (after, behind)) :
    behind.length ≤ left.length := by
  unfold declareTable at read
  split at read
  · simp [refuse] at read
  · obtain ⟨document, _, read⟩ := exists_of_bind read
    split at read
    · simp only [Except.ok.injEq, Prod.mk.injEq] at read
      simp [← read.2]
    · simp [refuse] at read

/-- What stands behind the name of a list of tables is no longer than the
text. -/
theorem length_le_of_declareMember {before after : Document} {key : Key}
    {left behind : List Char}
    (read : before.declareMember key left = .ok (after, behind)) :
    behind.length ≤ left.length := by
  unfold declareMember at read
  split at read
  · simp [refuse] at read
  · obtain ⟨document, _, read⟩ := exists_of_bind read
    split at read
    · simp only [Except.ok.injEq, Prod.mk.injEq] at read
      simp only [← read.2, List.length_cons]
      omega
    · simp [refuse] at read

/-- What stands behind a header is no longer than the text. -/
theorem length_le_of_readHeader {before after : Document}
    {text behind : List Char}
    (read : before.readHeader text = .ok (after, behind)) :
    behind.length ≤ text.length := by
  unfold readHeader at read
  dsimp only at read
  split at read
  · next rest =>
      have spaces := length_dropWhile_le isSpace rest
      split at read
      · simp at read
      · next found =>
          have bound := length_le_of_readKey found
          have last := length_le_of_declareMember read
          unfold skipSpaces at bound
          rw [List.length_cons]
          omega
  · have spaces := length_dropWhile_le isSpace text
    split at read
    · simp at read
    · next found =>
        have bound := length_le_of_readKey found
        have last := length_le_of_declareTable read
        unfold skipSpaces at bound
        omega

/-- What stands behind a key and its value is no longer than the text. -/
theorem length_le_of_readEntry {before after : Document}
    {text behind : List Char}
    (read : before.readEntry text = .ok (after, behind)) :
    behind.length ≤ text.length := by
  unfold readEntry at read
  split at read
  · simp at read
  · next found =>
      have bound := length_lt_of_readAssignment found
      split at read
      · simp at read
      · next valueFound =>
          have last := length_le_of_readValue valueFound
          split at read
          · simp at read
          · simp only [Except.ok.injEq, Prod.mk.injEq] at read
            rw [← read.2]
            omega

/-- What stands behind a statement is no longer than the text. -/
theorem length_le_of_readStatement {before after : Document}
    {text behind : List Char}
    (read : before.readStatement text = .ok (after, behind)) :
    behind.length ≤ text.length := by
  unfold readStatement at read
  split at read
  · simp only [Except.ok.injEq, Prod.mk.injEq] at read
    simp [← read.2]
  · split at read
    · exact length_le_of_readEntry read
    · split at read
      · exact Nat.le_succ_of_le (length_le_of_readHeader read)
      · split at read
        · simp only [Except.ok.injEq, Prod.mk.injEq] at read
          simp [← read.2]
        · simp [refuse] at read

/-- What stands behind a line is no longer than the text. -/
theorem length_le_of_readLine {before after : Document}
    {text behind : List Char}
    (read : before.readLine text = .ok (after, behind)) :
    behind.length ≤ text.length := by
  have spaces := length_dropWhile_le isSpace text
  unfold readLine at read
  obtain ⟨⟨document, rest⟩, statement, read⟩ := exists_of_bind read
  obtain ⟨afterComment, comment, read⟩ := exists_of_bind read
  simp only [pure, Except.pure, Except.ok.injEq, Prod.mk.injEq] at read
  have bound := length_le_of_readStatement statement
  have middle := length_dropWhile_le isSpace rest
  have last := length_le_of_skipAnyComment comment
  unfold skipSpaces at bound last
  rw [← read.2]
  omega

/-- Reads all lines. -/
def readLines (document : Document) (text : List Char) :
    Except Fault Document :=
  match _line : document.readLine text with
  | .error fault => .error fault
  | .ok (document, []) => .ok document
  | .ok (document, '\n' :: rest) => document.readLines rest
  | .ok (_, behind) => refuse .unfinishedLine behind
termination_by text.length
decreasing_by exact length_le_of_readLine _line

end Document

/-- A text whose lines end in line feeds alone. -/
def plainLineEnds : List Char → List Char
  | '\r' :: '\n' :: rest => '\n' :: plainLineEnds rest
  | c :: rest => c :: plainLineEnds rest
  | [] => []

/-- The entries of the table that a document with plain line ends stands
for. -/
def parse (document : List Char) : Except Fault Entries :=
  Document.entries <$> ({} : Document).readLines document

end Toml
end PathRouter
