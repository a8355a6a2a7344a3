import PathRouter.Proofs.Toml.Texts
import PathRouter.Proofs.Value.Tables
import PathRouter.Toml.Document

/-!
# Reading settings documents

A settings document consists of statements, each on a line of its own: headers
of tables, and keys with texts as values.  Any blanks may stand between the
parts of a statement, and any blank lines between statements.  The lines of a
document are read as its statements, whatever the blanks are.

## Main definitions

* `Statement` and `AreWritten`: statements, and a text that consists of them.
* `Document.Takes`: what a statement does to what has been read.
* `write`: statements as they are written.

## Main statements

* `Document.readLines_of_areWritten`: a document is read statement by statement.
* `plainLineEnds_of_areWritten`: the line ends of a document are plain.
* `areWritten_write`: statements are written as a document.
-/

namespace PathRouter
namespace Toml

/-- A statement of a document without nested values. -/
inductive Statement where
  /-- The header of a table. -/
  | header (name : String)
  /-- A key with a text as its value. -/
  | entry (name content : String)

/-- Blanks inside of a line. -/
abbrev AreSpaces (blanks : List Char) : Prop :=
  ∀ c ∈ blanks, isSpace c = true

/-- Blanks and line ends. -/
abbrev AreBlank (blanks : List Char) : Prop :=
  ∀ c ∈ blanks, isSpaceOrLineEnd c = true

/-- A text that a statement is written as, with the blanks behind it. -/
inductive Statement.IsWritten : Statement → List Char → Prop
  | header
      {name : String}
      {before key after trailing : List Char}
      (beforeAreSpaces : AreSpaces before)
      (written : IsKeyText name key)
      (afterAreSpaces : AreSpaces after)
      (trailingAreSpaces : AreSpaces trailing) :
      IsWritten (.header name)
        ('[' :: (before ++ (key ++ (after ++ ']' :: trailing))))
  | entry
      {name content : String}
      {key before after spelling trailing : List Char}
      (written : IsKeyText name key)
      (beforeAreSpaces : AreSpaces before)
      (afterAreSpaces : AreSpaces after)
      (spelled : SpellsText content.toList spelling)
      (trailingAreSpaces : AreSpaces trailing) :
      IsWritten (.entry name content)
        (key ++ (before ++ '=' :: (after ++
          '"' :: (spelling ++ '"' :: trailing))))

/-- A text that statements are written as, each on a line of its own, with any
blanks in front of them. -/
inductive AreWritten : List Statement → List Char → Prop
  | nil
      {blanks : List Char}
      (areBlank : AreBlank blanks) :
      AreWritten [] blanks
  | last
      {blanks text : List Char}
      {statement : Statement}
      (areBlank : AreBlank blanks)
      (written : statement.IsWritten text) :
      AreWritten [statement] (blanks ++ text)
  | cons
      {blanks text behind : List Char}
      {statement : Statement}
      {statements : List Statement}
      (areBlank : AreBlank blanks)
      (written : statement.IsWritten text)
      (rest : AreWritten statements behind) :
      AreWritten (statement :: statements) (blanks ++ (text ++ '\n' :: behind))

/-! ## Lines -/

/-- A line ends here. -/
def EndsLine (rest : List Char) : Prop := ∀ c ∈ rest.head?, c = '\n'

theorem endsLine_nil : EndsLine [] := fun _ member => (nomatch member)

theorem endsLine_cons (rest : List Char) : EndsLine ('\n' :: rest) :=
  fun _ member => (Option.mem_some.mp member).symm

theorem EndsLine.head?_append_ne
    {rest blanks : List Char}
    (ends : EndsLine rest)
    (areSpaces : AreSpaces blanks) :
    (blanks ++ rest).head? ≠ some '"' := by
  intro head
  cases blanks with
  | nil => cases ends _ head
  | cons blank blanks =>
      cases head
      exact Bool.false_ne_true (areSpaces '"' List.mem_cons_self)

/-- Blanks are skipped up to the end of the line. -/
theorem EndsLine.skip_eq
    {rest blanks : List Char}
    (ends : EndsLine rest)
    (areSpaces : AreSpaces blanks) :
    skipAnyComment (skipSpaces (blanks ++ rest)) = .ok rest := by
  rw [skipSpaces, List.dropWhile_append_of_pos areSpaces]
  cases rest with
  | nil => rfl
  | cons c rest =>
      cases ends c rfl
      rfl

theorem not_isSpace_of_isKeyStart
    {c : Char}
    (starts : isKeyStart c = true) :
    isSpace c = false := by
  rw [Bool.eq_false_iff]
  intro space
  simp only [isSpace, Bool.or_eq_true, beq_iff_eq] at space
  rcases space with rfl | rfl <;> exact absurd starts (by decide)

/-- A written key begins with a character that only keys begin with. -/
theorem IsKeyText.exists_head
    {name : String}
    {text : List Char}
    (written : IsKeyText name text) :
    ∃ c rest, text = c :: rest ∧ isKeyStart c = true := by
  cases written with
  | bare nonempty areBare =>
      cases chars : name.toList with
      | nil => exact absurd chars nonempty
      | cons c rest =>
          rw [chars] at areBare
          have bare := areBare c List.mem_cons_self
          exact ⟨c, rest, rfl, by simp [isKeyStart, bare]⟩
  | quoted spelled => exact ⟨'"', _, rfl, rfl⟩

/-- Behind the bracket of a header, there is no second bracket. -/
theorem append_ne_bracket
    {blanks rest other : List Char}
    {c : Char}
    (areSpaces : AreSpaces blanks)
    (starts : isKeyStart c = true) :
    blanks ++ c :: rest ≠ '[' :: other := by
  cases blanks with
  | nil =>
      intro equal
      rw [(List.cons.inj equal).1] at starts
      exact absurd starts (by decide)
  | cons blank blanks =>
      intro equal
      have space := areSpaces blank List.mem_cons_self
      rw [(List.cons.inj equal).1] at space
      exact absurd space (by decide)

namespace Document

/-- What a statement does to what has been read, wherever it stands. -/
def Takes (before : Document) (statement : Statement) (after : Document) :
    Prop :=
  match statement with
  | .header name => ∀ left,
      before.atHeader.declareTable [name] (']' :: left) = .ok (after, left)
  | .entry name content => ∀ left,
      before.assign [name] (.text content) left = .ok after

/-- What statements do one after the other. -/
inductive TakesAll : Document → List Statement → Document → Prop
  | nil (document : Document) : TakesAll document [] document
  | cons
      {before middle after : Document}
      {statement : Statement}
      {statements : List Statement}
      (takes : before.Takes statement middle)
      (rest : TakesAll middle statements after) :
      TakesAll before (statement :: statements) after

variable {before middle after : Document} {text rest : List Char}

theorem TakesAll.append
    {first second : List Statement}
    (takesFirst : TakesAll before first middle)
    (takesSecond : TakesAll middle second after) :
    TakesAll before (first ++ second) after := by
  induction takesFirst with
  | nil => exact takesSecond
  | cons takes _ inductionHypothesis =>
      exact .cons takes (inductionHypothesis takesSecond)

theorem readStatement_header
    {name : String}
    {key blanks behind : List Char}
    (blanksAreSpaces : AreSpaces blanks)
    (written : IsKeyText name key)
    (behindAreSpaces : AreSpaces behind)
    (takes : before.Takes (.header name) after)
    (rest : List Char) :
    before.readStatement
        ('[' :: (blanks ++ (key ++ (behind ++ ']' :: rest)))) =
      .ok (after, rest) := by
  have read := readKey_of_isKeyText written behindAreSpaces
    (by decide : isBare ']' = false) (by decide) (by decide) rest
  obtain ⟨c, more, rfl, starts⟩ := written.exists_head
  have skipped := skipSpaces_append blanksAreSpaces
    (not_isSpace_of_isKeyStart starts) (more ++ (behind ++ ']' :: rest))
  change before.readHeader _ = _
  rw [List.cons_append, readHeader.eq_2 _ _ fun _ =>
    append_ne_bracket blanksAreSpaces starts, skipped, ← List.cons_append,
    read]
  exact takes rest

theorem readStatement_entry
    {name content : String}
    {key blanks behind spelling : List Char}
    (written : IsKeyText name key)
    (blanksAreSpaces : AreSpaces blanks)
    (behindAreSpaces : AreSpaces behind)
    (spelled : SpellsText content.toList spelling)
    (takes : before.Takes (.entry name content) after)
    (noMark : rest.head? ≠ some '"') :
    before.readStatement
        (key ++ (blanks ++ '=' :: (behind ++
          '"' :: (spelling ++ '"' :: rest)))) =
      .ok (after, rest) := by
  have assigns := readAssignment_of_isKeyText written blanksAreSpaces
    behindAreSpaces (by decide : isSpace '"' = false) (spelling ++ '"' :: rest)
  have value := readValue_of_spellsText spelled noMark
  obtain ⟨c, more, rfl, starts⟩ := written.exists_head
  rw [List.cons_append, readStatement, if_pos starts, ← List.cons_append,
    readEntry, assigns]
  dsimp only
  rw [value]
  dsimp only
  rw [String.ofList_toList, takes]

/-- A statement is read where its line begins, and the blanks behind it are
skipped. -/
theorem readLine_of_readStatement
    {c : Char}
    {trailing : List Char}
    (noSpace : isSpace c = false)
    (read : before.readStatement (c :: text) = .ok (after, trailing ++ rest))
    (trailingAreSpaces : AreSpaces trailing)
    (ends : EndsLine rest) :
    before.readLine (c :: text) = .ok (after, rest) := by
  have skipped : skipSpaces (c :: text) = c :: text :=
    List.dropWhile_cons_of_neg (by simp [noSpace])
  rw [readLine, skipped, read, ok_bind]
  dsimp only
  rw [ends.skip_eq trailingAreSpaces]
  rfl

/-- A line is read as its statement. -/
theorem readLine_of_isWritten
    {statement : Statement}
    (written : statement.IsWritten text)
    (takes : before.Takes statement after)
    (ends : EndsLine rest) :
    before.readLine (text ++ rest) = .ok (after, rest) := by
  cases written with
  | header beforeAreSpaces written afterAreSpaces trailingAreSpaces =>
      have read := readStatement_header beforeAreSpaces written afterAreSpaces
        takes
      simp only [List.append_assoc, List.cons_append]
      exact readLine_of_readStatement (by decide) (read _) trailingAreSpaces
        ends
  | entry written beforeAreSpaces afterAreSpaces spelled trailingAreSpaces =>
      have read := readStatement_entry written beforeAreSpaces afterAreSpaces
        spelled takes (ends.head?_append_ne trailingAreSpaces)
      obtain ⟨c, more, rfl, starts⟩ := written.exists_head
      have noSpace := not_isSpace_of_isKeyStart starts
      simp only [List.append_assoc, List.cons_append] at read ⊢
      exact readLine_of_readStatement noSpace read trailingAreSpaces ends

/-! ## Documents -/

/-- The lines of a text are its first line and the ones behind it. -/
theorem readLines_eq (document : Document) (text : List Char) :
    document.readLines text = (do
      let (document, behind) ← document.readLine text
      match behind with
      | [] => .ok document
      | '\n' :: rest => document.readLines rest
      | behind => refuse .unfinishedLine behind) := by
  rw [readLines]
  cases document.readLine text with
  | error fault => rfl
  | ok read =>
      obtain ⟨document, behind⟩ := read
      rw [ok_bind]
      dsimp only
      split
      · next failed => cases failed
      · next found => cases found; rfl
      · next found => cases found; rfl
      · next notEnded notNext found =>
          cases found
          split
          · exact absurd rfl notEnded
          · exact absurd rfl (notNext _)
          · rfl

/-- Blanks in front of lines do not matter. -/
theorem readLines_append
    {blanks : List Char}
    (document : Document)
    (areBlank : AreBlank blanks)
    (text : List Char) :
    document.readLines (blanks ++ text) = document.readLines text := by
  induction blanks with
  | nil => rfl
  | cons blank blanks inductionHypothesis =>
      obtain ⟨isBlank, areBlank⟩ := List.forall_mem_cons.mp areBlank
      rw [← inductionHypothesis areBlank, List.cons_append, readLines_eq]
      simp only [isSpaceOrLineEnd, isSpace, Bool.or_eq_true, beq_iff_eq]
        at isBlank
      rcases isBlank with (rfl | rfl) | rfl
      · exact (readLines_eq document (blanks ++ text)).symm
      · exact (readLines_eq document (blanks ++ text)).symm
      · rfl

/-- A document is read statement by statement. -/
theorem readLines_of_areWritten
    {statements : List Statement}
    {before after : Document}
    (written : AreWritten statements text)
    (takes : TakesAll before statements after) :
    before.readLines text = .ok after := by
  induction written generalizing before with
  | @nil blanks areBlank =>
      cases takes
      have skipped := readLines_append after areBlank []
      rw [List.append_nil] at skipped
      rw [skipped, readLines_eq]
      rfl
  | @last blanks text statement areBlank written =>
      cases takes with
      | cons takes rest =>
          cases rest
          have read := readLine_of_isWritten written takes endsLine_nil
          rw [List.append_nil] at read
          rw [readLines_append before areBlank, readLines_eq, read]
          rfl
  | @cons blanks text behind statement statements areBlank written _
      inductionHypothesis =>
      cases takes with
      | cons takes rest =>
          have read := readLine_of_isWritten written takes
            (endsLine_cons behind)
          rw [readLines_append before areBlank, readLines_eq, read]
          exact inductionHypothesis rest

end Document

/-! ## Line ends -/

variable
  {statement : Statement}
  {statements : List Statement}
  {text : List Char}

theorem plainLineEnds_eq (noReturn : '\r' ∉ text) :
    plainLineEnds text = text := by
  induction text with
  | nil => rfl
  | cons c rest inductionHypothesis =>
      rw [List.mem_cons, not_or] at noReturn
      rw [plainLineEnds.eq_2 c rest fun _ equal => (noReturn.1 equal.symm).elim,
        inductionHypothesis noReturn.2]

theorem Spells.ne_return
    {c : Char}
    (spelled : Spells c text) :
    ∀ d ∈ text, d ≠ '\r' := by
  cases spelled with
  | raw legal noMark noBackslash =>
      rintro d member rfl
      rw [← List.mem_singleton.mp member] at legal
      exact absurd legal (by decide)
  | escaped means =>
      rintro d member rfl
      rcases List.mem_cons.mp member with equal | member
      · cases equal
      · rw [← List.mem_singleton.mp member] at means
        cases means
  | short width value | long width value =>
      rintro d member rfl
      rcases List.mem_cons.mp member with equal | member
      · cases equal
      · rcases List.mem_cons.mp member with equal | member
        · cases equal
        · cases Text.isSome_hexDigitValue?_of_hexValue? value member

theorem return_not_mem_of_spellsText
    {content : List Char}
    (spelled : SpellsText content text) :
    '\r' ∉ '"' :: (text ++ ['"']) := by
  rw [List.mem_cons, List.mem_append, List.mem_singleton]
  rintro (equal | inside | equal)
  · cases equal
  · exact spelled.forall_mem Spells.ne_return _ inside rfl
  · cases equal

theorem IsKeyText.return_not_mem
    {name : String}
    (written : IsKeyText name text) :
    '\r' ∉ text := by
  cases written with
  | bare _ areBare => exact fun member => absurd (areBare _ member) (by decide)
  | quoted spelled => exact return_not_mem_of_spellsText spelled

theorem AreBlank.return_not_mem
    {blanks : List Char}
    (areBlank : AreBlank blanks) :
    '\r' ∉ blanks :=
  fun member => absurd (areBlank _ member) (by decide)

theorem AreSpaces.return_not_mem
    {blanks : List Char}
    (areSpaces : AreSpaces blanks) :
    '\r' ∉ blanks :=
  fun member => absurd (areSpaces _ member) (by decide)

theorem Statement.IsWritten.return_not_mem
    (written : statement.IsWritten text) :
    '\r' ∉ text := by
  cases written with
  | header before key after trailing =>
      simp [before.return_not_mem, key.return_not_mem, after.return_not_mem,
        trailing.return_not_mem]
  | entry key before after spelled trailing =>
      have value := return_not_mem_of_spellsText spelled
      simpa [before.return_not_mem, key.return_not_mem, after.return_not_mem,
        trailing.return_not_mem] using value

/-- The line ends of a document are plain. -/
theorem plainLineEnds_of_areWritten
    (written : AreWritten statements text) :
    plainLineEnds text = text := by
  apply plainLineEnds_eq
  induction written with
  | nil areBlank => exact areBlank.return_not_mem
  | last areBlank written =>
      simp [areBlank.return_not_mem, written.return_not_mem]
  | cons areBlank written _ inductionHypothesis =>
      simp [areBlank.return_not_mem, written.return_not_mem,
        inductionHypothesis]

/-! ## Writing -/

/-- A statement as it is written on a line. -/
def Statement.write : Statement → List Char
  | header name => '[' :: (writtenName name ++ [']'])
  | entry name content =>
      writtenText name.toList ++
        (' ' :: '=' :: ' ' :: writtenText content.toList)

/-- Statements as they are written, each on a line. -/
def write (statements : List Statement) : List Char :=
  statements.flatMap fun statement => statement.write ++ ['\n']

theorem Statement.isWritten_write (statement : Statement) :
    statement.IsWritten statement.write := by
  have none : AreSpaces [] := fun _ member => (nomatch member)
  have one : AreSpaces [' '] := fun c member =>
    List.mem_singleton.mp member ▸ rfl
  cases statement with
  | header name => exact .header none (isKeyText_writtenName name) none none
  | entry name content =>
      exact .entry (isKeyText_writtenText name) one one
        (.flatMap spells_writtenChar content.toList) none

/-- Statements are written as a document. -/
theorem areWritten_write (statements : List Statement) :
    AreWritten statements (write statements) := by
  have none : AreBlank [] := fun _ member => (nomatch member)
  induction statements with
  | nil => exact .nil none
  | cons statement rest inductionHypothesis =>
      have lines : write (statement :: rest) =
          statement.write ++ '\n' :: write rest := by
        rw [write, List.flatMap_cons, List.append_assoc]
        rfl
      rw [lines]
      exact .cons none statement.isWritten_write inductionHypothesis

end Toml
end PathRouter
