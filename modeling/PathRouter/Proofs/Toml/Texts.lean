import PathRouter.Proofs.Text.Hexadecimal
import PathRouter.Proofs.Text.Spelled
import PathRouter.Toml.ValueReader

/-!
# Reading the texts of settings documents

A character of a text between quotation marks stands for itself, or it is
escaped by a letter or by the numeral of its code.  However the characters are
spelled, the text is read as its characters, whether it is a key or a value.  A
key may also be bare.

## Main definitions

* `Spells` and `SpellsText`: the spellings of a character and of a text.
* `IsKeyText`: the texts that a key with one part is written as.

## Main statements

* `readEscaped_of_spellsText`: a spelled text is read as the text.
* `readKey_of_isKeyText`: a written key is read as the key.
* `readValue_of_spellsText`: a text between marks is read as a value.
-/

namespace PathRouter
namespace Toml

/-- A spelling of a character of a text between quotation marks. -/
inductive Spells (c : Char) : List Char → Prop
  | raw
      (legal : isIllegal c = false)
      (noMark : c ≠ '"')
      (noBackslash : c ≠ '\\') :
      Spells c [c]
  | escaped
      {letter : Char}
      (means : escapedChar? letter = some c) :
      Spells c ['\\', letter]
  | short
      {digits : List Char}
      (width : digits.length = 4)
      (value : Text.hexValue? digits = some c.toNat) :
      Spells c ('\\' :: 'u' :: digits)
  | long
      {digits : List Char}
      (width : digits.length = 8)
      (value : Text.hexValue? digits = some c.toNat) :
      Spells c ('\\' :: 'U' :: digits)

/-- A spelling of a text between quotation marks. -/
abbrev SpellsText (content text : List Char) : Prop :=
  Text.Spelled Spells content text

/-- A text that a key with one part is written as. -/
inductive IsKeyText (name : String) : List Char → Prop
  | bare
      (nonempty : name.toList ≠ [])
      (areBare : ∀ c ∈ name.toList, isBare c = true) :
      IsKeyText name name.toList
  | quoted
      {spelling : List Char}
      (spelled : SpellsText name.toList spelling) :
      IsKeyText name ('"' :: (spelling ++ ['"']))

variable {c : Char} {content text rest : List Char}

/-! ## Characters -/

theorem readCode_append
    {width : Nat}
    {digits : List Char}
    (complete : digits.length = width)
    (value : Text.hexValue? digits = some c.toNat)
    (rest : List Char) :
    readCode width (digits ++ rest) = .ok ([c], rest) := by
  have valid : c.toNat.isValidChar := c.valid
  have enough : ¬(digits ++ rest).length < width := by
    rw [List.length_append]
    omega
  rw [readCode, ← complete, List.take_left, List.drop_left, complete, value]
  dsimp only
  rw [if_neg enough, if_pos valid, Char.ofNat_toNat]

theorem readEscape_letter
    {letter : Char}
    (means : escapedChar? letter = some c)
    (rest : List Char) :
    readEscape false (letter :: rest) = .ok ([c], rest) := by
  have noShort : letter ≠ 'u' := by
    rintro rfl
    cases means
  have noLong : letter ≠ 'U' := by
    rintro rfl
    cases means
  rw [readEscape, Bool.false_and, if_neg Bool.false_ne_true,
    if_neg noShort, if_neg noLong, means]

theorem readEscaped_escape
    {chars behind : List Char}
    (escape : readEscape false text = .ok (chars, behind)) :
    readEscaped false ('\\' :: text) = do
      let (content, rest) ← readEscaped false behind
      return (chars ++ content, rest) := by
  rw [readEscaped]
  split
  · next found =>
      cases escape.symm.trans found
      rfl
  · next failed => cases escape.symm.trans failed

/-- A spelled character is read as the character, whatever follows. -/
theorem Spells.readEscaped_append
    (spelled : Spells c text)
    (rest : List Char) :
    readEscaped false (text ++ rest) = do
      let (content, behind) ← readEscaped false rest
      return (c :: content, behind) := by
  cases spelled with
  | raw legal noMark noBackslash =>
      change readEscaped false (c :: rest) = _
      rw [readEscaped.eq_4 _ _ _ noMark noBackslash,
        if_neg Bool.false_ne_true, legal, if_neg Bool.false_ne_true]
  | escaped means => exact readEscaped_escape (readEscape_letter means rest)
  | @short digits width value =>
      have escape : readEscape false ('u' :: (digits ++ rest)) =
          .ok ([c], rest) :=
        readCode_append width value rest
      exact readEscaped_escape escape
  | @long digits width value =>
      have escape : readEscape false ('U' :: (digits ++ rest)) =
          .ok ([c], rest) :=
        readCode_append width value rest
      exact readEscaped_escape escape

/-! ## Texts -/

/-- A spelled text is read, up to its closing mark, as the text. -/
theorem readEscaped_of_spellsText
    (spelled : SpellsText content text)
    (behind : List Char) :
    readEscaped false (text ++ '"' :: behind) = .ok (content, behind) := by
  induction spelled with
  | nil => rw [List.nil_append, readEscaped]; rfl
  | cons char _ inductionHypothesis =>
      rw [List.append_assoc, char.readEscaped_append, inductionHypothesis]
      rfl

/-- A spelling begins with no mark. -/
theorem Spells.head_ne
    (spelled : Spells c text) :
    ∃ d more, text = d :: more ∧ d ≠ '"' := by
  cases spelled with
  | raw legal noMark noBackslash => exact ⟨c, [], rfl, noMark⟩
  | escaped means => exact ⟨_, _, rfl, by decide⟩
  | short width value => exact ⟨_, _, rfl, by decide⟩
  | long width value => exact ⟨_, _, rfl, by decide⟩

/-- Two marks do not follow the opening mark of a text, unless a third mark
follows its end. -/
theorem not_isPrefixOf_of_spellsText
    (spelled : SpellsText content text)
    {behind : List Char}
    (noMark : behind.head? ≠ some '"') :
    ['"', '"'].isPrefixOf (text ++ '"' :: behind) = false := by
  cases spelled with
  | nil =>
      cases behind with
      | nil => rfl
      | cons d more =>
          have differs : ('"' == d) = false :=
            beq_eq_false_iff_ne.mpr fun equal => noMark (by rw [← equal]; rfl)
          simp [List.isPrefixOf, differs]
  | cons char _ =>
      obtain ⟨d, more, rfl, noMark⟩ := char.head_ne
      have differs : ('"' == d) = false :=
        beq_eq_false_iff_ne.mpr noMark.symm
      simp [List.isPrefixOf, differs]

/-- A text between marks is read as a value, unless a third mark follows. -/
theorem readValue_of_spellsText
    (spelled : SpellsText content text)
    {behind : List Char}
    (noMark : behind.head? ≠ some '"') :
    readValue ('"' :: (text ++ '"' :: behind)) =
      .ok (.text (String.ofList content), behind) := by
  have single := not_isPrefixOf_of_spellsText spelled noMark
  have quoted : readQuoted false (text ++ '"' :: behind) =
      .ok (content, behind) := by
    rw [readQuoted]
    change (if ['"', '"'].isPrefixOf (text ++ '"' :: behind) = true
      then _ else _) = _
    rw [single, if_neg Bool.false_ne_true]
    exact readEscaped_of_spellsText spelled behind
  have scalar : readScalar ('"' :: (text ++ '"' :: behind)) =
      .ok (.text (String.ofList content), behind) := by
    rw [readScalar, readTextValue, quoted]
  have stepped : (ValueState.due []).step ('"' :: (text ++ '"' :: behind)) =
      .ok (.complete (.text (String.ofList content)) [], behind) := by
    rw [ValueState.step, ValueState.begin.eq_3 _ _ (by rintro _ ⟨⟩)
      (by rintro _ ⟨⟩), scalar]
  rw [readValue, ValueState.run]
  split
  · next failed => cases stepped.symm.trans failed
  · next found =>
      cases stepped.symm.trans found
      rw [ValueState.run]
  · rintro _ ⟨⟩

/-! ## Keys -/

theorem takeWhile_bare
    {mark : Char}
    (areBare : ∀ c ∈ content, isBare c = true)
    (noBare : isBare mark = false)
    (rest : List Char) :
    (content ++ mark :: rest).takeWhile isBare = content ∧
      (content ++ mark :: rest).dropWhile isBare = mark :: rest := by
  constructor
  · rw [List.takeWhile_append_of_pos areBare,
      List.takeWhile_cons_of_neg (by simp [noBare]), List.append_nil]
  · rw [List.dropWhile_append_of_pos areBare,
      List.dropWhile_cons_of_neg (by simp [noBare])]

/-- A written key is read as its only part. -/
theorem readPart_of_isKeyText
    {name : String}
    (written : IsKeyText name text)
    {mark : Char}
    (noBare : isBare mark = false)
    (rest : List Char) :
    readPart (text ++ mark :: rest) = .ok (name.toList, mark :: rest) := by
  cases written with
  | bare nonempty areBare =>
      obtain ⟨taken, dropped⟩ := takeWhile_bare areBare noBare rest
      cases chars : name.toList with
      | nil => exact absurd chars nonempty
      | cons c more =>
          rw [chars] at taken dropped areBare
          rw [List.cons_append] at taken dropped ⊢
          rw [readPart, if_pos (areBare c List.mem_cons_self), taken, dropped]
  | @quoted spelling spelled =>
      have read := readEscaped_of_spellsText spelled (mark :: rest)
      change readPart ('"' :: (spelling ++ ['"'] ++ mark :: rest)) = _
      rw [List.append_assoc, List.singleton_append, readPart,
        if_neg (by decide), if_neg (by decide), if_pos rfl]
      exact read

theorem skipSpaces_append
    {blanks : List Char}
    (areSpaces : ∀ c ∈ blanks, isSpace c = true)
    {mark : Char}
    (noSpace : isSpace mark = false)
    (rest : List Char) :
    skipSpaces (blanks ++ mark :: rest) = mark :: rest := by
  rw [skipSpaces, List.dropWhile_append_of_pos areSpaces,
    List.dropWhile_cons_of_neg (by simp [noSpace])]

/-- A written key is read as the key, and the blanks behind it are skipped. -/
theorem readKey_of_isKeyText
    {name : String}
    (written : IsKeyText name text)
    {blanks : List Char}
    (areSpaces : ∀ c ∈ blanks, isSpace c = true)
    {mark : Char}
    (noBare : isBare mark = false)
    (noSpace : isSpace mark = false)
    (noPoint : mark ≠ '.')
    (rest : List Char) :
    readKey (text ++ (blanks ++ mark :: rest)) =
      .ok ([name], mark :: rest) := by
  have skipped := skipSpaces_append areSpaces noSpace rest
  have part : readPart (text ++ (blanks ++ mark :: rest)) =
      .ok (name.toList, blanks ++ mark :: rest) := by
    cases blanks with
    | nil => exact readPart_of_isKeyText written noBare rest
    | cons blank blanks =>
        have space := areSpaces blank List.mem_cons_self
        have noBareBlank : isBare blank = false := by
          simp only [isSpace, Bool.or_eq_true, beq_iff_eq] at space
          rcases space with rfl | rfl <;> decide
        exact readPart_of_isKeyText written noBareBlank _
  rw [readKey]
  split
  · next failed => cases part.symm.trans failed
  · next found =>
      cases part.symm.trans found
      split
      · next point =>
          cases skipped.symm.trans point
          exact absurd rfl noPoint
      · rw [skipped, String.ofList_toList]

/-- A written key and the sign behind it are read, and the blanks on both sides
of the sign are skipped. -/
theorem readAssignment_of_isKeyText
    {name : String}
    (written : IsKeyText name text)
    {before after : List Char}
    (beforeAreSpaces : ∀ c ∈ before, isSpace c = true)
    (afterAreSpaces : ∀ c ∈ after, isSpace c = true)
    {mark : Char}
    (noSpace : isSpace mark = false)
    (rest : List Char) :
    readAssignment
        (text ++ (before ++ '=' :: (after ++ mark :: rest))) =
      .ok ([name], mark :: rest) := by
  have key := readKey_of_isKeyText written beforeAreSpaces
    (by decide : isBare '=' = false) (by decide) (by decide)
    (after ++ mark :: rest)
  rw [readAssignment, key]
  change Except.ok ([name], skipSpaces (after ++ mark :: rest)) = _
  rw [skipSpaces_append afterAreSpaces noSpace]

/-! ## Writing -/

/-- A character as it is written inside of a text: marks, backslashes and
control characters are escaped. -/
def writtenChar (c : Char) : List Char :=
  if c = '"' ∨ c = '\\' then ['\\', c]
  else if c.toNat < 0x20 ∨ c.toNat = 0x7f then
    '\\' :: 'u' :: Text.fixedHex 4 c.toNat
  else [c]

/-- A text as it is written between marks. -/
def writtenText (content : List Char) : List Char :=
  '"' :: (content.flatMap writtenChar ++ ['"'])

/-- A key as it is written in a header: bare if it can be. -/
def writtenName (name : String) : List Char :=
  if name.toList ≠ [] ∧ name.toList.all isBare then name.toList
  else writtenText name.toList

/-- A character is written in one of its spellings. -/
theorem spells_writtenChar (c : Char) : Spells c (writtenChar c) := by
  unfold writtenChar
  split
  · next escaped =>
      rcases escaped with rfl | rfl
      · exact .escaped rfl
      · exact .escaped rfl
  · next plain =>
      rw [not_or] at plain
      split
      · next control =>
          have fits : c.toNat < 16 ^ 4 := by omega
          exact .short (Text.length_fixedHex ..) (Text.hexValue?_fixedHex fits)
      · next printable =>
          have legal : isIllegal c = false := by
            rw [not_or] at printable
            simp [isIllegal, printable.1, printable.2]
          exact .raw legal plain.1 plain.2

theorem isKeyText_writtenText (name : String) :
    IsKeyText name (writtenText name.toList) :=
  .quoted (.flatMap spells_writtenChar name.toList)

theorem isKeyText_writtenName (name : String) :
    IsKeyText name (writtenName name) := by
  unfold writtenName
  split
  · next bare => exact .bare bare.1 (List.all_eq_true.mp bare.2)
  · exact isKeyText_writtenText name

end Toml
end PathRouter
