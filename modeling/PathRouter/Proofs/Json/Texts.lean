import Mathlib
import PathRouter.Json.Token
import PathRouter.Json.Writer
import PathRouter.Proofs.Text.Hexadecimal
import PathRouter.Proofs.Text.Spelled

/-!
# Reading the texts of documents

A character of a text stands for itself, or it is escaped by a letter or by the
numerals of its units.  However the characters are spelled, a text is read as
its characters; the texts that are written out are spelled in one of these ways.

## Main definitions

* `Spells` and `SpellsText`: the spellings of a character and of a text.

## Main statements

* `exists_codes_of_spellsText`: a spelled text is read as the text.
* `spellsText_writtenText`: a text is written in one of its spellings.
-/

namespace PathRouter
namespace Json

/-- The escape of a unit by its numeral. -/
def SpellsUnit (unit : Nat) (text : List Char) : Prop :=
  ∃ a b c d, text = ['\\', 'u', a, b, c, d] ∧
    Text.hexValue? [a, b, c, d] = some unit

/-- A spelling of a character inside of a text. -/
inductive Spells (c : Char) : List Char → Prop
  | raw
      (noControl : 0x20 ≤ c.toNat)
      (noMark : c ≠ '"')
      (noBackslash : c ≠ '\\') :
      Spells c [c]
  | escaped
      {letter : Char}
      (means : escapedCode? letter = some c.toNat) :
      Spells c ['\\', letter]
  | units
      {parts : List (List Char)}
      (spelled : List.Forall₂ SpellsUnit (Text.unitsOf c) parts) :
      Spells c parts.flatten

/-- A spelling of a text. -/
abbrev SpellsText (content text : List Char) : Prop :=
  Text.Spelled Spells content text

/-! ## Reading -/

variable {unterminated : Fault} {c : Char} {content text rest : List Char}

/-- Reading goes on behind some codes. -/
theorem readCodes_unit
    {unit : Nat}
    (spelled : SpellsUnit unit text)
    (more : rest ≠ []) :
    readCodes unterminated (text ++ rest) = do
      let (codes, behind) ← readCodes unterminated rest
      return (unit :: codes, behind) := by
  obtain ⟨a, b, c, d, rfl, value⟩ := spelled
  change readCodes unterminated ('\\' :: 'u' :: a :: b :: c :: d :: rest) = _
  rw [readCodes.eq_4, value]
  dsimp only
  rw [if_neg (by simpa using more)]

theorem readCodes_units
    {units : List Nat}
    {parts : List (List Char)}
    (spelled : List.Forall₂ SpellsUnit units parts)
    (more : rest ≠ []) :
    readCodes unterminated (parts.flatten ++ rest) = do
      let (codes, behind) ← readCodes unterminated rest
      return (units ++ codes, behind) := by
  induction spelled with
  | nil =>
      change readCodes unterminated rest = _
      cases readCodes unterminated rest <;> rfl
  | @cons unit part units parts isUnit _ inductionHypothesis =>
      have behind : parts.flatten ++ rest ≠ [] :=
        List.append_ne_nil_of_right_ne_nil _ more
      rw [List.flatten_cons, List.append_assoc,
        readCodes_unit isUnit behind, inductionHypothesis]
      cases readCodes unterminated rest <;> rfl

theorem readCodes_raw
    (noControl : 0x20 ≤ c.toNat)
    (noMark : c ≠ '"')
    (noBackslash : c ≠ '\\') :
    readCodes unterminated (c :: rest) = do
      let (codes, behind) ← readCodes unterminated rest
      return (c.toNat :: codes, behind) := by
  rw [readCodes.eq_7 _ _ _ noMark noBackslash,
    if_neg (Nat.not_lt.mpr noControl)]

theorem readCodes_escaped
    {letter : Char}
    {code : Nat}
    (means : escapedCode? letter = some code) :
    readCodes unterminated ('\\' :: letter :: rest) = do
      let (codes, behind) ← readCodes unterminated rest
      return (code :: codes, behind) := by
  have noUnit : letter ≠ 'u' := by
    rintro rfl
    cases means
  rw [readCodes.eq_6 _ _ _ noUnit, means]

/-- A spelled character is read as codes that stand for it, whatever follows. -/
theorem Spells.exists_codes
    (spelled : Spells c text)
    (more : rest ≠ []) :
    ∃ codes,
      (readCodes unterminated (text ++ rest) = do
        let (others, behind) ← readCodes unterminated rest
        return (codes ++ others, behind)) ∧
      ∀ others, Text.ofUnits (codes ++ others) = c :: Text.ofUnits others := by
  have itself (others : List Nat) :
      Text.ofUnits ([c.toNat] ++ others) = c :: Text.ofUnits others := by
    rw [List.singleton_append, Text.ofUnits_cons (Text.not_isHighSurrogate c),
      Text.charOfCode_toNat]
  cases spelled with
  | raw noControl noMark noBackslash =>
      exact ⟨_, readCodes_raw noControl noMark noBackslash, itself⟩
  | escaped means => exact ⟨_, readCodes_escaped means, itself⟩
  | units spelled =>
      exact ⟨_, readCodes_units spelled more,
        Text.ofUnits_unitsOf_append c⟩

/-- A spelled text is read, up to its closing mark, as codes that stand for
it. -/
theorem exists_codes_of_spellsText
    (spelled : SpellsText content text)
    (behind : List Char) :
    ∃ codes, readCodes unterminated (text ++ '"' :: behind) =
      .ok (codes, behind) ∧ Text.ofUnits codes = content := by
  induction spelled with
  | nil => exact ⟨[], rfl, rfl⟩
  | @cons c content text others char _ inductionHypothesis =>
      obtain ⟨codes, read, isContent⟩ := inductionHypothesis
      have more : others ++ '"' :: behind ≠ [] :=
        List.append_ne_nil_of_right_ne_nil _ (List.cons_ne_nil _ _)
      obtain ⟨front, readFront, isChar⟩ :=
        @Spells.exists_codes unterminated c text _ char more
      refine ⟨front ++ codes, ?_, ?_⟩
      · rw [List.append_assoc, readFront, read]
        rfl
      · rw [isChar, isContent]

/-! ## Null characters -/

theorem SpellsUnit.ne_null
    {unit : Nat}
    (spelled : SpellsUnit unit text) :
    ∀ d ∈ text, d ≠ '\x00' := by
  obtain ⟨first, second, third, fourth, rfl, value⟩ := spelled
  rintro d member rfl
  rcases List.mem_cons.mp member with equal | member
  · cases equal
  · rcases List.mem_cons.mp member with equal | member
    · cases equal
    · cases Text.isSome_hexDigitValue?_of_hexValue? value member

theorem ne_null_of_spellsUnits
    {units : List Nat}
    {parts : List (List Char)}
    (spelled : List.Forall₂ SpellsUnit units parts) :
    ∀ d ∈ parts.flatten, d ≠ '\x00' := by
  induction spelled with
  | nil => exact fun _ member => (nomatch member)
  | cons isUnit _ inductionHypothesis =>
      intro d member
      rcases List.mem_append.mp member with front | behind
      · exact isUnit.ne_null d front
      · exact inductionHypothesis d behind

/-- No spelling of a character holds the null character. -/
theorem Spells.ne_null (spelled : Spells c text) :
    ∀ d ∈ text, d ≠ '\x00' := by
  cases spelled with
  | raw noControl noMark noBackslash =>
      rintro d member rfl
      rw [← List.mem_singleton.mp member] at noControl
      exact absurd noControl (by decide)
  | escaped means =>
      rintro d member rfl
      rcases List.mem_cons.mp member with equal | member
      · cases equal
      · rw [← List.mem_singleton.mp member] at means
        cases means
  | units spelled => exact ne_null_of_spellsUnits spelled

/-! ## Writing -/

theorem unitsOf_lt
    {unit : Nat}
    (member : unit ∈ Text.unitsOf c) :
    unit < 16 ^ 4 := by
  have valid : c.toNat.isValidChar := c.valid
  unfold Nat.isValidChar at valid
  unfold Text.unitsOf at member
  split at member
  · cases List.mem_singleton.mp member
    assumption
  · simp only [List.mem_cons, List.not_mem_nil, or_false] at member
    omega

theorem spellsUnit_escapedUnit
    {unit : Nat}
    (fits : unit < 16 ^ 4) :
    SpellsUnit unit (escapedUnit unit) :=
  ⟨_, _, _, _, rfl, Text.hexValue?_fixedHex fits⟩

theorem spells_escapedUnits (c : Char) :
    Spells c ((Text.unitsOf c).flatMap escapedUnit) := by
  rw [List.flatMap_def]
  refine .units (List.forall₂_map_right_iff.mpr ?_)
  exact List.forall₂_same.mpr fun unit member =>
    spellsUnit_escapedUnit (unitsOf_lt member)

/-- A character is written in one of its spellings. -/
theorem spells_writtenChar (c : Char) : Spells c (writtenChar c) := by
  fun_cases writtenChar c with
  | case1 equal | case2 _ equal | case3 _ _ equal | case4 _ _ _ equal
  | case5 _ _ _ _ equal =>
      rw [equal]
      exact .escaped rfl
  | case6 _ _ _ _ _ code | case7 _ _ _ _ _ _ code =>
      exact .escaped (congrArg some code.symm)
  | case8 noMark noBackslash _ _ _ _ _ printable =>
      exact .raw printable.1 noMark noBackslash
  | case9 => exact spells_escapedUnits c

/-- A text is written in one of its spellings. -/
theorem spellsText_writtenText (content : List Char) :
    SpellsText content (content.flatMap writtenChar) :=
  .flatMap spells_writtenChar content

end Json
end PathRouter
