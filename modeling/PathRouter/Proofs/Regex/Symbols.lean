import PathRouter.Regex.Symbol

/-!
# Symbols of texts that meet

Where two texts meet, their symbols meet as well, unless the first text ends in
a backslash that would escape the first character of the second one.

## Main definitions

* `Symbol.Spells`: a text with its symbols, none of which is left dangling.

## Main statements

* `Symbol.Spells.append`: texts that meet.
* `Symbol.spells_literalChars`, `Symbol.spells_named` and
  `Symbol.spells_optional`: the symbols of literal texts, of named groups and of
  options.
-/

namespace PathRouter
namespace Regex
namespace Symbol

/-- Only the last symbol can be left dangling. -/
theorem exists_of_dangling_mem
    {text : List Char}
    (dangles : dangling ∈ ofChars text) :
    ∃ front, ofChars text = front ++ [dangling] := by
  fun_induction ofChars text with
  | case1 => cases dangles
  | case2 => exact ⟨[], rfl⟩
  | case3 c rest inductionHypothesis =>
      obtain ⟨front, equal⟩ := inductionHypothesis (by simpa using dangles)
      exact ⟨escaped c :: front, congrArg (escaped c :: ·) equal⟩
  | case4 c rest _ _ inductionHypothesis =>
      obtain ⟨front, equal⟩ := inductionHypothesis (by simpa using dangles)
      exact ⟨plain c :: front, congrArg (plain c :: ·) equal⟩

/-- Symbols end where two texts meet, unless the first one ends in a
backslash. -/
theorem ofChars_append
    {first : List Char}
    (complete : dangling ∉ ofChars first)
    (second : List Char) :
    ofChars (first ++ second) = ofChars first ++ ofChars second := by
  fun_induction ofChars first with
  | case1 => rfl
  | case2 => exact absurd List.mem_cons_self complete
  | case3 c rest inductionHypothesis =>
      have behind := inductionHypothesis fun member =>
        complete (List.mem_cons_of_mem _ member)
      rw [List.cons_append, List.cons_append, ofChars, behind,
        List.cons_append]
  | case4 c rest notLast notEscape inductionHypothesis =>
      have behind := inductionHypothesis fun member =>
        complete (List.mem_cons_of_mem _ member)
      have plain_ : c ≠ '\\' := by
        rintro rfl
        cases rest with
        | nil => exact notLast rfl rfl
        | cons next rest => exact notEscape next rest rfl rfl
      rw [List.cons_append, ofChars, behind, List.cons_append]
      · intro backslash
        exact absurd backslash plain_
      · intro _ _ backslash
        exact absurd backslash plain_

/-- A row of symbols is that of a text, which does not end in a backslash. -/
structure Spells (text : List Char) (row : List Symbol) : Prop where
  /-- The symbols of the text. -/
  reads : ofChars text = row
  /-- No backslash is left dangling. -/
  complete : dangling ∉ row

theorem Spells.append
    {first second : List Char}
    {row other : List Symbol}
    (begun : Spells first row)
    (ended : Spells second other) :
    Spells (first ++ second) (row ++ other) where
  reads := by
    have complete : dangling ∉ ofChars first := begun.reads ▸ begun.complete
    rw [ofChars_append complete, begun.reads, ended.reads]
  complete := fun member =>
    (List.mem_append.mp member).elim begun.complete ended.complete

theorem spells_plain
    {text : List Char}
    (plainly : '\\' ∉ text) :
    Spells text (text.map plain) where
  reads := by
    induction text with
    | nil => rfl
    | cons c rest inductionHypothesis =>
        rw [List.mem_cons, not_or] at plainly
        rw [ofChars, inductionHypothesis plainly.2, List.map_cons]
        · intro backslash
          exact absurd backslash.symm plainly.1
        · intro _ _ backslash
          exact absurd backslash.symm plainly.1
  complete := by
    intro member
    obtain ⟨c, _, equal⟩ := List.mem_map.mp member
    cases equal

theorem spells_literalSymbol (c : Char) :
    Spells (literalSymbol c).chars [literalSymbol c] := by
  rw [literalSymbol]
  split
  · exact ⟨rfl, by simp⟩
  · rename_i ordinary
    refine spells_plain fun member => ?_
    rw [← List.mem_singleton.mp member] at ordinary
    exact ordinary (by decide)

theorem spells_literalChars (text : List Char) :
    Spells (literalChars text) (text.map literalSymbol) := by
  induction text with
  | nil => exact ⟨rfl, nofun⟩
  | cons c rest inductionHypothesis =>
      exact (spells_literalSymbol c).append inductionHypothesis

/-- A named group around a text that does not end in a backslash. -/
theorem spells_named
    {name constraint : String}
    (plainly : '\\' ∉ name.toList)
    (complete : dangling ∉ ofChars constraint.toList) :
    Spells ("(?P<" ++ name ++ ">" ++ constraint ++ ")").toList
      ([plain '(', plain '?', plain 'P', plain '<'] ++
        (name.toList.map plain ++ [plain '>']) ++
          (ofChars constraint.toList ++ [plain ')'])) := by
  have text : ("(?P<" ++ name ++ ">" ++ constraint ++ ")").toList =
      "(?P<".toList ++ (name.toList ++ ">".toList) ++
        (constraint.toList ++ ")".toList) := by
    simp only [String.toList_append, List.append_assoc]
  have bracket : Spells "(?P<".toList
      [plain '(', plain '?', plain 'P', plain '<'] := ⟨rfl, by simp⟩
  have opening : Spells (name.toList ++ ">".toList)
      (name.toList.map plain ++ [plain '>']) :=
    (spells_plain plainly).append ⟨rfl, by simp⟩
  have inside : Spells (constraint.toList ++ ")".toList)
      (ofChars constraint.toList ++ [plain ')']) :=
    .append ⟨rfl, complete⟩ ⟨rfl, by simp⟩
  rw [text]
  exact (bracket.append opening).append inside

/-- Brackets and a question mark around a text. -/
theorem spells_optional
    {inside : String}
    {row : List Symbol}
    (spells : Spells inside.toList row) :
    Spells ("(?:" ++ inside ++ ")?").toList
      ([plain '(', plain '?', plain ':'] ++
        (row ++ [plain ')', plain '?'])) := by
  rw [String.append_assoc, String.toList_append, String.toList_append]
  exact .append ⟨rfl, by simp⟩ (spells.append ⟨rfl, by simp⟩)

end Symbol
end Regex
end PathRouter
