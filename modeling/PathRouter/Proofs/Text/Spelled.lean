/-!
# Spelled texts

A format allows one or more spellings for each character of a text.  The
spellings of a text are those of its characters, one behind the other.

## Main definitions

* `Spelled`: the spellings of a text, from those of a character.

## Main statements

* `Spelled.forall_mem`: what holds for the spellings of characters.
* `Spelled.flatMap`: the text in which each character is spelled in its way.
-/

namespace PathRouter
namespace Text

/-- The spellings of a text, from those of a character. -/
inductive Spelled (spells : Char → List Char → Prop) :
    List Char → List Char → Prop
  | nil : Spelled spells [] []
  | cons
      {c : Char}
      {content text behind : List Char}
      (char : spells c text)
      (rest : Spelled spells content behind) :
      Spelled spells (c :: content) (text ++ behind)

namespace Spelled

variable {spells : Char → List Char → Prop} {content text : List Char}

/-- What holds for all characters of the spellings of characters holds for all
characters of those of a text. -/
theorem forall_mem
    {property : Char → Prop}
    (each : ∀ {c text}, spells c text → ∀ d ∈ text, property d)
    (spelled : Spelled spells content text) :
    ∀ d ∈ text, property d := by
  induction spelled with
  | nil => exact fun _ member => (nomatch member)
  | cons char _ inductionHypothesis =>
      intro d member
      rcases List.mem_append.mp member with front | behind
      · exact each char d front
      · exact inductionHypothesis d behind

/-- The text in which each character is spelled in its way. -/
theorem flatMap
    {write : Char → List Char}
    (each : ∀ c, spells c (write c))
    (content : List Char) :
    Spelled spells content (content.flatMap write) := by
  induction content with
  | nil => exact .nil
  | cons c rest inductionHypothesis =>
      exact .cons (each c) inductionHypothesis

end Spelled
end Text
end PathRouter
