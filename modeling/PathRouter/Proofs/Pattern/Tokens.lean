import PathRouter.Pattern.Parser
import PathRouter.Text.Identifier

/-!
# Tokens of patterns

The tokens of a pattern are those of the pieces of its text, in order.  Their
names are letters, digits and low lines, and no two of them are the same.

## Main statements

* `Piece.tokens_assemble`: assembling pieces keeps all tokens.
* `Pattern.isTokenName_of_parse`: what the names of tokens are made of.
* `Pattern.nodup_of_parse`: no two tokens have the same name.
-/

namespace PathRouter

/-- A name that a token may have: letters, digits and low lines, and no digit
first. -/
def IsTokenName (name : String) : Prop :=
  ∃ first rest, name.toList = first :: rest ∧ isNameStart first = true ∧
    ∀ c ∈ rest, isNameChar c = true

theorem bounds_of_isUpper
    {c : Char}
    (upper : c.isUpper = true) :
    0x41 ≤ c.toNat ∧ c.toNat ≤ 0x5a := by
  have bounds : 'A'.val ≤ c.val ∧ c.val ≤ 'Z'.val := of_decide_eq_true upper
  exact bounds

theorem bounds_of_isLower
    {c : Char}
    (lower : c.isLower = true) :
    0x61 ≤ c.toNat ∧ c.toNat ≤ 0x7a := by
  have bounds := Bool.and_eq_true_iff.mp lower
  exact ⟨of_decide_eq_true bounds.1, of_decide_eq_true bounds.2⟩

theorem bounds_of_isDigit
    {c : Char}
    (digit : c.isDigit = true) :
    0x30 ≤ c.toNat ∧ c.toNat ≤ 0x39 := by
  have bounds := Bool.and_eq_true_iff.mp digit
  exact ⟨of_decide_eq_true bounds.1, of_decide_eq_true bounds.2⟩

theorem bounds_of_isNameStart
    {c : Char}
    (starts : isNameStart c = true) :
    0x41 ≤ c.toNat ∧ c.toNat ≤ 0x5a ∨ 0x61 ≤ c.toNat ∧ c.toNat ≤ 0x7a ∨
      c.toNat = 0x5f := by
  rcases Bool.or_eq_true_iff.mp starts with letter | lowLine
  · rcases Bool.or_eq_true_iff.mp letter with upper | lower
    · exact .inl (bounds_of_isUpper upper)
    · exact .inr (.inl (bounds_of_isLower lower))
  · rw [beq_iff_eq.mp lowLine]
    exact .inr (.inr rfl)

theorem bounds_of_isNameChar
    {c : Char}
    (goesOn : isNameChar c = true) :
    0x41 ≤ c.toNat ∧ c.toNat ≤ 0x5a ∨ 0x61 ≤ c.toNat ∧ c.toNat ≤ 0x7a ∨
      c.toNat = 0x5f ∨ 0x30 ≤ c.toNat ∧ c.toNat ≤ 0x39 := by
  rcases Bool.or_eq_true_iff.mp goesOn with alphanumeric | lowLine
  · rcases Bool.or_eq_true_iff.mp alphanumeric with letter | digit
    · have starts : isNameStart c = true :=
        Bool.or_eq_true_iff.mpr (.inl letter)
      have bounds := bounds_of_isNameStart starts
      omega
    · exact .inr (.inr (.inr (bounds_of_isDigit digit)))
  · rw [beq_iff_eq.mp lowLine]
    exact .inr (.inr (.inl rfl))

theorem startsIdentifier_of_isNameStart
    {c : Char}
    (starts : isNameStart c = true) :
    Text.startsIdentifier c.toNat = true := by
  have bounds := bounds_of_isNameStart starts
  have narrow : c.toNat < 0x80 := by omega
  rw [Text.startsIdentifier, if_pos narrow, Text.isAsciiLetter]
  simp only [Bool.or_eq_true, Bool.and_eq_true, decide_eq_true_eq, beq_iff_eq]
  rw [or_assoc]
  exact bounds

theorem continuesIdentifier_of_isNameChar
    {c : Char}
    (goesOn : isNameChar c = true) :
    Text.continuesIdentifier c.toNat = true := by
  have bounds := bounds_of_isNameChar goesOn
  have narrow : c.toNat < 0x80 := by omega
  rw [Text.continuesIdentifier, if_pos narrow, Text.isAsciiWord,
    Text.isAsciiLetter, Text.isAsciiDigit]
  simp only [Bool.or_eq_true, Bool.and_eq_true, decide_eq_true_eq, beq_iff_eq]
  rcases bounds with upper | lower | lowLine | digit
  · exact .inl (.inl (.inl upper))
  · exact .inl (.inl (.inr lower))
  · exact .inr lowLine
  · exact .inl (.inr digit)

theorem isNameChar_of_isNameStart
    {c : Char}
    (starts : isNameStart c = true) :
    isNameChar c = true := by
  rcases Bool.or_eq_true_iff.mp starts with letter | lowLine
  · exact Bool.or_eq_true_iff.mpr (.inl (Bool.or_eq_true_iff.mpr (.inl letter)))
  · exact Bool.or_eq_true_iff.mpr (.inr lowLine)

namespace IsTokenName

variable {name : String} (isName : IsTokenName name)

include isName

theorem isIdentifier :
    Text.isIdentifier (name.toList.map Char.toNat) = true := by
  obtain ⟨first, rest, equal, starts, goesOn⟩ := isName
  rw [equal, List.map_cons, Text.isIdentifier, Bool.and_eq_true,
    List.all_eq_true]
  refine ⟨startsIdentifier_of_isNameStart starts, fun code member => ?_⟩
  obtain ⟨c, present, rfl⟩ := List.mem_map.mp member
  exact continuesIdentifier_of_isNameChar (goesOn c present)

theorem isNameChar_of_mem
    {c : Char}
    (member : c ∈ name.toList) :
    isNameChar c = true := by
  obtain ⟨first, rest, equal, starts, goesOn⟩ := isName
  rw [equal] at member
  rcases List.mem_cons.mp member with rfl | behind
  · exact isNameChar_of_isNameStart starts
  · exact goesOn c behind

theorem not_mem
    {c : Char}
    (other : isNameChar c = false) :
    c ∉ name.toList := fun member =>
  Bool.false_ne_true (other.symm.trans (isName.isNameChar_of_mem member))

end IsTokenName

namespace Piece

/-- The token of a piece. -/
def token? : Piece → Option TokenRef
  | token ref => some ref
  | _ => none

/-- All tokens of a row of pieces. -/
def tokens (pieces : List Piece) : List TokenRef := pieces.filterMap token?

theorem tokens_consChar (c : Char) (row : Pattern) :
    (row.consChar c).tokens = row.tokens := by
  cases row <;> rfl

/-- Assembling pieces keeps all tokens, in rows that are still to be closed as
well. -/
theorem tokens_assemble (pieces : List Piece) :
    (assemble pieces).1.tokens ++ (assemble pieces).2.flatMap Pattern.tokens =
      tokens pieces := by
  induction pieces with
  | nil => rfl
  | cons piece rest inductionHypothesis =>
      cases piece with
      | char c =>
          change ((assemble rest).1.consChar c).tokens ++ _ = tokens rest
          rw [tokens_consChar]
          exact inductionHypothesis
      | token ref => exact congrArg (ref :: ·) inductionHypothesis
      | closing => exact inductionHypothesis
      | opening =>
          change _ = tokens rest
          rw [← inductionHypothesis, assemble]
          rcases assemble rest with ⟨row, _ | ⟨next, outer⟩⟩
          · rfl
          · exact List.append_assoc ..

/-- Without a fault, all names are new and no name comes twice. -/
theorem nodup_of_fault?_eq_none
    {position depth : Nat}
    {seen : List String}
    {pieces : List Piece}
    (correct : fault? position depth seen pieces = none) :
    ((tokens pieces).map TokenRef.name).Nodup ∧
      ∀ name ∈ (tokens pieces).map TokenRef.name, name ∉ seen := by
  induction pieces generalizing position depth seen with
  | nil => exact ⟨.nil, nofun⟩
  | cons piece rest inductionHypothesis =>
      cases piece with
      | char c => exact inductionHypothesis correct
      | opening => exact inductionHypothesis correct
      | closing =>
          cases depth with
          | zero => cases correct
          | succ depth => exact inductionHypothesis correct
      | token ref =>
          rw [fault?] at correct
          split at correct
          · cases correct
          · rename_i new
            obtain ⟨distinct, unseen⟩ := inductionHypothesis correct
            change (ref.name :: (tokens rest).map TokenRef.name).Nodup ∧
              ∀ name ∈ ref.name :: (tokens rest).map TokenRef.name, name ∉ seen
            refine ⟨List.nodup_cons.mpr ⟨fun again => ?_, distinct⟩, ?_⟩
            · exact unseen _ again List.mem_cons_self
            · intro name member
              rcases List.mem_cons.mp member with rfl | behind
              · exact new
              · exact fun old => unseen name behind
                  (List.mem_cons_of_mem _ old)

theorem isTokenName_of_leadingName
    {text : List Char}
    (nonempty : (leadingName text).isEmpty = false) :
    IsTokenName (String.ofList (leadingName text)) := by
  cases text with
  | nil => cases nonempty
  | cons c rest =>
      rw [leadingName] at nonempty ⊢
      split at nonempty
      · rename_i starts
        rw [if_pos starts]
        refine ⟨c, rest.takeWhile isNameChar, String.toList_ofList, starts, ?_⟩
        exact List.all_eq_true.mp List.all_takeWhile
      · cases nonempty

/-- References in a text have the names of tokens. -/
theorem isTokenName_of_mem_ofChars
    {text : List Char}
    {ref : TokenRef}
    (member : token ref ∈ ofChars text) :
    IsTokenName ref.name := by
  fun_induction ofChars text with
  | case1 => cases member
  | case2 rest inductionHypothesis
  | case3 rest inductionHypothesis
  | case4 rest _ _ inductionHypothesis
  | case6 _ rest _ _ _ inductionHypothesis =>
      rcases List.mem_cons.mp member with other | behind
      · cases other
      · exact inductionHypothesis behind
  | case5 rest name found behind default? inductionHypothesis =>
      rcases List.mem_cons.mp member with here | behind
      · cases here
        exact isTokenName_of_leadingName (Bool.eq_false_iff.mpr found)
      · exact inductionHypothesis behind

end Piece

namespace Pattern

variable {text : String} {tree : Pattern}

/-- The tokens of a pattern are among the pieces of its text. -/
theorem tokens_sublist_of_parse
    (parsed : parse text = .ok tree) :
    tree.tokens.Sublist (Piece.tokens (Piece.ofChars text.toList)) ∧
      Piece.fault? 0 0 [] (Piece.ofChars text.toList) = none := by
  rw [parse] at parsed
  split at parsed
  · cases parsed
  · rename_i correct
    cases parsed
    refine ⟨?_, correct⟩
    rw [← Piece.tokens_assemble]
    exact List.sublist_append_left ..

/-- No two tokens of a pattern have the same name. -/
theorem nodup_of_parse
    (parsed : parse text = .ok tree) :
    (tree.tokens.map TokenRef.name).Nodup := by
  obtain ⟨among, correct⟩ := tokens_sublist_of_parse parsed
  exact (Piece.nodup_of_fault?_eq_none correct).1.sublist (among.map _)

theorem isTokenName_of_parse
    (parsed : parse text = .ok tree)
    {ref : TokenRef}
    (member : ref ∈ tree.tokens) :
    IsTokenName ref.name := by
  obtain ⟨among, _⟩ := tokens_sublist_of_parse parsed
  obtain ⟨piece, present, equal⟩ := List.mem_filterMap.mp
    (among.subset member)
  cases piece with
  | token other =>
      cases equal
      exact Piece.isTokenName_of_mem_ofChars present
  | char _ | opening | closing => cases equal

end Pattern
end PathRouter
