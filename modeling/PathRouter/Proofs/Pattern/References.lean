import Mathlib
import PathRouter.Proofs.Pattern.Writing
import PathRouter.Proofs.Table.Writing

/-!
# References in texts

The references of a pattern can be read off its text by looking at one position
after another: there is one wherever a colon stands before the start of a name,
whatever is around it.  Its name is the longest run of name characters, and it
has a default if an equals sign follows at once.

## Main definitions

* `Pattern.referenceAt?`: the reference at a position of a text.
* `Pattern.references`: all references of a text, in order.

## Main statements

* `Piece.tokens_ofChars`: the tokens among the pieces of a text are its
  references.
* `Pattern.tokens_eq_references`: the tokens of a pattern are the references of
  its text, and so are its defaults.
-/

namespace PathRouter
namespace Pattern

/-- The default at the front of a text: behind an equals sign, the longest run
of characters that a default may hold. -/
def leadingValue? : List Char → Option String
  | '=' :: text => some (String.ofList (text.takeWhile isDefaultChar))
  | _ => none

/-- The reference at the front of a text: a colon, the longest run of name
characters that starts a name, and the default behind it. -/
def leadingReference? : List Char → Option TokenRef
  | ':' :: c :: text =>
      if isNameStart c then
        some
          { name := String.ofList ((c :: text).takeWhile isNameChar)
            default? := leadingValue? ((c :: text).dropWhile isNameChar) }
      else none
  | _ => none

/-- The reference at a position of a text, if there is one. -/
def referenceAt? (text : List Char) (position : Nat) : Option TokenRef :=
  leadingReference? (text.drop position)

/-- The references of a text, in the order of their positions. -/
def references (text : List Char) : List TokenRef :=
  (List.range text.length).filterMap (referenceAt? text)

/-! ## Reading references from the front -/

theorem leadingReference?_of_ne
    {c : Char}
    (noColon : c ≠ ':')
    (text : List Char) :
    leadingReference? (c :: text) = none := by
  rw [leadingReference?.eq_def]
  split
  · rename_i equal
    exact absurd (List.cons.inj equal).1 noColon
  · rfl

theorem leadingValue?_eq (text : List Char) :
    leadingValue? text = (Piece.leadingDefault? text).map String.ofList := by
  fun_cases leadingValue? text with
  | case1 text => rfl
  | case2 _ other =>
      rw [Piece.leadingDefault?.eq_2 text other]
      rfl

/-- A name is the longest run of name characters, if its first one starts a
name. -/
theorem leadingName_cons
    {c : Char}
    (starts : isNameStart c = true)
    (text : List Char) :
    Piece.leadingName (c :: text) = (c :: text).takeWhile isNameChar := by
  rw [Piece.leadingName, if_pos starts, List.takeWhile_cons,
    if_pos (isNameChar_of_isNameStart starts)]

/-- Behind a colon, there is no reference without a name. -/
theorem leadingReference?_of_unnamed
    {text : List Char}
    (unnamed : Piece.leadingName text = []) :
    leadingReference? (':' :: text) = none := by
  cases text with
  | nil => rfl
  | cons c rest =>
      have stops := Piece.leadingName_eq_nil_iff.mp unnamed c rfl
      rw [leadingReference?, stops, if_neg Bool.false_ne_true]

/-- Behind a colon, a name and what follows it give a reference. -/
theorem leadingReference?_of_named
    {text : List Char}
    (named : Piece.leadingName text ≠ []) :
    leadingReference? (':' :: text) =
      some ⟨String.ofList (Piece.leadingName text),
        (Piece.leadingDefault?
          (text.drop (Piece.leadingName text).length)).map String.ofList⟩ := by
  cases text with
  | nil => exact absurd rfl named
  | cons c rest =>
      cases starts : isNameStart c with
      | false =>
          rw [Piece.leadingName, starts] at named
          exact absurd rfl named
      | true =>
          rw [leadingReference?, if_pos starts, leadingName_cons starts,
            Piece.drop_takeWhile, leadingValue?_eq]

theorem references_cons (c : Char) (text : List Char) :
    references (c :: text) =
      (leadingReference? (c :: text)).toList ++ references text := by
  have behind : (List.range text.length).filterMap
      (referenceAt? (c :: text) ∘ Nat.succ) = references text := rfl
  rw [references, List.length_cons, List.range_succ_eq_map,
    List.filterMap_cons, List.filterMap_map, behind, referenceAt?,
    List.drop_zero]
  cases leadingReference? (c :: text) <;> rfl

/-- Without colons, there are no references. -/
theorem references_append
    {run : List Char}
    (noColon : ':' ∉ run)
    (text : List Char) :
    references (run ++ text) = references text := by
  induction run with
  | nil => rfl
  | cons c rest inductionHypothesis =>
      rw [List.mem_cons, not_or] at noColon
      rw [List.cons_append, references_cons,
        leadingReference?_of_ne (Ne.symm noColon.1),
        inductionHypothesis noColon.2]
      rfl

end Pattern

namespace Piece

/-- Behind its colon, a reference holds neither colons nor brackets. -/
theorem isPlain_of_isWritable
    {ref : TokenRef}
    (writable : ref.IsWritable) :
    ∃ run, (token ref).chars = ':' :: run ∧
      ∀ c ∈ run, c ≠ ':' ∧ c ≠ '(' ∧ c ≠ ')' := by
  refine ⟨_, rfl, fun c member => ?_⟩
  rcases List.mem_append.mp member with inName | behind
  · have isName := writable.name.isNameChar_of_mem inName
    refine ⟨?_, ?_, ?_⟩ <;>
    · rintro rfl
      exact absurd isName (by decide)
  · cases given : ref.default? with
    | none => rw [given] at behind; cases behind
    | some value =>
        rw [given] at behind
        rcases List.mem_cons.mp behind with rfl | inValue
        · decide
        · have isValue := writable.default? value given c inValue
          refine ⟨?_, ?_, ?_⟩ <;>
          · rintro rfl
            exact absurd isValue (by decide)

/-- The tokens among the pieces of a text are its references. -/
theorem tokens_ofChars (text : List Char) :
    tokens (ofChars text) = Pattern.references text := by
  fun_induction ofChars text with
  | case1 => rfl
  | case2 rest inductionHypothesis
  | case3 rest inductionHypothesis =>
      rw [Pattern.references_cons, Pattern.leadingReference?_of_ne (by decide)]
      exact inductionHypothesis
  | case4 rest name unnamed inductionHypothesis =>
      rw [Pattern.references_cons,
        Pattern.leadingReference?_of_unnamed (List.isEmpty_iff.mp unnamed)]
      exact inductionHypothesis
  | case5 rest name named behind default? inductionHypothesis =>
      have nonempty : leadingName rest ≠ [] :=
        fun unnamed => named (List.isEmpty_iff.mpr unnamed)
      obtain ⟨same, writable, _⟩ := reference_ofChars nonempty
        (rfl : behind = _) (rfl : default? = _)
      obtain ⟨run, chars, plain⟩ := isPlain_of_isWritable writable
      have split : run ++ behind.drop (defaultWidth default?) = rest := by
        rw [chars] at same
        exact (List.cons.inj same).2
      rw [Pattern.references_cons,
        Pattern.leadingReference?_of_named nonempty, ← split,
        Pattern.references_append fun colon => (plain ':' colon).1 rfl,
        ← inductionHypothesis, split]
      rfl
  | case6 c rest noOpening noClosing noColon inductionHypothesis =>
      rw [Pattern.references_cons, Pattern.leadingReference?_of_ne noColon]
      exact inductionHypothesis

end Piece

namespace Pattern

variable {pattern : String} {tree : Pattern}

/-- The tokens of a pattern are those among the pieces of its text. -/
theorem tokens_eq_of_parse
    (parsed : parse pattern = .ok tree) :
    tree.tokens = Piece.tokens (Piece.ofChars pattern.toList) := by
  rw [parse] at parsed
  split at parsed
  · cases parsed
  · rename_i correct
    cases parsed
    have closed := List.length_eq_zero_iff.mp (pieces_assemble correct).1
    rw [← Piece.tokens_assemble, closed, List.flatMap_nil, List.append_nil]

/-! ## Defaults -/

/-- The names of tokens with a default are names of tokens, in order. -/
theorem keys_defaults_sublist (tokens : List TokenRef) :
    ((tokens.filterMap fun ref => ref.default?.map (ref.name, ·)).map
      Prod.fst).Sublist (tokens.map TokenRef.name) := by
  induction tokens with
  | nil => exact .slnil
  | cons ref rest inductionHypothesis =>
      obtain ⟨name, _ | value⟩ := ref
      · exact inductionHypothesis.cons _
      · exact inductionHypothesis.cons_cons _

theorem mem_keys_defaults
    {ref : TokenRef}
    (member : ref ∈ tree.tokens)
    (given : ref.default? ≠ none) :
    ref.name ∈ tree.defaults.map Prod.fst := by
  obtain ⟨value, isValue⟩ := Option.ne_none_iff_exists'.mp given
  refine List.mem_map.mpr ⟨(ref.name, value), ?_, rfl⟩
  exact List.mem_filterMap.mpr ⟨ref, member, by rw [isValue]; rfl⟩

/-- The defaults of a pattern keep their order. -/
theorem entries_ofList_defaults
    (parsed : parsePattern pattern = .ok tree) :
    (Table.ofList tree.defaults).entries = tree.defaults := by
  rw [parsePattern, mapError_eq_ok_iff] at parsed
  exact Table.entries_ofList
    ((nodup_of_parse parsed).sublist (keys_defaults_sublist _))

/-- The tokens of a pattern are the references of its text, in the order of
their positions, and its defaults are the defaults that these references
give. -/
theorem tokens_eq_references
    (parsed : parsePattern pattern = .ok tree) :
    tree.tokens = references pattern.toList ∧
      ∃ defaults, Compiler.defaults pattern = .ok defaults ∧
        defaults.entries = (references pattern.toList).filterMap fun ref =>
          ref.default?.map (ref.name, ·) := by
  have tokens : tree.tokens = references pattern.toList :=
    (tokens_eq_of_parse (mapError_eq_ok_iff.mp parsed)).trans
      (Piece.tokens_ofChars _)
  refine ⟨tokens, .ofList tree.defaults, ?_, ?_⟩
  · rw [Compiler.defaults, parsed]
    rfl
  · rw [entries_ofList_defaults parsed, defaults, tokens]

/-- A default may be empty or hold equals signs, a colon before a digit or
before a letter that is not one of the twenty-six starts no name, and a name is
read to its end. -/
theorem tokens_eq_references_nested :
    let text := "/:1::identity=a=(:é/:id=)(/:_x:y)"
    ∃ tree, parsePattern text = .ok tree ∧
      tree.tokens = [⟨"identity", some "a="⟩, ⟨"id", some ""⟩, ⟨"_x", none⟩,
        ⟨"y", none⟩] ∧
      ∃ defaults, Compiler.defaults text = .ok defaults ∧
        defaults.entries = [("identity", "a="), ("id", "")] := by
  intro text
  have parsed : parsePattern text =
      .ok (.literal "/:1:" (.token ⟨"identity", some "a="⟩
        (.group (.literal ":é/" (.token ⟨"id", some ""⟩ .nil))
          (.group (.literal "/" (.token ⟨"_x", none⟩
            (.token ⟨"y", none⟩ .nil))) .nil)))) := by
    cbv
  have read : references text.toList = [⟨"identity", some "a="⟩,
      ⟨"id", some ""⟩, ⟨"_x", none⟩, ⟨"y", none⟩] := by
    decide
  obtain ⟨tokens, defaults, given, entries⟩ := tokens_eq_references parsed
  rw [read] at tokens entries
  exact ⟨_, parsed, tokens, defaults, given, entries⟩

end Pattern
end PathRouter
