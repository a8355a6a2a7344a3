import Mathlib
import PathRouter.Proofs.Pattern.References
import PathRouter.Proofs.Table.Reading
import PathRouter.Proofs.TokenRegistry.Keys

/-!
# Rendering pieces

The text of the expression of a pattern is rendered piece by piece: a character
stands for itself, each token is a named group around its constraint, and each
bracket opens or ends an option.  A token has a constraint if it is registered
or if there is a default constraint.  If one has none, the leftmost such token
of the text is reported, at whatever depth it stands.

## Main definitions

* `Compiler.Renders`: the text of a piece.
* `Compiler.IsFirstUndeclared`: the leftmost reference of a text to a token that
  is not registered.

## Main statements

* `Compiler.sourceOf_eq_error_iff`: which token is reported.
* `Compiler.sourceOf_eq_ok_iff`: what is rendered.
* `Compiler.source_eq_undeclared_iff`: when a token is reported, and what is
  rendered otherwise.
-/

namespace PathRouter

namespace Pattern

/-- The pieces of a pattern are those of its text. -/
theorem pieces_of_parse
    {pattern : String}
    {tree : Pattern}
    (parsed : parse pattern = .ok tree) :
    tree.pieces = Piece.ofChars pattern.toList := by
  rw [parse] at parsed
  split at parsed
  · cases parsed
  · rename_i correct
    obtain ⟨closed, split⟩ := pieces_assemble correct
    cases parsed
    rw [List.length_eq_zero_iff.mp closed, List.flatMap_nil, List.append_nil]
      at split
    exact split.symm

theorem lt_length_of_referenceAt?
    {text : List Char}
    {position : Nat}
    {ref : TokenRef}
    (here : referenceAt? text position = some ref) :
    position < text.length := by
  apply Nat.lt_of_not_le
  intro behind
  rw [referenceAt?, List.drop_eq_nil_of_le behind] at here
  cases here

/-- The first reference of a text that passes a test is the one at the smallest
position. -/
theorem find?_references_eq_some_iff
    {text : List Char}
    {test : TokenRef → Bool}
    {ref : TokenRef} :
    (references text).find? test = some ref ↔
      ∃ position, referenceAt? text position = some ref ∧ test ref = true ∧
        ∀ earlier < position, ∀ other,
          referenceAt? text earlier = some other → test other = false := by
  rw [references, List.find?_filterMap, Option.bind_eq_some_iff]
  constructor
  · rintro ⟨position, found, here⟩
    obtain ⟨passes, _, first⟩ := List.find?_range_eq_some.mp found
    rw [here] at passes
    refine ⟨position, here, passes, fun earlier before other there => ?_⟩
    have failed := first earlier before
    rw [there] at failed
    simpa using failed
  · rintro ⟨position, here, passes, first⟩
    refine ⟨position, List.find?_range_eq_some.mpr ⟨?_, ?_, ?_⟩, here⟩
    · rw [here]
      exact passes
    · exact List.mem_range.mpr (lt_length_of_referenceAt? here)
    · intro earlier before
      cases there : referenceAt? text earlier with
      | none => rfl
      | some other =>
          change (!test other) = true
          rw [first earlier before other there]
          rfl

end Pattern

namespace Compiler

variable {compiler : Compiler}

/-- The text of a piece of a pattern: a token is rendered as a named group
around the constraint under which it is registered or, if it is not registered,
around the default constraint. -/
inductive Renders (compiler : Compiler) : Piece → List Char → Prop
  | char (c : Char) :
      Renders compiler (.char c) (Regex.literalSymbol c).chars
  | registered
      {ref : TokenRef}
      {constraint : String}
      (given : compiler.registry.table.get? ref.key = some constraint) :
      Renders compiler (.token ref)
        ("(?P<" ++ ref.name ++ ">" ++ constraint ++ ")").toList
  | byDefault
      {ref : TokenRef}
      {constraint : String}
      (missing : ref.key ∉ compiler.registry.table)
      (given : compiler.defaultText? = some constraint) :
      Renders compiler (.token ref)
        ("(?P<" ++ ref.name ++ ">" ++ constraint ++ ")").toList
  | opening : Renders compiler .opening "(?:".toList
  | closing : Renders compiler .closing ")?".toList

/-- The reference at a position of a text is the leftmost one to a token that is
not registered. -/
structure IsFirstUndeclared
    (compiler : Compiler)
    (text : List Char)
    (position : Nat)
    (ref : TokenRef) : Prop where
  /-- The reference stands there. -/
  here : Pattern.referenceAt? text position = some ref
  /-- Its token is not registered. -/
  missing : ref.key ∉ compiler.registry.table
  /-- All tokens before it are. -/
  first : ∀ earlier < position, ∀ other,
    Pattern.referenceAt? text earlier = some other →
      other.key ∈ compiler.registry.table

/-! ## Constraints -/

theorem get?_eq_none_iff {ref : TokenRef} :
    compiler.registry.get? ref.key = none ↔
      ref.key ∉ compiler.registry.table := by
  rw [TokenRegistry.get?, tokenKey_key]
  exact Table.get?_eq_none_iff

theorem defaultText?_eq_none_iff :
    compiler.defaultText? = none ↔ compiler.defaultConstraint = .null := by
  rw [defaultText?]
  split
  · rename_i isNull
    exact iff_of_true rfl isNull
  · rename_i isGiven
    exact iff_of_false nofun isGiven

/-- A token has no constraint exactly if it is not registered and there is no
default constraint. -/
theorem constraint?_eq_none_iff {ref : TokenRef} :
    compiler.constraint? ref = none ↔
      compiler.defaultConstraint = .null ∧
        ref.key ∉ compiler.registry.table := by
  rw [constraint?, Option.orElse_eq_orElse, Option.orElse_eq_or,
    Option.or_eq_none_iff, get?_eq_none_iff, defaultText?_eq_none_iff,
    and_comm]

/-! ## The token that is reported -/

/-- Whether a token has no constraint. -/
def lacks (compiler : Compiler) (ref : TokenRef) : Bool :=
  (compiler.constraint? ref).isNone

/-- The token that is reported is the first one without a constraint. -/
theorem sourceOf_eq_error_iff
    {tree : Pattern}
    {ref : TokenRef} :
    compiler.sourceOf tree = .error ref ↔
      tree.tokens.find? compiler.lacks = some ref := by
  induction tree generalizing ref with
  | nil => exact ⟨nofun, nofun⟩
  | literal text rest inductionHypothesis =>
      rw [Pattern.tokens, ← inductionHypothesis, sourceOf]
      cases compiler.sourceOf rest <;> simp
  | token other rest inductionHypothesis =>
      rw [Pattern.tokens, List.find?_cons, lacks, sourceOf]
      cases compiler.constraint? other with
      | none => simp
      | some constraint =>
          change _ ↔ rest.tokens.find? compiler.lacks = some ref
          rw [← inductionHypothesis]
          cases compiler.sourceOf rest <;> simp
  | group inner rest innerHypothesis restHypothesis =>
      rw [Pattern.tokens, List.find?_append, sourceOf]
      cases inside : compiler.sourceOf inner with
      | error other =>
          rw [innerHypothesis.mp inside]
          simp
      | ok text =>
          have none : inner.tokens.find? compiler.lacks = none := by
            apply Option.eq_none_iff_forall_ne_some.mpr
            intro other found
            cases inside.symm.trans (innerHypothesis.mpr found)
          rw [none, Option.none_or, ← restHypothesis, ok_bind]
          cases compiler.sourceOf rest <;> simp

theorem lacks_eq_true_iff {ref : TokenRef} :
    compiler.lacks ref = true ↔
      compiler.defaultConstraint = .null ∧
        ref.key ∉ compiler.registry.table := by
  rw [lacks, Option.isNone_iff_eq_none, constraint?_eq_none_iff]

/-- Without a default constraint, the first reference of a text without a
constraint is the leftmost one to a token that is not registered. -/
theorem find?_references_lacks_iff
    {text : List Char}
    {ref : TokenRef} :
    (Pattern.references text).find? compiler.lacks = some ref ↔
      compiler.defaultConstraint = .null ∧
        ∃ position, compiler.IsFirstUndeclared text position ref := by
  rw [Pattern.find?_references_eq_some_iff]
  constructor
  · rintro ⟨position, here, lacking, first⟩
    obtain ⟨noDefault, missing⟩ := lacks_eq_true_iff.mp lacking
    refine ⟨noDefault, position, here, missing, ?_⟩
    intro earlier before other there
    have present := first earlier before other there
    rw [Bool.eq_false_iff, ne_eq, lacks_eq_true_iff, not_and, not_not]
      at present
    exact present noDefault
  · rintro ⟨noDefault, position, isFirst⟩
    refine ⟨position, isFirst.here,
      lacks_eq_true_iff.mpr ⟨noDefault, isFirst.missing⟩, ?_⟩
    intro earlier before other there
    rw [Bool.eq_false_iff, ne_eq, lacks_eq_true_iff]
    exact fun lacking =>
      lacking.2 (isFirst.first earlier before other there)

section Source

variable {pattern : String} {tree : Pattern}

theorem source_of_parse
    (parsed : parsePattern pattern = .ok tree) :
    compiler.source pattern =
      match compiler.sourceOf tree with
      | .ok body => .ok ("^" ++ body ++ "$")
      | .error ref => .error (.undeclaredToken ref.key pattern) := by
  rw [source, parsed, ok_bind]
  cases compiler.sourceOf tree <;> rfl

/-- An accepted pattern is rendered, or a token of it is reported. -/
theorem exists_source_of_parse
    (parsed : parsePattern pattern = .ok tree) :
    (∃ token, compiler.source pattern =
        .error (.undeclaredToken token pattern)) ∨
      ∃ text, compiler.source pattern = .ok text := by
  rw [source_of_parse parsed]
  cases compiler.sourceOf tree with
  | error ref => exact .inl ⟨_, rfl⟩
  | ok body => exact .inr ⟨_, rfl⟩

/-- A pattern of which a token is reported is accepted. -/
theorem exists_parsePattern_of_undeclared
    {token other : String}
    (failed : compiler.source pattern =
      .error (.undeclaredToken token other)) :
    ∃ tree, parsePattern pattern = .ok tree := by
  cases parsed : parsePattern pattern with
  | ok tree => exact ⟨tree, rfl⟩
  | error failure =>
      rw [source, parsed, error_bind] at failed
      cases failed
      rw [parsePattern] at parsed
      cases read : Pattern.parse pattern with
      | ok tree => rw [read] at parsed; cases parsed
      | error fault => rw [read] at parsed; cases parsed

/-- The token that is reported is the one of the leftmost reference without a
constraint. -/
theorem source_eq_error_iff_of_parse
    (parsed : parsePattern pattern = .ok tree)
    {token other : String} :
    compiler.source pattern = .error (.undeclaredToken token other) ↔
      other = pattern ∧ compiler.defaultConstraint = .null ∧
        ∃ position ref,
          compiler.IsFirstUndeclared pattern.toList position ref ∧
            ref.key = token := by
  have tokens : tree.tokens = Pattern.references pattern.toList :=
    (Pattern.tokens_eq_of_parse (mapError_eq_ok_iff.mp parsed)).trans
      (Piece.tokens_ofChars _)
  have reported : (∃ ref, compiler.sourceOf tree = .error ref ∧
      ref.key = token) ↔ compiler.defaultConstraint = .null ∧
        ∃ position ref,
          compiler.IsFirstUndeclared pattern.toList position ref ∧
            ref.key = token := by
    simp only [sourceOf_eq_error_iff, tokens, find?_references_lacks_iff]
    constructor
    · rintro ⟨ref, ⟨noDefault, position, isFirst⟩, key⟩
      exact ⟨noDefault, position, ref, isFirst, key⟩
    · rintro ⟨noDefault, position, ref, isFirst, key⟩
      exact ⟨ref, ⟨noDefault, position, isFirst⟩, key⟩
  rw [← reported, source_of_parse parsed]
  cases compiler.sourceOf tree with
  | ok body => simp
  | error ref => simp [and_comm, eq_comm]

/-- Some token is reported exactly if one has no constraint. -/
theorem exists_undeclared_iff_of_parse
    (parsed : parsePattern pattern = .ok tree) :
    (∃ token other, compiler.source pattern =
        .error (.undeclaredToken token other)) ↔
      compiler.defaultConstraint = .null ∧
        ∃ ref ∈ tree.tokens, ref.key ∉ compiler.registry.table := by
  have some_iff : (∃ ref, compiler.sourceOf tree = .error ref) ↔
      ∃ ref ∈ tree.tokens, compiler.lacks ref = true := by
    simp only [sourceOf_eq_error_iff]
    rw [← Option.isSome_iff_exists, List.find?_isSome]
  simp only [lacks_eq_true_iff] at some_iff
  rw [source_of_parse parsed]
  cases rendered : compiler.sourceOf tree with
  | ok body =>
      rw [rendered] at some_iff
      simp only [reduceCtorEq, exists_false, false_iff] at some_iff ⊢
      rintro ⟨noDefault, ref, member, missing⟩
      exact some_iff ⟨ref, member, noDefault, missing⟩
  | error ref =>
      obtain ⟨other, member, noDefault, missing⟩ :=
        some_iff.mp ⟨ref, rendered⟩
      exact iff_of_true ⟨_, _, rfl⟩ ⟨noDefault, other, member, missing⟩

/-- Compiling reports the tokens that rendering reports. -/
theorem compile_eq_undeclared_iff [CharacterNames] {token other : String} :
    compiler.compile pattern = .error (.undeclaredToken token other) ↔
      compiler.source pattern = .error (.undeclaredToken token other) := by
  rw [compile]
  cases compiler.source pattern with
  | error failure =>
      rw [error_bind, Except.error.injEq, Except.error.injEq]
  | ok text =>
      refine iff_of_false ?_ nofun
      rw [ok_bind]
      cases Regex.parse text with
      | ok program => exact nofun
      | error fault => cases fault <;> exact nofun

end Source

/-! ## What is rendered -/

/-- A piece has at most one text. -/
theorem Renders.rightUnique : Relator.RightUnique compiler.Renders := by
  intro piece one other first second
  cases first with
  | char c | opening | closing =>
      cases second
      rfl
  | registered given =>
      cases second with
      | registered again =>
          cases given.symm.trans again
          rfl
      | byDefault missing _ =>
          cases given.symm.trans (Table.get?_eq_none_iff.mpr missing)
  | byDefault missing given =>
      cases second with
      | registered again =>
          cases again.symm.trans (Table.get?_eq_none_iff.mpr missing)
      | byDefault _ again =>
          cases given.symm.trans again
          rfl

/-- A token that has a constraint is rendered around it. -/
theorem renders_token
    {ref : TokenRef}
    {constraint : String}
    (found : compiler.constraint? ref = some constraint) :
    compiler.Renders (.token ref)
      ("(?P<" ++ ref.name ++ ">" ++ constraint ++ ")").toList := by
  cases given : compiler.registry.get? ref.key with
  | some other =>
      rw [constraint?, given] at found
      cases found
      rw [TokenRegistry.get?, tokenKey_key] at given
      exact .registered given
  | none =>
      rw [constraint?, given] at found
      exact .byDefault (get?_eq_none_iff.mp given) found

/-- A token without a constraint is not rendered. -/
theorem Renders.constraint?_ne_none
    {ref : TokenRef}
    {text : List Char}
    (renders : compiler.Renders (.token ref) text) :
    compiler.constraint? ref ≠ none := by
  intro none
  obtain ⟨noDefault, missing⟩ := constraint?_eq_none_iff.mp none
  cases renders with
  | registered given =>
      cases given.symm.trans (Table.get?_eq_none_iff.mpr missing)
  | byDefault _ given =>
      cases given.symm.trans (defaultText?_eq_none_iff.mpr noDefault)

/-- A pattern is rendered piece by piece. -/
theorem forall₂_renders_of_sourceOf
    {tree : Pattern}
    {body : String}
    (rendered : compiler.sourceOf tree = .ok body) :
    ∃ texts, List.Forall₂ compiler.Renders tree.pieces texts ∧
      body.toList = texts.flatten := by
  induction tree generalizing body with
  | nil =>
      cases rendered
      exact ⟨[], .nil, rfl⟩
  | literal text rest inductionHypothesis =>
      obtain ⟨behind, renderedRest, equal⟩ := exists_of_bind rendered
      obtain ⟨texts, each, isBehind⟩ := inductionHypothesis renderedRest
      cases equal
      have chars : List.Forall₂ compiler.Renders (text.toList.map Piece.char)
          (text.toList.map fun c => (Regex.literalSymbol c).chars) := by
        rw [List.forall₂_map_left_iff, List.forall₂_map_right_iff,
          List.forall₂_same]
        exact fun c _ => .char c
      refine ⟨_, List.rel_append chars each, ?_⟩
      rw [String.toList_append, String.toList_ofList, Regex.literalChars,
        List.flatten_append, isBehind, List.flatMap_def]
  | token ref rest inductionHypothesis =>
      rw [sourceOf] at rendered
      cases found : compiler.constraint? ref with
      | none =>
          rw [found] at rendered
          cases rendered
      | some constraint =>
          rw [found] at rendered
          obtain ⟨behind, renderedRest, equal⟩ := exists_of_bind rendered
          obtain ⟨texts, each, isBehind⟩ := inductionHypothesis renderedRest
          cases equal
          refine ⟨_, .cons (renders_token found) each, ?_⟩
          rw [List.flatten_cons, ← isBehind, String.toList_append]
  | group inner rest innerHypothesis restHypothesis =>
      obtain ⟨inside, renderedInner, remaining⟩ := exists_of_bind rendered
      obtain ⟨behind, renderedRest, equal⟩ := exists_of_bind remaining
      obtain ⟨innerTexts, innerEach, isInside⟩ := innerHypothesis renderedInner
      obtain ⟨texts, each, isBehind⟩ := restHypothesis renderedRest
      cases equal
      refine ⟨_, .cons .opening (List.rel_append innerEach
        (.cons .closing each)), ?_⟩
      simp [isInside, isBehind]

/-- Only patterns whose tokens have constraints are rendered. -/
theorem constraint?_ne_none_of_forall₂
    {pieces : List Piece}
    {texts : List (List Char)}
    (each : List.Forall₂ compiler.Renders pieces texts) :
    ∀ ref ∈ Piece.tokens pieces, compiler.constraint? ref ≠ none := by
  induction each with
  | nil => exact nofun
  | @cons piece _ rest _ renders _ inductionHypothesis =>
      cases piece with
      | token ref =>
          exact List.forall_mem_cons.mpr
            ⟨renders.constraint?_ne_none, inductionHypothesis⟩
      | char _ | opening | closing => exact inductionHypothesis

/-- The text of an accepted pattern consists of the texts of its pieces. -/
theorem source_eq_ok_iff_of_parse
    {pattern source : String}
    {tree : Pattern}
    (parsed : parsePattern pattern = .ok tree) :
    compiler.source pattern = .ok source ↔
      ∃ texts,
        List.Forall₂ compiler.Renders (Piece.ofChars pattern.toList) texts ∧
        source = "^" ++ String.ofList texts.flatten ++ "$" := by
  have pieces := Pattern.pieces_of_parse (mapError_eq_ok_iff.mp parsed)
  have tokens := Pattern.tokens_eq_of_parse (mapError_eq_ok_iff.mp parsed)
  have rendered {body : String} (here : compiler.sourceOf tree = .ok body) :
      ∃ texts,
        List.Forall₂ compiler.Renders (Piece.ofChars pattern.toList) texts ∧
        body = String.ofList texts.flatten := by
    obtain ⟨texts, each, isBody⟩ := forall₂_renders_of_sourceOf here
    exact ⟨texts, pieces ▸ each, by rw [← isBody, String.ofList_toList]⟩
  rw [source_of_parse parsed]
  cases here : compiler.sourceOf tree with
  | ok body =>
      obtain ⟨texts, each, isBody⟩ := rendered here
      constructor
      · rintro ⟨⟩
        exact ⟨texts, each, by rw [isBody]⟩
      · rintro ⟨others, again, rfl⟩
        rw [Renders.rightUnique.forall₂ again each, isBody]
  | error ref =>
      refine iff_of_false nofun ?_
      rintro ⟨texts, each, _⟩
      have found := sourceOf_eq_error_iff.mp here
      have lacking : compiler.lacks ref = true := List.find?_some found
      rw [tokens] at found
      exact constraint?_ne_none_of_forall₂ each ref
        (List.mem_of_find?_eq_some found)
        (Option.isNone_iff_eq_none.mp lacking)

/-! ## All patterns -/

/-- Rendering a pattern, and compiling it, reports a token exactly if the
pattern is accepted, there is no default constraint, and a token of it is not
registered; the one that is reported is the one of the leftmost such reference
of the text.  Every other pattern that is accepted is rendered piece by piece:
its text falls into characters, brackets and its references, and each reference
is a named group around the constraint of its token. -/
theorem source_eq_undeclared_iff
    [CharacterNames]
    (compiler : Compiler)
    (pattern : String) :
    ((∃ token other, compiler.source pattern =
          .error (.undeclaredToken token other)) ↔
        ∃ tree, parsePattern pattern = .ok tree ∧
          compiler.defaultConstraint = .null ∧
          ∃ ref ∈ tree.tokens, ref.key ∉ compiler.registry.table) ∧
      (∀ token other,
        (compiler.source pattern = .error (.undeclaredToken token other) ↔
          (∃ tree, parsePattern pattern = .ok tree) ∧
            other = pattern ∧ compiler.defaultConstraint = .null ∧
            ∃ position ref,
              compiler.IsFirstUndeclared pattern.toList position ref ∧
                ref.key = token) ∧
        (compiler.compile pattern = .error (.undeclaredToken token other) ↔
          compiler.source pattern = .error (.undeclaredToken token other))) ∧
      ((∃ tree, parsePattern pattern = .ok tree) ↔
        (∃ token, compiler.source pattern =
            .error (.undeclaredToken token pattern)) ∨
          ∃ source, compiler.source pattern = .ok source) ∧
      (∀ source, compiler.source pattern = .ok source ↔
        (∃ tree, parsePattern pattern = .ok tree) ∧
          ∃ texts,
            List.Forall₂ compiler.Renders (Piece.ofChars pattern.toList)
              texts ∧
            source = "^" ++ String.ofList texts.flatten ++ "$") ∧
      (Piece.ofChars pattern.toList).flatMap Piece.chars = pattern.toList ∧
      Piece.tokens (Piece.ofChars pattern.toList) =
        Pattern.references pattern.toList := by
  refine ⟨?_, fun token other => ⟨?_, compile_eq_undeclared_iff⟩, ?_,
    fun source => ?_, (Piece.areSpelled_ofChars _).1, Piece.tokens_ofChars _⟩
  · constructor
    · rintro ⟨token, other, failed⟩
      obtain ⟨tree, parsed⟩ := exists_parsePattern_of_undeclared failed
      exact ⟨tree, parsed,
        (exists_undeclared_iff_of_parse parsed).mp ⟨token, other, failed⟩⟩
    · rintro ⟨tree, parsed, lacking⟩
      exact (exists_undeclared_iff_of_parse parsed).mpr lacking
  · constructor
    · intro failed
      obtain ⟨tree, parsed⟩ := exists_parsePattern_of_undeclared failed
      exact ⟨⟨tree, parsed⟩,
        (source_eq_error_iff_of_parse parsed).mp failed⟩
    · rintro ⟨⟨tree, parsed⟩, reported⟩
      exact (source_eq_error_iff_of_parse parsed).mpr reported
  · constructor
    · rintro ⟨tree, parsed⟩
      exact exists_source_of_parse parsed
    · rintro (⟨token, failed⟩ | ⟨source, rendered⟩)
      · exact exists_parsePattern_of_undeclared failed
      · obtain ⟨tree, parsed, _⟩ := exists_of_bind rendered
        exact ⟨tree, parsed⟩
  · constructor
    · intro rendered
      obtain ⟨tree, parsed, _⟩ := exists_of_bind rendered
      exact ⟨⟨tree, parsed⟩, (source_eq_ok_iff_of_parse parsed).mp rendered⟩
    · rintro ⟨⟨tree, parsed⟩, texts⟩
      exact (source_eq_ok_iff_of_parse parsed).mpr texts

/-- An empty constraint is one, and the leftmost token without one is reported
from inside of a group. -/
example :
    ({ registry := .ofList [("a", "")] } : Compiler).source
        "(/:a(/:b))/:c" =
      .error (.undeclaredToken ":b" "(/:a(/:b))/:c") := by
  cbv

end Compiler
end PathRouter
