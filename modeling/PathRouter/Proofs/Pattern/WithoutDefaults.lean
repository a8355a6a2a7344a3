import Mathlib
import PathRouter.Proofs.Pattern.References

/-!
# Texts without defaults

The defaults that a pattern gives can be deleted from its text: for each
reference with a default, the equals sign behind its name and the characters
behind that.  What stands behind a default goes on with no name and starts no
other default, so the rest of the text is read as before, with the same
references, now without defaults.

## Main definitions

* `Pattern.withoutDefaults`: the text without the defaults of its references.
* `Pattern.bare`: the tree without the defaults of its tokens.

## Main statements

* `Pattern.withoutDefaults_eq_flatMap`: no other piece is changed.
* `Piece.ofChars_withoutDefaults`: the text that is left is read piece by piece.
* `Pattern.parse_withoutDefaults_eq_ok_iff`: it stands for the same tree without
  defaults.
-/

namespace PathRouter

/-- Whether the default of a reference holds the character at a distance from
the colon of the reference: the equals sign behind the name, or one of the
characters behind that. -/
def TokenRef.defaultCovers (ref : TokenRef) (distance : Nat) : Bool :=
  match ref.default? with
  | none => false
  | some value =>
      ref.name.length < distance &&
        distance ≤ ref.name.length + 1 + value.length

/-- A reference to the same token without a default. -/
def TokenRef.bare (ref : TokenRef) : TokenRef := { ref with default? := none }

/-- A piece without the default of its token. -/
def Piece.bare : Piece → Piece
  | token ref => token ref.bare
  | piece => piece

/-- The characters of a text at all positions but those that are erased. -/
def keptChars (erased : Nat → Bool) (text : List Char) : List Char :=
  (List.range text.length).filterMap fun position =>
    if erased position then none else text[position]?

namespace Pattern

/-- Whether a position of a text is inside of the default of a reference. -/
def isInDefault (text : List Char) (position : Nat) : Bool :=
  (List.range position).any fun start =>
    (referenceAt? text start).any (·.defaultCovers (position - start))

/-- A tree without the defaults of its tokens. -/
def bare : Pattern → Pattern
  | nil => nil
  | literal text rest => literal text rest.bare
  | token ref rest => token ref.bare rest.bare
  | group inner rest => group inner.bare rest.bare

/-- A text without the defaults of its references. -/
def withoutDefaults (text : List Char) : List Char :=
  keptChars (isInDefault text) text

end Pattern

/-! ## Erasing characters -/

section KeptChars

variable {erased : Nat → Bool} {text : List Char}

theorem keptChars_cons (erased : Nat → Bool) (c : Char) (text : List Char) :
    keptChars erased (c :: text) =
      (if erased 0 then [] else [c]) ++
        keptChars (fun position => erased (position + 1)) text := by
  have behind : (List.range text.length).filterMap
      ((fun position => if erased position then none
        else (c :: text)[position]?) ∘ Nat.succ) =
        keptChars (fun position => erased (position + 1)) text := rfl
  rw [keptChars, List.length_cons, List.range_succ_eq_map,
    List.filterMap_cons, List.filterMap_map, behind]
  cases erased 0 <;> rfl

theorem keptChars_append (erased : Nat → Bool) (first second : List Char) :
    keptChars erased (first ++ second) =
      keptChars erased first ++
        keptChars (fun position => erased (first.length + position))
          second := by
  induction first generalizing erased with
  | nil => simp [keptChars]
  | cons c rest inductionHypothesis =>
      rw [List.cons_append, keptChars_cons, keptChars_cons,
        inductionHypothesis, List.append_assoc, List.length_cons]
      simp only [Nat.add_right_comm]

/-- If nothing is erased, the text is left. -/
theorem keptChars_eq_self
    (none : ∀ position < text.length, erased position = false) :
    keptChars erased text = text := by
  induction text generalizing erased with
  | nil => rfl
  | cons c rest inductionHypothesis =>
      rw [keptChars_cons, none 0 (Nat.succ_pos _),
        inductionHypothesis fun position inside =>
          none (position + 1) (Nat.succ_lt_succ inside)]
      rfl

/-- If all is erased, nothing is left. -/
theorem keptChars_eq_nil
    (all : ∀ position < text.length, erased position = true) :
    keptChars erased text = [] := by
  induction text generalizing erased with
  | nil => rfl
  | cons c rest inductionHypothesis =>
      rw [keptChars_cons, all 0 (Nat.succ_pos _),
        inductionHypothesis fun position inside =>
          all (position + 1) (Nat.succ_lt_succ inside)]
      rfl

end KeptChars

/-! ## Where defaults stand -/

namespace Pattern

theorem isInDefault_zero (text : List Char) :
    isInDefault text 0 = false := rfl

/-- The default that holds a position belongs to the reference at the front of a
text or to one behind it. -/
theorem isInDefault_cons (c : Char) (text : List Char) (position : Nat) :
    isInDefault (c :: text) (position + 1) =
      ((leadingReference? (c :: text)).any
          (·.defaultCovers (position + 1)) ||
        isInDefault text position) := by
  rw [isInDefault, List.range_succ_eq_map, List.any_cons, List.any_map]
  congr 1
  apply congrArg (List.range position).any
  funext start
  simp [referenceAt?]

section Runs

variable {run : List Char}

/-- Characters without a colon are in no default of a reference behind them. -/
theorem isInDefault_run
    (noColon : ':' ∉ run)
    (text : List Char) :
    ∀ position < run.length, isInDefault (run ++ text) position = false := by
  induction run with
  | nil => exact nofun
  | cons c rest inductionHypothesis =>
      rw [List.mem_cons, not_or] at noColon
      intro position inside
      cases position with
      | zero => exact isInDefault_zero _
      | succ position =>
          rw [List.cons_append, isInDefault_cons,
            leadingReference?_of_ne (Ne.symm noColon.1), Option.any_none,
            Bool.false_or]
          exact inductionHypothesis noColon.2 position
            (Nat.lt_of_succ_lt_succ inside)

/-- They move the defaults behind them and change none. -/
theorem isInDefault_append
    (noColon : ':' ∉ run)
    (text : List Char)
    (position : Nat) :
    isInDefault (run ++ text) (run.length + position) =
      isInDefault text position := by
  induction run with
  | nil => rw [List.nil_append, List.length_nil, Nat.zero_add]
  | cons c rest inductionHypothesis =>
      rw [List.mem_cons, not_or] at noColon
      rw [List.cons_append, List.length_cons, Nat.add_right_comm,
        isInDefault_cons, leadingReference?_of_ne (Ne.symm noColon.1),
        Option.any_none, Bool.false_or]
      exact inductionHypothesis noColon.2

theorem withoutDefaults_append
    (noColon : ':' ∉ run)
    (text : List Char) :
    withoutDefaults (run ++ text) = run ++ withoutDefaults text := by
  rw [withoutDefaults, keptChars_append,
    keptChars_eq_self (isInDefault_run noColon text)]
  simp only [isInDefault_append noColon]
  rfl

end Runs

/-- A character that starts no reference with a default is left. -/
theorem withoutDefaults_cons
    {c : Char}
    {text : List Char}
    (uncovered : ∀ distance, (leadingReference? (c :: text)).any
      (·.defaultCovers distance) = false) :
    withoutDefaults (c :: text) = c :: withoutDefaults text := by
  rw [withoutDefaults, keptChars_cons, isInDefault_zero]
  simp only [isInDefault_cons, uncovered, Bool.false_or]
  rfl

theorem withoutDefaults_cons_of_unled
    {c : Char}
    {text : List Char}
    (unled : leadingReference? (c :: text) = none) :
    withoutDefaults (c :: text) = c :: withoutDefaults text := by
  apply withoutDefaults_cons
  rw [unled]
  exact fun _ => rfl

theorem withoutDefaults_named
    {name value : String}
    {text : List Char}
    (noColon : ':' ∉ name.toList ++ '=' :: value.toList)
    (led : leadingReference?
      (':' :: (name.toList ++ '=' :: value.toList ++ text)) =
        some ⟨name, some value⟩) :
    withoutDefaults (':' :: (name.toList ++ '=' :: value.toList ++ text)) =
      ':' :: (name.toList ++ withoutDefaults text) := by
  let erased (position : Nat) : Bool :=
    isInDefault (':' :: (name.toList ++ '=' :: value.toList ++ text))
      (position + 1)
  have covers (position : Nat) : erased position =
      ((decide (name.length ≤ position) &&
          decide (position ≤ name.length + value.length)) ||
        isInDefault (name.toList ++ '=' :: value.toList ++ text)
          position) := by
    change isInDefault _ (position + 1) = _
    rw [isInDefault_cons, led, Option.any_some, TokenRef.defaultCovers]
    simp only [Nat.lt_succ_iff, Nat.add_right_comm _ 1,
      Nat.add_le_add_iff_right]
  have width : (name.toList ++ '=' :: value.toList).length =
      name.length + value.length + 1 := by
    simp [String.length_toList, Nat.add_assoc]
  have inName : ∀ position < name.toList.length,
      erased position = false := by
    intro position inside
    rw [String.length_toList] at inside
    rw [covers, isInDefault_run noColon text position (by omega),
      decide_eq_false (by omega)]
    rfl
  have inValue : ∀ position < ('=' :: value.toList).length,
      erased (name.toList.length + position) = true := by
    intro position inside
    rw [List.length_cons, String.length_toList] at inside
    rw [covers, String.length_toList, decide_eq_true (by omega),
      decide_eq_true (by omega)]
    rfl
  have behind (position : Nat) :
      erased ((name.toList ++ '=' :: value.toList).length + position) =
        isInDefault text position := by
    have beyond : ¬name.length + value.length + 1 + position ≤
        name.length + value.length := by
      omega
    rw [covers, isInDefault_append noColon, width, decide_eq_false beyond,
      Bool.and_false, Bool.false_or]
  rw [withoutDefaults, keptChars_cons, isInDefault_zero]
  change ':' :: keptChars erased _ = _
  rw [keptChars_append, keptChars_append, keptChars_eq_self inName,
    keptChars_eq_nil inValue, List.append_nil]
  simp only [behind]
  rfl

/-- Of a reference, the default is deleted. -/
theorem withoutDefaults_reference
    {ref : TokenRef}
    {text : List Char}
    (writable : ref.IsWritable)
    (led : leadingReference? ((Piece.token ref).chars ++ text) = some ref) :
    withoutDefaults ((Piece.token ref).chars ++ text) =
      (Piece.token ref.bare).chars ++ withoutDefaults text := by
  obtain ⟨run, chars, plain⟩ := Piece.isPlain_of_isWritable writable
  have noColon : ':' ∉ run := fun colon => (plain ':' colon).1 rfl
  rcases ref with ⟨name, _ | value⟩
  · cases chars
    change ':' ∉ name.toList ++ [] at noColon
    change withoutDefaults (':' :: (name.toList ++ [] ++ text)) =
      ':' :: (name.toList ++ [] ++ withoutDefaults text)
    rw [withoutDefaults_cons, withoutDefaults_append noColon]
    intro distance
    change (leadingReference? ((Piece.token ⟨name, none⟩).chars ++ text)).any
      _ = false
    rw [led]
    rfl
  · cases chars
    change _ = ':' :: (name.toList ++ [] ++ withoutDefaults text)
    rw [List.append_nil]
    exact withoutDefaults_named noColon led

/-- Deleting the defaults of a text deletes those of its pieces and changes
nothing else. -/
theorem withoutDefaults_eq_flatMap (text : List Char) :
    withoutDefaults text =
      ((Piece.ofChars text).map Piece.bare).flatMap Piece.chars := by
  fun_induction Piece.ofChars text with
  | case1 => rfl
  | case2 rest inductionHypothesis
  | case3 rest inductionHypothesis =>
      rw [withoutDefaults_cons_of_unled (leadingReference?_of_ne (by decide) _),
        inductionHypothesis]
      rfl
  | case4 rest name unnamed inductionHypothesis =>
      rw [withoutDefaults_cons_of_unled
        (leadingReference?_of_unnamed (List.isEmpty_iff.mp unnamed)),
        inductionHypothesis]
      rfl
  | case5 rest name named behind default? inductionHypothesis =>
      have nonempty : Piece.leadingName rest ≠ [] :=
        fun unnamed => named (List.isEmpty_iff.mpr unnamed)
      obtain ⟨same, writable, _⟩ := Piece.reference_ofChars nonempty
        (rfl : behind = _) (rfl : default? = _)
      have led := leadingReference?_of_named nonempty
      rw [← same] at led
      rw [← same, withoutDefaults_reference writable led, inductionHypothesis]
      rfl
  | case6 c rest noOpening noClosing noColon inductionHypothesis =>
      rw [withoutDefaults_cons_of_unled (leadingReference?_of_ne noColon rest),
        inductionHypothesis]
      rfl

end Pattern

namespace Piece

/-! ## Reading what is left -/

/-- A piece and the same piece without a default start with the same
character. -/
theorem exists_chars_eq (piece : Piece) :
    ∃ c text other,
      piece.chars = c :: text ∧ piece.bare.chars = c :: other := by
  cases piece with
  | char c => exact ⟨c, [], [], rfl, rfl⟩
  | token ref => exact ⟨':', _, _, rfl, rfl⟩
  | opening => exact ⟨'(', [], [], rfl, rfl⟩
  | closing => exact ⟨')', [], [], rfl, rfl⟩

theorem head?_flatMap_bare (pieces : List Piece) :
    ((pieces.map bare).flatMap chars).head? = (pieces.flatMap chars).head? := by
  cases pieces with
  | nil => rfl
  | cons piece rest =>
      obtain ⟨c, text, other, isPiece, isBare⟩ := exists_chars_eq piece
      rw [List.map_cons, List.flatMap_cons, List.flatMap_cons, isPiece, isBare]
      rfl

/-- A piece that stands before a text stands there without its default: what
ends a default ends a name as well. -/
theorem StandsBefore.bare
    {piece : Piece}
    {behind other : List Char}
    (stands : piece.StandsBefore behind)
    (same : other.head? = behind.head?) :
    piece.bare.StandsBefore other := by
  cases piece with
  | char c =>
      obtain ⟨noOpening, noClosing, unnamed⟩ := stands
      exact ⟨noOpening, noClosing, by rwa [same]⟩
  | token ref =>
      obtain ⟨writable, ends⟩ := stands
      refine ⟨⟨writable.name, nofun⟩, fun c first => ?_⟩
      rw [same] at first
      have stops := ends c first
      rcases ref with ⟨name, _ | value⟩
      · exact stops
      · rcases Pattern.isDefaultChar_eq_false_iff.mp stops with
          rfl | rfl | rfl | rfl <;> exact ⟨by decide, by decide⟩
  | opening => trivial
  | closing => trivial

theorem AreSpelled.bare
    {pieces : List Piece}
    (spelled : AreSpelled [] pieces) :
    AreSpelled [] (pieces.map Piece.bare) := by
  induction pieces with
  | nil => trivial
  | cons piece rest inductionHypothesis =>
      obtain ⟨here, behind⟩ := spelled
      refine ⟨here.bare ?_, inductionHypothesis behind⟩
      rw [List.append_nil, List.append_nil]
      exact head?_flatMap_bare rest

/-- Without its defaults, a text is read as the same pieces without defaults. -/
theorem ofChars_withoutDefaults (text : List Char) :
    ofChars (Pattern.withoutDefaults text) = (ofChars text).map bare := by
  rw [Pattern.withoutDefaults_eq_flatMap]
  exact ofChars_flatMap_chars (areSpelled_ofChars text).2.bare

/-- Defaults are no fault, and deleting them makes none. -/
theorem fault?_bare_eq_none_iff
    {position other depth : Nat}
    {seen : List String}
    {pieces : List Piece} :
    fault? other depth seen (pieces.map bare) = none ↔
      fault? position depth seen pieces = none := by
  induction pieces generalizing position other depth seen with
  | nil => rfl
  | cons piece rest inductionHypothesis =>
      cases piece with
      | char c => exact inductionHypothesis
      | opening => exact inductionHypothesis
      | closing =>
          cases depth with
          | zero =>
              exact iff_of_false (Option.some_ne_none _)
                (Option.some_ne_none _)
          | succ depth => exact inductionHypothesis
      | token ref =>
          change fault? other depth seen (token ref.bare :: _) = none ↔ _
          rw [fault?, fault?]
          change (if ref.name ∈ seen then _ else _) = none ↔ _
          split
          · exact iff_of_false (Option.some_ne_none _) (Option.some_ne_none _)
          · exact inductionHypothesis

theorem bare_consChar (c : Char) (row : Pattern) :
    (row.consChar c).bare = row.bare.consChar c := by
  cases row <;> rfl

/-- Pieces without defaults are assembled to the same rows without defaults. -/
theorem assemble_bare (pieces : List Piece) :
    assemble (pieces.map bare) =
      ((assemble pieces).1.bare, (assemble pieces).2.map Pattern.bare) := by
  induction pieces with
  | nil => rfl
  | cons piece rest inductionHypothesis =>
      cases piece with
      | char c =>
          change assemble (char c :: rest.map bare) = _
          rw [assemble, assemble, inductionHypothesis, bare_consChar]
      | token ref =>
          change assemble (token ref.bare :: rest.map bare) = _
          rw [assemble, assemble, inductionHypothesis]
          rfl
      | closing =>
          change assemble (closing :: rest.map bare) = _
          rw [assemble, assemble, inductionHypothesis]
          rfl
      | opening =>
          change assemble (opening :: rest.map bare) = _
          rw [assemble, assemble, inductionHypothesis]
          rcases assemble rest with ⟨row, _ | ⟨next, outer⟩⟩ <;> rfl

end Piece

namespace Pattern

/-- A text without its defaults stands for a tree if the text does, and then for
the same tree without defaults. -/
theorem parse_withoutDefaults_eq_ok_iff {pattern : String} {row : Pattern} :
    parse (String.ofList (withoutDefaults pattern.toList)) = .ok row ↔
      ∃ tree, parse pattern = .ok tree ∧ tree.bare = row := by
  have same : Piece.fault? 0 0 []
      ((Piece.ofChars pattern.toList).map Piece.bare) = none ↔
        Piece.fault? 0 0 [] (Piece.ofChars pattern.toList) = none :=
    Piece.fault?_bare_eq_none_iff
  rw [parse, parse, String.toList_ofList, Piece.ofChars_withoutDefaults,
    Piece.assemble_bare]
  cases correct : Piece.fault? 0 0 [] (Piece.ofChars pattern.toList) with
  | none =>
      rw [same.mpr correct]
      constructor
      · rintro ⟨⟩
        exact ⟨_, rfl, rfl⟩
      · rintro ⟨tree, ⟨⟩, rfl⟩
        rfl
  | some fault =>
      cases kept : Piece.fault? 0 0 []
          ((Piece.ofChars pattern.toList).map Piece.bare) with
      | none => cases correct.symm.trans (same.mp kept)
      | some other =>
          constructor
          · rintro ⟨⟩
          · rintro ⟨tree, ⟨⟩, _⟩

theorem tokens_bare (tree : Pattern) :
    tree.bare.tokens = tree.tokens.map TokenRef.bare := by
  induction tree with
  | nil => rfl
  | literal text rest inductionHypothesis => exact inductionHypothesis
  | token ref rest inductionHypothesis =>
      exact congrArg (ref.bare :: ·) inductionHypothesis
  | group inner rest innerHypothesis restHypothesis =>
      rw [bare, tokens, tokens, innerHypothesis, restHypothesis,
        List.map_append]

theorem defaults_bare (tree : Pattern) : tree.bare.defaults = [] := by
  rw [defaults, tokens_bare, List.filterMap_map]
  exact List.filterMap_eq_nil_iff.mpr fun ref _ => rfl

end Pattern
end PathRouter
