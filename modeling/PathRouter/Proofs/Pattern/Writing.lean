import PathRouter.Compiler
import PathRouter.Proofs.Pattern.Spelling
import PathRouter.Result

/-!
# Writing patterns

A pattern is written as the texts of its nodes, one after another.  Writing and
reading are inverse to each other between the texts that stand for patterns and
the canonical patterns: those in which every node ends where it does in the
written text.

## Main definitions

* `Pattern.written`: the text of a pattern.
* `Pattern.IsCanonical`: the patterns that texts stand for.

## Main statements

* `parsePattern_eq_ok_iff`: a text stands for exactly one pattern, the canonical
  one that is written as this text.
-/

namespace PathRouter

/-- The text of a reference: its name behind a colon, and its default, if there
is one, behind an equals sign. -/
def TokenRef.written (token : TokenRef) : String :=
  match token.default? with
  | none => ":" ++ token.name
  | some value => ":" ++ token.name ++ "=" ++ value

namespace Pattern

/-- The text of a pattern: its literal texts, its references, and its groups in
brackets. -/
def written : Pattern → String
  | nil => ""
  | literal text rest => text ++ rest.written
  | token ref rest => ref.written ++ rest.written
  | group inner rest => "(" ++ inner.written ++ ")" ++ rest.written

/-! ## Canonical patterns -/

/-- The literal text that comes first, if one does. -/
def leadingText? : Pattern → Option String
  | literal text _ => some text
  | _ => none

/-- A text that is a literal by itself: it is not empty, and neither brackets
nor references are in it. -/
structure IsLiteralText (text : String) : Prop where
  /-- There is something in it. -/
  nonempty : text ≠ ""
  /-- No group opens in it. -/
  noOpening : '(' ∉ text.toList
  /-- No group closes in it. -/
  noClosing : ')' ∉ text.toList
  /-- No colon in it is followed by the start of a name. -/
  noReference : ∀ c, isNameStart c = true → ¬[':', c] <:+: text.toList

/-- A literal text may come right behind a reference: it does not start with
what the name or the default would go on with. -/
def MayFollow (ref : TokenRef) (text : String) : Prop :=
  ∀ c ∈ text.toList.head?,
    match ref.default? with
    | none => isNameChar c = false ∧ c ≠ '='
    | some _ => c = '/' ∨ c = ':'

/-- Every node is one that is read from a text, and no literal comes right
behind another one. -/
def HasCanonicalNodes : Pattern → Prop
  | nil => True
  | literal text rest =>
      IsLiteralText text ∧ rest.leadingText? = none ∧ rest.HasCanonicalNodes
  | token ref rest =>
      ref.IsWritable ∧ (∀ text ∈ rest.leadingText?, MayFollow ref text) ∧
        rest.HasCanonicalNodes
  | group inner rest => inner.HasCanonicalNodes ∧ rest.HasCanonicalNodes

/-- A pattern that a text stands for. -/
structure IsCanonical (tree : Pattern) : Prop where
  /-- Every node is one that is read from a text. -/
  nodes : tree.HasCanonicalNodes
  /-- No two tokens have the same name. -/
  distinct : (tree.tokens.map TokenRef.name).Nodup

/-! ## Pieces of patterns -/

/-- The pieces of a pattern, in the order in which they are written. -/
def pieces : Pattern → List Piece
  | nil => []
  | literal text rest => text.toList.map Piece.char ++ rest.pieces
  | token ref rest => .token ref :: rest.pieces
  | group inner rest =>
      .opening :: (inner.pieces ++ .closing :: rest.pieces)

theorem flatMap_chars_char (text : List Char) :
    (text.map Piece.char).flatMap Piece.chars = text := by
  rw [List.flatMap_map]
  exact List.flatMap_singleton' text

theorem toList_written_token (ref : TokenRef) :
    ref.written.toList = (Piece.token ref).chars := by
  rcases ref with ⟨name, _ | value⟩
  · simp [TokenRef.written, Piece.chars]
  · simp [TokenRef.written, Piece.chars]

/-- A pattern is written as its pieces are. -/
theorem toList_written (tree : Pattern) :
    tree.written.toList = tree.pieces.flatMap Piece.chars := by
  induction tree with
  | nil => rfl
  | literal text rest inductionHypothesis =>
      rw [written, pieces, String.toList_append, inductionHypothesis,
        List.flatMap_append, flatMap_chars_char]
  | token ref rest inductionHypothesis =>
      rw [written, pieces, String.toList_append, inductionHypothesis,
        toList_written_token, List.flatMap_cons]
  | group inner rest innerHypothesis restHypothesis =>
      rw [written, pieces, String.toList_append, String.toList_append,
        String.toList_append, innerHypothesis, restHypothesis,
        List.flatMap_cons, List.flatMap_append, List.flatMap_cons]
      simp [Piece.chars]

/-! ## Canonical patterns are spelled out -/

/-- No literal is empty, and none comes right behind another one. -/
def IsMerged : Pattern → Prop
  | nil => True
  | literal text rest => text ≠ "" ∧ rest.leadingText? = none ∧ rest.IsMerged
  | token _ rest => rest.IsMerged
  | group inner rest => inner.IsMerged ∧ rest.IsMerged

/-- The characters of a literal are spelled out if no brackets and no
references are among them. -/
theorem areSpelled_char_iff
    {text behind : List Char}
    (stops : ∀ c ∈ behind.head?, isNameStart c = false) :
    Piece.AreSpelled behind (text.map Piece.char) ↔
      '(' ∉ text ∧ ')' ∉ text ∧
        ∀ c, isNameStart c = true → ¬[':', c] <:+: text := by
  induction text with
  | nil => simp [Piece.AreSpelled]
  | cons c rest inductionHypothesis =>
      have next : (c = ':' → ∀ d ∈ (rest ++ behind).head?,
          isNameStart d = false) ↔
            ∀ d, isNameStart d = true → ¬[':', d] <+: c :: rest := by
        cases rest with
        | nil =>
            refine ⟨fun _ d _ begun => ?_, fun _ _ => stops⟩
            exact absurd begun.length_le (by simp)
        | cons e rest =>
            simp only [List.cons_append, List.head?_cons, Option.mem_some_iff,
              List.cons_prefix_cons, List.nil_prefix, and_true, not_and,
              forall_eq']
            constructor
            · rintro unnamed d starts rfl rfl
              exact absurd starts (Bool.eq_false_iff.mp (unnamed rfl))
            · rintro unnamed rfl
              exact Bool.eq_false_iff.mpr fun starts =>
                unnamed e starts rfl rfl
      rw [List.map_cons, Piece.AreSpelled, inductionHypothesis,
        Piece.StandsBefore, flatMap_chars_char, next]
      simp only [List.mem_cons, not_or, List.infix_cons_iff]
      constructor
      · rintro ⟨⟨noOpening, noClosing, here⟩, opening, closing, behind⟩
        exact ⟨⟨Ne.symm noOpening, opening⟩, ⟨Ne.symm noClosing, closing⟩,
          fun d starts => ⟨here d starts, behind d starts⟩⟩
      · rintro ⟨⟨noOpening, opening⟩, ⟨noClosing, closing⟩, all⟩
        exact ⟨⟨Ne.symm noOpening, Ne.symm noClosing,
          fun d starts => (all d starts).1⟩, opening, closing,
          fun d starts => (all d starts).2⟩

/-- A row without a literal in front starts with a colon or a bracket, if
nothing or a closing bracket is behind it. -/
theorem head?_of_leadingText?_eq_none
    {row : Pattern}
    {behind : List Char}
    (unled : row.leadingText? = none)
    (closed : ∀ c ∈ behind.head?, c = ')') :
    ∀ c ∈ (row.pieces.flatMap Piece.chars ++ behind).head?,
      c = ':' ∨ c = '(' ∨ c = ')' := by
  intro c first
  cases row with
  | nil => exact .inr (.inr (closed c first))
  | literal text rest => cases unled
  | token ref rest =>
      cases first
      exact .inl rfl
  | group inner rest =>
      cases first
      exact .inr (.inl rfl)

theorem isDefaultChar_eq_false_iff {c : Char} :
    isDefaultChar c = false ↔ c = '/' ∨ c = '(' ∨ c = ')' ∨ c = ':' := by
  rw [isDefaultChar]
  simp only [Bool.and_eq_false_iff, bne_eq_false_iff_eq, or_assoc]

/-- A literal may follow a reference exactly if the reference ends before it. -/
theorem mayFollow_iff
    {ref : TokenRef}
    {text : String}
    (behind : List Char)
    (isText : IsLiteralText text) :
    MayFollow ref text ↔ ref.EndsBefore (text.toList ++ behind) := by
  obtain ⟨c, rest, equal⟩ : ∃ c rest, text.toList = c :: rest := by
    cases equal : text.toList with
    | nil => exact absurd (String.toList_eq_nil_iff.mp equal) isText.nonempty
    | cons c rest => exact ⟨c, rest, rfl⟩
  have noOpening := isText.noOpening
  have noClosing := isText.noClosing
  rw [equal, List.mem_cons, not_or] at noOpening noClosing
  rw [MayFollow, TokenRef.EndsBefore, equal]
  cases ref.default? with
  | none => rfl
  | some value =>
      have same : c = '/' ∨ c = ':' ↔ isDefaultChar c = false := by
        rw [isDefaultChar_eq_false_iff]
        simp [Ne.symm noOpening.1, Ne.symm noClosing.1]
      simpa using same

/-- A reference ends before what is not a literal. -/
theorem endsBefore_of_leadingText?_eq_none
    {ref : TokenRef}
    {row : Pattern}
    {behind : List Char}
    (unled : row.leadingText? = none)
    (closed : ∀ c ∈ behind.head?, c = ')') :
    ref.EndsBefore (row.pieces.flatMap Piece.chars ++ behind) := by
  intro c first
  have starts := head?_of_leadingText?_eq_none unled closed c first
  cases ref.default? with
  | none => rcases starts with rfl | rfl | rfl <;> decide
  | some value =>
      rcases starts with rfl | rfl | rfl <;>
        exact isDefaultChar_eq_false_iff.mpr (by decide)

/-- The nodes of a pattern are canonical exactly if its literals are merged and
its pieces are spelled out. -/
theorem hasCanonicalNodes_iff
    {tree : Pattern}
    {behind : List Char}
    (closed : ∀ c ∈ behind.head?, c = ')') :
    tree.HasCanonicalNodes ↔
      tree.IsMerged ∧ Piece.AreSpelled behind tree.pieces := by
  induction tree generalizing behind with
  | nil => simp [HasCanonicalNodes, IsMerged, pieces, Piece.AreSpelled]
  | literal text rest inductionHypothesis =>
      rw [HasCanonicalNodes, IsMerged, pieces, Piece.areSpelled_append_iff,
        inductionHypothesis closed]
      have spelled (unled : rest.leadingText? = none) :
          Piece.AreSpelled (rest.pieces.flatMap Piece.chars ++ behind)
            (text.toList.map Piece.char) ↔ _ :=
        areSpelled_char_iff fun c first => by
          rcases head?_of_leadingText?_eq_none unled closed c first with
            rfl | rfl | rfl <;> decide
      constructor
      · rintro ⟨isText, unled, merged, restSpelled⟩
        exact ⟨⟨isText.nonempty, unled, merged⟩, (spelled unled).mpr
          ⟨isText.noOpening, isText.noClosing, isText.noReference⟩, restSpelled⟩
      · rintro ⟨⟨nonempty, unled, merged⟩, here, restSpelled⟩
        obtain ⟨noOpening, noClosing, noReference⟩ := (spelled unled).mp here
        exact ⟨⟨nonempty, noOpening, noClosing, noReference⟩, unled, merged,
          restSpelled⟩
  | token ref rest inductionHypothesis =>
      rw [HasCanonicalNodes, IsMerged, pieces, Piece.AreSpelled,
        Piece.StandsBefore, inductionHypothesis closed]
      have ends (canonical : rest.HasCanonicalNodes) :
          (∀ text ∈ rest.leadingText?, MayFollow ref text) ↔
            ref.EndsBefore (rest.pieces.flatMap Piece.chars ++ behind) := by
        cases rest with
        | literal text rest =>
            rw [pieces, List.flatMap_append, flatMap_chars_char,
              List.append_assoc, ← mayFollow_iff _ canonical.1]
            simp [leadingText?]
        | nil | token _ _ | group _ _ =>
            constructor
            · intro _
              exact endsBefore_of_leadingText?_eq_none rfl closed
            · intro _ text first
              cases first
      constructor
      · rintro ⟨writable, follows, merged, spelled⟩
        have canonical := (inductionHypothesis closed).mpr ⟨merged, spelled⟩
        exact ⟨merged, ⟨writable, (ends canonical).mp follows⟩, spelled⟩
      · rintro ⟨merged, ⟨writable, stops⟩, spelled⟩
        have canonical := (inductionHypothesis closed).mpr ⟨merged, spelled⟩
        exact ⟨writable, (ends canonical).mpr stops, merged, spelled⟩
  | group inner rest innerHypothesis restHypothesis =>
      have inside := @innerHypothesis
        ((Piece.closing :: rest.pieces).flatMap Piece.chars ++ behind)
        fun c first => by cases first; rfl
      rw [HasCanonicalNodes, IsMerged, pieces, Piece.AreSpelled,
        Piece.areSpelled_append_iff, Piece.AreSpelled, inside,
        restHypothesis closed]
      simp only [Piece.StandsBefore, true_and]
      constructor
      · rintro ⟨⟨innerMerged, innerSpelled⟩, restMerged, restSpelled⟩
        exact ⟨⟨innerMerged, restMerged⟩, innerSpelled, restSpelled⟩
      · rintro ⟨⟨innerMerged, restMerged⟩, innerSpelled, restSpelled⟩
        exact ⟨⟨innerMerged, innerSpelled⟩, restMerged, restSpelled⟩

/-! ## Assembling -/

theorem pieces_consChar (c : Char) (row : Pattern) :
    (row.consChar c).pieces = .char c :: row.pieces := by
  cases row with
  | literal text rest =>
      rw [consChar, pieces, String.toList_ofList]
      rfl
  | nil | token _ _ | group _ _ =>
      change (String.ofList [c]).toList.map Piece.char ++ _ = _
      rw [String.toList_ofList]
      rfl

theorem isMerged_consChar
    {row : Pattern}
    (merged : row.IsMerged)
    (c : Char) :
    (row.consChar c).IsMerged := by
  have nonempty (text : List Char) : String.ofList (c :: text) ≠ "" := by
    intro equal
    have chars := congrArg String.toList equal
    rw [String.toList_ofList] at chars
    cases chars
  cases row with
  | literal text rest => exact ⟨nonempty _, merged.2⟩
  | nil | token _ _ | group _ _ => exact ⟨nonempty [], rfl, merged⟩

/-- Pieces without a fault are the pieces of the rows that are assembled from
them, in order. -/
theorem pieces_assemble
    {position depth : Nat}
    {seen : List String}
    {row : List Piece}
    (correct : Piece.fault? position depth seen row = none) :
    (Piece.assemble row).2.length = depth ∧
      row = (Piece.assemble row).1.pieces ++
        (Piece.assemble row).2.flatMap (.closing :: pieces ·) := by
  induction row generalizing position depth seen with
  | nil =>
      rw [Piece.fault?] at correct
      split at correct
      · rename_i zero
        exact ⟨zero.symm, rfl⟩
      · cases correct
  | cons piece rest inductionHypothesis =>
      cases piece with
      | char c =>
          obtain ⟨depths, split⟩ := inductionHypothesis correct
          refine ⟨depths, ?_⟩
          rw [Piece.assemble, pieces_consChar, List.cons_append, ← split]
      | token ref =>
          rw [Piece.fault?] at correct
          split at correct
          · cases correct
          · obtain ⟨depths, split⟩ := inductionHypothesis correct
            exact ⟨depths, congrArg (Piece.token ref :: ·) split⟩
      | closing =>
          cases depth with
          | zero => cases correct
          | succ depth =>
              obtain ⟨depths, split⟩ := inductionHypothesis correct
              exact ⟨congrArg Nat.succ depths,
                congrArg (Piece.closing :: ·) split⟩
      | opening =>
          obtain ⟨depths, split⟩ := inductionHypothesis correct
          rw [Piece.assemble]
          rcases assembled : Piece.assemble rest with ⟨row, _ | ⟨next, outer⟩⟩
          · rw [assembled] at depths
            cases depths
          · rw [assembled] at depths split
            refine ⟨Nat.succ.inj depths, ?_⟩
            rw [pieces, split]
            simp

/-- Assembling merges characters. -/
theorem isMerged_assemble (row : List Piece) :
    (Piece.assemble row).1.IsMerged ∧
      ∀ outer ∈ (Piece.assemble row).2, outer.IsMerged := by
  induction row with
  | nil => exact ⟨trivial, List.forall_mem_nil _⟩
  | cons piece rest inductionHypothesis =>
      obtain ⟨here, outside⟩ := inductionHypothesis
      cases piece with
      | char c => exact ⟨isMerged_consChar here c, outside⟩
      | token ref => exact ⟨here, outside⟩
      | closing => exact ⟨trivial, List.forall_mem_cons.mpr ⟨here, outside⟩⟩
      | opening =>
          rw [Piece.assemble]
          rcases assembled : Piece.assemble rest with ⟨row, _ | ⟨next, outer⟩⟩
          · rw [assembled] at here
            exact ⟨here, List.forall_mem_nil _⟩
          · rw [assembled] at here outside
            obtain ⟨nextMerged, others⟩ := List.forall_mem_cons.mp outside
            exact ⟨⟨here, nextMerged⟩, others⟩

/-- Characters before a row without a literal in front become its literal. -/
theorem assemble_chars
    {text : List Char}
    {behind : List Piece}
    {row : Pattern}
    {outer : List Pattern}
    (nonempty : text ≠ [])
    (assembled : Piece.assemble behind = (row, outer))
    (unled : row.leadingText? = none) :
    Piece.assemble (text.map Piece.char ++ behind) =
      (.literal (String.ofList text) row, outer) := by
  induction text with
  | nil => exact absurd rfl nonempty
  | cons c rest inductionHypothesis =>
      rw [List.map_cons, List.cons_append, Piece.assemble]
      cases rest with
      | nil =>
          rw [List.map_nil, List.nil_append, assembled]
          cases row with
          | literal text rest => cases unled
          | nil | token _ _ | group _ _ => rfl
      | cons d rest =>
          rw [inductionHypothesis (List.cons_ne_nil d rest)]
          simp only [consChar, String.toList_ofList]

/-- The pieces of a pattern with merged literals are assembled to it. -/
theorem assemble_pieces
    {tree : Pattern}
    {behind : List Piece}
    {outer : List Pattern}
    (merged : tree.IsMerged)
    (assembled : Piece.assemble behind = (.nil, outer)) :
    Piece.assemble (tree.pieces ++ behind) = (tree, outer) := by
  induction tree generalizing behind outer with
  | nil => exact assembled
  | literal text rest inductionHypothesis =>
      obtain ⟨nonempty, unled, restMerged⟩ := merged
      have rested := inductionHypothesis restMerged assembled
      have chars : text.toList ≠ [] :=
        fun empty => nonempty (String.toList_eq_nil_iff.mp empty)
      rw [pieces, List.append_assoc, assemble_chars chars rested unled,
        String.ofList_toList]
  | token ref rest inductionHypothesis =>
      rw [pieces, List.cons_append, Piece.assemble,
        inductionHypothesis merged assembled]
  | group inner rest innerHypothesis restHypothesis =>
      have closing : Piece.assemble (.closing :: (rest.pieces ++ behind)) =
          (.nil, rest :: outer) := by
        rw [Piece.assemble, restHypothesis merged.2 assembled]
      rw [pieces, List.cons_append, List.append_assoc, List.cons_append,
        Piece.assemble, innerHypothesis merged.1 closing]

/-- A pattern whose tokens are new and distinct has no fault in its pieces, and
its tokens are known behind it. -/
theorem fault?_pieces
    {tree : Pattern}
    {position depth : Nat}
    {seen : List String}
    (distinct : ((tree.tokens.map TokenRef.name).reverse ++ seen).Nodup)
    (behind : List Piece) :
    ∃ next, Piece.fault? position depth seen (tree.pieces ++ behind) =
      Piece.fault? next depth
        ((tree.tokens.map TokenRef.name).reverse ++ seen) behind := by
  induction tree generalizing position depth seen behind with
  | nil => exact ⟨position, rfl⟩
  | literal text rest inductionHypothesis =>
      rw [pieces, List.append_assoc]
      generalize text.toList = chars
      induction chars generalizing position with
      | nil => exact inductionHypothesis distinct behind
      | cons c chars charsHypothesis => exact charsHypothesis
  | token ref rest inductionHypothesis =>
      rw [tokens, List.map_cons, List.reverse_cons, List.append_assoc]
        at distinct ⊢
      have new : ref.name ∉ seen :=
        (List.nodup_cons.mp (List.nodup_append.mp distinct).2.1).1
      rw [pieces, List.cons_append, Piece.fault?, if_neg new]
      exact inductionHypothesis distinct behind
  | group inner rest innerHypothesis restHypothesis =>
      rw [tokens, List.map_append, List.reverse_append, List.append_assoc]
        at distinct ⊢
      obtain ⟨middle, inside⟩ := @innerHypothesis (position + 1) (depth + 1)
        seen (List.nodup_append.mp distinct).2.1
        (.closing :: (rest.pieces ++ behind))
      obtain ⟨next, after⟩ := @restHypothesis (middle + 1) depth _ distinct
        behind
      refine ⟨next, ?_⟩
      rw [pieces, List.cons_append, List.append_assoc, List.cons_append]
      exact inside.trans after

end Pattern

/-! ## Reading and writing -/

/-- A text stands for a pattern exactly if the pattern is canonical and is
written as this text. -/
theorem parsePattern_eq_ok_iff (pattern : String) (tree : Pattern) :
    parsePattern pattern = .ok tree ↔
      tree.IsCanonical ∧ tree.written = pattern := by
  have nodes {tree : Pattern} : tree.HasCanonicalNodes ↔
      tree.IsMerged ∧ Piece.AreSpelled [] tree.pieces :=
    Pattern.hasCanonicalNodes_iff nofun
  rw [parsePattern, mapError_eq_ok_iff]
  constructor
  · intro parsed
    have distinct := Pattern.nodup_of_parse parsed
    rw [Pattern.parse] at parsed
    split at parsed
    · cases parsed
    · rename_i correct
      obtain ⟨closed, split⟩ := Pattern.pieces_assemble correct
      have alone := List.length_eq_zero_iff.mp closed
      have merged := (Pattern.isMerged_assemble
        (Piece.ofChars pattern.toList)).1
      cases parsed
      rw [alone, List.flatMap_nil, List.append_nil] at split
      obtain ⟨same, spelled⟩ := Piece.areSpelled_ofChars pattern.toList
      refine ⟨⟨nodes.mpr ⟨merged, ?_⟩, distinct⟩, ?_⟩
      · rw [← split]
        exact spelled
      · apply String.toList_inj.mp
        rw [Pattern.toList_written, ← split, same]
  · rintro ⟨⟨canonical, distinct⟩, rfl⟩
    obtain ⟨merged, spelled⟩ := nodes.mp canonical
    have known : ((tree.tokens.map TokenRef.name).reverse ++ []).Nodup := by
      rw [List.append_nil]
      exact (List.reverse_perm _).nodup_iff.mpr distinct
    obtain ⟨next, correct⟩ := @Pattern.fault?_pieces tree 0 0 [] known []
    have assembled := Pattern.assemble_pieces merged
      (rfl : Piece.assemble [] = (.nil, []))
    rw [List.append_nil] at correct assembled
    have none : Piece.fault? 0 0 [] tree.pieces = none := correct
    rw [Pattern.parse, Pattern.toList_written,
      Piece.ofChars_flatMap_chars spelled, none, assembled]

end PathRouter
