import PathRouter.Proofs.Pattern.Tokens

/-!
# Spelling pieces

The text of a row of pieces is read back as that row if every piece ends where
it does in the row: what stands behind a piece must not go on with it.  The
pieces of a text always end in this way, so that texts and such rows stand for
each other.

## Main definitions

* `TokenRef.EndsBefore`: a reference ends before a text.
* `Piece.StandsBefore`: a piece is read back from the front of a text.
* `Piece.AreSpelled`: every piece of a row is.

## Main statements

* `Piece.ofChars_flatMap_chars`: such a row is read back from its text.
* `Piece.areSpelled_ofChars`: the pieces of a text are such a row, and hold its
  characters.
-/

namespace PathRouter

/-- A reference that can be written: its name is the name of a token, and its
default holds nothing that would end it. -/
structure TokenRef.IsWritable (token : TokenRef) : Prop where
  /-- The name is the name of a token. -/
  name : IsTokenName token.name
  /-- No slash, bracket or colon ends the default too early. -/
  default? : ∀ value ∈ token.default?, ∀ c ∈ value.toList,
    isDefaultChar c = true

/-- A text does not go on with the reference before it. -/
def TokenRef.EndsBefore (token : TokenRef) (behind : List Char) : Prop :=
  ∀ c ∈ behind.head?,
    match token.default? with
    | none => isNameChar c = false ∧ c ≠ '='
    | some _ => isDefaultChar c = false

namespace Piece

/-- A piece can be written before a text without being mistaken. -/
def StandsBefore (behind : List Char) : Piece → Prop
  | char c => c ≠ '(' ∧ c ≠ ')' ∧
      (c = ':' → ∀ d ∈ behind.head?, isNameStart d = false)
  | token ref => ref.IsWritable ∧ ref.EndsBefore behind
  | opening | closing => True

/-- Every piece of a row can be written before the pieces behind it and a last
text. -/
def AreSpelled (behind : List Char) : List Piece → Prop
  | [] => True
  | piece :: rest =>
      piece.StandsBefore (rest.flatMap chars ++ behind) ∧
        AreSpelled behind rest

theorem areSpelled_append_iff
    {behind : List Char}
    {first second : List Piece} :
    AreSpelled behind (first ++ second) ↔
      AreSpelled (second.flatMap chars ++ behind) first ∧
        AreSpelled behind second := by
  induction first with
  | nil => exact (iff_of_eq (true_and _)).symm
  | cons piece rest inductionHypothesis =>
      rw [List.cons_append, AreSpelled, AreSpelled, inductionHypothesis,
        List.flatMap_append, List.append_assoc, and_assoc]

/-! ## Longest runs -/

theorem takeWhile_append
    {test : Char → Bool}
    {run behind : List Char}
    (all : ∀ c ∈ run, test c = true)
    (stops : ∀ c ∈ behind.head?, test c = false) :
    (run ++ behind).takeWhile test = run := by
  rw [List.takeWhile_append_of_pos all]
  cases behind with
  | nil => exact List.append_nil run
  | cons c rest =>
      rw [List.takeWhile_cons, stops c rfl, if_neg Bool.false_ne_true,
        List.append_nil]

theorem drop_takeWhile
    (test : Char → Bool)
    (text : List Char) :
    text.drop (text.takeWhile test).length = text.dropWhile test := by
  have whole := List.takeWhile_append_dropWhile (p := test) (l := text)
  exact (congrArg (List.drop _) whole.symm).trans List.drop_left

/-- What is behind a longest run does not go on with it. -/
theorem stops_drop_takeWhile
    (test : Char → Bool)
    (text : List Char) :
    ∀ c ∈ (text.drop (text.takeWhile test).length).head?, test c = false := by
  intro c first
  have stops := List.head?_dropWhile_not test text
  rw [drop_takeWhile] at first
  rw [Option.mem_def.mp first] at stops
  exact stops

theorem leadingName_eq_nil_iff {text : List Char} :
    leadingName text = [] ↔ ∀ c ∈ text.head?, isNameStart c = false := by
  cases text with
  | nil =>
      constructor
      · intro _ c first
        cases first
      · intro _
        rfl
  | cons c rest =>
      rw [leadingName]
      cases starts : isNameStart c with
      | true =>
          constructor
          · intro empty
            cases empty
          · intro stops
            exact absurd starts (Bool.eq_false_iff.mp (stops c rfl))
      | false =>
          refine ⟨fun _ d first => ?_, fun _ => rfl⟩
          cases first
          exact starts

/-- The name of a token is read up to where it ends. -/
theorem leadingName_append
    {name : String}
    {behind : List Char}
    (isName : IsTokenName name)
    (stops : ∀ c ∈ behind.head?, isNameChar c = false) :
    leadingName (name.toList ++ behind) = name.toList := by
  obtain ⟨first, rest, equal, starts, goesOn⟩ := isName
  rw [equal, List.cons_append, leadingName, if_pos starts,
    takeWhile_append goesOn stops]

theorem leadingName_append_drop (text : List Char) :
    leadingName text ++ text.drop (leadingName text).length = text := by
  apply List.prefix_iff_eq_append.mp
  cases text with
  | nil => exact List.prefix_rfl
  | cons c rest =>
      rw [leadingName]
      split
      · exact (List.prefix_cons_inj c).mpr (List.takeWhile_prefix isNameChar)
      · exact List.nil_prefix

/-- A name that is read ends where no more of it follows. -/
theorem stops_drop_leadingName
    {text : List Char}
    (named : leadingName text ≠ []) :
    ∀ c ∈ (text.drop (leadingName text).length).head?,
      isNameChar c = false := by
  cases text with
  | nil => exact absurd rfl named
  | cons c rest =>
      rw [leadingName] at named ⊢
      split at named
      · rename_i starts
        rw [if_pos starts]
        exact stops_drop_takeWhile isNameChar rest
      · exact absurd rfl named

/-! ## Defaults -/

/-- A default is read up to where it ends. -/
theorem leadingDefault?_append
    {value behind : List Char}
    (all : ∀ c ∈ value, isDefaultChar c = true)
    (stops : ∀ c ∈ behind.head?, isDefaultChar c = false) :
    leadingDefault? ('=' :: (value ++ behind)) = some value := by
  rw [leadingDefault?, takeWhile_append all stops]

theorem leadingDefault?_eq_none_iff {text : List Char} :
    leadingDefault? text = none ↔ ∀ c ∈ text.head?, c ≠ '=' := by
  rw [leadingDefault?.eq_def]
  split
  · rename_i rest
    exact ⟨nofun, fun other => absurd rfl (other '=' rfl)⟩
  · rename_i other
    refine ⟨fun _ c first equal => ?_, fun _ => rfl⟩
    obtain ⟨rest, split⟩ := List.head?_eq_some_iff.mp first
    exact other rest (equal ▸ split)

/-- A default that is read holds nothing that would end it, and ends where no
more of it follows. -/
theorem of_leadingDefault?
    {text value : List Char}
    (read : leadingDefault? text = some value) :
    ∃ behind, text = '=' :: (value ++ behind) ∧
      (∀ c ∈ value, isDefaultChar c = true) ∧
      ∀ c ∈ behind.head?, isDefaultChar c = false := by
  rw [leadingDefault?.eq_def] at read
  split at read
  · rename_i rest
    cases read
    have stops := stops_drop_takeWhile isDefaultChar rest
    rw [drop_takeWhile] at stops
    refine ⟨_, ?_, List.all_eq_true.mp List.all_takeWhile, stops⟩
    rw [List.takeWhile_append_dropWhile]
  · cases read

/-! ## Reading back -/

/-- A reference is read back with its default. -/
theorem ofChars_reference
    {ref : TokenRef}
    {behind : List Char}
    (writable : ref.IsWritable)
    (ends : ref.EndsBefore behind) :
    ofChars ((token ref).chars ++ behind) = token ref :: ofChars behind := by
  rcases ref with ⟨name, default?⟩
  have nonempty : name.toList.isEmpty = false := by
    obtain ⟨first, rest, equal, _⟩ := writable.name
    rw [equal, List.isEmpty_cons]
  cases default? with
  | none =>
      have stops : ∀ c ∈ behind.head?, isNameChar c = false :=
        fun c first => (ends c first).1
      have noDefault : leadingDefault? behind = none :=
        leadingDefault?_eq_none_iff.mpr fun c first => (ends c first).2
      have named := leadingName_append writable.name stops
      change ofChars (':' :: ((name.toList ++ []) ++ behind)) = _
      rw [List.append_nil, ofChars.eq_4, named, nonempty,
        if_neg Bool.false_ne_true, List.drop_left]
      dsimp only
      rw [noDefault, Option.map_none, String.ofList_toList]
      rfl
  | some value =>
      have stops : ∀ c ∈ ('=' :: (value.toList ++ behind)).head?,
          isNameChar c = false := by
        intro c first
        cases first
        decide
      have named := leadingName_append writable.name stops
      have valued := leadingDefault?_append (writable.default? value rfl) ends
      change ofChars (':' :: ((name.toList ++ '=' :: value.toList) ++ behind)) =
        _
      rw [List.append_assoc, List.cons_append, ofChars.eq_4, named, nonempty,
        if_neg Bool.false_ne_true, List.drop_left]
      dsimp only
      rw [valued, Option.map_some, String.ofList_toList, String.ofList_toList]
      exact congrArg (token _ :: ofChars ·) List.drop_left

/-- A piece is read back from the front of a text that does not go on with
it. -/
theorem ofChars_chars_append
    {piece : Piece}
    {behind : List Char}
    (stands : piece.StandsBefore behind) :
    ofChars (piece.chars ++ behind) = piece :: ofChars behind := by
  cases piece with
  | char c =>
      obtain ⟨noOpening, noClosing, noReference⟩ := stands
      change ofChars (c :: behind) = _
      by_cases colon : c = ':'
      · have unnamed := leadingName_eq_nil_iff.mpr (noReference colon)
        rw [colon, ofChars.eq_4, unnamed]
        rfl
      · exact ofChars.eq_5 c behind noOpening noClosing colon
  | token ref => exact ofChars_reference stands.1 stands.2
  | opening => exact ofChars.eq_2 behind
  | closing => exact ofChars.eq_3 behind

/-- A row of pieces in which each one ends where it does is read back from its
text. -/
theorem ofChars_flatMap_chars
    {pieces : List Piece}
    (spelled : AreSpelled [] pieces) :
    ofChars (pieces.flatMap chars) = pieces := by
  induction pieces with
  | nil => exact ofChars.eq_1
  | cons piece rest inductionHypothesis =>
      obtain ⟨here, behind⟩ := spelled
      rw [List.append_nil] at here
      rw [List.flatMap_cons, ofChars_chars_append here,
        inductionHypothesis behind]

/-- A colon with a name behind it is read as a reference that holds its
characters up to where it ends. -/
theorem reference_ofChars
    {rest behind : List Char}
    {default? : Option (List Char)}
    (named : leadingName rest ≠ [])
    (isBehind : behind = rest.drop (leadingName rest).length)
    (isDefault : default? = leadingDefault? behind) :
    let ref : TokenRef :=
      ⟨String.ofList (leadingName rest), default?.map String.ofList⟩
    (token ref).chars ++ behind.drop (defaultWidth default?) = ':' :: rest ∧
      ref.IsWritable ∧
      ref.EndsBefore (behind.drop (defaultWidth default?)) := by
  have isName :=
    isTokenName_of_leadingName (List.isEmpty_eq_false_iff.mpr named)
  have stops := stops_drop_leadingName named
  have whole := leadingName_append_drop rest
  rw [← isBehind] at stops whole
  cases default? with
  | none =>
      have noDefault := leadingDefault?_eq_none_iff.mp isDefault.symm
      refine ⟨?_, ⟨isName, nofun⟩, fun c first => ⟨stops c first, ?_⟩⟩
      · change ':' :: (((String.ofList (leadingName rest)).toList ++ []) ++
          behind) = _
        rw [String.toList_ofList, List.append_nil, whole]
      · exact noDefault c first
  | some value =>
      obtain ⟨last, split, all, ends⟩ := of_leadingDefault? isDefault.symm
      have left : behind.drop (defaultWidth (some value)) = last := by
        rw [split]
        exact List.drop_left
      rw [left]
      refine ⟨?_, ⟨isName, ?_⟩, ends⟩
      · change ':' :: (((String.ofList (leadingName rest)).toList ++
          '=' :: (String.ofList value).toList) ++ last) = _
        rw [String.toList_ofList, String.toList_ofList, List.append_assoc,
          List.cons_append, ← split, whole]
      · intro text equal
        cases equal
        rw [String.toList_ofList]
        exact all

/-- The pieces of a text hold its characters, and each one ends where it does
in the text. -/
theorem areSpelled_ofChars (text : List Char) :
    (ofChars text).flatMap chars = text ∧ AreSpelled [] (ofChars text) := by
  fun_induction ofChars text with
  | case1 => exact ⟨rfl, trivial⟩
  | case2 rest inductionHypothesis =>
      exact ⟨congrArg ('(' :: ·) inductionHypothesis.1, trivial,
        inductionHypothesis.2⟩
  | case3 rest inductionHypothesis =>
      exact ⟨congrArg (')' :: ·) inductionHypothesis.1, trivial,
        inductionHypothesis.2⟩
  | case4 rest name unnamed inductionHypothesis =>
      obtain ⟨same, spelled⟩ := inductionHypothesis
      refine ⟨congrArg (':' :: ·) same, ⟨by decide, by decide, ?_⟩, spelled⟩
      intro _
      rw [same, List.append_nil]
      exact leadingName_eq_nil_iff.mp (List.isEmpty_iff.mp unnamed)
  | case5 rest name named behind default? inductionHypothesis =>
      obtain ⟨same, spelled⟩ := inductionHypothesis
      have nonempty : leadingName rest ≠ [] :=
        fun unnamed => named (List.isEmpty_iff.mpr unnamed)
      have read := reference_ofChars nonempty (rfl : behind = _)
        (rfl : default? = _)
      refine ⟨?_, ⟨read.2.1, ?_⟩, spelled⟩
      · rw [List.flatMap_cons, same]
        exact read.1
      · rw [same, List.append_nil]
        exact read.2.2
  | case6 c rest noOpening noClosing noColon inductionHypothesis =>
      obtain ⟨same, spelled⟩ := inductionHypothesis
      refine ⟨congrArg (c :: ·) same, ⟨noOpening, noClosing, ?_⟩, spelled⟩
      intro colon
      exact absurd colon noColon

end Piece
end PathRouter
