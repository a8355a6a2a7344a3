import PathRouter.Json.Reader
import PathRouter.Proofs.Within

/-!
# Which documents of nested values exceed a limit

A document that cannot be read is malformed unless an integer with too many
digits stands where a value is due.  Anywhere else such an integer is a token
like any other that is out of place.

## Main definitions

* `ReaderState.Exceeds`: the token with which a limit is exceeded.
* `ExceedsLimit`: the limit that a document exceeds.

## Main statements

* `parse_eq_limit_iff`: a document is refused with a limit exactly if it
  exceeds the limit.
-/

namespace PathRouter
namespace Json

/-- A value may come next. -/
def Due.takesValue : Due → Bool
  | value | firstMember => true
  | _ => false

/-- The next token is an integer with too many digits where a value is due. -/
inductive ReaderState.Exceeds : ReaderState → Lexeme → Limit → Prop
  | numeral
      {due : Due}
      {frames : List Frame}
      {lexeme : Lexeme}
      {digits : Nat}
      (takesValue : due.takesValue = true)
      (huge : lexeme.token = .hugeNumeral digits) :
      Exceeds (.reading due frames) lexeme (.numeralDigits digits)

/-- Reading the tokens of a document gets without a fault to one with which a
limit is exceeded. -/
def ExceedsLimit (document : List Char) (exceeded : Limit) : Prop :=
  ∃ before lexeme behind state,
    scan document = before ++ lexeme :: behind ∧
      before.foldlM ReaderState.step .start = .ok state ∧
      state.Exceeds lexeme exceeded

/-! ## Tokens -/

/-- A text that cannot be read is malformed. -/
def Token.IsCalm : Token → Prop
  | badText fault => LimitFault.limit? fault = none
  | _ => True

theorem calm_readCodes
    {unterminated : Fault}
    (calm : LimitFault.limit? unterminated = none)
    (text : List Char) :
    Calm (fun _ => True) (readCodes unterminated text) := by
  fun_induction readCodes unterminated text with
  | case1 | case3 => exact .refused calm
  | case2 => trivial
  | case4 | case6 | case7 | case9 | case10 => exact .refused rfl
  | case5 _ _ _ _ _ _ _ _ inductionHypothesis
  | case8 _ _ _ _ _ inductionHypothesis
  | case11 _ _ _ _ _ inductionHypothesis =>
      exact .bind inductionHypothesis fun _ _ _ => trivial

theorem isCalm_numeral (text : List Char) : (numeral text).1.IsCalm := by
  unfold numeral
  dsimp only
  split
  · trivial
  · split
    · split <;> trivial
    · trivial

theorem isCalm_next (c : Char) (rest : List Char) :
    (Token.next c rest).1.IsCalm := by
  unfold Token.next
  split
  · trivial
  · trivial
  · trivial
  · trivial
  · trivial
  · trivial
  · have calm := @calm_readCodes
      (.malformed .unterminatedText (rest.length + 1)) rfl rest
    split
    · trivial
    · next fault failed =>
        rw [failed] at calm
        rw [Token.IsCalm]
        exact Option.eq_none_iff_forall_ne_some.mpr calm
  · split
    · trivial
    · exact isCalm_numeral _

theorem isCalm_of_mem_scan
    {document : List Char}
    {lexeme : Lexeme}
    (member : lexeme ∈ scan document) :
    lexeme.token.IsCalm := by
  fun_induction scan document with
  | case1 => cases member
  | case2 document c rest front inductionHypothesis =>
      rcases List.mem_cons.mp member with rfl | behind
      · exact isCalm_next c rest
      · exact inductionHypothesis behind

/-! ## Reading tokens -/

namespace ReaderState

variable {state : ReaderState} {lexeme : Lexeme} {exceeded : Limit}

theorem stepValue_within
    (frames : List Frame)
    (calm : lexeme.token.IsCalm) :
    Within (fun _ => True)
      (fun exceeded => ∃ digits, lexeme.token = .hugeNumeral digits ∧
        exceeded = .numeralDigits digits)
      (stepValue frames lexeme) := by
  unfold stepValue
  cases current : lexeme.token with
  | openMap | openList | text content | scalar content => trivial
  | badText fault =>
      rw [current] at calm
      exact .refused calm
  | hugeNumeral digits => exact .limit rfl ⟨digits, rfl, rfl⟩
  | closeMap | closeList | colon | comma | unknown => exact .refused rfl

theorem calm_stepName
    (frames : List Frame)
    (calm : lexeme.token.IsCalm) :
    Calm (fun _ => True) (stepName frames lexeme) := by
  unfold stepName
  cases current : lexeme.token with
  | text content => trivial
  | badText fault =>
      rw [current] at calm
      exact .refused calm
  | openMap | closeMap | openList | closeList | colon | comma | scalar content
  | hugeNumeral digits | unknown => exact .refused rfl

/-- A token exceeds a limit only where a value is due. -/
theorem step_within (calm : lexeme.token.IsCalm) :
    Within (fun _ => True) (state.Exceeds lexeme) (state.step lexeme) := by
  cases state with
  | complete value => exact .refused rfl
  | reading due frames =>
      have value (takesValue : due.takesValue = true) :
          Within (fun _ => True) ((reading due frames).Exceeds lexeme)
            (stepValue frames lexeme) := by
        refine (stepValue_within frames calm).mono ?_
        rintro exceeded ⟨digits, huge, rfl⟩
        exact .numeral takesValue huge
      have name : Within (fun _ => True) ((reading due frames).Exceeds lexeme)
          (stepName frames lexeme) :=
        (calm_stepName frames calm).within
      unfold step
      dsimp only
      split
      · trivial
      · trivial
      · trivial
      · trivial
      · trivial
      · trivial
      · trivial
      · exact value rfl
      · exact value rfl
      · exact name
      · exact name
      · exact .refused rfl

theorem Exceeds.step_eq (exceeds : state.Exceeds lexeme exceeded) :
    state.step lexeme = .error (.limit exceeded) := by
  cases exceeds with
  | @numeral due frames lexeme digits takesValue huge =>
      have refused : stepValue frames lexeme =
          .error (.limit (.numeralDigits digits)) := by
        rw [stepValue, huge]
      cases due with
      | value | firstMember => simp only [step, huge, refused]
      | firstName | name | colon | separator => cases takesValue

/-- A row of tokens exceeds a limit exactly if one of its tokens does where the
tokens in front of it lead. -/
theorem foldlM_finish_eq_limit_iff
    {lexemes : List Lexeme}
    (calm : ∀ lexeme ∈ lexemes, lexeme.token.IsCalm) :
    (lexemes.foldlM step state >>= fun last => last.finish) =
        .error (.limit exceeded) ↔
      ∃ before lexeme behind next,
        lexemes = before ++ lexeme :: behind ∧
          before.foldlM step state = .ok next ∧
          next.Exceeds lexeme exceeded := by
  induction lexemes generalizing state with
  | nil =>
      constructor
      · intro refused
        cases state <;> cases refused
      · rintro ⟨before, lexeme, behind, next, empty, _⟩
        cases before <;> cases empty
  | cons first rest inductionHypothesis =>
      have within := @step_within state first
        (calm first List.mem_cons_self)
      have later (next : ReaderState) :=
        @inductionHypothesis next fun lexeme member =>
          calm lexeme (List.mem_cons_of_mem first member)
      rw [List.foldlM_cons]
      constructor
      · intro refused
        cases stepped : state.step first with
        | error fault =>
            rw [stepped] at within refused
            cases refused
            exact ⟨[], first, rest, state, rfl, rfl, within _ rfl⟩
        | ok next =>
            rw [stepped] at refused
            obtain ⟨before, lexeme, behind, last, split, reads, exceeds⟩ :=
              (later next).mp refused
            refine ⟨first :: before, lexeme, behind, last, ?_, ?_, exceeds⟩
            · rw [split, List.cons_append]
            · rw [List.foldlM_cons, stepped, ok_bind, reads]
      · rintro ⟨before, lexeme, behind, last, split, reads, exceeds⟩
        cases before with
        | nil =>
            cases split
            cases reads
            rw [exceeds.step_eq, error_bind, error_bind]
        | cons other before =>
            cases split
            obtain ⟨next, stepped, reads⟩ := exists_of_bind reads
            rw [stepped, ok_bind]
            exact (later next).mpr
              ⟨before, lexeme, behind, last, rfl, reads, exceeds⟩

end ReaderState

/-- A document is refused with a limit exactly if it exceeds the limit. -/
theorem parse_eq_limit_iff
    {document : List Char}
    {exceeded : Limit} :
    parse document = .error (.limit exceeded) ↔
      ExceedsLimit document exceeded :=
  ReaderState.foldlM_finish_eq_limit_iff fun _ => isCalm_of_mem_scan

end Json
end PathRouter
