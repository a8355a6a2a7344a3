import PathRouter.Proofs.Pattern.References

/-!
# Faults of texts

A text is no pattern if its brackets are not balanced or if a reference has the
name of an earlier one.  Both can be read off the text: a closing bracket closes
nothing if wherever one starts before it, no more brackets open than close, and
references are told by their positions.  The fault that is reported is the one
at the smallest position; brackets that are never closed are counted only if
there is no other fault.

## Main definitions

* `Pattern.FaultAt`: the fault at a position of a text.
* `Pattern.FirstFault`: the fault of a text that is reported.
* `Pattern.Reached`: what is known of a text that has been read up to a
  position.

## Main statements

* `Pattern.Reached.decides`: reading the rest of a text finds its first fault,
  or that it has none.
* `parsePattern_eq_error_iff`: which texts are no patterns, and why.
-/

namespace PathRouter
namespace Pattern

/-- The name of the reference at a position of a text, if there is one. -/
def nameAt? (text : List Char) (position : Nat) : Option String :=
  (referenceAt? text position).map TokenRef.name

/-- A closing bracket closes nothing: wherever one starts before it, no more
brackets open than close. -/
def ClosesNothing (text : List Char) (position : Nat) : Prop :=
  text[position]? = some ')' ∧
    ∀ start, ((text.take position).drop start).count '(' ≤
      ((text.take position).drop start).count ')'

/-- The brackets of a text are balanced: as many close as open, and at no front
of the text more. -/
structure IsBalanced (text : List Char) : Prop where
  /-- No front of the text closes more brackets than it opens. -/
  fronts : ∀ length,
    (text.take length).count ')' ≤ (text.take length).count '('
  /-- The text closes all brackets that it opens. -/
  whole : text.count ')' = text.count '('

/-- Two references of a text have the same name. -/
def RepeatsName (text : List Char) : Prop :=
  ∃ name first second, first < second ∧ nameAt? text first = some name ∧
    nameAt? text second = some name

/-- The fault at a position of a text. -/
inductive FaultAt (text : List Char) (position : Nat) : PatternFault → Prop
  | unmatchedClosing
      (closes : ClosesNothing text position) :
      FaultAt text position (.unmatchedClosing position)
  | repeatedToken
      {name : String}
      {earlier : Nat}
      (before : earlier < position)
      (first : nameAt? text earlier = some name)
      (again : nameAt? text position = some name) :
      FaultAt text position (.repeatedToken name)

/-- The fault of a text that is reported: the one at the smallest position, or
else the brackets that are never closed. -/
inductive FirstFault (text : List Char) : PatternFault → Prop
  | leftmost
      {position : Nat}
      {fault : PatternFault}
      (here : FaultAt text position fault)
      (first : ∀ earlier < position, ∀ other, ¬FaultAt text earlier other) :
      FirstFault text fault
  | unclosed
      {count : Nat}
      (nowhere : ∀ position other, ¬FaultAt text position other)
      (positive : 0 < count)
      (excess : text.count '(' = text.count ')' + count) :
      FirstFault text (.unclosed count)

/-- A text without a fault. -/
structure IsFaultless (text : List Char) : Prop where
  /-- There is no fault at any position. -/
  nowhere : ∀ position other, ¬FaultAt text position other
  /-- All brackets are closed. -/
  balanced : IsBalanced text

variable
  {text run rest : List Char}
  {position : Nat}
  {c : Char}
  {fault other : PatternFault}

theorem getElem?_of_drop (remains : text.drop position = c :: rest) :
    text[position]? = some c := by
  rw [← List.head?_drop, remains]
  rfl

theorem drop_succ (remains : text.drop position = c :: rest) :
    text.drop (position + 1) = rest := by
  rw [← List.tail_drop, remains]
  rfl

theorem drop_add_length (remains : text.drop position = run ++ rest) :
    text.drop (position + run.length) = rest := by
  rw [← List.drop_drop, remains, List.drop_left]

/-! ## The fault that is reported is unique -/

/-- A reference starts with a colon. -/
theorem nameAt?_eq_none
    (noColon : text[position]? ≠ some ':') :
    nameAt? text position = none := by
  rw [nameAt?, referenceAt?]
  cases front : text.drop position with
  | nil => rfl
  | cons c rest =>
      have here := getElem?_of_drop front
      have other : c ≠ ':' := fun colon => noColon (colon ▸ here)
      rw [leadingReference?_of_ne other]
      rfl

theorem getElem?_of_nameAt?
    {name : String}
    (named : nameAt? text position = some name) :
    text[position]? = some ':' :=
  Decidable.byContradiction fun noColon => by
    rw [nameAt?_eq_none noColon] at named
    cases named

theorem FaultAt.unique
    (first : FaultAt text position fault)
    (second : FaultAt text position other) :
    fault = other := by
  cases first with
  | unmatchedClosing closes =>
      cases second with
      | unmatchedClosing _ => rfl
      | repeatedToken _ _ again =>
          cases closes.1.symm.trans (getElem?_of_nameAt? again)
  | repeatedToken _ _ again =>
      cases second with
      | unmatchedClosing closes =>
          cases closes.1.symm.trans (getElem?_of_nameAt? again)
      | repeatedToken _ _ named =>
          cases again.symm.trans named
          rfl

theorem FaultAt.lt_length
    (here : FaultAt text position fault) :
    position < text.length := by
  cases here with
  | unmatchedClosing closes => exact (List.getElem?_eq_some_iff.mp closes.1).1
  | repeatedToken _ _ again =>
      exact (List.getElem?_eq_some_iff.mp (getElem?_of_nameAt? again)).1

theorem FirstFault.unique
    (one : FirstFault text fault)
    (two : FirstFault text other) :
    fault = other := by
  cases one with
  | leftmost here first =>
      cases two with
      | leftmost there before =>
          rename_i i j
          rcases Nat.lt_trichotomy i j with less | rfl | more
          · exact absurd here (before i less _)
          · exact here.unique there
          · exact absurd there (first j more _)
      | unclosed nowhere _ _ => exact absurd here (nowhere _ _)
  | unclosed nowhere _ excess =>
      cases two with
      | leftmost there _ => exact absurd there (nowhere _ _)
      | unclosed _ _ again =>
          have same := Nat.add_left_cancel (excess.symm.trans again)
          rw [same]

theorem IsFaultless.not_firstFault
    (faultless : IsFaultless text) :
    ¬FirstFault text fault := by
  rintro (⟨here, _⟩ | ⟨_, positive, excess⟩)
  · exact faultless.nowhere _ _ here
  · have whole := faultless.balanced.whole
    omega

/-- A closing bracket that closes nothing is one too many. -/
theorem ClosesNothing.not_isBalanced
    (closes : ClosesNothing text position) :
    ¬IsBalanced text := by
  intro balanced
  have before := closes.2 0
  have behind := balanced.fronts (position + 1)
  rw [List.take_add_one, closes.1] at behind
  simp only [List.drop_zero, List.count_append] at before behind
  simp at behind
  omega

/-! ## Reading up to a position -/

/-- What is known of a text that has been read up to a position without a
fault: how many brackets are open there, and which names it has seen. -/
structure Reached
    (text : List Char)
    (position depth : Nat)
    (seen : List String) : Prop where
  /-- There is no fault so far. -/
  correct : ∀ earlier < position, ∀ fault, ¬FaultAt text earlier fault
  /-- No front so far closes more brackets than it opens. -/
  fronts : ∀ length ≤ position,
    (text.take length).count ')' ≤ (text.take length).count '('
  /-- The depth is the number of brackets that are still open. -/
  depth : (text.take position).count '(' =
    (text.take position).count ')' + depth
  /-- The names are those of the references so far. -/
  seen : ∀ name, name ∈ seen ↔
    ∃ earlier < position, nameAt? text earlier = some name

namespace Reached

variable {depth : Nat} {seen : List String}

theorem start (text : List Char) : Reached text 0 0 [] where
  correct := nofun
  fronts := by
    intro length zero
    rw [Nat.le_zero.mp zero]
    exact Nat.le_refl _
  depth := rfl
  seen := by simp

/-- One character further, if there is no fault at it. -/
theorem next
    (reached : Reached text position depth seen)
    {deeper : Nat}
    {later : List String}
    (here : text[position]? = some c)
    (correct : ∀ fault, ¬FaultAt text position fault)
    (bracket : deeper + [c].count ')' = depth + [c].count '(')
    (name : ∀ name, name ∈ later ↔
      name ∈ seen ∨ nameAt? text position = some name) :
    Reached text (position + 1) deeper later := by
  have front : text.take (position + 1) = text.take position ++ [c] := by
    rw [List.take_add_one, here]
    rfl
  have opened : (text.take (position + 1)).count '(' =
      (text.take (position + 1)).count ')' + deeper := by
    have before := reached.depth
    rw [front, List.count_append, List.count_append]
    omega
  refine ⟨fun earlier less => ?_, fun length less => ?_, opened, ?_⟩
  · rcases Nat.lt_succ_iff_lt_or_eq.mp less with before | rfl
    · exact reached.correct earlier before
    · exact correct
  · rcases Nat.le_succ_iff.mp less with before | equal
    · exact reached.fronts length before
    · rw [equal, opened]
      exact Nat.le_add_right ..
  · intro other
    rw [name, reached.seen]
    constructor
    · rintro (⟨earlier, less, named⟩ | named)
      · exact ⟨earlier, Nat.lt_succ_of_lt less, named⟩
      · exact ⟨position, Nat.lt_succ_self _, named⟩
    · rintro ⟨earlier, less, named⟩
      rcases Nat.lt_succ_iff_lt_or_eq.mp less with before | rfl
      · exact .inl ⟨earlier, before, named⟩
      · exact .inr named

/-- A character that is no bracket and starts no reference changes nothing. -/
theorem char
    (reached : Reached text position depth seen)
    (here : text[position]? = some c)
    (noOpening : c ≠ '(')
    (noClosing : c ≠ ')')
    (unnamed : nameAt? text position = none) :
    Reached text (position + 1) depth seen := by
  refine reached.next here ?_ ?_ fun name => ?_
  · rintro _ (closes | ⟨_, _, again⟩)
    · exact noClosing (Option.some.inj (here.symm.trans closes.1))
    · cases unnamed.symm.trans again
  · simp [noOpening, noClosing]
  · simp [unnamed]

theorem opening
    (reached : Reached text position depth seen)
    (here : text[position]? = some '(') :
    Reached text (position + 1) (depth + 1) seen := by
  have unnamed : nameAt? text position = none :=
    nameAt?_eq_none (by rw [here]; decide)
  refine reached.next here ?_ rfl fun name => ?_
  · rintro _ (closes | ⟨_, _, again⟩)
    · cases here.symm.trans closes.1
    · cases unnamed.symm.trans again
  · simp [unnamed]

/-- A bracket that is open may be closed. -/
theorem closing
    (reached : Reached text position (depth + 1) seen)
    (here : text[position]? = some ')') :
    Reached text (position + 1) depth seen := by
  have unnamed : nameAt? text position = none :=
    nameAt?_eq_none (by rw [here]; decide)
  refine reached.next here ?_ rfl fun name => ?_
  · rintro _ (closes | ⟨_, _, again⟩)
    · have opened := reached.depth
      have all := closes.2 0
      rw [List.drop_zero] at all
      omega
    · cases unnamed.symm.trans again
  · simp [unnamed]

/-- A reference with a new name may be read. -/
theorem reference
    (reached : Reached text position depth seen)
    {name : String}
    (named : nameAt? text position = some name)
    (new : name ∉ seen) :
    Reached text (position + 1) depth (name :: seen) := by
  have here := getElem?_of_nameAt? named
  refine reached.next here ?_ rfl fun other => ?_
  · rintro _ (closes | ⟨before, first, again⟩)
    · cases here.symm.trans closes.1
    · cases named.symm.trans again
      exact new ((reached.seen name).mpr ⟨_, before, first⟩)
  · rw [named, List.mem_cons, or_comm, Option.some_inj, eq_comm]

/-- Characters without brackets and colons change nothing. -/
theorem passed
    (reached : Reached text position depth seen)
    (remains : text.drop position = run ++ rest)
    (plain : ∀ c ∈ run, c ≠ ':' ∧ c ≠ '(' ∧ c ≠ ')') :
    Reached text (position + run.length) depth seen := by
  induction run generalizing position with
  | nil => exact reached
  | cons c run inductionHypothesis =>
      obtain ⟨⟨noColon, noOpening, noClosing⟩, others⟩ :=
        List.forall_mem_cons.mp plain
      have here := getElem?_of_drop remains
      have unnamed : nameAt? text position = none := by
        apply nameAt?_eq_none
        rw [here]
        exact fun colon => noColon (Option.some.inj colon)
      have further := inductionHypothesis
        (reached.char here noOpening noClosing unnamed) (drop_succ remains)
        others
      rwa [Nat.add_right_comm] at further

/-! ## Faults behind a position -/

/-- With no bracket open, a closing one closes nothing. -/
theorem closesNothing
    (reached : Reached text position 0 seen)
    (here : text[position]? = some ')') :
    ClosesNothing text position := by
  refine ⟨here, fun start => ?_⟩
  have front := reached.fronts (min start position) (Nat.min_le_right ..)
  have whole := reached.depth
  rw [← List.take_append_drop start (text.take position), List.count_append,
    List.count_append, List.take_take] at whole
  omega

/-- A text that has been read to its end has no fault but brackets that are
still open. -/
theorem atEnd
    (reached : Reached text position depth seen)
    (remains : text.drop position = []) :
    if depth = 0 then IsFaultless text
    else FirstFault text (.unclosed depth) := by
  have short := List.drop_eq_nil_iff.mp remains
  have whole := reached.depth
  rw [List.take_of_length_le short] at whole
  have nowhere : ∀ other fault, ¬FaultAt text other fault := by
    intro other fault faulty
    exact reached.correct other (Nat.lt_of_lt_of_le faulty.lt_length short)
      fault faulty
  split
  · rename_i zero
    refine ⟨nowhere, fun length => ?_, by omega⟩
    rcases Nat.le_total length position with before | behind
    · exact reached.fronts length before
    · rw [List.take_of_length_le (Nat.le_trans short behind)]
      omega
  · rename_i positive
    exact .unclosed nowhere (Nat.pos_of_ne_zero positive) whole

/-! ## Reading the rest -/

/-- Reading the rest of a text finds its first fault, or that it has none. -/
theorem decides
    (reached : Reached text position depth seen)
    (remains : text.drop position = rest) :
    match Piece.fault? position depth seen (Piece.ofChars rest) with
    | some fault => FirstFault text fault
    | none => IsFaultless text := by
  fun_induction Piece.ofChars rest generalizing position depth seen with
  | case1 =>
      have last := reached.atEnd remains
      rw [Piece.fault?]
      split at last
      · rename_i zero
        rwa [if_pos zero]
      · rename_i positive
        rwa [if_neg positive]
  | case2 rest inductionHypothesis =>
      have here := getElem?_of_drop remains
      exact inductionHypothesis (reached.opening here)
        (drop_succ remains)
  | case3 rest inductionHypothesis =>
      have here := getElem?_of_drop remains
      cases depth with
      | zero =>
          have closes := FaultAt.unmatchedClosing (reached.closesNothing here)
          exact .leftmost closes reached.correct
      | succ depth =>
          exact inductionHypothesis (reached.closing here)
            (drop_succ remains)
  | case4 rest name unnamed =>
      rename_i inductionHypothesis
      have here := getElem?_of_drop remains
      have nameless : nameAt? text position = none := by
        rw [nameAt?, referenceAt?, remains,
          leadingReference?_of_unnamed (List.isEmpty_iff.mp unnamed)]
        rfl
      exact inductionHypothesis
        (reached.char here (by decide) (by decide) nameless)
        (drop_succ remains)
  | case5 rest name named =>
      rename_i behind default? inductionHypothesis
      have nonempty : Piece.leadingName rest ≠ [] :=
        fun unnamed => named (List.isEmpty_iff.mpr unnamed)
      have isNamed : nameAt? text position = some (String.ofList name) := by
        rw [nameAt?, referenceAt?, remains,
          leadingReference?_of_named nonempty]
        rfl
      obtain ⟨same, writable, _⟩ := Piece.reference_ofChars nonempty
        (rfl : behind = _) (rfl : default? = _)
      obtain ⟨run, chars, plain⟩ := Piece.isPlain_of_isWritable writable
      rw [← same] at remains
      rw [Piece.fault?]
      by_cases old : String.ofList name ∈ seen
      · rw [if_pos old]
        obtain ⟨earlier, before, first⟩ := (reached.seen _).mp old
        exact .leftmost (.repeatedToken before first isNamed) reached.correct
      · rw [if_neg old]
        have begun := reached.reference isNamed old
        have width := congrArg List.length chars
        rw [List.length_cons, Nat.add_comm] at width
        have behindColon : text.drop (position + 1) = run ++ _ :=
          drop_succ (remains.trans (by rw [chars]; rfl))
        have ended := begun.passed behindColon plain
        rw [Nat.add_assoc, ← width] at ended
        exact inductionHypothesis ended (drop_add_length remains)
  | case6 c rest noOpening noClosing noColon inductionHypothesis =>
      have here := getElem?_of_drop remains
      have unnamed : nameAt? text position = none := by
        apply nameAt?_eq_none
        rw [here]
        exact fun colon => noColon (Option.some.inj colon)
      exact inductionHypothesis (reached.char here noOpening noClosing unnamed)
        (drop_succ remains)

end Reached

theorem firstFault_iff :
    Piece.fault? 0 0 [] (Piece.ofChars text) = some fault ↔
      FirstFault text fault := by
  have decides := (Reached.start text).decides List.drop_zero
  constructor
  · intro found
    rwa [found] at decides
  · intro isFirst
    split at decides
    · rename_i found
      rw [found, decides.unique isFirst]
    · exact absurd isFirst decides.not_firstFault

/-- A text has a fault if its brackets are not balanced or a reference has the
name of an earlier one, and only then. -/
theorem exists_firstFault_iff :
    (∃ fault, FirstFault text fault) ↔
      ¬IsBalanced text ∨ RepeatsName text := by
  constructor
  · rintro ⟨_, ⟨closes | ⟨before, first, again⟩, _⟩ | ⟨_, positive, excess⟩⟩
    · exact .inl closes.not_isBalanced
    · exact .inr ⟨_, _, _, before, first, again⟩
    · refine .inl fun balanced => ?_
      have whole := balanced.whole
      omega
  · intro faulty
    have decides := (Reached.start text).decides List.drop_zero
    split at decides
    · exact ⟨_, decides⟩
    · rcases faulty with unbalanced | ⟨name, _, _, before, first, again⟩
      · exact absurd decides.balanced unbalanced
      · exact absurd (.repeatedToken before first again)
          (decides.nowhere _ _)

end Pattern

/-- A text is no pattern exactly if its brackets are not balanced or two of its
references have the same name.  The failure carries the text, and its reason is
the fault at the smallest position: the first closing bracket that closes
nothing, or the first reference with an earlier name.  If there is none of
these, the reason counts the brackets that are never closed. -/
theorem parsePattern_eq_error_iff (pattern : String) :
    ((∃ failure, parsePattern pattern = .error failure) ↔
      ¬Pattern.IsBalanced pattern.toList ∨
        Pattern.RepeatsName pattern.toList) ∧
    (∀ failure, parsePattern pattern = .error failure ↔
      ∃ fault, failure = .patternSyntax pattern fault ∧
        Pattern.FirstFault pattern.toList fault) ∧
    (∀ position, (PatternFault.unmatchedClosing position).message =
      "unmatched ')' at position " ++ toString position) ∧
    (∀ name, (PatternFault.repeatedToken name).message =
      "token ':" ++ name ++ "' is used more than once") ∧
    ∀ count, (PatternFault.unclosed count).message =
      toString count ++ " unclosed '('" := by
  have fails (failure : RoutingError) :
      parsePattern pattern = .error failure ↔
        ∃ fault, failure = .patternSyntax pattern fault ∧
          Pattern.FirstFault pattern.toList fault := by
    simp only [← Pattern.firstFault_iff]
    rw [parsePattern, Pattern.parse]
    cases Piece.fault? 0 0 [] (Piece.ofChars pattern.toList) with
    | none =>
        constructor
        · intro failed
          cases failed
        · rintro ⟨_, _, found⟩
          cases found
    | some fault =>
        constructor
        · intro failed
          cases failed
          exact ⟨fault, rfl, rfl⟩
        · rintro ⟨_, rfl, same⟩
          cases same
          rfl
  refine ⟨?_, fails, fun _ => rfl, fun _ => rfl, fun _ => rfl⟩
  rw [← Pattern.exists_firstFault_iff]
  constructor
  · rintro ⟨failure, failed⟩
    obtain ⟨fault, _, isFirst⟩ := (fails failure).mp failed
    exact ⟨fault, isFirst⟩
  · rintro ⟨fault, isFirst⟩
    exact ⟨_, (fails _).mpr ⟨fault, rfl, isFirst⟩⟩

/-- A repeated name comes before a bracket that closes nothing, and both come
before brackets that are never closed. -/
example :
    parsePattern "/:id(/:id=)" = .error (.patternSyntax "/:id(/:id=)"
      (.repeatedToken "id")) ∧
    parsePattern "(:a=b))(:a" = .error (.patternSyntax "(:a=b))(:a"
      (.unmatchedClosing 6)) ∧
    parsePattern "(:a(" = .error (.patternSyntax "(:a(" (.unclosed 2)) := by
  refine ⟨?_, ?_, ?_⟩ <;> cbv

end PathRouter
