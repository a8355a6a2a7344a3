import PathRouter.Proofs.Regex.Renumbering
import PathRouter.Regex.Match

/-!
# The ways of reading an expression

Backtracking takes the first way of reading an expression that lets the rest
succeed.  Here all ways are listed, the preferred ones first, and matching with
a continuation is shown to be a search in that list.  An expression that refers
to no group and captures nothing reads in the same ways whatever the groups
have read before.

## Main definitions

* `Regex.ways`: the states in which an expression can be left.
* `Regex.rowWays`: the states in which a row of expressions can be left.
* `Regex.ends`: the places that an expression can reach.

## Main statements

* `Regex.run_eq`: matching takes the first way that the continuation accepts.
* `Regex.ways_eq_map_ends`: without groups, only places matter.
-/

namespace PathRouter
namespace Regex

theorem findSome?_flatMap
    (states : List α)
    (expand : α → List β)
    (next : β → Option γ) :
    (states.flatMap expand).findSome? next =
      states.findSome? fun state => (expand state).findSome? next := by
  induction states with
  | nil => rfl
  | cons state rest inductionHypothesis =>
      rw [List.flatMap_cons, List.findSome?_append, inductionHypothesis,
        List.findSome?_cons]
      cases (expand state).findSome? next <;> rfl

theorem findSome?_some (states : List α) :
    states.findSome? some = states.head? := by
  cases states <;> rfl

theorem findSome?_toList (state? : Option α) (next : α → Option β) :
    state?.toList.findSome? next = state?.bind next := by
  cases state? with
  | none => rfl
  | some state =>
      rw [Option.toList_some, List.findSome?_singleton, Option.bind_some]

/-! ## Listing the ways -/

/-- The ways of repeating `body`, as many rounds as possible first. -/
def greedyWays (body : MatchState → List MatchState) :
    (fuel least : Nat) → (most last? : Option Nat) → MatchState →
      List MatchState
  | 0, _, _, _, _ => []
  | fuel + 1, least + 1, most, last?, state =>
      (body state).flatMap
        (greedyWays body fuel least (most.map (· - 1)) last?)
  | fuel + 1, 0, most, last?, state =>
      if mayRepeat most last? state.position then
        (body state).flatMap
          (greedyWays body fuel 0 (most.map (· - 1)) (some state.position)) ++
            [state]
      else [state]

/-- The ways of repeating `body`, as few rounds as possible first. -/
def lazyWays (body : MatchState → List MatchState) :
    (fuel least : Nat) → (most last? : Option Nat) → MatchState →
      List MatchState
  | 0, _, _, _, _ => []
  | fuel + 1, least + 1, most, last?, state =>
      (body state).flatMap
        (lazyWays body fuel least (most.map (· - 1)) last?)
  | fuel + 1, 0, most, last?, state =>
      state ::
        if mayRepeat most last? state.position then
          (body state).flatMap
            (lazyWays body fuel 0 (most.map (· - 1)) (some state.position))
        else []

/-- The one way of repeating `body` without going back. -/
def possessiveWay? (body : MatchState → List MatchState) :
    (fuel least : Nat) → (most : Option Nat) → MatchState → Option MatchState
  | 0, _, _, _ => none
  | fuel + 1, least + 1, most, state =>
      match (body state).head? with
      | none => none
      | some after => possessiveWay? body fuel least (most.map (· - 1)) after
  | fuel + 1, 0, most, state =>
      if most = some 0 then some state
      else
        match (body state).head? with
        | none => some state
        | some after =>
            if after.position = state.position then some after
            else possessiveWay? body fuel 0 (most.map (· - 1)) after

/-- The states in which an expression can be left, in the order in which
backtracking tries them. -/
def ways (text : Array Char) : Regex → MatchState → List MatchState
  | empty, state => [state]
  | one test, state =>
      match text[state.position]? with
      | none => []
      | some c =>
          if test.holds c.toNat then
            [{ state with position := state.position + 1 }]
          else []
  | assert anchor, state =>
      if anchor.holds text state.position then [state] else []
  | backreference folding index, state =>
      match state.span? index with
      | none => []
      | some (start, stop) =>
          if sameText text folding (stop - start) start state.position then
            [{ state with position := state.position + (stop - start) }]
          else []
  | seq first second, state =>
      (first.ways text state).flatMap (second.ways text)
  | alt first second, state => first.ways text state ++ second.ways text state
  | loop strategy least most body, state =>
      let fuel := least + (text.size - state.position) + 2
      match strategy with
      | .greedy => greedyWays (body.ways text) fuel least most none state
      | .lazy => lazyWays (body.ways text) fuel least most none state
      | .possessive =>
          (possessiveWay? (body.ways text) fuel least most state).toList
  | capture index body, state =>
      (body.ways text (state.enter index)).map
        (·.record index state.position)
  | group body, state => body.ways text state
  | ifGroup index yes no, state =>
      if state.hasRead index then yes.ways text state
      else no.ways text state
  | ahead positive body, state =>
      match (body.ways text state).head? with
      | some after =>
          if positive then [{ after with position := state.position }] else []
      | none => if positive then [] else [state]
  | behind positive width body, state =>
      let found :=
        if width.least ≤ state.position then
          (body.ways text
            { state with position := state.position - width.least }).head?
        else none
      match found with
      | some after =>
          if positive then [{ after with position := state.position }] else []
      | none => if positive then [] else [state]
  | atomic body, state => (body.ways text state).head?.toList

/-- The places up to which an expression can read from `start` on, in the
order in which backtracking tries them. -/
def ends (r : Regex) (text : Array Char) (start : Nat) : List Nat :=
  (r.ways text { position := start }).map MatchState.position

/-! ## Backtracking is a search in the list of ways -/

section Rounds

variable
  {body : MatchState → Continuation → Option MatchState}
  {bodyWays : MatchState → List MatchState}
  (bodyRun : ∀ state next,
    body state next = (bodyWays state).findSome? next)

include bodyRun

theorem runGreedy_eq
    (fuel least : Nat)
    (most last? : Option Nat)
    (state : MatchState)
    (next : Continuation) :
    runGreedy body fuel least most last? state next =
      (greedyWays bodyWays fuel least most last? state).findSome? next := by
  induction fuel generalizing least most last? state with
  | zero => rfl
  | succ fuel inductionHypothesis =>
      cases least with
      | succ least =>
          rw [runGreedy, greedyWays, bodyRun, findSome?_flatMap]
          simp only [inductionHypothesis]
      | zero =>
          rw [runGreedy, greedyWays]
          split
          · rw [List.findSome?_append, findSome?_flatMap, bodyRun,
              Option.or_eq_orElse]
            simp only [inductionHypothesis, List.findSome?_singleton]
            rfl
          · rw [List.findSome?_singleton]

theorem runLazy_eq
    (fuel least : Nat)
    (most last? : Option Nat)
    (state : MatchState)
    (next : Continuation) :
    runLazy body fuel least most last? state next =
      (lazyWays bodyWays fuel least most last? state).findSome? next := by
  induction fuel generalizing least most last? state with
  | zero => rfl
  | succ fuel inductionHypothesis =>
      cases least with
      | succ least =>
          rw [runLazy, lazyWays, bodyRun, findSome?_flatMap]
          simp only [inductionHypothesis]
      | zero =>
          rw [runLazy, lazyWays, List.findSome?_cons]
          cases next state with
          | some result => rfl
          | none =>
              split
              · rw [findSome?_flatMap, bodyRun]
                simp only [inductionHypothesis]
                rfl
              · rfl

theorem runPossessive_eq
    (fuel least : Nat)
    (most : Option Nat)
    (state : MatchState) :
    runPossessive body fuel least most state =
      possessiveWay? bodyWays fuel least most state := by
  have first (state : MatchState) :
      body state some = (bodyWays state).head? := by
    rw [bodyRun, findSome?_some]
  induction fuel generalizing least most state with
  | zero => rfl
  | succ fuel inductionHypothesis =>
      cases least with
      | succ least =>
          rw [runPossessive, possessiveWay?, first]
          cases (bodyWays state).head? with
          | none => rfl
          | some after => simp only [inductionHypothesis]
      | zero =>
          rw [runPossessive, possessiveWay?, first]
          cases (bodyWays state).head? with
          | none => rfl
          | some after => simp only [inductionHypothesis]

end Rounds

/-- A look around goes on at the place where it was taken. -/
theorem look_eq
    (positive : Bool)
    (found : Option MatchState)
    (state : MatchState)
    (next : Continuation) :
    (match found with
      | some after =>
          if positive then next { after with position := state.position }
          else none
      | none => if positive then none else next state) =
      (match found with
        | some after =>
            if positive then [{ after with position := state.position }]
            else []
        | none => if positive then [] else [state]).findSome? next := by
  cases found <;> cases positive <;> simp

/-- Matching takes the first way that the continuation accepts. -/
theorem run_eq
    (r : Regex)
    (text : Array Char)
    (state : MatchState)
    (next : Continuation) :
    r.run text state next = (r.ways text state).findSome? next := by
  induction r generalizing state next with
  | empty => rw [run, ways, List.findSome?_singleton]
  | one test =>
      rw [run, ways]
      cases text[state.position]? with
      | none => rfl
      | some c =>
          dsimp only
          split
          · rw [List.findSome?_singleton]
          · rfl
  | assert anchor =>
      rw [run, ways]
      split
      · rw [List.findSome?_singleton]
      · rfl
  | backreference folding index =>
      rw [run, ways]
      rcases state.span? index with _ | ⟨start, stop⟩
      · rfl
      · dsimp only
        split
        · rw [List.findSome?_singleton]
        · rfl
  | seq first second firstHypothesis secondHypothesis =>
      rw [run, ways, firstHypothesis, findSome?_flatMap]
      simp only [secondHypothesis]
  | alt first second firstHypothesis secondHypothesis =>
      rw [run, ways, List.findSome?_append, Option.or_eq_orElse,
        firstHypothesis, secondHypothesis]
      rfl
  | loop strategy least most body inductionHypothesis =>
      cases strategy with
      | greedy => exact runGreedy_eq inductionHypothesis ..
      | lazy => exact runLazy_eq inductionHypothesis ..
      | possessive =>
          rw [run, ways, runPossessive_eq inductionHypothesis,
            findSome?_toList]
  | capture index body inductionHypothesis =>
      rw [run, ways, inductionHypothesis, List.findSome?_map]
      rfl
  | group body inductionHypothesis =>
      rw [run, ways, inductionHypothesis]
  | ifGroup index yes no yesHypothesis noHypothesis =>
      rw [run, ways]
      split
      · exact yesHypothesis state next
      · exact noHypothesis state next
  | ahead positive body inductionHypothesis =>
      rw [run, ways, inductionHypothesis, findSome?_some]
      exact look_eq positive _ state next
  | behind positive width body inductionHypothesis =>
      rw [run, ways, inductionHypothesis, findSome?_some]
      exact look_eq positive _ state next
  | atomic body inductionHypothesis =>
      rw [run, ways, inductionHypothesis, findSome?_some, findSome?_toList]

/-! ## Rows of expressions -/

/-- The states in which a row of expressions can be left. -/
def rowWays (text : Array Char) : List Regex → MatchState → List MatchState
  | [], state => [state]
  | r :: rest, state => (r.ways text state).flatMap (rowWays text rest)

theorem ways_sequence
    (row : List Regex)
    (text : Array Char)
    (state : MatchState) :
    (sequence row).ways text state = rowWays text row state := by
  induction row generalizing state with
  | nil => rfl
  | cons r rest inductionHypothesis =>
      cases rest with
      | nil =>
          change r.ways text state =
            (r.ways text state).flatMap fun after => [after]
          rw [List.flatMap_singleton']
      | cons next rest =>
          have behind : (sequence (next :: rest)).ways text =
              rowWays text (next :: rest) := funext inductionHypothesis
          rw [sequence, ways, behind, rowWays]
          exact List.cons_ne_nil next rest

theorem rowWays_append
    (first second : List Regex)
    (text : Array Char)
    (state : MatchState) :
    rowWays text (first ++ second) state =
      (rowWays text first state).flatMap (rowWays text second) := by
  induction first generalizing state with
  | nil => rw [List.nil_append, rowWays, List.flatMap_singleton]
  | cons r rest inductionHypothesis =>
      have behind : rowWays text (rest ++ second) = fun state =>
          (rowWays text rest state).flatMap (rowWays text second) :=
        funext inductionHypothesis
      rw [List.cons_append, rowWays, rowWays, List.flatMap_assoc, behind]

/-- A row that is anchored at both ends reads a whole text in the first of its
ways that does. -/
theorem fullMatch?_anchored
    (row : List Regex)
    (text : Array Char) :
    (sequence
        (.assert .textStart :: (row ++ [.assert .lastLineEnd]))).fullMatch?
        text =
      (rowWays text row {}).find? (·.position = text.size) := by
  have start : (assert .textStart).ways text {} = [{}] := rfl
  have ending (state : MatchState) :
      (rowWays text [.assert .lastLineEnd] state).findSome? (fun state =>
        if state.position = text.size then some state else none) =
          if state.position = text.size then some state else none := by
    rw [rowWays, ways]
    by_cases whole : state.position = text.size
    · have holds : Anchor.holds text state.position .lastLineEnd = true := by
        simp [Anchor.holds, whole]
      rw [if_pos holds]
      simp [rowWays, whole]
    · rw [if_neg whole]
      split <;> simp [rowWays, whole]
  rw [fullMatch?, run_eq, ways_sequence, rowWays, start,
    List.flatMap_singleton, rowWays_append, findSome?_flatMap]
  rw [funext ending, List.find?_eq_findSome?_guard]
  congr 1
  funext state
  simp only [Option.guard, decide_eq_true_eq]

/-! ## Expressions without groups -/

section Rounds

variable
  {bodyWays : MatchState → List MatchState}
  {captures : List (Nat × Nat × Nat)}
  {begun : List (Nat × Nat)}
  (bodyFree : ∀ state,
    bodyWays { state with captures, begun } =
      (bodyWays state).map ({ · with captures, begun }))

include bodyFree

theorem flatMap_of_free
    {expand : MatchState → List MatchState}
    (expandFree : ∀ state,
      expand { state with captures, begun } =
        (expand state).map ({ · with captures, begun }))
    (state : MatchState) :
    (bodyWays { state with captures, begun }).flatMap expand =
      ((bodyWays state).flatMap expand).map ({ · with captures, begun }) := by
  rw [bodyFree, List.flatMap_map, List.map_flatMap]
  simp only [expandFree]

theorem greedyWays_of_free
    (fuel least : Nat)
    (most last? : Option Nat)
    (state : MatchState) :
    greedyWays bodyWays fuel least most last? { state with captures, begun } =
      (greedyWays bodyWays fuel least most last? state).map
        ({ · with captures, begun }) := by
  induction fuel generalizing least most last? state with
  | zero => rfl
  | succ fuel inductionHypothesis =>
      cases least with
      | succ least =>
          rw [greedyWays, greedyWays]
          exact flatMap_of_free bodyFree (inductionHypothesis _ _ _) state
      | zero =>
          rw [greedyWays, greedyWays]
          split
          · rw [flatMap_of_free bodyFree (inductionHypothesis _ _ _) state,
              List.map_append]
            rfl
          · rfl

theorem lazyWays_of_free
    (fuel least : Nat)
    (most last? : Option Nat)
    (state : MatchState) :
    lazyWays bodyWays fuel least most last? { state with captures, begun } =
      (lazyWays bodyWays fuel least most last? state).map
        ({ · with captures, begun }) := by
  induction fuel generalizing least most last? state with
  | zero => rfl
  | succ fuel inductionHypothesis =>
      cases least with
      | succ least =>
          rw [lazyWays, lazyWays]
          exact flatMap_of_free bodyFree (inductionHypothesis _ _ _) state
      | zero =>
          rw [lazyWays, lazyWays, List.map_cons]
          split
          · rw [flatMap_of_free bodyFree (inductionHypothesis _ _ _) state]
          · rfl

theorem possessiveWay?_of_free
    (fuel least : Nat)
    (most : Option Nat)
    (state : MatchState) :
    possessiveWay? bodyWays fuel least most { state with captures, begun } =
      (possessiveWay? bodyWays fuel least most state).map
        ({ · with captures, begun }) := by
  induction fuel generalizing least most state with
  | zero => rfl
  | succ fuel inductionHypothesis =>
      cases least with
      | succ least =>
          rw [possessiveWay?, possessiveWay?, bodyFree, List.head?_map]
          cases (bodyWays state).head? with
          | none => rfl
          | some after => exact inductionHypothesis least _ after
      | zero =>
          rw [possessiveWay?, possessiveWay?, bodyFree, List.head?_map]
          split
          · rfl
          · cases (bodyWays state).head? with
            | none => rfl
            | some after =>
                dsimp only [Option.map_some]
                split
                · rfl
                · exact inductionHypothesis 0 _ after

end Rounds

/-- An expression without groups reads in the same ways whatever the groups
have read before, and leaves that as it is. -/
theorem ways_of_free
    {r : Regex}
    (free : r.indices = [])
    (text : Array Char)
    (state : MatchState)
    (captures : List (Nat × Nat × Nat))
    (begun : List (Nat × Nat)) :
    r.ways text { state with captures, begun } =
      (r.ways text state).map ({ · with captures, begun }) := by
  induction r generalizing state with
  | empty => rfl
  | one test =>
      rw [ways, ways]
      cases text[state.position]? with
      | none => rfl
      | some c =>
          dsimp only
          split <;> rfl
  | assert anchor =>
      rw [ways, ways]
      split <;> rfl
  | backreference _ _ | capture _ _ _ | ifGroup _ _ _ _ _ => cases free
  | seq first second firstHypothesis secondHypothesis =>
      have parts := List.append_eq_nil_iff.mp free
      exact flatMap_of_free (firstHypothesis parts.1)
        (secondHypothesis parts.2) state
  | alt first second firstHypothesis secondHypothesis =>
      have parts := List.append_eq_nil_iff.mp free
      rw [ways, ways, firstHypothesis parts.1, secondHypothesis parts.2,
        List.map_append]
  | loop strategy least most body inductionHypothesis =>
      have bodyFree := inductionHypothesis free
      cases strategy with
      | greedy => exact greedyWays_of_free bodyFree ..
      | lazy => exact lazyWays_of_free bodyFree ..
      | possessive =>
          rw [ways, ways, possessiveWay?_of_free bodyFree,
            Option.toList_map]
  | group body inductionHypothesis => exact inductionHypothesis free state
  | ahead positive body inductionHypothesis =>
      rw [ways, ways, inductionHypothesis free, List.head?_map]
      cases (body.ways text state).head? <;> cases positive <;> rfl
  | behind positive width body inductionHypothesis =>
      have found := inductionHypothesis free
        { state with position := state.position - width.least }
      rw [ways, ways]
      by_cases enough : width.least ≤ state.position
      · simp only [if_pos enough]
        rw [found, List.head?_map]
        cases (body.ways text _).head? <;> cases positive <;> rfl
      · simp only [if_neg enough]
        cases positive <;> rfl
  | atomic body inductionHypothesis =>
      rw [ways, ways, inductionHypothesis free, List.head?_map,
        Option.toList_map]

/-- Without groups, only the places matter. -/
theorem ways_eq_map_ends
    {r : Regex}
    (free : r.indices = [])
    (text : Array Char)
    (state : MatchState) :
    r.ways text state =
      (r.ends text state.position).map ({ state with position := · }) := by
  have same := ways_of_free free text { position := state.position }
    state.captures state.begun
  rw [ends, List.map_map]
  exact same

end Regex
end PathRouter
