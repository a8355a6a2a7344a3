import PathRouter.Proofs.Regex.Ways

/-!
# What groups have read

Reading an expression never goes back, records what its own groups read, and
keeps what the other groups have read.

## Main definitions

* `Regex.recorded`: the groups that an expression captures.
* `Regex.Records`: reading goes on and records certain groups only.

## Main statements

* `Regex.relation_of_mem_greedyWays` and its like: what every round keeps, a
  repetition keeps.
* `Regex.records_of_mem_ways`: only the groups of an expression are recorded.
-/

namespace PathRouter
namespace Regex

/-- The groups that an expression captures. -/
def recorded : Regex → List Nat
  | empty | one _ | assert _ | backreference _ _ => []
  | seq first second => first.recorded ++ second.recorded
  | alt first second => first.recorded ++ second.recorded
  | loop _ _ _ body => body.recorded
  | capture index body => index :: body.recorded
  | group body => body.recorded
  | ifGroup _ yes no => yes.recorded ++ no.recorded
  | ahead _ body => body.recorded
  | behind _ _ body => body.recorded
  | atomic body => body.recorded

theorem recorded_sequence (row : List Regex) :
    (sequence row).recorded = row.flatMap recorded := by
  fun_induction sequence row with
  | case1 => rfl
  | case2 r => simp
  | case3 r rest nonempty inductionHypothesis =>
      rw [recorded, inductionHypothesis, List.flatMap_cons]

theorem recorded_alternation (branches : List Regex) :
    (alternation branches).recorded = branches.flatMap recorded := by
  fun_induction alternation branches with
  | case1 => rfl
  | case2 r => simp
  | case3 r rest nonempty inductionHypothesis =>
      rw [recorded, inductionHypothesis, List.flatMap_cons]

/-- What is captured counts among the groups of an expression. -/
theorem recorded_subset_indices (r : Regex) : r.recorded ⊆ r.indices := by
  induction r with
  | empty | one _ | assert _ | backreference _ _ => exact List.nil_subset _
  | seq first second firstHypothesis secondHypothesis
  | alt first second firstHypothesis secondHypothesis =>
      exact List.append_subset.mpr
        ⟨List.Subset.trans firstHypothesis (List.subset_append_left ..),
          List.Subset.trans secondHypothesis (List.subset_append_right ..)⟩
  | capture index body inductionHypothesis =>
      exact List.cons_subset_cons index inductionHypothesis
  | ifGroup index yes no yesHypothesis noHypothesis =>
      refine List.Subset.trans (List.append_subset.mpr ⟨?_, ?_⟩)
        (List.subset_cons_self ..)
      · exact List.Subset.trans yesHypothesis (List.subset_append_left ..)
      · exact List.Subset.trans noHypothesis (List.subset_append_right ..)
  | loop _ _ _ body inductionHypothesis
  | group body inductionHypothesis
  | ahead _ body inductionHypothesis
  | behind _ _ body inductionHypothesis
  | atomic body inductionHypothesis => exact inductionHypothesis

section Rounds

variable
  {relation : MatchState → MatchState → Prop}
  {bodyWays : MatchState → List MatchState}
  (reflexive : ∀ state, relation state state)
  (transitive : ∀ first second third,
    relation first second → relation second third → relation first third)
  (bodyKeeps : ∀ state, ∀ after ∈ bodyWays state, relation state after)

include reflexive transitive bodyKeeps

theorem relation_of_mem_greedyWays
    {fuel least : Nat}
    {most last? : Option Nat}
    {state after : MatchState}
    (reached : after ∈ greedyWays bodyWays fuel least most last? state) :
    relation state after := by
  induction fuel generalizing least most last? state with
  | zero => cases reached
  | succ fuel inductionHypothesis =>
      cases least with
      | succ least =>
          obtain ⟨middle, round, rest⟩ := List.mem_flatMap.mp reached
          exact transitive _ _ _ (bodyKeeps state middle round)
            (inductionHypothesis rest)
      | zero =>
          rw [greedyWays] at reached
          split at reached
          · rcases List.mem_append.mp reached with more | stop
            · obtain ⟨middle, round, rest⟩ := List.mem_flatMap.mp more
              exact transitive _ _ _ (bodyKeeps state middle round)
                (inductionHypothesis rest)
            · rw [List.mem_singleton.mp stop]
              exact reflexive state
          · rw [List.mem_singleton.mp reached]
            exact reflexive state

theorem relation_of_mem_lazyWays
    {fuel least : Nat}
    {most last? : Option Nat}
    {state after : MatchState}
    (reached : after ∈ lazyWays bodyWays fuel least most last? state) :
    relation state after := by
  induction fuel generalizing least most last? state with
  | zero => cases reached
  | succ fuel inductionHypothesis =>
      cases least with
      | succ least =>
          obtain ⟨middle, round, rest⟩ := List.mem_flatMap.mp reached
          exact transitive _ _ _ (bodyKeeps state middle round)
            (inductionHypothesis rest)
      | zero =>
          rw [lazyWays] at reached
          rcases List.mem_cons.mp reached with rfl | more
          · exact reflexive _
          · split at more
            · obtain ⟨middle, round, rest⟩ := List.mem_flatMap.mp more
              exact transitive _ _ _ (bodyKeeps state middle round)
                (inductionHypothesis rest)
            · cases more

theorem relation_of_possessiveWay?
    {fuel least : Nat}
    {most : Option Nat}
    {state after : MatchState}
    (reached : possessiveWay? bodyWays fuel least most state = some after) :
    relation state after := by
  induction fuel generalizing least most state with
  | zero => cases reached
  | succ fuel inductionHypothesis =>
      cases least with
      | succ least =>
          rw [possessiveWay?] at reached
          split at reached
          · cases reached
          · rename_i middle first
            exact transitive _ _ _
              (bodyKeeps state middle (List.mem_of_head? first))
              (inductionHypothesis reached)
      | zero =>
          rw [possessiveWay?] at reached
          split at reached
          · cases reached
            exact reflexive _
          · split at reached
            · cases reached
              exact reflexive _
            · rename_i middle first
              have round := bodyKeeps state middle (List.mem_of_head? first)
              split at reached
              · cases reached
                exact round
              · exact transitive _ _ _ round (inductionHypothesis reached)

end Rounds

/-- Reading goes on, and what it records belongs to some of the groups. -/
structure Records (groups : List Nat) (before after : MatchState) : Prop where
  /-- Reading never goes back. -/
  position : before.position ≤ after.position
  /-- What is new belongs to one of the groups. -/
  captures : ∃ own, after.captures = own ++ before.captures ∧
    ∀ entry ∈ own, entry.1 ∈ groups

namespace Records

variable {groups : List Nat} {before after : MatchState}

theorem refl (state : MatchState) : Records groups state state :=
  ⟨Nat.le_refl _, [], rfl, nofun⟩

theorem trans
    (first second third : MatchState)
    (early : Records groups first second)
    (late : Records groups second third) :
    Records groups first third := by
  obtain ⟨own, recorded, among⟩ := early.captures
  obtain ⟨more, recordedToo, amongToo⟩ := late.captures
  refine ⟨Nat.le_trans early.position late.position, more ++ own, ?_, ?_⟩
  · rw [recordedToo, recorded, List.append_assoc]
  · exact List.forall_mem_append.mpr ⟨amongToo, among⟩

theorem mono
    {more : List Nat}
    (records : Records groups before after)
    (among : groups ⊆ more) :
    Records more before after := by
  obtain ⟨own, recorded, inside⟩ := records.captures
  exact ⟨records.position, own, recorded, fun entry member =>
    among (inside entry member)⟩

/-- A place may be given up for another one behind the first. -/
theorem atPosition
    {position : Nat}
    (records : Records groups before after)
    (onwards : before.position ≤ position) :
    Records groups before { after with position } :=
  ⟨onwards, records.captures⟩

/-- What was recorded on the way is old or belongs to one of the groups. -/
theorem mem_or
    (records : Records groups before after)
    {entry : Nat × Nat × Nat}
    (member : entry ∈ after.captures) :
    entry ∈ before.captures ∨ entry.1 ∈ groups := by
  obtain ⟨own, recorded, inside⟩ := records.captures
  rw [recorded] at member
  rcases List.mem_append.mp member with new | old
  · exact .inr (inside entry new)
  · exact .inl old

/-- Other groups keep what they have read. -/
theorem span?_eq
    {index : Nat}
    (records : Records groups before after)
    (other : index ∉ groups) :
    after.span? index = before.span? index := by
  obtain ⟨own, recorded, inside⟩ := records.captures
  have absent : own.lookup index = none := by
    apply List.lookup_eq_none_iff.mpr
    intro entry member
    apply bne_iff_ne.mpr
    rintro rfl
    exact other (inside entry member)
  rw [MatchState.span?, recorded, List.lookup_append, absent, Option.none_or]
  rfl

end Records

/-- A look around keeps the state or takes over what was recorded there. -/
theorem eq_or_exists_of_mem_look
    {positive : Bool}
    {found : Option MatchState}
    {state result : MatchState}
    (reached : result ∈
      match found with
      | some after =>
          if positive then [{ after with position := state.position }] else []
      | none => if positive then [] else [state]) :
    result = state ∨ ∃ after, found = some after ∧
      result = { after with position := state.position } := by
  cases found with
  | none =>
      cases positive with
      | false => exact .inl (List.mem_singleton.mp reached)
      | true => cases reached
  | some after =>
      cases positive with
      | false => cases reached
      | true => exact .inr ⟨after, rfl, List.mem_singleton.mp reached⟩

/-- Reading an expression records its own groups only. -/
theorem records_of_mem_ways
    {r : Regex}
    {text : Array Char}
    {state after : MatchState}
    (reached : after ∈ r.ways text state) :
    Records r.recorded state after := by
  induction r generalizing state after with
  | empty =>
      rw [List.mem_singleton.mp reached]
      exact .refl state
  | one test =>
      rw [ways] at reached
      split at reached
      · cases reached
      · split at reached
        · rw [List.mem_singleton.mp reached]
          exact (Records.refl state).atPosition (Nat.le_add_right ..)
        · cases reached
  | assert anchor =>
      rw [ways] at reached
      split at reached
      · rw [List.mem_singleton.mp reached]
        exact .refl state
      · cases reached
  | backreference folding index =>
      rw [ways] at reached
      split at reached
      · cases reached
      · split at reached
        · rw [List.mem_singleton.mp reached]
          exact (Records.refl state).atPosition (Nat.le_add_right ..)
        · cases reached
  | seq first second firstHypothesis secondHypothesis =>
      obtain ⟨middle, begun, ended⟩ := List.mem_flatMap.mp reached
      exact .trans _ _ _
        ((firstHypothesis begun).mono (List.subset_append_left ..))
        ((secondHypothesis ended).mono (List.subset_append_right ..))
  | alt first second firstHypothesis secondHypothesis =>
      rcases List.mem_append.mp reached with left | right
      · exact (firstHypothesis left).mono (List.subset_append_left ..)
      · exact (secondHypothesis right).mono (List.subset_append_right ..)
  | loop strategy least most body inductionHypothesis =>
      have bodyKeeps : ∀ state, ∀ after ∈ body.ways text state,
          Records body.recorded state after := fun _ _ => inductionHypothesis
      cases strategy with
      | greedy =>
          exact relation_of_mem_greedyWays Records.refl Records.trans
            bodyKeeps reached
      | lazy =>
          exact relation_of_mem_lazyWays Records.refl Records.trans bodyKeeps
            reached
      | possessive =>
          exact relation_of_possessiveWay? Records.refl Records.trans
            bodyKeeps (Option.mem_toList.mp reached)
  | capture index body inductionHypothesis =>
      obtain ⟨inside, begun, rfl⟩ := List.mem_map.mp reached
      obtain ⟨onwards, own, captures, among⟩ := inductionHypothesis begun
      refine ⟨onwards, (index, state.position, inside.position) :: own,
        congrArg _ captures, ?_⟩
      exact List.forall_mem_cons.mpr ⟨List.mem_cons_self,
        fun entry member => List.mem_cons_of_mem _ (among entry member)⟩
  | group body inductionHypothesis => exact inductionHypothesis reached
  | ifGroup index yes no yesHypothesis noHypothesis =>
      rw [ways] at reached
      split at reached
      · exact (yesHypothesis reached).mono (List.subset_append_left ..)
      · exact (noHypothesis reached).mono (List.subset_append_right ..)
  | ahead positive body inductionHypothesis =>
      rcases eq_or_exists_of_mem_look reached with rfl | ⟨found, first, rfl⟩
      · exact .refl _
      · have inside := inductionHypothesis (List.mem_of_head? first)
        exact inside.atPosition (Nat.le_refl _)
  | behind positive width body inductionHypothesis =>
      rcases eq_or_exists_of_mem_look reached with rfl | ⟨found, first, rfl⟩
      · exact .refl _
      · split at first
        · have inside := inductionHypothesis (List.mem_of_head? first)
          exact ⟨Nat.le_refl _, inside.captures⟩
        · cases first
  | atomic body inductionHypothesis =>
      exact inductionHypothesis
        (List.mem_of_head? (Option.mem_toList.mp reached))

/-- Reading a row of expressions records their groups only. -/
theorem records_of_mem_rowWays
    {row : List Regex}
    {text : Array Char}
    {state after : MatchState}
    (reached : after ∈ rowWays text row state) :
    Records (row.flatMap recorded) state after := by
  induction row generalizing state with
  | nil =>
      rw [List.mem_singleton.mp reached]
      exact .refl state
  | cons r rest inductionHypothesis =>
      obtain ⟨middle, begun, ended⟩ := List.mem_flatMap.mp reached
      rw [List.flatMap_cons]
      exact .trans _ _ _
        ((records_of_mem_ways begun).mono (List.subset_append_left ..))
        ((inductionHypothesis ended).mono (List.subset_append_right ..))

end Regex
end PathRouter
