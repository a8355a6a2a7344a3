import PathRouter.Proofs.Regex.Naming
import PathRouter.Proofs.Regex.Plain

/-!
# Self-contained constraints

A constraint may be spliced into a longer text wherever it says nothing about
what is around it: it is an expression by itself, turns on no flag for the whole
expression, and refers to no group by a number.

## Main definitions

* `Regex.IsSelfContained`: such constraints, with their expressions.

## Main statements

* `Regex.IsSelfContained.exists_splices`: they may be spliced.
-/

namespace PathRouter
namespace Regex

/-! ## References by number -/

namespace Reader

/-- Finds out whether digits behind a backslash are the number of a group. -/
def refersByNumber (reader : Reader) (next? : Option Symbol) : Bool :=
  match reader.mode with
  | .number _ digits => !next?.any (numberAccepts digits)
  | _ => false

theorem refersByNumber_iff {reader : Reader} {next? : Option Symbol} :
    reader.refersByNumber next? = true ↔ reader.RefersByNumber next? := by
  rw [refersByNumber]
  constructor
  · intro ends
    split at ends
    · rename_i start digits current
      exact ⟨start, digits, current, by simpa using ends⟩
    · cases ends
  · rintro ⟨start, digits, current, ends⟩
    rw [current]
    dsimp only
    rw [ends]
    rfl

variable [CharacterNames]

/-- Finds out whether a row of symbols refers to no group by its number. -/
def isNumberFree (reader : Reader) : List Symbol → Bool
  | [] => !reader.refersByNumber none
  | s :: rest => !reader.refersByNumber (some s) &&
      match reader.step s false with
      | .error _ => true
      | .ok next => next.isNumberFree rest

theorem isNumberFree_iff {reader : Reader} {row : List Symbol} :
    reader.isNumberFree row = true ↔ reader.NumberFree row := by
  induction row generalizing reader with
  | nil =>
      rw [isNumberFree, NumberFree, ← refersByNumber_iff, Bool.not_eq_true',
        Bool.not_eq_true]
  | cons s rest inductionHypothesis =>
      rw [isNumberFree, NumberFree, ← refersByNumber_iff, Bool.and_eq_true,
        Bool.not_eq_true', Bool.not_eq_true]
      apply and_congr_right'
      cases reader.step s false with
      | error fault => simp
      | ok next => simp [inductionHypothesis]

instance (reader : Reader) (row : List Symbol) :
    Decidable (reader.NumberFree row) :=
  decidable_of_iff _ isNumberFree_iff

end Reader

variable [CharacterNames]

/-- The numbers of groups to which choices in a text refer, each with its first
place. -/
def numberedConditions (source : String) : List (Nat × Nat) :=
  let settled := do
    let reader ← ({} : Reader).readAll (Symbol.ofChars source.toList)
    reader.settle none
  match settled with
  | .ok last => last.conditions
  | .error _ => []

theorem ReadsTo.numberedConditions_eq
    {source : String}
    {last : Reader}
    (reads : ReadsTo source last) :
    numberedConditions source = last.conditions := by
  obtain ⟨before, wasRead, settled⟩ := reads.reads
  rw [numberedConditions, Reader.readAll_eq_readRow reads.complete, wasRead,
    ok_bind, settled]

/-! ## Constraints -/

/-- A constraint stands for an expression by itself, and says nothing about the
text around it. -/
structure IsSelfContained (constraint : String) (own : Program) : Prop where
  /-- The constraint is an expression by itself. -/
  parsed : parse constraint = .ok own
  /-- No flag holds for the whole expression. -/
  globalFlags : globalFlags constraint = []
  /-- No digits behind a backslash are the number of a group. -/
  numberFree : ({} : Reader).NumberFree (Symbol.ofChars constraint.toList)
  /-- No choice refers to a group by its number. -/
  conditions : numberedConditions constraint = []

/-- A self-contained constraint may be spliced; the reader at its end knows its
expression and its groups. -/
theorem IsSelfContained.exists_splices
    {constraint : String}
    {own : Program}
    (selfContained : IsSelfContained constraint own) :
    ∃ last, Splices constraint last ∧
      own.groupCount = last.groupNames.length ∧
      own.names = namedIndices last.groupNames := by
  obtain ⟨last, reads, rfl⟩ := exists_readsTo_of_parse selfContained.parsed
  refine ⟨last, ⟨reads, selfContained.numberFree, ?_, ?_⟩, ?_,
    last.names_eq⟩
  · rw [← reads.numberedConditions_eq]
    exact selfContained.conditions
  · rw [← reads.globalFlags_eq]
    exact selfContained.globalFlags
  · exact last.length_groupNames.symm

end Regex
end PathRouter
