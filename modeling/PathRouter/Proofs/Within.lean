import PathRouter.Error
import PathRouter.Json.Fault
import PathRouter.Regex.Fault
import PathRouter.Toml.Fault

/-!
# Results within limits

A text is refused for one of two reasons: it is malformed, or it exceeds a
limit.  What is read in several steps exceeds only the limits that one of the
steps exceeds, so that it is followed step by step which ones these are.

A malformed text is a fault of the configuration that it belongs to, and a limit
is not.

## Main definitions

* `LimitFault`: faults of which some say that a limit is exceeded.
* `Within`: a result that exceeds no other limits than the expected ones.
* `Calm`: a result that exceeds no limit.
* `BlamesUnless`: a failure of the library that is blamed on the configuration
  unless one of some limits is exceeded.

## Main statements

* `BlamesUnless.ok_or_isConfiguration_iff`: all failures are blamed on the
  configuration exactly if none of the limits is exceeded.
-/

namespace PathRouter

/-- Faults of which some say that a limit is exceeded. -/
class LimitFault (φ : Type) where
  /-- The limit that is exceeded, unless the fault says something else. -/
  limit? : φ → Option Limit

instance : LimitFault Regex.Fault where
  limit?
    | .malformed _ _ => none
    | .limit exceeded => some exceeded

instance : LimitFault Json.Fault where
  limit?
    | .malformed _ _ => none
    | .limit exceeded => some exceeded

instance : LimitFault Toml.Fault where
  limit?
    | .malformed _ _ => none
    | .limit exceeded => some exceeded

variable {φ : Type} [LimitFault φ] {α β : Type}

/-- A result has a property if it is there, and a limit that it exceeds is among
the expected ones. -/
def Within (kept : α → Prop) (expected : Limit → Prop) : Except φ α → Prop
  | .ok value => kept value
  | .error fault =>
      ∀ exceeded, LimitFault.limit? fault = some exceeded → expected exceeded

/-- No limit is exceeded. -/
abbrev Calm (kept : α → Prop) (result : Except φ α) : Prop :=
  Within kept (fun _ => False) result

namespace Within

variable
  {kept : α → Prop}
  {expected : Limit → Prop}
  {result : Except φ α}

/-- A malformed text exceeds no limit. -/
theorem refused
    {fault : φ}
    (malformed : LimitFault.limit? fault = none) :
    Within kept expected (.error fault : Except φ α) := by
  intro exceeded limit
  cases malformed.symm.trans limit

theorem limit
    {fault : φ}
    {exceeded : Limit}
    (isLimit : LimitFault.limit? fault = some exceeded)
    (isExpected : expected exceeded) :
    Within kept expected (.error fault : Except φ α) := by
  intro other limit
  cases isLimit.symm.trans limit
  exact isExpected

theorem ite
    {condition : Prop}
    [Decidable condition]
    {yes no : Except φ α}
    (yesWithin : condition → Within kept expected yes)
    (noWithin : ¬condition → Within kept expected no) :
    Within kept expected (if condition then yes else no) := by
  split
  · next holds => exact yesWithin holds
  · next fails => exact noWithin fails

theorem imp
    {other : α → Prop}
    {more : Limit → Prop}
    (within : Within kept expected result)
    (keeps : ∀ value, kept value → other value)
    (weaker : ∀ exceeded, expected exceeded → more exceeded) :
    Within other more result := by
  cases result with
  | ok value => exact keeps value within
  | error fault =>
      exact fun exceeded limit => weaker exceeded (within exceeded limit)

theorem mono
    {more : Limit → Prop}
    (within : Within kept expected result)
    (weaker : ∀ exceeded, expected exceeded → more exceeded) :
    Within kept more result :=
  within.imp (fun _ => id) weaker

theorem bind
    {other : β → Prop}
    {first : Except φ β}
    {next : β → Except φ α}
    (within : Within other expected first)
    (behind : ∀ value, first = .ok value → other value →
      Within kept expected (next value)) :
    Within kept expected (first >>= next) := by
  cases first with
  | ok value => exact behind value rfl within
  | error fault => exact within

end Within

namespace Calm

variable {kept : α → Prop} {result : Except φ α}

theorem within
    {expected : Limit → Prop}
    (calm : Calm kept result) :
    Within kept expected result :=
  calm.mono fun _ => False.elim

/-- A step that exceeds no limit may fail in place of the whole. -/
theorem passed
    {fault : φ}
    {other : β → Prop}
    {expected : Limit → Prop}
    (calm : Calm kept result)
    (failed : result = .error fault) :
    Within other expected (.error fault : Except φ β) := by
  rw [failed] at calm
  exact fun exceeded limit => (calm exceeded limit).elim

theorem map
    {other : β → Prop}
    {f : α → β}
    (calm : Calm kept result)
    (keeps : ∀ value, kept value → other (f value)) :
    Calm other (f <$> result) := by
  cases result with
  | ok value => exact keeps value calm
  | error fault => exact calm

theorem forM
    {list : List α}
    {check : α → Except φ PUnit}
    (calm : ∀ entry, Calm (fun _ => True) (check entry)) :
    Calm (fun _ => True) (list.forM check) := by
  induction list with
  | nil => exact trivial
  | cons entry rest inductionHypothesis =>
      exact .bind (calm entry) fun _ _ _ => inductionHypothesis

end Calm

/-! ## Failures of the library -/

/-- The absence of a result is blamed on the configuration unless a limit is
exceeded that is one of some limits. -/
def BlamesUnless (exceeds : Limit → Prop) :
    Except RoutingError α → Prop
  | .ok _ => True
  | .error failure =>
      failure.kind.isConfiguration = true ∨
        ∃ exceeded, failure = .limit exceeded ∧ exceeds exceeded

theorem not_isConfiguration_limit (exceeded : Limit) :
    (RoutingError.limit exceeded).kind.isConfiguration ≠ true := by
  intro isConfiguration
  cases exceeded <;> cases isConfiguration

namespace BlamesUnless

variable {exceeds : Limit → Prop} {result : Except RoutingError α}

theorem bind
    {first : Except RoutingError β}
    {next : β → Except RoutingError α}
    (blames : BlamesUnless exceeds first)
    (behind : ∀ value, first = .ok value →
      BlamesUnless exceeds (next value)) :
    BlamesUnless exceeds (first >>= next) := by
  cases first with
  | ok value => exact behind value rfl
  | error failure => exact blames

theorem mono
    {more : Limit → Prop}
    (blames : BlamesUnless exceeds result)
    (weaker : ∀ exceeded, exceeds exceeded → more exceeded) :
    BlamesUnless more result := by
  cases result with
  | ok value => trivial
  | error failure =>
      rcases blames with isConfiguration | ⟨exceeded, isLimit, exceeds⟩
      · exact .inl isConfiguration
      · exact .inr ⟨exceeded, isLimit, weaker exceeded exceeds⟩

/-- A fault that is always blamed on the configuration. -/
theorem mapError
    {ε : Type}
    {first : Except ε α}
    {failure : ε → RoutingError}
    (blamed : ∀ fault, (failure fault).kind.isConfiguration = true) :
    BlamesUnless exceeds (first.mapError failure) := by
  cases first with
  | ok value => trivial
  | error fault => exact .inl (blamed fault)

/-- All failures are blamed on the configuration exactly if none of the limits
is exceeded. -/
theorem ok_or_isConfiguration_iff
    (blames : BlamesUnless exceeds result)
    (refused : ∀ exceeded, exceeds exceeded →
      result = .error (.limit exceeded)) :
    ((∃ value, result = .ok value) ∨
      ∃ failure, result = .error failure ∧
        failure.kind.isConfiguration = true) ↔
      ∀ exceeded, ¬exceeds exceeded := by
  constructor
  · rintro (⟨value, rfl⟩ | ⟨failure, rfl, isConfiguration⟩)
    · intro exceeded exceeds
      cases refused exceeded exceeds
    · intro exceeded exceeds
      cases refused exceeded exceeds
      exact not_isConfiguration_limit exceeded isConfiguration
  · intro never
    cases result with
    | ok value => exact .inl ⟨value, rfl⟩
    | error failure =>
        rcases blames with isConfiguration | ⟨exceeded, _, exceeds⟩
        · exact .inr ⟨failure, rfl, isConfiguration⟩
        · exact absurd exceeds (never exceeded)

end BlamesUnless
end PathRouter
