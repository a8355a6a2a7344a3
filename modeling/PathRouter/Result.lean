/-!
# Results

Most computations of this library end in a value or in a failure.  These are
the laws of results that are used throughout.
-/

namespace PathRouter

variable {ε α β : Type}

@[simp] theorem ok_bind (value : α) (next : α → Except ε β) :
    (Except.ok value >>= next) = next value := rfl

@[simp] theorem error_bind (failure : ε) (next : α → Except ε β) :
    (Except.error failure >>= next) = .error failure := rfl

@[simp] theorem pure_eq_ok (value : α) :
    (pure value : Except ε α) = .ok value := rfl

@[simp] theorem map_ok (f : α → β) (value : α) :
    (f <$> (Except.ok value : Except ε α)) = .ok (f value) := rfl

@[simp] theorem map_error (f : α → β) (failure : ε) :
    (f <$> (Except.error failure : Except ε α)) = .error failure := rfl

/-- Computing in two steps succeeds by a result of the first one, from which
the second one succeeds. -/
theorem exists_of_bind {first : Except ε α} {second : α → Except ε β}
    {result : β} (read : first >>= second = .ok result) :
    ∃ middle, first = .ok middle ∧ second middle = .ok result := by
  cases first with
  | error fault => simp at read
  | ok middle => exact ⟨middle, rfl, read⟩

/-- Computing in two steps fails if one of the steps does. -/
theorem bind_eq_error_iff {first : Except ε α} {second : α → Except ε β}
    {failure : ε} :
    first >>= second = .error failure ↔
      first = .error failure ∨
        ∃ middle, first = .ok middle ∧ second middle = .error failure := by
  cases first with
  | error fault => simp
  | ok middle => simp

/-- A result that is mapped succeeds if the original one does. -/
theorem exists_of_map {f : α → β} {first : Except ε α} {result : β}
    (mapped : f <$> first = .ok result) :
    ∃ value, first = .ok value ∧ f value = result := by
  cases first with
  | error failure => simp at mapped
  | ok value => exact ⟨value, rfl, Except.ok.inj mapped⟩

/-- A list passes a check if each of its members does. -/
theorem forM_eq_ok_iff {check : α → Except ε PUnit} {list : List α} :
    list.forM check = .ok () ↔ ∀ value ∈ list, check value = .ok () := by
  induction list with
  | nil => exact ⟨fun _ => nofun, fun _ => rfl⟩
  | cons value rest inductionHypothesis =>
      change check value >>= (fun _ => rest.forM check) = .ok () ↔ _
      rw [List.forall_mem_cons, ← inductionHypothesis]
      cases check value with
      | error failure => exact ⟨nofun, nofun⟩
      | ok _ => exact ⟨fun passed => ⟨rfl, passed⟩, fun passed => passed.2⟩

@[simp] theorem mapError_eq_ok_iff {δ : Type} {f : ε → δ}
    {result : Except ε α} {value : α} :
    result.mapError f = .ok value ↔ result = .ok value := by
  cases result with
  | error failure => exact ⟨nofun, nofun⟩
  | ok other => exact ⟨fun equal => by cases equal; rfl,
      fun equal => by cases equal; rfl⟩

end PathRouter
