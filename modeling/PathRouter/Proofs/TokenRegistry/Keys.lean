import PathRouter.Proofs.Table.Reading
import PathRouter.Proofs.Table.Writing
import PathRouter.TokenRegistry

/-!
# Keys of token registries

Tokens are registered under names with a colon in front, and a name that has
its colon is its own key.  So a registry is rebuilt from its own entries.
-/

namespace PathRouter

theorem tokenKey_of_colon
    {name : String}
    {rest : List Char}
    (colon : name.toList = ':' :: rest) :
    tokenKey name = name := by
  simp [tokenKey, colon]

theorem tokenKey_eq_or (name : String) :
    tokenKey name = name ∨ tokenKey name = ":" ++ name := by
  unfold tokenKey
  split
  · exact .inl rfl
  · exact .inr rfl

theorem tokenKey_colon_append (name : String) :
    tokenKey (":" ++ name) = ":" ++ name := by
  have colon : (":" ++ name).toList = ':' :: name.toList := by simp
  exact tokenKey_of_colon colon

/-- A name without a colon in front gets one. -/
theorem tokenKey_of_noColon
    {name : String}
    (noColon : name.toList.head? ≠ some ':') :
    tokenKey name = ":" ++ name := by
  unfold tokenKey
  split
  · rename_i colon
    exact absurd (by rw [colon]; rfl) noColon
  · rfl

/-- The key of a token is its own key. -/
@[simp] theorem tokenKey_tokenKey (name : String) :
    tokenKey (tokenKey name) = tokenKey name := by
  rcases tokenKey_eq_or name with same | prefixed
  · rw [same, same]
  · rw [prefixed, tokenKey_colon_append]

/-- A reference looks its token up under the key of the token. -/
theorem tokenKey_key (ref : TokenRef) : tokenKey ref.key = ref.key := by
  have colon : ref.key.toList = ':' :: ref.name.toList := by
    simp [TokenRef.key]
  exact tokenKey_of_colon colon

namespace TokenRegistry

section Reading

variable {registry : TokenRegistry} {name constraint : String}
  {failure : RoutingError}

theorem contains_eq_false_iff :
    registry.contains name = false ↔ registry.get? name = none := by
  rw [contains, decide_eq_false_iff_not, get?, Table.get?_eq_none_iff]

theorem get_eq_ok_iff :
    registry.get name = .ok constraint ↔
      registry.get? name = some constraint := by
  rw [get]
  cases registry.get? name <;> simp

/-- The only failure is that the token is not registered. -/
theorem get_eq_error_iff :
    registry.get name = .error failure ↔
      registry.contains name = false ∧ failure = .unknownToken name := by
  rw [contains_eq_false_iff, get]
  cases registry.get? name <;> simp [eq_comm]

end Reading

/-- All tokens are registered under names with a colon. -/
def IsNormal (registry : TokenRegistry) : Prop :=
  ∀ key ∈ registry.table.keys, tokenKey key = key

theorem isNormal_empty : empty.IsNormal := by
  intro key member
  cases member

theorem IsNormal.insert
    {registry : TokenRegistry}
    (normal : registry.IsNormal)
    (name constraint : String) :
    (registry.insert name constraint).IsNormal := by
  intro key member
  rw [TokenRegistry.insert, Table.keys_insert] at member
  split at member
  · exact normal key member
  · rcases List.mem_append.mp member with old | new
    · exact normal key old
    · rw [List.mem_singleton.mp new, tokenKey_tokenKey]

/-- Registering tokens in turn writes their constraints under their keys. -/
theorem table_foldl_insert
    (registry : TokenRegistry)
    (entries : List (String × String)) :
    (entries.foldl (fun registry entry => registry.insert entry.1 entry.2)
      registry).table =
    registry.table.insertMany
      (entries.map fun entry => (tokenKey entry.1, entry.2)) := by
  induction entries generalizing registry with
  | nil => rfl
  | cons entry rest inductionHypothesis =>
      exact inductionHypothesis (registry.insert entry.1 entry.2)

theorem table_ofList (entries : List (String × String)) :
    (ofList entries).table =
      .ofList (entries.map fun entry => (tokenKey entry.1, entry.2)) :=
  table_foldl_insert empty entries

theorem isNormal_ofList (entries : List (String × String)) :
    (ofList entries).IsNormal := by
  unfold ofList
  generalize start : empty = registry
  have normal : registry.IsNormal := start ▸ isNormal_empty
  clear start
  induction entries generalizing registry with
  | nil => exact normal
  | cons entry rest inductionHypothesis =>
      exact inductionHypothesis _ (normal.insert entry.1 entry.2)

/-- A registry is rebuilt from its entries. -/
theorem ofList_entries
    {registry : TokenRegistry}
    (normal : registry.IsNormal) :
    ofList registry.table.entries = registry := by
  have unchanged : registry.table.entries.map
      (fun entry => (tokenKey entry.1, entry.2)) =
        registry.table.entries.map id := by
    refine List.map_congr_left fun entry member => ?_
    rw [normal entry.1 (List.mem_map_of_mem member)]
    rfl
  have same : (ofList registry.table.entries).table = registry.table := by
    rw [table_ofList, unchanged, List.map_id, Table.ofList_entries]
  cases registry
  exact congrArg TokenRegistry.mk same

end TokenRegistry
end PathRouter
