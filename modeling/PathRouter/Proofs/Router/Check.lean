import PathRouter.Proofs.Router.Scan

/-!
# What a check says about paths

A router that passes its check resolves every path without a failure.  In any
other router the failure of the check is the failure of every path that no
route before the failing one matches.
-/

namespace PathRouter
namespace Router

variable [CharacterNames]

/-- A check decides what resolving paths can end in.  After a success every
path leads to the first route that matches it, or to none if all routes pass it
on, and the texts of all expressions are there.  After a failure every path
leads to the first match among the routes before the failing one, or else ends
in the same failure. -/
theorem matchRoute_of_check (router : Router) :
    match router.check with
    | .ok () =>
        (∀ path,
          (∃ route,
            FirstMatch router.compiler path router.routes.entries route ∧
              router.matchRoute path = .ok (some route)) ∨
          ((∀ entry ∈ router.routes.entries,
              router.compiler.Passes path entry.1) ∧
            router.matchRoute path = .ok none)) ∧
        ∃ sources, router.sources = .ok sources
    | .error failure =>
        ∃ before pattern template after,
          router.routes.entries = before ++ (pattern, template) :: after ∧
          (∀ entry ∈ before, router.compiler.Compiles entry.1) ∧
          router.compiler.compile pattern = .error failure ∧
          ∀ path,
            (∃ route, FirstMatch router.compiler path before route ∧
              router.matchRoute path = .ok (some route)) ∨
            ((∀ entry ∈ before, router.compiler.Passes path entry.1) ∧
              router.matchRoute path = .error failure) := by
  cases checked : router.check with
  | ok _ =>
      have all := (compileAll_eq_ok_iff router.routes.keys).mp checked
      have compile : ∀ entry ∈ router.routes.entries,
          router.compiler.Compiles entry.1 :=
        fun entry member => all entry.1 (List.mem_map_of_mem member)
      refine ⟨fun path => ?_, exists_sourcesOf all⟩
      rcases exists_firstMatch_or_passes path compile with
        ⟨route, first⟩ | pass
      · exact .inl ⟨route, first, matchRoute_of_firstMatch first⟩
      · exact .inr ⟨pass, matchRoute_of_passes pass⟩
  | error failure =>
      obtain ⟨before, failing, after, split, all, failed⟩ :=
        (compileAll_eq_error_iff router.routes.keys failure).mp checked
      obtain ⟨earlier, later, entries, rfl, behind⟩ :=
        List.map_eq_append_iff.mp split
      obtain ⟨⟨pattern, template⟩, rest, rfl, rfl, rfl⟩ :=
        List.map_eq_cons_iff.mp behind
      have compile : ∀ entry ∈ earlier, router.compiler.Compiles entry.1 :=
        fun entry member => all entry.1 (List.mem_map_of_mem member)
      refine ⟨earlier, pattern, template, rest, entries, compile, failed,
        fun path => ?_⟩
      rcases exists_firstMatch_or_passes path compile with
        ⟨route, first⟩ | pass
      · have whole := first.append ((pattern, template) :: rest)
        rw [← entries] at whole
        exact .inl ⟨route, first, matchRoute_of_firstMatch whole⟩
      · exact .inr ⟨pass, matchRoute_of_failure entries pass failed⟩

end Router
end PathRouter
