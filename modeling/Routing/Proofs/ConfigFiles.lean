/-
  Routing/Proofs/ConfigFiles.lean
  ===============================
  **The configuration of a file has its constraints in order.**  The constraints of a file
  are the entries of one of its tables, so no name has two of them, and they are sorted by
  their names. Sorted and distinct names ascend, and texts ascend as their bytes do.
-/
import Routing.Proofs.ByteOrder
import Routing.Proofs.ConfiguredTable
import Routing.Proofs.DistinctKeys

namespace Routing.RoutesConfig

open Text.Percent (bytesOf_lt)

/-- The keys of a table in a file are distinct, and a date counts as a table of one entry. -/
theorem nodup_of_entriesOf {v : Toml.Value} (hv : v.DistinctKeys)
    {entries : List (String × Toml.Value)} (h : entriesOf v = some entries) :
    (entries.map Prod.fst).Nodup := by
  unfold entriesOf at h
  split at h
  · cases h
    cases hv with
    | table hkeys _ => exact hkeys
  · cases h
    exact List.nodup_singleton _
  · cases h

theorem names_of_texts {entries : List (String × Toml.Value)} {texts : List (String × String)}
    (h : (entries.mapM fun (name, source) => (textOf source).map fun source => (name, source)) =
      some texts) : texts.map Prod.fst = entries.map Prod.fst := by
  induction entries generalizing texts with
  | nil =>
    cases h
    rfl
  | cons entry rest ih =>
    simp only [List.mapM_cons, Option.bind_eq_bind, Option.pure_def, Option.bind_eq_some_iff,
      Option.map_eq_some_iff, Option.some.injEq] at h
    obtain ⟨_, ⟨source, -, rfl⟩, others, hothers, rfl⟩ := h
    rw [List.map_cons, List.map_cons, ih hothers]

/-- The names of the constraints ascend. -/
theorem pairwise_constraintsOf {v : Toml.Value} (hv : v.DistinctKeys)
    {constraints : List (String × String)} (h : constraintsOf v = some constraints) :
    constraints.Pairwise fun first second => first.1 < second.1 := by
  simp only [constraintsOf, Option.bind_eq_bind, Option.pure_def, Option.bind_eq_some_iff,
    Option.some.injEq] at h
  obtain ⟨entries, hentries, texts, htexts, rfl⟩ := h
  have hle {a b : String × String} : (!decide (b.1 < a.1)) = true ↔ a.1 ≤ b.1 := by
    simp only [Bool.not_eq_true', decide_eq_false_iff_not, String.not_lt]
  have hsorted : (texts.mergeSort fun a b => !decide (b.1 < a.1)).Pairwise
      fun first second => first.1 ≤ second.1 := by
    refine (List.pairwise_mergeSort (fun a b c hab hbc => ?_) (fun a b => ?_) texts).imp hle.mp
    · exact hle.mpr (String.le_trans (hle.mp hab) (hle.mp hbc))
    · rw [Bool.or_eq_true, hle, hle]
      exact String.le_total a.1 b.1
  have hnodup : ((texts.mergeSort fun a b => !decide (b.1 < a.1)).map Prod.fst).Nodup := by
    rw [((List.mergeSort_perm texts _).map Prod.fst).nodup_iff, names_of_texts htexts]
    exact nodup_of_entriesOf hv hentries
  rw [List.Nodup, List.pairwise_map] at hnodup
  exact (hsorted.and hnodup).imp fun h => Std.lt_of_le_of_ne h.1 h.2

theorem constraints_of_parse {content : String} {config : RoutesConfig}
    (h : parse content = some config) : config.constraints = [] ∨ ∃ entries v,
      Toml.parse content = some entries ∧ entries.lookup "constraints" = some v ∧
        constraintsOf v = some config.constraints := by
  unfold parse at h
  split at h
  · cases h
    exact .inl rfl
  · obtain ⟨entries, hentries, h⟩ := Option.bind_eq_some_iff.mp h
    -- what is read of the routes changes nothing about the constraints
    have hroutes {constraints : List (String × String)} {routes : Option (List RouteEntry)}
        (h : (routes.bind fun routes => some (RoutesConfig.mk constraints routes)) = some config) :
        config.constraints = constraints := by
      obtain ⟨_, -, heq⟩ := Option.bind_eq_some_iff.mp h
      cases heq
      rfl
    dsimp only at h
    split at h
    · left
      obtain ⟨constraints, hnone, h⟩ := Option.bind_eq_some_iff.mp h
      cases hnone
      split at h <;> exact hroutes h
    · next v hv =>
      right
      obtain ⟨constraints, hconstraints, h⟩ := Option.bind_eq_some_iff.mp h
      refine ⟨entries, v, hentries, hv, hconstraints.trans (congrArg some ?_)⟩
      split at h <;> exact (hroutes h).symm

/-- **The configuration of a file has its constraints in order.** -/
theorem ordered_of_parse {content : String} {config : RoutesConfig}
    (h : parse content = some config) : config.Ordered := by
  rcases constraints_of_parse h with hnil | ⟨entries, v, hentries, hv, hconstraints⟩
  · rw [Ordered, hnil]
    exact .nil
  · cases Toml.distinctKeys_parse hentries with
    | table _ hvalues =>
      have hnames := pairwise_constraintsOf (hvalues _ (mem_of_lookup hv)) hconstraints
      exact hnames.imp bytesOf_lt

end Routing.RoutesConfig
