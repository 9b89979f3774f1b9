/-
  Routing/Proofs/Registration.lean
  ================================
  **What a registered constraint changes.**  Registering a constraint changes what its
  name stands for and nothing else; a reserved name changes nothing. So a name that
  was never registered stands for the built-in constraint, and one that was registered
  for an expression stands for the search for it, whatever was registered before. The
  names of the set stay in ascending order.
-/
import Routing.Proofs.Accepted
import Routing.Proofs.Keyed

namespace Routing

def reservedNames : List String := ["default", "="]

theorem isReserved_iff {name : String} :
    ConstraintSet.isReserved name ↔ name ∈ reservedNames := by
  simp [ConstraintSet.isReserved, reservedNames]

namespace ConstraintSet

/-! ### One registration -/

theorem lookup_insertFactory (name other : String) (factory : ConstraintFactory)
    (entries : List (String × ConstraintFactory)) :
    (insertFactory name factory entries).lookup other =
      if other = name then some factory else entries.lookup other := by
  induction entries with
  | nil =>
    by_cases h : other = name
    · simp [insertFactory, h]
    · simp [insertFactory, List.lookup_cons, h, beq_false_of_ne h]
  | cons entry rest ih =>
    obtain ⟨key, old⟩ := entry
    by_cases hkey : name = key
    · subst hkey
      by_cases h : other = name
      · simp [insertFactory, h]
      · simp [insertFactory, List.lookup_cons, h, beq_false_of_ne h]
    · by_cases hlt : name < key
      · by_cases h : other = name
        · simp [insertFactory, hkey, hlt, h]
        · simp [insertFactory, hkey, hlt, List.lookup_cons, h, beq_false_of_ne h]
      · by_cases h : other = key
        · subst h
          simp [insertFactory, hkey, hlt, Ne.symm hkey]
        · simp [insertFactory, hkey, hlt, List.lookup_cons, beq_false_of_ne h, ih]

/-- **Registering changes what its name stands for and nothing else.** -/
theorem factory?_register (set : ConstraintSet) (name other : String)
    (factory : ConstraintFactory) :
    (set.register name factory).factory? other =
      if other = name ∧ isReserved name = false then some factory else set.factory? other := by
  unfold register
  by_cases hreserved : isReserved name
  · simp [hreserved]
  · rw [if_neg hreserved]
    have hlookup := lookup_insertFactory name other factory set.factories
    simpa [factory?, hreserved] using hlookup

theorem factory?_register_of_ne {set : ConstraintSet} {name other : String}
    {factory : ConstraintFactory} (h : other ≠ name) :
    (set.register name factory).factory? other = set.factory? other := by
  rw [factory?_register, if_neg fun hname => h hname.1]

/-- An expression that cannot be read is a fault before anything is registered. -/
theorem registerRegexM_run (set : ConstraintSet) (name source : String) :
    (registerRegexM name source).run set =
      match Regex.ofText source with
      | .error fault => .error fault set
      | .ok r => .ok () (set.register name fun _ => .ok (Builtin.matching r)) := by
  unfold registerRegexM
  cases Regex.ofText source <;> rfl

theorem registerRegex_eq_ok_iff {set set' : ConstraintSet} {name source : String} :
    set.registerRegex name source = .ok set' ↔ ∃ r, Regex.ofText source = .ok r ∧
      set' = set.register name fun _ => .ok (Builtin.matching r) := by
  rw [registerRegex, Change.orError_eq_ok_iff, registerRegexM_run]
  cases Regex.ofText source with
  | error fault => simp
  | ok r => simp [eq_comm]

/-- The name stands for a built-in constraint or for the search for an expression. -/
def Standard (set : ConstraintSet) (name : String) : Prop :=
  set.factory? name = none ∨ ∃ r, set.factory? name = some fun _ => .ok (Builtin.matching r)

theorem standard_empty (name : String) : empty.Standard name :=
  .inl rfl

/-- Registering an expression leaves names standard, its own included. -/
theorem Standard.registerRegex {set set' : ConstraintSet} {name source other : String}
    (h : set.Standard other) (hset : set.registerRegex name source = .ok set') :
    set'.Standard other := by
  obtain ⟨r, -, rfl⟩ := registerRegex_eq_ok_iff.mp hset
  unfold Standard
  rw [factory?_register]
  split
  · exact .inr ⟨r, rfl⟩
  · exact h

/-! ### The names of a set -/

theorem mem_names_insertFactory {name other : String} {factory : ConstraintFactory}
    {entries : List (String × ConstraintFactory)} :
    other ∈ (insertFactory name factory entries).map Prod.fst ↔
      other = name ∨ other ∈ entries.map Prod.fst := by
  induction entries with
  | nil => simp [insertFactory]
  | cons entry rest ih =>
    rw [insertFactory]
    split
    · next heq => simp [heq]
    · split
      · simp
      · rw [List.map_cons, List.mem_cons, ih, List.map_cons, List.mem_cons, or_left_comm]

/-- A factory is put where its name belongs. -/
theorem pairwise_names_insertFactory (name : String) (factory : ConstraintFactory)
    {entries : List (String × ConstraintFactory)}
    (h : (entries.map Prod.fst).Pairwise (· < ·)) :
    ((insertFactory name factory entries).map Prod.fst).Pairwise (· < ·) := by
  induction entries with
  | nil => exact List.pairwise_singleton _ _
  | cons entry rest ih =>
    obtain ⟨hfirst, hrest⟩ := List.pairwise_cons.mp h
    rw [insertFactory]
    split
    · next heq =>
      rw [List.map_cons, heq]
      exact h
    · next hne =>
      split
      · next hlt =>
        refine List.pairwise_cons.mpr ⟨fun other hother => ?_, h⟩
        rcases List.mem_cons.mp hother with rfl | hother
        · exact hlt
        · exact String.lt_trans hlt (hfirst other hother)
      · next hle =>
        refine List.pairwise_cons.mpr ⟨fun other hother => ?_, ih hrest⟩
        rcases mem_names_insertFactory.mp hother with rfl | hother
        · exact Std.lt_of_le_of_ne (String.not_lt.mp hle) (Ne.symm hne)
        · exact hfirst other hother

theorem mem_names_iff {set : ConstraintSet} {name : String} :
    name ∈ set.names ↔ set.contains name := by
  rw [contains, Option.isSome_iff_ne_none, factory?, ne_eq, lookup_eq_none_iff_not_mem, not_not]
  rfl

end ConstraintSet

end Routing
