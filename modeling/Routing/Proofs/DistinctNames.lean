/-
  Routing/Proofs/DistinctNames.lean
  =================================
  **Values with one entry for each name.**  Setting values never makes two entries for one
  name, and on such entries the searches of `take` and `get?` for the first entry are
  statements about all entries: `take` drops exactly the entries of a name, and `get?` does
  not depend on the order of the entries.
-/
import Routing.Proofs.MatchedValues

namespace Routing.RouteValues

def names (values : RouteValues) : List String :=
  values.entries.map Prod.fst

/-- No name has two entries. -/
def Distinct (values : RouteValues) : Prop :=
  values.names.Nodup

/-! ### Setting keeps names distinct -/

theorem names_setEntry (name : String) (value : Value) (entries : List (String × Value)) :
    (setEntry name value entries).map Prod.fst =
      if name ∈ entries.map Prod.fst then entries.map Prod.fst
      else entries.map Prod.fst ++ [name] := by
  by_cases hmem : name ∈ entries.map Prod.fst
  · rw [if_pos hmem]
    induction entries with
    | nil => cases hmem
    | cons entry rest ih =>
      rw [setEntry]
      split
      · next heq => rw [List.map_cons, List.map_cons, heq]
      · next hne =>
        rw [List.map_cons, List.mem_cons] at hmem
        rw [List.map_cons, List.map_cons, ih (hmem.resolve_left (Ne.symm hne))]
  · rw [if_neg hmem, setEntry_of_not_mem hmem, List.map_append]
    rfl

theorem names_set (values : RouteValues) (name : String) (value : Value) :
    (values.set name value).names =
      if name ∈ values.names then values.names else values.names ++ [name] :=
  names_setEntry name value values.entries

theorem distinct_empty : empty.Distinct :=
  .nil

theorem Distinct.set {values : RouteValues} (h : values.Distinct) (name : String)
    (value : Value) : (values.set name value).Distinct := by
  unfold Distinct
  rw [names_set]
  split
  · exact h
  · next hnew =>
    rw [← List.concat_eq_append, List.nodup_concat]
    exact ⟨hnew, h⟩

/-- **Values that are set one after another have one entry for each name.** -/
theorem distinct_ofList (pairs : List (String × Value)) : (ofList pairs).Distinct := by
  have hfold {values : RouteValues} (h : values.Distinct) :
      (pairs.foldl (fun values pair => values.set pair.1 pair.2) values).Distinct := by
    induction pairs generalizing values with
    | nil => exact h
    | cons pair rest ih => exact ih (h.set pair.1 pair.2)
  exact hfold distinct_empty

/-! ### Taking values out -/

/-- With distinct names the first entry of a name is the only one. -/
theorem eraseEntry_eq_filter {name : String} {entries : List (String × Value)}
    (h : (entries.map Prod.fst).Nodup) :
    eraseEntry name entries = entries.filter fun entry => entry.1 ≠ name := by
  induction entries with
  | nil => rfl
  | cons entry rest ih =>
    rw [List.map_cons, List.nodup_cons] at h
    rw [eraseEntry]
    split
    · next heq =>
      have hrest : ∀ other ∈ rest, other.1 ≠ name := by
        rintro other hother rfl
        exact h.1 (heq ▸ List.mem_map_of_mem hother)
      rw [List.filter_cons_of_neg (by simpa using heq),
        List.filter_eq_self.mpr (by simpa using hrest)]
    · next hne => rw [List.filter_cons_of_pos (by simpa using hne), ih h.2]

theorem Distinct.filter {values : RouteValues} (h : values.Distinct)
    (kept : String × Value → Bool) : Distinct ⟨values.entries.filter kept⟩ :=
  h.sublist (List.filter_sublist.map Prod.fst)

theorem Distinct.entries_take {values : RouteValues} (h : values.Distinct) (name : String) :
    (values.take name).2.entries = values.entries.filter fun entry => entry.1 ≠ name :=
  eraseEntry_eq_filter h

theorem Distinct.names_take {values : RouteValues} (h : values.Distinct) (name : String) :
    (values.take name).2.names = values.names.filter (· ≠ name) := by
  rw [names, h.entries_take, names, List.filter_map]
  rfl

theorem Distinct.take {values : RouteValues} (h : values.Distinct) (name : String) :
    (values.take name).2.Distinct := by
  unfold Distinct names
  rw [h.entries_take]
  exact h.filter _

/-- **What is left are the entries of all other names**, in their order. -/
theorem Distinct.entries_without {values : RouteValues} (h : values.Distinct)
    (names : List String) :
    (values.without names).entries = values.entries.filter fun entry => entry.1 ∉ names := by
  induction names generalizing values with
  | nil => simp [without]
  | cons name names ih =>
    have hrest := ih (h.take name)
    rw [h.entries_take, List.filter_filter] at hrest
    refine Eq.trans hrest (List.filter_congr fun entry _ => ?_)
    simp [Bool.and_comm]

/-! ### Looking values up -/

/-- With distinct names, every entry can be looked up. -/
theorem Distinct.get?_eq_some_iff {values : RouteValues} (h : values.Distinct) {name : String}
    {value : Value} : values.get? name = some value ↔ (name, value) ∈ values.entries :=
  lookup_eq_some_iff_mem h

theorem mem_names_iff {values : RouteValues} {name : String} :
    name ∈ values.names ↔ ∃ value, values.get? name = some value := by
  rw [← Option.ne_none_iff_exists', ne_eq, get?, lookup_eq_none_iff_not_mem, not_not]
  rfl

theorem Distinct.get?_take_self {values : RouteValues} (h : values.Distinct) (name : String) :
    (values.take name).2.get? name = none := by
  refine Option.eq_none_iff_forall_not_mem.mpr fun value hvalue => ?_
  have hmem := (h.take name).get?_eq_some_iff.mp hvalue
  rw [h.entries_take] at hmem
  simp at hmem

/-- The order of the entries does not matter to a look-up. -/
theorem Distinct.get?_of_perm {values other : RouteValues} (h : values.Distinct)
    (hperm : other.entries.Perm values.entries) (name : String) :
    other.get? name = values.get? name := by
  have hother : other.Distinct := (hperm.map Prod.fst).nodup_iff.mpr h
  refine Option.ext fun value => ?_
  rw [hother.get?_eq_some_iff, h.get?_eq_some_iff, hperm.mem_iff]

/-! ### The entry of a name -/

section

variable {before after : List (String × Value)} {name : String} {value : Value}

theorem Distinct.not_mem_before (h : Distinct ⟨before ++ (name, value) :: after⟩) :
    name ∉ before.map Prod.fst := by
  intro hmem
  have hnames : (before.map Prod.fst ++ name :: after.map Prod.fst).Nodup := by
    simpa [Distinct, names] using h
  exact (List.nodup_append.mp hnames).2.2 name hmem name List.mem_cons_self rfl

theorem setEntry_append (h : name ∉ before.map Prod.fst) (given : Value) :
    setEntry name given (before ++ (name, value) :: after) =
      before ++ (name, given) :: after := by
  induction before with
  | nil => simp [setEntry]
  | cons entry rest ih =>
    rw [List.map_cons, List.mem_cons, not_or] at h
    rw [List.cons_append, setEntry, if_neg (Ne.symm h.1), ih h.2]
    rfl

theorem eraseEntry_append (h : name ∉ before.map Prod.fst) :
    eraseEntry name (before ++ (name, value) :: after) = before ++ after := by
  induction before with
  | nil => simp [eraseEntry]
  | cons entry rest ih =>
    rw [List.map_cons, List.mem_cons, not_or] at h
    rw [List.cons_append, eraseEntry, if_neg (Ne.symm h.1), ih h.2]
    rfl

/-- Setting a name again changes its value and leaves the entries before and after it. -/
theorem Distinct.set_entry (h : Distinct ⟨before ++ (name, value) :: after⟩) (given : Value) :
    RouteValues.set ⟨before ++ (name, value) :: after⟩ name given =
      ⟨before ++ (name, given) :: after⟩ :=
  congrArg RouteValues.mk (setEntry_append h.not_mem_before given)

theorem Distinct.get?_entry (h : Distinct ⟨before ++ (name, value) :: after⟩) :
    RouteValues.get? ⟨before ++ (name, value) :: after⟩ name = some value :=
  h.get?_eq_some_iff.mpr (List.mem_append_right before List.mem_cons_self)

/-- Taking a name out gives its value and leaves the entries before and after it. -/
theorem Distinct.take_entry (h : Distinct ⟨before ++ (name, value) :: after⟩) :
    RouteValues.take ⟨before ++ (name, value) :: after⟩ name = (some value, ⟨before ++ after⟩) := by
  rw [RouteValues.take, h.get?_entry, eraseEntry_append h.not_mem_before]

end

/-! ### A name without an entry -/

theorem set_of_not_mem {values : RouteValues} {name : String} (h : name ∉ values.names)
    (value : Value) : values.set name value = ⟨values.entries ++ [(name, value)]⟩ :=
  congrArg RouteValues.mk (setEntry_of_not_mem h value)

theorem get?_of_not_mem {values : RouteValues} {name : String} (h : name ∉ values.names) :
    values.get? name = none :=
  lookup_eq_none_iff_not_mem.mpr h

theorem take_of_not_mem {values : RouteValues} {name : String} (h : name ∉ values.names) :
    values.take name = (none, values) := by
  rw [RouteValues.take, get?_of_not_mem h, eraseEntry_of_not_mem h]

end Routing.RouteValues
