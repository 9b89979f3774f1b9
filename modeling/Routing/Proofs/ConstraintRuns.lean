/-
  Routing/Proofs/ConstraintRuns.lean
  ==================================
  **Sets of constraints over whole runs.**  A set is built up by calls that register a
  constraint; a call that fails, or that has a reserved name, leaves the set as it was. So a
  name stands for what was registered under it last, and for the built-in constraint if there
  was nothing.

  The induction is on the calls from the last one backwards: the last call decides about its
  own name and leaves all other names to the calls before it.
-/
import Routing.Proofs.ByteOrder
import Routing.Proofs.Histories
import Routing.Proofs.Registration
import Mathlib.Data.List.Induction

namespace Routing

open Text.Percent (bytesOf bytesOf_lt)

inductive Registration where
  /-- registers a factory; a set that is put together call by call grows in the same way -/
  | custom (name : String) (factory : ConstraintFactory)
  /-- registers the search for an expression -/
  | search (name source : String)

namespace Registration

def name : Registration → String
  | .custom name _ => name
  | .search name _ => name

def apply : Registration → Change Regex.Fault ConstraintSet Unit
  | .custom name factory => modify fun set => set.register name factory
  | .search name source => ConstraintSet.registerRegexM name source

/-- The call has the factory for the name: it is given, or it searches for an expression that
    can be read. -/
inductive Registers : Registration → String → ConstraintFactory → Prop
  | custom (name : String) (factory : ConstraintFactory) :
    Registers (.custom name factory) name factory
  | search {name source : String} {r : Regex} (h : Regex.ofText source = .ok r) :
    Registers (.search name source) name fun _ => .ok (Builtin.matching r)

inductive Fails : Registration → Regex.Fault → Prop
  | search {name source : String} {fault : Regex.Fault} (h : Regex.ofText source = .error fault) :
    Fails (.search name source) fault

/-- The last of the calls that have a factory for the name has this one. -/
def Last (ops : List Registration) (name : String) (factory : ConstraintFactory) : Prop :=
  ∃ before op after, ops = before ++ op :: after ∧ op.Registers name factory ∧
    ∀ later ∈ after, ∀ other, ¬ later.Registers name other

/-- What a name stands for after the calls: the factory that was registered last, or the one of
    the built-in constraint. -/
inductive StandsFor (ops : List Registration) (name : String) : ConstraintFactory → Prop
  | custom {factory : ConstraintFactory} (hname : name ∉ reservedNames)
      (h : Last ops name factory) : StandsFor ops name factory
  | builtin {factory : ConstraintFactory}
      (hnone : name ∈ reservedNames ∨ ∀ op ∈ ops, ∀ other, ¬ op.Registers name other)
      (h : (name, factory) ∈ Builtin.factories) : StandsFor ops name factory

/-! ### One call -/

section

variable {op : Registration} {set next : ConstraintSet}

theorem Registers.name_eq {name : String} {factory : ConstraintFactory}
    (h : op.Registers name factory) : op.name = name := by
  cases h with
  | custom => rfl
  | search => rfl

theorem Registers.unique {name : String} {factory other : ConstraintFactory}
    (h : op.Registers name factory) (hother : op.Registers name other) : factory = other := by
  cases h with
  | custom =>
    cases hother
    rfl
  | search hr =>
    cases hother with
    | search hr' =>
      rw [hr] at hr'
      cases hr'
      rfl

/-- **A call that succeeds registers its factory under its name.** -/
theorem apply_eq_ok_iff : op.apply.run set = .ok () next ↔
    ∃ factory, op.Registers op.name factory ∧ next = set.register op.name factory := by
  rcases op with ⟨name, factory⟩ | ⟨name, source⟩
  · constructor
    · rintro ⟨⟩
      exact ⟨factory, .custom name factory, rfl⟩
    · rintro ⟨_, ⟨⟩, rfl⟩
      rfl
  · rw [apply, ConstraintSet.registerRegexM_run]
    constructor
    · intro h
      split at h
      · cases h
      · next r hr =>
        cases h
        exact ⟨_, .search hr, rfl⟩
    · rintro ⟨_, hregisters, rfl⟩
      cases hregisters with
      | search hr =>
        rw [hr]
        rfl

/-- **A call that fails has changed nothing.** -/
theorem apply_eq_error_iff {fault : Regex.Fault} :
    op.apply.run set = .error fault next ↔ op.Fails fault ∧ next = set := by
  rcases op with ⟨name, factory⟩ | ⟨name, source⟩
  · constructor
    · rintro ⟨⟩
    · rintro ⟨⟨⟩, -⟩
  · rw [apply, ConstraintSet.registerRegexM_run]
    constructor
    · intro h
      split at h
      · next hr =>
        cases h
        exact ⟨.search hr, rfl⟩
      · cases h
    · rintro ⟨hfails, rfl⟩
      cases hfails with
      | search hr => rw [hr]

end

/-! ### The last call with a factory for a name -/

section

variable {ops : List Registration} {op : Registration} {name : String}
  {factory : ConstraintFactory}

theorem last_nil : ¬ Last [] name factory :=
  not_since_nil

/-- The last call decides if it has a factory for the name, and leaves it to the calls before
    otherwise. -/
theorem last_concat_iff : Last (ops ++ [op]) name factory ↔
    op.Registers name factory ∨ (∀ other, ¬ op.Registers name other) ∧ Last ops name factory :=
  since_concat_iff

theorem exists_last_iff :
    (∃ factory, Last ops name factory) ↔ ∃ op ∈ ops, ∃ factory, op.Registers name factory := by
  induction ops using List.reverseRecOn with
  | nil => simp [last_nil]
  | append_singleton ops op ih =>
    simp only [last_concat_iff, List.mem_append, List.mem_singleton]
    constructor
    · rintro ⟨factory, hop | ⟨-, hlast⟩⟩
      · exact ⟨op, .inr rfl, factory, hop⟩
      · obtain ⟨earlier, hmem, hearlier⟩ := ih.mp ⟨factory, hlast⟩
        exact ⟨earlier, .inl hmem, hearlier⟩
    · rintro ⟨earlier, hmem, factory, hearlier⟩
      by_cases hop : ∃ other, op.Registers name other
      · obtain ⟨other, hother⟩ := hop
        exact ⟨other, .inl hother⟩
      · rcases hmem with hmem | rfl
        · obtain ⟨last, hlast⟩ := ih.mpr ⟨earlier, hmem, factory, hearlier⟩
          exact ⟨last, .inr ⟨not_exists.mp hop, hlast⟩⟩
        · exact absurd ⟨factory, hearlier⟩ hop

end

end Registration

namespace ConstraintSet

variable {set : ConstraintSet} {op : Registration} {ops : List Registration}

/-- The set that a call leaves, whether it fails or not. -/
def after (set : ConstraintSet) (op : Registration) : ConstraintSet :=
  op.apply.left set

def run (set : ConstraintSet) (ops : List Registration) : ConstraintSet :=
  ops.foldl after set

def Ascending (set : ConstraintSet) : Prop :=
  set.names.Pairwise (· < ·)

/-! ### The set after one call -/

theorem after_of_registers {name : String} {factory : ConstraintFactory}
    (h : op.Registers name factory) : set.after op = set.register name factory := by
  have happly : op.apply.run set = .ok () (set.register name factory) := by
    rw [Registration.apply_eq_ok_iff, h.name_eq]
    exact ⟨factory, h, rfl⟩
  rw [after, Change.left, happly]

theorem after_of_fails {fault : Regex.Fault} (h : op.Fails fault) : set.after op = set := by
  rw [after, Change.left, Registration.apply_eq_error_iff.mpr ⟨h, rfl⟩]

/-- A call registers something or fails. -/
theorem registers_or_fails (op : Registration) :
    (∃ factory, op.Registers op.name factory) ∨ ∃ fault, op.Fails fault := by
  cases happly : op.apply.run empty with
  | ok _ next =>
    obtain ⟨factory, h, -⟩ := Registration.apply_eq_ok_iff.mp happly
    exact .inl ⟨factory, h⟩
  | error fault left => exact .inr ⟨fault, (Registration.apply_eq_error_iff.mp happly).1⟩

/-- A reserved name is not registered, whether the expression of the call can be read or not. -/
theorem after_of_reserved (h : op.name ∈ reservedNames) : set.after op = set := by
  rcases registers_or_fails op with ⟨factory, hop⟩ | ⟨fault, hop⟩
  · rw [after_of_registers hop, register, if_pos (isReserved_iff.mpr h)]
  · exact after_of_fails hop

/-- **A call decides about its own name and about no other.** -/
theorem factory?_after {name : String} {factory : ConstraintFactory} (hname : name ∉ reservedNames) :
    (set.after op).factory? name = some factory ↔ op.Registers name factory ∨
      (∀ other, ¬ op.Registers name other) ∧ set.factory? name = some factory := by
  rcases registers_or_fails op with ⟨made, hop⟩ | ⟨fault, hop⟩
  · have hfree : isReserved name = false := by
      rw [← Bool.not_eq_true, isReserved_iff]
      exact hname
    rw [after_of_registers hop, factory?_register]
    by_cases heq : name = op.name
    · subst heq
      rw [if_pos ⟨rfl, hfree⟩, Option.some.injEq]
      constructor
      · rintro rfl
        exact .inl hop
      · rintro (hfactory | ⟨hnone, -⟩)
        · exact hop.unique hfactory
        · exact absurd hop (hnone made)
    · have hother (other : ConstraintFactory) : ¬ op.Registers name other :=
        fun h => heq h.name_eq.symm
      rw [if_neg fun h => heq h.1]
      simp [hother]
  · have hnone (other : ConstraintFactory) : ¬ op.Registers name other := by
      intro h
      cases hop with
      | search hfault =>
        cases h with
        | search hr =>
          rw [hfault] at hr
          cases hr
    rw [after_of_fails hop]
    simp [hnone]

theorem ascending_empty : empty.Ascending :=
  .nil

theorem Ascending.after (h : set.Ascending) (op : Registration) : (set.after op).Ascending := by
  rcases registers_or_fails op with ⟨factory, hop⟩ | ⟨fault, hop⟩
  · rw [after_of_registers hop, register]
    split
    · exact h
    · exact pairwise_names_insertFactory op.name factory h
  · rw [after_of_fails hop]
    exact h

/-! ### Runs -/

theorem run_concat (set : ConstraintSet) (ops : List Registration) (op : Registration) :
    set.run (ops ++ [op]) = (set.run ops).after op := by
  rw [run, List.foldl_append]
  rfl

theorem Ascending.run (h : set.Ascending) (ops : List Registration) : (set.run ops).Ascending := by
  induction ops generalizing set with
  | nil => exact h
  | cons op rest ih => exact ih (h.after op)

/-- **A name has the factory that was registered last.** -/
theorem factory?_run {name : String} {factory : ConstraintFactory} (hname : name ∉ reservedNames) :
    (empty.run ops).factory? name = some factory ↔ Registration.Last ops name factory := by
  induction ops using List.reverseRecOn with
  | nil =>
    constructor
    · rintro ⟨⟩
    · intro h
      exact absurd h Registration.last_nil
  | append_singleton ops op ih =>
    rw [run_concat, factory?_after hname, ih, Registration.last_concat_iff]

theorem factory?_run_of_reserved {name : String} (hname : name ∈ reservedNames) :
    (empty.run ops).factory? name = none := by
  induction ops using List.reverseRecOn with
  | nil => rfl
  | append_singleton ops op ih =>
    rw [run_concat]
    rcases registers_or_fails op with ⟨factory, hop⟩ | ⟨fault, hop⟩
    · rw [after_of_registers hop, factory?_register, ih, if_neg]
      rintro ⟨rfl, hfree⟩
      rw [isReserved_iff.mpr hname] at hfree
      cases hfree
    · rw [after_of_fails hop]
      exact ih

/-- **A set contains what some call registered**, reserved names excepted. -/
theorem contains_run_iff {name : String} : (empty.run ops).contains name ↔
    name ∉ reservedNames ∧ ∃ op ∈ ops, ∃ factory, op.Registers name factory := by
  rw [contains, Option.isSome_iff_exists, ← Registration.exists_last_iff]
  by_cases hname : name ∈ reservedNames
  · simp [factory?_run_of_reserved hname, hname]
  · simp only [factory?_run hname, hname, not_false_iff, true_and]

/-! ### What a name stands for -/

theorem nodup_names_builtin : (Builtin.factories.map Prod.fst).Nodup := by
  decide

theorem standsFor_iff {name : String} {factory : ConstraintFactory} :
    ((empty.run ops).factory? name <|> Builtin.factories.lookup name) = some factory ↔
      Registration.StandsFor ops name factory := by
  have hbuiltin := @lookup_eq_some_iff_mem _ name factory _ nodup_names_builtin
  cases hfactory : (empty.run ops).factory? name with
  | none => -- nothing was registered under the name, so the built-in is not hidden
    have hnone : name ∈ reservedNames ∨ ∀ op ∈ ops, ∀ other, ¬ op.Registers name other := by
      have hcontains := (@contains_run_iff ops name).not
      rw [contains, hfactory] at hcontains
      by_cases hname : name ∈ reservedNames
      · exact .inl hname
      · simpa [hname] using hcontains
    refine Iff.trans hbuiltin ⟨.builtin hnone, fun h => ?_⟩
    cases h with
    | custom hname hlast =>
      rw [(factory?_run hname).mpr hlast] at hfactory
      cases hfactory
    | builtin _ hmem => exact hmem
  | some found => -- something was registered, and it hides a built-in of the name
    have hname : name ∉ reservedNames := by
      intro hname
      rw [factory?_run_of_reserved hname] at hfactory
      cases hfactory
    have hlast := (factory?_run hname).mp hfactory
    rw [Option.orElse_eq_orElse, Option.orElse_some, Option.some.injEq]
    constructor
    · rintro rfl
      exact .custom hname hlast
    · intro h
      cases h with
      | custom _ hother =>
        have hsome := (factory?_run hname).mpr hother
        rw [hfactory] at hsome
        exact Option.some.inj hsome
      | builtin hnone _ =>
        obtain ⟨op, hop, hregisters⟩ := Registration.exists_last_iff.mp ⟨found, hlast⟩
        obtain ⟨other, hother⟩ := hregisters
        exact absurd hother (hnone.resolve_left hname op hop other)

/-! ### All runs -/

/-- **Over every run, a name stands for what was registered under it last.** The set contains
    the names under which something was registered, reserved ones excepted, and lists them
    once each in the order of their bytes. A constraint is made by what its name stands for and
    carries its name and its argument; a name that stands for nothing is unknown. A call that
    fails, which it does exactly if its expression cannot be read, and a call with a reserved
    name leave the set as it was. -/
theorem create_run (ops : List Registration) :
    let set := empty.run ops
    (∀ name, set.contains name ↔
      name ∉ reservedNames ∧ ∃ op ∈ ops, ∃ factory, op.Registers name factory) ∧
    (∀ name argument c, set.create name argument = .ok c ↔ ∃ factory made,
      Registration.StandsFor ops name factory ∧ factory argument = .ok made ∧
        c = made.labelled name argument ∧ c.name = name ∧ c.argument = argument) ∧
    (∀ name argument fault, set.create name argument = .error (.invalidArgument fault) ↔
      ∃ factory, Registration.StandsFor ops name factory ∧ factory argument = .error fault) ∧
    (∀ name argument, set.create name argument = .error .unknown ↔
      ∀ factory, ¬ Registration.StandsFor ops name factory) ∧
    (set.names.Pairwise fun first second => bytesOf first < bytesOf second) ∧
    (∀ name, name ∈ set.names ↔ set.contains name) ∧
    set.size = set.names.length ∧
    (∀ (op : Registration) (fault : Regex.Fault),
      (∃ left, op.apply.run set = .error fault left) ↔ op.Fails fault) ∧
    ∀ op : Registration,
      (op.name ∈ reservedNames ∨ ∃ fault left, op.apply.run set = .error fault left) →
        op.apply.left set = set ∧ empty.run (ops ++ [op]) = set := by
  intro set
  have hascending : set.Ascending := ascending_empty.run ops
  have hstands {name : String} {factory : ConstraintFactory} :
      (set.factory? name <|> Builtin.factories.lookup name) = some factory ↔
        Registration.StandsFor ops name factory := standsFor_iff
  refine ⟨fun name => contains_run_iff, ?_, ?_, ?_, hascending.imp bytesOf_lt,
    fun name => mem_names_iff, (List.length_map Prod.fst).symm, ?_, ?_⟩
  · intro name argument c
    rw [create_eq_ok_iff]
    simp only [hstands]
    constructor
    · rintro ⟨factory, made, hfactory, hmade, rfl⟩
      exact ⟨factory, made, hfactory, hmade, rfl, rfl, rfl⟩
    · rintro ⟨factory, made, hfactory, hmade, rfl, -⟩
      exact ⟨factory, made, hfactory, hmade, rfl⟩
  · intro name argument fault
    rw [create_eq_invalidArgument_iff]
    simp only [hstands]
  · intro name argument
    rw [create_eq_unknown_iff, Option.eq_none_iff_forall_ne_some]
    exact forall_congr' fun factory => hstands.not
  · intro op fault
    simp only [Registration.apply_eq_error_iff]
    exact ⟨fun ⟨_, hfails, _⟩ => hfails, fun hfails => ⟨set, hfails, rfl⟩⟩
  · intro op hop
    have hafter : set.after op = set := by -- in both cases the set is left as it was
      rcases hop with hreserved | ⟨fault, left, herror⟩
      · exact after_of_reserved hreserved
      · exact after_of_fails (Registration.apply_eq_error_iff.mp herror).1
    refine ⟨hafter, ?_⟩
    rw [run_concat]
    exact hafter

/-- A custom constraint hides the built-in of its name, and neither a later call whose
    expression cannot be read nor one with a reserved name changes that. -/
theorem create_run_int :
    let never : ConstraintFactory := fun _ => .ok { test := fun _ => false }
    let ops : List Registration := [.search "int" "[0-9]", .custom "int" never]
    let set := empty.run ops
    set.create "int" "" = .ok ⟨"int", "", fun _ => false, none⟩ ∧
      empty.run (ops ++ [.search "int" "("]) = set ∧
      empty.run (ops ++ [.custom "default" never]) = set := by
  intro never ops set
  have hlast : Registration.StandsFor ops "int" never :=
    .custom (by decide) ⟨[.search "int" "[0-9]"], _, [], rfl, .custom "int" never, by simp⟩
  obtain ⟨-, hok, -, -, -, -, -, -, hkept⟩ := create_run ops
  have hcreate : set.create "int" "" = .ok ⟨"int", "", fun _ => false, none⟩ :=
    (hok _ _ _).mpr ⟨never, _, hlast, rfl, rfl, rfl, rfl⟩
  exact ⟨hcreate, (hkept (.search "int" "(") (.inr ⟨.unclosedGroup, _, rfl⟩)).2,
    (hkept (.custom "default" never) (.inl (by decide))).2⟩

end ConstraintSet

end Routing
