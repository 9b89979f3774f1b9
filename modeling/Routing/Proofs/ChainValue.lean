/-
  Routing/Proofs/ChainValue.lean
  ==============================
  **Values that pass the built-in constraints can be written.**  A path shows a
  value by its text, and an empty text would leave nothing of it. A constraint of
  the library keeps a value or turns it into a truth value or a number, and those
  have texts; so a parameter that started from a text has one at the end of its
  chain. So does a constraint that was registered for an expression, because it only
  tests.
-/
import Routing.Proofs.Registration

namespace Routing

structure Value.Shown (v : Value) : Prop where
  isEmpty : v.isEmpty = false
  toText : v.toText ≠ ""

namespace Number

theorem positional_ne_nil (d : Decimal) : d.positional ≠ [] := by
  unfold Decimal.positional digitsOf
  simp only
  split
  · simp [Nat.toDigits_ne_nil]
  · split <;> simp

theorem signed_ne_empty (negative : Bool) {cs : List Char} (hcs : cs ≠ []) :
    signed negative cs ≠ "" := by
  unfold signed
  split
  · simp [String.ext_iff]
  · simpa [String.ext_iff] using hcs

theorem toString_ne_empty (n : Int) : toString n ≠ "" := by
  have hrepr (n : Nat) : n.repr ≠ "" := by
    rw [Nat.repr_eq_ofList_toDigits]
    simp [String.ext_iff, Nat.toDigits_ne_nil]
  cases n with
  | ofNat n => exact hrepr n
  | negSucc n =>
    change "-" ++ (n + 1).repr ≠ ""
    simp [String.ext_iff]

theorem text_ne_empty (x : Float) : text x ≠ "" := by
  unfold text
  simp only
  split
  · split
    · exact toString_ne_empty _
    · split
      · exact signed_ne_empty _ (positional_ne_nil _)
      · exact toString_ne_empty _
  · split
    · decide
    · exact signed_ne_empty _ (by simp)
    · exact signed_ne_empty _ (positional_ne_nil _)

end Number

namespace Value

theorem shown_text {text : String} (h : text ≠ "") : Shown (.text text) := by
  refine ⟨?_, ?_⟩
  · simpa [isEmpty, String.isEmpty_iff] using h
  · simpa [toText] using h

theorem shown_bool (b : Bool) : Shown (.bool b) := by
  cases b <;> exact ⟨rfl, by decide⟩

theorem shown_int (n : Int64) : Shown (.int n) :=
  ⟨rfl, by rw [toText]; exact Number.toString_ne_empty _⟩

theorem shown_number (x : Float) : Shown (.number x) :=
  ⟨rfl, by rw [toText]; exact Number.text_ne_empty x⟩

end Value

/-! ### One constraint -/

namespace Constraint

/-- The constraint turns values that can be written into such values. -/
def Keeps (c : Constraint) : Prop :=
  ∀ v v', c.apply v = some v' → v.Shown → v'.Shown

theorem eq_of_apply {c : Constraint} (h : c.transform = none) {v v' : Value}
    (happly : c.apply v = some v') : v' = v := by
  unfold apply at happly
  rw [h] at happly
  obtain ⟨-, heq⟩ := Option.ite_none_right_eq_some.mp happly
  cases heq
  rfl

theorem keeps_of_no_transform {c : Constraint} (h : c.transform = none) : c.Keeps := by
  intro v v' happly hv
  rw [eq_of_apply h happly]
  exact hv

theorem keeps_of_transform {c : Constraint} {transform : Value → Option Value}
    (h : c.transform = some transform) (hshown : ∀ v v', transform v = some v' → v'.Shown) :
    c.Keeps := by
  intro v v' happly _
  unfold apply at happly
  rw [h] at happly
  obtain ⟨-, heq⟩ := Option.ite_none_right_eq_some.mp happly
  exact hshown v v' heq

end Constraint

namespace Builtin

open Constraint (Keeps keeps_of_no_transform keeps_of_transform)

theorem keeps_bool : Keeps bool := by
  refine keeps_of_transform rfl ?_
  intro v v' h
  cases h
  exact Value.shown_bool _

theorem keeps_int : Keeps int := by
  refine keeps_of_transform rfl ?_
  intro v v' h
  obtain ⟨n, -, rfl⟩ := Option.map_eq_some_iff.mp h
  exact Value.shown_int n

theorem keeps_number : Keeps number := by
  refine keeps_of_transform rfl ?_
  intro v v' h
  obtain ⟨x, -, rfl⟩ := Option.map_eq_some_iff.mp h
  exact Value.shown_number x

def Tests (factory : ConstraintFactory) : Prop :=
  ∀ argument c, factory argument = .ok c → c.transform = none

theorem tests_regex : Tests regex := by
  intro argument c h
  unfold regex at h
  split at h
  · cases h
    rfl
  · cases h

theorem tests_of_bind {α : Type} {read : String → Except ArgumentFault α} {make : α → Constraint}
    (hmake : ∀ a, (make a).transform = none) :
    Tests fun argument => do return make (← read argument) := by
  intro argument c h
  obtain ⟨a, -, h⟩ := Except.bind_eq_ok.mp h
  cases h
  exact hmake a

/-- No built-in constraint makes a value that a path cannot show. -/
theorem keeps_factories : ∀ entry ∈ factories, ∀ argument c,
    entry.2 argument = .ok c → c.Keeps := by
  have htests {factory : ConstraintFactory} (h : Tests factory) (argument : String)
      (c : Constraint) (hc : factory argument = .ok c) : c.Keeps :=
    keeps_of_no_transform (h argument c hc)
  -- these do not look at their argument
  have hfixed {fixed : Constraint} (h : fixed.Keeps) (argument : String) (c : Constraint)
      (hc : (.ok fixed : Except ArgumentFault Constraint) = .ok c) : c.Keeps := by
    cases hc
    exact h
  unfold factories
  simp only [List.forall_mem_cons]
  refine ⟨htests tests_regex, hfixed keeps_bool, hfixed keeps_int, hfixed keeps_number,
    hfixed (keeps_of_no_transform rfl), htests ?_, htests ?_, htests ?_, htests ?_, htests ?_,
    htests ?_, by simp⟩
  · exact tests_of_bind fun _ => rfl
  · exact tests_of_bind fun _ => rfl
  · exact tests_of_bind fun _ => rfl
  · exact tests_of_bind fun _ => rfl
  · exact tests_of_bind fun _ => rfl
  · exact tests_of_bind fun _ => rfl

end Builtin

/-! ### A chain of constraints -/

/-- A standard name stands for a built-in constraint or for a search, and both keep values that
    show. -/
theorem keeps_create {set : ConstraintSet} {name argument : String} {c : Constraint}
    (hname : set.Standard name) (h : set.create name argument = .ok c) : c.Keeps := by
  obtain ⟨factory, made, hfactory, hmade, rfl⟩ := ConstraintSet.create_eq_ok_iff.mp h
  have hkeeps : made.Keeps := by
    -- nothing is registered under the name, or a search is
    rcases hname with hnone | ⟨r, hregistered⟩
    · rw [hnone] at hfactory
      have hlookup : Builtin.factories.lookup name = some factory := hfactory
      exact Builtin.keeps_factories _ (mem_of_lookup hlookup) argument made hmade
    · rw [hregistered] at hfactory
      cases hfactory
      cases hmade
      exact Constraint.keeps_of_no_transform rfl
  intro v v' happly
  rw [Constraint.labelled_apply] at happly
  exact hkeeps v v' happly

theorem shown_foldlM {constraints : List Constraint} {v v' : Value}
    (hkeeps : ∀ c ∈ constraints, c.Keeps)
    (h : constraints.foldlM (fun value c => c.apply value) v = some v') (hv : v.Shown) :
    v'.Shown := by
  induction constraints generalizing v with
  | nil =>
    cases h
    exact hv
  | cons c rest ih =>
    rw [List.foldlM_cons] at h
    obtain ⟨next, hnext, hrest⟩ := Option.bind_eq_some_iff.mp h
    exact ih (fun c' hc' => hkeeps c' (List.mem_cons_of_mem _ hc')) hrest
      (hkeeps c List.mem_cons_self v next hnext hv)

/-- The constraints of the parameter are built-in ones or search for an expression. -/
def Parameter.Standard (set : ConstraintSet) (p : Parameter) : Prop :=
  ∀ c ∈ p.constraints, set.Standard c.name

theorem Parameter.standard_empty (p : Parameter) : p.Standard .empty :=
  fun c _ => ConstraintSet.standard_empty c.name

/-- **What the chain of a parameter makes of a text can be written.** -/
theorem Parameter.Declared.shown {set : ConstraintSet} {p : Parameter}
    (hdeclared : p.Declared set) (hstandard : p.Standard set) {text : String} (htext : text ≠ "")
    {v : Value} (h : p.constrain (.text text) = some v) : v.Shown := by
  refine shown_foldlM (fun c hc => ?_) h (Value.shown_text htext)
  obtain ⟨name, argument, hcreate⟩ := hdeclared.constraints c hc
  have hname := hstandard c hc
  rw [name_of_create hcreate] at hname
  exact keeps_create hname hcreate

end Routing
