/-
  Routing/Proofs/UsedConstraints.lean
  ===================================
  **A pattern depends on the constraints that its template uses.**  Which names those are
  is read off the derivation of the template: a clause with a title uses that title unless
  it declares a default, and the shorthand uses `regex`. Two sets that have the same
  registered under these names are as good as one another, whether the template is accepted
  or not.

  Binding asks the set for one constraint after another, so agreement is carried along as
  agreement on the constraints of the parts that are left.
-/
import Routing.Pattern.Match
import Routing.Pattern.Resolve
import Routing.Proofs.Binding
import Routing.Proofs.Parsing
import Routing.Proofs.Registration

namespace Routing

open Template (ClauseTree ConstraintNode Derives ItemTree ParameterNode ParameterTree PartNode
  SegmentNode)

/-! ### The constraints of an outline -/

namespace Template

def PartNode.constraints : PartNode → List ConstraintNode
  | .literal _ => []
  | .parameter p => p.constraints

def constraintsOf (parts : List PartNode) : List ConstraintNode :=
  parts.flatMap PartNode.constraints

theorem partsOf_segmentOf (parts : List PartNode) : partsOf (segmentOf parts) = parts := by
  unfold segmentOf
  split
  · next h => exact (List.isEmpty_iff.mp h).symm
  · exact List.append_nil parts

theorem partsOf_segmentsAfter (parts : List PartNode) (items : List ItemTree) :
    partsOf (segmentsAfter parts items) = parts ++ items.filterMap ItemTree.part? := by
  induction items generalizing parts with
  | nil => rw [segmentsAfter, partsOf_segmentOf, List.filterMap_nil, List.append_nil]
  | cons item items ih =>
    cases item with
    | slash =>
      rw [segmentsAfter, partsOf, List.flatMap_append]
      exact congrArg₂ (· ++ ·) (partsOf_segmentOf parts) (ih [])
    | literal text =>
      rw [segmentsAfter, ih, List.append_assoc]
      rfl
    | parameter p =>
      rw [segmentsAfter, ih, List.append_assoc]
      rfl

/-- Between the slashes of a tree there is every part of it. -/
theorem partsOf_segmentsOf (items : List ItemTree) :
    partsOf (segmentsOf items) = items.filterMap ItemTree.part? := by
  rw [← segmentsAfter_nil, partsOf_segmentsAfter, List.nil_append]

/-! ### The names that a template uses -/

inductive ClauseTree.Calls : ClauseTree → String → Prop
  | named {title : String} (h : title ∉ reservedNames) : Calls (.named title) title
  | applied {title argument : String} (h : title ∉ reservedNames) :
    Calls (.applied title argument) title
  | anonymous {argument : String} : Calls (.anonymous argument) "regex"

theorem declaresDefault_iff {title : String} : declaresDefault title ↔ title ∈ reservedNames := by
  simp [declaresDefault, reservedNames, or_comm]

theorem ClauseTree.Calls.of_constraint? {clause : ClauseTree} {c : ConstraintNode}
    (h : clause.constraint? = some c) : clause.Calls c.name := by
  cases clause with
  | named title =>
    rw [constraint?, Option.ite_none_left_eq_some] at h
    obtain ⟨hdefault, hc⟩ := h
    cases hc
    exact .named fun hmem => hdefault (declaresDefault_iff.mpr hmem)
  | applied title argument =>
    rw [constraint?, Option.ite_none_left_eq_some] at h
    obtain ⟨hdefault, hc⟩ := h
    cases hc
    exact .applied fun hmem => hdefault (declaresDefault_iff.mpr hmem)
  | anonymous argument =>
    cases h
    exact .anonymous

/-- Some parameter of the template has a clause that calls a constraint by that name. -/
def Uses (template name : String) : Prop :=
  ∃ items p clause, Derives items template.toList ∧ .parameter p ∈ items ∧
    clause ∈ p.clauses ∧ clause.Calls name

/-- All constraints of the template are written in the shorthand: what has a title declares
    a default. -/
def OnlyShorthand (template : String) : Prop :=
  ∀ items p clause, Derives items template.toList → .parameter p ∈ items → clause ∈ p.clauses →
    (∃ argument, clause = .anonymous argument) ∨ clause.default?.isSome

theorem ClauseTree.Calls.not_isSome_default? {clause : ClauseTree} {name : String}
    (h : clause.Calls name) : ¬ clause.default?.isSome := by
  cases h with
  | named h =>
    rw [← declaresDefault_iff] at h
    simp [default?, h]
  | applied h =>
    rw [← declaresDefault_iff] at h
    simp [default?, h]
  | anonymous => simp [default?]

theorem OnlyShorthand.eq_of_uses {template name : String} (h : OnlyShorthand template)
    (huses : Uses template name) : name = "regex" := by
  obtain ⟨items, p, clause, hitems, hp, hclause, hcalls⟩ := huses
  rcases h items p clause hitems hp hclause with ⟨argument, rfl⟩ | hdefault
  · cases hcalls
    rfl
  · exact absurd hdefault hcalls.not_isSome_default?

/-- What an outline asks for is written in the template. -/
theorem uses_of_mem_constraintsOf {template : String} {outline : List SegmentNode}
    (h : Template.outline template = .ok outline) {c : ConstraintNode}
    (hc : c ∈ constraintsOf (partsOf outline)) : Uses template c.name := by
  obtain ⟨items, hitems, rfl⟩ := outline_eq_ok_iff_exists.mp h
  rw [partsOf_segmentsOf] at hc
  obtain ⟨part, hpart, hc⟩ := List.mem_flatMap.mp hc
  obtain ⟨item, hitem, hpart⟩ := List.mem_filterMap.mp hpart
  cases item with
  | slash => cases hpart
  | literal text =>
    cases hpart
    cases hc
  | parameter p => -- the clauses of a parameter are written where the parameter is
    cases hpart
    obtain ⟨clause, hclause, hcalled⟩ := List.mem_filterMap.mp hc
    exact ⟨items, p, clause, hitems, hitem, hclause, .of_constraint? hcalled⟩

end Template

open Template (constraintsOf Uses OnlyShorthand)

/-! ### Binding with two sets that agree -/

section

variable {first second : ConstraintSet}

/-- The sets have the same registered under the names of the constraints, or both nothing. -/
def ConstraintSet.AgreeOn (first second : ConstraintSet) (nodes : List ConstraintNode) : Prop :=
  ∀ c ∈ nodes, first.factory? c.name = second.factory? c.name

theorem bindConstraint_eq_of_agree {c : ConstraintNode}
    (h : first.factory? c.name = second.factory? c.name) :
    bindConstraint first c = bindConstraint second c := by
  simp only [bindConstraint, ConstraintSet.create, h]

theorem bindParameter_eq_of_agree {p : ParameterNode} (h : first.AgreeOn second p.constraints)
    (seen : List String) (isLast : Bool) :
    bindParameter first seen isLast p = bindParameter second seen isLast p := by
  have hmade : p.constraints.mapM (bindConstraint first) =
      p.constraints.mapM (bindConstraint second) :=
    mapM_congr_left fun c hc => bindConstraint_eq_of_agree (h c hc)
  simp only [bindParameter, hmade]

theorem bindParts_eq_of_agree {after : Bool} {seen : List String} {parts : List PartNode}
    (h : first.AgreeOn second (constraintsOf parts)) :
    bindParts first after seen parts = bindParts second after seen parts := by
  induction parts generalizing seen with
  | nil => rfl
  | cons part rest ih =>
    obtain ⟨hpart, hrest⟩ := List.forall_mem_append.mp h
    cases part with
    | literal text => simp only [bindParts, ih hrest]
    | parameter p => simp only [bindParts, bindParameter_eq_of_agree hpart, ih hrest]

theorem bindSegments_eq_of_agree {seen : List String} {outline : List SegmentNode}
    (h : first.AgreeOn second (constraintsOf (partsOf outline))) :
    bindSegments first seen outline = bindSegments second seen outline := by
  induction outline generalizing seen with
  | nil => rfl
  | cons s rest ih =>
    rw [partsOf_cons, constraintsOf, List.flatMap_append] at h
    obtain ⟨hparts, hrest⟩ := List.forall_mem_append.mp h
    have hothers (seen : List String) : bindSegments first seen rest = bindSegments second seen rest :=
      ih hrest
    simp only [bindSegments, bindParts_eq_of_agree hparts, hothers]

/-- Binding asks a set for the constraints of the outline only. -/
theorem bind_eq_of_agree {outline : List SegmentNode}
    (h : first.AgreeOn second (constraintsOf (partsOf outline))) :
    bind first outline = bind second outline := by
  rw [bind, bind, bindSegments_eq_of_agree h]

end

/-! ### Compiling with two sets that agree -/

namespace RoutePattern

/-- Nothing tells the outcomes of two compilations apart: they are the same error, or patterns
    with the same expression that match every path alike and build the same from all values. -/
inductive Alike : Except PatternError RoutePattern → Except PatternError RoutePattern → Prop
  | error (e : PatternError) : Alike (.error e) (.error e)
  | ok {p q : RoutePattern} (hsource : p.source = q.source)
      (hmatch : ∀ path, p.match? path = q.match? path)
      (hresolve : ∀ values, p.resolve? values = q.resolve? values) : Alike (.ok p) (.ok q)

theorem Alike.refl (outcome : Except PatternError RoutePattern) : Alike outcome outcome := by
  cases outcome with
  | error e => exact .error e
  | ok p => exact .ok rfl (fun _ => rfl) fun _ => rfl

theorem compile_eq_of_agree {first second : ConstraintSet} {template : String}
    (h : ∀ name, Uses template name → first.factory? name = second.factory? name) :
    compile first template = compile second template := by
  unfold compile
  cases houtline : Template.outline template with
  | error e => rfl
  | ok outline =>
    have hagree : first.AgreeOn second (constraintsOf (partsOf outline)) := by
      intro c hc
      exact h c.name (Template.uses_of_mem_constraintsOf houtline hc)
    simp only [bind_eq_of_agree hagree]

/-- **What a template compiles to depends on the registrations of the names that it uses.**
    A registration under any other name changes nothing, and a template in which all
    constraints are written in the shorthand depends on that of `regex` alone. -/
theorem compile_alike (template : String) :
    (∀ first second : ConstraintSet,
      (∀ name, Uses template name → first.factory? name = second.factory? name) →
      Alike (compile first template) (compile second template)) ∧
    (∀ (set : ConstraintSet) (name : String), ¬ Uses template name →
      (∀ factory, Alike (compile (set.register name factory) template) (compile set template)) ∧
      ∀ source set', set.registerRegex name source = .ok set' →
        Alike (compile set' template) (compile set template)) ∧
    (OnlyShorthand template → ∀ first second : ConstraintSet,
      first.factory? "regex" = second.factory? "regex" →
      Alike (compile first template) (compile second template)) := by
  have hagree (first second : ConstraintSet)
      (h : ∀ name, Uses template name → first.factory? name = second.factory? name) :
      Alike (compile first template) (compile second template) := by
    rw [compile_eq_of_agree h]
    exact .refl _
  have hregister (set : ConstraintSet) (name : String) (hunused : ¬ Uses template name)
      (factory : ConstraintFactory) :
      Alike (compile (set.register name factory) template) (compile set template) := by
    apply hagree
    intro other huses
    exact ConstraintSet.factory?_register_of_ne fun heq => hunused (heq ▸ huses)
  refine ⟨hagree, fun set name hunused => ⟨hregister set name hunused, ?_⟩, ?_⟩
  · intro source set' hset
    obtain ⟨r, -, rfl⟩ := ConstraintSet.registerRegex_eq_ok_iff.mp hset
    exact hregister set name hunused _
  · intro hshorthand first second hregex
    apply hagree
    intro name huses
    rw [hshorthand.eq_of_uses huses, hregex]

/-- A template with a shorthand and a default compiles alike whether `int` is hidden or not,
    by whatever it is. -/
theorem compile_alike_hidden_int :
    let template := "/\x7bn:(a+):=(aa)\x7d"
    let first := ConstraintSet.empty.register "regex" fun _ => .ok Builtin.alpha
    let second := first.register "int" fun _ => .ok Builtin.bool
    let third := second.register "int" fun _ => .ok (Builtin.matching .empty)
    second.registerRegex "int" "" = .ok third ∧ ¬ Uses template "int" ∧ OnlyShorthand template ∧
      Alike (compile first template) (compile second template) ∧
      Alike (compile second template) (compile first template) ∧
      Alike (compile third template) (compile second template) ∧
      Alike (compile first template) (compile third template) := by
  intro template first second third
  have hclauses : ∀ clause ∈ [ClauseTree.anonymous "a+", .applied "=" "aa"],
      clause.Grammatical := by
    simp only [List.forall_mem_cons, List.not_mem_nil, false_imp_iff, implies_true, and_true]
    exact ⟨.anonymous (.other (by decide) (.other (by decide) .nil)) (by decide),
      .applied (.inl rfl) (.other (by decide) (.other (by decide) .nil))⟩
  have hderives : Derives [.slash, .parameter ⟨"n", .required,
      [.anonymous "a+", .applied "=" "aa"]⟩] "/\x7bn:(a+):=(aa)\x7d".toList :=
    .slash (.parameter ⟨⟨'n', [], rfl, .inl rfl, by simp⟩, hclauses⟩ .nil)
  have hshorthand : OnlyShorthand template := by
    intro items p clause hitems hp hclause
    cases hitems.unique hderives
    obtain rfl : p = _ := by simpa using hp
    rcases List.mem_pair.mp hclause with rfl | rfl
    · exact .inl ⟨"a+", rfl⟩
    · exact .inr rfl
  have hunused : ¬ Uses template "int" := fun h => absurd (hshorthand.eq_of_uses h) (by decide)
  have hregex : first.factory? "regex" = third.factory? "regex" := rfl
  have hagree (name : String) (huses : Uses template name) :
      first.factory? name = second.factory? name := by
    rw [hshorthand.eq_of_uses huses]
    rfl
  obtain ⟨halike, hregister, honly⟩ := compile_alike template
  obtain ⟨hcustom, hsearch⟩ := hregister first "int" hunused
  exact ⟨rfl, hunused, hshorthand, halike first second hagree, hcustom _,
    (hregister second "int" hunused).2 "" third rfl, honly hshorthand first third hregex⟩

end RoutePattern

end Routing
