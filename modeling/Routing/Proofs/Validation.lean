/-
  Routing/Proofs/Validation.lean
  ==============================
  **Which outlines bind, and what is reported of the others.**  An outline binds exactly
  if no segment of several parts is all optional, no literal has a question mark,
  nothing follows a catch-all, no name is declared twice, and every constraint can be
  made. Each part then becomes the part that its declaration describes. Of an outline
  that does not bind, an all-optional segment is reported wherever it stands, and else
  the first part at fault.
-/
import Routing.Proofs.Binding

namespace Routing

open Template (ConstraintNode ParameterNode PartNode SegmentNode)

/-! ### Valid outlines -/

/-- Several parts, all of them parameters marked `?` or `*`. -/
def Template.SegmentNode.AllOptional (s : SegmentNode) : Prop :=
  2 ≤ s.parts.length ∧ ∀ part ∈ s.parts, ∃ p, part = .parameter p ∧
    (p.quantifier = .optional ∨ p.quantifier = .zeroOrMore)

theorem isAllOptional_iff {s : SegmentNode} : isAllOptional s ↔ s.AllOptional := by
  have hpart (part : PartNode) : part.isOptional ↔ ∃ p, part = .parameter p ∧
      (p.quantifier = .optional ∨ p.quantifier = .zeroOrMore) := by
    cases part with
    | literal text => simp [PartNode.isOptional]
    | parameter p =>
      cases h : p.quantifier <;>
        simp [PartNode.isOptional, Quantifier.isOptional, Quantifier.isRequired, h]
  unfold isAllOptional Template.SegmentNode.AllOptional
  simp only [Bool.and_eq_true, decide_eq_true_eq, List.all_eq_true, hpart]
  rfl

theorem any_isAllOptional_iff {outline : List SegmentNode} :
    outline.any isAllOptional ↔ ∃ s ∈ outline, s.AllOptional := by
  simp only [List.any_eq_true, isAllOptional_iff]

structure ValidOutline (set : ConstraintSet) (outline : List SegmentNode) : Prop where
  /-- a segment of several parts has one that a path must have something for -/
  anchored : ¬ ∃ s ∈ outline, s.AllOptional
  /-- no literal has a question mark -/
  literal : ∀ text, .literal text ∈ partsOf outline → '?' ∉ text.toList
  /-- nothing follows a catch-all -/
  catchAll : ∀ before p after, partsOf outline = before ++ .parameter p :: after →
    p.quantifier.isCatchAll → after = []
  /-- no name is declared twice -/
  nodup : (declaredNames (partsOf outline)).Nodup
  /-- every constraint can be made -/
  constraints : ∀ p, .parameter p ∈ partsOf outline → ∀ c ∈ p.constraints,
    ∃ made, set.create c.name c.argument = .ok made

/-- Going through the parts one after another says the same as looking at each in its place. -/
theorem allAllowed_iff {set : ConstraintSet} {before parts : List PartNode} :
    AllAllowed set [] before parts ↔ ∀ front part rest, parts = front ++ part :: rest →
      part.Allowed set (before ++ front) rest := by
  induction parts generalizing before with
  | nil => simp [AllAllowed]
  | cons first parts ih =>
    rw [AllAllowed, ih, List.append_nil]
    constructor
    · rintro ⟨hfirst, hparts⟩ front part rest heq
      rcases List.cons_eq_append_iff.mp heq with ⟨rfl, hcons⟩ | ⟨front, rfl, rfl⟩
      · cases hcons
        rwa [List.append_nil]
      · have hpart := hparts front part rest rfl
        rwa [List.append_assoc] at hpart
    · intro h
      refine ⟨by simpa using h [] first parts rfl, fun front part rest heq => ?_⟩
      rw [List.append_assoc]
      exact h (first :: front) part rest (by rw [heq]; rfl)

theorem declaredNames_append (first second : List PartNode) :
    declaredNames (first ++ second) = declaredNames first ++ declaredNames second :=
  List.filterMap_append

/-- Names that were not declared before are declared once. -/
theorem AllAllowed.nodup {set : ConstraintSet} {later before parts : List PartNode}
    (h : AllAllowed set later before parts) :
    (declaredNames parts).Nodup ∧ ∀ name ∈ declaredNames parts, name ∉ declaredNames before := by
  induction parts generalizing before with
  | nil => simp [declaredNames]
  | cons part rest ih =>
    obtain ⟨hallowed, hrest⟩ := h
    obtain ⟨hnodup, hnew⟩ := ih hrest
    simp only [declaredNames_append, List.mem_append, not_or] at hnew
    cases part with
    | literal text => exact ⟨hnodup, fun name hname => (hnew name hname).1⟩
    | parameter p =>
      obtain ⟨-, hfresh, -⟩ := PartNode.allowed_parameter_iff.mp hallowed
      have hnames : declaredNames (.parameter p :: rest) = p.name :: declaredNames rest := rfl
      rw [hnames, List.nodup_cons, List.forall_mem_cons]
      refine ⟨⟨fun hmem => (hnew p.name hmem).2 ?_, hnodup⟩, hfresh, fun name hname => ?_⟩
      · exact List.mem_singleton_self p.name
      · exact (hnew name hname).1

theorem exists_makes_iff {set : ConstraintSet} {c : ConstraintNode} :
    (∃ made, c.Makes set made) ↔ ∃ made, set.create c.name c.argument = .ok made := by
  constructor
  · rintro ⟨made, hmakes⟩
    exact ⟨made, hmakes.create⟩
  · rintro ⟨made, hcreate⟩
    exact ⟨made, hcreate, name_of_create hcreate, argument_of_create hcreate⟩

theorem validOutline_iff {set : ConstraintSet} {outline : List SegmentNode} :
    ValidOutline set outline ↔
      (¬ ∃ s ∈ outline, s.AllOptional) ∧ AllAllowed set [] [] (partsOf outline) := by
  constructor
  · intro h
    refine ⟨h.anchored, allAllowed_iff.mpr fun front part rest heq => ?_⟩
    have hmem : part ∈ partsOf outline := by simp [heq]
    cases part with
    | literal text => exact .literal (h.literal text hmem)
    | parameter p =>
      refine .parameter (h.catchAll front p rest heq) ?_ fun c hc =>
        exists_makes_iff.mpr (h.constraints p hmem c hc)
      have hnodup := h.nodup
      rw [heq, declaredNames_append, List.nodup_append] at hnodup
      intro hseen
      exact hnodup.2.2 p.name hseen p.name List.mem_cons_self rfl
  · rintro ⟨hanchored, hparts⟩
    have hallowed {part : PartNode} (hpart : part ∈ partsOf outline) :
        ∃ front rest, part.Allowed set front rest := by
      obtain ⟨front, rest, heq⟩ := List.append_of_mem hpart
      exact ⟨_, _, allAllowed_iff.mp hparts front part rest heq⟩
    refine ⟨hanchored, ?_, ?_, hparts.nodup.1, ?_⟩
    · intro text htext
      obtain ⟨_, _, ⟨hquestion⟩⟩ := hallowed htext
      exact hquestion
    · intro before p after heq
      exact (PartNode.allowed_parameter_iff.mp (allAllowed_iff.mp hparts _ _ _ heq)).1
    · intro p hp c hc
      obtain ⟨_, _, hpart⟩ := hallowed hp
      exact exists_makes_iff.mp ((PartNode.allowed_parameter_iff.mp hpart).2.2 c hc)

/-! ### Binding an outline -/

inductive OutlineFault (set : ConstraintSet) (outline : List SegmentNode) : PatternFault → Prop
  | allOptional (h : ∃ s ∈ outline, s.AllOptional) : OutlineFault set outline .allOptionalSegment
  | part {fault : PatternFault} (hanchored : ¬ ∃ s ∈ outline, s.AllOptional)
      (h : FirstFault set [] (partsOf outline) fault) : OutlineFault set outline fault

section

variable {set : ConstraintSet} {outline : List SegmentNode}

/-- **Binding succeeds exactly for valid outlines.** -/
theorem bind_eq_ok_iff {segments : List Segment} : bind set outline = .ok segments ↔
    ValidOutline set outline ∧ List.Forall₂ (SegmentNode.Binds set) outline segments := by
  rw [bind, validOutline_iff]
  split
  · next hoptional =>
    constructor
    · rintro ⟨⟩
    · rintro ⟨⟨hanchored, -⟩, -⟩
      exact absurd (any_isAllOptional_iff.mp hoptional) hanchored
  · next hoptional =>
    have hbind := @bindSegments_eq_ok_iff set [] outline segments
    rw [and_assoc]
    exact hbind.trans (and_iff_right (mt any_isAllOptional_iff.mpr hoptional)).symm

theorem bind_eq_error_iff {fault : PatternFault} :
    bind set outline = .error fault ↔ OutlineFault set outline fault := by
  rw [bind]
  split
  · next hoptional =>
    have hall := any_isAllOptional_iff.mp hoptional
    constructor
    · rintro ⟨⟩
      exact .allOptional hall
    · intro h
      cases h with
      | allOptional _ => rfl
      | part hanchored _ => exact absurd hall hanchored
  · next hoptional =>
    have hanchored := mt any_isAllOptional_iff.mpr hoptional
    constructor
    · intro h
      exact .part hanchored (firstFault_of_bindSegments h)
    · intro h
      cases h with
      | allOptional hall => exact absurd hall hanchored
      | part _ hfirst =>
        -- binding ends somehow, and neither with segments nor with another fault
        cases hbind : bindSegments set [] outline with
        | ok segments => exact absurd (bindSegments_eq_ok_iff.mp hbind).1 hfirst.not_allAllowed
        | error fault' => rw [hfirst.unique (firstFault_of_bindSegments hbind)]

/-- **Validation is exact and reports the first fault.** Exactly the valid outlines bind, to
    the segments that they describe; of any other outline, exactly its fault is reported. -/
theorem bind_valid_or_first_fault (set : ConstraintSet) (outline : List SegmentNode) :
    ((∃ segments, bind set outline = .ok segments) ↔ ValidOutline set outline) ∧
      (∀ segments, bind set outline = .ok segments ↔
        ValidOutline set outline ∧ List.Forall₂ (SegmentNode.Binds set) outline segments) ∧
      ∀ fault, bind set outline = .error fault ↔ OutlineFault set outline fault := by
  refine ⟨⟨?_, fun hvalid => ?_⟩, fun _ => bind_eq_ok_iff, fun _ => bind_eq_error_iff⟩
  · rintro ⟨segments, hbind⟩
    exact (bind_eq_ok_iff.mp hbind).1
  · cases hbind : bind set outline with
    | ok segments => exact ⟨segments, rfl⟩
    | error fault =>
      cases bind_eq_error_iff.mp hbind with
      | allOptional hall => exact absurd hall hvalid.anchored
      | part _ hfirst => exact absurd (validOutline_iff.mp hvalid).2 hfirst.not_allAllowed

end

end Routing
