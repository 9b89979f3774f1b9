/-
  Routing/Proofs/Binding.lean
  ===========================
  **What binding makes of parts, one after another.**  `PartNode.Allowed` says that a
  part may stand where it stands, `PartNode.Binds` what becomes of it then, and
  `PartNode.Rejected` what is reported of it otherwise. Segments bind exactly if all
  parts are allowed, and else the first part that is not decides the report.

  Binding goes through the parts from the left, so the induction carries the parts
  before: the names that binding has seen are the ones that they declare.
-/
import Routing.Pattern.Basic
import Routing.Proofs.Results

namespace Routing

open Template (ConstraintNode ParameterNode PartNode SegmentNode)

/-! ### What a set makes of a name -/

namespace ConstraintSet

variable {set : ConstraintSet} {name argument : String}

/-- **A set makes a constraint with the factory of its name**: the custom one, and if there is
    none the built-in one. The constraint is labelled with what was asked for. -/
theorem create_eq_ok_iff {c : Constraint} : set.create name argument = .ok c ↔
    ∃ factory made, (set.factory? name <|> Builtin.factories.lookup name) = some factory ∧
      factory argument = .ok made ∧ c = made.labelled name argument := by
  rw [create]
  cases (set.factory? name <|> Builtin.factories.lookup name) with
  | none => simp
  | some factory => cases hmade : factory argument <;> simp [hmade, eq_comm]

theorem create_eq_invalidArgument_iff {fault : ArgumentFault} :
    set.create name argument = .error (.invalidArgument fault) ↔
      ∃ factory, (set.factory? name <|> Builtin.factories.lookup name) = some factory ∧
        factory argument = .error fault := by
  rw [create]
  cases (set.factory? name <|> Builtin.factories.lookup name) with
  | none => simp
  | some factory => cases hmade : factory argument <;> simp [hmade]

theorem create_eq_unknown_iff : set.create name argument = .error .unknown ↔
    (set.factory? name <|> Builtin.factories.lookup name) = none := by
  rw [create]
  cases (set.factory? name <|> Builtin.factories.lookup name) with
  | none => simp
  | some factory => cases hmade : factory argument <;> simp [hmade]

end ConstraintSet

/-! ### Constraints -/

inductive Template.ConstraintNode.Fails (set : ConstraintSet) (c : ConstraintNode) :
    PatternFault → Prop
  | unknown (h : set.create c.name c.argument = .error .unknown) :
    Fails set c (.unknownConstraint c.name)
  | argument {fault : ArgumentFault}
      (h : set.create c.name c.argument = .error (.invalidArgument fault)) :
    Fails set c (.invalidConstraintArgument c.name c.argument fault)

structure Template.ConstraintNode.Makes (set : ConstraintSet) (c : ConstraintNode)
    (made : Constraint) : Prop where
  create : set.create c.name c.argument = .ok made
  name : made.name = c.name
  argument : made.argument = c.argument

/-- A constraint has the name that it was asked for by. -/
theorem name_of_create {set : ConstraintSet} {name argument : String} {c : Constraint}
    (h : set.create name argument = .ok c) : c.name = name := by
  obtain ⟨factory, made, -, -, rfl⟩ := ConstraintSet.create_eq_ok_iff.mp h
  rfl

theorem argument_of_create {set : ConstraintSet} {name argument : String} {c : Constraint}
    (h : set.create name argument = .ok c) : c.argument = argument := by
  obtain ⟨factory, made, -, -, rfl⟩ := ConstraintSet.create_eq_ok_iff.mp h
  rfl

theorem bindConstraint_eq_ok {set : ConstraintSet} {node : ConstraintNode}
    {c : Constraint} (h : bindConstraint set node = .ok c) :
    set.create node.name node.argument = .ok c := by
  rw [bindConstraint] at h
  split at h
  · next heq =>
    cases h
    exact heq
  · cases h
  · cases h

theorem bindConstraint_eq_ok_iff {set : ConstraintSet} {c : ConstraintNode} {made : Constraint} :
    bindConstraint set c = .ok made ↔ c.Makes set made := by
  constructor
  · intro h
    have hcreate := bindConstraint_eq_ok h
    exact ⟨hcreate, name_of_create hcreate, argument_of_create hcreate⟩
  · rintro ⟨hcreate, -, -⟩
    rw [bindConstraint, hcreate]

theorem bindConstraint_eq_error_iff {set : ConstraintSet} {c : ConstraintNode}
    {fault : PatternFault} : bindConstraint set c = .error fault ↔ c.Fails set fault := by
  constructor
  · intro h
    rw [bindConstraint] at h
    split at h
    · cases h
    · next hcreate =>
      cases h
      exact .unknown hcreate
    · next hcreate =>
      cases h
      exact .argument hcreate
  · rintro (hcreate | hcreate)
    · rw [bindConstraint, hcreate]
    · rw [bindConstraint, hcreate]

/-! ### Parts in their places -/

def Template.PartNode.name? : PartNode → Option String
  | .literal _ => none
  | .parameter p => some p.name

def declaredNames (parts : List PartNode) : List String :=
  parts.filterMap PartNode.name?

/-- The part may stand between the parts before it and the parts after it. -/
inductive Template.PartNode.Allowed (set : ConstraintSet) (before after : List PartNode) :
    PartNode → Prop
  | literal {text : String} (hquestion : '?' ∉ text.toList) :
    Allowed set before after (.literal text)
  | parameter {p : ParameterNode} (hlast : p.quantifier.isCatchAll → after = [])
      (hfresh : p.name ∉ declaredNames before)
      (hmade : ∀ c ∈ p.constraints, ∃ made, c.Makes set made) :
    Allowed set before after (.parameter p)

/-- What is reported of a part between the parts before it and the parts after it. Of several
    faults of a parameter its place comes first, then its name, then its constraints in
    order. -/
inductive Template.PartNode.Rejected (set : ConstraintSet) (before after : List PartNode) :
    PartNode → PatternFault → Prop
  | questionMark {text : String} (hquestion : '?' ∈ text.toList) :
    Rejected set before after (.literal text) .questionMarkInLiteral
  | misplaced {p : ParameterNode} (hcatchAll : p.quantifier.isCatchAll) (hafter : after ≠ []) :
    Rejected set before after (.parameter p) .misplacedCatchAll
  | duplicate {p : ParameterNode} (hlast : p.quantifier.isCatchAll → after = [])
      (hseen : p.name ∈ declaredNames before) :
    Rejected set before after (.parameter p) (.duplicateParameter p.name)
  | constraint {p : ParameterNode} {made rest : List ConstraintNode} {c : ConstraintNode}
      {fault : PatternFault} (hlast : p.quantifier.isCatchAll → after = [])
      (hfresh : p.name ∉ declaredNames before) (hsplit : p.constraints = made ++ c :: rest)
      (hmade : ∀ earlier ∈ made, ∃ k, earlier.Makes set k) (hfails : c.Fails set fault) :
    Rejected set before after (.parameter p) fault

theorem Template.PartNode.allowed_parameter_iff {set : ConstraintSet}
    {before after : List PartNode} {p : ParameterNode} :
    PartNode.Allowed set before after (.parameter p) ↔
      (p.quantifier.isCatchAll → after = []) ∧ p.name ∉ declaredNames before ∧
        ∀ c ∈ p.constraints, ∃ made, c.Makes set made := by
  constructor
  · intro h
    cases h with
    | parameter hlast hfresh hmade => exact ⟨hlast, hfresh, hmade⟩
  · rintro ⟨hlast, hfresh, hmade⟩
    exact .parameter hlast hfresh hmade

structure Template.ParameterNode.Binds (set : ConstraintSet) (node : ParameterNode)
    (p : Parameter) : Prop where
  name : p.name = node.name
  quantifier : p.quantifier = node.quantifier
  constraints : List.Forall₂ (ConstraintNode.Makes set) node.constraints p.constraints
  default_zeroOrMore : p.quantifier = .zeroOrMore → p.default? = some (node.default?.getD "")
  default_other : p.quantifier ≠ .zeroOrMore → ∀ text,
    p.default? = some text ↔ node.default? = some text ∧ text ≠ ""

inductive Template.PartNode.Binds (set : ConstraintSet) : PartNode → Part → Prop
  | literal (text : String) : Binds set (.literal text) (.literal text)
  | parameter {node : ParameterNode} {p : Parameter} (h : node.Binds set p) :
    Binds set (.parameter node) (.parameter p)

def Template.SegmentNode.Binds (set : ConstraintSet) (node : SegmentNode) (s : Segment) : Prop :=
  List.Forall₂ (PartNode.Binds set) node.parts s.parts

theorem eq_effectiveDefault_iff {quantifier : Quantifier} {declared default? : Option String} :
    default? = effectiveDefault quantifier declared ↔
      (quantifier = .zeroOrMore → default? = some (declared.getD "")) ∧
      (quantifier ≠ .zeroOrMore → ∀ text,
        default? = some text ↔ declared = some text ∧ text ≠ "") := by
  unfold effectiveDefault
  by_cases hquantifier : quantifier = .zeroOrMore
  · simp [hquantifier]
  · simp only [hquantifier, if_false, false_implies, true_and, ne_eq, not_false_iff, true_implies]
    constructor
    · rintro rfl text
      simp [Option.filter_eq_some_iff]
    · intro h
      apply Option.ext
      intro text
      rw [h text, Option.filter_eq_some_iff]
      simp

/-! ### Binding one parameter -/

section

variable {set : ConstraintSet} {before after : List PartNode} {node : ParameterNode}

theorem mapM_bindConstraint_eq_ok_iff {nodes : List ConstraintNode} {made : List Constraint} :
    nodes.mapM (bindConstraint set) = .ok made ↔
      List.Forall₂ (ConstraintNode.Makes set) nodes made := by
  rw [Except.mapM_eq_ok_iff]
  simp only [bindConstraint_eq_ok_iff]

/-- Binding a parameter in its place, check by check. -/
theorem bindParameter_eq (set : ConstraintSet) (before after : List PartNode)
    (node : ParameterNode) :
    bindParameter set (declaredNames before).reverse after.isEmpty node =
      if node.quantifier.isCatchAll ∧ after ≠ [] then .error .misplacedCatchAll
      else if node.name ∈ declaredNames before then .error (.duplicateParameter node.name)
      else (node.constraints.mapM (bindConstraint set)).map fun made =>
        ⟨node.name, node.quantifier, made, effectiveDefault node.quantifier node.default?⟩ := by
  have hlast : (node.quantifier.isCatchAll && !after.isEmpty) = true ↔
      node.quantifier.isCatchAll ∧ after ≠ [] := by
    simp
  have hseen : (declaredNames before).reverse.contains node.name = true ↔
      node.name ∈ declaredNames before := by
    simp
  simp only [bindParameter, hlast, hseen]
  cases node.constraints.mapM (bindConstraint set) <;> rfl

theorem bindParameter_eq_ok_iff {p : Parameter} :
    bindParameter set (declaredNames before).reverse after.isEmpty node = .ok p ↔
      PartNode.Allowed set before after (.parameter node) ∧ node.Binds set p := by
  rw [bindParameter_eq, PartNode.allowed_parameter_iff]
  split
  · next hmisplaced => -- a catch-all with a part behind it
    constructor
    · rintro ⟨⟩
    · rintro ⟨⟨hlast, -⟩, -⟩
      exact absurd (hlast hmisplaced.1) hmisplaced.2
  next hplaced =>
  split
  · next hseen => -- a name that was declared before
    constructor
    · rintro ⟨⟩
    · rintro ⟨⟨-, hfresh, -⟩, -⟩
      exact absurd hseen hfresh
  next hfresh =>
  simp only [Except.map_eq_ok, mapM_bindConstraint_eq_ok_iff]
  constructor
  · rintro ⟨made, hmade, rfl⟩
    obtain ⟨hzeroOrMore, hother⟩ := eq_effectiveDefault_iff.mp
      (rfl : effectiveDefault node.quantifier node.default? = _)
    refine ⟨⟨fun h => ?_, hfresh, fun c hc => ?_⟩, rfl, rfl, hmade, hzeroOrMore, hother⟩
    · by_contra hafter
      exact hplaced ⟨h, hafter⟩
    · obtain ⟨k, -, hmakes⟩ := exists_right_of_forall₂ hmade c hc
      exact ⟨k, hmakes⟩
  · rintro ⟨-, hname, hquantifier, hmade, hzeroOrMore, hother⟩
    obtain ⟨name, quantifier, constraints, default?⟩ := p
    cases hname
    cases hquantifier
    have hdefault := eq_effectiveDefault_iff.mpr ⟨hzeroOrMore, hother⟩
    exact ⟨constraints, hmade, by rw [← hdefault]⟩

theorem bindParameter_eq_error_iff {fault : PatternFault} :
    bindParameter set (declaredNames before).reverse after.isEmpty node = .error fault ↔
      PartNode.Rejected set before after (.parameter node) fault := by
  rw [bindParameter_eq]
  split
  · next hmisplaced =>
    constructor
    · rintro ⟨⟩
      exact .misplaced hmisplaced.1 hmisplaced.2
    · intro h
      cases h with
      | misplaced _ _ => rfl
      | duplicate hlast _ => exact absurd (hlast hmisplaced.1) hmisplaced.2
      | constraint hlast _ _ _ _ => exact absurd (hlast hmisplaced.1) hmisplaced.2
  next hplaced => -- from here on the place is right, so the other faults may show
  have hlast : node.quantifier.isCatchAll → after = [] := by
    intro hcatchAll
    by_contra hafter
    exact hplaced ⟨hcatchAll, hafter⟩
  split
  · next hseen =>
    constructor
    · rintro ⟨⟩
      exact .duplicate hlast hseen
    · intro h
      cases h with
      | misplaced hcatchAll hafter => exact absurd (hlast hcatchAll) hafter
      | duplicate _ _ => rfl
      | constraint _ hfresh _ _ _ => exact absurd hseen hfresh
  next hfresh =>
  simp only [Except.map_eq_error, Except.mapM_eq_error_iff, bindConstraint_eq_ok_iff,
    bindConstraint_eq_error_iff]
  constructor
  · rintro ⟨made, c, rest, hsplit, hmade, hfails⟩
    exact .constraint hlast hfresh hsplit hmade hfails
  · intro h
    cases h with
    | misplaced hcatchAll hafter => exact absurd (hlast hcatchAll) hafter
    | duplicate _ hseen => exact absurd hseen hfresh
    | constraint _ _ hsplit hmade hfails => exact ⟨_, _, _, hsplit, hmade, hfails⟩

end

/-! ### Binding one part -/

def bindPart (set : ConstraintSet) (before after : List PartNode) :
    PartNode → Except PatternFault Part
  | .literal text =>
    if '?' ∈ text.toList then .error .questionMarkInLiteral else .ok (.literal text)
  | .parameter p =>
    (bindParameter set (declaredNames before).reverse after.isEmpty p).map .parameter

section

variable {set : ConstraintSet} {before after : List PartNode} {node : PartNode}

theorem bindPart_eq_ok_iff {part : Part} : bindPart set before after node = .ok part ↔
    node.Allowed set before after ∧ node.Binds set part := by
  cases node with
  | literal text =>
    rw [bindPart]
    constructor
    · intro h
      split at h
      · cases h
      · next hquestion =>
        cases h
        exact ⟨.literal hquestion, .literal text⟩
    · rintro ⟨⟨hquestion⟩, ⟨⟩⟩
      rw [if_neg hquestion]
  | parameter p =>
    rw [bindPart, Except.map_eq_ok]
    constructor
    · rintro ⟨bound, hbound, rfl⟩
      obtain ⟨hallowed, hbinds⟩ := bindParameter_eq_ok_iff.mp hbound
      exact ⟨hallowed, .parameter hbinds⟩
    · rintro ⟨hallowed, hbinds⟩
      cases hbinds with
      | parameter hbinds => exact ⟨_, bindParameter_eq_ok_iff.mpr ⟨hallowed, hbinds⟩, rfl⟩

theorem bindPart_eq_error_iff {fault : PatternFault} :
    bindPart set before after node = .error fault ↔ node.Rejected set before after fault := by
  cases node with
  | literal text =>
    rw [bindPart]
    constructor
    · intro h
      split at h
      · next hquestion =>
        cases h
        exact .questionMark hquestion
      · cases h
    · intro h
      cases h with
      | questionMark hquestion => rw [if_pos hquestion]
  | parameter p => rw [bindPart, Except.map_eq_error, bindParameter_eq_error_iff]

/-- No part is both allowed and rejected. -/
theorem Template.PartNode.Rejected.not_allowed {fault : PatternFault}
    (h : node.Rejected set before after fault) : ¬ node.Allowed set before after := by
  intro hallowed
  cases hallowed with
  | literal hquestion =>
    cases h with
    | questionMark hmem => exact hquestion hmem
  | parameter hlast hfresh hmade =>
    cases h with
    | misplaced hcatchAll hafter => exact hafter (hlast hcatchAll)
    | duplicate _ hseen => exact hfresh hseen
    | @constraint _ _ _ c _ _ _ hsplit _ hfails =>
      have hmem : c ∈ _ := hsplit ▸ List.mem_append_right _ List.mem_cons_self
      obtain ⟨made, hmakes⟩ := hmade c hmem
      have hok := bindConstraint_eq_ok_iff.mpr hmakes
      rw [bindConstraint_eq_error_iff.mpr hfails] at hok
      cases hok

/-- One fault is reported of a part, even where it has several. -/
theorem Template.PartNode.Rejected.unique {fault fault' : PatternFault}
    (h : node.Rejected set before after fault) (h' : node.Rejected set before after fault') :
    fault = fault' := by
  have heq := bindPart_eq_error_iff.mpr h
  rw [bindPart_eq_error_iff.mpr h'] at heq
  cases heq
  rfl

end

/-! ### The first part at fault -/

/-- All parts are allowed where they stand, between the parts `before` and the parts
    `later`. -/
def AllAllowed (set : ConstraintSet) (later : List PartNode) :
    List PartNode → List PartNode → Prop
  | _, [] => True
  | before, part :: rest =>
    part.Allowed set before (rest ++ later) ∧ AllAllowed set later (before ++ [part]) rest

/-- The fault of the first part that is not allowed where it stands, after the parts
    `before`. -/
inductive FirstFault (set : ConstraintSet) :
    List PartNode → List PartNode → PatternFault → Prop
  | here {before rest : List PartNode} {part : PartNode} {fault : PatternFault}
      (h : part.Rejected set before rest fault) : FirstFault set before (part :: rest) fault
  | later {before rest : List PartNode} {part : PartNode} {fault : PatternFault}
      (hpart : part.Allowed set before rest) (h : FirstFault set (before ++ [part]) rest fault) :
    FirstFault set before (part :: rest) fault

theorem allAllowed_append {set : ConstraintSet} {later before first second : List PartNode} :
    AllAllowed set later before (first ++ second) ↔
      AllAllowed set (second ++ later) before first ∧
        AllAllowed set later (before ++ first) second := by
  induction first generalizing before with
  | nil => simp [AllAllowed]
  | cons part first ih =>
    rw [List.cons_append, AllAllowed, AllAllowed, ih, and_assoc, List.append_assoc,
      List.append_assoc, List.singleton_append]

namespace FirstFault

variable {set : ConstraintSet} {before parts later : List PartNode} {fault fault' : PatternFault}

theorem not_allAllowed (h : FirstFault set before parts fault) :
    ¬ AllAllowed set [] before parts := by
  induction h with
  | here h =>
    rintro ⟨hallowed, -⟩
    rw [List.append_nil] at hallowed
    exact h.not_allowed hallowed
  | later _ _ ih =>
    rintro ⟨-, hrest⟩
    exact ih hrest

/-- One fault is reported of an outline: that of its first part at fault. -/
theorem unique (h : FirstFault set before parts fault) (h' : FirstFault set before parts fault') :
    fault = fault' := by
  induction h with
  | here h =>
    cases h' with
    | here h' => exact h.unique h'
    | later hpart _ => exact absurd hpart h.not_allowed
  | later hpart _ ih =>
    cases h' with
    | here h' => exact absurd hpart h'.not_allowed
    | later _ h' => exact ih h'

theorem append (hparts : AllAllowed set later before parts)
    (h : FirstFault set (before ++ parts) later fault) :
    FirstFault set before (parts ++ later) fault := by
  induction parts generalizing before with
  | nil => simpa using h
  | cons part rest ih =>
    refine .later hparts.1 (ih hparts.2 ?_)
    rwa [List.append_assoc]

end FirstFault

/-! ### Binding all parts -/

theorem names_literal (before : List PartNode) (text : String) :
    declaredNames (before ++ [.literal text]) = declaredNames before := by
  simp [declaredNames, PartNode.name?]

theorem names_parameter (before : List PartNode) (p : ParameterNode) :
    (declaredNames (before ++ [.parameter p])).reverse =
      p.name :: (declaredNames before).reverse := by
  simp [declaredNames, PartNode.name?]

/-- Binding parts binds the first one in its place and then the others. -/
theorem bindParts_cons (set : ConstraintSet) (before later : List PartNode) (node : PartNode)
    (rest : List PartNode) :
    bindParts set (!later.isEmpty) (declaredNames before).reverse (node :: rest) =
      bindPart set before (rest ++ later) node >>= fun part =>
        (bindParts set (!later.isEmpty) (declaredNames (before ++ [node])).reverse rest).map
          fun bound => (bound.1, part :: bound.2) := by
  cases node with
  | literal text =>
    rw [bindParts, bindPart, names_literal]
    by_cases hquestion : '?' ∈ text.toList
    · simp [hquestion, Bind.bind, Except.bind]
    · simp only [List.contains_eq_mem, hquestion, decide_false, Bool.false_eq_true, if_false]
      cases bindParts set (!later.isEmpty) (declaredNames before).reverse rest <;> rfl
  | parameter p =>
    have hlast : (rest.isEmpty && !!later.isEmpty) = (rest ++ later).isEmpty := by
      cases rest <;> simp
    rw [bindParts, bindPart, names_parameter, hlast]
    cases bindParameter set (declaredNames before).reverse (rest ++ later).isEmpty p with
    | error fault => rfl
    | ok bound =>
      cases bindParts set (!later.isEmpty) (p.name :: (declaredNames before).reverse) rest <;> rfl

section

variable {set : ConstraintSet} {before later nodes : List PartNode}

/-- **The parts of a segment bind exactly if all are allowed**, to what they describe. -/
theorem bindParts_eq_ok_iff {bound : List String × List Part} :
    bindParts set (!later.isEmpty) (declaredNames before).reverse nodes = .ok bound ↔
      AllAllowed set later before nodes ∧
        bound.1 = (declaredNames (before ++ nodes)).reverse ∧
        List.Forall₂ (PartNode.Binds set) nodes bound.2 := by
  induction nodes generalizing before bound with
  | nil =>
    obtain ⟨seen, parts⟩ := bound
    simp [bindParts, AllAllowed, eq_comm]
  | cons node rest ih =>
    simp only [bindParts_cons, Except.bind_eq_ok, Except.map_eq_ok, bindPart_eq_ok_iff, ih,
      List.append_assoc, List.singleton_append]
    constructor
    · rintro ⟨part, ⟨hallowed, hpart⟩, bound, ⟨hrest, hnames, hparts⟩, rfl⟩
      exact ⟨⟨hallowed, hrest⟩, hnames, .cons hpart hparts⟩
    · obtain ⟨seen, parts⟩ := bound
      rintro ⟨⟨hallowed, hrest⟩, hnames, hparts⟩
      cases hparts with
      | @cons _ part _ parts hpart hparts =>
        exact ⟨part, ⟨hallowed, hpart⟩, (seen, parts), ⟨hrest, hnames, hparts⟩, rfl⟩

/-- Along the parts of a segment, with the names before them as the accumulator. -/
theorem firstFault_of_bindParts {fault : PatternFault}
    (h : bindParts set (!later.isEmpty) (declaredNames before).reverse nodes = .error fault) :
    FirstFault set before (nodes ++ later) fault := by
  induction nodes generalizing before with
  | nil => cases h
  | cons node rest ih =>
    rw [bindParts_cons] at h
    rcases Except.bind_eq_error.mp h with hnode | ⟨part, hpart, hrest⟩
    · exact .here (bindPart_eq_error_iff.mp hnode)
    · exact .later (bindPart_eq_ok_iff.mp hpart).1 (ih (Except.map_eq_error.mp hrest))

end

/-! ### Binding all segments -/

def partsOf (outline : List SegmentNode) : List PartNode :=
  outline.flatMap SegmentNode.parts

theorem partsOf_cons (s : SegmentNode) (rest : List SegmentNode) :
    partsOf (s :: rest) = s.parts ++ partsOf rest :=
  List.flatMap_cons

theorem any_parts (outline : List SegmentNode) :
    (outline.any fun s => !s.parts.isEmpty) = !(partsOf outline).isEmpty := by
  induction outline with
  | nil => rfl
  | cons s rest ih =>
    rw [List.any_cons, ih, partsOf_cons]
    cases s.parts <;> simp

section

variable {set : ConstraintSet} {before : List PartNode} {outline : List SegmentNode}

theorem bindSegments_eq_ok_iff {segments : List Segment} :
    bindSegments set (declaredNames before).reverse outline = .ok segments ↔
      AllAllowed set [] before (partsOf outline) ∧
        List.Forall₂ (SegmentNode.Binds set) outline segments := by
  induction outline generalizing before segments with
  | nil =>
    rw [bindSegments]
    simp [partsOf, AllAllowed, eq_comm]
  | cons s rest ih =>
    rw [bindSegments, any_parts, partsOf_cons, allAllowed_append, List.append_nil]
    simp only [Except.bind_eq_ok, bindParts_eq_ok_iff]
    constructor
    · rintro ⟨⟨seen, parts⟩, ⟨hallowed, hseen, hparts⟩, others, hothers, heq⟩
      cases hseen
      cases heq
      obtain ⟨hrest, hsegments⟩ := ih.mp hothers
      exact ⟨⟨hallowed, hrest⟩, .cons hparts hsegments⟩
    · rintro ⟨⟨hallowed, hrest⟩, hsegments⟩
      cases hsegments with
      | @cons _ t _ others hparts hothers =>
        exact ⟨(_, t.parts), ⟨hallowed, rfl, hparts⟩, others, ih.mpr ⟨hrest, hothers⟩, rfl⟩

theorem firstFault_of_bindSegments {fault : PatternFault}
    (h : bindSegments set (declaredNames before).reverse outline = .error fault) :
    FirstFault set before (partsOf outline) fault := by
  induction outline generalizing before with
  | nil => cases h
  | cons s rest ih =>
    rw [bindSegments, any_parts] at h
    rw [partsOf_cons]
    rcases Except.bind_eq_error.mp h with hparts | ⟨⟨seen, parts⟩, hparts, hrest⟩
    · exact firstFault_of_bindParts hparts
    · obtain ⟨hallowed, hseen, -⟩ := bindParts_eq_ok_iff.mp hparts
      cases hseen
      rcases Except.bind_eq_error.mp hrest with hrest | ⟨_, -, hpure⟩
      · exact .append hallowed (ih hrest)
      · cases hpure

end

end Routing
