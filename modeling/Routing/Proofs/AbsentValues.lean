/-
  Routing/Proofs/AbsentValues.lean
  ================================
  **Which values a path cannot be built from.**  What a path is built from is, for every
  parameter, the value that it uses: the given one unless that is empty, and else its
  default. A path cannot be built exactly if some required parameter uses none. An empty
  value is never used, so a parameter is as well off without it.
-/
import Routing.Proofs.BuiltDecomposition
import Routing.Proofs.DistinctNames

namespace Routing

/-! ### The value that a parameter uses -/

theorem Value.isEmpty_iff {value : Value} :
    value.isEmpty ↔ value = .text "" ∨ value = .list [] := by
  cases value <;> simp [Value.isEmpty]

namespace Parameter

/-- Nothing is given for the parameter, or an empty text or list. -/
def Lacks (p : Parameter) (given : RouteValues) : Prop :=
  ∀ value, given.get? p.name = some value → value = .text "" ∨ value = .list []

/-- The parameter has a default that can stand in for a value: a text that is not empty and,
    for a catch-all, has a piece. -/
def HasDefault (p : Parameter) : Prop :=
  ∃ text, p.default? = some text ∧ text ≠ "" ∧
    (p.isCatchAll → Text.splitSolid '/' text ≠ [])

theorem defaultValue?_eq_none_iff {p : Parameter} : p.defaultValue? = none ↔ ¬ p.HasDefault := by
  unfold defaultValue? HasDefault
  cases p.default? with
  | none => simp
  | some text =>
    by_cases hcatchAll : p.isCatchAll
    · -- the empty text has no pieces
      have hempty : Text.splitSolid '/' "" = [] := rfl
      by_cases hpieces : Text.splitSolid '/' text = []
      · simp [hcatchAll, hpieces, Value.isEmpty]
      · have hne : text ≠ "" := fun heq => hpieces (heq ▸ hempty)
        simp [hcatchAll, hpieces, hne, Value.isEmpty]
    · simp [hcatchAll, Value.isEmpty]

/-- Nothing given, an empty text and an empty list are one case. -/
theorem filter_get?_eq_none_iff {p : Parameter} {given : RouteValues} :
    ((given.get? p.name).filter fun v => !v.isEmpty) = none ↔ p.Lacks given := by
  simp only [Option.filter_eq_none_iff, Bool.not_eq_true', Bool.not_eq_false, Value.isEmpty_iff]
  exact forall_congr' fun value => by simp [eq_comm]

/-- **A parameter uses no value if it lacks one and has no default.** -/
theorem used?_eq_none_iff {p : Parameter} {given : RouteValues} :
    p.used? given = none ↔ p.Lacks given ∧ ¬ p.HasDefault := by
  rw [← filter_get?_eq_none_iff, ← defaultValue?_eq_none_iff, used?]
  cases (given.get? p.name).filter fun v => !v.isEmpty <;> simp

/-- What a parameter uses if it lacks a value depends on its default only. -/
theorem Lacks.used?_eq {p : Parameter} {given : RouteValues} (h : p.Lacks given) :
    p.used? given = p.defaultValue? := by
  unfold used?
  rw [filter_get?_eq_none_iff.mpr h]
  rfl

theorem isRequired_iff {p : Parameter} :
    p.isRequired ↔ p.quantifier = .required ∨ p.quantifier = .oneOrMore := by
  unfold isRequired
  cases p.quantifier <;> simp [Quantifier.isRequired]

end Parameter

/-! ### The text of a path -/

theorem Part.text?_parameter (given : RouteValues) (p : Parameter) :
    Part.text? given (.parameter p) = match p.used? given with
      | some value => some (p.pathText value)
      | none => if p.isRequired then none else some "" := rfl

theorem Part.text?_eq_none_iff {given : RouteValues} {part : Part} :
    part.text? given = none ↔ ∃ p, part = .parameter p ∧ p.isRequired ∧ p.used? given = none := by
  cases part with
  | literal text => simp [text?]
  | parameter p =>
    rw [text?_parameter]
    cases hused : p.used? given <;> simp [hused]

namespace RoutePattern

variable {set : ConstraintSet} {p : RoutePattern}

/-- One such parameter, wherever it stands, is enough for the whole path to fail. -/
theorem texts_eq_none_iff {given : RouteValues} :
    p.segments.mapM (Segment.text? given) = none ↔
      ∃ q ∈ p.parameters, q.isRequired ∧ q.used? given = none := by
  rw [mapM_eq_none_iff]
  simp only [Segment.text?, Option.map_eq_none_iff, mapM_eq_none_iff, Part.text?_eq_none_iff]
  constructor
  · rintro ⟨s, hs, part, hpart, q, rfl, hq⟩
    exact ⟨q, mem_parameters.mpr (List.mem_flatMap.mpr ⟨s, hs, hpart⟩), hq⟩
  · rintro ⟨q, hmem, hq⟩
    obtain ⟨s, hs, hpart⟩ := List.mem_flatMap.mp (mem_parameters.mp hmem)
    exact ⟨s, hs, _, hpart, q, rfl, hq⟩

/-- The texts of the segments depend on the values that the parameters use. -/
theorem texts_congr {given other : RouteValues}
    (hused : ∀ q ∈ p.parameters, q.used? given = q.used? other) :
    p.segments.mapM (Segment.text? given) = p.segments.mapM (Segment.text? other) := by
  refine mapM_congr_left fun s hs => congrArg (Option.map String.join) ?_
  refine mapM_congr_left fun part hpart => ?_
  cases part with
  | literal text => rfl
  | parameter q =>
    rw [Part.text?_parameter, Part.text?_parameter,
      hused q (mem_parameters.mpr (List.mem_flatMap.mpr ⟨s, hs, hpart⟩))]

theorem resolve?_eq_none_iff (haccepted : Accepted set [] p.parts) {given : RouteValues} :
    p.resolve? given = none ↔ ∃ q ∈ p.parameters,
      (q.quantifier = .required ∨ q.quantifier = .oneOrMore) ∧ q.Lacks given ∧ ¬ q.HasDefault := by
  rw [resolve?_eq haccepted, Option.map_eq_none_iff, texts_eq_none_iff]
  simp only [Parameter.isRequired_iff, Parameter.used?_eq_none_iff]

/-- The result is the same if the parameters use the same values and the same is left. -/
theorem resolve?_congr (haccepted : Accepted set [] p.parts) {given other : RouteValues}
    (hused : ∀ q ∈ p.parameters, q.used? given = q.used? other)
    (hleft : given.without (namesOf p.parts) = other.without (namesOf p.parts)) :
    p.resolve? given = p.resolve? other := by
  rw [resolve?_eq haccepted, resolve?_eq haccepted, texts_congr hused, hleft]

/-- A parameter that lacks a value can do without the entry of its name. -/
theorem resolve?_take (haccepted : Accepted set [] p.parts) {given : RouteValues}
    (hdistinct : given.Distinct) {q : Parameter} (hq : q ∈ p.parameters) (hlacks : q.Lacks given) :
    p.resolve? (given.take q.name).2 = p.resolve? given := by
  refine resolve?_congr haccepted (fun r hr => ?_) ?_
  · -- the parameters of that name lack a value before and after
    by_cases hname : r.name = q.name
    · have hgiven : r.Lacks given := by
        unfold Parameter.Lacks
        rw [hname]
        exact hlacks
      have htaken : r.Lacks (given.take q.name).2 := by
        unfold Parameter.Lacks
        rw [hname, hdistinct.get?_take_self]
        rintro value ⟨⟩
      rw [hgiven.used?_eq, htaken.used?_eq]
    · unfold Parameter.used?
      rw [RouteValues.get?_take hname]
  · -- the entry is not among the others, since the parameter takes it
    have hmem : q.name ∈ namesOf p.parts := by
      unfold namesOf
      rw [← parameters_eq]
      exact List.mem_map_of_mem hq
    have hentries : ((given.take q.name).2.without (namesOf p.parts)).entries =
        (given.without (namesOf p.parts)).entries := by
      rw [(hdistinct.take q.name).entries_without, hdistinct.entries_without,
        hdistinct.entries_take, List.filter_filter]
      refine List.filter_congr fun entry _ => ?_
      by_cases hentry : entry.1 = q.name
      · simp [hentry, hmem]
      · simp [hentry]
    exact congrArg RouteValues.mk hentries

/-- **A path cannot be built exactly if a required value is absent**: if a parameter marked
    `+` or not at all lacks a value and has no default. An empty value of a parameter is as
    good as none, wherever it stands among the values. -/
theorem resolve?_absent {template : String} (hcompile : compile set template = .ok p) :
    (∀ given, p.resolve? given = none ↔ ∃ q ∈ p.parameters,
      (q.quantifier = .required ∨ q.quantifier = .oneOrMore) ∧ q.Lacks given ∧ ¬ q.HasDefault) ∧
      ∀ q ∈ p.parameters, ∀ value, value = .text "" ∨ value = .list [] →
        ∀ before after, RouteValues.Distinct ⟨before ++ (q.name, value) :: after⟩ →
          p.resolve? ⟨before ++ (q.name, value) :: after⟩ = p.resolve? ⟨before ++ after⟩ := by
  have haccepted := accepted_compile hcompile
  refine ⟨fun _ => resolve?_eq_none_iff haccepted, ?_⟩
  intro q hq value hvalue before after hdistinct
  have htake := hdistinct.take_entry
  have hgiven : RouteValues.get? ⟨before ++ (q.name, value) :: after⟩ q.name = some value :=
    congrArg Prod.fst htake
  have hlacks : q.Lacks ⟨before ++ (q.name, value) :: after⟩ := by
    intro other hother
    rw [hgiven] at hother
    cases hother
    exact hvalue
  rw [← resolve?_take haccepted hdistinct hq hlacks, htake]

/-- A default of slashes has no piece that a catch-all could use. -/
theorem resolve?_absent_slashes :
    let tail : Parameter := ⟨"tail", .oneOrMore, [], some "//"⟩
    let id : Parameter := ⟨"id", .required, [], some "x"⟩
    let p : RoutePattern := ⟨"/\x7bid:=(x)\x7d/\x7btail+:=(//)\x7d",
      [⟨[.parameter id]⟩, ⟨[.parameter tail]⟩]⟩
    compile .empty p.template = .ok p ∧
      p.resolve? ⟨[("page", .int 2), ("tail", .list [])]⟩ = none ∧
      RouteValues.Distinct ⟨[("page", .int 2), ("id", .text ""), ("tail", .text "y")]⟩ ∧
      p.resolve? ⟨[("page", .int 2), ("id", .text ""), ("tail", .text "y")]⟩ =
        p.resolve? ⟨[("page", .int 2), ("tail", .text "y")]⟩ ∧
      p.resolve? ⟨[("page", .int 2), ("tail", .text "y")]⟩ = some "/x/y?page=2" := by
  intro tail id p
  have houtline : Template.outline p.template = .ok [
      ⟨[.parameter ⟨"id", .required, [], some "x"⟩]⟩,
      ⟨[.parameter ⟨"tail", .oneOrMore, [], some "//"⟩]⟩] := by
    decide +kernel
  have hcompile : compile .empty p.template = .ok p := compile_of_outline houtline rfl
  obtain ⟨hnone, hempty⟩ := resolve?_absent hcompile
  have hdistinct : RouteValues.Distinct
      ⟨[("page", .int 2), ("id", .text ""), ("tail", .text "y")]⟩ := by
    simp [RouteValues.Distinct, RouteValues.names]
  refine ⟨hcompile, (hnone _).mpr ⟨tail, by simp [p, parameters, Segment.parameters,
    Part.parameter?], .inr rfl, ?_, ?_⟩, hdistinct, ?_, by decide +kernel⟩
  · rintro value ⟨⟩
    exact .inr rfl
  · rintro ⟨text, hdefault, -, hpieces⟩
    cases hdefault
    exact hpieces rfl (by decide +kernel)
  · exact hempty id (by simp [p, parameters, Segment.parameters, Part.parameter?]) (.text "")
      (.inl rfl) [("page", .int 2)] [("tail", .text "y")] hdistinct

end RoutePattern

end Routing
