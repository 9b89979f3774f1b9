/-
  Routing/Proofs/RoundTrip.lean
  =============================
  **When a path built from a match gives the same values again.**  Matching a path
  without catch-alls and building a path from the match always works, and the new
  path decomposes into what was written for the values. But matching it again reads
  its preferred decomposition, which may be another one: a value may hold a
  separator that the first path had escaped, and an inserted default may move what
  stands after it. And a value that a constraint made of a text may be written as
  another text, which the constraints before that one need not accept.

  So the values come back exactly if every parameter reads its value from what it
  takes of the new path: `roundTrips_iff`.
-/
import Routing.Proofs.MatchedValues
import Routing.Proofs.WrittenShares

namespace Routing

open Expression (Admits Decomposes Preferred Share TakeAll Takes placed)

/-! ### Matching again -/

/-- What a path has for a parameter with the given outcome: the written form of its
    value, if it has one. -/
def ParamValue.share (outcome : ParamValue) : Share :=
  outcome.value?.map fun value => (Text.Percent.encode value.toText).toList

def Params.shares (params : Params) : List Share :=
  params.entries.map fun entry => entry.2.share

/-- Building from a match uses the value that the match gave. -/
theorem used?_ofParams {p : Parameter} {entry : String × ParamValue} {given : RouteValues}
    (h : p.Outcome entry) (hget : given.get? entry.1 = entry.2.value?) :
    p.used? given = entry.2.value? := by
  unfold Parameter.used?
  rw [← h.name, hget]
  cases hvalue : entry.2.value? with
  | some value => simp [(h.read value hvalue).1.isEmpty]
  | none =>
    have hdefault := (h.missing hvalue).2
    simp [Parameter.defaultValue?, hdefault]

theorem used?_of_outcomes {parameters : List Parameter} {entries : List (String × ParamValue)}
    {given : RouteValues} (h : List.Forall₂ Parameter.Outcome parameters entries)
    (hget : ∀ entry ∈ entries, given.get? entry.1 = entry.2.value?) :
    List.Forall₂ (fun p entry => Parameter.Outcome p entry ∧ p.used? given = entry.2.value?)
      parameters entries := by
  induction h with
  | nil => exact .nil
  | @cons p entry _ _ hfirst _ ih =>
    refine .cons ⟨hfirst, used?_ofParams hfirst (hget entry List.mem_cons_self)⟩ (ih ?_)
    exact fun other hother => hget other (List.mem_cons_of_mem _ hother)

theorem shares_of_outcomes {parameters : List Parameter} {entries : List (String × ParamValue)}
    {given : RouteValues}
    (h : List.Forall₂ (fun p entry => Parameter.Outcome p entry ∧ p.used? given = entry.2.value?)
      parameters entries) :
    (parameters.map fun p => (p.used? given).map fun value =>
      (Text.Percent.encode value.toText).toList) = entries.map fun entry => entry.2.share := by
  induction h with
  | nil => rfl
  | cons hfirst _ ih =>
    rw [List.map_cons, List.map_cons, ih, hfirst.2]
    rfl

/-- Reading other shares gives the same values exactly if every parameter regains its own. -/
theorem readShares?_same_iff {parameters : List Parameter} {shares : List Share}
    {entries : List (String × ParamValue)} (hscalar : ∀ p ∈ parameters, p.isCatchAll = false)
    (hshares : List.Forall₂ Parameter.MayTake parameters shares)
    (houtcomes : List.Forall₂ Parameter.Outcome parameters entries) :
    (∃ again, readShares? parameters shares = some again ∧ List.Forall₂ SameEntry again entries) ↔
      List.Forall₂ (fun x entry => x.1.Regains x.2 entry.2.value?) (parameters.zip shares)
        entries := by
  induction hshares generalizing entries with
  | nil =>
    cases houtcomes
    exact ⟨fun _ => .nil, fun _ => ⟨[], rfl, .nil⟩⟩
  | @cons p share rest shares hfirst _ ih =>
    cases houtcomes with
    | @cons _ entry _ entries houtcome houtcomes =>
      have hp := hscalar p List.mem_cons_self
      have hrest := ih (fun q hq => hscalar q (List.mem_cons_of_mem _ hq)) houtcomes
      rw [List.zip_cons_cons, List.forall₂_cons, ← hrest]
      constructor
      · rintro ⟨again, hread, hsame⟩
        rw [readShares?] at hread
        obtain ⟨outcome, hfound, hread⟩ := Option.bind_eq_some_iff.mp hread
        obtain ⟨others, hothers, hread⟩ := Option.bind_eq_some_iff.mp hread
        cases hread
        cases hsame with
        | cons hhead htail =>
          refine ⟨⟨_, (Parameter.exists_outcome_iff hp hfirst).mp ⟨outcome, hfound, rfl⟩, hhead.2⟩,
            others, hothers, htail⟩
      · rintro ⟨⟨read?, hreads, hsame⟩, others, hothers, htail⟩
        obtain ⟨outcome, hfound, rfl⟩ := (Parameter.exists_outcome_iff hp hfirst).mpr hreads
        refine ⟨(p.name, outcome) :: others, ?_, .cons ⟨houtcome.name.symm, hsame⟩ htail⟩
        rw [readShares?, hfound, hothers]
        rfl

def Parameter.Restores (p : Parameter) (value : Value) : Prop :=
  ∃ again, p.constrain (.text value.toText) = some again ∧ again.Same value

theorem Parameter.Outcome.regains_share_iff {p : Parameter} {entry : String × ParamValue}
    (h : p.Outcome entry) :
    p.Regains entry.2.share entry.2.value? ↔
      ∀ value, entry.2.value? = some value → p.Restores value := by
  unfold ParamValue.share
  cases hvalue : entry.2.value? with
  | some value =>
    have hread : Text.Percent.decode (String.ofList (Text.Percent.encode value.toText).toList) =
        value.toText := by
      rw [String.ofList_toList, Text.Percent.decode_encode]
    constructor
    · rintro ⟨_, hreads, hsame⟩ _ ⟨⟩
      cases hreads with
      | run hconstrain =>
        rw [hread] at hconstrain
        cases hsame with
        | some hsame => exact ⟨_, hconstrain, hsame⟩
    · intro hrestores
      obtain ⟨again, hconstrain, hsame⟩ := hrestores value rfl
      rw [← hread] at hconstrain
      exact ⟨some again, .run hconstrain, .some hsame⟩
  | none =>
    constructor
    · rintro - value ⟨⟩
    · intro _
      exact ⟨none, .missing (h.missing hvalue).2, .none⟩

theorem forall₂_regains_share_iff {parameters : List Parameter}
    {entries : List (String × ParamValue)}
    (h : List.Forall₂ Parameter.Outcome parameters entries) :
    List.Forall₂ (fun x entry => x.1.Regains x.2 entry.2.value?)
        (parameters.zip (entries.map fun entry => entry.2.share)) entries ↔
      List.Forall₂ (fun p entry => ∀ value, entry.2.value? = some value → p.Restores value)
        parameters entries := by
  induction h with
  | nil => exact ⟨fun _ => .nil, fun _ => .nil⟩
  | cons hfirst _ ih =>
    rw [List.map_cons, List.zip_cons_cons, List.forall₂_cons, List.forall₂_cons, ih,
      hfirst.regains_share_iff]

/-! ### The built path -/

theorem flatMap_shares (given : RouteValues) (parts : List Part) :
    parts.flatMap (Part.shares given) = (parts.filterMap Part.parameter?).map fun p =>
      (p.used? given).map fun value => (Text.Percent.encode value.toText).toList := by
  induction parts with
  | nil => rfl
  | cons part rest ih =>
    rw [List.flatMap_cons, ih]
    cases part <;> rfl

theorem queryText_empty : queryText .empty = "" := by
  rfl

namespace RoutePattern

/-- The parameters take all values of a match, and each takes its own. -/
theorem ofParams_of_names {set : ConstraintSet} {p : RoutePattern} {params : Params}
    (haccepted : Accepted set [] p.parts)
    (hnames : params.entries.map Prod.fst = p.parameters.map Parameter.name) :
    (∀ entry ∈ params.entries, (RouteValues.ofParams params).get? entry.1 = entry.2.value?) ∧
      (RouteValues.ofParams params).without (namesOf p.parts) = .empty := by
  have hall : params.entries.map Prod.fst = namesOf p.parts := by
    rw [hnames, parameters_eq]
    rfl
  have hnodup : (params.entries.map Prod.fst).Nodup := by
    rw [hall]
    exact haccepted.nodup
  have hgiven : RouteValues.ofParams params = ⟨RouteValues.valued params.entries⟩ :=
    congrArg RouteValues.mk (RouteValues.entries_ofParams hnodup)
  rw [hgiven, ← hall]
  exact ⟨RouteValues.lookup_valued hnodup, RouteValues.without_valued hnodup⟩

/-- The path built from a match matches with the same values. -/
def RoundTrips (p : RoutePattern) (params : Params) : Prop :=
  ∃ built again, p.resolve? (.ofParams params) = some built ∧ p.match? built = some again ∧
    again.SameValues params

/-- The path built from the values of a match, and what it was written along. -/
structure Rebuilt (p : RoutePattern) (params : Params) (path : String) : Prop where
  resolve? : p.resolve? (.ofParams params) = some path
  canonical : Path.isCanonical path
  decomposes : Decomposes p.segments path.toList params.shares

theorem exists_rebuilt {set : ConstraintSet} {p : RoutePattern} {params : Params}
    (haccepted : Accepted set [] p.parts) (hanchored : ∀ s ∈ p.segments, s.Anchored)
    (hscalar : ∀ q ∈ p.parameters, q.isCatchAll = false)
    (houtcomes : List.Forall₂ Parameter.Outcome p.parameters params.entries) :
    ∃ path, p.Rebuilt params path := by
  obtain ⟨hget, hleft⟩ := ofParams_of_names haccepted
    (names_of_forall₂ (fun _ _ houtcome => houtcome.name) houtcomes)
  have hused := used?_of_outcomes houtcomes hget
  have hwritable : ∀ part ∈ p.parts, part.Writable (.ofParams params) := by
    intro part hpart
    have hmem {q : Parameter} (hq : part = .parameter q) : q ∈ p.parameters :=
      mem_parameters.mpr (hq ▸ hpart)
    refine ⟨?_, fun q hq => hscalar q (hmem hq), ?_, ?_⟩
    · intro text htext
      exact haccepted.literal text (htext ▸ hpart)
    · -- a value that is used came with the match
      intro q value hq hvalue
      obtain ⟨entry, -, houtcome, hentry⟩ := exists_right_of_forall₂ hused q (hmem hq)
      exact (houtcome.read value (hentry ▸ hvalue)).1
    · -- only an optional parameter came without a value
      intro q hq hnone
      obtain ⟨entry, -, houtcome, hentry⟩ := exists_right_of_forall₂ hused q (hmem hq)
      exact (houtcome.missing (hentry ▸ hnone)).1
  obtain ⟨path, hbuilt⟩ := exists_builtAlong haccepted hanchored hwritable
  refine ⟨path, ?_, hbuilt.canonical, ?_⟩
  · rw [hbuilt.resolve?, hleft, queryText_empty, String.append_empty]
  · have hshares : p.parts.flatMap (Part.shares (.ofParams params)) = params.shares := by
      rw [flatMap_shares, ← parameters_eq, shares_of_outcomes hused]
      rfl
    rw [← hshares]
    exact hbuilt.decomposes

theorem outcomes_of_match? {template : String} {p : RoutePattern}
    (hcompile : compile .empty template = .ok p)
    (hscalar : ∀ q ∈ p.parameters, q.isCatchAll = false) {path : String} {params : Params}
    (hmatch : p.match? path = some params) :
    List.Forall₂ Parameter.Outcome p.parameters params.entries := by
  have hdeclared : ∀ q ∈ p.parameters, q.Declared .empty :=
    fun q hq => (accepted_compile hcompile).declared q (mem_parameters.mp hq)
  obtain ⟨shares, hpreferred, hread⟩ := (p.match?_eq_some_iff (isRooted_of_match? hmatch)).mp hmatch
  exact outcomes_of_readShares? hdeclared hscalar (mayTake_decomposes hpreferred.decomposes) hread

/-- The values come back if every parameter reads its own from what it takes of the
    built path. -/
theorem Rebuilt.roundTrips_iff_regains {p : RoutePattern} {params : Params} {built : String}
    (hbuilt : p.Rebuilt params built) (hscalar : ∀ q ∈ p.parameters, q.isCatchAll = false)
    (houtcomes : List.Forall₂ Parameter.Outcome p.parameters params.entries)
    {best : List Share} (hbest : Preferred p.segments built.toList best) :
    p.RoundTrips params ↔
      List.Forall₂ (fun x entry => x.1.Regains x.2 entry.2.value?) (p.parameters.zip best)
        params.entries := by
  -- the built path is canonical, so it is read as it stands
  have hagain (again : Params) : p.match? built = some again ↔
      readShares? p.parameters best = some again.entries := by
    rw [p.match?_eq_some_iff (Path.isRooted_of_isCanonical hbuilt.canonical),
      Path.canonical_of_isCanonical hbuilt.canonical]
    constructor
    · rintro ⟨shares, hpreferred, hread⟩
      rw [hbest.unique hpreferred]
      exact hread
    · intro hread
      exact ⟨best, hbest, hread⟩
  rw [← readShares?_same_iff hscalar (mayTake_decomposes hbest.decomposes) houtcomes]
  constructor
  · rintro ⟨path, again, hresolve, hmatch, hsame⟩
    rw [hbuilt.resolve?] at hresolve
    cases hresolve
    exact ⟨again.entries, (hagain again).mp hmatch, hsame⟩
  · rintro ⟨entries, hread, hsame⟩
    exact ⟨built, ⟨entries⟩, hbuilt.resolve?, (hagain ⟨entries⟩).mpr hread, hsame⟩

/-- If they take what was written for them, what counts is the chains. -/
theorem Rebuilt.roundTrips_iff_restores {p : RoutePattern} {params : Params} {built : String}
    (hbuilt : p.Rebuilt params built) (hscalar : ∀ q ∈ p.parameters, q.isCatchAll = false)
    (houtcomes : List.Forall₂ Parameter.Outcome p.parameters params.entries)
    (hbest : Preferred p.segments built.toList params.shares) :
    p.RoundTrips params ↔
      List.Forall₂ (fun q entry => ∀ value, entry.2.value? = some value → q.Restores value)
        p.parameters params.entries := by
  rw [hbuilt.roundTrips_iff_regains hscalar houtcomes hbest]
  exact forall₂_regains_share_iff houtcomes

/-- **The values of a match come back exactly if every parameter reads its value from what
    it takes of the path built from them.** That path decomposes into the written forms
    of the values; if this is its preferred decomposition, what counts is that each
    chain gives its value back. -/
theorem roundTrips_iff {template : String} {p : RoutePattern}
    (hcompile : compile .empty template = .ok p)
    (hscalar : ∀ q ∈ p.parameters, q.isCatchAll = false) {path : String} {params : Params}
    (hmatch : p.match? path = some params) :
    ∃ built best, p.Rebuilt params built ∧ Preferred p.segments built.toList best ∧
      (p.RoundTrips params ↔
        List.Forall₂ (fun x entry => x.1.Regains x.2 entry.2.value?) (p.parameters.zip best)
          params.entries) ∧
      (best = params.shares →
        (p.RoundTrips params ↔
          List.Forall₂ (fun q entry => ∀ value, entry.2.value? = some value → q.Restores value)
            p.parameters params.entries)) := by
  have houtcomes := outcomes_of_match? hcompile hscalar hmatch
  obtain ⟨built, hbuilt⟩ := exists_rebuilt (accepted_compile hcompile) (anchored_compile hcompile)
    hscalar houtcomes
  obtain ⟨best, hbest⟩ := Expression.exists_preferred hbuilt.decomposes
  refine ⟨built, best, hbuilt, hbest, hbuilt.roundTrips_iff_regains hscalar houtcomes hbest, ?_⟩
  rintro rfl
  exact hbuilt.roundTrips_iff_restores hscalar houtcomes hbest

/-- Zeros in front of a number are not written again, and the number is the same. -/
theorem roundTrips_iff_number :
    let id : Parameter := ⟨"id", .required, [Builtin.int.labelled "int" ""], none⟩
    let name : Parameter := ⟨"name", .optional, [], none⟩
    let p : RoutePattern := ⟨"/\x7bid:int\x7d-\x7bname?\x7d",
      [⟨[.parameter id, .literal "-", .parameter name]⟩]⟩
    let params : Params := ⟨[("id", .present (.int 7)), ("name", .missing)]⟩
    compile .empty p.template = .ok p ∧ (∀ q ∈ p.parameters, q.isCatchAll = false) ∧
      p.match? "/007-" = some params ∧
      ∃ built best, p.Rebuilt params built ∧ Preferred p.segments built.toList best ∧
        (p.RoundTrips params ↔
          List.Forall₂ (fun x entry => x.1.Regains x.2 entry.2.value?) (p.parameters.zip best)
            params.entries) ∧
        (best = params.shares →
          (p.RoundTrips params ↔
            List.Forall₂ (fun q entry => ∀ value, entry.2.value? = some value → q.Restores value)
              p.parameters params.entries)) := by
  intro id name p params
  have houtline : Template.outline p.template = .ok [⟨[
      .parameter ⟨"id", .required, [⟨"int", ""⟩], none⟩, .literal "-",
      .parameter ⟨"name", .optional, [], none⟩]⟩] := by
    decide +kernel
  have hcompile : compile .empty p.template = .ok p := compile_of_outline houtline rfl
  have hscalar : ∀ q ∈ p.parameters, q.isCatchAll = false := by
    simp [p, id, name, parameters, Segment.parameters, Part.parameter?, Parameter.isCatchAll,
      Quantifier.isCatchAll]
  have hmatch : p.match? "/007-" = some params := rfl
  exact ⟨hcompile, hscalar, hmatch, roundTrips_iff hcompile hscalar hmatch⟩

/-- **The values do not always come back**: a separator that the first path had escaped
    separates in the built path. -/
theorem not_forall_roundTrips :
    ¬ ∀ (template : String) (p : RoutePattern) (path : String) (params : Params),
      compile .empty template = .ok p → (∀ q ∈ p.parameters, q.isCatchAll = false) →
        p.match? path = some params → p.RoundTrips params := by
  intro h
  let p : RoutePattern := ⟨"/\x7ba\x7d-\x7bb\x7d",
    [⟨[.parameter ⟨"a", .required, [], none⟩, .literal "-",
      .parameter ⟨"b", .required, [], none⟩]⟩]⟩
  have houtline : Template.outline p.template = .ok [⟨[
      .parameter ⟨"a", .required, [], none⟩, .literal "-",
      .parameter ⟨"b", .required, [], none⟩]⟩] := by
    decide +kernel
  have hcompile : compile .empty p.template = .ok p := compile_of_outline houtline rfl
  have hscalar : ∀ q ∈ p.parameters, q.isCatchAll = false := by
    simp [p, parameters, Segment.parameters, Part.parameter?, Parameter.isCatchAll,
      Quantifier.isCatchAll]
  have hfirst : p.match? "/x%2Dy-z" =
      some ⟨[("a", .present (.text "x-y")), ("b", .present (.text "z"))]⟩ := rfl
  have hresolve : p.resolve? (.ofParams
      ⟨[("a", .present (.text "x-y")), ("b", .present (.text "z"))]⟩) = some "/x-y-z" := rfl
  have hsecond : p.match? "/x-y-z" =
      some ⟨[("a", .present (.text "x")), ("b", .present (.text "y-z"))]⟩ := rfl
  obtain ⟨built, again, hbuilt, hagain, hsame⟩ := h p.template p _ _ hcompile hscalar hfirst
  rw [hresolve] at hbuilt
  cases hbuilt
  rw [hsecond] at hagain
  cases hagain
  cases hsame with
  | cons hentry _ =>
    have hsame : Value.Same (.text "x") (.text "x-y") := by
      simpa [ParamValue.value?] using hentry.2
    exact absurd hsame.text_eq (by decide)

end RoutePattern

end Routing
