/-
  Routing/Proofs/MatchShape.lean
  ==============================
  **What a match says of a parameter, by its mark.**  A required parameter has a value
  from the path, even if it declares a default. An optional one is missing only if no
  default is declared, and filled only if one is. The rest of a path is always a list,
  and not an empty one if the mark asks for a piece: the path is canonical, so what a
  catch-all takes of it is not made of slashes only.
-/
import Routing.Proofs.RebuiltPath
import Mathlib.Data.List.Forall2

namespace Routing

open Expression (Share)
open Text (solidPieces)

/-- The outcomes that a match can have for a parameter. -/
def Parameter.Shaped (p : Parameter) (outcome : ParamValue) : Prop :=
  match p.quantifier with
  | .required => ∃ value, outcome = .present value
  | .optional =>
    (∃ value, outcome = .present value) ∨
      (p.default? = none ∧ outcome = .missing) ∨
      (p.default? ≠ none ∧ ∃ value, outcome = .filled value)
  | .zeroOrMore => ∃ items, outcome = .present (.list items) ∨ outcome = .filled (.list items)
  | .oneOrMore => ∃ items, items ≠ [] ∧ outcome = .present (.list items)

namespace Parameter

variable {p : Parameter}

theorem exists_items_of_readValue? (hcatchAll : p.isCatchAll) {read : String → String}
    {text : String} {value : Value} (h : p.readValue? read text = some value) :
    ∃ items, value = .list items ∧ (Text.splitSolid '/' text ≠ [] → items ≠ []) := by
  rw [readValue?, if_pos hcatchAll] at h
  obtain ⟨items, hitems, rfl⟩ := Option.map_eq_some_iff.mp h
  refine ⟨items, rfl, fun hne => ?_⟩
  obtain ⟨piece, hpiece⟩ := List.exists_mem_of_ne_nil _ hne
  obtain ⟨item, hitem, -⟩ := exists_of_mapM_eq_some hitems piece hpiece
  exact List.ne_nil_of_mem hitem

theorem isCatchAll_of_quantifier (h : p.quantifier = .zeroOrMore ∨ p.quantifier = .oneOrMore) :
    p.isCatchAll := by
  rcases h with h | h <;> rw [isCatchAll, h] <;> rfl

theorem isRequired_of_quantifier (h : p.quantifier = .required ∨ p.quantifier = .oneOrMore) :
    p.isRequired := by
  rcases h with h | h <;> rw [isRequired, h] <;> rfl

/-- A parameter marked `*` has a default, declared or not. -/
theorem Declared.exists_default {set : ConstraintSet} (h : p.Declared set)
    (hquantifier : p.quantifier = .zeroOrMore) : ∃ text, p.default? = some text := by
  obtain ⟨declared, hdefault⟩ := h.default?
  rw [effectiveDefault, if_pos hquantifier] at hdefault
  exact ⟨_, hdefault⟩

/-- The shape of an outcome follows from the share and the declaration alone. -/
theorem OutcomeFrom.shaped {set : ConstraintSet} (hdeclared : p.Declared set) {share : Share}
    (hsolid : ∀ run, share = some run → run ≠ [] → solidPieces '/' run ≠ [])
    {outcome : ParamValue} (h : p.OutcomeFrom share outcome) : p.Shaped outcome := by
  unfold Shaped
  cases h with
  | @present run value hshare hne hvalue =>
    cases hquantifier : p.quantifier with
    | required => exact ⟨value, rfl⟩
    | optional => exact .inl ⟨value, rfl⟩
    | zeroOrMore =>
      obtain ⟨items, rfl, -⟩ :=
        exists_items_of_readValue? (isCatchAll_of_quantifier (.inl hquantifier)) hvalue
      exact ⟨items, .inl rfl⟩
    | oneOrMore =>
      obtain ⟨items, rfl, hitems⟩ :=
        exists_items_of_readValue? (isCatchAll_of_quantifier (.inr hquantifier)) hvalue
      refine ⟨items, hitems ?_, rfl⟩
      rw [Text.splitSolid, String.toList_ofList, Ne, List.map_eq_nil_iff]
      exact hsolid run hshare hne
  | @filled text value hrequired hdefault hvalue =>
    cases hquantifier : p.quantifier with
    | required => exact absurd (isRequired_of_quantifier (.inl hquantifier)) hrequired
    | optional => exact .inr (.inr ⟨by simp [hdefault], value, rfl⟩)
    | zeroOrMore =>
      obtain ⟨items, rfl, -⟩ :=
        exists_items_of_readValue? (isCatchAll_of_quantifier (.inl hquantifier)) hvalue
      exact ⟨items, .inr rfl⟩
    | oneOrMore => exact absurd (isRequired_of_quantifier (.inr hquantifier)) hrequired
  | missing hrequired hdefault =>
    -- neither a share nor a default: only an optional parameter may be missing
    cases hquantifier : p.quantifier with
    | required => exact absurd (isRequired_of_quantifier (.inl hquantifier)) hrequired
    | optional => exact .inr (.inl ⟨hdefault, rfl⟩)
    | zeroOrMore =>
      obtain ⟨text, htext⟩ := hdeclared.exists_default hquantifier
      rw [hdefault] at htext
      cases htext
    | oneOrMore => exact absurd (isRequired_of_quantifier (.inr hquantifier)) hrequired

end Parameter

namespace RoutePattern

/-- **Every match tells of each declared parameter once, in declaration order, and what it
    tells has the shape that the parameter's mark and default allow.** -/
theorem match?_shaped {set : ConstraintSet} {template : String} {p : RoutePattern}
    (hcompile : compile set template = .ok p) {path : String} {params : Params}
    (hmatch : p.match? path = some params) :
    params.entries.map Prod.fst = p.parameters.map Parameter.name ∧
      (params.entries.map Prod.fst).Nodup ∧
      List.Forall₂ (fun q entry => q.Shaped entry.2) p.parameters params.entries := by
  have haccepted := accepted_compile hcompile
  obtain ⟨shares, hpreferred, hread⟩ := (p.match?_eq_some_iff (isRooted_of_match? hmatch)).mp hmatch
  have hdecomposes := hpreferred.decomposes
  have hentries : List.Forall₂ (fun q entry => entry.1 = q.name ∧ q.Shaped entry.2)
      p.parameters params.entries := by
    refine forall₂_of_readShares? (fun q hq share hshare outcome hmay houtcome => ⟨rfl, ?_⟩)
      (mayTake_decomposes hdecomposes) hread
    refine (Parameter.outcomeFrom_of_outcome? hmay houtcome).shaped
      (haccepted.declared q (mem_parameters.mp hq)) ?_
    rintro run rfl hne
    exact hdecomposes.solidPieces_ne_nil haccepted.catchAll hshare hne
  have hnames := names_of_forall₂ (fun _ _ h => h.1) hentries
  have hnodup : (p.parameters.map Parameter.name).Nodup := by
    rw [parameters_eq]
    exact haccepted.nodup
  exact ⟨hnames, hnames ▸ hnodup, hentries.imp fun _ _ h => h.2⟩

/-- The default of a required parameter is not used, an optional one has it, one without a
    default is missing, and the rest of the path is a list. -/
theorem match?_shaped_files :
    let lang : Parameter := ⟨"lang", .required, [], some "en"⟩
    let page : Parameter := ⟨"page", .optional, [Builtin.int.labelled "int" ""], some "7"⟩
    let tag : Parameter := ⟨"tag", .optional, [], none⟩
    let path : Parameter := ⟨"path", .oneOrMore, [], none⟩
    let p : RoutePattern :=
      ⟨"/\x7blang:=(en)\x7d/\x7bpage?:int:=(7)\x7d/\x7btag?\x7d/files\x7bpath+\x7d",
        [⟨[.parameter lang]⟩, ⟨[.parameter page]⟩, ⟨[.parameter tag]⟩,
          ⟨[.literal "files", .parameter path]⟩]⟩
    let params : Params := ⟨[("lang", .present (.text "de")), ("page", .filled (.int 7)),
      ("tag", .missing), ("path", .present (.list [.text "a b", .text "c"]))]⟩
    compile .empty p.template = .ok p ∧ p.match? "/de//files/a%20b/c/" = some params ∧
      params.entries.map Prod.fst = p.parameters.map Parameter.name ∧
      (params.entries.map Prod.fst).Nodup ∧
      List.Forall₂ (fun q entry => q.Shaped entry.2) p.parameters params.entries := by
  intro lang page tag path p params
  have houtline : Template.outline p.template = .ok
      [⟨[.parameter ⟨"lang", .required, [], some "en"⟩]⟩,
      ⟨[.parameter ⟨"page", .optional, [⟨"int", ""⟩], some "7"⟩]⟩,
      ⟨[.parameter ⟨"tag", .optional, [], none⟩]⟩,
      ⟨[.literal "files", .parameter ⟨"path", .oneOrMore, [], none⟩]⟩] := by
    decide +kernel
  have hcompile : compile .empty p.template = .ok p := compile_of_outline houtline rfl
  have hnormal : Path.normalize "/de//files/a%20b/c/" = some "/de/files/a%20b/c" := by
    decide +kernel
  have hgroups : p.regex.captures "/de/files/a%20b/c" =
      some [(1, "de".toList), (4, "/a%20b/c".toList)] := by
    decide +kernel
  have hread : readParams? [(1, "de".toList), (4, "/a%20b/c".toList)] 1 p.parameters =
      some params.entries := rfl
  have hmatch : p.match? "/de//files/a%20b/c/" = some params := by
    unfold match?
    simp only [hnormal, hgroups, hread, Option.bind_eq_bind, Option.bind_some, Option.pure_def]
  exact ⟨hcompile, hmatch, match?_shaped hcompile hmatch⟩

end RoutePattern

end Routing
