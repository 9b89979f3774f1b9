/-
  Routing/Proofs/RebuiltPath.lean
  ===============================
  **A match can always be turned back into a path.**  Every required parameter of a
  match has a value with texts that are not empty: what a parameter takes of a
  canonical path is never made of slashes only, escapes do not read as nothing, and
  no constraint turns a text into an empty one. So a path can be built from any
  match, with catch-alls and in mixed segments too, and nothing is left for its
  query. It is canonical because nothing in it was empty, and the pattern's
  expression matches it; a constraint may still reject it.
-/
import Routing.Proofs.BuiltDecomposition
import Routing.Proofs.RoundTrip

namespace Routing.Expression

open Text (IsPiece solidPieces)

/-! ### What parameters take of a canonical path -/

theorem map_snd_placedParts (s : Segment) : (placedParts s).map Prod.snd = s.parts := by
  obtain ⟨parts⟩ := s
  match parts with
  | [] => rfl
  | [part] => rfl
  | part :: next :: rest => simp [placedParts, Function.comp_def]

theorem map_snd_placed (segments : List Segment) :
    (placed segments).map Prod.snd = segments.flatMap Segment.parts := by
  rw [placed, List.map_flatMap]
  exact List.flatMap_congr fun s _ => map_snd_placedParts s

theorem Takes.length_le {position : Position} {part : Part} {shares : List Share}
    {text run : List Char} (h : Takes position part shares text) (hrun : some run ∈ shares) :
    position.lead.length + run.length ≤ text.length := by
  cases h with
  | literal _ => cases hrun
  | run _ =>
    cases List.mem_singleton.mp hrun
    rw [List.length_append]
  | noPiece _ => cases List.mem_singleton.mp hrun
  | noRest _ => cases List.mem_singleton.mp hrun

theorem TakeAll.length_le {parts : List (Position × Part)} {shares : List Share}
    {text run : List Char} (h : TakeAll parts shares text) (hrun : some run ∈ shares) :
    run.length ≤ text.length := by
  induction h with
  | nil => cases hrun
  | cons hpart _ ih =>
    rw [List.length_append]
    rcases List.mem_append.mp hrun with hrun | hrun
    · have := hpart.length_le hrun
      omega
    · have := ih hrun
      omega

/-- The first of several parts takes its slash even if its parameter takes nothing. -/
theorem Takes.pos_of_leading {part : Part} {shares : List Share} {text : List Char}
    (h : Takes .leading part shares text) (hscalar : part.isCatchAll = false) :
    0 < text.length := by
  cases h with
  | literal _ => simp [Position.lead]
  | run _ => simp [Position.lead]
  | noPiece _ => simp [Position.gap]
  | @noRest p hquantifier =>
    simp [Part.isCatchAll, Part.parameter?, Parameter.isCatchAll, hquantifier,
      Quantifier.isCatchAll] at hscalar

/-- A segment has a slash apart from what each parameter takes. -/
theorem TakeAll.length_lt {s : Segment}
    (hcatchAll : s.parts.Pairwise fun part _ => part.isCatchAll = false) {shares : List Share}
    {text run : List Char} (h : TakeAll (placedParts s) shares text) (hrun : some run ∈ shares) :
    run.length < text.length := by
  obtain ⟨parts⟩ := s
  match parts with
  | [] =>
    cases h
    cases hrun
  | [part] =>
    obtain ⟨first, others, start, rest, rfl, rfl, hpart, hnil⟩ := h.exists_cons
    cases hnil
    rw [List.append_nil] at hrun
    have := hpart.length_le hrun
    simp only [Position.lead, List.length_singleton] at this
    rw [List.append_nil]
    omega
  | part :: next :: tail =>
    obtain ⟨first, others, start, rest, rfl, rfl, hpart, hall⟩ := h.exists_cons
    have hscalar := (List.pairwise_cons.mp hcatchAll).1 next List.mem_cons_self
    have hpos := hpart.pos_of_leading hscalar
    rw [List.length_append]
    rcases List.mem_append.mp hrun with hrun | hrun
    · have := hpart.length_le hrun
      simp only [Position.lead, List.length_singleton] at this
      omega
    · have := hall.length_le hrun
      omega

theorem TakeAll.exists_append {first second : List (Position × Part)} {shares : List Share}
    {text : List Char} (h : TakeAll (first ++ second) shares text) :
    ∃ as bs start rest, shares = as ++ bs ∧ text = start ++ rest ∧ TakeAll first as start ∧
      TakeAll second bs rest := by
  induction first generalizing shares text with
  | nil => exact ⟨[], shares, [], text, rfl, rfl, .nil, h⟩
  | cons x first ih =>
    obtain ⟨as, others, start, rest, rfl, rfl, hpart, hall⟩ := TakeAll.exists_cons h
    obtain ⟨as', bs, start', rest', rfl, rfl, hfirst, hsecond⟩ := ih hall
    exact ⟨as ++ as', bs, start ++ start', rest', by simp, by simp, .cons hpart hfirst, hsecond⟩

/-- A share is shorter than what all segments take, as a slash stands in front of it. -/
theorem TakeAll.length_lt_placed {segments : List Segment}
    (hcatchAll : (segments.flatMap Segment.parts).Pairwise fun part _ => part.isCatchAll = false)
    {shares : List Share} {text run : List Char} (h : TakeAll (placed segments) shares text)
    (hrun : some run ∈ shares) : run.length < text.length := by
  induction segments generalizing shares text with
  | nil =>
    cases h
    cases hrun
  | cons s rest ih =>
    rw [List.flatMap_cons, List.pairwise_append] at hcatchAll
    obtain ⟨as, bs, start, tail, rfl, rfl, hfirst, hsecond⟩ := TakeAll.exists_append h
    rw [List.length_append]
    rcases List.mem_append.mp hrun with hrun | hrun
    · have := hfirst.length_lt hcatchAll.1 hrun
      omega
    · have := ih hcatchAll.2.1 hsecond hrun
      omega

/-- What is no piece was taken by a catch-all, up to the end of the text. -/
theorem TakeAll.isPiece_or_suffix {parts : List (Position × Part)}
    (hcatchAll : (parts.map Prod.snd).Pairwise fun part _ => part.isCatchAll = false)
    {shares : List Share} {text run : List Char} (h : TakeAll parts shares text)
    (hrun : some run ∈ shares) : IsPiece run ∨ run <:+ text := by
  induction h with
  | nil => cases hrun
  | @cons position part rest shares others text texts hpart hparts ih =>
    rw [List.map_cons, List.pairwise_cons] at hcatchAll
    rcases List.mem_append.mp hrun with hrun | hrun
    · cases hpart with
      | literal _ => cases hrun
      | noPiece _ => cases List.mem_singleton.mp hrun
      | noRest _ => cases List.mem_singleton.mp hrun
      | @run p run' hadmits =>
        cases List.mem_singleton.mp hrun
        by_cases hscalar : p.isCatchAll = false
        · exact .inl ((admits_iff_isPiece hscalar).mp hadmits)
        · have hnil : rest.map Prod.snd = [] :=
            eq_nil_of_isCatchAll hcatchAll.1 (by
              simpa [Part.isCatchAll, Part.parameter?] using hscalar)
          cases List.map_eq_nil_iff.mp hnil
          cases hparts
          rw [List.append_nil]
          exact .inr (List.suffix_append _ _)
    · exact (ih hcatchAll.2 hrun).imp_right fun hsuffix =>
        hsuffix.trans (List.suffix_append _ _)

/-- **What a parameter takes of a canonical path has a piece, unless it is empty.** A text
    of slashes only would be at the end of the path, so the path would be `/`; but there
    the only slash stands before the segment. -/
theorem Decomposes.solidPieces_ne_nil {segments : List Segment}
    (hcatchAll : (segments.flatMap Segment.parts).Pairwise fun part _ => part.isCatchAll = false)
    {path : String} {shares : List Share} (h : Decomposes segments (Path.canonical path) shares)
    {run : List Char} (hrun : some run ∈ shares) (hne : run ≠ []) :
    solidPieces '/' run ≠ [] := by
  intro hnil
  have hslash : ∀ c ∈ run, c = '/' := by
    intro c hc
    by_contra hother
    exact absurd hnil (Text.solidPieces_ne_nil_iff.mpr ⟨c, hc, hother⟩)
  obtain ⟨text, hall, hpath⟩ := h
  have hlast : run.getLast? = some '/' := by
    rw [List.getLast?_eq_some_getLast hne, hslash _ (List.getLast_mem hne)]
  have hshort := TakeAll.length_lt_placed hcatchAll hall hrun
  rw [← map_snd_placed] at hcatchAll
  rcases TakeAll.isPiece_or_suffix hcatchAll hall hrun with hpiece | ⟨front, rfl⟩
  · exact hpiece.2 (List.mem_of_getLast? hlast)
  -- the run is at the end, with or without the slash behind it
  have hend : (Path.canonical path).getLast? = some '/' := by
    rcases hpath with heq | heq
    · rw [heq, List.getLast?_append, hlast]
      rfl
    · rw [heq, List.getLast?_append]
      rfl
  have hpos := List.length_pos_iff.mpr hne
  rw [Path.canonical, Path.ofPieces_eq] at hend hpath
  split at hend
  · next hroot => -- the path is a slash, too short for a segment and a run
    rw [if_pos hroot] at hpath
    have hlength : (front ++ run).length ≤ 1 := by
      rcases hpath with heq | heq
      · rw [← heq]
        rfl
      · have := congrArg List.length heq
        simp only [List.length_append, List.length_singleton] at this ⊢
        omega
    omega
  · exact Path.getLast?_slashed (fun _ => Text.isPiece_of_mem_solidPieces) hend

end Routing.Expression

namespace Routing

open Expression (Decomposes Share)
open Text (IsPiece joined solidPieces)

/-! ### What a match tells about any parameter -/

/-- The value of the parameter has texts that are not empty, and a required parameter has
    a value. -/
structure Parameter.FeedsBack (p : Parameter) (entry : String × ParamValue) : Prop where
  name : entry.1 = p.name
  texts : ∀ value, entry.2.value? = some value → ∀ text ∈ p.texts value, text ≠ ""
  required : p.isRequired → ∃ value, entry.2.value? = some value ∧ value.isEmpty = false

/-- A required parameter takes a text that is not empty. -/
theorem Parameter.not_isRequired_of_filter {p : Parameter} {share : Share} (hmay : p.MayTake share)
    (h : (share.map String.ofList).filter (fun text => !text.isEmpty) = none) :
    ¬ p.isRequired := by
  intro hrequired
  cases share with
  | none =>
    rcases hmay with hquantifier | hquantifier <;>
      simp [isRequired, hquantifier, Quantifier.isRequired] at hrequired
  | some run =>
    have hne : run ≠ [] := by
      have hadmits : Expression.Admits p.quantifier run := hmay
      cases hquantifier : p.quantifier <;> rw [hquantifier] at hadmits
      case optional | zeroOrMore =>
        simp [isRequired, hquantifier, Quantifier.isRequired] at hrequired
      case required | oneOrMore => exact hadmits.1
    rw [Option.filter_eq_none_iff] at h
    have hempty := h _ rfl
    simp [String.ext_iff, hne] at hempty

inductive Parameter.OutcomeFrom (p : Parameter) (share : Share) : ParamValue → Prop
  | present {run : List Char} {value : Value} (hshare : share = some run) (hne : run ≠ [])
      (h : p.readValue? Text.Percent.decode (String.ofList run) = some value) :
    OutcomeFrom p share (.present value)
  | filled {text : String} {value : Value} (hrequired : ¬ p.isRequired)
      (hdefault : p.default? = some text) (h : p.readValue? id text = some value) :
    OutcomeFrom p share (.filled value)
  | missing (hrequired : ¬ p.isRequired) (hdefault : p.default? = none) :
    OutcomeFrom p share .missing

theorem Parameter.outcomeFrom_of_outcome? {p : Parameter} {share : Share} (hmay : p.MayTake share)
    {outcome : ParamValue} (h : p.outcome? (share.map String.ofList) = some outcome) :
    p.OutcomeFrom share outcome := by
  unfold outcome? at h
  split at h
  · next text hfilter =>
    obtain ⟨value, hvalue, rfl⟩ := Option.map_eq_some_iff.mp h
    obtain ⟨hcaptured, hempty⟩ := Option.filter_eq_some_iff.mp hfilter
    obtain ⟨run, hshare, rfl⟩ := Option.map_eq_some_iff.mp hcaptured
    exact .present hshare (by simpa [String.isEmpty_iff, String.ext_iff] using hempty) hvalue
  · next hfilter =>
    have hrequired := not_isRequired_of_filter hmay hfilter
    split at h
    · next text hdefault =>
      obtain ⟨value, hvalue, rfl⟩ := Option.map_eq_some_iff.mp h
      exact .filled hrequired hdefault hvalue
    · next hdefault =>
      cases h
      exact .missing hrequired hdefault

section

variable {set : ConstraintSet} {p : Parameter} (hdeclared : p.Declared set)
  (hstandard : p.Standard set)
include hdeclared hstandard

/-- A chain makes no text empty, and no value of some texts. -/
theorem Parameter.shows_of_valueOf? {texts : List String} (htexts : ∀ text ∈ texts, text ≠ "")
    {value : Value} (h : p.valueOf? texts = some value) :
    (∀ text ∈ p.texts value, text ≠ "") ∧ (texts ≠ [] → value.isEmpty = false) := by
  have hshown {text : String} {v : Value} (htext : text ∈ texts)
      (hconstrain : p.constrain (.text text) = some v) : v.Shown :=
    hdeclared.shown hstandard (htexts text htext) hconstrain
  unfold valueOf? at h
  unfold Parameter.texts
  split at h
  · next hcatchAll =>
    obtain ⟨items, hitems, rfl⟩ := Option.map_eq_some_iff.mp h
    rw [if_pos hcatchAll]
    constructor
    · intro text htext
      obtain ⟨item, hitem, rfl⟩ := List.mem_map.mp htext
      obtain ⟨piece, hpiece, hconstrain⟩ := exists_mem_of_mapM_eq_some hitems item hitem
      exact (hshown hpiece hconstrain).toText
    · intro hne
      obtain ⟨text, htext⟩ := List.exists_mem_of_ne_nil _ hne
      obtain ⟨item, hitem, -⟩ := exists_of_mapM_eq_some hitems text htext
      simpa [Value.isEmpty] using List.ne_nil_of_mem hitem
  · next hcatchAll =>
    obtain ⟨text, hhead, hconstrain⟩ := Option.bind_eq_some_iff.mp h
    have hvalue := hshown (List.mem_of_head? hhead) hconstrain
    rw [if_neg hcatchAll]
    refine ⟨fun shown hmem => ?_, fun _ => hvalue.isEmpty⟩
    rw [List.mem_singleton.mp hmem]
    exact hvalue.toText

theorem Parameter.feedsBack {share : Share} (hmay : p.MayTake share)
    (hsolid : ∀ run, share = some run → run ≠ [] → solidPieces '/' run ≠ [])
    {outcome : ParamValue} (h : p.outcome? (share.map String.ofList) = some outcome) :
    p.FeedsBack (p.name, outcome) := by
  -- the texts that are read from one text: its pieces for a catch-all
  have hpieces {text : String} (htext : text ≠ "" ∨ p.isCatchAll) :
      ∀ piece ∈ (if p.isCatchAll then Text.splitSolid '/' text else [text]), piece ≠ "" := by
    intro piece hpiece
    split at hpiece
    · obtain ⟨cs, hcs, rfl⟩ := List.mem_map.mp hpiece
      simpa [String.ext_iff] using (Text.isPiece_of_mem_solidPieces hcs).1
    · next hscalar =>
      rw [List.mem_singleton.mp hpiece]
      exact htext.resolve_right hscalar
  cases outcomeFrom_of_outcome? hmay h with
  | @present run value hshare hne hvalue =>
    rw [readValue?_eq_valueOf?] at hvalue
    obtain ⟨htexts, hsome⟩ := shows_of_valueOf? hdeclared hstandard (by
      intro piece hpiece
      obtain ⟨read, hread, rfl⟩ := List.mem_map.mp hpiece
      rw [Ne, Text.Percent.decode_eq_empty]
      exact hpieces (.inl (by simpa [String.ext_iff] using hne)) read hread) hvalue
    -- a share that is not empty has a piece, so the value counts as given
    have hpiece : (if p.isCatchAll then Text.splitSolid '/' (String.ofList run)
        else [String.ofList run]) ≠ [] := by
      split
      · rw [Text.splitSolid, String.toList_ofList, Ne, List.map_eq_nil_iff]
        exact hsolid run hshare hne
      · simp
    refine ⟨rfl, ?_, fun _ => ⟨value, rfl, hsome (by simpa using hpiece)⟩⟩
    rintro _ ⟨⟩
    exact htexts
  | @filled text value hrequired hdefault hvalue =>
    have htext : text ≠ "" ∨ p.isCatchAll := by
      by_cases hquantifier : p.quantifier = .zeroOrMore
      · exact .inr (by simp [isCatchAll, hquantifier, Quantifier.isCatchAll])
      · exact .inl (hdeclared.default_ne hdefault hquantifier)
    rw [readValue?_eq_valueOf?, List.map_id] at hvalue
    refine ⟨rfl, ?_, fun h => absurd h hrequired⟩
    rintro _ ⟨⟩
    exact (shows_of_valueOf? hdeclared hstandard (hpieces htext) hvalue).1
  | missing hrequired hdefault =>
    refine ⟨rfl, ?_, fun h => absurd h hrequired⟩
    rintro _ ⟨⟩

end

/-! ### Values that are fed back -/

section

variable {p : Parameter} {entry : String × ParamValue} {given : RouteValues}
  (h : p.FeedsBack entry) (hget : given.get? entry.1 = entry.2.value?)
include h hget

theorem Parameter.FeedsBack.texts_used {value : Value} (hused : p.used? given = some value) :
    ∀ text ∈ p.texts value, text ≠ "" := by
  unfold used? at hused
  rw [← h.name, hget] at hused
  cases hfilter : entry.2.value?.filter fun v => !v.isEmpty with
  | some supplied =>
    rw [hfilter] at hused
    cases hused
    exact h.texts value (Option.filter_eq_some_iff.mp hfilter).1
  | none =>
    rw [hfilter] at hused
    exact p.texts_of_defaultValue? hused

theorem Parameter.FeedsBack.exists_used? (hrequired : p.isRequired) :
    ∃ value, p.used? given = some value := by
  obtain ⟨value, hvalue, hempty⟩ := h.required hrequired
  refine ⟨value, ?_⟩
  unfold used?
  rw [← h.name, hget, hvalue]
  simp [hempty]

end

/-! ### Texts with single slashes -/

def Path.IsSpaced (cs : List Char) : Prop :=
  joined ['/'] (solidPieces '/' cs) = cs

theorem Path.isSpaced_joined {texts : List (List Char)} (hpieces : ∀ piece ∈ texts, IsPiece piece) :
    IsSpaced (joined ['/'] texts) := by
  rw [IsSpaced, solidPieces_joined_pieces hpieces]

theorem Path.isSpaced_of_not_mem {cs : List Char} (hslash : '/' ∉ cs) : IsSpaced cs := by
  by_cases hnil : cs = []
  · subst hnil
    rfl
  · rw [IsSpaced, Text.solidPieces_of_not_mem hnil hslash]
    rfl

theorem Path.IsSpaced.append {front cs : List Char} (hfront : '/' ∉ front) (h : IsSpaced cs) :
    IsSpaced (front ++ cs) := by
  unfold IsSpaced at h
  cases hsolid : solidPieces '/' cs with
  | nil =>
    rw [hsolid] at h
    subst h
    rw [joined, List.append_nil]
    exact isSpaced_of_not_mem hfront
  | cons first rest =>
    have hwhole : front ++ cs = joined ['/'] ((front ++ first) :: rest) := by
      rw [← h, hsolid]
      cases rest <;> simp [joined]
    have hpieces : ∀ piece ∈ first :: rest, IsPiece piece := by
      rw [← hsolid]
      exact fun _ => Text.isPiece_of_mem_solidPieces
    rw [hwhole]
    apply isSpaced_joined
    intro piece hpiece
    rcases List.mem_cons.mp hpiece with rfl | hpiece
    · obtain ⟨hne, hslash⟩ := hpieces first List.mem_cons_self
      exact ⟨by simp [hne], by simp [hfront, hslash]⟩
    · exact hpieces piece (List.mem_cons_of_mem _ hpiece)

structure Part.Spaced (given : RouteValues) (part : Part) : Prop where
  literal : ∀ text, part = .literal text → Template.IsLiteral text
  texts : ∀ p value, part = .parameter p → p.used? given = some value →
    ∀ text ∈ p.texts value, text ≠ ""

theorem Part.toList_of_text? {given : RouteValues} {part : Part} {text : String}
    (htext : part.text? given = some text) :
    text.toList = joined ['/'] (part.pieces given) := by
  cases part with
  | literal written =>
    cases htext
    rfl
  | parameter p =>
    unfold Part.text? at htext
    unfold Part.pieces
    cases hused : p.used? given with
    | some value =>
      simp only [hused] at htext ⊢
      cases htext
      rw [Parameter.pathText_eq, String.toList_ofList]
    | none =>
      simp only [hused] at htext ⊢
      split at htext
      · cases htext
      · cases htext
        rfl

section

variable {given : RouteValues} {part : Part} (h : part.Spaced given)
include h

theorem Part.Spaced.isPiece : ∀ piece ∈ part.pieces given, IsPiece piece := by
  cases part with
  | literal written =>
    intro piece hpiece
    rw [List.mem_singleton.mp hpiece]
    exact h.literal written rfl
  | parameter p =>
    unfold Part.pieces
    simp only
    split
    · next value hused =>
      intro piece hpiece
      obtain ⟨written, hwritten, rfl⟩ := List.mem_map.mp hpiece
      exact isPiece_encode (h.texts p value rfl hused written hwritten)
    · exact fun _ hnil => absurd hnil List.not_mem_nil

theorem Part.Spaced.isSpaced {text : String} (htext : part.text? given = some text) :
    Path.IsSpaced text.toList := by
  rw [Part.toList_of_text? htext]
  exact Path.isSpaced_joined h.isPiece

/-- Only catch-alls write slashes. -/
theorem Part.Spaced.slash (hscalar : part.isCatchAll = false) {text : String}
    (htext : part.text? given = some text) : '/' ∉ text.toList := by
  have hone : (part.pieces given).length ≤ 1 := by
    cases part with
    | literal written => exact Nat.le_refl 1
    | parameter p =>
      have hp : p.isCatchAll = false := hscalar
      unfold Part.pieces
      simp only
      split
      · simp [Parameter.writtenPieces, Parameter.texts, hp]
      · exact Nat.zero_le 1
  rw [Part.toList_of_text? htext]
  rcases hpieces : part.pieces given with _ | ⟨piece, _ | ⟨next, others⟩⟩
  · simp [joined]
  · have hpiece := h.isPiece piece (hpieces ▸ List.mem_cons_self)
    exact hpiece.2
  · simp [hpieces] at hone

end

theorem isSpaced_text? {given : RouteValues} {parts : List Part}
    (hcatchAll : parts.Pairwise fun part _ => part.isCatchAll = false)
    (hparts : ∀ part ∈ parts, part.Spaced given) {text : String}
    (h : Segment.text? given ⟨parts⟩ = some text) : Path.IsSpaced text.toList := by
  induction parts generalizing text with
  | nil =>
    cases h
    rfl
  | cons part rest ih =>
    rw [List.pairwise_cons] at hcatchAll
    rw [Segment.text?_cons] at h
    obtain ⟨first, hfirst, h⟩ := Option.bind_eq_some_iff.mp h
    obtain ⟨others, hothers, rfl⟩ := Option.map_eq_some_iff.mp h
    have hpart := hparts part List.mem_cons_self
    rw [String.toList_append]
    by_cases hscalar : part.isCatchAll = false
    · have hrest := ih hcatchAll.2
        (fun other hother => hparts other (List.mem_cons_of_mem _ hother)) hothers
      exact hrest.append (hpart.slash hscalar hfirst)
    · have hnil : rest = [] := eq_nil_of_isCatchAll hcatchAll.1 (by simpa using hscalar)
      subst hnil
      cases hothers
      have hwhole := hpart.isSpaced hfirst
      simpa using hwhole

theorem isCanonical_pathOf {texts : List String} (h : ∀ text ∈ texts, Path.IsSpaced text.toList) :
    Path.isCanonical (pathOf texts) := by
  -- the texts that are left are joined from their pieces
  have hgroups : ((texts.filter fun text => !text.isEmpty).map fun text =>
      solidPieces '/' text.toList).map (joined ['/']) =
      (texts.filter fun text => !text.isEmpty).map String.toList := by
    rw [List.map_map]
    apply List.map_congr_left
    intro text htext
    exact h text (List.mem_filter.mp htext).1
  have hne : ∀ group ∈ (texts.filter fun text => !text.isEmpty).map fun text =>
      solidPieces '/' text.toList, group ≠ [] := by
    intro group hgroup hnil
    obtain ⟨text, htext, rfl⟩ := List.mem_map.mp hgroup
    obtain ⟨hmem, hempty⟩ := List.mem_filter.mp htext
    have hspaced := h text hmem
    rw [Path.IsSpaced, hnil] at hspaced
    rw [← String.ofList_toList (s := text), ← hspaced] at hempty
    simp [joined] at hempty
  unfold pathOf
  rw [← hgroups, Path.ofPieces_joined hne]
  apply Path.isCanonical_ofPieces
  intro piece hpiece
  obtain ⟨group, hgroup, hmem⟩ := List.mem_flatten.mp hpiece
  obtain ⟨text, -, rfl⟩ := List.mem_map.mp hgroup
  exact Text.isPiece_of_mem_solidPieces hmem

/-! ### The path built from a match -/

namespace RoutePattern

/-- **Every match feeds back**: what it read can be used to build a path. -/
theorem feedsBack_of_match? {set : ConstraintSet} {p : RoutePattern}
    (haccepted : Accepted set [] p.parts) (hstandard : ∀ q ∈ p.parameters, q.Standard set)
    {path : String} {params : Params} (hmatch : p.match? path = some params) :
    List.Forall₂ Parameter.FeedsBack p.parameters params.entries := by
  obtain ⟨shares, hpreferred, hread⟩ := (p.match?_eq_some_iff (isRooted_of_match? hmatch)).mp hmatch
  have hdecomposes := hpreferred.decomposes
  refine forall₂_of_readShares? (fun q hq share hshare outcome hmay houtcome => ?_)
    (mayTake_decomposes hdecomposes) hread
  refine Parameter.feedsBack (haccepted.declared q (mem_parameters.mp hq)) (hstandard q hq) hmay ?_
    houtcome
  rintro run rfl hne
  exact hdecomposes.solidPieces_ne_nil haccepted.catchAll hshare hne

/-- What is written for the segments when a path is built from a match. -/
structure WrittenBack (p : RoutePattern) (params : Params) (texts : List String) : Prop where
  texts? : p.segments.mapM (Segment.text? (.ofParams params)) = some texts
  spaced : ∀ part ∈ p.parts, part.Spaced (.ofParams params)
  resolve? : p.resolve? (.ofParams params) = some (pathOf texts)
  question : '?' ∉ (pathOf texts).toList
  canonical : Path.isCanonical (pathOf texts)
  decomposes : ∃ shares, Decomposes p.segments (pathOf texts).toList shares

theorem exists_writtenBack {set : ConstraintSet} {template : String} {p : RoutePattern}
    (hcompile : compile set template = .ok p) (hstandard : ∀ q ∈ p.parameters, q.Standard set)
    {path : String} {params : Params} (hmatch : p.match? path = some params) :
    ∃ texts, p.WrittenBack params texts := by
  have haccepted := accepted_compile hcompile
  have hfeeds := feedsBack_of_match? haccepted hstandard hmatch
  obtain ⟨hget, hleft⟩ := ofParams_of_names haccepted
    (names_of_forall₂ (fun _ _ hfeed => hfeed.name) hfeeds)
  -- no value is written with an empty text, and so no slash is doubled
  have hspaced : ∀ part ∈ p.parts, part.Spaced (.ofParams params) := by
    intro part hpart
    refine ⟨fun text htext => (haccepted.literal text (htext ▸ hpart)).1, ?_⟩
    intro q value hq hused
    obtain ⟨entry, hentry, hfeed⟩ :=
      exists_right_of_forall₂ hfeeds q (mem_parameters.mpr (hq ▸ hpart))
    exact hfeed.texts_used (hget entry hentry) hused
  -- a required parameter was given a text by the match
  have hbuildable : ∀ part ∈ p.parts, part.Buildable (.ofParams params) := by
    intro part hpart
    refine ⟨fun text htext => haccepted.literal text (htext ▸ hpart), ?_⟩
    intro q hq hrequired
    obtain ⟨entry, hentry, hfeed⟩ :=
      exists_right_of_forall₂ hfeeds q (mem_parameters.mpr (hq ▸ hpart))
    obtain ⟨value, hused⟩ := hfeed.exists_used? (hget entry hentry) hrequired
    obtain ⟨text, htext⟩ := List.exists_mem_of_ne_nil _ (q.texts_ne_nil (q.isEmpty_of_used? hused))
    exact ⟨value, hused, text, htext, (hspaced part hpart).texts q value hq hused text htext⟩
  obtain ⟨texts, shares, htexts, hplain, hdecomposes⟩ :=
    exists_built haccepted (anchored_compile hcompile) hbuildable
  have hcanonical : Path.isCanonical (pathOf texts) := by
    apply isCanonical_pathOf
    intro text htext
    obtain ⟨s, hs, hsegment⟩ := exists_mem_of_mapM_eq_some htexts text htext
    refine isSpaced_text? ?_ (fun part hpart => hspaced part ?_) hsegment
    · exact (List.pairwise_flatMap.mp haccepted.catchAll).1 s hs
    · exact List.mem_flatMap.mpr ⟨s, hs, hpart⟩
  rw [Path.canonical_of_isCanonical hcanonical] at hdecomposes
  refine ⟨texts, htexts, hspaced, ?_, question_not_mem_pathOf hplain, hcanonical, shares,
    hdecomposes⟩
  rw [resolve?_of_texts haccepted htexts, hleft, queryText_empty, String.append_empty]

/-- **Every match can be turned back into a path**, which is canonical, has no query and is
    matched by the pattern's expression again. -/
theorem exists_resolve?_of_match? {set : ConstraintSet} {template : String} {p : RoutePattern}
    (hcompile : compile set template = .ok p) (hstandard : ∀ q ∈ p.parameters, q.Standard set)
    {path : String} {params : Params} (hmatch : p.match? path = some params) :
    ∃ built, p.resolve? (.ofParams params) = some built ∧ '?' ∉ built.toList ∧
      Path.isCanonical built ∧ (p.regex.captures built).isSome := by
  obtain ⟨texts, hback⟩ := exists_writtenBack hcompile hstandard hmatch
  obtain ⟨shares, hdecomposes⟩ := hback.decomposes
  obtain ⟨best, hbest⟩ := Expression.exists_preferred hdecomposes
  have hne : (pathOf texts).toList ≠ [] := by
    rw [← Path.canonical_of_isCanonical hback.canonical]
    exact Path.canonical_ne_nil _
  refine ⟨pathOf texts, hback.resolve?, hback.question, hback.canonical, ?_⟩
  rw [Option.isSome_iff_exists]
  exact ⟨_, (Expression.captures_tree_eq_some_iff p.segments hne).mpr ⟨best, hbest, rfl⟩⟩

/-- The items of a catch-all inside a segment are not written where they were read, and the
    default of an optional parameter is written out. -/
theorem exists_resolve?_of_match?_raw :
    let lower : Regex := .seq (.look .textStart) (.seq (.rep (.chars (CharClass.range 'a' 'z'))
      1 none true) (.look .textEnd))
    let set : ConstraintSet := ⟨[("lower", fun _ => .ok (Builtin.matching lower))]⟩
    let kind : Parameter :=
      ⟨"kind", .required, [(Builtin.matching lower).labelled "lower" ""], none⟩
    let page : Parameter := ⟨"page", .optional, [Builtin.int.labelled "int" ""], some "7"⟩
    let path : Parameter := ⟨"path", .oneOrMore, [], none⟩
    let p : RoutePattern := ⟨"/\x7bkind:lower\x7d-\x7bpage?:int:=(7)\x7d/raw\x7bpath+\x7d",
      [⟨[.parameter kind, .literal "-", .parameter page]⟩, ⟨[.literal "raw", .parameter path]⟩]⟩
    let params : Params := ⟨[("kind", .present (.text "docs")), ("page", .filled (.int 7)),
      ("path", .present (.list [.text "x", .text "y/"]))]⟩
    ConstraintSet.empty.registerRegex "lower" "^[a-z]+$" = .ok set ∧
      compile set p.template = .ok p ∧ (∀ q ∈ p.parameters, q.Standard set) ∧
      p.match? "//docs-/raw//x/y%2F" = some params ∧
      ∃ built, p.resolve? (.ofParams params) = some built ∧ '?' ∉ built.toList ∧
        Path.isCanonical built ∧ (p.regex.captures built).isSome := by
  intro lower set kind page path p params
  have hset : ConstraintSet.empty.registerRegex "lower" "^[a-z]+$" = .ok set := rfl
  have houtline : Template.outline p.template = .ok
      [⟨[.parameter ⟨"kind", .required, [⟨"lower", ""⟩], none⟩, .literal "-",
        .parameter ⟨"page", .optional, [⟨"int", ""⟩], some "7"⟩]⟩,
      ⟨[.literal "raw", .parameter ⟨"path", .oneOrMore, [], none⟩]⟩] := by
    decide +kernel
  have hcompile : compile set p.template = .ok p := compile_of_outline houtline rfl
  have hstandard : ∀ q ∈ p.parameters, q.Standard set := by
    intro q _ c _
    exact (ConstraintSet.standard_empty c.name).registerRegex hset
  have hnormal : Path.normalize "//docs-/raw//x/y%2F" = some "/docs-/raw/x/y%2F" := by
    decide +kernel
  have hgroups : p.regex.captures "/docs-/raw/x/y%2F" =
      some [(1, "docs".toList), (3, "/x/y%2F".toList)] := by
    decide +kernel
  have hkind : kind.outcome? (some "docs") = some (.present (.text "docs")) := by
    have hlower : lower.isMatch "docs" = true := by decide +kernel
    have happly : ((Builtin.matching lower).labelled "lower" "").apply (.text "docs") =
        some (.text "docs") := by
      unfold Constraint.apply
      exact if_pos hlower
    exact congrArg (fun value? => (value?.bind some).map ParamValue.present) happly
  have hread : readParams? [(1, "docs".toList), (3, "/x/y%2F".toList)] 1 p.parameters =
      some params.entries := by
    change (kind.outcome? (some "docs")).bind _ = _
    rw [hkind]
    rfl
  have hmatch : p.match? "//docs-/raw//x/y%2F" = some params := by
    unfold match?
    simp only [hnormal, hgroups, hread, Option.bind_eq_bind, Option.bind_some, Option.pure_def]
  exact ⟨hset, hcompile, hstandard, hmatch, exists_resolve?_of_match? hcompile hstandard hmatch⟩

end RoutePattern

end Routing
