/-
  Routing/Proofs/BuiltDecomposition.lean
  ======================================
  **A built path has a decomposition along its own pattern.**  A value counts as none
  when it is an empty text or an empty list, but a list with an empty text in it has
  no more to show in a path. Optional parameters can do without, so what matters is
  that every required parameter has a text that is not empty: `exists_built`.

  A path is then cut segment by segment. Only the last part of the last segment can
  write slashes, and normalizing drops those around empty items; what is left after
  the text in front of it is what the catch-all takes.
-/
import Routing.Proofs.BuiltPath
import Routing.Proofs.Matching
import Routing.Proofs.WrittenShares

namespace Routing

open Expression (Admits Decomposes Position Share TakeAll Takes parametersOf placed placedParts)
open Routing.Path (slashed)
open Text (IsPiece joined solidPieces)

/-! ### Texts of values -/

theorem Parameter.isEmpty_of_used? {p : Parameter} {given : RouteValues} {value : Value}
    (h : p.used? given = some value) : value.isEmpty = false := by
  unfold used? at h
  cases hfilter : (given.get? p.name).filter fun v => !v.isEmpty with
  | some supplied =>
    rw [hfilter] at h
    cases h
    simpa using (Option.filter_eq_some_iff.mp hfilter).2
  | none =>
    rw [hfilter] at h
    obtain ⟨-, -, hempty, -⟩ := p.eq_of_defaultValue? h
    exact hempty

/-- The text of a value in a path has letters, digits, marks and escapes, and slashes between
    the items of a list. -/
theorem Parameter.not_mem_pathText (p : Parameter) (value : Value) {c : Char} (hslash : c ≠ '/')
    (halphanum : c.isAlphanum = false) (hmark : c ∉ ['-', '_', '.', '~', '%']) :
    c ∉ (p.pathText value).toList := by
  rw [pathText_eq, String.toList_ofList]
  intro hc
  have hpath : c ∈ Path.ofPieces (p.writtenPieces value) := List.mem_cons_of_mem _ hc
  obtain ⟨piece, hpiece, hc⟩ := (Path.mem_ofPieces hslash).mp hpath
  obtain ⟨text, -, rfl⟩ := List.mem_map.mp hpiece
  exact Text.Percent.not_mem_encode text halphanum hmark hc

/-- A text of the value that is not empty shows in the path. -/
theorem Parameter.solidPieces_pathText {p : Parameter} {value : Value}
    (h : ∃ text ∈ p.texts value, text ≠ "") :
    solidPieces '/' (p.pathText value).toList ≠ [] := by
  obtain ⟨text, htext, hne⟩ := h
  obtain ⟨hpiece, hslash⟩ := isPiece_encode hne
  obtain ⟨c, hc⟩ := List.exists_mem_of_ne_nil _ hpiece
  have hwritten : (Text.Percent.encode text).toList ∈ p.writtenPieces value :=
    List.mem_map_of_mem htext
  rw [pathText_eq, String.toList_ofList, Text.solidPieces_ne_nil_iff]
  exact ⟨c, Text.mem_joined ['/'] hwritten hc, fun heq => hslash (heq ▸ hc)⟩

/-! ### One part -/

/-- A path with the part can be built: a required parameter has a text that shows. -/
structure Part.Buildable (given : RouteValues) (part : Part) : Prop where
  literal : ∀ text, part = .literal text → Template.IsLiteral text ∧ '?' ∉ text.toList
  shows : ∀ p, part = .parameter p → p.isRequired →
    ∃ value, p.used? given = some value ∧ ∃ text ∈ p.texts value, text ≠ ""

/-- What a path has for a part with the given text, the slash before it included. -/
def Expression.Position.spelled (position : Position) (text : String) : List Char :=
  match position with
  | .alone => Routing.spelled text
  | .leading => '/' :: text.toList
  | .inner => text.toList

structure Part.Renders (given : RouteValues) (part : Part) (text : String) : Prop where
  text? : part.text? given = some text
  slash : '/' ∉ text.toList
  question : '?' ∉ text.toList
  takes : ∃ shares, ∀ position, Takes position part shares (position.spelled text)
  ne_empty : part.isOptional = false → text ≠ ""

theorem WrittenAs.renders {given : RouteValues} {part : Part} {text : String}
    (h : WrittenAs given part text) : part.Renders given text := by
  refine ⟨h.text?, h.slash, h.question, ⟨part.shares given, fun position => ?_⟩, h.ne_empty⟩
  cases position with
  | alone =>
    change Takes .alone part _ (spelled text)
    unfold spelled
    split
    · next hempty => exact h.takes_gap hempty
    · next hempty => exact h.takes .alone fun _ => hempty
  | leading => exact h.takes .leading (by simp)
  | inner => exact h.takes .inner (by simp)

/-- An optional parameter without a text takes nothing. -/
theorem Part.renders_gap {given : RouteValues} {p : Parameter}
    (hquantifier : p.quantifier = .optional)
    (htext : Part.text? given (.parameter p) = some "") :
    Part.Renders given (.parameter p) "" := by
  have hoptional : Part.isOptional (.parameter p) = true := by
    change p.quantifier.isOptional = true
    rw [hquantifier]
    rfl
  refine ⟨htext, by simp, by simp, ⟨[none], fun position => ?_⟩, fun hnot => ?_⟩
  · cases position <;> exact .noPiece hquantifier
  · rw [hoptional] at hnot
    cases hnot

/-- Outside of a catch-all, a part shows one piece or nothing. -/
theorem Part.Buildable.exists_renders {given : RouteValues} {part : Part}
    (h : part.Buildable given) (hscalar : part.isCatchAll = false) :
    ∃ text, part.Renders given text := by
  cases part with
  | literal text =>
    obtain ⟨hliteral, hquestion⟩ := h.literal text rfl
    exact ⟨text, (writtenAs_literal hliteral hquestion).renders⟩
  | parameter p =>
    have hp : p.isCatchAll = false := hscalar
    have htexts (value : Value) : p.texts value = [value.toText] := by
      unfold Parameter.texts
      rw [hp]
      rfl
    have hoptional (hrequired : ¬ p.isRequired) : p.quantifier = .optional := by
      cases hq : p.quantifier <;>
        simp [Parameter.isRequired, Parameter.isCatchAll, Quantifier.isRequired,
          Quantifier.isCatchAll, hq] at hrequired hp ⊢
    cases hused : p.used? given with
    | some value => -- an empty text is written as nothing, which only an optional one may do
      by_cases htext : value.toText = ""
      · have hrequired : ¬ p.isRequired := by
          intro hrequired
          obtain ⟨other, hother, text, hmem, hne⟩ := h.shows p rfl hrequired
          rw [hused] at hother
          cases hother
          rw [htexts, List.mem_singleton] at hmem
          exact hne (hmem.trans htext)
        refine ⟨"", Part.renders_gap (hoptional hrequired) ?_⟩
        unfold Part.text?
        simp only [hused, Parameter.pathText, hp, htext]
        rfl
      · have hshown : value.Shown := ⟨p.isEmpty_of_used? hused, htext⟩
        exact ⟨_, (writtenAs_value hp hused hshown).renders⟩
    | none => -- without a value nothing is written, and a required parameter shows a text
      have hrequired : ¬ p.isRequired := by
        intro hrequired
        obtain ⟨value, hvalue, -⟩ := h.shows p rfl hrequired
        rw [hused] at hvalue
        cases hvalue
      exact ⟨"", (writtenAs_gap (hoptional hrequired) hused).renders⟩

structure Part.Spreads (given : RouteValues) (p : Parameter) (text : String) : Prop where
  text? : Part.text? given (.parameter p) = some text
  question : '?' ∉ text.toList
  newline : '\n' ∉ text.toList
  piece : p.isRequired → solidPieces '/' text.toList ≠ []

theorem Part.Buildable.exists_spreads {given : RouteValues} {p : Parameter}
    (h : Part.Buildable given (.parameter p)) : ∃ text, Part.Spreads given p text := by
  cases hused : p.used? given with
  | some value =>
    refine ⟨p.pathText value, ?_, ?_, ?_, fun hrequired => ?_⟩
    · unfold Part.text?
      simp only [hused]
    · exact p.not_mem_pathText value (by decide) (by decide) (by decide)
    · exact p.not_mem_pathText value (by decide) (by decide) (by decide)
    · obtain ⟨other, hother, hshows⟩ := h.shows p rfl hrequired
      rw [hused] at hother
      cases hother
      exact Parameter.solidPieces_pathText hshows
  | none =>
    have hrequired : ¬ p.isRequired := by
      intro hrequired
      obtain ⟨value, hvalue, -⟩ := h.shows p rfl hrequired
      rw [hused] at hvalue
      cases hvalue
    refine ⟨"", ?_, by simp, by simp, fun hnot => absurd hnot hrequired⟩
    unfold Part.text?
    simp only [hused, if_neg hrequired]

/-- A catch-all can take the rest of a path that has a text for it. -/
theorem Part.Spreads.admits {given : RouteValues} {p : Parameter} {text : String}
    (h : Part.Spreads given p text) (hcatchAll : p.isCatchAll) {rest : List Char}
    (hchars : ∀ c ∈ rest, c = '/' ∨ c ∈ text.toList)
    (hrest : solidPieces '/' text.toList ≠ [] → rest ≠ []) : Admits p.quantifier rest := by
  have hnewline : '\n' ∉ rest := by
    intro hmem
    rcases hchars _ hmem with heq | hmem
    · cases heq
    · exact h.newline hmem
  cases hq : p.quantifier with
  | required | optional => simp [Parameter.isCatchAll, hq, Quantifier.isCatchAll] at hcatchAll
  | zeroOrMore => exact hnewline
  | oneOrMore =>
    have hrequired : p.isRequired := by
      simp [Parameter.isRequired, hq, Quantifier.isRequired]
    exact ⟨hrest (h.piece hrequired), hnewline⟩

/-! ### One segment -/

/-- The text of parts inside a segment, and what a path has for them after a text without
    slashes. -/
structure Continues (given : RouteValues) (parts : List Part) (text : String) : Prop where
  text? : Segment.text? given ⟨parts⟩ = some text
  question : '?' ∉ text.toList
  piece : (∃ part ∈ parts, part.isOptional = false) → solidPieces '/' text.toList ≠ []
  takes : ∀ front : List Char, '/' ∉ front → solidPieces '/' (front ++ text.toList) ≠ [] →
    ∃ shares rest, slashed (solidPieces '/' (front ++ text.toList)) = '/' :: (front ++ rest) ∧
      TakeAll (parts.map fun part => (.inner, part)) shares rest

theorem continues_nil (given : RouteValues) : Continues given [] "" := by
  refine ⟨rfl, by simp, by simp, fun front hfront hne => ⟨[], [], ?_, .nil⟩⟩
  have hnil : front ++ "".toList = front := by simp
  rw [hnil] at hne ⊢
  have hsolid : solidPieces '/' front = [front] := by
    apply Text.solidPieces_of_not_mem _ hfront
    rintro rfl
    exact hne rfl
  rw [hsolid]
  rfl

theorem Part.Spreads.continues {given : RouteValues} {p : Parameter} {text : String}
    (h : Part.Spreads given p text) (hcatchAll : p.isCatchAll) :
    Continues given [.parameter p] text := by
  refine ⟨?_, h.question, ?_, fun front hfront hne => ?_⟩
  · rw [Segment.text?_singleton, h.text?]
  · rintro ⟨part, hpart, hoptional⟩
    rw [List.mem_singleton.mp hpart] at hoptional
    have hrequired : (!p.isRequired) = false := hoptional
    exact h.piece (by simpa using hrequired)
  · obtain ⟨rest, hrest, hchars, hpiece⟩ := Path.exists_after_front hfront hne
    have htakes : Takes .inner (.parameter p) [some rest] (Position.inner.lead ++ rest) :=
      .run (h.admits hcatchAll hchars hpiece)
    have hall := TakeAll.cons htakes .nil
    rw [List.append_nil, List.append_nil] at hall
    exact ⟨_, rest, hrest, hall⟩

/-- A part for one piece makes the text in front of the parts after it longer. -/
theorem Part.Renders.continues {given : RouteValues} {part : Part} {first : String}
    (h : part.Renders given first) {rest : List Part} {text : String}
    (hrest : Continues given rest text) : Continues given (part :: rest) (first ++ text) := by
  refine ⟨?_, ?_, ?_, ?_⟩
  · rw [Segment.text?_cons, h.text?, hrest.text?]
    rfl
  · rw [String.toList_append, List.mem_append, not_or]
    exact ⟨h.question, hrest.question⟩
  · rintro ⟨other, hother, hoptional⟩
    simp only [String.toList_append, Text.solidPieces_ne_nil_iff, List.mem_append]
    rcases List.mem_cons.mp hother with rfl | hother
    · have hfirst : first.toList ≠ [] := by
        rw [Ne, String.toList_eq_nil_iff]
        exact h.ne_empty hoptional
      obtain ⟨c, hc⟩ := List.exists_mem_of_ne_nil _ hfirst
      exact ⟨c, .inl hc, fun heq => h.slash (heq ▸ hc)⟩
    · obtain ⟨c, hc, hslash⟩ :=
        Text.solidPieces_ne_nil_iff.mp (hrest.piece ⟨other, hother, hoptional⟩)
      exact ⟨c, .inr hc, hslash⟩
  · intro front hfront hne
    rw [String.toList_append, ← List.append_assoc] at hne ⊢
    have hfront' : '/' ∉ front ++ first.toList := by
      rw [List.mem_append, not_or]
      exact ⟨hfront, h.slash⟩
    obtain ⟨others, tail, hslashed, hall⟩ := hrest.takes _ hfront' hne
    obtain ⟨shares, htakes⟩ := h.takes
    refine ⟨shares ++ others, first.toList ++ tail, ?_, .cons (htakes .inner) hall⟩
    rw [hslashed, List.append_assoc]

theorem exists_continues {given : RouteValues} {parts : List Part}
    (hparts : ∀ part ∈ parts, part.Buildable given)
    (hcatchAll : parts.Pairwise fun part _ => part.isCatchAll = false) :
    ∃ text, Continues given parts text := by
  induction parts with
  | nil => exact ⟨"", continues_nil given⟩
  | cons part rest ih =>
    rw [List.pairwise_cons] at hcatchAll
    have hbuildable := hparts part List.mem_cons_self
    by_cases hscalar : part.isCatchAll = false
    · obtain ⟨first, hfirst⟩ := hbuildable.exists_renders hscalar
      obtain ⟨text, htext⟩ :=
        ih (fun other hother => hparts other (List.mem_cons_of_mem _ hother)) hcatchAll.2
      exact ⟨first ++ text, hfirst.continues htext⟩
    · have hnil : rest = [] := eq_nil_of_isCatchAll hcatchAll.1 (by simpa using hscalar)
      subst hnil
      cases part with
      | literal text => exact absurd rfl hscalar
      | parameter p =>
        obtain ⟨text, htext⟩ := hbuildable.exists_spreads
        exact ⟨text, htext.continues (by simpa [Part.isCatchAll, Part.parameter?] using hscalar)⟩

structure Segment.Spans (given : RouteValues) (s : Segment) (text : String) : Prop where
  text? : s.text? given = some text
  question : '?' ∉ text.toList
  takes : ∃ shares, TakeAll (placedParts s) shares (slashed (solidPieces '/' text.toList))

theorem Part.Renders.spans {given : RouteValues} {part : Part} {text : String}
    (h : part.Renders given text) : Segment.Spans given ⟨[part]⟩ text := by
  obtain ⟨shares, htakes⟩ := h.takes
  have hslashed : slashed (solidPieces '/' text.toList) = spelled text := by
    unfold spelled
    split
    · next hempty =>
      rw [hempty]
      rfl
    · next hempty =>
      rw [← String.toList_eq_nil_iff] at hempty
      rw [Text.solidPieces_of_not_mem hempty h.slash]
      simp
  have hall := TakeAll.cons (htakes .alone) .nil
  rw [List.append_nil, List.append_nil] at hall
  refine ⟨?_, h.question, shares, ?_⟩
  · rw [Segment.text?_singleton, h.text?]
  · rw [hslashed]
    exact hall

theorem Part.Spreads.spans {given : RouteValues} {p : Parameter} {text : String}
    (h : Part.Spreads given p text) (hcatchAll : p.isCatchAll) :
    Segment.Spans given ⟨[.parameter p]⟩ text := by
  refine ⟨(h.continues hcatchAll).text?, h.question, ?_⟩
  by_cases hne : solidPieces '/' text.toList = []
  · have hquantifier : p.quantifier = .zeroOrMore := by
      have hrequired : ¬ p.isRequired := fun hrequired => h.piece hrequired hne
      cases hq : p.quantifier <;>
        simp [Parameter.isRequired, Parameter.isCatchAll, Quantifier.isRequired,
          Quantifier.isCatchAll, hq] at hrequired hcatchAll ⊢
    rw [hne]
    exact ⟨_, .cons (.noRest hquantifier) .nil⟩
  · have hwhole : solidPieces '/' ([] ++ text.toList) ≠ [] := hne
    obtain ⟨rest, hrest, hchars, hpiece⟩ := Path.exists_after_front List.not_mem_nil hwhole
    rw [List.nil_append, List.nil_append] at hrest
    have htakes : Takes .alone (.parameter p) [some rest] (Position.alone.lead ++ rest) :=
      .run (h.admits hcatchAll hchars hpiece)
    have hall := TakeAll.cons htakes .nil
    rw [List.append_nil, List.append_nil] at hall
    rw [hrest]
    exact ⟨_, hall⟩

/-- **A segment whose parts can be built is a run of the path.** -/
theorem exists_spans {given : RouteValues} {s : Segment} (hanchored : s.Anchored)
    (hparts : ∀ part ∈ s.parts, part.Buildable given)
    (hcatchAll : s.parts.Pairwise fun part _ => part.isCatchAll = false) :
    ∃ text, s.Spans given text := by
  obtain ⟨parts⟩ := s
  match parts with
  | [] => exact ⟨"", rfl, by simp, [], .nil⟩
  | [part] =>
    have hbuildable := hparts part List.mem_cons_self
    by_cases hscalar : part.isCatchAll = false
    · obtain ⟨text, htext⟩ := hbuildable.exists_renders hscalar
      exact ⟨text, htext.spans⟩
    · cases part with
      | literal text => exact absurd rfl hscalar
      | parameter p =>
        obtain ⟨text, htext⟩ := hbuildable.exists_spreads
        exact ⟨text, htext.spans (by simpa [Part.isCatchAll, Part.parameter?] using hscalar)⟩
  | part :: next :: rest =>
    have hpairwise := List.pairwise_cons.mp hcatchAll
    obtain ⟨first, hfirst⟩ := (hparts part List.mem_cons_self).exists_renders
      (hpairwise.1 next List.mem_cons_self)
    obtain ⟨text, htext⟩ := exists_continues
      (fun other hother => hparts other (List.mem_cons_of_mem _ hother)) hpairwise.2
    have hwhole := hfirst.continues htext
    have hne := hwhole.piece (hanchored (by simp))
    rw [String.toList_append] at hne
    obtain ⟨others, tail, hslashed, hall⟩ := htext.takes first.toList hfirst.slash hne
    obtain ⟨shares, htakes⟩ := hfirst.takes
    refine ⟨first ++ text, hwhole.text?, hwhole.question, shares ++ others, ?_⟩
    rw [String.toList_append, hslashed]
    exact .cons (htakes .leading) hall

/-! ### The whole path -/

theorem exists_spans_all {given : RouteValues} {segments : List Segment}
    (hanchored : ∀ s ∈ segments, s.Anchored)
    (hparts : ∀ part ∈ segments.flatMap Segment.parts, part.Buildable given)
    (hcatchAll : (segments.flatMap Segment.parts).Pairwise fun part _ => part.isCatchAll = false) :
    ∃ texts shares, segments.mapM (Segment.text? given) = some texts ∧
      (∀ text ∈ texts, '?' ∉ text.toList) ∧
      TakeAll (placed segments) shares
        (slashed (texts.flatMap fun text => solidPieces '/' text.toList)) := by
  induction segments with
  | nil => exact ⟨[], [], rfl, by simp, .nil⟩
  | cons s rest ih =>
    rw [List.flatMap_cons, List.pairwise_append] at hcatchAll
    obtain ⟨text, htext⟩ := exists_spans (hanchored s List.mem_cons_self)
      (fun part hpart => hparts part (List.mem_append_left _ hpart)) hcatchAll.1
    obtain ⟨texts, others, htexts, hplain, hrest⟩ :=
      ih (fun s' hs' => hanchored s' (List.mem_cons_of_mem _ hs'))
        (fun part hpart => hparts part (List.mem_append_right _ hpart)) hcatchAll.2.1
    obtain ⟨shares, hall⟩ := htext.takes
    refine ⟨text :: texts, shares ++ others, ?_, ?_, ?_⟩
    · rw [List.mapM_cons, htext.text?, htexts]
      rfl
    · intro other hother
      rcases List.mem_cons.mp hother with rfl | hother
      · exact htext.question
      · exact hplain other hother
    · rw [List.flatMap_cons, Path.slashed_append]
      exact hall.append hrest

def pathOf (texts : List String) : String :=
  String.ofList (Path.ofPieces ((texts.filter fun text => !text.isEmpty).map String.toList))

theorem isRooted_pathOf (texts : List String) : Path.isRooted (pathOf texts).toList := by
  unfold pathOf
  rw [String.toList_ofList]
  rfl

theorem question_not_mem_pathOf {texts : List String} (h : ∀ text ∈ texts, '?' ∉ text.toList) :
    '?' ∉ (pathOf texts).toList := by
  apply Path.not_mem_ofPieces (by decide)
  intro piece hpiece
  obtain ⟨text, htext, rfl⟩ := List.mem_map.mp hpiece
  exact h text (List.mem_filter.mp htext).1

theorem solidPieces_pathOf (texts : List String) : solidPieces '/' (pathOf texts).toList =
    texts.flatMap fun text => solidPieces '/' text.toList := by
  unfold pathOf
  rw [String.toList_ofList, Path.solidPieces_ofPieces_eq]
  induction texts with
  | nil => rfl
  | cons text rest ih =>
    rw [List.filter_cons, List.flatMap_cons, ← ih]
    split
    · rfl
    · next hempty =>
      have htext : text = "" := by simpa using hempty
      rw [htext]
      rfl

/-- The pieces of the path are those of the texts. -/
theorem canonical_pathOf (texts : List String) : Path.canonical (pathOf texts) =
    Path.ofPieces (texts.flatMap fun text => solidPieces '/' text.toList) := by
  rw [Path.canonical, solidPieces_pathOf]

theorem RoutePattern.resolve?_of_texts {set : ConstraintSet} {p : RoutePattern}
    (haccepted : Accepted set [] p.parts) {given : RouteValues} {texts : List String}
    (htexts : p.segments.mapM (Segment.text? given) = some texts) :
    p.resolve? given =
      some (pathOf texts ++ queryText (given.without (namesOf p.parts))) := by
  rw [RoutePattern.resolve?_eq haccepted, htexts, Option.map_some, slash_append_join]
  rfl

/-- **A path that can be built decomposes along the segments that it was built from.** -/
theorem RoutePattern.exists_built {set : ConstraintSet} {p : RoutePattern} {given : RouteValues}
    (haccepted : Accepted set [] p.parts) (hanchored : ∀ s ∈ p.segments, s.Anchored)
    (hparts : ∀ part ∈ p.parts, part.Buildable given) :
    ∃ texts shares, p.segments.mapM (Segment.text? given) = some texts ∧
      (∀ text ∈ texts, '?' ∉ text.toList) ∧
      Decomposes p.segments (Path.canonical (pathOf texts)) shares := by
  obtain ⟨texts, shares, htexts, hplain, hall⟩ :=
    exists_spans_all hanchored hparts haccepted.catchAll
  refine ⟨texts, shares, htexts, hplain, _, hall, ?_⟩
  rw [canonical_pathOf, Path.ofPieces_eq]
  split
  · next hnil =>
    rw [hnil]
    exact .inr rfl
  · exact .inl rfl

/-! ### Matching without constraints -/

theorem Parameter.exists_outcome_of_free {p : Parameter} (hfree : p.constraints = [])
    (captured : Option String) : ∃ outcome, p.outcome? captured = some outcome := by
  have hconstrain (v : Value) : p.constrain v = some v := by
    unfold constrain
    rw [hfree]
    rfl
  have hread (read : String → String) (text : String) :
      ∃ value, p.readValue? read text = some value := by
    unfold readValue?
    simp only [hconstrain]
    split
    · exact ⟨_, congrArg (Option.map Value.list) List.mapM_pure⟩
    · exact ⟨_, rfl⟩
  unfold outcome?
  split
  · obtain ⟨value, hvalue⟩ := hread Text.Percent.decode _
    rw [hvalue]
    exact ⟨_, rfl⟩
  · split
    · obtain ⟨value, hvalue⟩ := hread id _
      rw [hvalue]
      exact ⟨_, rfl⟩
    · exact ⟨_, rfl⟩

theorem exists_readShares?_of_free {parameters : List Parameter}
    (hfree : ∀ q ∈ parameters, q.constraints = []) (shares : List Share) :
    ∃ entries, readShares? parameters shares = some entries := by
  induction parameters generalizing shares with
  | nil => exact ⟨[], by cases shares <;> rfl⟩
  | cons p rest ih =>
    cases shares with
    | nil => exact ⟨[], rfl⟩
    | cons share shares =>
      obtain ⟨outcome, houtcome⟩ :=
        Parameter.exists_outcome_of_free (hfree p List.mem_cons_self) (share.map String.ofList)
      obtain ⟨entries, hentries⟩ :=
        ih (fun q hq => hfree q (List.mem_cons_of_mem _ hq)) shares
      refine ⟨(p.name, outcome) :: entries, ?_⟩
      rw [readShares?, houtcome, hentries]
      rfl

/-- **Without constraints, every decomposition of the normal form makes a path match.** -/
theorem RoutePattern.isMatch_of_decomposes {p : RoutePattern}
    (hfree : ∀ q ∈ p.parameters, q.constraints = []) {path : String}
    (hrooted : Path.isRooted path.toList) {shares : List Share}
    (h : Decomposes p.segments (Path.canonical path) shares) : p.isMatch path := by
  obtain ⟨best, hbest⟩ := Expression.exists_preferred h
  obtain ⟨entries, hentries⟩ := exists_readShares?_of_free hfree best
  have hmatch : p.match? path = some ⟨entries⟩ :=
    (p.match?_eq_some_iff hrooted).mpr ⟨best, hbest, hentries⟩
  unfold isMatch
  rw [hmatch]
  rfl

/-! ### Values with a text -/

/-- The value that a required parameter is given has a text that is not empty, if it does not
    count as none. -/
def Parameter.ShowsGiven (p : Parameter) (given : RouteValues) : Prop :=
  ∀ value, given.get? p.name = some value → value.isEmpty = false →
    ∃ text ∈ p.texts value, text ≠ ""

/-- What is used shows if what is given does: defaults always show. -/
theorem Parameter.ShowsGiven.used? {p : Parameter} {given : RouteValues}
    (h : p.ShowsGiven given) {value : Value} (hused : p.used? given = some value) :
    ∃ text ∈ p.texts value, text ≠ "" := by
  have hempty := p.isEmpty_of_used? hused
  unfold Parameter.used? at hused
  cases hfilter : (given.get? p.name).filter fun v => !v.isEmpty with
  | some supplied =>
    rw [hfilter] at hused
    cases hused
    exact h value (Option.filter_eq_some_iff.mp hfilter).1 hempty
  | none =>
    rw [hfilter] at hused
    have hdefault : p.defaultValue? = some value := hused
    obtain ⟨text, htext⟩ := List.exists_mem_of_ne_nil _ (p.texts_ne_nil hempty)
    exact ⟨text, htext, p.texts_of_defaultValue? hdefault text htext⟩

namespace RoutePattern

/-- If a path can be built, every required parameter has a value. -/
theorem exists_used?_of_resolve? {set : ConstraintSet} {p : RoutePattern} {given : RouteValues}
    {built : String} (haccepted : Accepted set [] p.parts)
    (hresolve : p.resolve? given = some built) {q : Parameter} (hq : q ∈ p.parameters)
    (hrequired : q.isRequired) : ∃ value, q.used? given = some value := by
  rw [resolve?_eq haccepted] at hresolve
  obtain ⟨texts, htexts, -⟩ := Option.map_eq_some_iff.mp hresolve
  obtain ⟨s, hs, hpart⟩ := List.mem_flatMap.mp (mem_parameters.mp hq)
  obtain ⟨text, -, htext⟩ := exists_of_mapM_eq_some htexts s hs
  obtain ⟨partTexts, hpartTexts, -⟩ := Option.map_eq_some_iff.mp htext
  obtain ⟨partText, -, hpartText⟩ := exists_of_mapM_eq_some hpartTexts _ hpart
  cases hused : q.used? given with
  | some value => exact ⟨value, rfl⟩
  | none =>
    unfold Part.text? at hpartText
    simp only [hused, if_pos hrequired] at hpartText
    cases hpartText

/-- **A built path matches its own pattern if every required parameter is given a text.** -/
theorem isMatch_resolve? {set : ConstraintSet} {template : String} {p : RoutePattern}
    (hcompile : compile set template = .ok p) (hfree : ∀ q ∈ p.parameters, q.constraints = [])
    {given : RouteValues} (hshows : ∀ q ∈ p.parameters, q.isRequired → q.ShowsGiven given)
    {built : String} (hresolve : p.resolve? given = some built) :
    p.isMatch (Path.beforeQuery built) := by
  have haccepted := accepted_compile hcompile
  have hparts : ∀ part ∈ p.parts, part.Buildable given := by
    intro part hpart
    refine ⟨fun text htext => haccepted.literal text (htext ▸ hpart), fun q hq hrequired => ?_⟩
    have hmem : q ∈ p.parameters := mem_parameters.mpr (hq ▸ hpart)
    obtain ⟨value, hvalue⟩ := exists_used?_of_resolve? haccepted hresolve hmem hrequired
    exact ⟨value, hvalue, (hshows q hmem hrequired).used? hvalue⟩
  obtain ⟨texts, shares, htexts, hplain, hdecomposes⟩ :=
    exists_built haccepted (anchored_compile hcompile) hparts
  have hwhole := resolve?_of_texts haccepted htexts
  rw [hresolve] at hwhole
  cases hwhole
  rw [Path.beforeQuery_append (question_not_mem_pathOf hplain) (queryText_shape _)]
  exact isMatch_of_decomposes hfree (isRooted_pathOf texts) hdecomposes

/-- Empty items leave slashes that normalizing drops, and a list of one empty text leaves
    nothing of an optional parameter. -/
theorem isMatch_resolve?_items :
    let version : Parameter := ⟨"v", .optional, [], none⟩
    let id : Parameter := ⟨"id", .required, [], none⟩
    let path : Parameter := ⟨"path", .oneOrMore, [], none⟩
    let p : RoutePattern := ⟨"/\x7bv?\x7d-\x7bid\x7d\x7bpath+\x7d",
      [⟨[.parameter version, .literal "-", .parameter id, .parameter path]⟩]⟩
    let given : RouteValues := ⟨[("v", .list [.text ""]), ("id", .int 7), ("page", .int 2),
      ("path", .list [.text "", .text "a b", .text ""])]⟩
    compile .empty p.template = .ok p ∧ (∀ q ∈ p.parameters, q.constraints = []) ∧
      (∀ q ∈ p.parameters, q.isRequired → q.ShowsGiven given) ∧
      p.resolve? given = some "/-7/a%20b/?page=2" ∧
      p.isMatch (Path.beforeQuery "/-7/a%20b/?page=2") := by
  intro version id path p given
  have houtline : Template.outline p.template = .ok [⟨[
      .parameter ⟨"v", .optional, [], none⟩, .literal "-",
      .parameter ⟨"id", .required, [], none⟩, .parameter ⟨"path", .oneOrMore, [], none⟩]⟩] := by
    decide +kernel
  have hcompile : compile .empty p.template = .ok p := compile_of_outline houtline rfl
  have hparameters : p.parameters = [version, id, path] := rfl
  have hfree : ∀ q ∈ p.parameters, q.constraints = [] := by
    simp [hparameters, version, id, path]
  have hshows : ∀ q ∈ p.parameters, q.isRequired → q.ShowsGiven given := by
    simp only [hparameters, List.forall_mem_cons]
    refine ⟨fun hrequired => ?_, fun _ => ?_, fun _ => ?_, by simp⟩
    · cases hrequired
    · intro value hvalue _
      cases hvalue
      exact ⟨"7", by decide +kernel, by decide⟩
    · intro value hvalue _
      cases hvalue
      exact ⟨"a b", by decide +kernel, by decide⟩
  have hresolve : p.resolve? given = some "/-7/a%20b/?page=2" := by decide +kernel
  exact ⟨hcompile, hfree, hshows, hresolve, isMatch_resolve? hcompile hfree hshows hresolve⟩

/-- **Not every built path matches its own pattern**: a list of one empty text counts as a
    value of a required parameter, and nothing of it is left in the path. -/
theorem not_forall_isMatch_resolve? :
    ¬ ∀ (template : String) (p : RoutePattern) (given : RouteValues) (built : String),
      compile .empty template = .ok p → (∀ q ∈ p.parameters, q.constraints = []) →
        p.resolve? given = some built → p.isMatch (Path.beforeQuery built) := by
  intro h
  let p : RoutePattern := ⟨"/\x7bpath+\x7d", [⟨[.parameter ⟨"path", .oneOrMore, [], none⟩]⟩]⟩
  have houtline : Template.outline p.template =
      .ok [⟨[.parameter ⟨"path", .oneOrMore, [], none⟩]⟩] := by
    decide +kernel
  have hcompile : compile .empty p.template = .ok p := compile_of_outline houtline rfl
  have hfree : ∀ q ∈ p.parameters, q.constraints = [] := by
    simp [p, parameters, Segment.parameters, Part.parameter?]
  have hresolve : p.resolve? ⟨[("path", .list [.text ""])]⟩ = some "/" := by decide +kernel
  have hmatch : p.isMatch (Path.beforeQuery "/") = false := by decide +kernel
  have hfalse := h p.template p _ "/" hcompile hfree hresolve
  rw [hmatch] at hfalse
  cases hfalse

end RoutePattern

end Routing
