/-
  Routing/Proofs/WrittenShares.lean
  =================================
  **A built path has the decomposition that its values were written along.**  Without
  catch-alls, a path built from values is cut into what was written: the written
  form of a value for each parameter that has one, and nothing for the optional
  parameters without a value. This need not be the preferred decomposition.
-/
import Routing.Proofs.Building
import Routing.Proofs.ChainValue
import Routing.Proofs.Decomposition

namespace Routing

open Expression (Admits Decomposes Fits Position Share TakeAll Takes placed placedParts)
open Text (IsPiece)

/-! ### One part -/

def Part.shares (given : RouteValues) : Part → List Share
  | .literal _ => []
  | .parameter p =>
    [(p.used? given).map fun value => (Text.Percent.encode value.toText).toList]

/-- A path can have the part: a parameter has a value that shows, or may do without. -/
structure Part.Writable (given : RouteValues) (part : Part) : Prop where
  literal : ∀ text, part = .literal text → Template.IsLiteral text ∧ '?' ∉ text.toList
  scalar : ∀ p, part = .parameter p → p.isCatchAll = false
  shown : ∀ p value, part = .parameter p → p.used? given = some value → value.Shown
  missing : ∀ p, part = .parameter p → p.used? given = none → p.quantifier = .optional

/-- The text of a part is what the path has for it after the slash. -/
structure WrittenAs (given : RouteValues) (part : Part) (text : String) : Prop where
  text? : part.text? given = some text
  slash : '/' ∉ text.toList
  question : '?' ∉ text.toList
  takes : ∀ position : Position, (position = .alone → text ≠ "") →
    Takes position part (part.shares given) (position.lead ++ text.toList)
  takes_gap : text = "" → Takes .alone part (part.shares given) []
  ne_empty : part.isOptional = false → text ≠ ""

theorem writtenAs_literal {given : RouteValues} {text : String}
    (hliteral : Template.IsLiteral text) (hquestion : '?' ∉ text.toList) :
    WrittenAs given (.literal text) text := by
  have hempty : text ≠ "" := by
    rintro rfl
    exact hliteral.1 rfl
  refine ⟨rfl, hliteral.2, hquestion, ?_, fun heq => absurd heq hempty, fun _ => hempty⟩
  intro position _
  exact .literal text

/-- A value is written as one piece. -/
theorem writtenAs_value {given : RouteValues} {p : Parameter} {value : Value}
    (hscalar : p.isCatchAll = false) (hused : p.used? given = some value) (hvalue : value.Shown) :
    WrittenAs given (.parameter p) (Text.Percent.encode value.toText) := by
  have hpiece := isPiece_encode hvalue.toText
  have hempty : Text.Percent.encode value.toText ≠ "" := by
    rw [Ne, Text.Percent.encode_eq_empty]
    exact hvalue.toText
  have hadmits : Admits p.quantifier (Text.Percent.encode value.toText).toList :=
    (Expression.admits_iff_isPiece hscalar).mpr hpiece
  have hshares : Part.shares given (.parameter p) =
      [some (Text.Percent.encode value.toText).toList] := by
    unfold Part.shares
    simp only [hused]
    rfl
  refine ⟨?_, hpiece.2, question_not_mem_encode _, ?_, fun heq => absurd heq hempty,
    fun _ => hempty⟩
  · unfold Part.text?
    simp only [hused, Parameter.pathText, hscalar]
    rfl
  · intro position _
    rw [hshares]
    exact .run hadmits

/-- Nothing is written for an optional parameter without a value. -/
theorem writtenAs_gap {given : RouteValues} {p : Parameter} (hquantifier : p.quantifier = .optional)
    (hused : p.used? given = none) : WrittenAs given (.parameter p) "" := by
  have hrequired : p.isRequired = false := by
    unfold Parameter.isRequired
    rw [hquantifier]
    rfl
  have hoptional : Part.isOptional (.parameter p) = true := by
    change p.quantifier.isOptional = true
    rw [hquantifier]
    rfl
  have hshares : Part.shares given (.parameter p) = [none] := by
    unfold Part.shares
    simp only [hused]
    rfl
  have hnone (position : Position) : Takes position (.parameter p)
      (Part.shares given (.parameter p)) position.gap := by
    rw [hshares]
    exact .noPiece hquantifier
  refine ⟨?_, by simp, by simp, ?_, fun _ => hnone .alone, ?_⟩
  · unfold Part.text?
    simp only [hused, hrequired]
    rfl
  · intro position halone
    cases position with
    | alone => exact absurd rfl (halone rfl)
    | leading => exact hnone .leading
    | inner => exact hnone .inner
  · intro hnot
    rw [hoptional] at hnot
    cases hnot

theorem Part.Writable.exists_writtenAs {given : RouteValues} {part : Part}
    (h : part.Writable given) : ∃ text, WrittenAs given part text := by
  cases part with
  | literal text =>
    obtain ⟨hliteral, hquestion⟩ := h.literal text rfl
    exact ⟨text, writtenAs_literal hliteral hquestion⟩
  | parameter p =>
    cases hused : p.used? given with
    | some value => exact ⟨_, writtenAs_value (h.scalar p rfl) hused (h.shown p value rfl hused)⟩
    | none => exact ⟨_, writtenAs_gap (h.missing p rfl hused) hused⟩

/-! ### One segment -/

theorem exists_text_inner {given : RouteValues} {parts : List Part}
    (h : ∀ part ∈ parts, part.Writable given) :
    ∃ text, Segment.text? given ⟨parts⟩ = some text ∧ '/' ∉ text.toList ∧ '?' ∉ text.toList ∧
      TakeAll (parts.map fun part => (.inner, part)) (parts.flatMap (Part.shares given))
        text.toList ∧
      ((∃ part ∈ parts, part.isOptional = false) → text ≠ "") := by
  induction parts with
  | nil => exact ⟨"", rfl, by simp, by simp, .nil, by simp⟩
  | cons part rest ih =>
    obtain ⟨first, hfirst⟩ := (h part List.mem_cons_self).exists_writtenAs
    obtain ⟨text, htext, hslash, hquestion, hall, hne⟩ :=
      ih fun other hother => h other (List.mem_cons_of_mem _ hother)
    have htakes : Takes .inner part (part.shares given) first.toList :=
      hfirst.takes .inner (by simp)
    refine ⟨first ++ text, ?_, ?_, ?_, ?_, ?_⟩
    · rw [Segment.text?_cons, hfirst.text?, htext]
      rfl
    · rw [String.toList_append, List.mem_append, not_or]
      exact ⟨hfirst.slash, hslash⟩
    · rw [String.toList_append, List.mem_append, not_or]
      exact ⟨hfirst.question, hquestion⟩
    · rw [String.toList_append]
      exact .cons htakes hall
    · rintro ⟨other, hother, hoptional⟩ hempty
      obtain ⟨hfirstEmpty, htextEmpty⟩ := String.append_eq_empty_iff.mp hempty
      rcases List.mem_cons.mp hother with rfl | hother
      · exact hfirst.ne_empty hoptional hfirstEmpty
      · exact hne ⟨other, hother, hoptional⟩ htextEmpty

def spelled (text : String) : List Char :=
  if text = "" then [] else '/' :: text.toList

/-- The text of a segment is what the path has for its parts. -/
theorem exists_text_segment {given : RouteValues} {s : Segment} (hanchored : s.Anchored)
    (h : ∀ part ∈ s.parts, part.Writable given) :
    ∃ text, s.text? given = some text ∧ '/' ∉ text.toList ∧ '?' ∉ text.toList ∧
      TakeAll (placedParts s) (s.parts.flatMap (Part.shares given)) (spelled text) := by
  obtain ⟨parts⟩ := s
  match parts with
  | [] => exact ⟨"", rfl, by simp, by simp, .nil⟩
  | [part] => -- a part alone may write nothing, and then the slash is left out too
    obtain ⟨text, htext⟩ := (h part List.mem_cons_self).exists_writtenAs
    have htakes : Takes .alone part (part.shares given) (spelled text) := by
      unfold spelled
      split
      · next hempty => exact htext.takes_gap hempty
      · next hempty => exact htext.takes .alone fun _ => hempty
    have hall := TakeAll.cons htakes .nil
    rw [List.append_nil, List.append_nil] at hall
    refine ⟨text, ?_, htext.slash, htext.question, ?_⟩
    · rw [Segment.text?_singleton, htext.text?]
    · simpa [placedParts] using hall
  | part :: next :: rest =>
    obtain ⟨first, hfirst⟩ := (h part List.mem_cons_self).exists_writtenAs
    obtain ⟨text, htext, hslash, hquestion, hall, hne⟩ :=
      exists_text_inner fun other hother => h other (List.mem_cons_of_mem _ hother)
    have htakes : Takes .leading part (part.shares given) ('/' :: first.toList) :=
      hfirst.takes .leading (by simp)
    -- the part that the segment is anchored by writes something
    have hempty : first ++ text ≠ "" := by
      intro heq
      obtain ⟨hfirstEmpty, htextEmpty⟩ := String.append_eq_empty_iff.mp heq
      obtain ⟨other, hother, hoptional⟩ := hanchored (by simp)
      rcases List.mem_cons.mp hother with rfl | hother
      · exact hfirst.ne_empty hoptional hfirstEmpty
      · exact hne ⟨other, hother, hoptional⟩ htextEmpty
    refine ⟨first ++ text, ?_, ?_, ?_, ?_⟩
    · rw [Segment.text?_cons, hfirst.text?, htext]
      rfl
    · rw [String.toList_append, List.mem_append, not_or]
      exact ⟨hfirst.slash, hslash⟩
    · rw [String.toList_append, List.mem_append, not_or]
      exact ⟨hfirst.question, hquestion⟩
    · unfold spelled
      rw [if_neg hempty, String.toList_append]
      exact .cons htakes hall

/-! ### The whole path -/

theorem Expression.TakeAll.append {first second : List (Position × Part)}
    {shares others : List Share} {text texts : List Char} (hfirst : TakeAll first shares text)
    (hsecond : TakeAll second others texts) :
    TakeAll (first ++ second) (shares ++ others) (text ++ texts) := by
  induction hfirst with
  | nil => exact hsecond
  | cons hpart _ ih =>
    rw [List.append_assoc, List.append_assoc]
    exact .cons hpart ih

/-- **Every segment has its text**, if every part can be written. -/
theorem exists_texts {given : RouteValues} {segments : List Segment}
    (hanchored : ∀ s ∈ segments, s.Anchored)
    (h : ∀ part ∈ segments.flatMap Segment.parts, part.Writable given) :
    ∃ texts, segments.mapM (Segment.text? given) = some texts ∧
      (∀ text ∈ texts, '/' ∉ text.toList ∧ '?' ∉ text.toList) ∧
      TakeAll (placed segments) ((segments.flatMap Segment.parts).flatMap (Part.shares given))
        (texts.flatMap spelled) := by
  induction segments with
  | nil => exact ⟨[], rfl, by simp, .nil⟩
  | cons s rest ih =>
    obtain ⟨text, htext, hslash, hquestion, hfirst⟩ :=
      exists_text_segment (hanchored s List.mem_cons_self) fun part hpart =>
        h part (List.mem_append_left _ hpart)
    obtain ⟨texts, htexts, hplain, hrest⟩ :=
      ih (fun s' hs' => hanchored s' (List.mem_cons_of_mem _ hs')) fun part hpart =>
        h part (List.mem_append_right _ hpart)
    refine ⟨text :: texts, ?_, ?_, ?_⟩
    · rw [List.mapM_cons, htext, htexts]
      rfl
    · intro other hother
      rcases List.mem_cons.mp hother with rfl | hother
      · exact ⟨hslash, hquestion⟩
      · exact hplain other hother
    · rw [List.flatMap_cons, List.flatMap_cons, List.flatMap_append]
      exact hfirst.append hrest

/-- What a built path is, apart from its query. -/
structure BuiltAlong (p : RoutePattern) (given : RouteValues) (path : String) : Prop where
  resolve? : p.resolve? given = some (path ++ queryText (given.without (namesOf p.parts)))
  canonical : Path.isCanonical path
  question : '?' ∉ path.toList
  decomposes : Decomposes p.segments path.toList (p.parts.flatMap (Part.shares given))

theorem flatMap_spelled (texts : List String) :
    texts.flatMap spelled =
      Path.slashed ((texts.filter fun text => !text.isEmpty).map String.toList) := by
  induction texts with
  | nil => rfl
  | cons text rest ih =>
    rw [List.flatMap_cons, ih, List.filter_cons]
    unfold spelled
    by_cases hempty : text = ""
    · subst hempty
      rfl
    · have hnot : text.isEmpty = false := by simpa [String.isEmpty_iff] using hempty
      rw [if_neg hempty, hnot]
      rfl

/-- **A path built without catch-alls decomposes into what was written.** -/
theorem exists_builtAlong {set : ConstraintSet} {p : RoutePattern} {given : RouteValues}
    (haccepted : Accepted set [] p.parts) (hanchored : ∀ s ∈ p.segments, s.Anchored)
    (h : ∀ part ∈ p.parts, part.Writable given) : ∃ path, BuiltAlong p given path := by
  obtain ⟨texts, htexts, hplain, hall⟩ := exists_texts hanchored h
  have hpieces : ∀ piece ∈ (texts.filter fun text => !text.isEmpty).map String.toList,
      IsPiece piece ∧ '?' ∉ piece := by
    intro piece hpiece
    obtain ⟨text, htext, rfl⟩ := List.mem_map.mp hpiece
    obtain ⟨hmem, hempty⟩ := List.mem_filter.mp htext
    obtain ⟨hslash, hquestion⟩ := hplain text hmem
    refine ⟨⟨?_, hslash⟩, hquestion⟩
    simpa [String.isEmpty_iff] using hempty
  refine ⟨String.ofList (Path.ofPieces
    ((texts.filter fun text => !text.isEmpty).map String.toList)), ?_, ?_, ?_, ?_⟩
  · rw [RoutePattern.resolve?_eq haccepted, htexts, Option.map_some, slash_append_join]
  · exact Path.isCanonical_ofPieces fun piece hpiece => (hpieces piece hpiece).1
  · exact Path.not_mem_ofPieces (by decide) fun piece hpiece => (hpieces piece hpiece).2
  · rw [flatMap_spelled] at hall
    rw [String.toList_ofList, Path.ofPieces_eq]
    refine ⟨_, hall, ?_⟩
    split
    · next hnil =>
      rw [hnil]
      exact .inr rfl
    · exact .inl rfl

end Routing
