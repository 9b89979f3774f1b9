/-
  Routing/Proofs/Continuations.lean
  =================================
  **A pattern continued by a catch-all.**  Segments without a catch-all never take a
  single slash, so what they take of a canonical path ends where a piece ends. So a path is
  cut there: the pattern matches the pieces in front, and the catch-all takes those behind
  them, whatever they are, except for line ends, `isMatch_followedBy_iff`.
-/
import Routing.Proofs.JoinedTemplates
import Routing.Proofs.RebuiltPath
import Routing.Proofs.FirstMatch

namespace Routing

open Expression (Decomposes Takes TakeAll Position placed placedParts)
open Routing.Path (ofPieces slashed)
open Template (ParameterNode PartNode SegmentNode)
open Text (IsPiece solidPieces)

/-! ### Slashes of a canonical path -/

/-- A slash before which a path is cut stands between two pieces. -/
theorem Path.exists_of_slashed_eq {pieces : List (List Char)}
    (hpieces : ∀ piece ∈ pieces, IsPiece piece) {front rest : List Char}
    (h : slashed pieces = front ++ '/' :: rest) :
    ∃ before after, pieces = before ++ after ∧ front = slashed before ∧
      '/' :: rest = slashed after := by
  induction pieces generalizing front with
  | nil => simp at h
  | cons piece pieces ih =>
    obtain ⟨hpiece, hpieces⟩ := List.forall_mem_cons.mp hpieces
    cases front with
    | nil => exact ⟨[], piece :: pieces, rfl, rfl, h.symm⟩
    | cons c front =>
      rw [slashed_cons, List.cons_append] at h
      obtain ⟨rfl, htail⟩ := List.cons.inj h
      -- the piece has no slash, so it is whole on the left
      obtain ⟨left, rfl, hleft⟩ : ∃ left, front = piece ++ left ∧
          slashed pieces = left ++ '/' :: rest := by
        rcases List.append_eq_append_iff.mp htail with
          ⟨left, hfront, hleft⟩ | ⟨left, hpiece', hrest⟩
        · exact ⟨left, hfront, hleft⟩
        · cases left with
          | nil => exact ⟨[], by simpa using hpiece'.symm, by simpa using hrest.symm⟩
          | cons d left =>
            cases hrest
            exact absurd (hpiece' ▸ by simp) hpiece.2
      obtain ⟨before, after, rfl, rfl, hafter⟩ := ih hpieces hleft
      exact ⟨piece :: before, after, rfl, by simp, hafter⟩

theorem Path.exists_of_ofPieces_eq {pieces : List (List Char)}
    (hpieces : ∀ piece ∈ pieces, IsPiece piece) {front rest : List Char}
    (h : ofPieces pieces = front ++ '/' :: rest) :
    ∃ before after, pieces = before ++ after ∧ front = slashed before ∧
      ∀ piece ∈ after, ∀ c ∈ piece, c ∈ '/' :: rest := by
  rw [ofPieces_eq] at h
  split at h
  · next hnil =>
    cases front with
    | nil => exact ⟨[], [], hnil, rfl, by simp⟩
    | cons c front => simp at h
  · obtain ⟨before, after, hsplit, hfront, hafter⟩ := exists_of_slashed_eq hpieces h
    refine ⟨before, after, hsplit, hfront, fun piece hpiece c hc => ?_⟩
    rw [hafter]
    exact List.mem_flatMap.mpr ⟨piece, hpiece, List.mem_cons_of_mem _ hc⟩

/-- Apart from slashes, a text has the characters of its pieces. -/
theorem Text.mem_iff_of_solidPieces {c : Char} (hc : c ≠ '/') {cs : List Char} :
    c ∈ cs ↔ ∃ piece ∈ solidPieces '/' cs, c ∈ piece := by
  constructor
  · intro hmem
    have hjoined : c ∈ ofPieces (pieces '/' cs) := by
      rw [ofPieces, joined_pieces]
      exact List.mem_cons_of_mem _ hmem
    obtain ⟨piece, hpiece, hcpiece⟩ := (Path.mem_ofPieces hc).mp hjoined
    refine ⟨piece, List.mem_filter.mpr ⟨hpiece, ?_⟩, hcpiece⟩
    simp [List.ne_nil_of_mem hcpiece]
  · rintro ⟨piece, hpiece, hcpiece⟩
    exact mem_of_mem_solidPieces hpiece hcpiece

/-! ### Segments take no single slash -/

namespace Expression

/-- A part that a path must have something for takes more than the slash before it. -/
theorem Takes.lead_lt {position : Position} {part : Part} {shares : List Share}
    {text : List Char} (h : Takes position part shares text)
    (hliteral : ∀ text, part = .literal text → text ≠ "") (hneeded : part.isOptional = false) :
    position.lead.length < text.length := by
  have hrun {p : Parameter} {run : List Char} (hadmits : Admits p.quantifier run)
      (hp : (Part.parameter p).isOptional = false) : run ≠ [] := by
    simp only [Part.isOptional, Part.parameter?, Option.any_some, Parameter.isOptional,
      Quantifier.isOptional] at hp
    cases hq : p.quantifier <;> rw [hq] at hadmits hp
    · exact hadmits.1
    · cases hp
    · cases hp
    · exact hadmits.1
  cases h with
  | literal text =>
    rw [List.length_append]
    have := List.length_pos_iff.mpr (mt String.toList_eq_nil_iff.mp (hliteral text rfl))
    omega
  | run hadmits =>
    rw [List.length_append]
    have := List.length_pos_iff.mpr (hrun hadmits hneeded)
    omega
  | noPiece hquantifier | noRest hquantifier =>
    simp [Part.isOptional, Part.parameter?, Parameter.isOptional, Quantifier.isOptional,
      Quantifier.isRequired, hquantifier] at hneeded

theorem TakeAll.pos_of_needed {parts : List (Position × Part)} {shares : List Share}
    {text : List Char} (h : TakeAll parts shares text)
    (hliteral : ∀ x ∈ parts, ∀ text, x.2 = .literal text → text ≠ "")
    (hneeded : ∃ x ∈ parts, x.2.isOptional = false) : 0 < text.length := by
  induction h with
  | nil => simp at hneeded
  | cons hpart _ ih =>
    obtain ⟨hfirst, hothers⟩ := List.forall_mem_cons.mp hliteral
    rw [List.length_append]
    obtain ⟨x, hx, hoptional⟩ := hneeded
    rcases List.mem_cons.mp hx with rfl | hx
    · have := hpart.lead_lt hfirst hoptional
      omega
    · have := ih hothers ⟨x, hx, hoptional⟩
      omega

theorem Takes.solid_of_alone {part : Part} {shares : List Share} {text : List Char}
    (h : Takes .alone part shares text) (hliteral : ∀ text, part = .literal text → text ≠ "")
    (hscalar : part.isCatchAll = false) : text = [] ∨ 1 < text.length := by
  cases h with
  | literal text =>
    have := List.length_pos_iff.mpr (mt String.toList_eq_nil_iff.mp (hliteral text rfl))
    simp only [Position.lead, List.length_append, List.length_singleton]
    omega
  | run hadmits =>
    have hpiece := (admits_iff_isPiece hscalar).mp hadmits
    have := List.length_pos_iff.mpr hpiece.1
    simp only [Position.lead, List.length_append, List.length_singleton]
    omega
  | noPiece _ | noRest _ => exact .inl rfl

/-- A segment without a catch-all takes nothing, or more than its slash. -/
theorem TakeAll.solid_of_segment {s : Segment} (hanchored : s.Anchored)
    (hliteral : ∀ text, .literal text ∈ s.parts → text ≠ "")
    (hscalar : ∀ part ∈ s.parts, part.isCatchAll = false) {shares : List Share} {text : List Char}
    (h : TakeAll (placedParts s) shares text) : text = [] ∨ 1 < text.length := by
  obtain ⟨parts⟩ := s
  match parts with
  | [] =>
    cases h
    exact .inl rfl
  | [part] =>
    obtain ⟨first, others, start, rest, rfl, rfl, hpart, hnil⟩ := h.exists_cons
    cases hnil
    rw [List.append_nil]
    exact hpart.solid_of_alone (fun text htext => hliteral text (by simp [htext]))
      (hscalar part List.mem_cons_self)
  | part :: next :: tail =>
    obtain ⟨first, others, start, rest, rfl, rfl, hpart, hall⟩ := h.exists_cons
    rw [List.length_append]
    right
    -- the first part takes the slash, and the segment more than that
    cases hoptional : part.isOptional with
    | false =>
      have := hpart.lead_lt (fun text htext => hliteral text (by simp [htext])) hoptional
      simp only [Position.lead, List.length_singleton] at this
      omega
    | true =>
      -- the part that the segment is anchored by comes later
      have hpos := hpart.pos_of_leading (hscalar part List.mem_cons_self)
      obtain ⟨needed, hmem, hneeded⟩ := hanchored (by simp)
      have hlater : needed ∈ next :: tail := by
        rcases List.mem_cons.mp hmem with rfl | hmem
        · rw [hneeded] at hoptional
          cases hoptional
        · exact hmem
      have hrest : 0 < rest.length := by
        refine hall.pos_of_needed ?_ ⟨(.inner, needed), List.mem_map_of_mem hlater, hneeded⟩
        intro x hx text htext
        obtain ⟨other, hother, rfl⟩ := List.mem_map.mp hx
        exact hliteral text (List.mem_cons_of_mem _ (htext ▸ hother))
      omega

theorem TakeAll.solid_of_placed {segments : List Segment} (hanchored : ∀ s ∈ segments, s.Anchored)
    (hliteral : ∀ text, .literal text ∈ segments.flatMap Segment.parts → text ≠ "")
    (hscalar : ∀ part ∈ segments.flatMap Segment.parts, part.isCatchAll = false)
    {shares : List Share} {text : List Char} (h : TakeAll (placed segments) shares text) :
    text = [] ∨ 1 < text.length := by
  induction segments generalizing shares text with
  | nil =>
    cases h
    exact .inl rfl
  | cons s rest ih =>
    obtain ⟨as, bs, start, tail, rfl, rfl, hfirst, hsecond⟩ := TakeAll.exists_append h
    obtain ⟨hs, hrest⟩ := List.forall_mem_cons.mp hanchored
    simp only [List.flatMap_cons, List.mem_append] at hliteral hscalar
    have hstart := hfirst.solid_of_segment hs (fun text htext => hliteral text (.inl htext))
      fun part hpart => hscalar part (.inl hpart)
    have htail := ih hrest (fun text htext => hliteral text (.inr htext))
      (fun part hpart => hscalar part (.inr hpart)) hsecond
    rw [List.length_append]
    rcases hstart with rfl | hstart
    · simpa using htail
    · exact .inr (by omega)

/-! ### A catch-all behind other segments -/

/-- The segments, and a catch-all marked `*` behind them. -/
def followedBy (segments : List Segment) (r : Parameter) : List Segment :=
  segments ++ [⟨[.parameter r]⟩]

theorem placed_followedBy (segments : List Segment) (r : Parameter) :
    placed (followedBy segments r) = placed segments ++ [(.alone, .parameter r)] := by
  rw [followedBy, placed, List.flatMap_append]
  rfl

/-- What is taken of a canonical path is all of it, or nothing of the path without pieces. -/
theorem eq_slashed_of_fits {pieces : List (List Char)} (hpieces : ∀ piece ∈ pieces, IsPiece piece)
    {text : List Char} (hsolid : text = [] ∨ 1 < text.length)
    (hend : ofPieces pieces = text ∨ ofPieces pieces = text ++ ['/']) : text = slashed pieces := by
  rw [Path.ofPieces_eq] at hend
  split at hend
  · next hnil =>
    rw [hnil, Path.slashed_nil]
    refine hsolid.resolve_right ?_
    have hlength : text.length ≤ 1 := by
      rcases hend with hend | hend
      · simp [← hend]
      · have := congrArg List.length hend
        rw [List.length_append, List.length_singleton] at this
        omega
    omega
  · rcases hend with hend | hend
    · exact hend.symm
    · have hlast := Path.getLast?_slashed hpieces
      simp [hend] at hlast

section

variable {segments : List Segment} {r : Parameter} (hr : r.quantifier = .zeroOrMore)
include hr

/-- A way through the longer pattern is one through the shorter and what the catch-all takes. -/
theorem exists_split_of_followedBy {pieces : List (List Char)}
    (hpieces : ∀ piece ∈ pieces, IsPiece piece) {shares : List Share}
    (h : Decomposes (followedBy segments r) (ofPieces pieces) shares) :
    ∃ front back, pieces = front ++ back ∧
      (∃ shares, Decomposes segments (ofPieces front) shares) ∧ ∀ piece ∈ back, '\n' ∉ piece := by
  obtain ⟨text, hall, hend⟩ := h
  rw [placed_followedBy] at hall
  obtain ⟨as, bs, start, tail, rfl, rfl, hfirst, hlast⟩ := TakeAll.exists_append hall
  obtain ⟨share, others, last, rest, rfl, rfl, htakes, hnil⟩ := hlast.exists_cons
  cases hnil
  rw [List.append_nil] at hend
  cases htakes with
  | @run _ run hadmits =>
    rw [hr] at hadmits
    have hrun : '\n' ∉ run := hadmits
    -- the slash at the end of the path may stand behind the run
    obtain ⟨rest, hpath, hrest⟩ : ∃ rest, ofPieces pieces = start ++ '/' :: rest ∧
        '\n' ∉ rest := by
      rcases hend with hend | hend
      · exact ⟨run, hend, hrun⟩
      · exact ⟨run ++ ['/'], by simpa [Position.lead] using hend, by simpa using hrun⟩
    obtain ⟨front, back, rfl, rfl, hback⟩ := Path.exists_of_ofPieces_eq hpieces hpath
    refine ⟨front, back, rfl, ⟨as, slashed front, hfirst, ?_⟩, ?_⟩
    · rw [Path.ofPieces_eq]
      split
      · next hnil => exact .inr (by rw [hnil]; rfl)
      · exact .inl rfl
    · intro piece hpiece hnewline
      have hmem := hback piece hpiece _ hnewline
      exact hrest ((List.mem_cons.mp hmem).resolve_left (by decide))
  | noPiece hquantifier =>
    rw [hr] at hquantifier
    cases hquantifier
  | noRest _ => -- the catch-all takes nothing, so the shorter pattern takes the whole path
    rw [List.append_nil] at hend
    exact ⟨pieces, [], (List.append_nil _).symm, ⟨as, start, hfirst, hend⟩, by simp⟩

theorem takeAll_remainder {back : List (List Char)} (hback : ∀ piece ∈ back, '\n' ∉ piece) :
    ∃ share, TakeAll [(.alone, .parameter r)] [share] (slashed back) := by
  by_cases hne : back = []
  · subst hne
    exact ⟨none, .cons (.noRest hr) .nil⟩
  · have hadmits : Admits r.quantifier (Text.joined ['/'] back) := by
      rw [hr]
      exact newline_not_mem_joined.mpr hback
    have htakes : Takes .alone (.parameter r) [some (Text.joined ['/'] back)] (ofPieces back) :=
      .run hadmits
    rw [← Path.ofPieces_of_ne_nil hne, ← List.append_nil (ofPieces back)]
    exact ⟨_, .cons htakes .nil⟩

theorem decomposes_followedBy_iff
    (hsolid : ∀ {shares text}, TakeAll (placed segments) shares text → text = [] ∨ 1 < text.length)
    {pieces : List (List Char)} (hpieces : ∀ piece ∈ pieces, IsPiece piece) :
    (∃ shares, Decomposes (followedBy segments r) (ofPieces pieces) shares) ↔
      ∃ front back, pieces = front ++ back ∧
        (∃ shares, Decomposes segments (ofPieces front) shares) ∧ ∀ piece ∈ back, '\n' ∉ piece := by
  constructor
  · rintro ⟨shares, h⟩
    exact exists_split_of_followedBy hr hpieces h
  · rintro ⟨front, back, rfl, ⟨shares, text, hall, hend⟩, hback⟩
    obtain ⟨hfront, -⟩ := List.forall_mem_append.mp hpieces
    obtain rfl := eq_slashed_of_fits hfront (hsolid hall) hend
    obtain ⟨share, htakes⟩ := takeAll_remainder hr hback
    refine ⟨shares ++ [share], slashed front ++ slashed back, ?_, ?_⟩
    · rw [placed_followedBy]
      exact hall.append htakes
    · by_cases hne : back = []
      · simpa [hne] using hend
      · rw [Path.ofPieces_of_ne_nil (List.append_ne_nil_of_right_ne_nil _ hne), Path.slashed_append]
        exact .inl rfl

end

end Expression

/-! ### The template of a catch-all -/

def Template.remainder (name : String) : String :=
  "\x7b" ++ name ++ "*\x7d"

def remainderOf (name : String) : Parameter :=
  ⟨name, .zeroOrMore, [], some ""⟩

theorem Template.outline_remainder {name : String} (hname : IsName name) :
    outline (remainder name) = .ok [⟨[.parameter ⟨name, .zeroOrMore, [], none⟩]⟩] := by
  have htext : (remainder name).toList =
      '{' :: ((ParameterTree.mk name .zeroOrMore []).spelling ++ '}' :: []) := by
    simp [remainder, ParameterTree.spelling, clausesSpelling, Quantifier.mark]
  have hderives : Derives [.parameter ⟨name, .zeroOrMore, []⟩] (remainder name).toList := by
    rw [htext]
    exact .parameter ⟨hname, by simp⟩ .nil
  exact outline_eq_ok_iff_exists.mpr ⟨_, hderives, rfl⟩

/-- A catch-all may be declared behind an outline without one that does not have its name. -/
theorem ValidOutline.append_remainder {set : ConstraintSet} {outline : List SegmentNode}
    (h : ValidOutline set outline)
    (hscalar : ∀ p, .parameter p ∈ partsOf outline → p.quantifier.isCatchAll = false)
    {node : ParameterNode} (hfresh : ∀ p, .parameter p ∈ partsOf outline → p.name ≠ node.name)
    (hfree : node.constraints = []) :
    ValidOutline set (outline ++ [⟨[.parameter node]⟩]) := by
  have hparts : partsOf (outline ++ [⟨[.parameter node]⟩]) =
      partsOf outline ++ [.parameter node] := List.flatMap_append
  refine ⟨?_, ?_, ?_, ?_, ?_⟩
  · rintro ⟨s, hs, hall⟩
    rcases List.mem_append.mp hs with hs | hs
    · exact h.anchored ⟨s, hs, hall⟩
    · rw [List.mem_singleton.mp hs] at hall
      exact absurd hall.1 (by simp)
  · intro text htext
    rw [hparts] at htext
    exact h.literal text (by simpa using htext)
  · -- a catch-all before the last part would be one of the outline
    intro before p after hsplit hcatchAll
    rw [hparts] at hsplit
    rcases List.eq_nil_or_concat' after with rfl | ⟨init, last, rfl⟩
    · rfl
    · rw [← List.cons_append, ← List.append_assoc] at hsplit
      obtain ⟨hinit, -⟩ := List.append_inj' hsplit rfl
      have hmem : .parameter p ∈ partsOf outline := by simp [hinit]
      rw [hscalar p hmem] at hcatchAll
      cases hcatchAll
  · rw [hparts, declaredNames_append, List.nodup_append]
    refine ⟨h.nodup, by simp [declaredNames, PartNode.name?], ?_⟩
    intro name hname other hother
    obtain ⟨part, hpart, hpartName⟩ := List.mem_filterMap.mp hname
    rw [List.mem_singleton.mp hother]
    cases part with
    | literal text => cases hpartName
    | parameter p =>
      cases hpartName
      exact hfresh p hpart
  · intro p hp c hc
    rw [hparts] at hp
    rcases List.mem_append.mp hp with hp | hp
    · exact h.constraints p hp c hc
    · cases List.mem_singleton.mp hp
      rw [hfree] at hc
      cases hc

namespace RoutePattern

/-- Without constraints, a match is a decomposition and nothing more. -/
theorem isMatch_iff_of_free {p : RoutePattern} (hfree : ∀ q ∈ p.parameters, q.constraints = [])
    {path : String} (hrooted : Path.isRooted path.toList) :
    p.isMatch path ↔ ∃ shares, Decomposes p.segments (Path.canonical path) shares := by
  constructor
  · intro h
    obtain ⟨params, hparams⟩ := Option.isSome_iff_exists.mp h
    obtain ⟨shares, hpreferred, -⟩ := (p.match?_eq_some_iff hrooted).mp hparams
    exact ⟨shares, hpreferred.decomposes⟩
  · rintro ⟨shares, hdecomposes⟩
    exact isMatch_of_decomposes hfree hrooted hdecomposes

section

variable {set : ConstraintSet} {template name : String} {p : RoutePattern}

/-- The longer template compiles if the name is new and no catch-all stands before. -/
theorem compile_remainder (hcompile : compile set template = .ok p)
    (hscalar : ∀ q ∈ p.parameters, q.isCatchAll = false) (hname : Template.IsName name)
    (hfresh : name ∉ p.parameters.map Parameter.name) :
    compile set (template ++ "/" ++ Template.remainder name) =
      .ok ⟨template ++ "/" ++ Template.remainder name,
        Expression.followedBy p.segments (remainderOf name)⟩ := by
  obtain ⟨outline, houtline, hvalid, hbinds⟩ := compile_eq_ok hcompile
  have hparts : List.Forall₂ (PartNode.Binds set) (partsOf outline) p.parts :=
    List.rel_flatMap hbinds fun _ _ hsegment => hsegment
  -- what the outline declares, the pattern has as a parameter
  have hparameter : ∀ node, .parameter node ∈ partsOf outline →
      ∃ q ∈ p.parameters, node.Binds set q := by
    intro node hnode
    obtain ⟨part, hpart, hbind⟩ := exists_right_of_forall₂ hparts _ hnode
    cases hbind with
    | parameter hbind => exact ⟨_, mem_parameters.mpr hpart, hbind⟩
  let node : ParameterNode := ⟨name, .zeroOrMore, [], none⟩
  have hjoined : Template.outline (template ++ "/" ++ Template.remainder name) =
      .ok (outline ++ [⟨[.parameter node]⟩]) := by
    rw [Template.outline_join houtline, Template.outline_remainder hname]
    rfl
  have hnode : node.Binds set (remainderOf name) :=
    ⟨rfl, rfl, .nil, fun _ => rfl, fun hne => absurd rfl hne⟩
  have hwhole : ValidOutline set (outline ++ [⟨[.parameter node]⟩]) := by
    refine hvalid.append_remainder ?_ ?_ rfl
    · intro other hother
      obtain ⟨q, hq, hbind⟩ := hparameter other hother
      rw [← hbind.quantifier]
      exact hscalar q hq
    · intro other hother heq
      obtain ⟨q, hq, hbind⟩ := hparameter other hother
      exact hfresh (List.mem_map.mpr ⟨q, hq, hbind.name.trans heq⟩)
  have hlast : SegmentNode.Binds set ⟨[.parameter node]⟩ ⟨[.parameter (remainderOf name)]⟩ :=
    .cons (.parameter hnode) .nil
  refine compile_of_outline hjoined (bind_eq_ok_iff.mpr ⟨hwhole, ?_⟩)
  exact List.rel_append hbinds (.cons hlast .nil)

/-- **A pattern continued by a catch-all matches what the pattern matches and whatever
    comes behind it**, if there are no line ends in that. -/
theorem isMatch_followedBy_iff {q : RoutePattern} {r : Parameter}
    (hcompile : compile set template = .ok p)
    (hplain : ∀ other ∈ p.parameters, other.constraints = [] ∧ other.isCatchAll = false)
    (hq : q.segments = Expression.followedBy p.segments r) (hr : r.quantifier = .zeroOrMore)
    (hfree : r.constraints = []) {path : String} (hrooted : Path.isRooted path.toList) :
    q.isMatch path ↔ ∃ front back, solidPieces '/' path.toList = front ++ back ∧
      p.isMatch (String.ofList (ofPieces front)) ∧ ∀ piece ∈ back, '\n' ∉ piece := by
  have haccepted := accepted_compile hcompile
  have hparameters : q.parameters = p.parameters ++ [r] := by
    rw [parameters, hq, Expression.followedBy, List.flatMap_append]
    rfl
  have hqfree : ∀ other ∈ q.parameters, other.constraints = [] := by
    rw [hparameters]
    intro other hother
    rcases List.mem_append.mp hother with hother | hother
    · exact (hplain other hother).1
    · rw [List.mem_singleton.mp hother]
      exact hfree
  -- the shorter pattern takes nothing, or more than a slash
  have hsolid {shares : List Expression.Share} {text : List Char}
      (h : TakeAll (placed p.segments) shares text) : text = [] ∨ 1 < text.length := by
    refine h.solid_of_placed (anchored_compile hcompile) ?_ ?_
    · rintro text htext rfl
      exact (haccepted.literal "" htext).1.1 rfl
    · intro part hpart
      cases part with
      | literal text => rfl
      | parameter other => exact (hplain other (mem_parameters.mpr hpart)).2
  have hpieces : ∀ piece ∈ solidPieces '/' path.toList, IsPiece piece :=
    fun _ => Text.isPiece_of_mem_solidPieces
  rw [isMatch_iff_of_free hqfree hrooted, hq, Path.canonical,
    Expression.decomposes_followedBy_iff hr hsolid hpieces]
  refine exists_congr fun front => exists_congr fun back => and_congr_right fun hsplit => ?_
  have hfront : ∀ piece ∈ front, IsPiece piece :=
    fun piece hpiece => hpieces piece (hsplit ▸ List.mem_append_left _ hpiece)
  have hcanonical : Path.canonical (String.ofList (ofPieces front)) = ofPieces front := by
    rw [Path.canonical, String.toList_ofList, Path.solidPieces_ofPieces hfront]
  have hrooted' : Path.isRooted (String.ofList (ofPieces front)).toList := by
    rw [String.toList_ofList]
    rfl
  rw [isMatch_iff_of_free (fun other hother => (hplain other hother).1) hrooted', hcanonical]

theorem isMatch_continued {q : RoutePattern} {r : Parameter}
    (hcompile : compile set template = .ok p)
    (hplain : ∀ other ∈ p.parameters, other.constraints = [] ∧ other.isCatchAll = false)
    (hq : q.segments = Expression.followedBy p.segments r) (hr : r.quantifier = .zeroOrMore)
    (hfree : r.constraints = []) {path normal : String} (hmatch : p.isMatch path)
    (hnormal : Path.normalize path = some normal) {xs : List String}
    (hxs : ∀ x ∈ xs, x ≠ "" ∧ '/' ∉ x.toList ∧ '\n' ∉ x.toList) :
    q.isMatch (normal ++ "/" ++ Text.join "/" xs) := by
  have hcanonical := Path.isCanonical_of_normalize hnormal
  have hpieces : ∀ piece ∈ xs.map String.toList, IsPiece piece := by
    intro piece hpiece
    obtain ⟨x, hx, rfl⟩ := List.mem_map.mp hpiece
    exact ⟨mt String.toList_eq_nil_iff.mp (hxs x hx).1, (hxs x hx).2.1⟩
  have htext : (normal ++ "/" ++ Text.join "/" xs).toList =
      normal.toList ++ '/' :: Text.joined ['/'] (xs.map String.toList) := by
    rw [Template.toList_join, Text.join, String.toList_ofList]
    rfl
  have hrooted : Path.isRooted (normal ++ "/" ++ Text.join "/" xs).toList := by
    have hslash := Path.isRooted_of_isCanonical hcanonical
    obtain ⟨rest, hrest⟩ : ∃ rest, normal.toList = '/' :: rest :=
      List.head?_eq_some_iff.mp (by simpa [Path.isRooted] using hslash)
    rw [htext, hrest]
    rfl
  refine (isMatch_followedBy_iff hcompile hplain hq hr hfree hrooted).mpr
    ⟨solidPieces '/' normal.toList, xs.map String.toList, ?_, ?_, ?_⟩
  · rw [htext, Text.solidPieces_append_cons, Path.solidPieces_joined_pieces hpieces]
  · rw [Path.ofPieces_solidPieces hcanonical, String.ofList_toList, isMatch,
      p.match?_of_normalize hnormal]
    exact hmatch
  · intro piece hpiece
    obtain ⟨x, hx, rfl⟩ := List.mem_map.mp hpiece
    exact (hxs x hx).2.2

/-- Alone, a catch-all marked `*` matches every rooted path without line ends. -/
theorem isMatch_remainder_iff {q : RoutePattern} {r : Parameter}
    (hq : q.segments = Expression.followedBy [] r) (hr : r.quantifier = .zeroOrMore)
    (hfree : r.constraints = []) {path : String} (hrooted : Path.isRooted path.toList) :
    q.isMatch path ↔ '\n' ∉ path.toList := by
  have hqfree : ∀ other ∈ q.parameters, other.constraints = [] := by
    rw [parameters, hq]
    simpa [Expression.followedBy, Segment.parameters, Part.parameter?] using hfree
  have hsolid {shares : List Expression.Share} {text : List Char}
      (h : TakeAll (placed []) shares text) : text = [] ∨ 1 < text.length := by
    cases h
    exact .inl rfl
  have hpieces : ∀ piece ∈ solidPieces '/' path.toList, IsPiece piece :=
    fun _ => Text.isPiece_of_mem_solidPieces
  rw [isMatch_iff_of_free hqfree hrooted, hq, Path.canonical,
    Expression.decomposes_followedBy_iff hr hsolid hpieces, Text.mem_iff_of_solidPieces (by decide)]
  constructor
  · rintro ⟨front, back, hsplit, ⟨shares, text, hnil, hend⟩, hback⟩ ⟨piece, hpiece, hnewline⟩
    cases hnil
    rw [hsplit] at hpieces hpiece
    have hfront : front = [] := by
      by_contra hne
      have hslashed := Expression.eq_slashed_of_fits
        (fun piece hpiece => hpieces piece (List.mem_append_left _ hpiece)) (.inl rfl) hend
      exact Path.slashed_ne_nil hne hslashed.symm
    rw [hfront, List.nil_append] at hpiece
    exact hback piece hpiece hnewline
  · intro hnone
    refine ⟨[], _, rfl, ⟨[], [], .nil, .inr rfl⟩, ?_⟩
    intro piece hpiece hnewline
    exact hnone ⟨piece, hpiece, hnewline⟩

end

end RoutePattern

theorem RouteTable.isSome_match?_push (table : RouteTable) (route : Route) (path : String) :
    ((table.push route).match? path).isSome ↔
      (table.match? path).isSome ∨ route.pattern.isMatch path := by
  have hsome (table : RouteTable) : (table.match? path).isSome ↔
      ∃ route ∈ table.routes, route.pattern.isMatch path := by
    rw [Option.isSome_iff_ne_none, ne_eq, match?_eq_none_iff]
    simp [RoutePattern.isMatch, Option.isSome_iff_ne_none]
  rw [hsome, hsome, push]
  simp only [List.mem_append, List.mem_singleton, or_and_right, exists_or, exists_eq_left]

namespace RoutePattern

/-- **A catch-all accepts every continuation without line ends**, and no others: what is
    behind what the pattern matches has none. Behind all other routes of a table it matches
    whatever rooted path they leave over, line ends apart. -/
theorem catchAll_accepts {name : String} (hname : Template.IsName name) (set : ConstraintSet) :
    (∀ template p, compile set template = .ok p →
      (∀ other ∈ p.parameters, other.constraints = [] ∧ other.isCatchAll = false) →
      name ∉ p.parameters.map Parameter.name →
      ∃ q, compile set (template ++ "/" ++ Template.remainder name) = .ok q ∧
        (∀ path normal xs, p.isMatch path → Path.normalize path = some normal →
          (∀ x ∈ xs, x ≠ "" ∧ '/' ∉ x.toList ∧ '\n' ∉ x.toList) →
          q.isMatch (normal ++ "/" ++ Text.join "/" xs)) ∧
        ∀ path, Path.isRooted path.toList →
          (q.isMatch path ↔ ∃ front back, solidPieces '/' path.toList = front ++ back ∧
            p.isMatch (String.ofList (ofPieces front)) ∧ ∀ piece ∈ back, '\n' ∉ piece)) ∧
    ∃ last, compile set ("/" ++ Template.remainder name) = .ok last ∧
      ∀ (table : RouteTable) name? path, Path.isRooted path.toList →
        (((table.push ⟨name?, last⟩).match? path).isSome ↔
          (table.match? path).isSome ∨ '\n' ∉ path.toList) := by
  constructor
  · intro template p hcompile hplain hfresh
    have hwhole := compile_remainder hcompile (fun other hother => (hplain other hother).2) hname
      hfresh
    refine ⟨_, hwhole, ?_, ?_⟩
    · intro path normal xs hmatch hnormal hxs
      exact isMatch_continued hcompile hplain rfl rfl rfl hmatch hnormal hxs
    · intro path hrooted
      exact isMatch_followedBy_iff hcompile hplain rfl rfl rfl hrooted
  · have hempty : compile set "" = .ok ⟨"", []⟩ := compile_of_outline Template.outline_empty rfl
    have hwhole := compile_remainder hempty (by simp [parameters]) hname (by simp [parameters])
    rw [String.empty_append] at hwhole
    refine ⟨_, hwhole, ?_⟩
    intro table name? path hrooted
    rw [RouteTable.isSome_match?_push, isMatch_remainder_iff rfl rfl rfl hrooted]

theorem catchAll_accepts_lang :
    let lang : Parameter := ⟨"lang", .optional, [], none⟩
    let p : RoutePattern := ⟨"/\x7blang?\x7d", [⟨[.parameter lang]⟩]⟩
    compile .empty p.template = .ok p ∧ p.isMatch "//de/" ∧
      Path.normalize "//de/" = some "/de" ∧
      (∃ q, compile .empty (p.template ++ "/" ++ Template.remainder "r") = .ok q ∧
        q.isMatch ("/de" ++ "/" ++ Text.join "/" ["x", "y z"])) ∧
      ∃ last, compile .empty ("/" ++ Template.remainder "r") = .ok last ∧
        ((RouteTable.empty.push ⟨none, last⟩).match? "/de/x").isSome := by
  intro lang p
  have houtline : Template.outline p.template =
      .ok [⟨[.parameter ⟨"lang", .optional, [], none⟩]⟩] := by
    decide +kernel
  have hcompile : compile .empty p.template = .ok p := compile_of_outline houtline rfl
  have hparameters : p.parameters = [lang] := rfl
  have hplain : ∀ other ∈ p.parameters, other.constraints = [] ∧ other.isCatchAll = false := by
    rw [hparameters, List.forall_mem_singleton]
    exact ⟨rfl, rfl⟩
  have hname : Template.IsName "r" := ⟨'r', [], rfl, .inl rfl, by simp⟩
  have hfresh : "r" ∉ p.parameters.map Parameter.name := by
    rw [hparameters]
    decide
  have hmatch : p.isMatch "//de/" := by decide +kernel
  have hnormal : Path.normalize "//de/" = some "/de" := by decide +kernel
  have hxs : ∀ x ∈ ["x", "y z"], x ≠ "" ∧ '/' ∉ x.toList ∧ '\n' ∉ x.toList := by decide
  obtain ⟨hcontinued, last, hlast, htable⟩ := catchAll_accepts hname .empty
  obtain ⟨q, hq, hmatches, -⟩ := hcontinued p.template p hcompile hplain hfresh
  refine ⟨hcompile, hmatch, hnormal, ⟨q, hq, hmatches _ _ _ hmatch hnormal hxs⟩, last, hlast, ?_⟩
  exact (htable .empty none "/de/x" rfl).mpr (.inr (by decide))

/-- **Not every continuation is accepted**: all other parameters take a line end, and a
    catch-all does not. -/
theorem not_forall_catchAll_accepts :
    ¬ ∀ (template name : String) (p q : RoutePattern) (path normal : String) (xs : List String),
      Template.IsName name → compile .empty template = .ok p →
      (∀ other ∈ p.parameters, other.constraints = [] ∧ other.isCatchAll = false) →
      name ∉ p.parameters.map Parameter.name → p.isMatch path →
      Path.normalize path = some normal → xs ≠ [] → (∀ x ∈ xs, x ≠ "" ∧ '/' ∉ x.toList) →
      compile .empty (template ++ "/" ++ Template.remainder name) = .ok q →
      q.isMatch (normal ++ "/" ++ Text.join "/" xs) := by
  intro h
  let p : RoutePattern := ⟨"/docs", [⟨[.literal "docs"]⟩]⟩
  let q : RoutePattern := ⟨"/docs" ++ "/" ++ Template.remainder "r",
    Expression.followedBy p.segments (remainderOf "r")⟩
  have houtline : Template.outline p.template = .ok [⟨[.literal "docs"]⟩] := by decide +kernel
  have hcompile : compile .empty p.template = .ok p := compile_of_outline houtline rfl
  have hname : Template.IsName "r" := ⟨'r', [], rfl, .inl rfl, by simp⟩
  have hparameters : p.parameters = [] := rfl
  have hmatch : p.isMatch "/docs" := by decide +kernel
  have hnormal : Path.normalize "/docs" = some "/docs" := by decide +kernel
  have hq : compile .empty (p.template ++ "/" ++ Template.remainder "r") = .ok q :=
    compile_remainder hcompile (by simp [hparameters]) hname (by simp [hparameters])
  have hrejects : q.isMatch ("/docs" ++ "/" ++ Text.join "/" ["a\nb"]) = false := by
    decide +kernel
  have haccepts := h p.template "r" p q "/docs" "/docs" ["a\nb"] hname hcompile
    (by simp [hparameters]) (by simp [hparameters]) hmatch hnormal (by simp) (by decide) hq
  rw [hrejects] at haccepts
  cases haccepts

end RoutePattern

end Routing
