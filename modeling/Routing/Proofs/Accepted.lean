/-
  Routing/Proofs/Accepted.lean
  ============================
  **What an accepted template promises.**  The literals of a compiled pattern are
  not empty and have neither a slash nor a question mark, its parameters have
  different names, nothing follows a catch-all, and every parameter has the
  constraints and the default that its declaration asks for.

  The promise is kept part by part: `Accepted` says it of parts that follow given
  names, and each step of binding puts one more part in front.
-/
import Routing.Proofs.Validation
import Mathlib.Data.List.TakeWhile

namespace Routing

namespace Template

/-! ### Literals of a template -/

/-- The texts of literals: not empty, and within one segment. -/
def IsLiteral (text : String) : Prop :=
  text.toList ≠ [] ∧ '/' ∉ text.toList

theorem isLiteral_takeWhile {c : Char} (hc : c ≠ '/') (cs : List Char) :
    IsLiteral (String.ofList (c :: cs.takeWhile isLiteralChar)) := by
  rw [IsLiteral, String.toList_ofList]
  refine ⟨by simp, ?_⟩
  rw [List.mem_cons, not_or]
  refine ⟨Ne.symm hc, fun hmem => ?_⟩
  have hchar := List.mem_takeWhile_imp hmem
  simp [isLiteralChar] at hchar

def LiteralTokens (ts : List Spanned) : Prop :=
  ∀ t ∈ ts, ∀ text, t.token = .literal text → IsLiteral text

theorem LiteralTokens.cons {t : Spanned} {ts : List Spanned}
    (ht : ∀ text, t.token = .literal text → IsLiteral text) (hts : LiteralTokens ts) :
    LiteralTokens (t :: ts) := by
  intro t' ht' text htext
  rcases List.mem_cons.mp ht' with rfl | ht'
  · exact ht text htext
  · exact hts t' ht' text htext

theorem LiteralTokens.tail {t : Spanned} {ts : List Spanned} (h : LiteralTokens (t :: ts)) :
    LiteralTokens ts :=
  fun t' ht' => h t' (List.mem_cons_of_mem _ ht')

theorem literalTokens_scan {mode : Mode} {offset : Nat} {cs : List Char} {ts : List Spanned}
    (h : scan mode offset cs = .ok ts) : LiteralTokens ts := by
  -- a token before those of the rest of the template
  have step {scanned : Except TokenError (List Spanned)} {t : Spanned} {ts : List Spanned}
      (ih : ∀ {ts}, scanned = .ok ts → LiteralTokens ts)
      (ht : ∀ text, t.token = .literal text → IsLiteral text)
      (hmap : scanned.map (t :: ·) = .ok ts) : LiteralTokens ts := by
    obtain ⟨rest, hrest, rfl⟩ := Except.map_eq_ok.mp hmap
    exact (ih hrest).cons ht
  induction mode, offset, cs using scan_induction generalizing ts with
  | done =>
    cases h
    intro t ht
    cases ht
  | unterminated | badArgument => cases h
  | literal _ c rest hslash _ ih =>
    refine step ih ?_ h
    intro text htext
    cases htext
    exact isLiteral_takeWhile hslash rest
  | slash _ _ ih | openBrace _ _ ih | closeBrace _ _ _ ih | colon _ _ _ ih | equals _ _ _ ih
  | quantifier _ _ _ _ _ ih | argument _ _ _ _ _ _ ih | word _ _ _ _ _ _ _ _ _ _ ih
  | stray _ _ _ _ _ _ _ _ _ _ ih => exact step ih (by simp) h

/-! ### What a reader leaves is the end of what it was given -/

theorem readClauseArgument_suffix {stop : Nat} {ts rest : List Spanned}
    {argument? : Option String} (h : readClauseArgument stop ts = .ok (argument?, rest)) :
    rest <:+ ts := by
  cases ts with
  | nil => cases h
  | cons t ts =>
    rw [readClauseArgument] at h
    split at h
    · obtain ⟨_, -, hrest⟩ := Except.bind_eq_ok.mp h
      cases hrest
      exact List.suffix_cons t rest
    · cases h
      exact List.suffix_rfl
    · cases h
      exact List.suffix_rfl
    · cases h

theorem readClause_suffix {stop colon : Nat} {ts rest : List Spanned} {clause : Clause}
    (h : readClause stop colon ts = .ok (clause, rest)) : rest <:+ ts := by
  cases ts with
  | nil => cases h
  | cons t ts =>
    have named {name : String}
        (h : (readClauseArgument stop ts >>= fun read => Except.ok (Clause.mk name read.1, read.2)) =
          .ok (clause, rest)) : rest <:+ t :: ts := by
      obtain ⟨⟨argument?, left⟩, hargument, hrest⟩ := Except.bind_eq_ok.mp h
      cases hrest
      exact (readClauseArgument_suffix hargument).trans (List.suffix_cons t ts)
    have unnamed
        (h : (readClauseArgument stop (t :: ts) >>= fun read =>
          if read.1.getD "" = "" then .error ⟨.emptyConstraint, colon⟩
          else Except.ok (Clause.mk "" read.1, read.2)) = .ok (clause, rest)) :
        rest <:+ t :: ts := by
      obtain ⟨⟨argument?, left⟩, hargument, hrest⟩ := Except.bind_eq_ok.mp h
      split at hrest
      · cases hrest
      · cases hrest
        exact readClauseArgument_suffix hargument
    simp only [readClause] at h
    split at h
    · exact named h
    · split at h
      · exact named h
      · cases h
    · exact unnamed h
    · exact unnamed h
    · exact unnamed h
    · cases h

theorem readClauses_suffix {stop : Nat} {ts rest : List Spanned} {clauses : List Clause}
    (h : readClauses stop ts = .ok (clauses, rest)) : rest <:+ ts := by
  induction ts using readClauses_induction stop generalizing clauses rest with
  | noTokens | badClause | other => cases h
  | close t ts =>
    cases h
    exact List.suffix_cons t ts
  | clause t ts _ clause left hclause ih =>
    obtain ⟨⟨others, left⟩, hothers, heq⟩ := Except.map_eq_ok.mp h
    cases heq
    exact ((ih hothers).trans (readClause_suffix hclause)).trans (List.suffix_cons t ts)

theorem readQuantifier_suffix {stop : Nat} {ts rest : List Spanned} {q : Quantifier}
    (h : readQuantifier stop ts = .ok (q, rest)) : rest <:+ ts := by
  cases ts with
  | nil => simp only [readQuantifier, reduceCtorEq] at h
  | cons t ts =>
    obtain ⟨token, start, last⟩ := t
    cases token with
    | quantifier mark =>
      simp only [readQuantifier] at h
      obtain ⟨_, -, hmark⟩ := Except.bind_eq_ok.mp h
      split at hmark
      · cases hmark
        exact List.suffix_cons _ rest
      · cases hmark
    | colon | closeBrace =>
      simp only [readQuantifier, Except.ok.injEq, Prod.mk.injEq] at h
      exact h.2 ▸ List.suffix_rfl
    | _ => simp [readQuantifier] at h

theorem readParameter_suffix {stop : Nat} {ts rest : List Spanned} {p : ParameterNode}
    (h : readParameter stop ts = .ok (p, rest)) : rest <:+ ts := by
  cases ts with
  | nil => cases h
  | cons t ts =>
    rw [readParameter] at h
    split at h
    · split at h
      · obtain ⟨⟨q, afterMark⟩, hquantifier, h⟩ := Except.bind_eq_ok.mp h
        obtain ⟨⟨clauses, left⟩, hclauses, hrest⟩ := Except.bind_eq_ok.mp h
        cases hrest
        exact ((readClauses_suffix hclauses).trans (readQuantifier_suffix hquantifier)).trans
          (List.suffix_cons t ts)
      · cases h
    · cases h

/-! ### Literals of an outline -/

def LiteralParts (parts : List PartNode) : Prop :=
  ∀ text, .literal text ∈ parts → IsLiteral text

theorem LiteralParts.append_literal {parts : List PartNode} {text : String}
    (hparts : LiteralParts parts) (htext : IsLiteral text) :
    LiteralParts (parts ++ [.literal text]) := by
  intro other hother
  rcases List.mem_append.mp hother with h | h
  · exact hparts other h
  · cases List.mem_singleton.mp h
    exact htext

theorem LiteralParts.append_parameter {parts : List PartNode} (p : ParameterNode)
    (hparts : LiteralParts parts) : LiteralParts (parts ++ [.parameter p]) := by
  intro text htext
  rcases List.mem_append.mp htext with h | h
  · exact hparts text h
  · cases List.mem_singleton.mp h

theorem literalParts_segmentOf {parts : List PartNode} (hparts : LiteralParts parts) :
    ∀ s ∈ segmentOf parts, LiteralParts s.parts := by
  intro s hs
  rw [segmentOf] at hs
  split at hs
  · cases hs
  · cases List.mem_singleton.mp hs
    exact hparts

theorem literalParts_readSegments {stop : Nat} {parts : List PartNode} {ts : List Spanned}
    {segments : List SegmentNode} (h : readSegments stop parts ts = .ok segments)
    (hparts : LiteralParts parts) (hts : LiteralTokens ts) :
    ∀ s ∈ segments, LiteralParts s.parts := by
  induction parts, ts using readSegments_induction stop generalizing segments with
  | done =>
    cases h
    exact literalParts_segmentOf hparts
  | badParameter | other => cases h
  | slash parts t ts hslash ih =>
    obtain ⟨rest, hrest, rfl⟩ := Except.map_eq_ok.mp h
    intro s hs
    rcases List.mem_append.mp hs with hs | hs
    · exact literalParts_segmentOf hparts s hs
    · exact ih hrest (fun _ hnil => absurd hnil List.not_mem_nil) hts.tail s hs
  | literal parts t ts text htext ih =>
    exact ih h (hparts.append_literal (hts t List.mem_cons_self text htext)) hts.tail
  | parameter parts t ts hbrace p rest hp ih =>
    refine ih h (hparts.append_parameter p) fun t' ht' => ?_
    exact hts.tail t' ((readParameter_suffix hp).subset ht')

/-- **The literals of an outline are not empty and have no slash.** -/
theorem literalParts_outline {template : String} {segments : List SegmentNode}
    (h : outline template = .ok segments) : ∀ s ∈ segments, LiteralParts s.parts := by
  rw [outline] at h
  split at h
  · cases h
  · next ts hts =>
    exact literalParts_readSegments h (fun _ hnil => absurd hnil List.not_mem_nil)
      (literalTokens_scan hts)

end Template

open Template (LiteralParts IsLiteral ParameterNode PartNode SegmentNode)

/-! ### Parameters -/

/-- Nothing may follow the part. -/
def Part.isCatchAll (part : Part) : Bool :=
  part.parameter?.any Parameter.isCatchAll

/-- A catch-all among accepted parts is the last of them. -/
theorem eq_nil_of_isCatchAll {part : Part} {rest : List Part}
    (hcatchAll : ∀ other ∈ rest, part.isCatchAll = false) (h : part.isCatchAll) : rest = [] := by
  cases rest with
  | nil => rfl
  | cons next rest =>
    rw [hcatchAll next List.mem_cons_self] at h
    cases h

def namesOf (parts : List Part) : List String :=
  (parts.filterMap Part.parameter?).map Parameter.name

structure Parameter.Declared (set : ConstraintSet) (p : Parameter) : Prop where
  constraints : ∀ c ∈ p.constraints, ∃ name argument, set.create name argument = .ok c
  default? : ∃ declared, p.default? = effectiveDefault p.quantifier declared

/-- A declared parameter has an empty default only if it is marked `*`. -/
theorem Parameter.Declared.default_ne {set : ConstraintSet} {p : Parameter} {text : String}
    (h : p.Declared set) (hdefault : p.default? = some text)
    (hquantifier : p.quantifier ≠ .zeroOrMore) : text ≠ "" := by
  obtain ⟨declared, heq⟩ := h.default?
  rw [effectiveDefault, if_neg hquantifier, hdefault] at heq
  obtain ⟨-, hne⟩ := Option.filter_eq_some_iff.mp heq.symm
  rintro rfl
  simp at hne

/-- What a declaration describes has what it asks for. -/
theorem Template.ParameterNode.Binds.declared {set : ConstraintSet} {node : ParameterNode}
    {p : Parameter} (h : node.Binds set p) : p.Declared set := by
  refine ⟨fun c hc => ?_, node.default?, ?_⟩
  · obtain ⟨asked, -, hmakes⟩ := exists_left_of_forall₂ h.constraints c hc
    exact ⟨asked.name, asked.argument, hmakes.create⟩
  · exact eq_effectiveDefault_iff.mpr ⟨h.default_zeroOrMore, h.default_other⟩

/-! ### Parts -/

/-- What compiling makes sure of, for parts after parameters with the names `seen`. -/
structure Accepted (set : ConstraintSet) (seen : List String) (parts : List Part) : Prop where
  literal : ∀ text, .literal text ∈ parts → IsLiteral text ∧ '?' ∉ text.toList
  declared : ∀ p, .parameter p ∈ parts → p.Declared set
  nodup : (namesOf parts).Nodup
  fresh : ∀ name ∈ namesOf parts, name ∉ seen
  catchAll : parts.Pairwise fun part _ => part.isCatchAll = false

namespace Accepted

variable {set : ConstraintSet} {seen : List String} {parts : List Part}

theorem nil : Accepted set seen [] := by
  refine ⟨?_, ?_, .nil, ?_, .nil⟩ <;> simp [namesOf]

theorem literal_cons {text : String} (hliteral : IsLiteral text)
    (hquestion : '?' ∉ text.toList) (h : Accepted set seen parts) :
    Accepted set seen (.literal text :: parts) := by
  refine ⟨?_, ?_, h.nodup, h.fresh, ?_⟩
  · intro other hother
    rcases List.mem_cons.mp hother with heq | hother
    · cases heq
      exact ⟨hliteral, hquestion⟩
    · exact h.literal other hother
  · intro p hp
    exact h.declared p (List.mem_of_ne_of_mem (by simp) hp)
  · exact List.pairwise_cons.mpr ⟨fun _ _ => rfl, h.catchAll⟩

theorem parameter_cons {p : Parameter} (hdeclared : p.Declared set) (hfresh : p.name ∉ seen)
    (hlast : p.isCatchAll → parts = []) (h : Accepted set (p.name :: seen) parts) :
    Accepted set seen (.parameter p :: parts) := by
  have hnames : namesOf (.parameter p :: parts) = p.name :: namesOf parts := rfl
  refine ⟨?_, ?_, ?_, ?_, ?_⟩
  · intro text htext
    exact h.literal text (List.mem_of_ne_of_mem (by simp) htext)
  · intro other hother
    rcases List.mem_cons.mp hother with heq | hother
    · cases heq
      exact hdeclared
    · exact h.declared other hother
  · rw [hnames, List.nodup_cons]
    exact ⟨fun hmem => h.fresh p.name hmem List.mem_cons_self, h.nodup⟩
  · rw [hnames]
    intro name hname
    rcases List.mem_cons.mp hname with rfl | hname
    · exact hfresh
    · exact fun hmem => h.fresh name hname (List.mem_cons_of_mem _ hmem)
  · refine List.pairwise_cons.mpr ⟨fun part hpart => ?_, h.catchAll⟩
    by_contra hcatchAll
    rw [hlast (by simpa [Part.isCatchAll, Part.parameter?] using hcatchAll)] at hpart
    cases hpart

end Accepted

/-- **Allowed parts bind to accepted parts**, after the names that were declared before. -/
theorem accepted_of_binds {set : ConstraintSet} {before nodes : List PartNode}
    {parts : List Part} (hallowed : AllAllowed set [] before nodes)
    (hbinds : List.Forall₂ (PartNode.Binds set) nodes parts) (hnodes : LiteralParts nodes) :
    Accepted set (declaredNames before).reverse parts := by
  induction hbinds generalizing before with
  | nil => exact .nil
  | @cons node part rest parts hpart hbinds ih =>
    rw [AllAllowed, List.append_nil] at hallowed
    have hrest : LiteralParts rest := fun text htext => hnodes text (List.mem_cons_of_mem _ htext)
    have hparts := ih hallowed.2 hrest
    cases hpart with
    | literal text =>
      obtain ⟨⟨hquestion⟩, -⟩ := hallowed
      rw [names_literal] at hparts -- a literal declares no name
      exact hparts.literal_cons (hnodes text List.mem_cons_self) hquestion
    | @parameter node p hnode =>
      obtain ⟨hlast, hfresh, -⟩ := PartNode.allowed_parameter_iff.mp hallowed.1
      rw [names_parameter, ← hnode.name] at hparts
      refine hparts.parameter_cons hnode.declared (by simpa [hnode.name] using hfresh) fun h => ?_
      -- an allowed catch-all has no node behind it, and so no part
      cases hlast (by rw [← hnode.quantifier]; exact h)
      cases hbinds
      rfl

/-! ### Segments -/

/-- Of several parts in a segment, one must have something in a path. -/
def Segment.Anchored (s : Segment) : Prop :=
  1 < s.parts.length → ∃ part ∈ s.parts, part.isOptional = false

theorem Template.PartNode.Binds.isOptional_eq {set : ConstraintSet} {node : PartNode}
    {part : Part} (h : node.Binds set part) : part.isOptional = node.isOptional := by
  cases h with
  | literal text => rfl
  | parameter h => exact congrArg Quantifier.isOptional h.quantifier

/-- Binding keeps the marks, so that a segment with something required stays one. -/
theorem Template.SegmentNode.Binds.anchored {set : ConstraintSet} {node : SegmentNode}
    {s : Segment} (h : node.Binds set s) (hnode : ¬ node.AllOptional) : s.Anchored := by
  intro hseveral
  by_contra hnone
  push Not at hnone
  refine hnode (isAllOptional_iff.mp ?_)
  rw [isAllOptional, Bool.and_eq_true, decide_eq_true_eq, List.all_eq_true, h.length_eq]
  refine ⟨hseveral, fun node hmem => ?_⟩
  obtain ⟨part, hpart, hbinds⟩ := exists_right_of_forall₂ h node hmem
  rw [← hbinds.isOptional_eq]
  simpa using hnone part hpart

namespace RoutePattern

def parts (p : RoutePattern) : List Part :=
  p.segments.flatMap Segment.parts

theorem parameters_eq (p : RoutePattern) : p.parameters = p.parts.filterMap Part.parameter? := by
  rw [parts, List.filterMap_flatMap]
  rfl

theorem mem_parameters {p : RoutePattern} {q : Parameter} :
    q ∈ p.parameters ↔ .parameter q ∈ p.parts := by
  rw [parameters_eq, List.mem_filterMap]
  constructor
  · rintro ⟨part, hpart, hparameter⟩
    cases part with
    | literal text => cases hparameter
    | parameter q' =>
      cases hparameter
      exact hpart
  · intro hpart
    exact ⟨.parameter q, hpart, rfl⟩

theorem compile_of_outline {set : ConstraintSet} {template : String}
    {outline : List SegmentNode} {segments : List Segment}
    (houtline : Template.outline template = .ok outline) (hbind : bind set outline = .ok segments) :
    compile set template = .ok ⟨template, segments⟩ := by
  unfold compile
  simp only [houtline, hbind]

/-- A compiled template has a valid outline, which its segments are made from. -/
theorem compile_eq_ok {set : ConstraintSet} {template : String} {p : RoutePattern}
    (h : compile set template = .ok p) :
    ∃ outline, Template.outline template = .ok outline ∧ ValidOutline set outline ∧
      List.Forall₂ (SegmentNode.Binds set) outline p.segments := by
  unfold compile at h
  split at h
  · cases h
  · next outline houtline =>
    split at h
    · cases h
    · next segments hbind =>
      cases h
      exact ⟨outline, houtline, bind_eq_ok_iff.mp hbind⟩

/-- **Every compiled pattern has accepted parts.** -/
theorem accepted_compile {set : ConstraintSet} {template : String} {p : RoutePattern}
    (h : compile set template = .ok p) : Accepted set [] p.parts := by
  obtain ⟨outline, houtline, hvalid, hbinds⟩ := compile_eq_ok h
  have hparts : List.Forall₂ (PartNode.Binds set) (partsOf outline) p.parts :=
    List.rel_flatMap hbinds fun _ _ hsegment => hsegment
  refine accepted_of_binds (validOutline_iff.mp hvalid).2 hparts fun text htext => ?_
  obtain ⟨s, hs, hmem⟩ := List.mem_flatMap.mp htext
  exact Template.literalParts_outline houtline s hs text hmem

theorem anchored_compile {set : ConstraintSet} {template : String} {p : RoutePattern}
    (h : compile set template = .ok p) : ∀ s ∈ p.segments, s.Anchored := by
  obtain ⟨outline, -, hvalid, hbinds⟩ := compile_eq_ok h
  intro s hs
  obtain ⟨node, hnode, hsegment⟩ := exists_left_of_forall₂ hbinds s hs
  exact hsegment.anchored fun hall => hvalid.anchored ⟨node, hnode, hall⟩

end RoutePattern

end Routing
