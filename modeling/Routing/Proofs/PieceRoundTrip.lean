/-
  Routing/Proofs/PieceRoundTrip.lean
  ==================================
  **Building a path from a match keeps the match.**  Where every segment has one
  part, a built path has the pieces of the first path, each read and written again.
  Reading and writing changes what a piece looks like but not how many pieces there
  are, and the walk along the pieces looks at a piece only where a literal stands
  or for line ends, which are never written. So the walk goes the same way, and
  every parameter reads what it read before.

  An optional parameter gives up its piece when the parts after it need it. They
  need it for their number only if no literal is among them: `Assigns.exists_tail`
  and `Assigns.least_le`.
-/
import Routing.Proofs.RebuiltPath

namespace Routing

open Text (IsPiece solidPieces)

/-! ### How many pieces parts need -/

/-- The number of pieces that the part cannot do without. -/
def Part.least : Part → Nat
  | .literal _ => 1
  | .parameter p =>
    match p.quantifier with
    | .required | .oneOrMore => 1
    | .optional | .zeroOrMore => 0

def least : List Part → Nat
  | [] => 0
  | part :: rest => part.least + least rest

theorem Part.least_parameter_le_one (p : Parameter) : Part.least (.parameter p) ≤ 1 := by
  cases hquantifier : p.quantifier <;> simp [Part.least, hquantifier]

/-- The walk needs a piece for each part that cannot do without. -/
theorem Assigns.least_le {parts : List Part} {pieces : List (List Char)}
    {received : List (List (List Char))} (h : Assigns parts pieces received) :
    least parts ≤ pieces.length := by
  induction h with
  | nil => exact Nat.le_refl 0
  | literal _ ih =>
    simp only [least, Part.least, List.length_cons]
    omega
  | @onePiece p _ _ _ _ _ _ ih =>
    have hone := Part.least_parameter_le_one p
    simp only [least, List.length_cons]
    omega
  | noPiece hoptional _ _ ih => simpa [least, Part.least, hoptional] using ih
  | @catchAll p _ pieces _ hcatchAll hsome _ _ ih =>
    rw [least, Nat.le_zero.mp ih, Nat.add_zero]
    cases hquantifier : p.quantifier with
    | required | optional => cases hcatchAll.symm.trans (congrArg Quantifier.isCatchAll hquantifier)
    | zeroOrMore => simp [Part.least, hquantifier]
    | oneOrMore =>
      simp only [Part.least, hquantifier]
      exact List.length_pos_iff.mpr (hsome hquantifier)

/-- An optional parameter in front is content with what the parts after it can have. -/
theorem Assigns.exists_optional {p : Parameter} (hoptional : p.quantifier = .optional)
    {rest : List Part} {pieces : List (List Char)} {received : List (List (List Char))}
    (h : Assigns rest pieces received) :
    ∃ received, Assigns (.parameter p :: rest) pieces received := by
  by_cases hneeded : ∀ piece tail, pieces = piece :: tail → assign rest tail = none
  · exact ⟨[] :: received, .noPiece hoptional hneeded h⟩
  · simp only [not_forall] at hneeded
    obtain ⟨piece, tail, rfl, hne⟩ := hneeded
    obtain ⟨others, hothers⟩ := Option.ne_none_iff_exists'.mp hne
    exact ⟨[piece] :: others,
      .onePiece (congrArg Quantifier.isCatchAll hoptional) (assign_eq_some_iff.mp hothers)⟩

/-- **Without literals, parts can do with one piece less unless that is too few.** -/
theorem Assigns.exists_tail {parts : List Part} (hparts : ∀ part ∈ parts, part.parameter?.isSome)
    {piece : List Char} {pieces : List (List Char)} {received : List (List (List Char))}
    (h : Assigns parts (piece :: pieces) received) (hleast : least parts ≤ pieces.length) :
    ∃ others, Assigns parts pieces others := by
  generalize hall : piece :: pieces = all at h
  induction h generalizing piece pieces with
  | nil => cases hall
  | literal => cases hparts _ List.mem_cons_self
  | @onePiece p rest _ left _ hscalar hrest ih =>
    cases hall
    cases hquantifier : p.quantifier with
    | optional => exact hrest.exists_optional hquantifier
    | zeroOrMore | oneOrMore =>
      cases hscalar.symm.trans (congrArg Quantifier.isCatchAll hquantifier)
    | required =>
      -- the parameter takes the next piece, and the parts after it have one piece less
      simp only [least, Part.least, hquantifier] at hleast
      cases left with
      | nil => simp at hleast
      | cons next tail =>
        obtain ⟨others, hothers⟩ := ih (fun part hpart => hparts part (List.mem_cons_of_mem _ hpart))
          (by rw [List.length_cons] at hleast; omega) rfl
        exact ⟨[next] :: others, .onePiece hscalar hothers⟩
  | noPiece hoptional _ _ ih =>
    obtain ⟨others, hothers⟩ := ih (fun part hpart => hparts part (List.mem_cons_of_mem _ hpart))
      (by simpa [least, Part.least, hoptional] using hleast) hall
    exact hothers.exists_optional hoptional
  | @catchAll p _ _ received hcatchAll hsome hplain hrest =>
    cases hall
    refine ⟨pieces :: received, .catchAll hcatchAll ?_ ?_ hrest⟩
    · rintro hquantifier rfl
      simp [least, Part.least, hquantifier] at hleast
    · exact fun text htext => hplain text (List.mem_cons_of_mem _ htext)

/-- Parts without literals that could not do with one piece less could not with as many other
    pieces either. -/
theorem Assigns.tail_eq_none {parts : List Part}
    (hparts : ∀ part ∈ parts, part.parameter?.isSome) {piece : List Char}
    {pieces tail : List (List Char)} {received : List (List (List Char))}
    (h : Assigns parts (piece :: pieces) received) (hnone : assign parts pieces = none)
    (hlength : tail.length = pieces.length) : assign parts tail = none := by
  rw [Option.eq_none_iff_forall_ne_some] at hnone ⊢
  intro found hfound
  have hleast := (assign_eq_some_iff.mp hfound).least_le
  rw [hlength] at hleast
  obtain ⟨others, hothers⟩ := h.exists_tail hparts hleast
  exact hnone others hothers.assign_eq

/-! ### Pieces written again -/

/-- The pieces of a path in which the parameters take the given ones. -/
def laidOut : List Part → List (List (List Char)) → List (List Char)
  | .literal text :: rest, received => text.toList :: laidOut rest received
  | .parameter _ :: rest, taken :: received => taken ++ laidOut rest received
  | _, _ => []

def rewritten (piece : List Char) : List Char :=
  (Text.Percent.encode (Text.Percent.decode (String.ofList piece))).toList

theorem newline_not_mem_rewritten (piece : List Char) : '\n' ∉ rewritten piece :=
  Text.Percent.not_mem_encode _ (by decide) (by decide)

/-- The walk takes the pieces as they stand. -/
theorem Assigns.laidOut_eq {parts : List Part} {pieces : List (List Char)}
    {received : List (List (List Char))} (h : Assigns parts pieces received) :
    laidOut parts received = pieces := by
  induction h with
  | nil => rfl
  | literal _ ih | onePiece _ _ ih => rw [laidOut, ih] <;> rfl
  | noPiece _ _ _ ih => rw [laidOut, ih, List.nil_append]
  | catchAll _ _ _ _ ih => rw [laidOut, ih, List.append_nil]

theorem length_laidOut_map (f : List Char → List Char) (parts : List Part)
    (received : List (List (List Char))) :
    (laidOut parts (received.map (List.map f))).length = (laidOut parts received).length := by
  induction parts generalizing received with
  | nil => rfl
  | cons part rest ih =>
    cases part with
    | literal text => rw [laidOut, laidOut, List.length_cons, List.length_cons, ih]
    | parameter p =>
      cases received with
      | nil => rfl
      | cons taken received =>
        rw [List.map_cons, laidOut, laidOut, List.length_append, List.length_append,
          List.length_map, ih]

/-- Parts without literals that need the first of their pieces need it after the pieces were
    changed too. -/
theorem Assigns.needed_map (f : List Char → List Char) {parts : List Part}
    (hparts : ∀ part ∈ parts, part.parameter?.isSome) {pieces : List (List Char)}
    {received : List (List (List Char))} (h : Assigns parts pieces received)
    (hneeded : ∀ piece tail, pieces = piece :: tail → assign parts tail = none) :
    ∀ piece tail, laidOut parts (received.map (List.map f)) = piece :: tail →
      assign parts tail = none := by
  intro first tail hlaid
  have hlength : pieces.length = tail.length + 1 := by
    rw [← h.laidOut_eq, ← length_laidOut_map f, hlaid, List.length_cons]
  obtain ⟨piece, rest, rfl⟩ := List.exists_cons_of_length_eq_add_one hlength
  exact h.tail_eq_none hparts (hneeded piece rest rfl) (Nat.succ.inj hlength).symm

/-- **The walk goes the same way along pieces that were changed**, if literals come first and
    no piece gets a line end. -/
theorem Assigns.map {f : List Char → List Char} (hf : ∀ piece, '\n' ∉ f piece)
    {parts : List Part} (horder : parts.Pairwise fun part later =>
      part.isOptional → later.parameter?.isSome)
    {pieces : List (List Char)} {received : List (List (List Char))}
    (h : Assigns parts pieces received) :
    Assigns parts (laidOut parts (received.map (List.map f))) (received.map (List.map f)) := by
  induction h with
  | nil => exact .nil
  | literal _ ih => exact .literal (ih horder.of_cons)
  | onePiece hscalar _ ih => exact .onePiece hscalar (ih horder.of_cons)
  | @noPiece p _ _ _ hoptional hneeded hrest ih =>
    obtain ⟨hparts, horder⟩ := List.pairwise_cons.mp horder
    have hmay : Part.isOptional (.parameter p) := congrArg Quantifier.isOptional hoptional
    exact .noPiece hoptional
      (hrest.needed_map f (fun part hpart => hparts part hpart hmay) hneeded) (ih horder)
  | @catchAll p rest pieces received hcatchAll hsome _ hrest ih =>
    -- what is left for the parts after a catch-all is nothing, before and after
    have hnone : laidOut rest (received.map (List.map f)) = [] := by
      rw [← List.length_eq_zero_iff, length_laidOut_map, hrest.laidOut_eq]
      rfl
    have hrest := ih horder.of_cons
    rw [hnone] at hrest
    rw [List.map_cons, laidOut, hnone, List.append_nil]
    refine .catchAll hcatchAll (fun hq => by simpa using hsome hq) ?_ hrest
    intro text htext
    obtain ⟨piece, -, rfl⟩ := List.mem_map.mp htext
    exact hf piece

/-! ### Reading what was written -/

theorem Parameter.receive?_rewritten (p : Parameter) (taken : List (List Char)) :
    p.receive? (taken.map rewritten) = p.receive? taken := by
  have hread (piece : List Char) : Text.Percent.decode (String.ofList (rewritten piece)) =
      Text.Percent.decode (String.ofList piece) := by
    rw [rewritten, String.ofList_toList, Text.Percent.decode_encode]
  unfold receive?
  simp only [List.isEmpty_map, List.map_map, Function.comp_def, hread]

theorem receiveAll?_rewritten (parameters : List Parameter) (received : List (List (List Char))) :
    receiveAll? parameters (received.map (List.map rewritten)) =
      receiveAll? parameters received := by
  induction parameters generalizing received with
  | nil => cases received <;> rfl
  | cons p rest ih =>
    cases received with
    | nil => rfl
    | cons taken received => rw [List.map_cons, receiveAll?, receiveAll?, p.receive?_rewritten, ih]

theorem Parameter.isEmpty_of_texts {p : Parameter} {value : Value} (hne : p.texts value ≠ [])
    (htexts : ∀ text ∈ p.texts value, text ≠ "") : value.isEmpty = false := by
  unfold texts at hne htexts
  cases value with
  | bool b => rfl
  | int n => rfl
  | number x => rfl
  | text s => split at htexts <;> simpa [Value.toItems, Value.toText, Value.isEmpty] using htexts
  | list items =>
    cases items with
    | nil =>
      split at htexts
      · next hcatchAll => simp [hcatchAll, Value.toItems] at hne
      · exact absurd rfl (htexts _ List.mem_cons_self)
    | cons item items => rfl

theorem Parameter.texts_of_free {p : Parameter} (hfree : p.constraints = []) {texts : List String}
    (hone : p.isCatchAll = false → texts.length ≤ 1) {value : Value}
    (h : p.valueOf? texts = some value) : p.texts value = texts := by
  have hconstrain (v : Value) : p.constrain v = some v := by
    unfold constrain
    rw [hfree]
    rfl
  unfold valueOf? at h
  unfold Parameter.texts
  simp only [hconstrain] at h
  split at h
  · next hcatchAll =>
    obtain ⟨items, hitems, rfl⟩ := Option.map_eq_some_iff.mp h
    have hpure : texts.mapM (fun text => some (Value.text text)) = some (texts.map Value.text) :=
      List.mapM_pure
    rw [hpure] at hitems
    cases hitems
    simp [hcatchAll, Value.toItems, Function.comp_def, Value.toText]
  · next hscalar =>
    have hlength := hone (by simpa using hscalar)
    cases texts with
    | nil => cases h
    | cons text others =>
      cases List.eq_nil_of_length_eq_zero (Nat.le_zero.mp (Nat.le_of_succ_le_succ hlength))
      cases h
      rw [if_neg hscalar, Value.toText]

/-- What a parameter without constraints and without a declared default reads from its
    pieces is written as these pieces again. -/
theorem Parameter.pieces_of_receive? {p : Parameter} (hfree : p.constraints = [])
    (hdefault : p.default? = effectiveDefault p.quantifier none) {taken : List (List Char)}
    (hcan : p.CanTake taken) {outcome : ParamValue} (h : p.receive? taken = some outcome)
    {given : RouteValues} (hget : given.get? p.name = outcome.value?) :
    Part.pieces given (.parameter p) = taken.map rewritten := by
  obtain ⟨hpieces, hone⟩ := hcan
  have hnothing (hunused : p.used? given = none) : Part.pieces given (.parameter p) = [] := by
    unfold Part.pieces
    simp only [hunused]
  unfold receive? at h
  split at h
  · next hempty => -- without pieces the value is the default, which is not written
    rw [List.isEmpty_iff.mp hempty]
    apply hnothing
    by_cases hquantifier : p.quantifier = .zeroOrMore
    · have hcatchAll : p.isCatchAll := by
        simp [isCatchAll, hquantifier, Quantifier.isCatchAll]
      have hsome : p.default? = some "" := by
        rw [hdefault, hquantifier]
        rfl
      have hlist : Text.splitSolid '/' "" = [] := rfl
      simp only [hsome, hcatchAll, if_true, hlist] at h
      obtain ⟨value, hvalue, rfl⟩ := Option.map_eq_some_iff.mp h
      rw [valueOf?, if_pos hcatchAll] at hvalue
      cases hvalue
      -- the list without items counts as no value, and the default has none either
      simp [used?, hget, ParamValue.value?, defaultValue?, hsome, hcatchAll, hlist, Value.isEmpty]
    · have hnone : p.default? = none := by
        rw [hdefault, effectiveDefault, if_neg hquantifier]
        rfl
      rw [hnone] at h
      cases h
      simp [used?, hget, ParamValue.value?, defaultValue?, hnone]
  · next hne => -- pieces are decoded one by one, and none of the texts is empty
    obtain ⟨value, hvalue, rfl⟩ := Option.map_eq_some_iff.mp h
    have htexts := texts_of_free hfree (by simpa using hone) hvalue
    have hempty : value.isEmpty = false := by
      apply p.isEmpty_of_texts
      · simpa [htexts] using hne
      · rw [htexts]
        intro text htext
        obtain ⟨piece, hpiece, rfl⟩ := List.mem_map.mp htext
        rw [Ne, Text.Percent.decode_eq_empty]
        simpa [String.ext_iff] using (hpieces piece hpiece).1
    have hused : p.used? given = some value := by
      unfold used?
      rw [hget]
      simp [ParamValue.value?, hempty]
    rw [Part.pieces_parameter hused, writtenPieces, htexts, List.map_map]
    rfl

theorem pieces_of_receiveAll? {parameters : List Parameter} {received : List (List (List Char))}
    (hfree : ∀ p ∈ parameters, p.constraints = [])
    (hdefault : ∀ p ∈ parameters, p.default? = effectiveDefault p.quantifier none)
    (hcan : List.Forall₂ Parameter.CanTake parameters received)
    {entries : List (String × ParamValue)} (h : receiveAll? parameters received = some entries)
    {given : RouteValues} (hget : ∀ entry ∈ entries, given.get? entry.1 = entry.2.value?) :
    List.Forall₂ (fun p taken => Part.pieces given (.parameter p) = taken.map rewritten)
      parameters received := by
  induction hcan generalizing entries with
  | nil => exact .nil
  | @cons p taken rest received hfirst _ ih =>
    rw [receiveAll?] at h
    obtain ⟨outcome, houtcome, h⟩ := Option.bind_eq_some_iff.mp h
    obtain ⟨others, hothers, h⟩ := Option.bind_eq_some_iff.mp h
    cases h
    refine .cons ?_ (ih ?_ ?_ hothers ?_)
    · exact Parameter.pieces_of_receive? (hfree p List.mem_cons_self)
        (hdefault p List.mem_cons_self) hfirst houtcome (hget _ List.mem_cons_self)
    · exact fun q hq => hfree q (List.mem_cons_of_mem _ hq)
    · exact fun q hq => hdefault q (List.mem_cons_of_mem _ hq)
    · exact fun entry hentry => hget entry (List.mem_cons_of_mem _ hentry)

theorem flatMap_pieces {given : RouteValues} {parts : List Part}
    {received : List (List (List Char))}
    (h : List.Forall₂ (fun p taken => Part.pieces given (.parameter p) = taken.map rewritten)
      (parts.filterMap Part.parameter?) received) :
    parts.flatMap (Part.pieces given) = laidOut parts (received.map (List.map rewritten)) := by
  induction parts generalizing received with
  | nil => rw [laidOut] <;> simp
  | cons part rest ih =>
    rw [List.flatMap_cons]
    cases part with
    | literal text =>
      rw [laidOut, ih h]
      rfl
    | parameter p =>
      cases h with
      | cons hfirst hrest => rw [List.map_cons, laidOut, hfirst, ih hrest]

/-- The pieces of a built path are those of its parts. -/
theorem solidPieces_segments {given : RouteValues} {segments : List Segment}
    (hsingle : ∀ s ∈ segments, s.parts.length = 1)
    (hspaced : ∀ part ∈ segments.flatMap Segment.parts, part.Spaced given) {texts : List String}
    (h : segments.mapM (Segment.text? given) = some texts) :
    (texts.flatMap fun text => solidPieces '/' text.toList) =
      (segments.flatMap Segment.parts).flatMap (Part.pieces given) := by
  induction segments generalizing texts with
  | nil =>
    cases h
    rfl
  | cons s rest ih =>
    obtain ⟨parts⟩ := s
    obtain ⟨part, hpart⟩ := List.length_eq_one_iff.mp (hsingle ⟨parts⟩ List.mem_cons_self)
    change parts = [part] at hpart
    subst hpart
    rw [List.mapM_cons] at h
    obtain ⟨text, htext, h⟩ := Option.bind_eq_some_iff.mp h
    obtain ⟨others, hothers, h⟩ := Option.bind_eq_some_iff.mp h
    cases h
    have hrest := ih (fun s hs => hsingle s (List.mem_cons_of_mem _ hs))
      (fun other hother => hspaced other (List.mem_cons_of_mem _ hother)) hothers
    rw [Segment.text?_singleton] at htext
    have hpieces := (hspaced part List.mem_cons_self).isPiece
    rw [List.flatMap_cons, hrest, Part.toList_of_text? htext,
      Path.solidPieces_joined_pieces hpieces]
    rfl

/-! ### The same match again -/

namespace RoutePattern

/-- **Matching the path built from a match gives the match again.** -/
theorem match?_resolve?_ofParams {set : ConstraintSet} {template : String} {p : RoutePattern}
    (hcompile : compile set template = .ok p) (hsingle : ∀ s ∈ p.segments, s.parts.length = 1)
    (hfree : ∀ q ∈ p.parameters, q.constraints = [])
    (hdefault : ∀ q ∈ p.parameters, q.default? = effectiveDefault q.quantifier none)
    (horder : p.parts.Pairwise fun part later => part.isOptional → later.parameter?.isSome)
    {path : String} {params : Params} (hmatch : p.match? path = some params) :
    ∃ built, p.resolve? (.ofParams params) = some built ∧ Path.isCanonical built ∧
      '?' ∉ built.toList ∧ p.match? built = some params ∧
      ∀ again, p.match? built = some again → p.resolve? (.ofParams again) = some built := by
  have haccepted := accepted_compile hcompile
  have hstandard : ∀ q ∈ p.parameters, q.Standard set := by
    intro q hq c hc
    rw [hfree q hq] at hc
    cases hc
  obtain ⟨texts, hback⟩ := exists_writtenBack hcompile hstandard hmatch
  have hwalk := hmatch
  rw [match?_of_accepted haccepted hsingle (isRooted_of_match? hmatch)] at hwalk
  obtain ⟨received, hassign, hread⟩ := Option.bind_eq_some_iff.mp hwalk
  obtain ⟨entries, hentries, hparams⟩ := Option.bind_eq_some_iff.mp hread
  cases hparams
  have hcan := canTake_assign (fun _ => Text.isPiece_of_mem_solidPieces) hassign
  rw [← parameters_eq] at hcan
  have hnames := names_of_forall₂ (fun _ _ hfeed => hfeed.name)
    (feedsBack_of_match? haccepted hstandard hmatch)
  obtain ⟨hget, -⟩ := ofParams_of_names haccepted hnames
  have hwritten := pieces_of_receiveAll? hfree hdefault hcan hentries hget
  rw [parameters_eq] at hwritten
  -- the pieces of the built path are those of the first one, written again
  have hpieces : solidPieces '/' (pathOf texts).toList =
      laidOut p.parts (received.map (List.map rewritten)) := by
    rw [solidPieces_pathOf, solidPieces_segments hsingle hback.spaced hback.texts?]
    exact flatMap_pieces hwritten
  have hagain : p.match? (pathOf texts) = some ⟨entries⟩ := by
    rw [match?_of_accepted haccepted hsingle (isRooted_pathOf texts), matchPieces?, hpieces,
      ((assign_eq_some_iff.mp hassign).map newline_not_mem_rewritten horder).assign_eq,
      Option.bind_eq_bind,
      Option.bind_some, receiveAll?_rewritten, hentries]
    rfl
  refine ⟨pathOf texts, hback.resolve?, hback.canonical, hback.question, hagain, ?_⟩
  intro again hsame
  rw [hagain] at hsame
  cases hsame
  exact hback.resolve?

/-- Escapes that are no text stay as they are, and a line end is read from its escape. -/
theorem match?_resolve?_ofParams_raw :
    let lang : Parameter := ⟨"lang", .optional, [], none⟩
    let id : Parameter := ⟨"id", .required, [], none⟩
    let path : Parameter := ⟨"path", .zeroOrMore, [], some ""⟩
    let p : RoutePattern := ⟨"/raw/\x7blang?\x7d/\x7bid\x7d/\x7bpath*\x7d",
      [⟨[.literal "raw"]⟩, ⟨[.parameter lang]⟩, ⟨[.parameter id]⟩, ⟨[.parameter path]⟩]⟩
    let params : Params := ⟨[("lang", .present (.text "%ff")), ("id", .present (.text "x/y")),
      ("path", .present (.list [.text "\n"]))]⟩
    compile .empty p.template = .ok p ∧ (∀ s ∈ p.segments, s.parts.length = 1) ∧
      (∀ q ∈ p.parameters, q.constraints = []) ∧
      (∀ q ∈ p.parameters, q.default? = effectiveDefault q.quantifier none) ∧
      (p.parts.Pairwise fun part later => part.isOptional → later.parameter?.isSome) ∧
      p.match? "/raw//%ff/x%2fy/%0A/" = some params ∧
      ∃ built, p.resolve? (.ofParams params) = some built ∧ Path.isCanonical built ∧
        '?' ∉ built.toList ∧ p.match? built = some params ∧
        ∀ again, p.match? built = some again → p.resolve? (.ofParams again) = some built := by
  intro lang id path p params
  have houtline : Template.outline p.template = .ok [⟨[.literal "raw"]⟩,
      ⟨[.parameter ⟨"lang", .optional, [], none⟩]⟩, ⟨[.parameter ⟨"id", .required, [], none⟩]⟩,
      ⟨[.parameter ⟨"path", .zeroOrMore, [], none⟩]⟩] := by
    decide +kernel
  have hcompile : compile .empty p.template = .ok p := compile_of_outline houtline rfl
  have hsingle : ∀ s ∈ p.segments, s.parts.length = 1 := by simp [p]
  have hparameters : p.parameters = [lang, id, path] := rfl
  have hfree : ∀ q ∈ p.parameters, q.constraints = [] := by
    simp [hparameters, lang, id, path]
  have hdefault : ∀ q ∈ p.parameters, q.default? = effectiveDefault q.quantifier none := by
    simp [hparameters, lang, id, path, effectiveDefault]
  have hparts : p.parts = [.literal "raw", .parameter lang, .parameter id, .parameter path] := rfl
  have horder : p.parts.Pairwise fun part later =>
      part.isOptional → later.parameter?.isSome := by
    simp [hparts, Part.isOptional, Part.parameter?]
  have hmatch : p.match? "/raw//%ff/x%2fy/%0A/" = some params := by
    rw [match?_of_accepted (accepted_compile hcompile) hsingle rfl]
    rfl
  exact ⟨hcompile, hsingle, hfree, hdefault, horder, hmatch,
    match?_resolve?_ofParams hcompile hsingle hfree hdefault horder hmatch⟩

end RoutePattern

end Routing
