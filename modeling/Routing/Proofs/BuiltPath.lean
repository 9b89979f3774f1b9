/-
  Routing/Proofs/BuiltPath.lean
  =============================
  **A built path matches with the values that it was built from.**  Where every
  segment has one part and every parameter has a value, a path is built from
  pieces: a literal gives its text, and a parameter the written forms of the texts
  of its value. None of them is empty or has a slash, so the path is canonical and
  its pieces are the ones it was built from; and the walk along them gives every
  parameter its own, because every optional parameter finds a piece.
-/
import Routing.Proofs.Building
import Routing.Proofs.PieceMatch

namespace Routing

open Text (IsPiece joined)

/-! ### Paths and queries -/

def Path.beforeQuery (text : String) : String :=
  String.ofList (text.toList.takeWhile fun c => c != '?')

/-- A path without a question mark is what stands before the query. -/
theorem Path.beforeQuery_append {path query : String} (hpath : '?' ∉ path.toList)
    (hquery : query = "" ∨ ∃ rest, query = "?" ++ rest) : beforeQuery (path ++ query) = path := by
  have hkind : ∀ c ∈ path.toList, (c != '?') = true := by
    intro c hc
    rw [bne_iff_ne]
    rintro rfl
    exact hpath hc
  unfold beforeQuery
  rw [String.toList_append, List.takeWhile_append_of_pos hkind]
  rcases hquery with rfl | ⟨rest, rfl⟩
  · simp
  · have hmark : ("?" ++ rest).toList = '?' :: rest.toList := by
      rw [String.toList_append]
      rfl
    rw [hmark, List.takeWhile_cons]
    simp

theorem queryText_shape (values : RouteValues) :
    queryText values = "" ∨ ∃ rest, queryText values = "?" ++ rest := by
  unfold queryText
  split
  · exact .inl rfl
  · exact .inr ⟨_, rfl⟩

/-- Groups of pieces joined one after another make the path of all pieces. -/
theorem Path.ofPieces_joined {groups : List (List (List Char))}
    (hne : ∀ group ∈ groups, group ≠ []) :
    ofPieces (groups.map (joined ['/'])) = ofPieces groups.flatten := by
  have hslashed : slashed (groups.map (joined ['/'])) = slashed groups.flatten := by
    induction groups with
    | nil => rfl
    | cons group groups ih =>
      have hgroup : '/' :: joined ['/'] group = slashed group :=
        ofPieces_of_ne_nil (hne group List.mem_cons_self)
      rw [List.map_cons, slashed_cons, List.flatten_cons, slashed_append, ← hgroup,
        ih fun other hother => hne other (List.mem_cons_of_mem _ hother)]
      rfl
  rw [ofPieces_eq, ofPieces_eq, hslashed]
  cases groups with
  | nil => rfl
  | cons group groups =>
    have hflatten : (group :: groups).flatten ≠ [] := by
      simp [hne group List.mem_cons_self]
    rw [if_neg (by simp), if_neg hflatten]

/-! ### The pieces of a value -/

namespace Parameter

def texts (p : Parameter) (value : Value) : List String :=
  if p.isCatchAll then value.toItems.map Value.toText else [value.toText]

def readBack (p : Parameter) (value : Value) : Value :=
  if p.isCatchAll then .list (value.toItems.map fun item => .text item.toText)
  else .text value.toText

/-- A path can be built from a given value or the default, and no text of it is empty. -/
def Supplied (p : Parameter) (given : RouteValues) : Prop :=
  (∃ value, given.get? p.name = some value ∧ value.isEmpty = false ∧
    ∀ text ∈ p.texts value, text ≠ "") ∨
  ((∀ value, given.get? p.name = some value → value.isEmpty) ∧ p.defaultValue?.isSome)

/-- The value that a path is built from, with what its texts must be. -/
structure Writes (p : Parameter) (given : RouteValues) (value : Value) : Prop where
  used : p.used? given = some value
  texts_ne : p.texts value ≠ []
  text_ne : ∀ text ∈ p.texts value, text ≠ ""

theorem texts_ne_nil (p : Parameter) {value : Value} (hvalue : value.isEmpty = false) :
    p.texts value ≠ [] := by
  unfold texts
  split
  · intro hnil
    rw [List.map_eq_nil_iff] at hnil
    cases value <;> simp_all [Value.toItems, Value.isEmpty]
  · simp

theorem eq_of_defaultValue? {p : Parameter} {value : Value} (h : p.defaultValue? = some value) :
    ∃ text, p.default? = some text ∧ value.isEmpty = false ∧
      value = if p.isCatchAll then .list ((Text.splitSolid '/' text).map .text) else .text text := by
  unfold defaultValue? at h
  obtain ⟨text, htext, h⟩ := Option.bind_eq_some_iff.mp h
  obtain ⟨hempty, hvalue⟩ := Option.ite_none_left_eq_some.mp h
  cases hvalue
  exact ⟨text, htext, by simpa using hempty, rfl⟩

theorem texts_of_defaultValue? {p : Parameter} {value : Value} (h : p.defaultValue? = some value) :
    ∀ text ∈ p.texts value, text ≠ "" := by
  obtain ⟨declared, -, hempty, rfl⟩ := eq_of_defaultValue? h
  intro text htext
  unfold texts at htext
  by_cases hcatchAll : p.isCatchAll
  · rw [if_pos hcatchAll, if_pos hcatchAll] at htext
    simp only [Value.toItems, List.map_map, List.mem_map] at htext
    obtain ⟨piece, hpiece, rfl⟩ := htext
    obtain ⟨cs, hcs, rfl⟩ := List.mem_map.mp hpiece
    have hne := (Text.isPiece_of_mem_solidPieces hcs).1
    intro heq
    exact hne (by simpa [Value.toText] using congrArg String.toList heq)
  · rw [if_neg hcatchAll] at hempty
    rw [if_neg hcatchAll, if_neg hcatchAll, List.mem_singleton] at htext
    subst htext
    rintro rfl
    simp [Value.isEmpty] at hempty

theorem Supplied.exists_writes {p : Parameter} {given : RouteValues} (h : p.Supplied given) :
    ∃ value, p.Writes given value := by
  rcases h with ⟨value, hgiven, hempty, htexts⟩ | ⟨hnone, hdefault⟩
  · refine ⟨value, ?_, p.texts_ne_nil hempty, htexts⟩
    unfold used?
    rw [hgiven]
    simp [hempty]
  · obtain ⟨value, hvalue⟩ := Option.isSome_iff_exists.mp hdefault
    have htexts := texts_of_defaultValue? hvalue
    obtain ⟨-, -, hempty, -⟩ := eq_of_defaultValue? hvalue
    refine ⟨value, ?_, p.texts_ne_nil hempty, htexts⟩
    have hfilter : (given.get? p.name).filter (fun v => !v.isEmpty) = none := by
      rw [Option.filter_eq_none_iff]
      intro v hv
      simp [hnone v hv]
    unfold used?
    rw [hfilter]
    exact hvalue

end Parameter

/-! ### The pieces of a built path -/

def Parameter.writtenPieces (p : Parameter) (value : Value) : List (List Char) :=
  (p.texts value).map fun text => (Text.Percent.encode text).toList

theorem Parameter.pathText_eq (p : Parameter) (value : Value) :
    p.pathText value = String.ofList (joined ['/'] (p.writtenPieces value)) := by
  unfold pathText writtenPieces texts
  split
  · rw [Text.join, List.map_map, List.map_map]
    rfl
  · exact String.ofList_toList.symm

def Part.pieces (given : RouteValues) : Part → List (List Char)
  | .literal text => [text.toList]
  | .parameter p =>
    match p.used? given with
    | some value => p.writtenPieces value
    | none => []

def Part.Ready (given : RouteValues) (part : Part) : Prop :=
  part.pieces given ≠ [] ∧ (∀ piece ∈ part.pieces given, IsPiece piece ∧ '?' ∉ piece) ∧
    part.text? given = some (String.ofList (joined ['/'] (part.pieces given)))

theorem Part.ready_literal {given : RouteValues} {text : String}
    (hliteral : Template.IsLiteral text) (hquestion : '?' ∉ text.toList) :
    Part.Ready given (.literal text) := by
  refine ⟨by simp [Part.pieces], ?_, ?_⟩
  · intro piece hpiece
    have heq : piece = text.toList := List.mem_singleton.mp hpiece
    subst heq
    exact ⟨hliteral, hquestion⟩
  · have htext : joined ['/'] (Part.pieces given (.literal text)) = text.toList := rfl
    rw [htext, String.ofList_toList]
    rfl

theorem Part.pieces_parameter {given : RouteValues} {p : Parameter} {value : Value}
    (hused : p.used? given = some value) :
    Part.pieces given (.parameter p) = p.writtenPieces value := by
  unfold Part.pieces
  simp only [hused]

theorem Part.ready_parameter {given : RouteValues} {p : Parameter} {value : Value}
    (hwrites : p.Writes given value) : Part.Ready given (.parameter p) := by
  unfold Part.Ready
  rw [Part.pieces_parameter hwrites.used]
  refine ⟨?_, ?_, ?_⟩
  · unfold Parameter.writtenPieces
    rw [Ne, List.map_eq_nil_iff]
    exact hwrites.texts_ne
  · intro piece hpiece
    obtain ⟨text, htext, rfl⟩ := List.mem_map.mp hpiece
    exact ⟨isPiece_encode (hwrites.text_ne text htext), question_not_mem_encode text⟩
  · unfold Part.text?
    simp only [hwrites.used, ← Parameter.pathText_eq]

/-- Line ends are written as escapes, so that a catch-all can read every built path. -/
theorem newline_not_mem_writtenPieces (p : Parameter) (value : Value) :
    ∀ piece ∈ p.writtenPieces value, '\n' ∉ piece := by
  intro piece hpiece
  obtain ⟨text, -, rfl⟩ := List.mem_map.mp hpiece
  exact Text.Percent.not_mem_encode text (by decide) (by decide)

theorem assign_writtenPieces_catchAll {p : Parameter} (hq : p.isCatchAll) {given : RouteValues}
    {value : Value} (hwrites : p.Writes given value) :
    assign [.parameter p] (p.writtenPieces value) = some [p.writtenPieces value] := by
  have hnewline := newline_not_mem_writtenPieces p value
  cases hpieces : p.writtenPieces value with
  | nil =>
    unfold Parameter.writtenPieces at hpieces
    rw [List.map_eq_nil_iff] at hpieces
    exact absurd hpieces hwrites.texts_ne
  | cons piece pieces =>
    rw [hpieces] at hnewline
    rw [Expression.assign_catchAll hq, if_pos hnewline]

/-- **The walk along the pieces of a built path gives every parameter its own.** -/
theorem assign_pieces {given : RouteValues} {parts : List Part}
    (hcatchAll : parts.Pairwise fun part _ => part.isCatchAll = false)
    (hwrites : ∀ p, .parameter p ∈ parts → ∃ value, p.Writes given value) :
    assign parts (parts.flatMap (Part.pieces given)) =
      some ((parts.filterMap Part.parameter?).map fun p => Part.pieces given (.parameter p)) := by
  induction parts with
  | nil => rfl
  | cons part rest ih =>
    rw [List.pairwise_cons] at hcatchAll
    have hrest := ih hcatchAll.2 fun p hp => hwrites p (List.mem_cons_of_mem _ hp)
    rw [List.flatMap_cons]
    cases part with
    | literal text =>
      have hpieces : Part.pieces given (.literal text) = [text.toList] := rfl
      rw [hpieces, List.singleton_append, assign, if_pos rfl, hrest]
      rfl
    | parameter p =>
      obtain ⟨value, hvalue⟩ := hwrites p List.mem_cons_self
      have hparameters : (Part.parameter p :: rest).filterMap Part.parameter? =
          p :: rest.filterMap Part.parameter? := rfl
      rw [hparameters, List.map_cons, Part.pieces_parameter hvalue.used]
      by_cases hq : p.isCatchAll
      · -- a catch-all stands last and takes what is left
        have hnil : rest = [] := eq_nil_of_isCatchAll hcatchAll.1 hq
        subst hnil
        rw [List.flatMap_nil, List.append_nil]
        exact assign_writtenPieces_catchAll hq hvalue
      · -- any other parameter writes one piece and takes it
        have hone : p.writtenPieces value = [(Text.Percent.encode value.toText).toList] := by
          unfold Parameter.writtenPieces Parameter.texts
          rw [if_neg hq]
          rfl
        rw [hone, List.singleton_append]
        cases hquantifier : p.quantifier with
        | required => simp [assign, hquantifier, hrest]
        | optional => simp [assign, hquantifier, hrest]
        | oneOrMore | zeroOrMore =>
          simp [Parameter.isCatchAll, hquantifier, Quantifier.isCatchAll] at hq

/-! ### Matching a built path -/

/-- A parameter without constraints reads its own pieces as the texts of its value. -/
theorem Parameter.receive?_writtenPieces {p : Parameter} {given : RouteValues} {value : Value}
    (hwrites : p.Writes given value) (hfree : p.constraints = []) :
    p.receive? (p.writtenPieces value) = some (.present (p.readBack value)) := by
  have hne : (p.writtenPieces value).isEmpty = false := by
    unfold writtenPieces
    rw [List.isEmpty_map]
    simpa using hwrites.texts_ne
  have hread (text : String) :
      Text.Percent.decode (String.ofList (Text.Percent.encode text).toList) = text := by
    rw [String.ofList_toList, Text.Percent.decode_encode]
  have hdecode : (p.writtenPieces value).map
      (fun piece => Text.Percent.decode (String.ofList piece)) = p.texts value := by
    unfold writtenPieces
    simp only [List.map_map, Function.comp_def, hread, List.map_id_fun', id]
  have hconstrain (v : Value) : p.constrain v = some v := by
    unfold constrain
    rw [hfree]
    rfl
  unfold receive?
  rw [hne, hdecode]
  unfold valueOf? texts readBack
  simp only [hconstrain, Bool.false_eq_true, if_false]
  split
  · have hitems : (value.toItems.map Value.toText).mapM (fun text => some (Value.text text)) =
        some ((value.toItems.map Value.toText).map Value.text) := List.mapM_pure
    rw [hitems, List.map_map]
    rfl
  · rfl

namespace RoutePattern

theorem mapM_text?_of_ready {given : RouteValues} {segments : List Segment}
    (hsingle : ∀ s ∈ segments, s.parts.length = 1)
    (hready : ∀ part ∈ segments.flatMap Segment.parts, part.Ready given) :
    segments.mapM (Segment.text? given) = some ((segments.flatMap Segment.parts).map fun part =>
      String.ofList (joined ['/'] (part.pieces given))) := by
  induction segments with
  | nil => rfl
  | cons s rest ih =>
    obtain ⟨parts⟩ := s
    obtain ⟨part, hpart⟩ := List.length_eq_one_iff.mp (hsingle ⟨parts⟩ List.mem_cons_self)
    change parts = [part] at hpart
    subst hpart
    have hrest := ih (fun s hs => hsingle s (List.mem_cons_of_mem _ hs)) fun other hother =>
      hready other (List.mem_cons_of_mem _ hother)
    obtain ⟨-, -, htext⟩ := hready part List.mem_cons_self
    have hs : Segment.text? given ⟨[part]⟩ = some (String.ofList (joined ['/'] (part.pieces given))) := by
      rw [Segment.text?_singleton, htext]
    rw [List.mapM_cons, hs, hrest]
    rfl

/-- What a path is built from: the pieces of the parts, and the values left as its query. -/
theorem resolve?_of_ready {set : ConstraintSet} {p : RoutePattern} {given : RouteValues}
    (haccepted : Accepted set [] p.parts) (hsingle : ∀ s ∈ p.segments, s.parts.length = 1)
    (hready : ∀ part ∈ p.parts, part.Ready given) :
    p.resolve? given = some (String.ofList (Path.ofPieces (p.parts.flatMap (Part.pieces given))) ++
      queryText (given.without (namesOf p.parts))) := by
  have hfilter : ((p.parts.map fun part => String.ofList (joined ['/'] (part.pieces given))).filter
      fun text => !text.isEmpty) =
      p.parts.map fun part => String.ofList (joined ['/'] (part.pieces given)) := by
    rw [List.filter_eq_self]
    intro text htext
    obtain ⟨part, hpart, rfl⟩ := List.mem_map.mp htext
    obtain ⟨hne, hpieces, -⟩ := hready part hpart
    cases hgroup : part.pieces given with
    | nil => exact absurd hgroup hne
    | cons piece pieces =>
      rw [hgroup] at hpieces
      have hjoined := Expression.joined_ne_nil (hpieces piece List.mem_cons_self).1.1 pieces
      simpa [String.isEmpty_iff, String.ext_iff] using hjoined
  have hpath : "/" ++ Text.join "/" (p.parts.map fun part =>
      String.ofList (joined ['/'] (part.pieces given))) =
      String.ofList (Path.ofPieces (p.parts.flatMap (Part.pieces given))) := by
    have hgroups : ∀ group ∈ p.parts.map (Part.pieces given), group ≠ [] := by
      intro group hgroup
      obtain ⟨part, hpart, rfl⟩ := List.mem_map.mp hgroup
      exact (hready part hpart).1
    rw [slash_append_join, List.flatMap_def, ← Path.ofPieces_joined hgroups, List.map_map,
      List.map_map]
    simp only [Function.comp_def, String.toList_ofList]
  have hsegments := mapM_text?_of_ready hsingle hready
  rw [← parts] at hsegments
  rw [resolve?_eq haccepted, hsegments, Option.map_some, hfilter, hpath]

theorem exists_receiveAll? {parameters : List Parameter} {pieces : Parameter → List (List Char)}
    {r : Parameter → String × ParamValue → Prop}
    (h : ∀ p ∈ parameters, ∃ outcome, p.receive? (pieces p) = some outcome ∧ r p (p.name, outcome)) :
    ∃ entries, receiveAll? parameters (parameters.map pieces) = some entries ∧
      List.Forall₂ r parameters entries := by
  induction parameters with
  | nil => exact ⟨[], rfl, .nil⟩
  | cons p rest ih =>
    obtain ⟨entries, hentries, hrest⟩ := ih fun q hq => h q (List.mem_cons_of_mem _ hq)
    obtain ⟨outcome, houtcome, hfirst⟩ := h p List.mem_cons_self
    refine ⟨(p.name, outcome) :: entries, ?_, .cons hfirst hrest⟩
    rw [List.map_cons, receiveAll?, houtcome, hentries]
    rfl

/-- What a match of a built path says about a parameter. -/
def BuiltFrom (given : RouteValues) (p : Parameter) (entry : String × ParamValue) : Prop :=
  ∃ value, p.used? given = some value ∧ entry = (p.name, .present (p.readBack value))

/-- What is supplied is ready: literals of an accepted template have no question mark, and values
    are written without one. -/
theorem ready_of_supplied {set : ConstraintSet} {p : RoutePattern} {given : RouteValues}
    (haccepted : Accepted set [] p.parts) (hsupplied : ∀ q ∈ p.parameters, q.Supplied given) :
    ∀ part ∈ p.parts, part.Ready given := by
  intro part hpart
  cases part with
  | literal text =>
    obtain ⟨hliteral, hquestion⟩ := haccepted.literal text hpart
    exact Part.ready_literal hliteral hquestion
  | parameter q =>
    obtain ⟨value, hvalue⟩ := (hsupplied q (mem_parameters.mpr hpart)).exists_writes
    exact Part.ready_parameter hvalue

theorem exists_receiveAll?_pieces {parameters : List Parameter} {given : RouteValues}
    (hfree : ∀ q ∈ parameters, q.constraints = [])
    (hsupplied : ∀ q ∈ parameters, q.Supplied given) :
    ∃ entries, receiveAll? parameters (parameters.map fun q => Part.pieces given (.parameter q)) =
      some entries ∧ List.Forall₂ (BuiltFrom given) parameters entries := by
  apply exists_receiveAll?
  intro q hq
  obtain ⟨value, hvalue⟩ := (hsupplied q hq).exists_writes
  rw [Part.pieces_parameter hvalue.used]
  exact ⟨_, Parameter.receive?_writtenPieces hvalue (hfree q hq), value, hvalue.used, rfl⟩

/-- **A built path is canonical, and it matches with the texts of the values that it was
    built from.** -/
theorem match?_resolve? {set : ConstraintSet} {template : String} {p : RoutePattern}
    (hcompile : compile set template = .ok p) (hfree : ∀ q ∈ p.parameters, q.constraints = [])
    (hsingle : ∀ s ∈ p.segments, s.parts.length = 1) {given : RouteValues}
    (hsupplied : ∀ q ∈ p.parameters, q.Supplied given) :
    ∃ built params, p.resolve? given = some built ∧
      Path.isCanonical (Path.beforeQuery built) ∧
      p.match? (Path.beforeQuery built) = some params ∧
      List.Forall₂ (BuiltFrom given) p.parameters params.entries := by
  have haccepted := accepted_compile hcompile
  have hready := ready_of_supplied haccepted hsupplied
  have hwrites : ∀ q, .parameter q ∈ p.parts → ∃ value, q.Writes given value :=
    fun q hq => (hsupplied q (mem_parameters.mpr hq)).exists_writes
  have hpieces : ∀ piece ∈ p.parts.flatMap (Part.pieces given), IsPiece piece ∧ '?' ∉ piece := by
    intro piece hpiece
    obtain ⟨part, hpart, hmem⟩ := List.mem_flatMap.mp hpiece
    exact (hready part hpart).2.1 piece hmem
  have hpath : ∀ piece ∈ p.parts.flatMap (Part.pieces given), IsPiece piece :=
    fun piece hpiece => (hpieces piece hpiece).1
  have hcanonical := Path.isCanonical_ofPieces hpath
  have hquestion := Path.not_mem_ofPieces (by decide) fun piece hpiece => (hpieces piece hpiece).2
  have hbefore := Path.beforeQuery_append hquestion
    (queryText_shape (given.without (namesOf p.parts)))
  obtain ⟨entries, hentries, hbuilt⟩ := exists_receiveAll?_pieces hfree hsupplied
  refine ⟨_, ⟨entries⟩, resolve?_of_ready haccepted hsingle hready, ?_, ?_, hbuilt⟩
  · rw [hbefore]
    exact hcanonical
  · rw [hbefore, match?_of_accepted haccepted hsingle (Path.isRooted_of_isCanonical hcanonical),
      matchPieces?, String.toList_ofList, Path.solidPieces_ofPieces hpath,
      assign_pieces haccepted.catchAll hwrites, ← parameters_eq, Option.bind_eq_bind,
      Option.bind_some, hentries]
    rfl

/-- A slash in a value is written as an escape, and every item of a list is a piece. -/
theorem match?_resolve?_files :
    let p : RoutePattern := ⟨"/\x7bowner?\x7d/files/\x7bpath+\x7d",
      [⟨[.parameter ⟨"owner", .optional, [], none⟩]⟩, ⟨[.literal "files"]⟩,
        ⟨[.parameter ⟨"path", .oneOrMore, [], none⟩]⟩]⟩
    let given : RouteValues := ⟨[("sort", .text "name"), ("owner", .text "a/b"),
      ("path", .list [.int 7, .text "x y"])]⟩
    compile .empty p.template = .ok p ∧ (∀ q ∈ p.parameters, q.constraints = []) ∧
      (∀ s ∈ p.segments, s.parts.length = 1) ∧ (∀ q ∈ p.parameters, q.Supplied given) ∧
      ∃ built params, p.resolve? given = some built ∧
        Path.isCanonical (Path.beforeQuery built) ∧
        p.match? (Path.beforeQuery built) = some params ∧
        List.Forall₂ (BuiltFrom given) p.parameters params.entries := by
  intro p given
  have houtline : Template.outline p.template =
      .ok [⟨[.parameter ⟨"owner", .optional, [], none⟩]⟩, ⟨[.literal "files"]⟩,
        ⟨[.parameter ⟨"path", .oneOrMore, [], none⟩]⟩] := by
    decide +kernel
  have hcompile : compile .empty p.template = .ok p := compile_of_outline houtline rfl
  have hfree : ∀ q ∈ p.parameters, q.constraints = [] := by
    simp [p, parameters, Segment.parameters, Part.parameter?]
  have hsingle : ∀ s ∈ p.segments, s.parts.length = 1 := by
    simp [p]
  have hsupplied : ∀ q ∈ p.parameters, q.Supplied given := by
    have hparameters : p.parameters =
        [⟨"owner", .optional, [], none⟩, ⟨"path", .oneOrMore, [], none⟩] := rfl
    rw [hparameters]
    intro q hq
    rcases List.mem_cons.mp hq with rfl | hq
    · refine .inl ⟨.text "a/b", rfl, rfl, ?_⟩
      simp [Parameter.texts, Parameter.isCatchAll, Quantifier.isCatchAll, Value.toText]
    · rw [List.mem_singleton.mp hq]
      refine .inl ⟨.list [.int 7, .text "x y"], rfl, rfl, ?_⟩
      intro text htext
      have htexts : (⟨"path", .oneOrMore, [], none⟩ : Parameter).texts
          (.list [.int 7, .text "x y"]) = ["7", "x y"] := by
        decide +kernel
      rw [htexts] at htext
      revert text
      decide
  exact ⟨hcompile, hfree, hsingle, hsupplied, match?_resolve? hcompile hfree hsingle hsupplied⟩

end RoutePattern

end Routing
