/-
  Routing/Proofs/Query.lean
  =========================
  **The query of a built path tells the values that no parameter took.**  What the
  parameters write has no question mark, so the first one of a built path starts the
  query; names and texts are written without `&` and `=`, so the query is cut back into
  the pairs that it was joined from, and reading their escapes gives the names and the
  texts. What stands before the query comes from the values of the parameters alone.
-/
import Routing.Proofs.AbsentValues

namespace Routing

namespace Text

/-! ### The pieces of joined texts -/

theorem joined_eq_intercalate (sep : List Char) (texts : List (List Char)) :
    joined sep texts = sep.intercalate texts := by
  induction texts with
  | nil => rfl
  | cons text rest ih =>
    cases rest with
    | nil => simp [joined]
    | cons next rest =>
      rw [joined, ih, List.intercalate_cons_cons, List.append_assoc]

/-- **Texts without separators are the pieces of their join.** -/
theorem pieces_joined {sep : Char} {texts : List (List Char)} (hne : texts ≠ [])
    (h : ∀ text ∈ texts, sep ∉ text) : pieces sep (joined [sep] texts) = texts := by
  rw [pieces_eq_splitOn, joined_eq_intercalate, List.splitOn_intercalate sep h hne]

end Text

/-! ### Reading a query -/

/-- The name and the text of a piece of a query: what stands before and after its first
    `=`, with the escapes read. -/
def readPair? (piece : List Char) : Option (String × String) := do
  let (name, text) ← Text.cutAt '=' piece
  return (← Text.Percent.decode? (String.ofList name),
    ← Text.Percent.decode? (String.ofList text))

/-- The pairs between the `&` of what stands after the first question mark. -/
def queryPairs? (built : String) : Option (List (String × String)) :=
  match Text.cutAt '?' built.toList with
  | none => some []
  | some (_, query) => (Text.pieces '&' query).mapM readPair?

def pairText (entry : String × Value) : String :=
  Text.Percent.encode entry.1 ++ "=" ++ Text.Percent.encode entry.2.toText

theorem toList_pairText (entry : String × Value) :
    (pairText entry).toList = (Text.Percent.encode entry.1).toList ++
      '=' :: (Text.Percent.encode entry.2.toText).toList := by
  unfold pairText
  rw [String.toList_append, String.toList_append, List.append_assoc]
  rfl

/-- A pair is read back, as its name is written without an equals sign. -/
theorem readPair?_pairText (entry : String × Value) :
    readPair? (pairText entry).toList = some (entry.1, entry.2.toText) := by
  have hequals : '=' ∉ (Text.Percent.encode entry.1).toList :=
    Text.Percent.not_mem_encode entry.1 (by decide) (by decide)
  unfold readPair?
  rw [toList_pairText, Text.cutAt_append hequals]
  simp only [Option.bind_eq_bind, Option.bind_some, String.ofList_toList,
    Text.Percent.decode?_encode, Option.pure_def]

theorem ampersand_not_mem_pairText (entry : String × Value) : '&' ∉ (pairText entry).toList := by
  rw [toList_pairText, List.mem_append, List.mem_cons, not_or, not_or]
  exact ⟨Text.Percent.not_mem_encode _ (by decide) (by decide), by decide,
    Text.Percent.not_mem_encode _ (by decide) (by decide)⟩

theorem queryText_of_ne_nil {values : RouteValues} (h : values.entries ≠ []) :
    (queryText values).toList =
      '?' :: Text.joined ['&'] (values.entries.map fun entry => (pairText entry).toList) := by
  have hempty : values.isEmpty = false := by simpa [RouteValues.isEmpty] using h
  have htext : queryText values = "?" ++ Text.join "&" (values.entries.map pairText) := by
    rw [queryText, hempty]
    rfl
  rw [htext, String.toList_append, Text.join]
  simp only [String.toList_ofList, List.map_map]
  rfl

theorem queryText_of_nil {values : RouteValues} (h : values.entries = []) :
    queryText values = "" := by
  simp [queryText, RouteValues.isEmpty, h]

theorem question_mem_queryText_iff {values : RouteValues} :
    '?' ∈ (queryText values).toList ↔ values.entries ≠ [] := by
  by_cases h : values.entries = []
  · simp [queryText_of_nil h, h]
  · simp [queryText_of_ne_nil h, h]

/-- **The query of values reads as the names and the texts of the values.** -/
theorem queryPairs?_append {path : String} (hpath : '?' ∉ path.toList) (values : RouteValues) :
    queryPairs? (path ++ queryText values) =
      some (values.entries.map fun entry => (entry.1, entry.2.toText)) := by
  unfold queryPairs?
  rw [String.toList_append]
  by_cases h : values.entries = []
  · simp only [queryText_of_nil h, String.toList_empty, List.append_nil,
      Text.cutAt_eq_none hpath, h, List.map_nil]
  · have hpieces : ∀ piece ∈ values.entries.map fun entry => (pairText entry).toList,
        '&' ∉ piece := by
      intro piece hpiece
      obtain ⟨entry, -, rfl⟩ := List.mem_map.mp hpiece
      exact ampersand_not_mem_pairText entry
    rw [queryText_of_ne_nil h, Text.cutAt_append hpath]
    simp only
    -- the pairs are parted where they were joined, as no pair has an ampersand
    rw [Text.pieces_joined (by simpa using h) hpieces]
    induction values.entries with
    | nil => rfl
    | cons entry rest ih =>
      rw [List.map_cons, List.mapM_cons, readPair?_pairText, ih]
      rfl

/-! ### What the parameters write -/

theorem Part.question_not_mem_text? {set : ConstraintSet} {parts : List Part}
    (haccepted : Accepted set [] parts) {part : Part} (hpart : part ∈ parts)
    {given : RouteValues} {text : String} (h : part.text? given = some text) :
    '?' ∉ text.toList := by
  cases part with
  | literal written =>
    cases h
    exact (haccepted.literal text hpart).2
  | parameter p =>
    rw [text?_parameter] at h
    split at h
    · next value _ => -- a question mark in a value is escaped
      cases h
      exact p.not_mem_pathText value (by decide) (by decide) (by decide)
    · split at h
      · cases h
      · cases h
        simp

namespace RoutePattern

variable {set : ConstraintSet} {p : RoutePattern} {given : RouteValues}

theorem question_not_mem_texts (haccepted : Accepted set [] p.parts) {texts : List String}
    (htexts : p.segments.mapM (Segment.text? given) = some texts) :
    ∀ text ∈ texts, '?' ∉ text.toList := by
  intro text htext hquestion
  obtain ⟨s, hs, hsegment⟩ := exists_mem_of_mapM_eq_some htexts text htext
  obtain ⟨written, hwritten, rfl⟩ := Option.map_eq_some_iff.mp hsegment
  rw [String.toList_join] at hquestion
  obtain ⟨piece, hpiece, hquestion⟩ := List.mem_flatMap.mp hquestion
  obtain ⟨part, hpart, htext⟩ := exists_mem_of_mapM_eq_some hwritten piece hpiece
  exact part.question_not_mem_text? haccepted (List.mem_flatMap.mpr ⟨s, hs, hpart⟩) htext hquestion

/-- **A built path is the path that the parameters write, and the query of what is left.** -/
theorem exists_texts_of_resolve? (haccepted : Accepted set [] p.parts) {built : String}
    (h : p.resolve? given = some built) :
    ∃ texts, p.segments.mapM (Segment.text? given) = some texts ∧ '?' ∉ (pathOf texts).toList ∧
      built = pathOf texts ++ queryText (given.without (namesOf p.parts)) := by
  have hresolve := resolve?_eq haccepted given
  rw [h] at hresolve
  obtain ⟨texts, htexts, -⟩ := Option.map_eq_some_iff.mp hresolve.symm
  have hbuilt := resolve?_of_texts haccepted htexts
  rw [h] at hbuilt
  cases hbuilt
  exact ⟨texts, htexts, question_not_mem_pathOf (question_not_mem_texts haccepted htexts), rfl⟩

theorem parameter?_eq_none_iff {name : String} :
    p.parameter? name = none ↔ name ∉ namesOf p.parts := by
  unfold parameter? namesOf
  rw [← parameters_eq]
  simp

/-- What a built path tells about the given values. -/
structure AccountsFor (p : RoutePattern) (given : RouteValues) (built : String) : Prop where
  /-- it has a query exactly if a name is given that is no parameter's -/
  mark : '?' ∈ built.toList ↔ ∃ name ∈ given.names, p.parameter? name = none
  /-- the same values of the parameters give the same path before the query -/
  path : ∀ other : RouteValues, (∀ q ∈ p.parameters, other.get? q.name = given.get? q.name) →
    ∃ again, p.resolve? other = some again ∧ Path.beforeQuery again = Path.beforeQuery built
  /-- and so do the given values in any other order -/
  order : ∀ other : RouteValues, other.entries.Perm given.entries →
    ∃ again, p.resolve? other = some again ∧ Path.beforeQuery again = Path.beforeQuery built
  /-- the query has all other values once, in the order in which they are given -/
  query : queryPairs? built =
    some ((given.entries.filter fun entry => (p.parameter? entry.1).isNone).map
      fun entry => (entry.1, entry.2.toText))

/-- What stands before the query depends on the values of the parameters alone. -/
theorem beforeQuery_congr (haccepted : Accepted set [] p.parts) {built : String}
    (h : p.resolve? given = some built) {other : RouteValues}
    (hsame : ∀ q ∈ p.parameters, other.get? q.name = given.get? q.name) :
    ∃ again, p.resolve? other = some again ∧ Path.beforeQuery again = Path.beforeQuery built := by
  obtain ⟨texts, htexts, hquestion, rfl⟩ := exists_texts_of_resolve? haccepted h
  have hused : ∀ q ∈ p.parameters, q.used? other = q.used? given := by
    intro q hq
    unfold Parameter.used?
    rw [hsame q hq]
  refine ⟨_, resolve?_of_texts haccepted ((texts_congr hused).trans htexts), ?_⟩
  rw [Path.beforeQuery_append hquestion (queryText_shape _),
    Path.beforeQuery_append hquestion (queryText_shape _)]

/-- **No given value is lost, doubled or taken for something else.** Every given value goes
    into the path as the value of the parameter of its name, or into the query as a pair of
    its own. -/
theorem resolve?_accountsFor {template : String} (hcompile : compile set template = .ok p)
    (hdistinct : given.Distinct) {built : String} (h : p.resolve? given = some built) :
    p.AccountsFor given built := by
  have haccepted := accepted_compile hcompile
  obtain ⟨texts, htexts, hquestion, hbuilt⟩ := exists_texts_of_resolve? haccepted h
  have hleft : (given.without (namesOf p.parts)).entries =
      given.entries.filter fun entry => (p.parameter? entry.1).isNone := by
    rw [hdistinct.entries_without]
    refine List.filter_congr fun entry _ => ?_
    rw [Bool.eq_iff_iff, decide_eq_true_iff, Option.isNone_iff_eq_none, parameter?_eq_none_iff]
  refine ⟨?_, fun other => beforeQuery_congr haccepted h, fun other hperm => ?_, ?_⟩
  · rw [hbuilt, String.toList_append, List.mem_append, or_iff_right hquestion,
      question_mem_queryText_iff, hleft]
    simp [RouteValues.names, List.filter_eq_nil_iff]
  · exact beforeQuery_congr haccepted h fun q _ => hdistinct.get?_of_perm hperm q.name
  · rw [hbuilt, queryPairs?_append hquestion, hleft]

/-- Marks in names and texts are written as escapes, so they start no query and no pair. -/
theorem resolve?_accountsFor_marks :
    let id : Parameter := ⟨"id", .required, [], none⟩
    let page : Parameter := ⟨"page", .optional, [], none⟩
    let p : RoutePattern := ⟨"/\x7bid\x7d/p-\x7bpage?\x7d",
      [⟨[.parameter id]⟩, ⟨[.literal "p-", .parameter page]⟩]⟩
    let given := RouteValues.ofList [("a&b", .text "x=y"), ("page", .text "1?a=2"),
      ("a&b", .bool true), ("", .list [.int 1, .text "#"]), ("id", .text "a/b")]
    compile .empty p.template = .ok p ∧ given.Distinct ∧
      p.resolve? given = some "/a%2Fb/p-1%3Fa%3D2?a%26b=true&=1%2C%23" ∧
      p.AccountsFor given "/a%2Fb/p-1%3Fa%3D2?a%26b=true&=1%2C%23" ∧
      queryPairs? "/a%2Fb/p-1%3Fa%3D2?a%26b=true&=1%2C%23" =
        some [("a&b", "true"), ("", "1,#")] := by
  intro id page p given
  have houtline : Template.outline p.template = .ok [
      ⟨[.parameter ⟨"id", .required, [], none⟩]⟩,
      ⟨[.literal "p-", .parameter ⟨"page", .optional, [], none⟩]⟩] := by
    decide +kernel
  have hcompile : compile .empty p.template = .ok p := compile_of_outline houtline rfl
  have hdistinct : given.Distinct := RouteValues.distinct_ofList _
  have hresolve : p.resolve? given = some "/a%2Fb/p-1%3Fa%3D2?a%26b=true&=1%2C%23" := by
    decide +kernel
  have haccounts := resolve?_accountsFor hcompile hdistinct hresolve
  refine ⟨hcompile, hdistinct, hresolve, haccounts, haccounts.query.trans ?_⟩
  decide +kernel

end RoutePattern

end Routing
