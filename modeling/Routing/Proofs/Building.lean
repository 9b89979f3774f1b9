/-
  Routing/Proofs/Building.lean
  ============================
  **What a built path is made of.**  Building takes the values of the parameters out
  of the given ones, one parameter after another. Since the names of the parameters
  differ, each finds the value that was given for it, and the text of a part
  depends on the given values alone: `resolve?_eq`.
-/
import Routing.Pattern.Resolve
import Routing.Proofs.Accepted
import Routing.Proofs.CanonicalPath
import Routing.Proofs.PercentCodec

namespace Routing

/-! ### Values left -/

namespace RouteValues

theorem lookup_eraseEntry {name other : String} (hne : other ≠ name)
    (entries : List (String × Value)) :
    (eraseEntry name entries).lookup other = entries.lookup other := by
  induction entries with
  | nil => rfl
  | cons entry rest ih =>
    obtain ⟨key, value⟩ := entry
    by_cases hkey : key = name
    · subst hkey
      simp [eraseEntry, List.lookup_cons, beq_false_of_ne hne]
    · by_cases hother : other = key
      · subst hother
        simp [eraseEntry, hkey]
      · simp [eraseEntry, hkey, List.lookup_cons, beq_false_of_ne hother, ih]

def without (values : RouteValues) (names : List String) : RouteValues :=
  names.foldl (fun values name => (values.take name).2) values

theorem get?_take {name other : String} (hne : other ≠ name) (values : RouteValues) :
    (values.take name).2.get? other = values.get? other :=
  lookup_eraseEntry hne values.entries

theorem get?_without {names : List String} {other : String} (hother : other ∉ names)
    (values : RouteValues) : (values.without names).get? other = values.get? other := by
  induction names generalizing values with
  | nil => rfl
  | cons name names ih =>
    rw [List.mem_cons, not_or] at hother
    have hrest := ih hother.2 (values.take name).2
    rw [get?_take hother.1] at hrest
    exact hrest

theorem without_append (values : RouteValues) (first second : List String) :
    values.without (first ++ second) = (values.without first).without second :=
  List.foldl_append

end RouteValues

/-! ### The texts of parts -/

/-- The value that a path is built from: the given one unless it is empty, and otherwise
    the default. -/
def Parameter.used? (p : Parameter) (given : RouteValues) : Option Value :=
  ((given.get? p.name).filter fun v => !v.isEmpty) <|> p.defaultValue?

def Part.text? (given : RouteValues) : Part → Option String
  | .literal text => some text
  | .parameter p =>
    match p.used? given with
    | some value => some (p.pathText value)
    | none => if p.isRequired then none else some ""

def Segment.text? (given : RouteValues) (s : Segment) : Option String :=
  (s.parts.mapM (Part.text? given)).map String.join

theorem namesOf_append (first second : List Part) :
    namesOf (first ++ second) = namesOf first ++ namesOf second := by
  unfold namesOf
  rw [List.filterMap_append, List.map_append]

def AgreeOn (parts : List Part) (values given : RouteValues) : Prop :=
  ∀ name ∈ namesOf parts, values.get? name = given.get? name

theorem resolve?_literal (values : RouteValues) (text : String) :
    Part.resolve? values (.literal text) = some (text, values) := rfl

theorem resolve?_parameter {p : Parameter} {values given : RouteValues}
    (hsame : values.get? p.name = given.get? p.name) :
    Part.resolve? values (.parameter p) =
      (Part.text? given (.parameter p)).map fun text => (text, (values.take p.name).2) := by
  have hused : (((values.take p.name).1.filter fun v => !v.isEmpty) <|> p.defaultValue?) =
      p.used? given := by
    unfold Parameter.used?
    rw [← hsame]
    rfl
  unfold Part.resolve? Part.text?
  simp only [hused]
  cases p.used? given with
  | some value => rfl
  | none =>
    by_cases hrequired : p.isRequired
    · rw [if_pos hrequired, if_pos hrequired]
      rfl
    · rw [if_neg hrequired, if_neg hrequired]
      rfl

theorem Segment.text?_cons (given : RouteValues) (part : Part) (rest : List Part) :
    Segment.text? given ⟨part :: rest⟩ =
      (part.text? given).bind fun text => (Segment.text? given ⟨rest⟩).map (text ++ ·) := by
  unfold Segment.text?
  rw [List.mapM_cons]
  cases part.text? given with
  | none => rfl
  | some text =>
    cases rest.mapM (Part.text? given) with
    | none => rfl
    | some texts => exact congrArg some String.join_cons

theorem Segment.text?_singleton (given : RouteValues) (part : Part) :
    Segment.text? given ⟨[part]⟩ = part.text? given := by
  rw [text?_cons]
  cases part.text? given with
  | none => rfl
  | some text => simp [text?]

/-- Building takes the value of a parameter away when it has used it. As no name stands twice
    among the parts, each part finds the value that was given at first. -/
theorem resolveParts?_eq {parts : List Part} {values given : RouteValues}
    (hnodup : (namesOf parts).Nodup) (hsame : AgreeOn parts values given) :
    resolveParts? values parts =
      (Segment.text? given ⟨parts⟩).map fun text => (text, values.without (namesOf parts)) := by
  induction parts generalizing values with
  | nil => rfl
  | cons part rest ih =>
    rw [Segment.text?_cons]
    cases part with
    | literal text =>
      have hrest := ih hnodup hsame
      rw [resolveParts?, resolve?_literal, Option.bind_eq_bind, Option.bind_some]
      simp only [hrest]
      cases Segment.text? given ⟨rest⟩ <;> rfl
    | parameter p =>
      have hnames : namesOf (.parameter p :: rest) = p.name :: namesOf rest := rfl
      rw [hnames, List.nodup_cons] at hnodup
      have hrest : AgreeOn rest (values.take p.name).2 given := by
        intro name hname
        have hne : name ≠ p.name := fun heq => hnodup.1 (heq ▸ hname)
        rw [RouteValues.get?_take hne]
        exact hsame name (List.mem_cons_of_mem _ hname)
      have hrest := ih hnodup.2 hrest
      rw [resolveParts?, resolve?_parameter (hsame p.name List.mem_cons_self)]
      cases Part.text? given (.parameter p) with
      | none => rfl
      | some text =>
        simp only [Option.map_some, Option.bind_eq_bind, Option.bind_some, hrest]
        cases Segment.text? given ⟨rest⟩ <;> rfl

/-- The same along the segments, where the empty texts are left out. -/
theorem resolveSegments?_eq {segments : List Segment} {values given : RouteValues}
    (hnodup : (namesOf (segments.flatMap Segment.parts)).Nodup)
    (hsame : AgreeOn (segments.flatMap Segment.parts) values given) :
    resolveSegments? values segments =
      (segments.mapM (Segment.text? given)).map fun texts =>
        (texts.filter fun text => !text.isEmpty,
          values.without (namesOf (segments.flatMap Segment.parts))) := by
  induction segments generalizing values with
  | nil => rfl
  | cons s rest ih =>
    rw [List.flatMap_cons, namesOf_append, List.nodup_append] at hnodup
    obtain ⟨hfirst, hnodup, hdisjoint⟩ := hnodup
    have hparts : AgreeOn s.parts values given := by
      intro name hname
      refine hsame name ?_
      rw [List.flatMap_cons, namesOf_append]
      exact List.mem_append_left _ hname
    -- the parts of the first segment take no values of the others
    have hrest : AgreeOn (rest.flatMap Segment.parts) (values.without (namesOf s.parts)) given := by
      intro name hname
      have hnot : name ∉ namesOf s.parts := fun hmem => hdisjoint name hmem name hname rfl
      rw [RouteValues.get?_without hnot]
      refine hsame name ?_
      rw [List.flatMap_cons, namesOf_append]
      exact List.mem_append_right _ hname
    have hrest := ih hnodup hrest
    rw [resolveSegments?, resolveParts?_eq hfirst hparts, List.mapM_cons]
    have hs : Segment.text? given ⟨s.parts⟩ = s.text? given := rfl
    rw [hs]
    cases s.text? given with
    | none => rfl
    | some text =>
      simp only [Option.map_some, Option.bind_eq_bind, Option.bind_some, hrest]
      cases rest.mapM (Segment.text? given) with
      | none => rfl
      | some texts =>
        have hleft : values.without (namesOf (List.flatMap Segment.parts (s :: rest))) =
            (values.without (namesOf s.parts)).without (namesOf (rest.flatMap Segment.parts)) := by
          rw [List.flatMap_cons, namesOf_append, RouteValues.without_append]
        simp only [Option.map_some, Option.bind_some, Option.pure_def, hleft]
        rw [List.filter_cons]
        cases text.isEmpty <;> rfl

/-- **A built path is made of the texts of its segments that are not empty.** -/
theorem RoutePattern.resolve?_eq {set : ConstraintSet} {p : RoutePattern}
    (haccepted : Accepted set [] p.parts) (given : RouteValues) :
    p.resolve? given = (p.segments.mapM (Segment.text? given)).map fun texts =>
      "/" ++ Text.join "/" (texts.filter fun text => !text.isEmpty) ++
        queryText (given.without (namesOf p.parts)) := by
  have hnodup : (namesOf (p.segments.flatMap Segment.parts)).Nodup := haccepted.nodup
  rw [RoutePattern.resolve?, resolveSegments?_eq hnodup fun _ _ => rfl]
  cases p.segments.mapM (Segment.text? given) <;> rfl

/-! ### The path as pieces -/

theorem slash_append_join (texts : List String) :
    "/" ++ Text.join "/" texts = String.ofList (Path.ofPieces (texts.map String.toList)) := by
  unfold Text.join
  rw [← String.toList_inj, String.toList_append]
  simp only [String.toList_ofList]
  rfl

theorem isPiece_encode {text : String} (hne : text ≠ "") :
    Text.IsPiece (Text.Percent.encode text).toList := by
  constructor
  · rw [Ne, String.toList_eq_nil_iff, Text.Percent.encode_eq_empty]
    exact hne
  · exact Text.Percent.not_mem_encode text (by decide) (by decide)

theorem question_not_mem_encode (text : String) : '?' ∉ (Text.Percent.encode text).toList :=
  Text.Percent.not_mem_encode text (by decide) (by decide)

end Routing
