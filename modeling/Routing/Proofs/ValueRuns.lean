/-
  Routing/Proofs/ValueRuns.lean
  =============================
  **Values over whole runs.**  Values are set and taken out one after another, or put together
  anew from pairs or from a match. Over every such run they are a map that remembers the order
  in which names came into it: a name has the value that was set for it last, and stands behind
  the names that came before it, unless it was taken out since.

  Putting values together anew is dropping all of them and setting the new ones, so a run is a
  history of changes of three kinds, and one lemma for each kind carries the invariant.
-/
import Routing.Proofs.DistinctNames
import Routing.Proofs.Histories

namespace Routing

open RouteValues (valued)

inductive ValuesOperation where
  /-- sets a value, in place or while values are built up call by call -/
  | set (name : String) (value : Value)
  /-- takes a value out -/
  | take (name : String)
  /-- puts values together anew from pairs -/
  | collect (pairs : List (String × Value))
  /-- puts values together anew from a match -/
  | feedBack (params : Params)

inductive ValuesChange where
  | set (name : String) (value : Value)
  | take (name : String)
  /-- drops all values -/
  | reset

/-! ### What a history of changes says of a name -/

namespace ValuesChange

def Sets (name : String) (value : Value) : ValuesChange → Prop
  | .set other given => other = name ∧ given = value
  | _ => False

def Drops (name : String) : ValuesChange → Prop
  | .set _ _ => False
  | .take other => other = name
  | .reset => True

/-- The name was given the value last, and was not dropped since. -/
def LastSet (changes : List ValuesChange) (name : String) (value : Value) : Prop :=
  Since (fun _ change => change.Sets name value)
    (fun later => (∀ other, ¬ later.Sets name other) ∧ ¬ later.Drops name) changes

/-- The name has a value since the change at the index: it had none before, was given one there,
    and was not dropped since. -/
def EnteredAt (changes : List ValuesChange) (name : String) (i : Nat) : Prop :=
  Since (fun before change => (∃ value, change.Sets name value) ∧
      (∀ old, ¬ LastSet before name old) ∧ before.length = i)
    (fun later => ¬ later.Drops name) changes

section

variable {changes : List ValuesChange} {name other : String} {value given : Value} {i : Nat}

theorem lastSet_concat_set : LastSet (changes ++ [.set other given]) name value ↔
    other = name ∧ given = value ∨ other ≠ name ∧ LastSet changes name value := by
  refine since_concat_iff.trans (or_congr Iff.rfl (and_congr_left' ?_))
  simp [Sets, Drops]

theorem lastSet_concat_take : LastSet (changes ++ [.take other]) name value ↔
    other ≠ name ∧ LastSet changes name value := by
  refine since_concat_iff.trans ?_
  simp [Sets, Drops, LastSet]

theorem not_lastSet_concat_reset : ¬ LastSet (changes ++ [.reset]) name value := by
  rw [LastSet, since_concat_iff]
  simp [Sets, Drops]

/-- A name that is set again keeps the place it had, and one without a value gets the last. -/
theorem enteredAt_concat_set : EnteredAt (changes ++ [.set other given]) name i ↔
    (other = name ∧ (∀ old, ¬ LastSet changes name old) ∧ changes.length = i) ∨
      EnteredAt changes name i := by
  refine since_concat_iff.trans ?_
  simp [Sets, Drops, EnteredAt]

/-- A name that has a value does not come in again. -/
theorem enteredAt_concat_set_of_lastSet (hold : LastSet changes other value) :
    EnteredAt (changes ++ [.set other given]) name i ↔ EnteredAt changes name i := by
  rw [enteredAt_concat_set, or_iff_right]
  rintro ⟨rfl, hnone, -⟩
  exact hnone value hold

/-- A name without a value comes in now. -/
theorem enteredAt_concat_set_of_new (hnone : ∀ old, ¬ LastSet changes other old)
    (hnew : ∀ i, ¬ EnteredAt changes other i) :
    EnteredAt (changes ++ [.set other given]) name i ↔
      if name = other then changes.length = i else EnteredAt changes name i := by
  rw [enteredAt_concat_set]
  split
  · next heq => simp [heq, hnone, hnew]
  · next hne => simp [Ne.symm hne]

theorem enteredAt_concat_take : EnteredAt (changes ++ [.take other]) name i ↔
    other ≠ name ∧ EnteredAt changes name i := by
  refine since_concat_iff.trans ?_
  simp [Sets, Drops, EnteredAt]

theorem not_enteredAt_concat_reset : ¬ EnteredAt (changes ++ [.reset]) name i := by
  rw [EnteredAt, since_concat_iff]
  simp [Sets, Drops]

theorem EnteredAt.lt_length (h : EnteredAt changes name i) : i < changes.length := by
  obtain ⟨before, change, after, rfl, ⟨-, -, rfl⟩, -⟩ := h
  simp

end

end ValuesChange

namespace ValuesOperation

def changes : ValuesOperation → List ValuesChange
  | .set name value => [.set name value]
  | .take name => [.take name]
  | .collect pairs => .reset :: pairs.map fun pair => .set pair.1 pair.2
  | .feedBack params => .reset :: (valued params.entries).map fun pair => .set pair.1 pair.2

def history (ops : List ValuesOperation) : List ValuesChange :=
  ops.flatMap changes

end ValuesOperation

namespace RouteValues

open ValuesChange (LastSet EnteredAt lastSet_concat_set lastSet_concat_take
  not_lastSet_concat_reset enteredAt_concat_set_of_lastSet enteredAt_concat_set_of_new
  enteredAt_concat_take not_enteredAt_concat_reset)

def after (values : RouteValues) : ValuesOperation → RouteValues
  | .set name value => values.set name value
  | .take name => (values.take name).2
  | .collect pairs => ofList pairs
  | .feedBack params => ofParams params

def run (values : RouteValues) (ops : List ValuesOperation) : RouteValues :=
  ops.foldl after values

def changed (values : RouteValues) : ValuesChange → RouteValues
  | .set name value => values.set name value
  | .take name => (values.take name).2
  | .reset => empty

/-- The values are what a history of changes leaves, in the order in which their names came in. -/
structure Reflects (values : RouteValues) (changes : List ValuesChange) : Prop where
  distinct : values.Distinct
  /-- a name has the value that was set last, if it was not dropped since -/
  get? : ∀ name value, values.get? name = some value ↔ LastSet changes name value
  /-- a name is there if it came in and was not dropped since -/
  names : ∀ name, name ∈ values.names ↔ ∃ i, EnteredAt changes name i
  /-- names stand in the order in which they came in -/
  order : values.names.Pairwise fun first second =>
    ∀ i j, EnteredAt changes first i → EnteredAt changes second j → i < j

/-! ### One change -/

variable {values : RouteValues} {changes : List ValuesChange} {name : String} {value : Value}

theorem reflects_empty_of (hset : ∀ name value, ¬ LastSet changes name value)
    (hentered : ∀ name i, ¬ EnteredAt changes name i) : empty.Reflects changes := by
  refine ⟨distinct_empty, fun name value => ?_, fun name => ?_, .nil⟩
  · exact iff_of_false (by rintro ⟨⟩) (hset name value)
  · exact iff_of_false (by rintro ⟨⟩) (not_exists.mpr (hentered name))

/-- A name is there if it was set and not dropped since. -/
theorem Reflects.mem_names_iff (h : values.Reflects changes) :
    name ∈ values.names ↔ ∃ value, LastSet changes name value :=
  RouteValues.mem_names_iff.trans (exists_congr (h.get? name))

theorem Reflects.get?_set_iff (h : values.Reflects changes) (other : String) (given : Value) :
    (values.set name value).get? other = some given ↔
      LastSet (changes ++ [.set name value]) other given := by
  rw [get?_set, lastSet_concat_set]
  by_cases heq : other = name
  · simp [heq]
  · simp [heq, Ne.symm heq, h.get?]

/-- Setting a name that is there moves no name. -/
theorem Reflects.set_of_mem (h : values.Reflects changes) (hmem : name ∈ values.names)
    (value : Value) : (values.set name value).Reflects (changes ++ [.set name value]) := by
  obtain ⟨old, hold⟩ := h.mem_names_iff.mp hmem
  have hnames : (values.set name value).names = values.names := by
    rw [names_set, if_pos hmem]
  refine ⟨h.distinct.set name value, h.get?_set_iff, fun other => ?_, ?_⟩
  · rw [hnames, h.names]
    simp only [enteredAt_concat_set_of_lastSet hold]
  · rw [hnames]
    simp only [enteredAt_concat_set_of_lastSet hold]
    exact h.order

/-- Setting a name that is not there puts it behind all others. -/
theorem Reflects.set_of_not_mem (h : values.Reflects changes) (hmem : name ∉ values.names)
    (value : Value) : (values.set name value).Reflects (changes ++ [.set name value]) := by
  have hnone : ∀ old, ¬ LastSet changes name old := by
    rwa [h.mem_names_iff, not_exists] at hmem
  have hnew : ∀ i, ¬ EnteredAt changes name i := by
    rwa [h.names, not_exists] at hmem
  have hnames : (values.set name value).names = values.names ++ [name] := by
    rw [names_set, if_neg hmem]
  have hentered (other : String) (i : Nat) :
      EnteredAt (changes ++ [.set name value]) other i ↔
        if other = name then changes.length = i else EnteredAt changes other i :=
    enteredAt_concat_set_of_new hnone hnew
  have hne : ∀ other ∈ values.names, other ≠ name := by
    rintro other hother rfl
    exact hmem hother
  refine ⟨h.distinct.set name value, h.get?_set_iff, fun other => ?_, ?_⟩
  · rw [hnames, List.mem_append, List.mem_singleton]
    by_cases heq : other = name
    · simp [heq, hentered]
    · simp [heq, hentered, h.names]
  · -- the names before keep their indices, and that of the new name is above them all
    rw [hnames, List.pairwise_append]
    refine ⟨?_, List.pairwise_singleton _ _, ?_⟩
    · refine h.order.imp_of_mem fun hfirst hsecond horder i j hi hj => ?_
      rw [hentered, if_neg (hne _ hfirst)] at hi
      rw [hentered, if_neg (hne _ hsecond)] at hj
      exact horder i j hi hj
    · intro first hfirst second hsecond i j hi hj
      cases List.mem_singleton.mp hsecond
      rw [hentered, if_neg (hne _ hfirst)] at hi
      rw [hentered, if_pos rfl] at hj
      rw [← hj]
      exact hi.lt_length

/-- **Setting a value goes on with the history.** -/
theorem Reflects.set (h : values.Reflects changes) (name : String) (value : Value) :
    (values.set name value).Reflects (changes ++ [.set name value]) := by
  by_cases hmem : name ∈ values.names
  · exact h.set_of_mem hmem value
  · exact h.set_of_not_mem hmem value

/-- **Taking a value out goes on with the history**, and the other names keep their order. -/
theorem Reflects.take (h : values.Reflects changes) (name : String) :
    (values.take name).2.Reflects (changes ++ [.take name]) := by
  have hnames := h.distinct.names_take name
  refine ⟨h.distinct.take name, fun other given => ?_, fun other => ?_, ?_⟩
  · rw [lastSet_concat_take]
    by_cases heq : other = name
    · simp [heq, h.distinct.get?_take_self]
    · simp [Ne.symm heq, get?_take heq, h.get?]
  · rw [hnames]
    simp only [enteredAt_concat_take]
    by_cases heq : other = name
    · simp [heq]
    · simp [heq, Ne.symm heq, h.names]
  · rw [hnames]
    refine (h.order.sublist List.filter_sublist).imp fun horder i j hi hj => ?_
    exact horder i j (enteredAt_concat_take.mp hi).2 (enteredAt_concat_take.mp hj).2

/-- **One change keeps the values in step with the history.** -/
theorem Reflects.changed (h : values.Reflects changes) (change : ValuesChange) :
    (values.changed change).Reflects (changes ++ [change]) := by
  cases change with
  | set name value => exact h.set name value
  | take name => exact h.take name
  | reset =>
    exact reflects_empty_of (fun _ _ => not_lastSet_concat_reset)
      fun _ _ => not_enteredAt_concat_reset

/-! ### Runs -/

theorem reflects_foldl (changes : List ValuesChange) :
    (changes.foldl changed empty).Reflects changes := by
  -- from the last change backwards, as histories are read
  induction changes using List.reverseRecOn with
  | nil => exact reflects_empty_of (fun _ _ => not_since_nil) fun _ _ => not_since_nil
  | append_singleton changes change ih =>
    rw [List.foldl_append]
    exact ih.changed change

theorem after_eq_foldl (values : RouteValues) (op : ValuesOperation) :
    values.after op = op.changes.foldl changed values := by
  cases op with
  | set name value => rfl
  | take name => rfl
  | collect pairs =>
    rw [ValuesOperation.changes, List.foldl_cons, List.foldl_map]
    rfl
  | feedBack params =>
    rw [ValuesOperation.changes, List.foldl_cons, List.foldl_map]
    rfl

theorem run_eq_foldl (values : RouteValues) (ops : List ValuesOperation) :
    values.run ops = (ValuesOperation.history ops).foldl changed values := by
  induction ops generalizing values with
  | nil => rfl
  | cons op rest ih =>
    rw [ValuesOperation.history, List.flatMap_cons, List.foldl_append, ← after_eq_foldl,
      ← ValuesOperation.history, ← ih]
    rfl

/-- And so does a run of operations, which may make several changes each. -/
theorem reflects_run (ops : List ValuesOperation) :
    (empty.run ops).Reflects (ValuesOperation.history ops) := by
  rw [run_eq_foldl]
  exact reflects_foldl _

/-! ### The values of a match -/

theorem entries_ofParams_of_names {p : RoutePattern} {params : Params}
    (hnames : params.entries.map Prod.fst = p.parameters.map Parameter.name)
    (hnodup : (params.entries.map Prod.fst).Nodup) :
    (ofParams params).entries = p.parameters.filterMap fun q =>
      (params.value? q.name).map fun value => (q.name, value) := by
  have hvalue : ∀ entry ∈ params.entries, params.value? entry.1 = entry.2.value? := by
    intro entry hentry
    rw [Params.value?, Params.get?, (lookup_eq_some_iff_mem hnodup).mpr hentry, Option.bind_some]
  calc (ofParams params).entries
      = params.entries.filterMap fun entry =>
          (params.value? entry.1).map fun value => (entry.1, value) := by
        rw [entries_ofParams hnodup, valued]
        exact List.filterMap_congr fun entry hentry => by rw [hvalue entry hentry]
    _ = (params.entries.map Prod.fst).filterMap fun name =>
          (params.value? name).map fun value => (name, value) := by
        rw [List.filterMap_map]
        rfl
    _ = _ := by
        rw [hnames, List.filterMap_map]
        rfl

theorem mem_names_ofParams_iff {params : Params}
    (hnodup : (params.entries.map Prod.fst).Nodup) {entry : String × ParamValue}
    (hentry : entry ∈ params.entries) :
    entry.1 ∈ (ofParams params).names ↔ entry.2.isMissing = false := by
  rw [mem_names_iff, RouteValues.get?, entries_ofParams hnodup, lookup_valued hnodup entry hentry]
  cases entry.2 <;> simp [ParamValue.value?, ParamValue.isMissing]

/-- The values of a match are those of its parameters that are not missing, once each and in
    declaration order. -/
structure Lists (values : RouteValues) (p : RoutePattern) (params : Params) : Prop where
  entries : values.entries = p.parameters.filterMap fun q =>
    (params.value? q.name).map fun value => (q.name, value)
  distinct : values.Distinct
  names : ∀ q ∈ p.parameters, ∃ outcome, params.get? q.name = some outcome ∧
    (q.name ∈ values.names ↔ outcome.isMissing = false)

theorem lists_ofParams {set : ConstraintSet} {template : String} {p : RoutePattern}
    (hcompile : RoutePattern.compile set template = .ok p) {path : String} {params : Params}
    (hmatch : p.match? path = some params) : (ofParams params).Lists p params := by
  have hnames := RoutePattern.names_of_match? hmatch
  have hnodup : (params.entries.map Prod.fst).Nodup := by
    rw [hnames, RoutePattern.parameters_eq]
    exact (RoutePattern.accepted_compile hcompile).nodup
  refine ⟨entries_ofParams_of_names hnames hnodup, distinct_ofList _, fun q hq => ?_⟩
  have hname : q.name ∈ params.entries.map Prod.fst := by
    rw [hnames]
    exact List.mem_map_of_mem hq
  obtain ⟨entry, hentry, heq⟩ := List.mem_map.mp hname
  refine ⟨entry.2, ?_, ?_⟩
  · rw [← heq]
    exact (lookup_eq_some_iff_mem hnodup).mpr hentry
  · rw [← heq]
    exact mem_names_ofParams_iff hnodup hentry

/-! ### All runs -/

/-- **Over every run, values are a map in the order of insertion.** No name has two entries, a
    name has the value that was set for it last and not taken since, and names stand in the
    order in which they came in. Setting a name that is there changes its value in its place,
    and setting another one appends it. Taking a name out gives its value and removes its entry
    and nothing else. The values of a match are those of its parameters that are not missing. -/
theorem run_insertionOrdered (ops : List ValuesOperation) :
    let values := empty.run ops
    values.Reflects (ValuesOperation.history ops) ∧
    (∀ before name old after, values.entries = before ++ (name, old) :: after → ∀ value,
      values.set name value = ⟨before ++ (name, value) :: after⟩) ∧
    (∀ name, name ∉ values.names → ∀ value,
      values.set name value = ⟨values.entries ++ [(name, value)]⟩) ∧
    (∀ before name value after, values.entries = before ++ (name, value) :: after →
      values.get? name = some value ∧ values.take name = (some value, ⟨before ++ after⟩)) ∧
    (∀ name, name ∉ values.names → values.get? name = none ∧ values.take name = (none, values)) ∧
    ∀ (set : ConstraintSet) (template : String) (p : RoutePattern) (path : String)
      (params : Params), RoutePattern.compile set template = .ok p →
        p.match? path = some params → (ofParams params).Lists p params := by
  intro values
  have hreflects : values.Reflects (ValuesOperation.history ops) := reflects_run ops
  have hentry {before after : List (String × Value)} {name : String} {value : Value}
      (h : values.entries = before ++ (name, value) :: after) :
      values = ⟨before ++ (name, value) :: after⟩ := congrArg RouteValues.mk h
  have hdistinct := hreflects.distinct
  refine ⟨hreflects, ?_, fun name => set_of_not_mem, ?_, ?_, ?_⟩
  · intro before name old after h value
    rw [hentry h] at hdistinct ⊢
    exact hdistinct.set_entry value
  · intro before name value after h
    rw [hentry h] at hdistinct ⊢
    exact ⟨hdistinct.get?_entry, hdistinct.take_entry⟩
  · exact fun name h => ⟨get?_of_not_mem h, take_of_not_mem h⟩
  · exact fun _ _ _ _ _ hcompile hmatch => lists_ofParams hcompile hmatch

/-- A name that is set again stays where it is, and one that was taken out comes back behind the
    others; a parameter that is missing is not among the values of a match. -/
theorem run_insertionOrdered_blog :
    let lang : Parameter := ⟨"lang", .required, [], none⟩
    let page : Parameter := ⟨"page", .optional, [], some "7"⟩
    let tag : Parameter := ⟨"tag", .optional, [], none⟩
    let p : RoutePattern := ⟨"/\x7blang\x7d/\x7bpage?:=(7)\x7d/\x7btag?\x7d",
      [⟨[.parameter lang]⟩, ⟨[.parameter page]⟩, ⟨[.parameter tag]⟩]⟩
    let params : Params :=
      ⟨[("lang", .present (.text "de")), ("page", .filled (.text "7")), ("tag", .missing)]⟩
    let ops : List ValuesOperation := [.collect [("q", .text "a"), ("q", .text "b")],
      .feedBack params, .set "tag" (.text "x"), .take "lang", .set "page" (.int 8),
      .set "lang" (.text "fr"), .set "tag" (.text "y")]
    let values := empty.run ops
    RoutePattern.compile .empty p.template = .ok p ∧ p.match? "/de/" = some params ∧
      (ofParams params).entries = [("lang", .text "de"), ("page", .text "7")] ∧
      "tag" ∉ (ofParams params).names ∧
      values.entries = [("page", .int 8), ("tag", .text "y"), ("lang", .text "fr")] ∧
      LastSet (ValuesOperation.history ops) "page" (.int 8) ∧
      (∀ value, ¬ LastSet (ValuesOperation.history ops) "q" value) ∧
      values.set "tag" (.bool true) =
        ⟨[("page", .int 8), ("tag", .bool true), ("lang", .text "fr")]⟩ ∧
      values.set "q" (.text "c") = ⟨values.entries ++ [("q", .text "c")]⟩ ∧
      values.get? "tag" = some (.text "y") ∧
      values.take "tag" = (some (.text "y"), ⟨[("page", .int 8), ("lang", .text "fr")]⟩) ∧
      values.take "q" = (none, values) := by
  intro lang page tag p params ops values
  have houtline : Template.outline p.template = .ok
      [⟨[.parameter ⟨"lang", .required, [], none⟩]⟩,
      ⟨[.parameter ⟨"page", .optional, [], some "7"⟩]⟩,
      ⟨[.parameter ⟨"tag", .optional, [], none⟩]⟩] := by
    decide +kernel
  have hcompile : RoutePattern.compile .empty p.template = .ok p :=
    RoutePattern.compile_of_outline houtline rfl
  have hnormal : Path.normalize "/de/" = some "/de" := by
    decide +kernel
  have hgroups : p.regex.captures "/de" = some [(1, "de".toList)] := by
    decide +kernel
  have hread : readParams? [(1, "de".toList)] 1 p.parameters = some params.entries := rfl
  have hmatch : p.match? "/de/" = some params := by
    unfold RoutePattern.match?
    simp only [hnormal, hgroups, hread, Option.bind_eq_bind, Option.bind_some, Option.pure_def]
  obtain ⟨hreflects, hset, hnew, htake, habsent, hlists⟩ := run_insertionOrdered ops
  have hentries : values.entries = [("page", .int 8), ("tag", .text "y"), ("lang", .text "fr")] :=
    rfl
  have hq : "q" ∉ values.names := by decide
  have hparams := hlists _ _ _ _ _ hcompile hmatch
  have hdeclared : tag ∈ p.parameters := by
    change tag ∈ [lang, page, tag]
    simp
  obtain ⟨outcome, houtcome, htag⟩ := hparams.names tag hdeclared
  have htaken := htake [("page", .int 8)] "tag" (.text "y") [("lang", .text "fr")] hentries
  refine ⟨hcompile, hmatch, hparams.entries, ?_, hentries, ?_, ?_, ?_, hnew "q" hq _, htaken.1,
    htaken.2, (habsent "q" hq).2⟩
  · cases houtcome
    rw [htag]
    decide
  · exact (hreflects.get? "page" (.int 8)).mp rfl
  · intro value
    rw [← hreflects.get?, (habsent "q" hq).1]
    rintro ⟨⟩
  · exact hset [("page", .int 8)] "tag" (.text "y") [("lang", .text "fr")] hentries _

end RouteValues

end Routing
