/-
  Routing/Proofs/MatchedValues.lean
  =================================
  **What a match tells about parameters that take one piece.**  A parameter reads
  its value from the text that it takes, or from its default if it takes nothing;
  an optional parameter without a default then has no value. A value that was read
  with the built-in constraints shows in a path, and the values of a match are
  found under the names of the parameters.
-/
import Routing.Proofs.ChainValue
import Routing.Proofs.Decomposition
import Routing.Proofs.Matching
import Routing.Proofs.Building
import Routing.Proofs.Keyed

namespace Routing

open Expression (Admits Decomposes Share TakeAll)

/-! ### The same values -/

/-- Values are the same; numbers are compared as numbers. -/
inductive Value.Same : Value → Value → Prop
  | bool (b : Bool) : Same (.bool b) (.bool b)
  | int (n : Int64) : Same (.int n) (.int n)
  | number {x y : Float} (h : x == y) : Same (.number x) (.number y)
  | text (s : String) : Same (.text s) (.text s)
  | list {items others : List Value} (h : List.Forall₂ Same items others) :
    Same (.list items) (.list others)

theorem Value.Same.text_eq {first second : String} (h : Same (.text first) (.text second)) :
    first = second := by
  cases h
  rfl

def SameEntry (first second : String × ParamValue) : Prop :=
  first.1 = second.1 ∧ Option.Rel Value.Same first.2.value? second.2.value?

/-- Matches give every parameter the same value or none, wherever it is from. -/
def Params.SameValues (first second : Params) : Prop :=
  List.Forall₂ SameEntry first.entries second.entries

/-! ### What a parameter reads -/

def Parameter.MayTake (p : Parameter) : Share → Prop
  | some run => Admits p.quantifier run
  | none => p.quantifier = .optional ∨ p.quantifier = .zeroOrMore

theorem mayTake_takeAll {parts : List (Expression.Position × Part)} {shares : List Share}
    {text : List Char} (h : TakeAll parts shares text) :
    List.Forall₂ Parameter.MayTake (Expression.parametersOf parts) shares := by
  induction h with
  | nil => exact .nil
  | cons hpart _ ih =>
    cases hpart with
    | literal _ => exact ih
    | run hadmits => exact .cons hadmits ih
    | noPiece hquantifier => exact .cons (.inl hquantifier) ih
    | noRest hquantifier => exact .cons (.inr hquantifier) ih

theorem mayTake_decomposes {p : RoutePattern} {path : List Char} {shares : List Share}
    (h : Decomposes p.segments path shares) :
    List.Forall₂ Parameter.MayTake p.parameters shares := by
  obtain ⟨text, hall, -⟩ := h
  have hmay := mayTake_takeAll hall
  rw [Expression.parametersOf_placed] at hmay
  exact hmay

namespace Parameter

inductive Reads (p : Parameter) : Share → Option Value → Prop
  | run {run : List Char} {value : Value}
      (h : p.constrain (.text (Text.Percent.decode (String.ofList run))) = some value) :
    Reads p (some run) (some value)
  | filled {text : String} {value : Value} (hdefault : p.default? = some text)
      (h : p.constrain (.text text) = some value) : Reads p none (some value)
  | missing (hdefault : p.default? = none) : Reads p none none

theorem ne_nil_of_admits {p : Parameter} (hscalar : p.isCatchAll = false) {run : List Char}
    (hadmits : Admits p.quantifier run) : run ≠ [] := by
  rw [Expression.admits_iff_isPiece hscalar] at hadmits
  exact hadmits.1

theorem outcome?_run {p : Parameter} (hscalar : p.isCatchAll = false) {run : List Char}
    (hadmits : Admits p.quantifier run) :
    p.outcome? (some (String.ofList run)) =
      (p.constrain (.text (Text.Percent.decode (String.ofList run)))).map .present := by
  have hne := ne_nil_of_admits hscalar hadmits
  have hfilter : (some (String.ofList run)).filter (fun text => !text.isEmpty) =
      some (String.ofList run) := by
    rw [Option.filter_eq_some_iff]
    exact ⟨rfl, by simpa [String.isEmpty_iff, String.ext_iff] using hne⟩
  unfold outcome?
  rw [hfilter]
  simp only [readValue?, hscalar, Bool.false_eq_true, if_false]

theorem outcome?_none {p : Parameter} (hscalar : p.isCatchAll = false) :
    p.outcome? none =
      match p.default? with
      | some text => (p.constrain (.text text)).map .filled
      | none => some .missing := by
  unfold outcome?
  simp only [readValue?, hscalar, Bool.false_eq_true, if_false]
  rfl

/-- A parameter for one piece reads a value of its share, or has none without a share. -/
theorem exists_outcome_iff {p : Parameter} (hscalar : p.isCatchAll = false) {share : Share}
    (hshare : p.MayTake share) {value? : Option Value} :
    (∃ outcome, p.outcome? (share.map String.ofList) = some outcome ∧ outcome.value? = value?) ↔
      p.Reads share value? := by
  cases share with
  | some run =>
    rw [Option.map_some, outcome?_run hscalar hshare]
    constructor
    · rintro ⟨outcome, houtcome, rfl⟩
      obtain ⟨value, hvalue, rfl⟩ := Option.map_eq_some_iff.mp houtcome
      exact .run hvalue
    · rintro ⟨h⟩
      exact ⟨_, by rw [h]; rfl, rfl⟩
  | none =>
    rw [Option.map_none, outcome?_none hscalar]
    constructor
    · rintro ⟨outcome, houtcome, rfl⟩
      cases hdefault : p.default? with -- without a share it is the default that is read
      | none =>
        rw [hdefault] at houtcome
        cases houtcome
        exact .missing hdefault
      | some text =>
        rw [hdefault] at houtcome
        obtain ⟨value, hvalue, rfl⟩ := Option.map_eq_some_iff.mp houtcome
        exact .filled hdefault hvalue
    · intro h
      cases h with
      | filled hdefault h =>
        rw [hdefault]
        simp only [h]
        exact ⟨_, rfl, rfl⟩
      | missing hdefault =>
        rw [hdefault]
        exact ⟨_, rfl, rfl⟩

def Regains (p : Parameter) (share : Share) (value? : Option Value) : Prop :=
  ∃ read?, p.Reads share read? ∧ Option.Rel Value.Same read? value?

end Parameter

/-! ### The outcomes of a match -/

/-- What a match tells about a parameter: a value made of a text that a path can show, or
    none for an optional parameter without a default. -/
structure Parameter.Outcome (p : Parameter) (entry : String × ParamValue) : Prop where
  name : entry.1 = p.name
  read : ∀ value, entry.2.value? = some value →
    value.Shown ∧ ∃ text, p.constrain (.text text) = some value
  missing : entry.2.value? = none → p.quantifier = .optional ∧ p.default? = none

theorem Parameter.Declared.outcome {p : Parameter} (hdeclared : p.Declared .empty)
    (hscalar : p.isCatchAll = false) {share : Share} (hshare : p.MayTake share)
    {outcome : ParamValue} (h : p.outcome? (share.map String.ofList) = some outcome) :
    p.Outcome (p.name, outcome) := by
  have hquantifier : p.quantifier ≠ .zeroOrMore := by
    intro heq
    simp [isCatchAll, heq, Quantifier.isCatchAll] at hscalar
  have hreads := (exists_outcome_iff hscalar hshare).mp ⟨outcome, h, rfl⟩
  have hread {text : String} {value : Value} (htext : text ≠ "")
      (hconstrain : p.constrain (.text text) = some value) :
      value.Shown ∧ ∃ text, p.constrain (.text text) = some value :=
    ⟨hdeclared.shown p.standard_empty htext hconstrain, text, hconstrain⟩
  refine ⟨rfl, ?_, ?_⟩
  · intro value hvalue
    change outcome.value? = some value at hvalue
    rw [hvalue] at hreads
    cases hreads with
    | run hconstrain =>
      apply hread _ hconstrain
      rw [Ne, Text.Percent.decode_eq_empty]
      simpa [String.ext_iff] using ne_nil_of_admits hscalar hshare
    | filled hdefault hconstrain =>
      exact hread (hdeclared.default_ne hdefault hquantifier) hconstrain
  · intro hnone
    change outcome.value? = none at hnone
    rw [hnone] at hreads
    cases hreads with
    | missing hdefault => exact ⟨hshare.resolve_right hquantifier, hdefault⟩

theorem outcomes_of_readShares? {parameters : List Parameter} {shares : List Share}
    {entries : List (String × ParamValue)} (hdeclared : ∀ p ∈ parameters, p.Declared .empty)
    (hscalar : ∀ p ∈ parameters, p.isCatchAll = false)
    (hshares : List.Forall₂ Parameter.MayTake parameters shares)
    (h : readShares? parameters shares = some entries) :
    List.Forall₂ Parameter.Outcome parameters entries :=
  forall₂_of_readShares? (fun p hp _ _ _ hshare => (hdeclared p hp).outcome (hscalar p hp) hshare)
    hshares h

/-! ### The values of a match -/

theorem names_of_forall₂ {r : Parameter → String × ParamValue → Prop}
    (hname : ∀ p entry, r p entry → entry.1 = p.name) {parameters : List Parameter}
    {entries : List (String × ParamValue)} (h : List.Forall₂ r parameters entries) :
    entries.map Prod.fst = parameters.map Parameter.name := by
  induction h with
  | nil => rfl
  | cons hfirst _ ih => rw [List.map_cons, List.map_cons, hname _ _ hfirst, ih]

namespace RouteValues

theorem setEntry_of_not_mem {name : String} {entries : List (String × Value)}
    (h : name ∉ entries.map Prod.fst) (value : Value) :
    setEntry name value entries = entries ++ [(name, value)] := by
  induction entries with
  | nil => rfl
  | cons entry rest ih =>
    rw [List.map_cons, List.mem_cons, not_or] at h
    rw [setEntry, if_neg (Ne.symm h.1), ih h.2]
    rfl

theorem entries_foldl_set {pairs : List (String × Value)} {values : RouteValues}
    (hnodup : (pairs.map Prod.fst).Nodup)
    (hnew : ∀ name ∈ pairs.map Prod.fst, name ∉ values.entries.map Prod.fst) :
    (pairs.foldl (fun values pair => values.set pair.1 pair.2) values).entries =
      values.entries ++ pairs := by
  induction pairs generalizing values with
  | nil => simp
  | cons pair rest ih =>
    rw [List.map_cons, List.nodup_cons] at hnodup
    have hset : (values.set pair.1 pair.2).entries = values.entries ++ [pair] :=
      setEntry_of_not_mem (hnew pair.1 List.mem_cons_self) pair.2
    have hrest : ∀ name ∈ rest.map Prod.fst,
        name ∉ (values.set pair.1 pair.2).entries.map Prod.fst := by
      intro name hname
      rw [hset, List.map_append, List.mem_append, not_or]
      refine ⟨hnew name (List.mem_cons_of_mem _ hname), ?_⟩
      intro hmem
      have heq : name = pair.1 := by simpa using hmem
      exact hnodup.1 (heq ▸ hname)
    rw [List.foldl_cons, ih hnodup.2 hrest, hset, List.append_assoc, List.singleton_append]

def valued (entries : List (String × ParamValue)) : List (String × Value) :=
  entries.filterMap fun entry => entry.2.value?.map fun value => (entry.1, value)

theorem valued_cons (entry : String × ParamValue) (rest : List (String × ParamValue)) :
    valued (entry :: rest) = match entry.2.value? with
      | some value => (entry.1, value) :: valued rest
      | none => valued rest := by
  unfold valued
  rw [List.filterMap_cons]
  cases entry.2.value? <;> rfl

theorem names_valued_sublist (entries : List (String × ParamValue)) :
    ((valued entries).map Prod.fst).Sublist (entries.map Prod.fst) := by
  induction entries with
  | nil => exact .slnil
  | cons entry rest ih =>
    rw [valued_cons, List.map_cons]
    cases entry.2.value? with
    | some value => exact ih.cons_cons _
    | none => exact ih.cons _

/-- The values of a match are its entries that have one, in their order. -/
theorem entries_ofParams {params : Params} (hnodup : (params.entries.map Prod.fst).Nodup) :
    (ofParams params).entries = valued params.entries :=
  entries_foldl_set (hnodup.sublist (names_valued_sublist params.entries)) (by simp [empty])

/-- Every parameter finds its value among those of the match. -/
theorem lookup_valued {entries : List (String × ParamValue)}
    (hnodup : (entries.map Prod.fst).Nodup) :
    ∀ entry ∈ entries, (valued entries).lookup entry.1 = entry.2.value? := by
  induction entries with
  | nil =>
    intro entry hentry
    cases hentry
  | cons head rest ih =>
    rw [List.map_cons, List.nodup_cons] at hnodup
    have hnot : head.1 ∉ (valued rest).map Prod.fst :=
      fun hmem => hnodup.1 ((names_valued_sublist rest).subset hmem)
    intro entry hentry
    rw [valued_cons]
    rcases List.mem_cons.mp hentry with rfl | hentry
    · cases entry.2.value? with
      | some value => simp
      | none => exact lookup_eq_none_iff_not_mem.mpr hnot
    · have hrest := ih hnodup.2 entry hentry
      cases head.2.value? with
      | some value =>
        have hne : entry.1 ≠ head.1 := fun heq => hnodup.1 (heq ▸ List.mem_map_of_mem hentry)
        simp only [List.lookup_cons, beq_false_of_ne hne]
        exact hrest
      | none => exact hrest

theorem eraseEntry_of_not_mem {name : String} {entries : List (String × Value)}
    (h : name ∉ entries.map Prod.fst) : eraseEntry name entries = entries := by
  induction entries with
  | nil => rfl
  | cons entry rest ih =>
    rw [List.map_cons, List.mem_cons, not_or] at h
    rw [eraseEntry, if_neg (Ne.symm h.1), ih h.2]

/-- The parameters take all values of the match. -/
theorem without_valued {entries : List (String × ParamValue)}
    (hnodup : (entries.map Prod.fst).Nodup) :
    (⟨valued entries⟩ : RouteValues).without (entries.map Prod.fst) = empty := by
  induction entries with
  | nil => rfl
  | cons head rest ih =>
    rw [List.map_cons, List.nodup_cons] at hnodup
    have hnot : head.1 ∉ (valued rest).map Prod.fst :=
      fun hmem => hnodup.1 ((names_valued_sublist rest).subset hmem)
    have htake : ((⟨valued (head :: rest)⟩ : RouteValues).take head.1).2 = ⟨valued rest⟩ := by
      unfold take
      rw [valued_cons]
      cases head.2.value? with
      | some value => simp [eraseEntry]
      | none => simp [eraseEntry_of_not_mem hnot]
    have hrest := ih hnodup.2
    unfold without at hrest ⊢
    rw [List.map_cons, List.foldl_cons, htake, hrest]

end RouteValues

end Routing
