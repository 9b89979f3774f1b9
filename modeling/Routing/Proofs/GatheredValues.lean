/-
  Routing/Proofs/GatheredValues.lean
  ==================================
  **The values of a command line, gathered by name.**  An argument gives a text under a name,
  the part before its first equals sign. A name that is given once has its text as its value,
  and one that is given several times the list of its texts; names come in the order in which
  they are first given, whatever is given between.

  The program decides from the value so far whether to start a list or to go on with one, so
  the invariant says for every name at once what the arguments read so far have given.
-/
import Routing.CommandLine.Run
import Routing.Proofs.DistinctNames
import Routing.Proofs.Results

namespace Routing

theorem eraseDups_concat {α : Type} [DecidableEq α] (l : List α) (a : α) :
    (l ++ [a]).eraseDups = if a ∈ l then l.eraseDups else l.eraseDups ++ [a] := by
  rw [List.eraseDups_append]
  split
  · next hmem => simp [List.removeAll, hmem]
  · next hnew => simp [List.removeAll, hnew, List.eraseDups_cons]

namespace CommandLine

/-! ### What arguments give -/

structure Gives (argument : String) (pair : String × String) : Prop where
  toList : argument.toList = pair.1.toList ++ '=' :: pair.2.toList
  name : '=' ∉ pair.1.toList

theorem exists_gives_iff {argument : String} :
    (∃ pair, Gives argument pair) ↔ '=' ∈ argument.toList := by
  constructor
  · rintro ⟨pair, hpair, -⟩
    rw [hpair]
    exact List.mem_append_right _ List.mem_cons_self
  · intro hmem
    obtain ⟨name, text, heq, hname⟩ := List.eq_append_cons_of_mem hmem
    refine ⟨(String.ofList name, String.ofList text), ?_, ?_⟩
    · rw [heq, String.toList_ofList, String.toList_ofList]
    · rwa [String.toList_ofList]

def textsFor (pairs : List (String × String)) (name : String) : List String :=
  (pairs.filter fun pair => pair.1 = name).map Prod.snd

theorem textsFor_concat (pairs : List (String × String)) (name text other : String) :
    textsFor (pairs ++ [(name, text)]) other =
      if other = name then textsFor pairs other ++ [text] else textsFor pairs other := by
  unfold textsFor
  rw [List.filter_append, List.map_append]
  split
  · next heq => simp [heq]
  · next hne => simp [Ne.symm hne]

/-- The value of a name that has the given texts: a single one, or the list of several. -/
def together? : List String → Option Value
  | [] => none
  | [text] => some (.text text)
  | texts => some (.list (texts.map .text))

/-- One more text goes behind those that are there. -/
theorem together?_concat (texts : List String) (text : String) :
    together? (texts ++ [text]) = some (gathered (together? texts) text) := by
  rcases texts with _ | ⟨first, _ | ⟨second, rest⟩⟩
  · rfl
  · rfl
  · simp [together?, gathered]

theorem two_le_of_together?_list {texts : List String} {items : List Value}
    (h : together? texts = some (.list items)) :
    2 ≤ items.length ∧ ∀ item ∈ items, ∃ text, item = .text text := by
  rcases texts with _ | ⟨first, _ | ⟨second, rest⟩⟩
  · cases h
  · cases h
  · cases h
    refine ⟨by simp, fun item hitem => ?_⟩
    obtain ⟨text, -, rfl⟩ := List.mem_map.mp hitem
    exact ⟨text, rfl⟩

/-! ### Reading one argument -/

def readArgument (values : RouteValues) (argument : String) : Except String RouteValues :=
  match Text.cutAt '=' argument.toList with
  | none => .error argument
  | some (name, text) =>
    let name := String.ofList name
    .ok (values.set name (gathered (values.get? name) (String.ofList text)))

theorem parseValues_eq (arguments : List String) :
    parseValues arguments = arguments.foldlM readArgument .empty :=
  rfl

/-- A name keeps its place when one more text is given for it. -/
theorem readArgument_of_gives {argument name text : String} (h : Gives argument (name, text))
    (values : RouteValues) : readArgument values argument =
      .ok (values.set name (gathered (values.get? name) text)) := by
  rw [readArgument, h.toList, Text.cutAt_append h.name]
  simp only [String.ofList_toList]

/-- An argument is refused for want of an equals sign, and for nothing else. -/
theorem readArgument_eq_error_iff {values : RouteValues} {argument e : String} :
    readArgument values argument = .error e ↔ e = argument ∧ '=' ∉ argument.toList := by
  by_cases hmem : '=' ∈ argument.toList
  · obtain ⟨pair, hpair⟩ := exists_gives_iff.mpr hmem
    simp [readArgument_of_gives hpair, hmem]
  · rw [readArgument, Text.cutAt_eq_none hmem]
    simp [hmem, eq_comm]

/-! ### Reading all arguments -/

/-- The values that pairs give together: one for each name, in the order in which the names
    first occur, made of all texts under the name. -/
structure Gathers (pairs : List (String × String)) (values : RouteValues) : Prop where
  names : values.names = (pairs.map Prod.fst).eraseDups
  distinct : values.Distinct
  get? : ∀ name, values.get? name = together? (textsFor pairs name)

theorem Gathers.empty : Gathers [] .empty :=
  ⟨rfl, .nil, fun _ => rfl⟩

/-- **One more argument keeps the values gathered.** -/
theorem Gathers.set {pairs : List (String × String)} {values : RouteValues}
    (h : Gathers pairs values) (name text : String) :
    Gathers (pairs ++ [(name, text)])
      (values.set name (gathered (values.get? name) text)) := by
  refine ⟨?_, h.distinct.set name _, fun other => ?_⟩
  · have hmem : name ∈ values.names ↔ name ∈ pairs.map Prod.fst := by
      rw [h.names, List.mem_eraseDups]
    rw [List.map_append, List.map_singleton, eraseDups_concat, ← h.names]
    simp only [← hmem]
    exact RouteValues.names_set values name _
  · rw [RouteValues.get?_set, textsFor_concat]
    split
    · next heq => rw [heq, together?_concat, h.get?]
    · next hne => exact h.get? other

/-- Reading arguments that all give something succeeds and keeps the values gathered. -/
theorem Gathers.run {arguments : List String} {pairs earlier : List (String × String)}
    (hgives : List.Forall₂ Gives arguments pairs) {values : RouteValues}
    (h : Gathers earlier values) :
    ∃ final, arguments.foldlM readArgument values = .ok final ∧
      Gathers (earlier ++ pairs) final := by
  -- along the arguments; what is left of them comes behind the pairs read so far
  induction hgives generalizing earlier values with
  | nil => exact ⟨values, rfl, by rwa [List.append_nil]⟩
  | @cons argument pair arguments pairs hfirst _ ih =>
    obtain ⟨name, text⟩ := pair
    obtain ⟨final, hfinal, hgathers⟩ := ih (h.set name text)
    refine ⟨final, ?_, ?_⟩
    · exact Except.foldlM_cons_eq_ok.mpr ⟨_, readArgument_of_gives hfirst values, hfinal⟩
    · rwa [List.append_assoc] at hgathers

theorem exists_gives_all_iff {arguments : List String} :
    (∃ pairs, List.Forall₂ Gives arguments pairs) ↔
      ∀ argument ∈ arguments, '=' ∈ argument.toList := by
  constructor
  · rintro ⟨pairs, hpairs⟩ argument hmem
    obtain ⟨pair, -, hpair⟩ := exists_right_of_forall₂ hpairs argument hmem
    exact exists_gives_iff.mp ⟨pair, hpair⟩
  · intro h
    induction arguments with
    | nil => exact ⟨[], .nil⟩
    | cons argument arguments ih =>
      obtain ⟨hfirst, hrest⟩ := List.forall_mem_cons.mp h
      obtain ⟨pair, hpair⟩ := exists_gives_iff.mpr hfirst
      obtain ⟨pairs, hpairs⟩ := ih hrest
      exact ⟨pair :: pairs, .cons hpair hpairs⟩

theorem equals_mem_of_foldlM {arguments : List String} {values final : RouteValues}
    (h : arguments.foldlM readArgument values = .ok final) :
    ∀ argument ∈ arguments, '=' ∈ argument.toList := by
  induction arguments generalizing values with
  | nil => simp
  | cons argument arguments ih =>
    obtain ⟨next, hnext, hrest⟩ := Except.foldlM_cons_eq_ok.mp h
    refine List.forall_mem_cons.mpr ⟨?_, ih hrest⟩
    by_contra hmem
    rw [readArgument_eq_error_iff.mpr ⟨rfl, hmem⟩] at hnext
    cases hnext

theorem parseValues_eq_error_iff {arguments : List String} {e : String} :
    parseValues arguments = .error e ↔ ∃ before after, arguments = before ++ e :: after ∧
      (∀ earlier ∈ before, '=' ∈ earlier.toList) ∧ '=' ∉ e.toList := by
  rw [parseValues_eq, Except.foldlM_eq_error_iff]
  constructor
  · rintro ⟨before, argument, after, mid, heq, hbefore, herror⟩
    obtain ⟨rfl, hnone⟩ := readArgument_eq_error_iff.mp herror
    exact ⟨before, after, heq, equals_mem_of_foldlM hbefore, hnone⟩
  · rintro ⟨before, after, heq, hbefore, hnone⟩
    obtain ⟨pairs, hpairs⟩ := exists_gives_all_iff.mpr hbefore
    obtain ⟨mid, hmid, -⟩ := Gathers.empty.run hpairs
    exact ⟨before, e, after, mid, heq, hmid, readArgument_eq_error_iff.mpr ⟨rfl, hnone⟩⟩

/-- **The arguments are gathered by name without loss.**  They are refused exactly if one of
    them has no equals sign, and the first such is reported. Otherwise every argument gives its
    text under its name, and the values are what these give together; a list among them has at
    least two items, all of them texts. -/
theorem parseValues_gathers (arguments : List String) :
    ((∃ e, parseValues arguments = .error e) ↔ ∃ argument ∈ arguments, '=' ∉ argument.toList) ∧
    (∀ e, parseValues arguments = .error e ↔ ∃ before after, arguments = before ++ e :: after ∧
      (∀ earlier ∈ before, '=' ∈ earlier.toList) ∧ '=' ∉ e.toList) ∧
    ((∃ pairs, List.Forall₂ Gives arguments pairs) ↔
      ∀ argument ∈ arguments, '=' ∈ argument.toList) ∧
    ∀ pairs, List.Forall₂ Gives arguments pairs → ∃ values,
      parseValues arguments = .ok values ∧ Gathers pairs values ∧
      ∀ name items, values.get? name = some (.list items) →
        2 ≤ items.length ∧ ∀ item ∈ items, ∃ text, item = .text text := by
  refine ⟨?_, fun e => parseValues_eq_error_iff, exists_gives_all_iff, ?_⟩
  · constructor
    · rintro ⟨e, he⟩
      obtain ⟨before, after, rfl, -, hnone⟩ := parseValues_eq_error_iff.mp he
      exact ⟨e, List.mem_append_right _ List.mem_cons_self, hnone⟩
    · rintro ⟨argument, hmem, hnone⟩
      cases hvalues : parseValues arguments with
      | error e => exact ⟨e, rfl⟩
      | ok values => exact absurd (equals_mem_of_foldlM hvalues argument hmem) hnone
  · intro pairs hpairs
    obtain ⟨values, hvalues, hgathers⟩ := Gathers.empty.run hpairs
    refine ⟨values, hvalues, hgathers, fun name items hlist => ?_⟩
    rw [hgathers.get?] at hlist
    exact two_le_of_together?_list hlist

/-- A name that comes back after others has a list in its first place. -/
theorem parseValues_gathers_turns :
    ∃ values, parseValues ["path=a", "q=b=c", "path=", "=d", "path=a"] = .ok values ∧
      values.names = ["path", "q", ""] ∧
      values.get? "path" = some (.list [.text "a", .text "", .text "a"]) ∧
      values.get? "q" = some (.text "b=c") ∧ values.get? "" = some (.text "d") := by
  have hpairs : List.Forall₂ Gives ["path=a", "q=b=c", "path=", "=d", "path=a"]
      [("path", "a"), ("q", "b=c"), ("path", ""), ("", "d"), ("path", "a")] :=
    .cons ⟨rfl, by decide⟩ (.cons ⟨rfl, by decide⟩ (.cons ⟨rfl, by decide⟩
      (.cons ⟨rfl, by decide⟩ (.cons ⟨rfl, by decide⟩ .nil))))
  obtain ⟨-, -, -, hall⟩ := parseValues_gathers ["path=a", "q=b=c", "path=", "=d", "path=a"]
  obtain ⟨values, hvalues, hgathers, -⟩ := hall _ hpairs
  refine ⟨values, hvalues, ?_, ?_, ?_, ?_⟩
  · rw [hgathers.names]
    decide
  · rw [hgathers.get?]
    rfl
  · rw [hgathers.get?]
    rfl
  · rw [hgathers.get?]
    rfl

end CommandLine

end Routing
