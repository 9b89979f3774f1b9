/-
  Routing/Proofs/ExpressionWays.lean
  ==================================
  **The expression of a pattern matches along its decompositions.**  The ways of
  the expression are the decompositions of the path, in the same order: a part's
  items have the ways that the part is offered, and a text for the k-th parameter
  is the text of group k. So the expression matches exactly the paths that have a
  decomposition, and its groups are the shares of the preferred one.
-/
import Routing.Pattern.Basic
import Routing.Proofs.CanonicalPath
import Routing.Proofs.Decomposition
import Routing.Proofs.Ways

namespace Routing.Regex

/-! ### Sequences of expressions -/

def waysAll : List Regex → Ways
  | [] => Ways.nothing
  | r :: rest => (ways r).andThen (waysAll rest)

theorem ways_seqAll (rs : List Regex) : ways (seqAll rs) = waysAll rs := by
  induction rs with
  | nil => rfl
  | cons r rest ih =>
    cases rest with
    | nil => exact (Ways.andThen_nothing (ways r)).symm
    | cons next rest =>
      rw [seqAll, ways, ih]
      rfl

theorem waysAll_append (first second : List Regex) :
    waysAll (first ++ second) = (waysAll first).andThen (waysAll second) := by
  induction first with
  | nil => exact (Ways.nothing_andThen _).symm
  | cons r rest ih => rw [List.cons_append, waysAll, ih, waysAll, Ways.andThen_assoc]

theorem waysAll_singleton (r : Regex) : waysAll [r] = ways r :=
  Ways.andThen_nothing (ways r)

theorem ways_char (c : Char) (before : Option Char) (cs : List Char) :
    ways (char c) before cs = if [c] <+: cs then [⟨[c], []⟩] else [] := by
  cases cs with
  | nil => simp [char, ways]
  | cons d rest =>
    have hprefix : [c] <+: d :: rest ↔ d = c := by simp [List.cons_prefix_cons, eq_comm]
    simp only [char, ways, CharClass.contains_single, hprefix]
    by_cases h : d = c
    · rw [if_pos h, if_pos h, h]
    · rw [if_neg h, if_neg h]

/-- The characters of a text match where the text stands. -/
theorem waysAll_verbatim (text : List Char) (before : Option Char) (cs : List Char) :
    waysAll (Expression.verbatim text) before cs = if text <+: cs then [⟨text, []⟩] else [] := by
  induction text generalizing before cs with
  | nil => simp [Expression.verbatim, waysAll, Ways.nothing]
  | cons c text ih =>
    have hcons : waysAll (Expression.verbatim (c :: text)) before cs =
        ((ways (char c)).andThen (waysAll (Expression.verbatim text))) before cs := rfl
    rw [hcons, Ways.andThen, ways_char]
    by_cases hc : [c] <+: cs
    · obtain ⟨rest, rfl⟩ := hc
      simp only [if_pos (List.prefix_append [c] rest), List.flatMap_singleton, List.drop_left, ih]
      by_cases htext : text <+: rest
      · simp [htext, Way.append]
      · simp [htext]
    · have hnot : ¬ c :: text <+: cs := by
        rintro ⟨tail, rfl⟩
        exact hc ⟨text ++ tail, rfl⟩
      rw [if_neg hc, if_neg hnot]
      rfl

/-! ### Repetitions of a character set -/

/-- The list as it is, or from its end when greedy. -/
def inOrder (greedy : Bool) (texts : List (List Char)) : List (List Char) :=
  if greedy then texts.reverse else texts

def plain (texts : List (List Char)) : List Way :=
  texts.map fun text => ⟨text, []⟩

theorem runs_cons (kind : Char → Bool) (c : Char) (cs : List Char) :
    Expression.runs kind (c :: cs) =
      [] :: if kind c then (Expression.runs kind cs).map (c :: ·) else [] := by
  by_cases h : kind c
  · simp [Expression.runs, h]
  · simp [Expression.runs, h]

theorem ways_chars_cons (s : CharClass) (before : Option Char) (c : Char) (cs : List Char) :
    ways (.chars s) before (c :: cs) = if s.contains c then [⟨[c], []⟩] else [] := rfl

theorem chars_andThen (s : CharClass) (w : Ways) (before : Option Char) (c : Char)
    (cs : List Char) :
    ((ways (.chars s)).andThen w) before (c :: cs) =
      if s.contains c then (w (some c) cs).map (Way.append ⟨[c], []⟩) else [] := by
  rw [Ways.andThen, ways_chars_cons]
  by_cases h : s.contains c
  · simp [h, lastOf]
  · simp [h]

theorem solid_chars (s : CharClass) : (ways (.chars s)).solid = ways (.chars s) := by
  funext before cs
  cases cs with
  | nil => rfl
  | cons c cs =>
    rw [Ways.solid, ways_chars_cons]
    by_cases h : s.contains c
    · simp [h]
    · simp [h]

theorem map_append_plain (c : Char) (texts : List (List Char)) :
    (plain texts).map (Way.append ⟨[c], []⟩) = plain (texts.map (c :: ·)) := by
  simp [plain, Way.append]

theorem map_inOrder (greedy : Bool) (texts : List (List Char)) (f : List Char → List Char) :
    (inOrder greedy texts).map f = inOrder greedy (texts.map f) := by
  cases greedy <;> simp [inOrder]

/-- The empty text after the others when greedy, and before them otherwise. -/
def stopIn (greedy : Bool) (more : List Way) : List Way :=
  if greedy then more ++ [⟨[], []⟩] else ⟨[], []⟩ :: more

theorem goOnOrStop_nothing (greedy : Bool) (more : Ways) (before : Option Char)
    (cs : List Char) :
    Ways.goOnOrStop greedy more Ways.nothing before cs = stopIn greedy (more before cs) := by
  cases greedy <;> rfl

theorem plain_inOrder_cons (greedy : Bool) (texts : List (List Char)) :
    plain (inOrder greedy ([] :: texts)) = stopIn greedy (plain (inOrder greedy texts)) := by
  cases greedy <;> simp [plain, inOrder, stopIn]

/-- A repeated set matches the runs of its members, shortest or longest first. -/
theorem many_chars (s : CharClass) (greedy : Bool) {count : Nat} {cs : List Char}
    (hcount : cs.length ≤ count) (before : Option Char) :
    Ways.many greedy (ways (.chars s)) count before cs =
      plain (inOrder greedy (Expression.runs s.contains cs)) := by
  induction cs generalizing count before with
  | nil =>
    have hruns : plain (inOrder greedy (Expression.runs s.contains [])) = [⟨[], []⟩] := by
      cases greedy <;> rfl
    rw [hruns]
    cases count with
    | zero => rfl
    | succ count =>
      rw [Ways.many, goOnOrStop_nothing, solid_chars]
      cases greedy <;> rfl
  | cons c cs ih =>
    cases count with
    | zero => simp at hcount
    | succ count => -- every repetition takes one character, so the count outlasts the text
      have hlength : cs.length ≤ count := by simpa using hcount
      have hrest := ih hlength (some c)
      rw [Ways.many, goOnOrStop_nothing, solid_chars, chars_andThen, hrest, map_append_plain,
        map_inOrder, runs_cons, plain_inOrder_cons]
      by_cases h : s.contains c
      · rw [if_pos h, if_pos h]
      · rw [if_neg h, if_neg h]
        cases greedy <;> rfl

theorem ways_rep_chars_zero (s : CharClass) (greedy : Bool) (before : Option Char)
    (cs : List Char) :
    ways (.rep (.chars s) 0 none greedy) before cs =
      plain (inOrder greedy (Expression.runs s.contains cs)) := by
  rw [ways, Ways.times, Ways.nothing_andThen, many_chars s greedy (Nat.le_refl _)]

theorem ways_rep_chars_one (s : CharClass) (greedy : Bool) (before : Option Char)
    (cs : List Char) :
    ways (.rep (.chars s) 1 none greedy) before cs =
      plain (inOrder greedy (Expression.runs s.contains cs).tail) := by
  rw [ways, Ways.times, Ways.times, Ways.andThen_nothing]
  cases cs with
  | nil => cases greedy <;> rfl
  | cons c cs =>
    rw [chars_andThen, many_chars s greedy (Nat.le_refl _), map_append_plain, map_inOrder,
      runs_cons, List.tail_cons]
    by_cases h : s.contains c
    · rw [if_pos h, if_pos h]
    · rw [if_neg h, if_neg h]
      cases greedy <;> rfl

/-- What is optional is left out last when greedy, and first otherwise. -/
theorem ways_optional (greedy : Bool) (r : Regex) (before : Option Char) (cs : List Char) :
    ways (Expression.optional greedy r) before cs = stopIn greedy (ways r before cs) := by
  rw [Expression.optional, ways, Ways.times, Ways.nothing_andThen, Ways.upTo, Ways.upTo,
    Ways.andThen_nothing, goOnOrStop_nothing]

end Routing.Regex

namespace Routing.Expression

open Regex (Way waysAll ways)

/-! ### The ways of a part -/

theorem contains_complement (c : Char) :
    (CharClass.single c).complement.contains = fun d => d != c := by
  funext d
  rw [Bool.eq_iff_iff, CharClass.contains_complement_single, bne_iff_ne]

def textOf : Quantifier → Regex
  | .required | .optional => pieces
  | .oneOrMore => remainder 1
  | .zeroOrMore => remainder 0

/-- The group of a parameter has the texts that the parameter can take, in order. -/
theorem ways_group_textOf (index : Nat) (q : Quantifier) (before : Option Char) (cs : List Char) :
    ways (.group index (textOf q)) before cs =
      (choices q cs).map fun run => ⟨run, [(index, run)]⟩ := by
  have hgroup (r : Regex) (texts : List (List Char)) (h : ways r before cs = Regex.plain texts) :
      ways (.group index r) before cs = texts.map fun run => ⟨run, [(index, run)]⟩ := by
    simp only [ways, h, Regex.plain, List.map_map]
    rfl
  refine hgroup _ _ ?_
  cases q with
  | required | optional =>
    rw [textOf, pieces, Regex.ways_rep_chars_one, contains_complement]
    rfl
  | oneOrMore =>
    rw [textOf, remainder, Regex.ways_rep_chars_one, contains_complement]
    rfl
  | zeroOrMore =>
    rw [textOf, remainder, Regex.ways_rep_chars_zero, contains_complement]
    rfl

def groupsFrom : Nat → List Share → Regex.Groups
  | _, [] => []
  | index, none :: rest => groupsFrom (index + 1) rest
  | index, some run :: rest => (index, run) :: groupsFrom (index + 1) rest

/-- The way of an offer whose parameter has the group `index`. -/
def offerWay (index : Nat) (offer : List Share × List Char) : Way :=
  ⟨offer.2, groupsFrom index offer.1⟩

theorem waysAll_led_group (position : Position) (index : Nat) (q : Quantifier)
    (before : Option Char) (cs : List Char) :
    waysAll (verbatim position.lead ++ [.group index (textOf q)]) before cs =
      (taken position q cs).map (offerWay index) := by
  rw [Regex.waysAll_append, Regex.waysAll_singleton, Regex.Ways.andThen, Regex.waysAll_verbatim,
    taken]
  by_cases h : position.lead <+: cs
  · rw [if_pos h, if_pos h, List.flatMap_singleton, ways_group_textOf, List.map_map, List.map_map]
    rfl
  · rw [if_neg h, if_neg h]
    rfl

def Position.isFirst : Position → Bool
  | .inner => false
  | _ => true

def Position.isAlone : Position → Bool
  | .alone => true
  | _ => false

theorem lead_isFirst (position : Position) : Expression.lead position.isFirst = position.lead := by
  cases position <;> rfl

/-- An optional parameter keeps what its place asks for when it has no text. -/
theorem waysAll_led_optional (lead : List Char) (index : Nat) (before : Option Char)
    (cs : List Char) :
    waysAll (verbatim lead ++ [optional true (.group index pieces)]) before cs =
      waysAll (verbatim lead ++ [.group index pieces]) before cs ++
        (fixed lead [none] cs).map (offerWay index) := by
  simp only [Regex.waysAll_append, Regex.waysAll_singleton, Regex.Ways.andThen,
    Regex.waysAll_verbatim, Regex.ways_optional, Regex.stopIn, if_true, fixed]
  by_cases h : lead <+: cs
  · simp [h, offerWay, groupsFrom, Way.append]
  · simp [h]

/-- Alone in its segment it gives up the slash too. -/
theorem waysAll_optional (position : Position) (index : Nat) (p : Parameter)
    (hq : p.quantifier = .optional) (before : Option Char) (cs : List Char) :
    waysAll (partItems position.isFirst position.isAlone index (.parameter p)) before cs =
      (offers position (.parameter p) cs).map (offerWay index) := by
  have hled := waysAll_led_group position index .optional before cs
  simp only [partItems, hq, offers, lead_isFirst, List.map_append, ← hled]
  cases position with
  | alone => -- the group holds the slash, and both are left out together
    have hitems : [Regex.char '/', .group index pieces] =
        verbatim Position.alone.lead ++ [.group index (textOf .optional)] := rfl
    simp only [Position.isAlone, if_true, hitems, Regex.waysAll_singleton, Regex.ways_optional,
      Regex.ways_seqAll]
    rfl
  | leading | inner => -- what stands in front of the group stays
    simp only [Position.isAlone, Bool.false_eq_true, if_false]
    exact waysAll_led_optional _ index before cs

/-- **The items of a part have the ways that the part is offered.** -/
theorem waysAll_partItems (position : Position) (index : Nat) (part : Part)
    (before : Option Char) (cs : List Char) :
    waysAll (partItems position.isFirst position.isAlone index part) before cs =
      (offers position part cs).map (offerWay index) := by
  cases part with
  | literal text =>
    rw [partItems, lead_isFirst, Regex.waysAll_verbatim, offers, fixed]
    split <;> rfl
  | parameter p =>
    have hled := waysAll_led_group position index p.quantifier before cs
    cases hq : p.quantifier with
    | optional => exact waysAll_optional position index p hq before cs
    | required =>
      simp only [partItems, hq, offers, lead_isFirst] at hled ⊢
      exact hled
    | oneOrMore =>
      simp only [partItems, hq, offers, lead_isFirst, Regex.waysAll_singleton,
        Regex.ways_seqAll] at hled ⊢
      exact hled
    | zeroOrMore =>
      simp only [partItems, hq, offers, lead_isFirst, Regex.waysAll_singleton,
        Regex.ways_optional, Regex.ways_seqAll, List.map_cons] at hled ⊢
      rw [← hled]
      rfl

/-! ### The ways of the whole expression -/

def itemsOf : Nat → List (Position × Part) → List Regex
  | _, [] => []
  | index, (position, part) :: rest =>
    partItems position.isFirst position.isAlone index part ++
      itemsOf (index + groupCount part) rest

theorem itemsOf_append (index : Nat) (first second : List (Position × Part)) :
    itemsOf index (first ++ second) =
      itemsOf index first ++ itemsOf (index + (parametersOf first).length) second := by
  induction first generalizing index with
  | nil => rfl
  | cons head rest ih =>
    obtain ⟨position, part⟩ := head
    rw [List.cons_append, itemsOf, itemsOf, ih, length_parametersOf_cons, List.append_assoc,
      Nat.add_assoc]

theorem partsItems_inner (index : Nat) (parts : List Part) :
    partsItems false false index parts =
      itemsOf index (parts.map fun part => (Position.inner, part)) := by
  induction parts generalizing index with
  | nil => rfl
  | cons part rest ih =>
    rw [partsItems, ih]
    rfl

theorem partsItems_placedParts (index : Nat) (s : Segment) :
    partsItems (s.parts.length == 1) true index s.parts = itemsOf index (placedParts s) := by
  obtain ⟨parts⟩ := s
  match parts with
  | [] => rfl
  | [part] => rfl
  | part :: next :: rest =>
    have hlength : ((part :: next :: rest).length == 1) = false := by simp
    rw [hlength, partsItems, partsItems_inner]
    rfl

theorem segmentsItems_eq (index : Nat) (segments : List Segment) :
    segmentsItems index segments = itemsOf index (placed segments) := by
  induction segments generalizing index with
  | nil => rfl
  | cons s rest ih =>
    have hplaced : placed (s :: rest) = placedParts s ++ placed rest := rfl
    rw [segmentsItems, ih, partsItems_placedParts, hplaced, itemsOf_append,
      parametersOf_placedParts]

theorem groupsFrom_append (index : Nat) (first second : List Share) :
    groupsFrom index (first ++ second) =
      groupsFrom index first ++ groupsFrom (index + first.length) second := by
  induction first generalizing index with
  | nil => rfl
  | cons share rest ih =>
    have hindex : index + (share :: rest).length = index + 1 + rest.length := by
      rw [List.length_cons]
      omega
    cases share with
    | none => rw [List.cons_append, groupsFrom, groupsFrom, ih, hindex]
    | some run => rw [List.cons_append, groupsFrom, groupsFrom, ih, hindex, List.cons_append]

/-- What ends the expression of a pattern: a slash that may be missing. -/
theorem waysAll_ending (before : Option Char) (cs : List Char) :
    waysAll [optional true (Regex.char '/'), .look .textEnd] before cs =
      if cs = [] ∨ cs = ['/'] then [⟨cs, []⟩] else [] := by
  have hend (before : Option Char) (cs : List Char) :
      ways (.look .textEnd) before cs = if cs = [] then [⟨[], []⟩] else [] := by
    cases cs <;> rfl
  rw [waysAll, Regex.waysAll_singleton, Regex.Ways.andThen, Regex.ways_optional, Regex.stopIn,
    if_pos rfl, Regex.ways_char]
  -- nothing, one character, or more than the ending could match
  rcases cs with _ | ⟨c, _ | ⟨d, rest⟩⟩
  · rfl
  · by_cases hc : c = '/'
    · subst hc
      rfl
    · have hnot : ¬ ['/'] <+: [c] := by simp [List.cons_prefix_cons, Ne.symm hc]
      simp [hnot, hend, hc]
  · by_cases hc : c = '/'
    · subst hc
      simp [hend, List.cons_prefix_cons]
    · have hnot : ¬ ['/'] <+: c :: d :: rest := by simp [List.cons_prefix_cons, Ne.symm hc]
      simp [hnot, hend]

/-- **The ways of the expression are the decompositions**, in the same order, each with
    the shares as groups. -/
theorem waysAll_itemsOf (index : Nat) (parts : List (Position × Part)) (before : Option Char)
    (cs : List Char) :
    waysAll (itemsOf index parts ++ [optional true (Regex.char '/'), .look .textEnd]) before cs =
      (decompositions parts cs).map fun shares => ⟨cs, groupsFrom index shares⟩ := by
  induction parts generalizing index before cs with
  | nil =>
    rw [itemsOf, List.nil_append, waysAll_ending, decompositions]
    split <;> rfl
  | cons head rest ih =>
    obtain ⟨position, part⟩ := head
    rw [itemsOf, List.append_assoc, Regex.waysAll_append, Regex.Ways.andThen,
      waysAll_partItems, decompositions, List.flatMap_map, List.map_flatMap]
    refine List.flatMap_congr fun offer hoffer => ?_
    obtain ⟨shares, text⟩ := offer
    obtain ⟨htakes, tail, rfl⟩ := mem_offers.mp hoffer
    -- the groups of the rest are numbered on from those of the part
    rw [ih, List.map_map, List.map_map]
    refine List.map_congr_left fun others _ => ?_
    simp [offerWay, Way.append, groupsFrom_append, htakes.length_shares]

theorem ways_slash {cs : List Char} (hne : cs ≠ []) (before : Option Char) :
    ways (.seq (Regex.char '/') (.look .textEnd)) before cs =
      waysAll [optional true (Regex.char '/'), .look .textEnd] before cs := by
  rw [waysAll, Regex.waysAll_singleton]
  simp only [ways, Regex.Ways.andThen, Regex.ways_optional, Regex.stopIn, if_true,
    List.flatMap_append]
  cases cs with
  | nil => exact absurd rfl hne
  | cons c rest => simp [Look.holds]

/-- **The groups of a path are the shares of its first decomposition.** -/
theorem captures_tree (segments : List Segment) {path : String} (hpath : path.toList ≠ []) :
    (tree segments).captures path =
      (decompositions (placed segments) path.toList).head?.map (groupsFrom 1) := by
  have hways := waysAll_itemsOf 1 (placed segments) none path.toList
  rw [tree, segmentsItems_eq]
  -- a pattern without parts matches the root alone, and its slash must be there
  by_cases hempty : itemsOf 1 (placed segments) = []
  · rw [hempty, List.nil_append] at hways
    simp only [hempty, List.isEmpty_nil, if_true]
    rw [Regex.captures_anchored, ways_slash hpath, hways, List.head?_map, Option.map_map]
    rfl
  · have hitems : (itemsOf 1 (placed segments)).isEmpty = false := by
      simpa using hempty
    have htree : Regex.seqAll ([.look .textStart] ++ itemsOf 1 (placed segments) ++
        [optional true (Regex.char '/'), .look .textEnd]) =
        .seq (.look .textStart) (Regex.seqAll (itemsOf 1 (placed segments) ++
          [optional true (Regex.char '/'), .look .textEnd])) := by
      cases hlist : itemsOf 1 (placed segments) with
      | nil => exact absurd hlist hempty
      | cons r rest => rfl
    simp only [hitems, Bool.false_eq_true, if_false]
    rw [htree, Regex.captures_anchored, Regex.ways_seqAll, hways, List.head?_map, Option.map_map]
    rfl

/-! ### The groups of a path -/

/-- **The groups of a match are the shares of the preferred decomposition.** -/
theorem captures_tree_eq_some_iff (segments : List Segment) {path : String}
    (hpath : path.toList ≠ []) {groups : Regex.Groups} :
    (tree segments).captures path = some groups ↔
      ∃ shares, Preferred segments path.toList shares ∧ groupsFrom 1 shares = groups := by
  simp only [captures_tree segments hpath, Option.map_eq_some_iff, head?_decompositions]

theorem lookup_groupsFrom_of_lt {number index : Nat} (hlt : number < index)
    (shares : List Share) : (groupsFrom index shares).lookup number = none := by
  induction shares generalizing index with
  | nil => rfl
  | cons share rest ih =>
    have hrest := ih (Nat.lt_succ_of_lt hlt)
    cases share with
    | none => exact hrest
    | some run =>
      rw [groupsFrom, List.lookup_cons, beq_false_of_ne (Nat.ne_of_lt hlt)]
      exact hrest

theorem lookup_groupsFrom (index place : Nat) (shares : List Share) :
    (groupsFrom index shares).lookup (index + place) = shares[place]?.join := by
  induction shares generalizing index place with
  | nil => rfl
  | cons share rest ih =>
    cases place with
    | zero =>
      cases share with
      | none => exact lookup_groupsFrom_of_lt (Nat.lt_succ_self index) rest
      | some run => simp [groupsFrom]
    | succ place =>
      have hrest := ih (index + 1) place
      rw [show index + 1 + place = index + (place + 1) by omega] at hrest
      cases share with
      | none => exact hrest
      | some run =>
        have hne : index + (place + 1) ≠ index := by omega
        rw [groupsFrom, List.lookup_cons, beq_false_of_ne hne]
        exact hrest

end Routing.Expression

namespace Routing.RoutePattern

open Expression (Decomposes Preferred Share)

/-- **A rooted path matches when its normal form has a decomposition, and its groups are
    what the parameters take in the preferred one.** -/
theorem captures_normalized (p : RoutePattern) {path : String}
    (hrooted : Path.isRooted path.toList) :
    ∃ normal, Path.normalize path = some normal ∧
      ((p.regex.captures normal).isSome ↔
        ∃ shares, Decomposes p.segments normal.toList shares) ∧
      ∀ groups, p.regex.captures normal = some groups →
        ∃ shares, Preferred p.segments normal.toList shares ∧
          shares.length = p.parameters.length ∧
          ∀ i, groups.lookup (i + 1) = shares[i]?.join := by
  have hnormal : (String.ofList (Path.canonical path)).toList ≠ [] := by
    rw [String.toList_ofList]
    exact Path.canonical_ne_nil path
  refine ⟨_, Path.normalize_of_isRooted hrooted, ?_, ?_⟩
  · rw [Option.isSome_iff_exists]
    constructor
    · rintro ⟨groups, hgroups⟩
      obtain ⟨shares, hpreferred, -⟩ :=
        (Expression.captures_tree_eq_some_iff p.segments hnormal).mp hgroups
      exact ⟨shares, hpreferred.decomposes⟩
    · rintro ⟨shares, hdecomposes⟩
      obtain ⟨best, hbest⟩ := Expression.exists_preferred hdecomposes
      exact ⟨_, (Expression.captures_tree_eq_some_iff p.segments hnormal).mpr ⟨best, hbest, rfl⟩⟩
  · intro groups hgroups
    obtain ⟨shares, hpreferred, rfl⟩ :=
      (Expression.captures_tree_eq_some_iff p.segments hnormal).mp hgroups
    refine ⟨shares, hpreferred, hpreferred.decomposes.length_shares, fun i => ?_⟩
    rw [Nat.add_comm]
    exact Expression.lookup_groupsFrom 1 i shares

/-- An optional parameter before a literal leaves the literal its piece. -/
theorem captures_normalized_edit :
    let p : RoutePattern := ⟨"/\x7bname?\x7d/edit",
      [⟨[.parameter ⟨"name", .optional, [], none⟩]⟩, ⟨[.literal "edit"]⟩]⟩
    Path.isRooted "//edit/".toList ∧ Path.normalize "//edit/" = some "/edit" ∧
      p.regex.captures "/edit" = some [] ∧ Preferred p.segments "/edit".toList [none] := by
  refine ⟨rfl, rfl, rfl, ?_⟩
  have hrooted : Path.isRooted "//edit/".toList := rfl
  obtain ⟨normal, hnormal, -, hgroups⟩ := captures_normalized
    ⟨"/\x7bname?\x7d/edit", [⟨[.parameter ⟨"name", .optional, [], none⟩]⟩, ⟨[.literal "edit"]⟩]⟩
    hrooted
  have hpath : "/edit" = normal := Option.some.inj hnormal
  subst hpath
  obtain ⟨shares, hpreferred, hlength, hshares⟩ := hgroups [] rfl
  obtain ⟨share, rfl⟩ := List.length_eq_one_iff.mp hlength
  have hnone : none = share := hshares 0
  rwa [hnone]

end Routing.RoutePattern
