/-
  Routing/Proofs/WrittenExpression.lean
  =====================================
  **The written form of an expression is read as the expression.**  Whatever characters the
  literals have, the text that is put together for segments is an expression, and reading it
  gives the tree: every literal its own characters, and every parameter its group.

  The reader goes on one step at a time, so the written parts are followed one after another:
  `Reading` says that a text, in front of anything but a question mark, leaves certain items
  behind and the open groups as they were.
-/
import Routing.Proofs.ExpressionWays
import Routing.Regex.Size
import Routing.Regex.Parse
import Mathlib.Logic.Relation

namespace Routing.Regex

/-! ### Steps of the reader -/

inductive Step : Reader × List Char → Reader × List Char → Prop
  | intro {r r' : Reader} {c : Char} {cs rest : List Char} (hflags : r.flags = {})
      (hread : readStep r c cs = .ok (r', rest)) (hlength : rest.length ≤ cs.length) :
      Step (r, c :: cs) (r', rest)

abbrev Steps : Reader × List Char → Reader × List Char → Prop :=
  Relation.ReflTransGen Step

theorem skip_nil (flags : Flags) : flags.skip [] = [] := by
  unfold Flags.skip
  split <;> rfl

/-- **Steps to the end are what reading the whole text comes to.** Every step takes a
    character, so the fuel lasts. -/
theorem readAll_of_steps {start : Reader × List Char} {r : Reader} (h : Steps start (r, []))
    {fuel : Nat} (hfuel : start.2.length ≤ fuel) : readAll fuel start.1 start.2 = .ok r := by
  induction h using Relation.ReflTransGen.head_induction_on generalizing fuel with
  | refl =>
    cases fuel with
    | zero => rfl
    | succ fuel => rw [readAll, skip_nil]
  | head hstep _ ih =>
    obtain @⟨before, after, c, cs, rest, hflags, hread, hlength⟩ := hstep
    cases fuel with
    | zero => cases hfuel
    | succ fuel =>
      have hskip : before.flags.skip (c :: cs) = c :: cs := by
        rw [hflags]
        rfl
      rw [readAll, hskip]
      simp only [hread]
      exact ih (hlength.trans (Nat.le_of_succ_le_succ hfuel))

/-! ### Characters -/

def Reader.extend (r : Reader) (added : List Item) (count : Nat) : Reader :=
  { r with items := added.reverse ++ r.items, groups := r.groups + count }

@[simp] theorem Reader.extend_flags (r : Reader) (added : List Item) (count : Nat) :
    (r.extend added count).flags = r.flags := rfl

@[simp] theorem Reader.extend_groups (r : Reader) (added : List Item) (count : Nat) :
    (r.extend added count).groups = r.groups + count := rfl

theorem Reader.extend_extend (r : Reader) (first second : List Item) (count more : Nat) :
    (r.extend first count).extend second more = r.extend (first ++ second) (count + more) := by
  simp [Reader.extend, Nat.add_assoc]

def charItem (c : Char) : Item :=
  .leaf (char c)

/-- A character without a meaning of its own stands for itself. -/
theorem readStep_plain {r : Reader} (hflags : r.flags = {}) {c : Char} (hc : isMeta c = false)
    (rest : List Char) : readStep r c rest = .ok (r.extend [charItem c] 0, rest) := by
  unfold readStep
  split <;> first
    | exact absurd hc (by decide)
    | simp only [Escape.item, hflags]
      rfl

/-- A character with a meaning stands for itself behind a backslash. -/
theorem readStep_escaped {r : Reader} (hflags : r.flags = {}) {c : Char} (hc : isMeta c)
    (rest : List Char) :
    readStep r '\\' (c :: rest) = .ok (r.extend [charItem c] 0, rest) := by
  have hdigit : c.isDigit = false := by
    simp only [isMeta, List.contains_eq_mem, decide_eq_true_eq] at hc
    revert c
    simp
  have hescape : readEscape {} (c :: rest) = .ok (.char c, rest) := by
    simp [readEscape, hdigit, isEscapable, hc]
  simp only [readStep, hflags, hescape]
  rfl

/-- A literal is read as its characters, whatever they mean in an expression. -/
theorem steps_escaped {r : Reader} (hflags : r.flags = {}) (cs rest : List Char) :
    Steps (r, Expression.escaped cs ++ rest) (r.extend (cs.map charItem) 0, rest) := by
  induction cs generalizing r with
  | nil => exact .refl
  | cons c cs ih =>
    have htail := ih (r := r.extend [charItem c] 0) hflags
    rw [Reader.extend_extend] at htail
    by_cases hc : isMeta c
    · have hescaped : Expression.escaped (c :: cs) = '\\' :: c :: Expression.escaped cs := by
        simp [Expression.escaped, hc]
      rw [hescaped]
      exact .head (.intro hflags (readStep_escaped hflags hc _) (by simp)) htail
    · have hescaped : Expression.escaped (c :: cs) = c :: Expression.escaped cs := by
        simp [Expression.escaped, hc]
      rw [hescaped]
      exact .head (.intro hflags (readStep_plain hflags (by simpa using hc) _) (by simp)) htail

/-! ### Groups -/

def textSource : Quantifier → List Char
  | .required | .optional => ['[', '^', '/', ']', '+', '?']
  | .oneOrMore => ['.', '+']
  | .zeroOrMore => ['.', '*']

def textItem (q : Quantifier) : Item :=
  ⟨Expression.textOf q, if q.isCatchAll then 1 else 2, true⟩

/-- Before a closing parenthesis, the texts of a parameter are read as they are meant. -/
theorem steps_textSource {r : Reader} (hflags : r.flags = {}) (q : Quantifier)
    (rest : List Char) :
    Steps (r, textSource q ++ ')' :: rest) (r.extend [textItem q] 0, ')' :: rest) := by
  obtain ⟨flags, outer, branches, items, groups, names⟩ := r
  cases hflags
  let r : Reader := ⟨{}, outer, branches, items, groups, names⟩
  cases q with
  | required | optional =>
    let others : Item := ⟨.chars (CharClass.single '/').complement, 1, true⟩
    have hbracket : readStep r '[' ('^' :: '/' :: ']' :: '+' :: '?' :: ')' :: rest) =
        .ok (r.extend [others] 0, '+' :: '?' :: ')' :: rest) := rfl
    have hrepeat : readStep (r.extend [others] 0) '+' ('?' :: ')' :: rest) =
        .ok (r.extend [textItem .required] 0, ')' :: rest) := rfl
    exact .head (.intro rfl hbracket (by simp)) (.single (.intro rfl hrepeat (by simp)))
  | oneOrMore =>
    let others : Item := .leaf (.chars (CharClass.single '\n').complement)
    have hdot : readStep r '.' ('+' :: ')' :: rest) =
        .ok (r.extend [others] 0, '+' :: ')' :: rest) := rfl
    have hrepeat : readStep (r.extend [others] 0) '+' (')' :: rest) =
        .ok (r.extend [textItem .oneOrMore] 0, ')' :: rest) := rfl
    exact .head (.intro rfl hdot (by simp)) (.single (.intro rfl hrepeat (by simp)))
  | zeroOrMore =>
    let others : Item := .leaf (.chars (CharClass.single '\n').complement)
    have hdot : readStep r '.' ('*' :: ')' :: rest) =
        .ok (r.extend [others] 0, '*' :: ')' :: rest) := rfl
    have hrepeat : readStep (r.extend [others] 0) '*' (')' :: rest) =
        .ok (r.extend [textItem .zeroOrMore] 0, ')' :: rest) := rfl
    exact .head (.intro rfl hdot (by simp)) (.single (.intro rfl hrepeat (by simp)))

/-- Wherever `index` is the number of the next group, the text leaves the item behind and has
    one numbered group. -/
def ReadsItem (text : List Char) (index : Nat) (item : Item) : Prop :=
  ∀ (r : Reader) (rest : List Char), r.flags = {} → r.groups + 1 = index →
    Steps (r, text ++ rest) (r.extend [item] 1, rest)

def groupSource (q : Quantifier) : List Char :=
  '(' :: (textSource q ++ [')'])

def groupItem (index : Nat) (q : Quantifier) : Item :=
  ⟨.group index (Expression.textOf q), (textItem q).depth + 1, true⟩

theorem readsItem_group (index : Nat) (q : Quantifier) :
    ReadsItem (groupSource q) index (groupItem index q) := by
  rintro ⟨flags, outer, branches, items, groups, names⟩ rest hflags rfl
  cases hflags
  let r : Reader := ⟨{}, outer, branches, items, groups, names⟩
  have hopen : readStep r '(' (textSource q ++ ')' :: rest) =
      .ok (r.openCapture, textSource q ++ ')' :: rest) := by
    cases q <;> rfl
  have hclose : readStep (r.openCapture.extend [textItem q] 0) ')' rest =
      .ok (r.extend [groupItem (groups + 1) q] 1, rest) := by
    cases q <;> rfl
  have htext := steps_textSource (r := r.openCapture) rfl q rest
  rw [groupSource, List.cons_append, List.append_assoc]
  exact .head (.intro rfl hopen (by simp)) (htext.tail (.intro rfl hclose (by simp)))

def ledSource (q : Quantifier) : List Char :=
  ['(', '?', ':', '/'] ++ groupSource q ++ [')']

def ledItem (index : Nat) (q : Quantifier) : Item :=
  ⟨seqAll [char '/', .group index (Expression.textOf q)], (groupItem index q).depth + 2, true⟩

theorem readsItem_led (index : Nat) (q : Quantifier) :
    ReadsItem (ledSource q) index (ledItem index q) := by
  rintro ⟨flags, outer, branches, items, groups, names⟩ rest hflags rfl
  cases hflags
  let r : Reader := ⟨{}, outer, branches, items, groups, names⟩
  let inner := (r.openGroup none {}).extend [charItem '/'] 0
  have hopen : readStep r '(' ('?' :: ':' :: '/' :: (groupSource q ++ ')' :: rest)) =
      .ok (r.openGroup none {}, '/' :: (groupSource q ++ ')' :: rest)) := rfl
  have hslash : readStep (r.openGroup none {}) '/' (groupSource q ++ ')' :: rest) =
      .ok (inner, groupSource q ++ ')' :: rest) := rfl
  have hgroup := readsItem_group (groups + 1) q inner (')' :: rest) rfl rfl
  have hclose : readStep (inner.extend [groupItem (groups + 1) q] 1) ')' rest =
      .ok (r.extend [ledItem (groups + 1) q] 1, rest) := by
    cases q <;> rfl
  have hsource : ledSource q ++ rest =
      '(' :: '?' :: ':' :: '/' :: (groupSource q ++ ')' :: rest) := by simp [ledSource]
  rw [hsource]
  refine .head (.intro rfl hopen (by simp)) (.head (.intro rfl hslash (by simp)) ?_)
  exact hgroup.tail (.intro rfl hclose (by simp))

theorem depth_groupItem (index : Nat) (q : Quantifier) : (groupItem index q).depth ≤ 3 := by
  cases q <;> simp [groupItem, textItem, Quantifier.isCatchAll]

theorem depth_ledItem (index : Nat) (q : Quantifier) : (ledItem index q).depth ≤ 5 :=
  Nat.add_le_add_right (depth_groupItem index q) 2

/-! ### Texts in front of anything but a question mark -/

/-- The text goes on with something that a repetition before it does not take for its own. -/
def Ends (rest : List Char) : Prop :=
  rest.head? ≠ some '?'

theorem Ends.append {text rest : List Char} (htext : Ends text) (hrest : Ends rest) :
    Ends (text ++ rest) := by
  cases text with
  | nil => exact hrest
  | cons c text => exact htext

/-- Behind a repetition that ends, no mark makes it reluctant by accident. -/
theorem readGreed_of_ends {rest : List Char} (h : Ends rest) : readGreed rest = (true, rest) := by
  unfold readGreed
  split
  · exact absurd rfl h
  · rfl

/-- Wherever `index` is the number of the next group and no question mark follows, the text
    leaves the expressions behind, in order, and has `count` numbered groups. The reader is in
    the same branch of the same group after it. -/
def Reading (text : List Char) (index count : Nat) (trees : List Regex) : Prop :=
  ∃ added : List Item, added.map Item.tree = trees ∧ (∀ item ∈ added, item.depth ≤ 6) ∧
    ∀ (r : Reader) (rest : List Char), r.flags = {} → r.groups + 1 = index → Ends rest →
      Steps (r, text ++ rest) (r.extend added count, rest)

theorem reading_nil (index : Nat) : Reading [] index 0 [] :=
  ⟨[], rfl, by simp, fun _ _ _ _ _ => .refl⟩

theorem reading_escaped (cs : List Char) (index : Nat) :
    Reading (Expression.escaped cs) index 0 (Expression.verbatim cs) := by
  refine ⟨cs.map charItem, by simp [charItem, Item.leaf, Expression.verbatim], ?_, ?_⟩
  · simp [charItem, Item.leaf]
  · intro r rest hflags _ _
    exact steps_escaped hflags cs rest

theorem Reading.append {text more : List Char} {index count others : Nat}
    {trees rest : List Regex} (h : Reading text index count trees)
    (hmore : Reading more (index + count) others rest) (hends : Ends more) :
    Reading (text ++ more) index (count + others) (trees ++ rest) := by
  obtain ⟨added, htrees, hdepth, hsteps⟩ := h
  obtain ⟨later, hlater, hdepth', hsteps'⟩ := hmore
  refine ⟨added ++ later, by rw [List.map_append, htrees, hlater], ?_, ?_⟩
  · rw [List.forall_mem_append]
    exact ⟨hdepth, hdepth'⟩
  · intro r rest hflags hindex hrest
    have hfirst := hsteps r (more ++ rest) hflags hindex (hends.append hrest)
    have hsecond := hsteps' (r.extend added count) rest hflags (by simp [← hindex]; omega) hrest
    rw [Reader.extend_extend] at hsecond
    rw [List.append_assoc]
    exact hfirst.trans hsecond

theorem ReadsItem.reading {text : List Char} {index : Nat} {item : Item}
    (h : ReadsItem text index item) (hdepth : item.depth ≤ 6) :
    Reading text index 1 [item.tree] :=
  ⟨[item], rfl, by simpa using hdepth, fun r rest hflags hindex _ => h r rest hflags hindex⟩

/-- The mark of an optional part, followed by another question mark when nothing is
    preferred. -/
def optionalMark (greedy : Bool) : List Char :=
  if greedy then ['?'] else ['?', '?']

theorem readStep_optional {r : Reader} (hflags : r.flags = {}) {item : Item} {count : Nat}
    (hrepeatable : item.repeatable = true) {cs rest : List Char} {greedy : Bool}
    (hgreed : readGreed cs = (greedy, rest)) :
    readStep (r.extend [item] count) '?' cs =
      .ok (r.extend [⟨.rep item.tree 0 (some 1) greedy, item.depth + 1, true⟩] count, rest) := by
  obtain ⟨flags, outer, branches, items, groups, names⟩ := r
  cases hflags
  have hlazy : (greedy != false) = greedy := by cases greedy <;> rfl
  simp only [readStep, hgreed, Reader.repeatLast, Reader.extend, List.reverse_singleton,
    List.singleton_append, hrepeatable, if_true, hlazy]
  rfl

theorem ReadsItem.optional {text : List Char} {index : Nat} {item : Item}
    (h : ReadsItem text index item) (hrepeatable : item.repeatable = true)
    (hdepth : item.depth ≤ 5) (greedy : Bool) :
    Reading (text ++ optionalMark greedy) index 1 [Expression.optional greedy item.tree] := by
  refine ⟨[⟨.rep item.tree 0 (some 1) greedy, item.depth + 1, true⟩], rfl, ?_, ?_⟩
  · exact List.forall_mem_singleton.mpr (Nat.succ_le_succ hdepth)
  · intro r rest hflags hindex hends
    have hitem := h r (optionalMark greedy ++ rest) hflags hindex
    rw [List.append_assoc]
    refine hitem.trans (.single ?_)
    cases greedy with
    | true =>
      exact .intro hflags (readStep_optional hflags hrepeatable (readGreed_of_ends hends)) (by simp)
    | false => exact .intro hflags (readStep_optional hflags hrepeatable rfl) (by simp)

/-! ### A whole expression -/

theorem foldl_max_le {bound : Nat} (depths : List Nat) {start : Nat} (hstart : start ≤ bound)
    (h : ∀ depth ∈ depths, depth ≤ bound) : depths.foldl max start ≤ bound := by
  induction depths generalizing start with
  | nil => exact hstart
  | cons depth rest ih =>
    rw [List.forall_mem_cons] at h
    exact ih (Nat.max_le.mpr ⟨hstart, h.1⟩) h.2

/-- The end of every expression but the shortest: a slash that may be missing. -/
theorem steps_end {r : Reader} (hflags : r.flags = {}) :
    let slash : Item := ⟨Expression.optional true (char '/'), 1, true⟩
    Steps (r, ['/', '?', '$']) (r.extend [slash, .leaf (.look .textEnd)] 0, []) := by
  intro slash
  have hslash := readStep_plain hflags (c := '/') (by decide) ['?', '$']
  have hoptional : readStep (r.extend [charItem '/'] 0) '?' ['$'] =
      .ok (r.extend [slash] 0, ['$']) := readStep_optional hflags rfl rfl
  have hdollar : readStep (r.extend [slash] 0) '$' [] =
      .ok (r.extend [slash, .leaf (.look .textEnd)] 0, []) := by
    simp only [readStep, Reader.extend_flags, hflags]
    rfl
  refine .head (.intro hflags hslash (by simp)) (.head (.intro hflags hoptional (by simp)) ?_)
  exact .single (.intro hflags hdollar (by simp))

/-- A text that is read as items of one branch is the expression of these items. -/
theorem parse_of_steps {cs : List Char} {added : List Item} {count : Nat}
    (h : Steps ({}, cs) (Reader.extend {} added count, []))
    (hdepth : ∀ item ∈ added, item.depth ≤ 6) :
    parse (String.ofList cs) = .ok (seqAll (added.map Item.tree)) := by
  have hread : readAll (String.ofList cs).length {} (String.ofList cs).toList =
      .ok (Reader.extend {} added count) := by
    rw [String.toList_ofList, String.length_ofList]
    exact readAll_of_steps h (Nat.le_refl _)
  have hbranch : (Reader.extend {} added count).branch = Item.gather seqAll added := by
    simp [Reader.branch, Reader.extend]
  have hcontent : (Reader.extend {} added count).content =
      Item.gather altAll [Item.gather seqAll added] := by
    rw [Reader.content, hbranch]
    rfl
  have hmax := foldl_max_le (added.map Item.depth) (Nat.zero_le 6) (by simpa using hdepth)
  have hbound : ¬ depthLimit < (Item.gather altAll [Item.gather seqAll added]).depth := by
    simp only [Item.gather, depthLimit, List.map_cons, List.map_nil, List.foldl_cons,
      List.foldl_nil, List.length_cons, List.length_nil, Nat.le_refl, if_true]
    split <;> omega
  rw [parse, hread]
  change (let whole := (Reader.extend {} added count).content
    if depthLimit < whole.depth then Except.error Fault.tooDeep else Except.ok whole.tree) = _
  rw [hcontent, if_neg hbound]
  rfl

/-- What is read as items stands between the ends of the text. -/
theorem parse_anchored {text : List Char} {count : Nat} {trees : List Regex}
    (h : Reading text 1 count trees) :
    parse (String.ofList ('^' :: (text ++ ['/', '?', '$']))) =
      .ok (seqAll ([.look .textStart] ++ trees ++
        [Expression.optional true (char '/'), .look .textEnd])) := by
  obtain ⟨added, rfl, hdepth, hsteps⟩ := h
  let start : Reader := Reader.extend {} [.leaf (.look .textStart)] 0
  have hcaret : readStep {} '^' (text ++ ['/', '?', '$']) =
      .ok (start, text ++ ['/', '?', '$']) := rfl
  have hbody := hsteps start ['/', '?', '$'] rfl rfl (by simp [Ends])
  have hend := steps_end (r := start.extend added count) rfl
  have hwhole := Relation.ReflTransGen.head (.intro rfl hcaret (by simp)) (hbody.trans hend)
  rw [Reader.extend_extend, Reader.extend_extend] at hwhole
  have hparse := parse_of_steps hwhole ?_
  · simpa [Item.leaf] using hparse
  · simp only [List.forall_mem_append]
    simpa [Item.leaf] using hdepth

/-! ### Capturing groups -/

def groups : Regex → List (Nat × Regex)
  | .empty | .chars _ | .look _ => []
  | .seq a b | .alt a b => a.groups ++ b.groups
  | .rep body _ _ _ => body.groups
  | .group index body => (index, body) :: body.groups

theorem groups_seqAll (rs : List Regex) : (seqAll rs).groups = rs.flatMap groups := by
  induction rs with
  | nil => rfl
  | cons r rest ih =>
    cases rest with
    | nil => simp [seqAll]
    | cons next rest => rw [seqAll, groups, ih, List.flatMap_cons (x := r)]

end Routing.Regex

namespace Routing.Expression

open Regex (Reading ReadsItem Ends groupSource ledSource)

/-! ### The written form of a part -/

theorem escaped_lead (first : Bool) : escaped (lead first) = lead first := by
  cases first <;> decide

theorem escaped_append (first second : List Char) :
    escaped (first ++ second) = escaped first ++ escaped second :=
  List.flatMap_append

theorem reading_led {text : List Char} {index count : Nat} {trees : List Regex} (first : Bool)
    (h : Reading text index count trees) (hends : Ends text) :
    Reading (lead first ++ text) index count (verbatim (lead first) ++ trees) := by
  have hlead := (Regex.reading_escaped (lead first) index).append h hends
  rwa [escaped_lead, Nat.zero_add] at hlead

theorem reading_group (first : Bool) (index : Nat) (q : Quantifier) :
    Reading (lead first ++ groupSource q) index 1
      (verbatim (lead first) ++ [.group index (textOf q)]) := by
  apply reading_led first _ (by simp [Ends, groupSource])
  exact (Regex.readsItem_group index q).reading ((Regex.depth_groupItem index q).trans (by decide))

/-- **A part is read as its items.** -/
theorem reading_partSource (first sole : Bool) (index : Nat) (part : Part) :
    Reading (partSource first sole part) index (groupCount part)
      (partItems first sole index part) := by
  cases part with
  | literal text =>
    rw [partSource, ← escaped_lead, ← escaped_append]
    exact Regex.reading_escaped _ index
  | parameter p =>
    have hgroup (greedy : Bool) := (Regex.readsItem_group index p.quantifier).optional rfl
      ((Regex.depth_groupItem index p.quantifier).trans (by decide)) greedy
    have hled (greedy : Bool) := (Regex.readsItem_led index p.quantifier).optional rfl
      (Regex.depth_ledItem index p.quantifier) greedy
    cases hq : p.quantifier with
    | required =>
      simp only [partSource, partItems, hq]
      exact reading_group first index .required
    | optional =>
      simp only [hq] at hgroup hled
      simp only [partSource, partItems, hq]
      cases sole with -- a sole optional part takes its slash into the group
      | true => exact hled true
      | false => exact reading_led first (hgroup true) (by simp [Ends])
    | oneOrMore =>
      simp only [partSource, partItems, hq]
      cases first with -- at the start of a segment the slash belongs to the catch-all
      | true =>
        exact (Regex.readsItem_led index .oneOrMore).reading
          ((Regex.depth_ledItem index .oneOrMore).trans (by decide))
      | false => exact reading_group false index .oneOrMore
    | zeroOrMore =>
      simp only [hq] at hgroup hled
      simp only [partSource, partItems, hq]
      cases first with
      | true => exact hled false
      | false => exact hgroup false

/-! ### The written form of all parts -/

def sourceOf (parts : List (Position × Part)) : List Char :=
  parts.flatMap fun x => partSource x.1.isFirst x.1.isAlone x.2

theorem partsSource_inner (parts : List Part) :
    partsSource false false parts = sourceOf (parts.map fun part => (Position.inner, part)) := by
  induction parts with
  | nil => rfl
  | cons part rest ih =>
    rw [partsSource, ih]
    rfl

theorem partsSource_placedParts (s : Segment) :
    partsSource (s.parts.length == 1) true s.parts = sourceOf (placedParts s) := by
  obtain ⟨parts⟩ := s
  match parts with
  | [] => rfl
  | [part] => rfl
  | part :: next :: rest =>
    have hlength : ((part :: next :: rest).length == 1) = false := by simp
    rw [hlength, partsSource, partsSource_inner]
    rfl

theorem segmentsSource_eq (segments : List Segment) :
    segmentsSource segments = sourceOf (placed segments) := by
  simp only [segmentsSource, partsSource_placedParts, sourceOf, placed, List.flatMap_assoc]

/-- No part starts with a question mark: a literal one stands behind a backslash. -/
theorem ends_escaped (cs : List Char) : Ends (escaped cs) := by
  cases cs with
  | nil => simp [Ends, escaped]
  | cons c cs =>
    by_cases hc : Regex.isMeta c
    · simp [Ends, escaped, hc]
    · have hne : c ≠ '?' := by
        rintro rfl
        exact hc (by decide)
      simp [Ends, escaped, hc, hne]

theorem ends_partSource (first sole : Bool) (part : Part) : Ends (partSource first sole part) := by
  cases part with
  | literal text =>
    rw [partSource, ← escaped_lead, ← escaped_append]
    exact ends_escaped _
  | parameter p =>
    unfold Ends
    cases hq : p.quantifier <;> simp only [partSource, hq] <;> revert first sole <;> decide

theorem ends_sourceOf (parts : List (Position × Part)) : Ends (sourceOf parts) := by
  induction parts with
  | nil => simp [Ends, sourceOf]
  | cons head rest ih => exact (ends_partSource _ _ _).append ih

/-- **Parts are read as their items**, and their groups are numbered on. -/
theorem reading_sourceOf (index : Nat) (parts : List (Position × Part)) :
    Reading (sourceOf parts) index (parametersOf parts).length (itemsOf index parts) := by
  induction parts generalizing index with
  | nil => exact Regex.reading_nil index
  | cons head rest ih =>
    obtain ⟨position, part⟩ := head
    rw [length_parametersOf_cons, itemsOf]
    exact (reading_partSource _ _ index part).append (ih _) (ends_sourceOf rest)

theorem partSource_eq_nil_iff (first sole : Bool) (index : Nat) (part : Part) :
    partSource first sole part = [] ↔ partItems first sole index part = [] := by
  cases part with
  | literal text =>
    rw [partSource, ← escaped_lead, ← escaped_append, partItems]
    cases lead first ++ text.toList with
    | nil => simp [escaped, verbatim]
    | cons c cs => by_cases hc : Regex.isMeta c <;> simp [escaped, verbatim, hc]
  | parameter p =>
    cases hq : p.quantifier <;> cases first <;> cases sole <;> simp [partSource, partItems, hq]

theorem sourceOf_eq_nil_iff (index : Nat) (parts : List (Position × Part)) :
    sourceOf parts = [] ↔ itemsOf index parts = [] := by
  induction parts generalizing index with
  | nil => exact iff_of_true rfl rfl
  | cons head rest ih =>
    obtain ⟨position, part⟩ := head
    have hsource : sourceOf ((position, part) :: rest) =
        partSource position.isFirst position.isAlone part ++ sourceOf rest := rfl
    rw [hsource, itemsOf, List.append_eq_nil_iff, List.append_eq_nil_iff, ih,
      partSource_eq_nil_iff]

/-- The expression with the ends of the path around the items. -/
theorem tree_eq (segments : List Segment) :
    tree segments =
      if itemsOf 1 (placed segments) = [] then
        Regex.seqAll [.look .textStart, Regex.char '/', .look .textEnd]
      else Regex.seqAll ([.look .textStart] ++ itemsOf 1 (placed segments) ++
        [optional true (Regex.char '/'), .look .textEnd]) := by
  simp only [tree, segmentsItems_eq, List.isEmpty_iff]
  rfl

/-- **The written form is read as the expression.** -/
theorem parse_source (segments : List Segment) :
    Regex.parse (source segments) = .ok (tree segments) := by
  simp only [source, segmentsSource_eq, tree_eq, List.isEmpty_iff,
    sourceOf_eq_nil_iff 1 (placed segments)]
  split
  · rfl
  · exact Regex.parse_anchored (reading_sourceOf 1 (placed segments))

/-! ### Its groups -/

theorem groups_verbatim (cs : List Char) : (verbatim cs).flatMap Regex.groups = [] := by
  simp [verbatim, Regex.char, Regex.groups]

/-- A literal has no groups, and a parameter has the one that holds its texts. -/
theorem groups_partItems (first sole : Bool) (index : Nat) (part : Part) :
    (partItems first sole index part).flatMap Regex.groups =
      part.parameter?.toList.map fun p => (index, textOf p.quantifier) := by
  cases part with
  | literal text => exact groups_verbatim _
  | parameter p =>
    obtain ⟨name, quantifier, constraints, default?⟩ := p
    cases quantifier <;> cases first <;> cases sole <;> rfl

def numbered (index : Nat) (parameters : List Parameter) : List (Nat × Regex) :=
  (parameters.zipIdx index).map fun (p, number) => (number, textOf p.quantifier)

theorem groups_itemsOf (index : Nat) (parts : List (Position × Part)) :
    (itemsOf index parts).flatMap Regex.groups = numbered index (parametersOf parts) := by
  induction parts generalizing index with
  | nil => rfl
  | cons head rest ih =>
    obtain ⟨position, part⟩ := head
    rw [itemsOf, List.flatMap_append, groups_partItems, ih]
    cases part with
    | literal text => rfl
    | parameter p => rfl

theorem groups_tree (segments : List Segment) :
    (tree segments).groups = numbered 1 (segments.flatMap Segment.parameters) := by
  rw [← parametersOf_placed, ← groups_itemsOf, tree_eq]
  split
  · next hempty =>
    rw [hempty]
    rfl
  · rw [Regex.groups_seqAll, List.flatMap_append, List.flatMap_append]
    simp [Regex.groups, optional, Regex.char]

/-! ### The place of each part -/

/-- The first part of all starts a segment. -/
theorem isFirst_of_placed {segments : List Segment} {position : Position} {part : Part}
    {rest : List (Position × Part)} (h : placed segments = (position, part) :: rest) :
    position.isFirst = true := by
  induction segments with
  | nil => cases h
  | cons s segments ih =>
    have hplaced : placed (s :: segments) = placedParts s ++ placed segments := rfl
    rw [hplaced] at h
    obtain ⟨parts⟩ := s
    match parts with
    | [] => exact ih h
    | [part] =>
      cases h
      rfl
    | part :: next :: parts =>
      cases h
      rfl

theorem partItems_ne_nil (sole : Bool) (index : Nat) (part : Part) :
    partItems true sole index part ≠ [] := by
  cases part with
  | literal text => simp [partItems, lead, verbatim]
  | parameter p => cases hq : p.quantifier <;> cases sole <;> simp [partItems, hq]

/-- The items of a part stand between those of the parts before it and those of the parts
    after it. -/
theorem tree_eq_of_placed {segments : List Segment} {before after : List (Position × Part)}
    {position : Position} {part : Part}
    (h : placed segments = before ++ (position, part) :: after) :
    tree segments = Regex.seqAll ([.look .textStart] ++ itemsOf 1 before ++
      partItems position.isFirst position.isAlone (1 + (parametersOf before).length) part ++
      itemsOf (1 + (parametersOf before).length + groupCount part) after ++
      [optional true (Regex.char '/'), .look .textEnd]) := by
  have hne : itemsOf 1 (placed segments) ≠ [] := by
    obtain ⟨⟨first, own⟩, rest, hfirst⟩ := List.exists_cons_of_ne_nil
      (show placed segments ≠ [] by simp [h])
    rw [hfirst, itemsOf, isFirst_of_placed hfirst, ne_eq, List.append_eq_nil_iff]
    exact fun hnil => partItems_ne_nil _ _ _ hnil.1
  rw [tree_eq, if_neg hne, h, itemsOf_append, itemsOf]
  simp only [List.append_assoc]

/-- **The written form is always an expression, and the one that is meant.** Reading it gives
    the tree. In it the items of the parts stand one after another between the ends of the
    path: a literal has its own characters, behind the slash of its segment, and a parameter
    its group. The groups are numbered in the order in which they are opened, which is that of
    the parameters, and nothing but its size can keep the expression from being used. -/
theorem source_valid (segments : List Segment) :
    Regex.parse (source segments) = .ok (tree segments) ∧
    (∀ before position part after, placed segments = before ++ (position, part) :: after →
      let index := 1 + (parametersOf before).length
      ∃ own, tree segments = Regex.seqAll ([.look .textStart] ++ itemsOf 1 before ++ own ++
          itemsOf (index + groupCount part) after ++
          [optional true (Regex.char '/'), .look .textEnd]) ∧
        (∀ text, part = .literal text → own = (position.lead ++ text.toList).map Regex.char) ∧
        ∀ p, part = .parameter p → own.flatMap Regex.groups = [(index, textOf p.quantifier)]) ∧
    (∀ k : Nat, (tree segments).groups[k]? =
      (segments.flatMap Segment.parameters)[k]?.map fun p => (k + 1, textOf p.quantifier)) ∧
    ∀ fault, Regex.ofText (source segments) = .error fault → fault = .tooLarge := by
  refine ⟨parse_source segments, ?_, ?_, ?_⟩
  · intro before position part after h index
    refine ⟨_, tree_eq_of_placed h, ?_, ?_⟩
    · rintro text rfl
      rw [partItems, lead_isFirst]
      rfl
    · rintro p rfl
      exact groups_partItems _ _ index (.parameter p)
  · intro k
    rw [groups_tree, numbered, List.getElem?_map, List.getElem?_zipIdx, Option.map_map]
    simp only [Function.comp_def, Nat.add_comm 1 k]
  · intro fault h
    rw [Regex.ofText, parse_source] at h
    simp only [Bind.bind, Except.bind] at h
    split at h
    · cases h
      rfl
    · cases h

end Routing.Expression
