/-
  Routing/Proofs/Decomposition.lean
  =================================
  **Decompositions of a path along the parts of a pattern.**  A path fits a pattern
  when it can be cut into texts, one for each part in order, with at most one slash
  after the last:

    * a slash stands before the first part of every segment;
    * a literal stands for itself;
    * a parameter takes a piece, which is not empty and has no slash; an optional
      one may also take nothing, and alone in its segment it then gives up the
      slash before it too;
    * a catch-all takes a text without line ends, which may be empty for the one
      marked `*`; that one may also take nothing, not even the slash before it.

  A path may fit in several ways. The parameters choose one after another, in
  declaration order: a required one takes as little as it can, an optional one
  too but rather that than nothing, the catch-all `+` as much as it can, and the
  catch-all `*` rather nothing and then as much as it can.

  `decompositions` lists all of them, preferred ones first:
  `mem_decompositions` and `pairwise_decompositions`.
-/
import Routing.Pattern.Expression
import Routing.Proofs.CanonicalPath
import Mathlib.Data.List.Infix
import Mathlib.Data.List.TakeWhile

namespace Routing.Expression

/-! ### Parts and their places -/

inductive Position where
  /-- alone in the segment -/
  | alone
  /-- the first of several parts -/
  | leading
  /-- after another part -/
  | inner
deriving DecidableEq, Repr

def Position.lead : Position → List Char
  | .inner => []
  | _ => ['/']

/-- What the path has for the part when it is an optional parameter without a text. -/
def Position.gap : Position → List Char
  | .leading => ['/']
  | _ => []

def placedParts (s : Segment) : List (Position × Part) :=
  match s.parts with
  | [] => []
  | [part] => [(.alone, part)]
  | part :: rest => (.leading, part) :: rest.map fun part => (.inner, part)

def placed (segments : List Segment) : List (Position × Part) :=
  segments.flatMap placedParts

def parametersOf (parts : List (Position × Part)) : List Parameter :=
  parts.filterMap fun x => x.2.parameter?

theorem parametersOf_placedParts (s : Segment) : parametersOf (placedParts s) = s.parameters := by
  obtain ⟨parts⟩ := s
  match parts with
  | [] => rfl
  | [part] => rfl
  | part :: next :: rest =>
    simp [parametersOf, placedParts, Segment.parameters, List.filterMap_cons,
      List.filterMap_map]

theorem parametersOf_placed (segments : List Segment) :
    parametersOf (placed segments) = segments.flatMap Segment.parameters := by
  rw [parametersOf, placed, List.filterMap_flatMap]
  exact List.flatMap_congr fun s _ => parametersOf_placedParts s

theorem length_parametersOf_cons (position : Position) (part : Part)
    (rest : List (Position × Part)) :
    (parametersOf ((position, part) :: rest)).length =
      groupCount part + (parametersOf rest).length := by
  cases part with
  | literal text => simp [parametersOf, groupCount, Part.parameter?]
  | parameter p => simp [parametersOf, groupCount, Part.parameter?, Nat.add_comm]

/-! ### Decompositions -/

abbrev Share := Option (List Char)

def Admits (q : Quantifier) (run : List Char) : Prop :=
  match q with
  | .required | .optional => run ≠ [] ∧ '/' ∉ run
  | .oneOrMore => run ≠ [] ∧ '\n' ∉ run
  | .zeroOrMore => '\n' ∉ run

/-- Outside of a catch-all a parameter takes a piece: some characters and no slash. -/
theorem admits_iff_isPiece {q : Quantifier} (hq : q.isCatchAll = false) {run : List Char} :
    Admits q run ↔ Text.IsPiece run := by
  cases q with
  | required | optional => exact Iff.rfl
  | zeroOrMore | oneOrMore => cases hq

/-- What a part may take of a path. The list holds the share of the part's
    parameter, and nothing for a literal; the text is what the path has for the
    part, the slash before it included. -/
inductive Takes (position : Position) : Part → List Share → List Char → Prop
  | literal (text : String) :
    Takes position (.literal text) [] (position.lead ++ text.toList)
  | run {p : Parameter} {run : List Char} (hadmits : Admits p.quantifier run) :
    Takes position (.parameter p) [some run] (position.lead ++ run)
  | noPiece {p : Parameter} (hquantifier : p.quantifier = .optional) :
    Takes position (.parameter p) [none] position.gap
  | noRest {p : Parameter} (hquantifier : p.quantifier = .zeroOrMore) :
    Takes position (.parameter p) [none] []

inductive TakeAll : List (Position × Part) → List Share → List Char → Prop
  | nil : TakeAll [] [] []
  | cons {position : Position} {part : Part} {parts : List (Position × Part)}
      {shares others : List Share} {text texts : List Char}
      (hpart : Takes position part shares text) (hparts : TakeAll parts others texts) :
    TakeAll ((position, part) :: parts) (shares ++ others) (text ++ texts)

theorem TakeAll.exists_cons {position : Position} {part : Part} {parts : List (Position × Part)}
    {shares : List Share} {text : List Char} (h : TakeAll ((position, part) :: parts) shares text) :
    ∃ first others start rest, shares = first ++ others ∧ text = start ++ rest ∧
      Takes position part first start ∧ TakeAll parts others rest := by
  cases h with
  | cons hpart hparts => exact ⟨_, _, _, _, rfl, rfl, hpart, hparts⟩

theorem Takes.length_shares {position : Position} {part : Part} {shares : List Share}
    {text : List Char} (h : Takes position part shares text) :
    shares.length = groupCount part := by
  cases h <;> rfl

theorem TakeAll.length_shares {parts : List (Position × Part)} {shares : List Share}
    {text : List Char} (h : TakeAll parts shares text) :
    shares.length = (parametersOf parts).length := by
  induction h with
  | nil => rfl
  | cons hpart _ ih =>
    rw [List.length_append, hpart.length_shares, ih, length_parametersOf_cons]

/-- The path is what the parts take with these shares, with at most one slash after it. -/
def Fits (parts : List (Position × Part)) (path : List Char) (shares : List Share) : Prop :=
  ∃ text, TakeAll parts shares text ∧ (path = text ∨ path = text ++ ['/'])

/-- **A decomposition of a path along the segments of a pattern**, given by what each
    parameter takes, in declaration order. -/
def Decomposes (segments : List Segment) (path : List Char) (shares : List Share) : Prop :=
  Fits (placed segments) path shares

theorem Decomposes.length_shares {segments : List Segment} {path : List Char}
    {shares : List Share} (h : Decomposes segments path shares) :
    shares.length = (segments.flatMap Segment.parameters).length := by
  obtain ⟨text, hall, -⟩ := h
  rw [hall.length_shares, parametersOf_placed]

/-! ### Which decomposition is preferred -/

/-- The parameter would rather take the first share than the second. -/
inductive Sooner : Quantifier → Share → Share → Prop
  | shorter {q : Quantifier} {a b : List Char} (hquantifier : q.isCatchAll = false)
      (hlt : a.length < b.length) : Sooner q (some a) (some b)
  | piece {a : List Char} : Sooner .optional (some a) none
  | longer {q : Quantifier} {a b : List Char} (hquantifier : q.isCatchAll = true)
      (hlt : b.length < a.length) : Sooner q (some a) (some b)
  | nothing {b : List Char} : Sooner .zeroOrMore none (some b)

/-- The first parameter whose shares differ takes the sooner one in the first list. -/
inductive Earlier : List Parameter → List Share → List Share → Prop
  | here {p : Parameter} {parameters : List Parameter} {a b : Share} {as bs : List Share}
      (h : Sooner p.quantifier a b) : Earlier (p :: parameters) (a :: as) (b :: bs)
  | later {p : Parameter} {parameters : List Parameter} {a : Share} {as bs : List Share}
      (h : Earlier parameters as bs) : Earlier (p :: parameters) (a :: as) (a :: bs)

/-- **The preferred decomposition**: it is earlier than every other one. -/
structure Preferred (segments : List Segment) (path : List Char) (shares : List Share) : Prop where
  decomposes : Decomposes segments path shares
  earlier : ∀ others, Decomposes segments path others → others ≠ shares →
    Earlier (segments.flatMap Segment.parameters) shares others

theorem Sooner.asymm {q : Quantifier} {a b : Share} (h : Sooner q a b) : ¬Sooner q b a := by
  intro h'
  cases h with
  | shorter hq hlt =>
    cases h' with
    | shorter _ hlt' => omega
    | longer hq' _ => rw [hq] at hq'; cases hq'
  | piece => cases h'
  | longer hq hlt =>
    cases h' with
    | shorter hq' _ => rw [hq] at hq'; cases hq'
    | longer _ hlt' => omega
  | nothing => cases h'

/-- Of two decompositions at most one is earlier. -/
theorem Earlier.asymm {parameters : List Parameter} {as bs : List Share}
    (h : Earlier parameters as bs) : ¬Earlier parameters bs as := by
  intro h'
  induction h with
  | here hsooner =>
    cases h' with
    | here hsooner' => exact hsooner.asymm hsooner'
    | later _ => exact hsooner.asymm hsooner
  | later _ ih =>
    cases h' with
    | here hsooner => exact hsooner.asymm hsooner
    | later h' => exact ih h'

/-- There is at most one preferred decomposition. -/
theorem Preferred.unique {segments : List Segment} {path : List Char} {as bs : List Share}
    (ha : Preferred segments path as) (hb : Preferred segments path bs) : as = bs := by
  by_contra hne
  exact (ha.earlier bs hb.decomposes (Ne.symm hne)).asymm (hb.earlier as ha.decomposes hne)

/-! ### All decompositions in order -/

def runs (kind : Char → Bool) (cs : List Char) : List (List Char) :=
  (cs.takeWhile kind).inits

/-- The texts that a parameter may take at the start of `cs`, in order. -/
def choices (q : Quantifier) (cs : List Char) : List (List Char) :=
  match q with
  | .required | .optional => (runs (fun c => c != '/') cs).tail
  | .oneOrMore => (runs (fun c => c != '\n') cs).tail.reverse
  | .zeroOrMore => (runs (fun c => c != '\n') cs).reverse

def taken (position : Position) (q : Quantifier) (cs : List Char) :
    List (List Share × List Char) :=
  if position.lead <+: cs then
    (choices q (cs.drop position.lead.length)).map fun run => ([some run], position.lead ++ run)
  else []

def fixed (text : List Char) (shares : List Share) (cs : List Char) :
    List (List Share × List Char) :=
  if text <+: cs then [(shares, text)] else []

/-- What a part may take at the start of `cs`, preferred ones first. -/
def offers (position : Position) (part : Part) (cs : List Char) : List (List Share × List Char) :=
  match part with
  | .literal text => fixed (position.lead ++ text.toList) [] cs
  | .parameter p =>
    match p.quantifier with
    | .required | .oneOrMore => taken position p.quantifier cs
    | .optional => taken position .optional cs ++ fixed position.gap [none] cs
    | .zeroOrMore => ([none], []) :: taken position .zeroOrMore cs

/-- The shares of all ways to cut `cs` along parts, preferred ones first. -/
def decompositions : List (Position × Part) → List Char → List (List Share)
  | [], cs => if cs = [] ∨ cs = ['/'] then [[]] else []
  | (position, part) :: rest, cs =>
    (offers position part cs).flatMap fun offer =>
      (decompositions rest (cs.drop offer.2.length)).map (offer.1 ++ ·)

/-! ### The list holds exactly the decompositions -/

theorem mem_runs {kind : Char → Bool} {cs run : List Char} :
    run ∈ runs kind cs ↔ run <+: cs ∧ ∀ c ∈ run, kind c := by
  rw [runs, List.mem_inits]
  constructor
  · intro h
    refine ⟨h.trans (List.takeWhile_prefix kind), fun c hc => ?_⟩
    exact List.mem_takeWhile_imp (h.subset hc)
  · rintro ⟨⟨rest, rfl⟩, hkind⟩
    rw [List.takeWhile_append_of_pos hkind]
    exact List.prefix_append run _

theorem mem_tail_runs {kind : Char → Bool} {cs run : List Char} :
    run ∈ (runs kind cs).tail ↔ run ≠ [] ∧ run <+: cs ∧ ∀ c ∈ run, kind c := by
  have hhead : runs kind cs = [] :: (runs kind cs).tail := by
    rw [runs]
    cases cs.takeWhile kind <;> simp
  have htail : ∀ run ∈ (runs kind cs).tail, run ≠ [] := by
    rw [runs]
    cases cs.takeWhile kind <;> simp
  rw [← mem_runs]
  constructor
  · exact fun h => ⟨htail run h, List.mem_of_mem_tail h⟩
  · rintro ⟨hne, h⟩
    rw [hhead, List.mem_cons] at h
    exact h.resolve_left hne

theorem forall_bne {run : List Char} {c : Char} : (∀ d ∈ run, (d != c) = true) ↔ c ∉ run := by
  simp only [bne_iff_ne]
  exact ⟨fun h hc => h c hc rfl, fun h d hd hdc => h (hdc ▸ hd)⟩

theorem mem_choices {q : Quantifier} {cs run : List Char} :
    run ∈ choices q cs ↔ Admits q run ∧ run <+: cs := by
  cases q with
  | required | optional =>
    simp only [choices, Admits, mem_tail_runs, forall_bne]
    tauto
  | oneOrMore =>
    simp only [choices, Admits, List.mem_reverse, mem_tail_runs, forall_bne]
    tauto
  | zeroOrMore =>
    simp only [choices, Admits, List.mem_reverse, mem_runs, forall_bne]
    tauto

theorem mem_taken {position : Position} {q : Quantifier} {cs text : List Char}
    {shares : List Share} :
    (shares, text) ∈ taken position q cs ↔
      (∃ run, Admits q run ∧ shares = [some run] ∧ text = position.lead ++ run) ∧ text <+: cs := by
  rw [taken]
  constructor
  · intro h
    split at h
    · next hlead =>
      obtain ⟨tail, rfl⟩ := hlead
      simp only [List.drop_left, List.mem_map, Prod.mk.injEq, mem_choices] at h
      obtain ⟨run, ⟨hadmits, hrun⟩, rfl, rfl⟩ := h
      exact ⟨⟨run, hadmits, rfl, rfl⟩, (List.prefix_append_right_inj _).mpr hrun⟩
    · simp at h
  · rintro ⟨⟨run, hadmits, rfl, rfl⟩, hprefix⟩
    obtain ⟨tail, rfl⟩ := hprefix
    rw [List.append_assoc, if_pos (List.prefix_append _ _), List.drop_left]
    simp only [List.mem_map, Prod.mk.injEq, mem_choices]
    exact ⟨run, ⟨hadmits, List.prefix_append _ _⟩, rfl, rfl⟩

theorem mem_fixed {text whole cs : List Char} {shares given : List Share} :
    (shares, text) ∈ fixed whole given cs ↔ (shares = given ∧ text = whole) ∧ text <+: cs := by
  rw [fixed]
  split
  · next h =>
    simp only [List.mem_singleton, Prod.mk.injEq]
    constructor
    · rintro ⟨rfl, rfl⟩
      exact ⟨⟨rfl, rfl⟩, h⟩
    · exact fun h => h.1
  · next h =>
    simp only [List.not_mem_nil, false_iff]
    rintro ⟨⟨-, rfl⟩, hprefix⟩
    exact h hprefix

/-- **A part is offered exactly what it may take of what stands there.** -/
theorem mem_offers {position : Position} {part : Part} {cs text : List Char}
    {shares : List Share} :
    (shares, text) ∈ offers position part cs ↔ Takes position part shares text ∧ text <+: cs := by
  cases part with
  | literal literalText =>
    rw [offers, mem_fixed]
    refine and_congr_left fun _ => ⟨?_, ?_⟩
    · rintro ⟨rfl, rfl⟩
      exact .literal literalText
    · rintro ⟨⟩
      exact ⟨rfl, rfl⟩
  | parameter p =>
    have htaken : (∃ run, Admits p.quantifier run ∧ shares = [some run] ∧
        text = position.lead ++ run) → Takes position (.parameter p) shares text := by
      rintro ⟨run, hadmits, rfl, rfl⟩
      exact .run hadmits
    cases hq : p.quantifier with
    | required | oneOrMore => -- only runs are offered
      simp only [offers, hq, mem_taken]
      rw [hq] at htaken
      refine and_congr_left fun _ => ⟨htaken, fun h => ?_⟩
      cases h with
      | run hadmits => exact ⟨_, hq ▸ hadmits, rfl, rfl⟩
      | noPiece h => rw [hq] at h; cases h
      | noRest h => rw [hq] at h; cases h
    | optional => -- behind the runs it may take nothing of the piece
      simp only [offers, hq, List.mem_append, mem_taken, mem_fixed, ← or_and_right]
      rw [hq] at htaken
      refine and_congr_left fun _ => ⟨?_, fun h => ?_⟩
      · rintro (h | ⟨rfl, rfl⟩)
        · exact htaken h
        · exact .noPiece hq
      · cases h with
        | run hadmits => exact .inl ⟨_, hq ▸ hadmits, rfl, rfl⟩
        | noPiece _ => exact .inr ⟨rfl, rfl⟩
        | noRest h => rw [hq] at h; cases h
    | zeroOrMore => -- it is first offered nothing at all
      simp only [offers, hq, List.mem_cons, mem_taken, Prod.mk.injEq]
      rw [hq] at htaken
      constructor
      · rintro (⟨rfl, rfl⟩ | ⟨h, hprefix⟩)
        · exact ⟨.noRest hq, List.nil_prefix⟩
        · exact ⟨htaken h, hprefix⟩
      · rintro ⟨h, hprefix⟩
        cases h with
        | run hadmits => exact .inr ⟨⟨_, hq ▸ hadmits, rfl, rfl⟩, hprefix⟩
        | noPiece h => rw [hq] at h; cases h
        | noRest _ => exact .inl ⟨rfl, rfl⟩

/-- **The list holds exactly the decompositions.** -/
theorem mem_decompositions {parts : List (Position × Part)} {cs : List Char}
    {shares : List Share} : shares ∈ decompositions parts cs ↔ Fits parts cs shares := by
  induction parts generalizing cs shares with
  | nil =>
    rw [decompositions]
    constructor
    · intro h
      split at h
      · next hend =>
        rw [List.mem_singleton] at h
        subst h
        exact ⟨[], .nil, hend⟩
      · simp at h
    · rintro ⟨_, ⟨⟩, hend⟩
      rw [List.nil_append] at hend
      rw [if_pos hend, List.mem_singleton]
  | cons head rest ih =>
    obtain ⟨position, part⟩ := head
    simp only [decompositions, List.mem_flatMap, List.mem_map, ih]
    constructor
    · rintro ⟨⟨first, text⟩, hoffer, others, ⟨texts, hrest, hend⟩, rfl⟩
      obtain ⟨htakes, tail, rfl⟩ := mem_offers.mp hoffer
      simp only [List.drop_left] at hend
      refine ⟨text ++ texts, .cons htakes hrest, ?_⟩
      rcases hend with rfl | rfl -- the path may go on with one slash behind the parts
      · exact .inl rfl
      · exact .inr (List.append_assoc _ _ _).symm
    · rintro ⟨_, hall, hend⟩
      obtain ⟨first, others, text, texts, rfl, rfl, htakes, hrest⟩ := hall.exists_cons
      have hprefix : text <+: cs := by
        rcases hend with rfl | rfl
        · exact List.prefix_append text texts
        · rw [List.append_assoc]
          exact List.prefix_append text _
      refine ⟨(first, text), mem_offers.mpr ⟨htakes, hprefix⟩, others, ⟨texts, hrest, ?_⟩, rfl⟩
      rcases hend with rfl | rfl
      · exact .inl (List.drop_left ..)
      · right
        rw [List.append_assoc, List.drop_left]

/-! ### The list is in order -/

theorem pairwise_inits {α : Type} (l : List α) :
    l.inits.Pairwise fun a b => a.length < b.length := by
  induction l with
  | nil => simp
  | cons a l ih =>
    rw [List.inits_cons, List.pairwise_cons, List.pairwise_map]
    refine ⟨?_, ?_⟩
    · intro t ht
      obtain ⟨s, -, rfl⟩ := List.mem_map.mp ht
      simp
    · exact ih.imp fun h => by simpa using h

/-- Earlier choices are the ones that the parameter prefers. -/
theorem pairwise_choices (q : Quantifier) (cs : List Char) :
    (choices q cs).Pairwise fun a b => Sooner q (some a) (some b) := by
  cases q with
  | required | optional =>
    exact (pairwise_inits _).tail.imp fun h => .shorter rfl h
  | oneOrMore =>
    rw [choices, List.pairwise_reverse]
    exact (pairwise_inits _).tail.imp fun h => .longer rfl h
  | zeroOrMore =>
    rw [choices, List.pairwise_reverse]
    exact (pairwise_inits _).imp fun h => .longer rfl h

def OfferSooner (q : Quantifier) (a b : List Share × List Char) : Prop :=
  ∃ first second, a.1 = [first] ∧ b.1 = [second] ∧ Sooner q first second

theorem pairwise_taken (position : Position) (q : Quantifier) (cs : List Char) :
    (taken position q cs).Pairwise (OfferSooner q) := by
  rw [taken]
  split
  · rw [List.pairwise_map]
    exact (pairwise_choices q _).imp fun h => ⟨_, _, rfl, rfl, h⟩
  · exact .nil

/-- The offers of a part come in the order of its preference. -/
theorem pairwise_offers (position : Position) (p : Parameter) (cs : List Char) :
    (offers position (.parameter p) cs).Pairwise (OfferSooner p.quantifier) := by
  cases hq : p.quantifier with
  | required | oneOrMore =>
    simp only [offers, hq]
    exact pairwise_taken position _ cs
  | optional =>
    simp only [offers, hq, List.pairwise_append]
    refine ⟨pairwise_taken position _ cs, ?_, ?_⟩
    · rw [fixed]
      split
      · exact List.pairwise_singleton _ _
      · exact .nil
    · rintro ⟨shares, text⟩ htaken ⟨others, gap⟩ hgap
      obtain ⟨⟨run, -, rfl, -⟩, -⟩ := mem_taken.mp htaken
      obtain ⟨⟨rfl, -⟩, -⟩ := mem_fixed.mp hgap
      exact ⟨_, _, rfl, rfl, .piece⟩
  | zeroOrMore =>
    simp only [offers, hq, List.pairwise_cons]
    refine ⟨?_, pairwise_taken position _ cs⟩
    rintro ⟨shares, text⟩ htaken
    obtain ⟨⟨run, -, rfl, -⟩, -⟩ := mem_taken.mp htaken
    exact ⟨_, _, rfl, rfl, .nothing⟩

/-- **Every decomposition of the list is earlier than those after it.** -/
theorem pairwise_decompositions (parts : List (Position × Part)) (cs : List Char) :
    (decompositions parts cs).Pairwise (Earlier (parametersOf parts)) := by
  induction parts generalizing cs with
  | nil =>
    rw [decompositions]
    split
    · exact List.pairwise_singleton _ _
    · exact .nil
  | cons head rest ih =>
    obtain ⟨position, part⟩ := head
    rw [decompositions, List.pairwise_flatMap]
    cases part with
    | literal text =>
      -- there is at most one offer, and it has no share
      rw [offers, fixed]
      split
      · refine ⟨fun offer hoffer => ?_, List.pairwise_singleton _ _⟩
        rw [List.mem_singleton] at hoffer
        subst hoffer
        rw [List.pairwise_map]
        exact ih _
      · exact ⟨fun offer hoffer => absurd hoffer List.not_mem_nil, .nil⟩
    | parameter p =>
      have hparameters : parametersOf ((position, .parameter p) :: rest) =
          p :: parametersOf rest := rfl
      rw [hparameters]
      refine ⟨?_, ?_⟩
      · -- two that begin with the same offer differ later
        rintro ⟨shares, text⟩ hoffer
        have hshare : ∃ share, shares = [share] := by
          cases (mem_offers.mp hoffer).1 with
          | run _ => exact ⟨_, rfl⟩
          | noPiece _ => exact ⟨_, rfl⟩
          | noRest _ => exact ⟨_, rfl⟩
        obtain ⟨share, rfl⟩ := hshare
        rw [List.pairwise_map]
        exact (ih _).imp fun h => .later h
      · -- two that begin with different offers differ here
        refine (pairwise_offers position p cs).imp ?_
        rintro ⟨_, text⟩ ⟨_, text'⟩ ⟨first, second, rfl, rfl, hsooner⟩ as has bs hbs
        obtain ⟨others, -, rfl⟩ := List.mem_map.mp has
        obtain ⟨others', -, rfl⟩ := List.mem_map.mp hbs
        exact .here hsooner

/-- **The first decomposition of the list is the preferred one.** -/
theorem preferred_of_head? {segments : List Segment} {path : List Char} {shares : List Share}
    (h : (decompositions (placed segments) path).head? = some shares) :
    Preferred segments path shares := by
  obtain ⟨rest, hlist⟩ := List.head?_eq_some_iff.mp h
  have horder := pairwise_decompositions (placed segments) path
  rw [hlist, List.pairwise_cons, parametersOf_placed] at horder
  refine ⟨mem_decompositions.mp (hlist ▸ List.mem_cons_self), fun others hothers hne => ?_⟩
  have hmem := mem_decompositions.mpr hothers
  rw [hlist, List.mem_cons] at hmem
  exact horder.1 others (hmem.resolve_left hne)

theorem exists_head?_decompositions {parts : List (Position × Part)} {cs : List Char}
    {shares : List Share} (h : Fits parts cs shares) :
    ∃ best, (decompositions parts cs).head? = some best :=
  Option.isSome_iff_exists.mp
    (List.isSome_head?.mpr (List.ne_nil_of_mem (mem_decompositions.mpr h)))

/-- A path with a decomposition has a preferred one. -/
theorem exists_preferred {segments : List Segment} {path : List Char} {shares : List Share}
    (h : Decomposes segments path shares) : ∃ best, Preferred segments path best := by
  obtain ⟨best, hbest⟩ := exists_head?_decompositions h
  exact ⟨best, preferred_of_head? hbest⟩

/-- **The first decomposition that is found is the preferred one.** -/
theorem head?_decompositions {segments : List Segment} {path : List Char} {shares : List Share} :
    (decompositions (placed segments) path).head? = some shares ↔
      Preferred segments path shares := by
  refine ⟨preferred_of_head?, fun hpreferred => ?_⟩
  obtain ⟨best, hbest⟩ := exists_head?_decompositions hpreferred.decomposes
  rw [hbest, hpreferred.unique (preferred_of_head? hbest)]

end Routing.Expression
