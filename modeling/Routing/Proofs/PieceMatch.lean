/-
  Routing/Proofs/PieceMatch.lean
  ==============================
  **Matching piece by piece.**  Where every segment of a pattern has one part, a
  match is a walk along the non-empty pieces of the path: a literal takes the
  piece that it equals, a required parameter takes one piece, an optional one
  takes a piece if the segments after it can do with the pieces that are left, and
  a catch-all takes all pieces that are left.

  `assign` is that walk and `matchPieces?` reads what it gives to the parameters.
-/
import Routing.Proofs.Accepted
import Routing.Proofs.Matching

namespace Routing

open Expression (Share)

/-! ### The walk along the pieces -/

/-- The pieces that each parameter takes when the parts stand in segments of their own. -/
def assign : List Part → List (List Char) → Option (List (List (List Char)))
  | [], [] => some []
  | [], _ :: _ => none
  | .literal _ :: _, [] => none
  | .literal text :: rest, piece :: pieces =>
    if piece = text.toList then assign rest pieces else none
  | .parameter p :: rest, pieces =>
    match p.quantifier, pieces with
    | .required, [] => none
    | .required, piece :: pieces => (assign rest pieces).map ([piece] :: ·)
    | .optional, [] => (assign rest []).map ([] :: ·)
    | .optional, piece :: pieces =>
      match assign rest pieces with
      | some others => some ([piece] :: others)
      | none => (assign rest (piece :: pieces)).map ([] :: ·)
    | .oneOrMore, [] => none
    | .oneOrMore, piece :: pieces =>
      if ∀ text ∈ piece :: pieces, '\n' ∉ text then
        (assign rest []).map ((piece :: pieces) :: ·)
      else none
    | .zeroOrMore, pieces =>
      if ∀ text ∈ pieces, '\n' ∉ text then (assign rest []).map (pieces :: ·) else none

def Parameter.valueOf? (p : Parameter) (texts : List String) : Option Value :=
  if p.isCatchAll then (texts.mapM fun text => p.constrain (.text text)).map .list
  else texts.head?.bind fun text => p.constrain (.text text)

/-- The outcome for a parameter that takes the given pieces. Each piece has its escapes
    read; a default is cut into pieces for a catch-all and taken as it is written. -/
def Parameter.receive? (p : Parameter) (pieces : List (List Char)) : Option ParamValue :=
  if pieces.isEmpty then
    match p.default? with
    | some text =>
      (p.valueOf? (if p.isCatchAll then Text.splitSolid '/' text else [text])).map .filled
    | none => some .missing
  else
    (p.valueOf? (pieces.map fun piece => Text.Percent.decode (String.ofList piece))).map .present

def receiveAll? : List Parameter → List (List (List Char)) → Option (List (String × ParamValue))
  | p :: rest, pieces :: others => do
    let outcome ← p.receive? pieces
    let entries ← receiveAll? rest others
    return (p.name, outcome) :: entries
  | _, _ => some []

def RoutePattern.matchPieces? (p : RoutePattern) (path : String) : Option Params := do
  let received ← assign p.parts (Text.solidPieces '/' path.toList)
  let entries ← receiveAll? p.parameters received
  return ⟨entries⟩

/-! ### What the walk gives -/

/-- The walk along the pieces gives the parameters these pieces. -/
inductive Assigns : List Part → List (List Char) → List (List (List Char)) → Prop
  | nil : Assigns [] [] []
  | literal {text : String} {rest : List Part} {pieces : List (List Char)}
      {received : List (List (List Char))} (hrest : Assigns rest pieces received) :
    Assigns (.literal text :: rest) (text.toList :: pieces) received
  | onePiece {p : Parameter} {rest : List Part} {piece : List Char} {pieces : List (List Char)}
      {received : List (List (List Char))} (hscalar : p.isCatchAll = false)
      (hrest : Assigns rest pieces received) :
    Assigns (.parameter p :: rest) (piece :: pieces) ([piece] :: received)
  /-- an optional parameter goes without a piece only if the parts after it need the first one -/
  | noPiece {p : Parameter} {rest : List Part} {pieces : List (List Char)}
      {received : List (List (List Char))} (hoptional : p.quantifier = .optional)
      (hneeded : ∀ piece tail, pieces = piece :: tail → assign rest tail = none)
      (hrest : Assigns rest pieces received) :
    Assigns (.parameter p :: rest) pieces ([] :: received)
  | catchAll {p : Parameter} {rest : List Part} {pieces : List (List Char)}
      {received : List (List (List Char))} (hcatchAll : p.isCatchAll)
      (hsome : p.quantifier = .oneOrMore → pieces ≠ [])
      (hplain : ∀ text ∈ pieces, '\n' ∉ text) (hrest : Assigns rest [] received) :
    Assigns (.parameter p :: rest) pieces (pieces :: received)

section

variable {p : Parameter} {rest : List Part} {pieces : List (List Char)}
  {received : List (List (List Char))}

/-- One step of the walk, at a parameter. -/
theorem Assigns.of_parameter
    (ih : ∀ {pieces received}, assign rest pieces = some received → Assigns rest pieces received)
    (h : assign (.parameter p :: rest) pieces = some received) :
    Assigns (.parameter p :: rest) pieces received := by
  cases hquantifier : p.quantifier with
  | required =>
    have hscalar : p.isCatchAll = false := congrArg Quantifier.isCatchAll hquantifier
    cases pieces with
    | nil => simp [assign, hquantifier] at h
    | cons piece pieces =>
      simp only [assign, hquantifier] at h
      obtain ⟨others, hothers, rfl⟩ := Option.map_eq_some_iff.mp h
      exact .onePiece hscalar (ih hothers)
  | optional =>
    have hscalar : p.isCatchAll = false := congrArg Quantifier.isCatchAll hquantifier
    cases pieces with
    | nil =>
      simp only [assign, hquantifier] at h
      obtain ⟨others, hothers, rfl⟩ := Option.map_eq_some_iff.mp h
      exact .noPiece hquantifier (fun _ _ hnil => nomatch hnil) (ih hothers)
    | cons piece pieces =>
      simp only [assign, hquantifier] at h
      split at h
      · next others hothers => -- the rest finds its pieces behind this one
        cases h
        exact .onePiece hscalar (ih hothers)
      · next hneeded => -- the piece is needed by the rest
        obtain ⟨others, hothers, rfl⟩ := Option.map_eq_some_iff.mp h
        refine .noPiece hquantifier ?_ (ih hothers)
        rintro _ _ ⟨⟩
        exact hneeded
  | oneOrMore =>
    have hcatchAll : p.isCatchAll := congrArg Quantifier.isCatchAll hquantifier
    cases pieces with
    | nil => simp [assign, hquantifier] at h
    | cons piece pieces =>
      simp only [assign, hquantifier] at h
      obtain ⟨hplain, h⟩ := Option.ite_none_right_eq_some.mp h
      obtain ⟨others, hothers, rfl⟩ := Option.map_eq_some_iff.mp h
      exact .catchAll hcatchAll (fun _ => List.cons_ne_nil _ _) hplain (ih hothers)
  | zeroOrMore => -- no piece at all is enough here
    have hcatchAll : p.isCatchAll := congrArg Quantifier.isCatchAll hquantifier
    simp only [assign, hquantifier] at h
    obtain ⟨hplain, h⟩ := Option.ite_none_right_eq_some.mp h
    obtain ⟨others, hothers, rfl⟩ := Option.map_eq_some_iff.mp h
    exact .catchAll hcatchAll (fun hq => by rw [hquantifier] at hq; cases hq) hplain (ih hothers)

theorem Assigns.of_assign {parts : List Part} (h : assign parts pieces = some received) :
    Assigns parts pieces received := by
  induction parts generalizing pieces received with
  | nil =>
    cases pieces with
    | nil =>
      cases h
      exact .nil
    | cons piece pieces => cases h
  | cons part rest ih =>
    cases part with
    | literal text =>
      cases pieces with
      | nil => cases h
      | cons piece pieces =>
        rw [assign, Option.ite_none_right_eq_some] at h
        obtain ⟨rfl, h⟩ := h
        exact .literal (ih h)
    | parameter p => exact .of_parameter ih h

theorem Assigns.assign_eq {parts : List Part} (h : Assigns parts pieces received) :
    assign parts pieces = some received := by
  induction h with
  | nil => rfl
  | literal _ ih => rw [assign, if_pos rfl, ih]
  | @onePiece p _ _ _ _ hscalar _ ih =>
    cases hquantifier : p.quantifier with
    | required | optional => simp [assign, hquantifier, ih]
    | zeroOrMore | oneOrMore =>
      cases hscalar.symm.trans (congrArg Quantifier.isCatchAll hquantifier)
  | @noPiece _ _ pieces _ hoptional hneeded _ ih =>
    cases pieces with
    | nil => simp [assign, hoptional, ih]
    | cons piece tail => simp [assign, hoptional, hneeded piece tail rfl, ih]
  | @catchAll p _ pieces _ hcatchAll hsome hplain _ ih =>
    cases hquantifier : p.quantifier with
    | required | optional =>
      cases hcatchAll.symm.trans (congrArg Quantifier.isCatchAll hquantifier)
    | zeroOrMore => simp only [assign, hquantifier, if_pos hplain, ih, Option.map_some]
    | oneOrMore =>
      cases pieces with
      | nil => exact absurd rfl (hsome hquantifier)
      | cons piece pieces => simp only [assign, hquantifier, if_pos hplain, ih, Option.map_some]

theorem assign_eq_some_iff {parts : List Part} :
    assign parts pieces = some received ↔ Assigns parts pieces received :=
  ⟨.of_assign, Assigns.assign_eq⟩

end

end Routing

namespace Routing.Expression

open Routing.Path (slashed)
open Text (IsPiece)

/-! ### Parts that are alone in their segments -/

def apart (parts : List Part) : List (Position × Part) :=
  parts.map fun part => (.alone, part)

/-- What is left of a path for the pieces that are left. The slash at the end of `/` belongs
    to no piece. -/
inductive Leaves : List (List Char) → List Char → Prop
  | slashed (pieces : List (List Char)) : Leaves pieces (slashed pieces)
  | root : Leaves [] ['/']

def shareOf (pieces : List (List Char)) : Share :=
  if pieces.isEmpty then none else some (Text.joined ['/'] pieces)

/-- Parts that are alone take nothing that does not start with a slash. -/
theorem decompositions_apart_of_ne {c : Char} (hc : c ≠ '/') (parts : List Part)
    (cs : List Char) : decompositions (apart parts) (c :: cs) = [] := by
  induction parts with
  | nil => simp [apart, decompositions, hc]
  | cons part rest ih =>
    have hlead (text : List Char) : ¬ Position.alone.lead ++ text <+: c :: cs := by
      simp [Position.lead, List.cons_prefix_cons, Ne.symm hc]
    have happart : apart (part :: rest) = (.alone, part) :: apart rest := rfl
    rw [happart, decompositions, List.flatMap_eq_nil_iff]
    rintro ⟨shares, text⟩ hoffer
    obtain ⟨htakes, hprefix⟩ := mem_offers.mp hoffer
    cases htakes with
    | literal _ => exact absurd hprefix (hlead _)
    | run _ => exact absurd hprefix (hlead _)
    | noPiece _ => exact List.map_eq_nil_iff.mpr ih
    | noRest _ => exact List.map_eq_nil_iff.mpr ih

theorem takeWhile_piece {piece : List Char} (hslash : '/' ∉ piece) (pieces : List (List Char)) :
    (piece ++ slashed pieces).takeWhile (fun c => c != '/') = piece := by
  have hkind : ∀ c ∈ piece, (c != '/') = true := by
    intro c hc
    rw [bne_iff_ne]
    rintro rfl
    exact hslash hc
  rw [List.takeWhile_append_of_pos hkind]
  cases pieces with
  | nil => simp
  | cons next rest => simp

/-- If nothing comes of the shorter starts of a list, only the whole list counts. -/
theorem flatMap_inits {α β : Type} (l : List α) (f : List α → List β)
    (hstuck : ∀ front back, l = front ++ back → back ≠ [] → f front = []) :
    l.inits.flatMap f = f l := by
  induction l generalizing f with
  | nil => simp
  | cons a l ih =>
    have hrest := ih (fun front => f (a :: front)) fun front back heq hback =>
      hstuck (a :: front) back (by rw [heq, List.cons_append]) hback
    rw [List.inits_cons, List.flatMap_cons, hstuck [] (a :: l) rfl (by simp), List.nil_append,
      List.flatMap_map, hrest]

variable {parts : List Part}

def followed (rest : List Part) (cs : List Char) (found : List (List Share × List Char)) :
    List (List Share) :=
  found.flatMap fun offer =>
    (decompositions (apart rest) (cs.drop offer.2.length)).map (offer.1 ++ ·)

theorem decompositions_apart_cons (part : Part) (rest : List Part) (cs : List Char) :
    decompositions (apart (part :: rest)) cs = followed rest cs (offers .alone part cs) := rfl

theorem followed_append (rest : List Part) (cs : List Char)
    (first second : List (List Share × List Char)) :
    followed rest cs (first ++ second) = followed rest cs first ++ followed rest cs second :=
  List.flatMap_append

/-- A parameter for one piece takes the whole piece. -/
theorem followed_taken {q : Quantifier} (hq : q.isCatchAll = false) {piece : List Char}
    (hpiece : IsPiece piece) (pieces : List (List Char)) (rest : List Part) :
    followed rest (slashed (piece :: pieces)) (taken .alone q (slashed (piece :: pieces))) =
      (decompositions (apart rest) (slashed pieces)).map (some piece :: ·) := by
  obtain ⟨hne, hslash⟩ := hpiece
  have hchoices : choices q (piece ++ slashed pieces) = piece.inits.tail := by
    cases q with
    | required | optional => rw [choices, runs, takeWhile_piece hslash]
    | zeroOrMore | oneOrMore => cases hq
  have htaken : taken .alone q (slashed (piece :: pieces)) =
      piece.inits.tail.map fun run => ([some run], '/' :: run) := by
    rw [taken, Path.slashed_cons, if_pos (by simp [Position.lead]), ← hchoices]
    rfl
  -- a text shorter than the piece leaves a character that is no slash
  have hstuck (front back : List Char) (heq : piece = front ++ back) (hback : back ≠ []) :
      (decompositions (apart rest) ((slashed (piece :: pieces)).drop ('/' :: front).length)).map
        ([some front] ++ ·) = [] := by
    cases back with
    | nil => exact absurd rfl hback
    | cons c back =>
      have hc : c ≠ '/' := by
        rintro rfl
        exact hslash (by simp [heq])
      have hdrop : (slashed (piece :: pieces)).drop ('/' :: front).length =
          c :: (back ++ slashed pieces) := by
        simp [heq]
      rw [hdrop, decompositions_apart_of_ne hc, List.map_nil]
  have hinits : piece.inits = [] :: piece.inits.tail := by cases piece <;> simp
  have hall := flatMap_inits piece _ hstuck
  rw [hinits, List.flatMap_cons, hstuck [] piece rfl hne, List.nil_append] at hall
  rw [htaken, followed, List.flatMap_map, hall]
  simp

theorem taken_leaves_nil {q : Quantifier} (hq : q ≠ .zeroOrMore) {cs : List Char}
    (hcs : Leaves [] cs) : taken .alone q cs = [] := by
  cases hcs with
  | slashed => rfl
  | root => cases q <;> first | rfl | exact absurd rfl hq

/-! ### The first decomposition is the walk -/

def Agrees (parts : List Part) : Prop :=
  ∀ ⦃pieces : List (List Char)⦄ ⦃cs : List Char⦄, (∀ piece ∈ pieces, IsPiece piece) →
    Leaves pieces cs →
      (decompositions (apart parts) cs).head? = (assign parts pieces).map (List.map shareOf)

theorem agrees_nil : Agrees [] := by
  intro pieces cs hpieces hcs
  cases hcs with
  | root => rfl
  | slashed =>
    cases pieces with
    | nil => rfl
    | cons piece rest =>
      have hne := (hpieces piece List.mem_cons_self).1
      simp [apart, decompositions, assign, hne]

/-- A text without a slash that a path starts with lies in the first piece. -/
theorem prefix_piece {text piece : List Char} {pieces : List (List Char)} (hslash : '/' ∉ text)
    (h : text <+: piece ++ slashed pieces) : text <+: piece := by
  rcases List.prefix_or_prefix_of_prefix h (List.prefix_append piece _) with hpiece | hpiece
  · exact hpiece
  · obtain ⟨more, rfl⟩ := hpiece
    rw [List.prefix_append_right_inj] at h
    cases more with
    | nil => rw [List.append_nil]
    | cons c more =>
      cases pieces with
      | nil => simp at h
      | cons next pieces =>
        rw [Path.slashed_cons, List.cons_prefix_cons] at h
        exact absurd (by simp [h.1]) hslash

/-- A literal that is not the whole first piece leads to no decomposition. -/
theorem followed_fixed_of_ne {text : String} (hslash : '/' ∉ text.toList) {piece : List Char}
    (hpiece : '/' ∉ piece) (hne : piece ≠ text.toList) (pieces : List (List Char))
    (rest : List Part) :
    followed rest (slashed (piece :: pieces))
      (fixed (Position.alone.lead ++ text.toList) [] (slashed (piece :: pieces))) = [] := by
  unfold fixed
  split
  · next hprefix =>
    have hstart : text.toList <+: piece ++ slashed pieces := by
      simpa [Position.lead, List.cons_prefix_cons] using hprefix
    obtain ⟨back, rfl⟩ := prefix_piece hslash hstart
    cases back with
    | nil => exact absurd (List.append_nil _) hne
    | cons c back =>
      have hc : c ≠ '/' := by
        rintro rfl
        exact hpiece (by simp)
      have hdrop : (slashed ((text.toList ++ c :: back) :: pieces)).drop
          (Position.alone.lead ++ text.toList).length = c :: (back ++ slashed pieces) := by
        simp [Position.lead]
      rw [followed, List.flatMap_singleton, hdrop, decompositions_apart_of_ne hc]
      rfl
  · rfl

theorem agrees_literal {text : String} (hliteral : Template.IsLiteral text) {rest : List Part}
    (hrest : Agrees rest) : Agrees (.literal text :: rest) := by
  obtain ⟨hne, hslash⟩ := hliteral
  intro pieces cs hpieces hcs
  rw [decompositions_apart_cons, offers]
  cases pieces with
  | nil =>
    have hprefix : ¬ Position.alone.lead ++ text.toList <+: cs := by
      cases hcs <;> simp [Position.lead, List.cons_prefix_cons, hne]
    rw [fixed, if_neg hprefix]
    rfl
  | cons piece pieces =>
    obtain ⟨-, hpiece⟩ := hpieces piece List.mem_cons_self
    have hpieces' : ∀ piece ∈ pieces, IsPiece piece :=
      fun other hother => hpieces other (List.mem_cons_of_mem _ hother)
    cases hcs
    by_cases heq : piece = text.toList
    · subst heq
      have hprefix : Position.alone.lead ++ text.toList <+: slashed (text.toList :: pieces) := by
        simp [Position.lead, List.cons_prefix_cons]
      rw [fixed, if_pos hprefix, assign, if_pos rfl, ← hrest hpieces' (.slashed pieces)]
      simp [followed, Position.lead]
    · rw [assign, if_neg heq, followed_fixed_of_ne hslash hpiece heq]
      rfl

theorem agrees_required {p : Parameter} (hq : p.quantifier = .required) {rest : List Part}
    (hrest : Agrees rest) : Agrees (.parameter p :: rest) := by
  intro pieces cs hpieces hcs
  have hoffers : offers .alone (.parameter p) cs = taken .alone .required cs := by
    simp only [offers, hq]
  rw [decompositions_apart_cons, hoffers]
  cases pieces with
  | nil =>
    rw [taken_leaves_nil (by simp) hcs]
    simp [followed, assign, hq]
  | cons piece pieces =>
    have hpieces' : ∀ piece ∈ pieces, IsPiece piece :=
      fun other hother => hpieces other (List.mem_cons_of_mem _ hother)
    have hshare : shareOf [piece] = some piece := rfl
    cases hcs
    rw [followed_taken rfl (hpieces piece List.mem_cons_self), List.head?_map,
      hrest hpieces' (.slashed pieces)]
    simp [assign, hq, Function.comp_def, hshare]

/-- An optional parameter takes a piece first, and gives it up if the parts after it then fail. -/
theorem agrees_optional {p : Parameter} (hq : p.quantifier = .optional) {rest : List Part}
    (hrest : Agrees rest) : Agrees (.parameter p :: rest) := by
  intro pieces cs hpieces hcs
  have hoffers : offers .alone (.parameter p) cs =
      taken .alone .optional cs ++ [([none], [])] := by
    simp [offers, hq, fixed, Position.gap]
  have hnone : followed rest cs [([none], [])] =
      (decompositions (apart rest) cs).map (none :: ·) := by
    simp [followed]
  have hempty : shareOf [] = none := rfl
  rw [decompositions_apart_cons, hoffers, followed_append, List.head?_append, hnone,
    List.head?_map, hrest hpieces hcs]
  cases pieces with
  | nil =>
    rw [taken_leaves_nil (by simp) hcs]
    simp [followed, assign, hq, Function.comp_def, hempty]
  | cons piece pieces =>
    have hpieces' : ∀ piece ∈ pieces, IsPiece piece :=
      fun other hother => hpieces other (List.mem_cons_of_mem _ hother)
    have hshare : shareOf [piece] = some piece := rfl
    cases hcs
    rw [followed_taken rfl (hpieces piece List.mem_cons_self), List.head?_map,
      hrest hpieces' (.slashed pieces)]
    cases hassign : assign rest pieces with
    | none => simp [assign, hq, hassign, Function.comp_def, hempty]
    | some others => simp [assign, hq, hassign, hshare]

theorem newline_not_mem_joined {pieces : List (List Char)} :
    '\n' ∉ Text.joined ['/'] pieces ↔ ∀ text ∈ pieces, '\n' ∉ text := by
  have hmem : '\n' ∈ Path.ofPieces pieces ↔ '\n' ∈ Text.joined ['/'] pieces := by
    simp [Path.ofPieces]
  rw [← hmem, Path.mem_ofPieces (by decide)]
  simp

theorem joined_ne_nil {piece : List Char} (hne : piece ≠ []) (pieces : List (List Char)) :
    Text.joined ['/'] (piece :: pieces) ≠ [] := by
  cases pieces <;> simp [Text.joined, hne]

theorem admits_joined {q : Quantifier} (hq : q.isCatchAll) {piece : List Char}
    (hpiece : IsPiece piece) (pieces : List (List Char)) :
    Admits q (Text.joined ['/'] (piece :: pieces)) ↔
      ∀ text ∈ piece :: pieces, '\n' ∉ text := by
  have hne := joined_ne_nil hpiece.1 pieces
  rw [← newline_not_mem_joined]
  cases q with
  | required | optional => cases hq
  | oneOrMore => exact and_iff_right hne
  | zeroOrMore => exact Iff.rfl

/-- Alone, a catch-all takes all pieces that are left. -/
theorem fits_catchAll {p : Parameter} (hq : p.quantifier.isCatchAll) {piece : List Char}
    {pieces : List (List Char)} (hpieces : ∀ text ∈ piece :: pieces, IsPiece text)
    {shares : List Share} :
    Fits (apart [.parameter p]) (slashed (piece :: pieces)) shares ↔
      shares = [some (Text.joined ['/'] (piece :: pieces))] ∧
        ∀ text ∈ piece :: pieces, '\n' ∉ text := by
  have hslashed : slashed (piece :: pieces) = '/' :: Text.joined ['/'] (piece :: pieces) :=
    (Path.ofPieces_of_ne_nil (by simp)).symm
  rw [← admits_joined hq (hpieces piece List.mem_cons_self)]
  constructor
  · rintro ⟨text, hall, hend⟩
    obtain ⟨first, others, start, rest, rfl, rfl, htakes, hrest⟩ := hall.exists_cons
    cases hrest
    rw [List.append_nil] at hend
    -- no slash is left behind, since the pieces do not end with one
    have hstart : slashed (piece :: pieces) = start := by
      refine hend.resolve_right fun hslash => ?_
      have hlast := Path.getLast?_slashed hpieces
      rw [hslash] at hlast
      simp at hlast
    subst hstart
    generalize hcs : slashed (piece :: pieces) = cs at htakes
    cases htakes with
    | run hadmits =>
      rw [hslashed] at hcs
      have hrun := (List.cons.inj hcs).2
      subst hrun
      exact ⟨rfl, hadmits⟩
    | noPiece hoptional => simp [hoptional, Quantifier.isCatchAll] at hq
    | noRest _ => simp at hcs
  · rintro ⟨rfl, hadmits⟩
    refine ⟨slashed (piece :: pieces), ?_, .inl rfl⟩
    have htakes : Takes .alone (.parameter p) [some (Text.joined ['/'] (piece :: pieces))]
        (slashed (piece :: pieces)) := by
      rw [hslashed]
      exact .run hadmits
    have hall := TakeAll.cons htakes .nil
    rw [List.append_nil, List.append_nil] at hall
    exact hall

theorem assign_catchAll {p : Parameter} (hq : p.isCatchAll) (piece : List Char)
    (pieces : List (List Char)) :
    assign [.parameter p] (piece :: pieces) =
      if ∀ text ∈ piece :: pieces, '\n' ∉ text then some [piece :: pieces] else none := by
  unfold Parameter.isCatchAll at hq
  cases hquantifier : p.quantifier with
  | required | optional => simp [hquantifier, Quantifier.isCatchAll] at hq
  | oneOrMore | zeroOrMore => simp [assign, hquantifier]

theorem head?_of_forall_eq {α : Type} {l : List α} {a : α} (hmem : a ∈ l)
    (hall : ∀ b ∈ l, b = a) : l.head? = some a := by
  cases l with
  | nil => cases hmem
  | cons b l => rw [List.head?_cons, hall b List.mem_cons_self]

/-- A catch-all is the last part, and takes all that is left at once. -/
theorem agrees_catchAll {p : Parameter} (hq : p.quantifier.isCatchAll) :
    Agrees [.parameter p] := by
  intro pieces cs hpieces hcs
  cases pieces with -- without pieces the two catch-alls differ; with pieces both take all of them
  | nil =>
    have hend : decompositions (apart []) cs = [[]] := by
      cases hcs <;> rfl
    rw [decompositions_apart_cons]
    cases hquantifier : p.quantifier with
    | required | optional => simp [hquantifier, Quantifier.isCatchAll] at hq
    | oneOrMore =>
      have hoffers : offers .alone (.parameter p) cs = taken .alone .oneOrMore cs := by
        simp only [offers, hquantifier]
      rw [hoffers, taken_leaves_nil (by simp) hcs]
      simp [followed, assign, hquantifier]
    | zeroOrMore =>
      simp [offers, followed, assign, hquantifier, hend, shareOf]
  | cons piece pieces =>
    cases hcs
    have hfits (shares : List Share) :
        shares ∈ decompositions (apart [.parameter p]) (slashed (piece :: pieces)) ↔
          shares = [some (Text.joined ['/'] (piece :: pieces))] ∧
            ∀ text ∈ piece :: pieces, '\n' ∉ text :=
      mem_decompositions.trans (fits_catchAll hq hpieces)
    rw [assign_catchAll hq]
    split
    · next hnewline =>
      exact head?_of_forall_eq ((hfits _).mpr ⟨rfl, hnewline⟩)
        fun shares h => ((hfits shares).mp h).1
    · next hnewline =>
      rw [Option.map_none, List.head?_eq_none_iff, List.eq_nil_iff_forall_not_mem]
      exact fun shares h => hnewline ((hfits shares).mp h).2

/-- **The first decomposition gives the parameters the pieces of the walk.** -/
theorem agrees {parts : List Part}
    (hliteral : ∀ text, .literal text ∈ parts → Template.IsLiteral text)
    (hcatchAll : parts.Pairwise fun part _ => part.isCatchAll = false) : Agrees parts := by
  induction parts with
  | nil => exact agrees_nil
  | cons part rest ih =>
    rw [List.pairwise_cons] at hcatchAll
    have hrest : Agrees rest :=
      ih (fun text htext => hliteral text (List.mem_cons_of_mem _ htext)) hcatchAll.2
    cases part with
    | literal text => exact agrees_literal (hliteral text List.mem_cons_self) hrest
    | parameter p =>
      by_cases hq : p.quantifier.isCatchAll
      · have hnil : rest = [] := eq_nil_of_isCatchAll hcatchAll.1 hq
        subst hnil
        exact agrees_catchAll hq
      · cases hquantifier : p.quantifier with
        | required => exact agrees_required hquantifier hrest
        | optional => exact agrees_optional hquantifier hrest
        | zeroOrMore | oneOrMore => simp [hquantifier, Quantifier.isCatchAll] at hq

end Routing.Expression

namespace Routing

open Expression (joined_ne_nil shareOf)
open Text (IsPiece)

/-! ### Reading the pieces -/

/-- What a parameter can take: pieces, and only one unless it is a catch-all. -/
def Parameter.CanTake (p : Parameter) (pieces : List (List Char)) : Prop :=
  (∀ piece ∈ pieces, IsPiece piece) ∧ (p.isCatchAll = false → pieces.length ≤ 1)

theorem Parameter.canTake_nil (p : Parameter) : p.CanTake [] :=
  ⟨fun _ hnil => absurd hnil List.not_mem_nil, fun _ => Nat.zero_le 1⟩

theorem Parameter.canTake_singleton (p : Parameter) {piece : List Char} (hpiece : IsPiece piece) :
    p.CanTake [piece] :=
  ⟨fun _ h => List.mem_singleton.mp h ▸ hpiece, fun _ => Nat.le_refl 1⟩

theorem canTake_assign {parts : List Part} {pieces : List (List Char)}
    {received : List (List (List Char))} (hpieces : ∀ piece ∈ pieces, IsPiece piece)
    (h : assign parts pieces = some received) :
    List.Forall₂ Parameter.CanTake (parts.filterMap Part.parameter?) received := by
  rw [assign_eq_some_iff] at h
  induction h with
  | nil => exact .nil
  | literal _ ih => exact ih fun other hother => hpieces other (List.mem_cons_of_mem _ hother)
  | @onePiece p _ _ _ _ _ _ ih =>
    refine .cons (p.canTake_singleton (hpieces _ List.mem_cons_self)) (ih ?_)
    exact fun other hother => hpieces other (List.mem_cons_of_mem _ hother)
  | @noPiece p _ _ _ _ _ _ ih => exact .cons p.canTake_nil (ih hpieces)
  | catchAll hcatchAll _ _ _ ih =>
    refine .cons ⟨hpieces, fun hscalar => ?_⟩ (ih fun _ hnil => absurd hnil List.not_mem_nil)
    rw [hcatchAll] at hscalar
    cases hscalar

theorem splitSolid_joined {pieces : List (List Char)} (hpieces : ∀ piece ∈ pieces, IsPiece piece) :
    Text.splitSolid '/' (String.ofList (Text.joined ['/'] pieces)) = pieces.map String.ofList := by
  rw [Text.splitSolid, String.toList_ofList, Path.solidPieces_joined_pieces hpieces]

theorem Parameter.readValue?_eq_valueOf? (p : Parameter) (read : String → String) (text : String) :
    p.readValue? read text =
      p.valueOf? ((if p.isCatchAll then Text.splitSolid '/' text else [text]).map read) := by
  rw [readValue?, valueOf?]
  split
  · rw [List.mapM_map]
    rfl
  · rfl

/-- **A parameter reads the text that it takes piece by piece.** -/
theorem Parameter.outcome?_shareOf {p : Parameter} {pieces : List (List Char)}
    (h : p.CanTake pieces) :
    p.outcome? ((shareOf pieces).map String.ofList) = p.receive? pieces := by
  obtain ⟨hpieces, hone⟩ := h
  cases pieces with
  | nil =>
    have hshare : (shareOf []).map String.ofList = none := rfl
    rw [hshare, outcome?, receive?]
    simp only [readValue?_eq_valueOf?, List.map_id_fun, id]
    rfl
  | cons piece rest =>
    have hne := joined_ne_nil (hpieces piece List.mem_cons_self).1 rest
    have hshare : ((shareOf (piece :: rest)).map String.ofList).filter (fun text => !text.isEmpty) =
        some (String.ofList (Text.joined ['/'] (piece :: rest))) := by
      rw [Option.filter_eq_some_iff]
      refine ⟨rfl, ?_⟩
      simpa [String.isEmpty_iff, String.ext_iff] using hne
    rw [outcome?, hshare, receive?]
    simp only [readValue?_eq_valueOf?, List.isEmpty_cons, Bool.false_eq_true, if_false]
    congr 2
    split
    · rw [splitSolid_joined hpieces, List.map_map]
      rfl
    · next hscalar =>
      have hlength := hone (by simpa using hscalar)
      cases rest with
      | nil => rfl
      | cons next rest => simp at hlength

theorem readShares?_map_shareOf {parameters : List Parameter} {received : List (List (List Char))}
    (h : List.Forall₂ Parameter.CanTake parameters received) :
    readShares? parameters (received.map shareOf) = receiveAll? parameters received := by
  induction h with
  | nil => rfl
  | cons hfirst _ ih =>
    rw [List.map_cons, readShares?, receiveAll?, Parameter.outcome?_shareOf hfirst, ih]

namespace RoutePattern

theorem placed_of_single {segments : List Segment} (h : ∀ s ∈ segments, s.parts.length = 1) :
    Expression.placed segments = Expression.apart (segments.flatMap Segment.parts) := by
  induction segments with
  | nil => rfl
  | cons s rest ih =>
    have hrest := ih fun s hs => h s (List.mem_cons_of_mem _ hs)
    obtain ⟨parts⟩ := s
    obtain ⟨part, hpart⟩ := List.length_eq_one_iff.mp (h ⟨parts⟩ List.mem_cons_self)
    simp only at hpart
    subst hpart
    rw [Expression.placed, List.flatMap_cons, ← Expression.placed, hrest]
    rfl

/-- Decompositions and the walk agree, and so do what they give to the parameters to read. -/
theorem match?_of_accepted {set : ConstraintSet} {p : RoutePattern}
    (hparts : Accepted set [] p.parts) (hsingle : ∀ s ∈ p.segments, s.parts.length = 1)
    {path : String} (hrooted : Path.isRooted path.toList) :
    p.match? path = p.matchPieces? path := by
  have hpieces : ∀ piece ∈ Text.solidPieces '/' path.toList, IsPiece piece :=
    fun _ => Text.isPiece_of_mem_solidPieces
  have hleaves : Expression.Leaves (Text.solidPieces '/' path.toList) (Path.canonical path) := by
    rw [Path.canonical, Path.ofPieces_eq]
    split
    · next hnil =>
      rw [hnil]
      exact .root
    · exact .slashed _
  have hagrees := Expression.agrees (fun text htext => (hparts.literal text htext).1)
    hparts.catchAll hpieces hleaves
  rw [match?_of_isRooted p hrooted, placed_of_single hsingle, ← parts, hagrees, matchPieces?]
  cases hassign : assign p.parts (Text.solidPieces '/' path.toList) with
  | none => rfl
  | some received =>
    have hcan := canTake_assign hpieces hassign
    rw [← parameters_eq] at hcan
    rw [Option.map_some, Option.bind_some, readShares?_map_shareOf hcan, Option.bind_eq_bind,
      Option.bind_some]
    cases receiveAll? p.parameters received <;> rfl

/-- **Where every segment has one part, a match is a walk along the pieces of the path.** -/
theorem match?_eq_matchPieces? {set : ConstraintSet} {template : String} {p : RoutePattern}
    (hcompile : compile set template = .ok p) (hsingle : ∀ s ∈ p.segments, s.parts.length = 1)
    {path : String} (hrooted : Path.isRooted path.toList) :
    p.match? path = p.matchPieces? path :=
  match?_of_accepted (accepted_compile hcompile) hsingle hrooted

/-- An optional parameter gives up its piece to the literal after it. -/
theorem match?_eq_matchPieces?_edit :
    let p : RoutePattern := ⟨"/\x7bname?\x7d/edit",
      [⟨[.parameter ⟨"name", .optional, [], none⟩]⟩, ⟨[.literal "edit"]⟩]⟩
    compile .empty "/\x7bname?\x7d/edit" = .ok p ∧ (∀ s ∈ p.segments, s.parts.length = 1) ∧
      Path.isRooted "//edit/".toList ∧ p.match? "//edit/" = some ⟨[("name", .missing)]⟩ := by
  have houtline : Template.outline "/\x7bname?\x7d/edit" =
      .ok [⟨[.parameter ⟨"name", .optional, [], none⟩]⟩, ⟨[.literal "edit"]⟩] := by
    decide +kernel
  have hcompile : compile .empty "/\x7bname?\x7d/edit" = .ok ⟨"/\x7bname?\x7d/edit",
      [⟨[.parameter ⟨"name", .optional, [], none⟩]⟩, ⟨[.literal "edit"]⟩]⟩ :=
    compile_of_outline houtline rfl
  have hsingle : ∀ s ∈ [(⟨[.parameter ⟨"name", .optional, [], none⟩]⟩ : Segment),
      ⟨[.literal "edit"]⟩], s.parts.length = 1 := by
    simp
  refine ⟨hcompile, hsingle, rfl, ?_⟩
  rw [match?_eq_matchPieces? hcompile hsingle rfl]
  rfl

end RoutePattern

end Routing
