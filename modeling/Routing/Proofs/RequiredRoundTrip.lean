/-
  Routing/Proofs/RequiredRoundTrip.lean
  =====================================
  **Patterns whose paths can be cut in one way only.**  Where every segment is one
  literal or one required parameter, the pieces of a path settle what each parameter
  takes. A path built from a match then gives the same values exactly if every
  chain gives its value back; chains that only test do.
-/
import Routing.Proofs.PieceMatch
import Routing.Proofs.RoundTrip
import Mathlib.Data.List.Forall2

namespace Routing.Expression

/-! ### One decomposition -/

/-- The part has exactly one piece of every path. -/
def Single : Part → Prop
  | .literal text => '/' ∉ text.toList
  | .parameter p => p.quantifier = .required

/-- The text ends here or goes on with a slash. -/
def Stops (cs : List Char) : Prop :=
  ∀ c ∈ cs.head?, c = '/'

/-- A text without a slash is determined by what follows. -/
theorem append_inj_of_stops {text other rest more : List Char} (htext : '/' ∉ text)
    (hother : '/' ∉ other) (hrest : Stops rest) (hmore : Stops more)
    (h : text ++ rest = other ++ more) : text = other ∧ rest = more := by
  induction text generalizing other with
  | nil =>
    cases other with
    | nil => exact ⟨rfl, h⟩
    | cons c other => -- the other text would go on with the slash of what follows
      rw [List.nil_append] at h
      have hc : c = '/' := hrest c (by rw [h]; rfl)
      exact absurd (hc ▸ List.mem_cons_self) hother
  | cons c text ih =>
    cases other with
    | nil =>
      rw [List.nil_append] at h
      have hc : c = '/' := hmore c (by rw [← h]; rfl)
      exact absurd (hc ▸ List.mem_cons_self) htext
    | cons d other =>
      obtain ⟨hhead, htail⟩ := List.cons.inj h
      rw [List.mem_cons, not_or] at htext hother
      obtain ⟨heq, hends⟩ := ih htext.2 hother.2 htail
      exact ⟨by rw [hhead, heq], hends⟩

def sharesOf (part : Part) (piece : List Char) : List Share :=
  match part with
  | .literal _ => []
  | .parameter _ => [some piece]

/-- A part with one piece takes a slash and the piece. -/
theorem Takes.exists_piece {part : Part} (hsingle : Single part) {shares : List Share}
    {text : List Char} (h : Takes .alone part shares text) :
    ∃ piece, '/' ∉ piece ∧ text = '/' :: piece ∧ shares = sharesOf part piece := by
  cases h with
  | literal text => exact ⟨text.toList, hsingle, rfl, rfl⟩
  | @run p run hadmits =>
    have hq : p.quantifier = .required := hsingle
    rw [hq] at hadmits
    exact ⟨run, hadmits.2, rfl, rfl⟩
  | @noPiece p hquantifier => -- a required parameter goes without a piece in no case
    have hq : p.quantifier = .required := hsingle
    rw [hq] at hquantifier
    cases hquantifier
  | @noRest p hquantifier =>
    have hq : p.quantifier = .required := hsingle
    rw [hq] at hquantifier
    cases hquantifier

theorem stops_takeAll {parts : List Part} (hsingle : ∀ part ∈ parts, Single part)
    {shares : List Share} {text rest : List Char} (h : TakeAll (apart parts) shares text)
    (hrest : Stops rest) : Stops (text ++ rest) := by
  cases parts with
  | nil =>
    cases h
    exact hrest
  | cons part parts =>
    obtain ⟨first, others, start, tail, -, rfl, htakes, -⟩ := h.exists_cons
    obtain ⟨piece, -, rfl, -⟩ := htakes.exists_piece (hsingle part List.mem_cons_self)
    intro c hc
    exact (Option.mem_some_iff.mp hc).symm

/-- Where every part has one piece, the slashes of the path show where each of them ends. -/
theorem takeAll_append_inj {parts : List Part} (hsingle : ∀ part ∈ parts, Single part)
    {as bs : List Share} {text other rest more : List Char}
    (ha : TakeAll (apart parts) as text) (hb : TakeAll (apart parts) bs other)
    (hrest : Stops rest) (hmore : Stops more) (h : text ++ rest = other ++ more) : as = bs := by
  induction parts generalizing as bs text other with
  | nil =>
    cases ha
    cases hb
    rfl
  | cons part parts ih =>
    have hparts : ∀ part ∈ parts, Single part :=
      fun part hpart => hsingle part (List.mem_cons_of_mem _ hpart)
    obtain ⟨first, as, start, text, rfl, rfl, hfirst, hall⟩ := ha.exists_cons
    obtain ⟨second, bs, start', other, rfl, rfl, hsecond, hall'⟩ := hb.exists_cons
    obtain ⟨piece, hpiece, rfl, rfl⟩ := hfirst.exists_piece (hsingle part List.mem_cons_self)
    obtain ⟨piece', hpiece', rfl, rfl⟩ := hsecond.exists_piece (hsingle part List.mem_cons_self)
    rw [List.append_assoc, List.append_assoc] at h
    -- behind their slashes both go on with a piece that ends at the next slash
    have htail : piece ++ (text ++ rest) = piece' ++ (other ++ more) := (List.cons.inj h).2
    obtain ⟨rfl, hends⟩ := append_inj_of_stops hpiece hpiece' (stops_takeAll hparts hall hrest)
      (stops_takeAll hparts hall' hmore) htail
    rw [ih hparts hall hall' hends]

/-- **Pieces can be given to such parts in one way only.** -/
theorem fits_unique {parts : List Part} (hsingle : ∀ part ∈ parts, Single part)
    {path : List Char} {as bs : List Share} (ha : Fits (apart parts) path as)
    (hb : Fits (apart parts) path bs) : as = bs := by
  have hstops {text : List Char} (h : path = text ∨ path = text ++ ['/']) :
      ∃ rest, Stops rest ∧ path = text ++ rest := by
    rcases h with h | h
    · exact ⟨[], by simp [Stops], by rw [h, List.append_nil]⟩
    · exact ⟨['/'], by simp [Stops], h⟩
  obtain ⟨text, hall, hend⟩ := ha
  obtain ⟨other, hall', hend'⟩ := hb
  obtain ⟨rest, hrest, hpath⟩ := hstops hend
  obtain ⟨more, hmore, hpath'⟩ := hstops hend'
  exact takeAll_append_inj hsingle hall hall' hrest hmore (hpath.symm.trans hpath')

end Routing.Expression

namespace Routing

open Expression (Preferred Single)

/-! ### Chains that only test -/

/-- No constraint of the parameter turns a value into another one. -/
def Parameter.OnlyTests (p : Parameter) : Prop :=
  ∀ c ∈ p.constraints, c.transform = none

theorem eq_of_foldlM_apply {constraints : List Constraint} {v v' : Value}
    (htests : ∀ c ∈ constraints, c.transform = none)
    (h : constraints.foldlM (fun value c => c.apply value) v = some v') : v' = v := by
  induction constraints generalizing v with
  | nil =>
    cases h
    rfl
  | cons c rest ih =>
    rw [List.foldlM_cons] at h
    obtain ⟨next, hnext, hrest⟩ := Option.bind_eq_some_iff.mp h
    rw [ih (fun c' hc' => htests c' (List.mem_cons_of_mem _ hc')) hrest]
    exact Constraint.eq_of_apply (htests c List.mem_cons_self) hnext

/-- A chain that only tests gives the texts that it accepts back. -/
theorem Parameter.OnlyTests.restores {p : Parameter} (htests : p.OnlyTests) {text : String}
    {value : Value} (h : p.constrain (.text text) = some value) : p.Restores value := by
  have heq : value = .text text := eq_of_foldlM_apply htests h
  subst heq
  have htext : (Value.text text).toText = text := by rw [Value.toText]
  refine ⟨.text text, ?_, .text text⟩
  rw [htext]
  exact h

namespace RoutePattern

theorem single_of_required {set : ConstraintSet} {p : RoutePattern}
    (haccepted : Accepted set [] p.parts) (hrequired : ∀ q ∈ p.parameters, q.quantifier = .required) :
    ∀ part ∈ p.parts, Single part := by
  intro part hpart
  cases part with
  | literal text => exact (haccepted.literal text hpart).1.2
  | parameter q =>
    apply hrequired
    exact mem_parameters.mpr hpart

theorem isCatchAll_of_required {p : RoutePattern}
    (hrequired : ∀ q ∈ p.parameters, q.quantifier = .required) :
    ∀ q ∈ p.parameters, q.isCatchAll = false := by
  intro q hq
  unfold Parameter.isCatchAll
  rw [hrequired q hq]
  rfl

/-- **Where every segment is a literal or a required parameter, the values of a match come
    back exactly if the chains give them back.** -/
theorem roundTrips_iff_of_required {template : String} {p : RoutePattern}
    (hcompile : compile .empty template = .ok p) (hsingle : ∀ s ∈ p.segments, s.parts.length = 1)
    (hrequired : ∀ q ∈ p.parameters, q.quantifier = .required) {path : String} {params : Params}
    (hmatch : p.match? path = some params) :
    p.RoundTrips params ↔
      List.Forall₂ (fun q entry => ∀ value, entry.2.value? = some value → q.Restores value)
        p.parameters params.entries := by
  have haccepted := accepted_compile hcompile
  have hscalar := isCatchAll_of_required hrequired
  have houtcomes := outcomes_of_match? hcompile hscalar hmatch
  obtain ⟨built, hbuilt⟩ := exists_rebuilt haccepted (anchored_compile hcompile) hscalar houtcomes
  have hunique {shares : List Expression.Share}
      (h : Expression.Decomposes p.segments built.toList shares) : shares = params.shares := by
    have hwritten := hbuilt.decomposes
    unfold Expression.Decomposes at h hwritten
    rw [placed_of_single hsingle] at h hwritten
    exact Expression.fits_unique (single_of_required haccepted hrequired) h hwritten
  have hbest : Preferred p.segments built.toList params.shares :=
    ⟨hbuilt.decomposes, fun others h hne => absurd (hunique h) hne⟩
  exact hbuilt.roundTrips_iff_restores hscalar houtcomes hbest

/-- **There, without constraints that turn values into others, the values always come
    back.** -/
theorem roundTrips_of_required {template : String} {p : RoutePattern}
    (hcompile : compile .empty template = .ok p) (hsingle : ∀ s ∈ p.segments, s.parts.length = 1)
    (hrequired : ∀ q ∈ p.parameters, q.quantifier = .required)
    (htests : ∀ q ∈ p.parameters, q.OnlyTests) {path : String} {params : Params}
    (hmatch : p.match? path = some params) : p.RoundTrips params := by
  have houtcomes := outcomes_of_match? hcompile (isCatchAll_of_required hrequired) hmatch
  rw [roundTrips_iff_of_required hcompile hsingle hrequired hmatch, List.forall₂_iff_zip]
  refine ⟨houtcomes.length_eq, ?_⟩
  intro q entry hzip value hvalue
  obtain ⟨-, text, htext⟩ := ((List.forall₂_iff_zip.mp houtcomes).2 hzip).read value hvalue
  exact (htests q (List.of_mem_zip hzip).1).restores htext

end RoutePattern

end Routing
