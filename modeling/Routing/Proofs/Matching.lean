/-
  Routing/Proofs/Matching.lean
  ============================
  **A match reads the shares of the preferred decomposition.**  Matching a path
  normalizes it, finds what each parameter takes of it, and reads these texts one
  parameter after another.
-/
import Routing.Pattern.Match
import Routing.Proofs.ExpressionWays

namespace Routing

open Expression (Preferred Share decompositions groupsFrom placed)

def readShares? : List Parameter → List Share → Option (List (String × ParamValue))
  | p :: rest, share :: shares => do
    let outcome ← p.outcome? (share.map String.ofList)
    let entries ← readShares? rest shares
    return (p.name, outcome) :: entries
  | _, _ => some []

/-- What the outcomes of parameters tell, the entries tell. -/
theorem forall₂_of_readShares? {related : Parameter → Share → Prop}
    {tells : Parameter → String × ParamValue → Prop} {parameters : List Parameter}
    {shares : List Share} {entries : List (String × ParamValue)}
    (htells : ∀ p ∈ parameters, ∀ share ∈ shares, ∀ outcome, related p share →
      p.outcome? (share.map String.ofList) = some outcome → tells p (p.name, outcome))
    (hshares : List.Forall₂ related parameters shares)
    (h : readShares? parameters shares = some entries) : List.Forall₂ tells parameters entries := by
  induction hshares generalizing entries with
  | nil =>
    cases h
    exact .nil
  | @cons p share rest shares hfirst _ ih =>
    rw [readShares?] at h
    obtain ⟨outcome, houtcome, h⟩ := Option.bind_eq_some_iff.mp h
    obtain ⟨others, hothers, h⟩ := Option.bind_eq_some_iff.mp h
    cases h
    refine .cons ?_ (ih ?_ hothers)
    · exact htells p List.mem_cons_self share List.mem_cons_self outcome hfirst houtcome
    · exact fun q hq other hother =>
        htells q (List.mem_cons_of_mem _ hq) other (List.mem_cons_of_mem _ hother)

/-- The groups of the expression, read by number, are the shares of the decomposition. -/
theorem readParams?_eq_readShares? {groups : Regex.Groups} {index : Nat}
    {parameters : List Parameter} {shares : List Share}
    (hlength : shares.length = parameters.length)
    (hgroups : ∀ i, groups.lookup (index + i) = shares[i]?.join) :
    readParams? groups index parameters = readShares? parameters shares := by
  induction parameters generalizing index shares with
  | nil => cases shares <;> rfl
  | cons p rest ih =>
    cases shares with
    | nil => simp at hlength
    | cons share shares =>
      have hfirst : groups.lookup index = share := hgroups 0
      have hrest : readParams? groups (index + 1) rest = readShares? rest shares := by
        refine ih (by simpa using hlength) fun i => ?_
        have hi := hgroups (i + 1)
        rwa [Nat.add_comm i 1, ← Nat.add_assoc, Nat.add_comm 1 i] at hi
      rw [readParams?, readShares?, hfirst, hrest]

theorem names_of_readParams? {groups : Regex.Groups} {index : Nat} {parameters : List Parameter}
    {entries : List (String × ParamValue)}
    (h : readParams? groups index parameters = some entries) :
    entries.map Prod.fst = parameters.map Parameter.name := by
  induction parameters generalizing index entries with
  | nil =>
    cases h
    rfl
  | cons p rest ih =>
    rw [readParams?] at h
    obtain ⟨outcome, -, h⟩ := Option.bind_eq_some_iff.mp h
    obtain ⟨others, hothers, h⟩ := Option.bind_eq_some_iff.mp h
    cases h
    rw [List.map_cons, List.map_cons, ih hothers]

namespace RoutePattern

/-- A match has an entry for every declared parameter, in declaration order. -/
theorem names_of_match? {p : RoutePattern} {path : String} {params : Params}
    (h : p.match? path = some params) :
    params.entries.map Prod.fst = p.parameters.map Parameter.name := by
  obtain ⟨normal, -, h⟩ := Option.bind_eq_some_iff.mp h
  obtain ⟨groups, -, h⟩ := Option.bind_eq_some_iff.mp h
  obtain ⟨entries, hentries, h⟩ := Option.bind_eq_some_iff.mp h
  cases h
  exact names_of_readParams? hentries

/-- **Matching finds the first decomposition of the canonical path and reads it.** -/
theorem match?_of_isRooted (p : RoutePattern) {path : String}
    (hrooted : Path.isRooted path.toList) :
    p.match? path = ((decompositions (placed p.segments) (Path.canonical path)).head?.bind
      (readShares? p.parameters)).map Params.mk := by
  have hne : (String.ofList (Path.canonical path)).toList ≠ [] := by
    rw [String.toList_ofList]
    exact Path.canonical_ne_nil path
  have hcaptures := Expression.captures_tree p.segments hne
  rw [String.toList_ofList] at hcaptures
  rw [match?, Path.normalize_of_isRooted hrooted, Option.bind_eq_bind, Option.bind_some, regex,
    hcaptures]
  cases hhead : (decompositions (placed p.segments) (Path.canonical path)).head? with
  | none => rfl
  | some shares =>
    have hlength := (Expression.preferred_of_head? hhead).decomposes.length_shares
    have hread : readParams? (groupsFrom 1 shares) 1 p.parameters =
        readShares? p.parameters shares :=
      readParams?_eq_readShares? hlength fun i => Expression.lookup_groupsFrom 1 i shares
    rw [Option.map_some, Option.bind_eq_bind, Option.bind_some, hread, Option.bind_some]
    cases readShares? p.parameters shares <;> rfl

theorem isRooted_of_match? {p : RoutePattern} {path : String} {params : Params}
    (h : p.match? path = some params) : Path.isRooted path.toList := by
  by_contra hrooted
  have hnormal : Path.normalize path = none := by
    unfold Path.normalize Path.normalized?
    simp [hrooted]
  unfold match? at h
  rw [hnormal] at h
  cases h

/-- A rooted path matches when its preferred decomposition can be read. -/
theorem match?_eq_some_iff (p : RoutePattern) {path : String}
    (hrooted : Path.isRooted path.toList) {params : Params} :
    p.match? path = some params ↔ ∃ shares,
      Preferred p.segments (Path.canonical path) shares ∧
        readShares? p.parameters shares = some params.entries := by
  rw [match?_of_isRooted p hrooted]
  constructor
  · intro h
    obtain ⟨entries, hbind, rfl⟩ := Option.map_eq_some_iff.mp h
    obtain ⟨shares, hhead, hread⟩ := Option.bind_eq_some_iff.mp hbind
    exact ⟨shares, Expression.preferred_of_head? hhead, hread⟩
  · rintro ⟨shares, hpreferred, hread⟩
    rw [Expression.head?_decompositions.mpr hpreferred, Option.bind_some, hread]
    rfl

end RoutePattern

end Routing
