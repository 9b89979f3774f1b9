/-
  Routing/Proofs/FirstMatch.lean
  ==============================
  **The first route that matches wins, and stays.**  A table normalizes a path once and
  its patterns normalize it again; a normal form is its own normal form, so every pattern
  answers as it would for the path itself. Operations only put routes behind those of a
  table, so what was found first is found first ever after.
-/
import Routing.Proofs.Matching
import Routing.Proofs.TableRuns

namespace Routing

/-- A pattern matches the normal form of a path as it matches the path. -/
theorem RoutePattern.match?_of_normalize (p : RoutePattern) {path normal : String}
    (h : Path.normalize path = some normal) : p.match? normal = p.match? path := by
  have hnormal := Path.normalize_of_isCanonical (Path.isCanonical_of_normalize h)
  simp only [match?, h, hnormal]

namespace RouteTable

/-- The first route whose pattern matches the path, with what the pattern says of the path
    and with the normal form of the path. -/
structure Finds (table : RouteTable) (path : String) (found : RouteMatch) : Prop where
  first : ∃ i, ∃ h : i < table.routes.length, table.routes[i] = found.route ∧
    ∀ j, ∀ hj : j < i, table.routes[j].pattern.match? path = none
  params : found.route.pattern.match? path = some found.params
  path : Path.normalize path = some found.path
  canonical : Path.isCanonical found.path

def answer (path normal : String) (route : Route) : Option RouteMatch :=
  (route.pattern.match? path).map fun params => ⟨route, params, normal⟩

theorem match?_of_normalize (table : RouteTable) {path normal : String}
    (h : Path.normalize path = some normal) :
    table.match? path = table.routes.findSome? (answer path normal) := by
  rw [match?, h, Option.bind_eq_bind, Option.bind_some]
  congr 1
  funext route
  rw [route.pattern.match?_of_normalize h, answer]

theorem answer_eq_none_iff {path normal : String} {route : Route} :
    answer path normal route = none ↔ route.pattern.match? path = none := by
  rw [answer, Option.map_eq_none_iff]

theorem match?_eq_none_iff (table : RouteTable) (path : String) :
    table.match? path = none ↔ ∀ route ∈ table.routes, route.pattern.match? path = none := by
  cases hnormal : Path.normalize path with
  | none =>
    have htable : table.match? path = none := by
      rw [match?, hnormal]
      rfl
    have hroute (p : RoutePattern) : p.match? path = none := by
      rw [RoutePattern.match?, hnormal]
      rfl
    exact ⟨fun _ route _ => hroute route.pattern, fun _ => htable⟩
  | some normal =>
    rw [table.match?_of_normalize hnormal, List.findSome?_eq_none_iff]
    simp only [answer_eq_none_iff]

/-- **A table answers with its first route that matches.** -/
theorem match?_eq_some_iff (table : RouteTable) (path : String) (found : RouteMatch) :
    table.match? path = some found ↔ table.Finds path found := by
  constructor
  · intro h
    obtain ⟨normal, hnormal, -⟩ := Option.bind_eq_some_iff.mp h
    rw [table.match?_of_normalize hnormal, List.findSome?_eq_some_iff] at h
    obtain ⟨before, route, after, hroutes, hanswer, hbefore⟩ := h
    obtain ⟨params, hparams, rfl⟩ := Option.map_eq_some_iff.mp hanswer
    refine ⟨⟨before.length, by simp [hroutes], by simp [hroutes], fun j hj => ?_⟩, hparams, hnormal,
      Path.isCanonical_of_normalize hnormal⟩
    have hlength : before.length ≤ table.routes.length := by simp [hroutes]
    have hlt : j < table.routes.length := by omega
    have hroute : table.routes[j] = before[j] := by simp [hroutes, List.getElem_append_left hj]
    rw [hroute]
    exact answer_eq_none_iff.mp (hbefore _ (List.getElem_mem hj))
  · rintro ⟨⟨i, hi, hroute, hearlier⟩, hparams, hnormal, -⟩
    rw [table.match?_of_normalize hnormal, List.findSome?_eq_some_iff]
    refine ⟨table.routes.take i, found.route, table.routes.drop (i + 1), ?_, ?_, ?_⟩
    · rw [← hroute, ← List.drop_eq_getElem_cons hi, List.take_append_drop]
    · rw [answer, hparams]
      rfl
    · intro route hmem
      obtain ⟨j, hj, rfl⟩ := List.mem_take_iff_getElem.mp hmem
      exact answer_eq_none_iff.mpr (hearlier j (by omega))

/-- What a table finds for a path, a table with more routes behind finds too. -/
theorem match?_of_prefix {table later : RouteTable} (h : table.routes <+: later.routes)
    {path : String} {found : RouteMatch} (hmatch : table.match? path = some found) :
    later.match? path = some found := by
  obtain ⟨normal, hnormal, -⟩ := Option.bind_eq_some_iff.mp hmatch
  obtain ⟨more, hmore⟩ := h
  rw [table.match?_of_normalize hnormal] at hmatch
  rw [later.match?_of_normalize hnormal, ← hmore, List.findSome?_append, hmatch]
  rfl

/-- **The first route that matches wins, and stays.** A table that operations made finds
    nothing for a path exactly if no pattern matches it, and else the first route whose
    pattern does; it finds the same after any further operations. -/
theorem match?_run_first (ops : List TableOperation) (path : String) :
    let table := empty.run ops
    (table.match? path = none ↔ ∀ route ∈ table.routes, route.pattern.match? path = none) ∧
      (∀ found, table.match? path = some found ↔ table.Finds path found) ∧
      ∀ found, table.match? path = some found →
        ∀ more, (empty.run (ops ++ more)).match? path = some found := by
  intro table
  refine ⟨table.match?_eq_none_iff path, table.match?_eq_some_iff path, ?_⟩
  intro found hfound more
  rw [run_append]
  exact match?_of_prefix ((inStep_empty.run ops).routes_isPrefix_run more) hfound

/-- A route whose constraint rejects the path is passed over, and one that is added later and
    matches too is not found. -/
theorem match?_run_first_slug :
    let number : Parameter := ⟨"id", .required, [Builtin.int.labelled "int" ""], none⟩
    let name : Parameter := ⟨"slug", .required, [], none⟩
    let byNumber : RoutePattern := ⟨"/\x7bid:int\x7d", [⟨[.parameter number]⟩]⟩
    let byName : RoutePattern := ⟨"/\x7bslug\x7d", [⟨[.parameter name]⟩]⟩
    let ops : List TableOperation := [.add byNumber, .addNamed "page" byName]
    let found : RouteMatch :=
      ⟨⟨some "page", byName⟩, ⟨[("slug", .present (.text "ten"))]⟩, "/ten"⟩
    (empty.run ops).match? "//ten/" = some found ∧ (empty.run ops).Finds "//ten/" found ∧
      (empty.run (ops ++ [.addNamed "other" byName])).match? "//ten/" = some found := by
  intro number name byNumber byName ops found
  have hnormal : Path.normalize "//ten/" = some "/ten" := by decide +kernel
  have hfirst : byNumber.regex.captures "/ten" = some [(1, "ten".toList)] := by decide +kernel
  have hsecond : byName.regex.captures "/ten" = some [(1, "ten".toList)] := by decide +kernel
  have hnumber : readParams? [(1, "ten".toList)] 1 byNumber.parameters = none := rfl
  have hname : readParams? [(1, "ten".toList)] 1 byName.parameters =
      some [("slug", .present (.text "ten"))] := rfl
  have hnone : byNumber.match? "//ten/" = none := by
    unfold RoutePattern.match?
    simp only [hnormal, hfirst, hnumber, Option.bind_eq_bind, Option.bind_some, Option.bind_none]
  have hsome : byName.match? "//ten/" = some found.params := by
    unfold RoutePattern.match?
    simp only [hnormal, hsecond, hname, Option.bind_eq_bind, Option.bind_some, Option.pure_def]
    rfl
  obtain ⟨-, hfinds, hlater⟩ := match?_run_first ops "//ten/"
  have hfound : (empty.run ops).Finds "//ten/" found := by
    refine ⟨⟨1, by decide, rfl, fun j hj => ?_⟩, hsome, hnormal, by decide +kernel⟩
    obtain rfl : j = 0 := by omega
    exact hnone
  have hmatch := (hfinds found).mpr hfound
  exact ⟨hmatch, hfound, hlater found hmatch [.addNamed "other" byName]⟩

end RouteTable

end Routing
