/-
  Routing/Proofs/ConfiguredTable.lean
  ===================================
  **Which configurations make a table, and what is reported of the others.**  The
  expressions of the constraints are read in the order of their names, and then the routes
  are added in their order. Both are folds that stop at the first error, so an error comes
  from the first entry at fault; and since the names of the constraints ascend, the first
  one at fault there is the least.

  Adding routes keeps routes and index of the table in step, which makes a name taken
  exactly if an entry before has it.
-/
import Routing.Config
import Routing.Proofs.Keyed
import Routing.Proofs.Registration
import Routing.Proofs.TableRuns
import Routing.Text.Percent

namespace Routing

open Text.Percent (bytesOf)

/-! ### The constraints of a configuration -/

def registerEntry (set : ConstraintSet) (entry : String × String) :
    Except TableError ConstraintSet :=
  match Regex.ofText entry.2 with
  | .ok r => .ok (set.register entry.1 fun _ => .ok (Builtin.matching r))
  | .error fault => .error (.invalidConstraint entry.1 fault)

section

variable {set set' : ConstraintSet} {entries : List (String × String)}

theorem registerEntry_eq_ok_iff {entry : String × String} :
    registerEntry set entry = .ok set' ↔ ∃ r, Regex.ofText entry.2 = .ok r ∧
      set' = set.register entry.1 fun _ => .ok (Builtin.matching r) := by
  unfold registerEntry
  cases Regex.ofText entry.2 with
  | ok r => simp [eq_comm]
  | error fault => simp

theorem registerEntry_eq_error_iff {entry : String × String} {e : TableError} :
    registerEntry set entry = .error e ↔
      ∃ fault, Regex.ofText entry.2 = .error fault ∧ e = .invalidConstraint entry.1 fault := by
  unfold registerEntry
  cases Regex.ofText entry.2 with
  | ok r => simp
  | error fault => simp [eq_comm]

/-- Registering goes through exactly if all expressions can be read, whatever their names are. -/
theorem exists_registered_iff : (∃ set', entries.foldlM registerEntry set = .ok set') ↔
    ∀ entry ∈ entries, ∃ r, Regex.ofText entry.2 = .ok r := by
  induction entries generalizing set with
  | nil => exact iff_of_true ⟨set, rfl⟩ (by simp)
  | cons entry rest ih =>
    rw [List.forall_mem_cons]
    constructor
    · rintro ⟨set', h⟩
      obtain ⟨next, hentry, hrest⟩ := Except.foldlM_cons_eq_ok.mp h
      obtain ⟨r, hr, -⟩ := registerEntry_eq_ok_iff.mp hentry
      exact ⟨⟨r, hr⟩, ih.mp ⟨set', hrest⟩⟩
    · rintro ⟨⟨r, hr⟩, hrest⟩
      obtain ⟨set', hset'⟩ := ih.mpr hrest
      exact ⟨set', Except.foldlM_cons_eq_ok.mpr
        ⟨_, registerEntry_eq_ok_iff.mpr ⟨r, hr, rfl⟩, hset'⟩⟩

def factoryOf? (entries : List (String × String)) (name : String) : Option ConstraintFactory :=
  if name ∈ reservedNames then none
  else (entries.lookup name).bind fun source =>
    (Regex.ofText source).toOption.map fun r _ => .ok (Builtin.matching r)

/-- Distinct names do not overwrite each other, so each name stands for its own entry. -/
theorem factory?_registered {name : String} (hnodup : (entries.map Prod.fst).Nodup)
    (h : entries.foldlM registerEntry set = .ok set') :
    set'.factory? name = (factoryOf? entries name <|> set.factory? name) := by
  induction entries generalizing set with
  | nil =>
    cases h
    simp [factoryOf?]
  | cons entry rest ih =>
    rw [List.map_cons, List.nodup_cons] at hnodup
    obtain ⟨next, hentry, hrest⟩ := Except.foldlM_cons_eq_ok.mp h
    obtain ⟨r, hr, rfl⟩ := registerEntry_eq_ok_iff.mp hentry
    obtain ⟨key, source⟩ := entry
    rw [ih hnodup.2 hrest, ConstraintSet.factory?_register]
    simp only [factoryOf?, ← Bool.not_eq_true, isReserved_iff]
    by_cases hname : name = key
    · subst hname
      have hnone : rest.lookup name = none := lookup_eq_none_iff_not_mem.mpr hnodup.1
      by_cases hreserved : name ∈ reservedNames
      · simp [hreserved]
      · simp [hreserved, hnone, hr, Except.toOption]
    · simp [hname, List.lookup_cons, beq_false_of_ne hname]

/-- Reserved names can be left out. -/
theorem foldlM_registerEntry_filter (h : entries.foldlM registerEntry set = .ok set') :
    (entries.filter fun entry => entry.1 ∉ reservedNames).foldlM registerEntry set = .ok set' := by
  induction entries generalizing set with
  | nil => exact h
  | cons entry rest ih =>
    obtain ⟨next, hentry, hrest⟩ := Except.foldlM_cons_eq_ok.mp h
    by_cases hreserved : entry.1 ∈ reservedNames
    · obtain ⟨r, -, rfl⟩ := registerEntry_eq_ok_iff.mp hentry
      rw [ConstraintSet.register, if_pos (isReserved_iff.mpr hreserved)] at hrest
      rw [List.filter_cons_of_neg (by simpa using hreserved)]
      exact ih hrest
    · rw [List.filter_cons_of_pos (by simpa using hreserved)]
      exact Except.foldlM_cons_eq_ok.mpr ⟨next, hentry, ih hrest⟩

end

/-! ### The routes of a configuration -/

structure RouteEntry.Makes (set : ConstraintSet) (entry : RouteEntry) (route : Route) : Prop where
  name : route.name? = entry.name?
  pattern : RoutePattern.compile set entry.pattern = .ok route.pattern
  template : route.pattern.template = entry.pattern

/-- What is reported of an entry behind others. A fault of the template comes before one of
    the name. -/
inductive RouteEntry.Fault (set : ConstraintSet) (earlier : List RouteEntry) (entry : RouteEntry) :
    TableError → Prop
  | template {e : PatternError} (h : RoutePattern.compile set entry.pattern = .error e) :
    Fault set earlier entry (.pattern e)
  | name {pattern : RoutePattern} {name : String}
      (hcompile : RoutePattern.compile set entry.pattern = .ok pattern)
      (hname : entry.name? = some name) (htaken : ∃ other ∈ earlier, other.name? = some name) :
    Fault set earlier entry (.duplicateName name)

/-- What the routes of a configuration must keep to. -/
structure ValidRoutes (set : ConstraintSet) (entries : List RouteEntry) : Prop where
  /-- every template is accepted -/
  templates : ∀ entry ∈ entries, ∃ pattern, RoutePattern.compile set entry.pattern = .ok pattern
  /-- no two routes have the same name -/
  names : (entries.filterMap RouteEntry.name?).Nodup

theorem RoutePattern.template_of_compile {set : ConstraintSet} {template : String}
    {p : RoutePattern} (h : compile set template = .ok p) : p.template = template := by
  unfold compile at h
  split at h
  · cases h
  · split at h
    · cases h
    · cases h
      rfl

section

variable {set : ConstraintSet} {entries : List RouteEntry}

theorem exists_makes (h : ∀ entry ∈ entries,
    ∃ pattern, RoutePattern.compile set entry.pattern = .ok pattern) :
    ∃ routes, List.Forall₂ (RouteEntry.Makes set) entries routes := by
  induction entries with
  | nil => exact ⟨[], .nil⟩
  | cons entry rest ih =>
    rw [List.forall_mem_cons] at h
    obtain ⟨pattern, hpattern⟩ := h.1
    obtain ⟨routes, hroutes⟩ := ih h.2
    exact ⟨⟨entry.name?, pattern⟩ :: routes,
      .cons ⟨rfl, hpattern, RoutePattern.template_of_compile hpattern⟩ hroutes⟩

theorem names_of_makes {routes : List Route}
    (h : List.Forall₂ (RouteEntry.Makes set) entries routes) :
    routes.filterMap Route.name? = entries.filterMap RouteEntry.name? := by
  induction h with
  | nil => rfl
  | cons hfirst _ ih => rw [List.filterMap_cons, List.filterMap_cons, hfirst.name, ih]

end

namespace RouteTable

variable {set : ConstraintSet} {table final : RouteTable} {entries : List RouteEntry}

def routeNames (table : RouteTable) : List String :=
  table.routes.filterMap Route.name?

theorem hasName_iff {name : String} : table.HasName name ↔ name ∈ table.routeNames :=
  List.mem_filterMap.symm

theorem routeNames_push (table : RouteTable) (route : Route) :
    (table.push route).routeNames = table.routeNames ++ route.name?.toList := by
  unfold routeNames push
  rw [List.filterMap_append]
  cases hname : route.name? <;> simp [hname]

theorem routes_foldl_push (table : RouteTable) (routes : List Route) :
    (routes.foldl push table).routes = table.routes ++ routes := by
  induction routes generalizing table with
  | nil => simp
  | cons route rest ih =>
    rw [List.foldl_cons, ih]
    simp [push]

/-- An entry becomes the next route if its template compiles and its name is free. -/
theorem InStep.insert_eq_ok_iff (h : table.InStep) {entry : RouteEntry} {next : RouteTable} :
    table.insert set entry.name? entry.pattern = .ok next ↔ ∃ route, entry.Makes set route ∧
      (∀ name ∈ entry.name?, name ∉ table.routeNames) ∧ next = table.push route := by
  have happly : table.insert set entry.name? entry.pattern =
      (TableOperation.insert set entry.name? entry.pattern).apply.orError table := rfl
  rw [happly, Change.orError_eq_ok_iff, h.apply_eq_ok_iff]
  refine exists_congr fun route => ?_
  simp only [hasName_iff, TableOperation.route?]
  constructor
  · rintro ⟨hroute, hfree, rfl⟩
    split at hroute
    · next pattern hcompile =>
      cases hroute
      exact ⟨⟨rfl, hcompile, RoutePattern.template_of_compile hcompile⟩, hfree, rfl⟩
    · cases hroute
  · rintro ⟨hmakes, hfree, rfl⟩
    rw [hmakes.pattern, ← hmakes.name] at *
    exact ⟨rfl, hfree, rfl⟩

theorem InStep.insert_eq_error_iff (h : table.InStep) {entry : RouteEntry}
    {earlier : List RouteEntry} (hearlier : table.routeNames = earlier.filterMap RouteEntry.name?)
    {e : TableError} :
    table.insert set entry.name? entry.pattern = .error e ↔ entry.Fault set earlier e := by
  have happly : table.insert set entry.name? entry.pattern =
      (TableOperation.insert set entry.name? entry.pattern).apply.orError table := rfl
  have htaken {name : String} :
      table.HasName name ↔ ∃ other ∈ earlier, other.name? = some name := by
    rw [hasName_iff, hearlier, List.mem_filterMap]
  rw [happly, Change.orError_eq_error_iff]
  simp only [h.apply_eq_error_iff]
  obtain ⟨name?, template⟩ := entry
  constructor
  · rintro ⟨-, hrefused, -⟩
    cases hrefused with
    | template hcompile => exact .template hcompile
    | insert hcompile hname => exact .name hcompile rfl (htaken.mp hname)
  · intro hfault
    refine ⟨table, ?_, rfl⟩
    cases hfault with
    | template hcompile => exact .template hcompile
    | name hcompile hname hother =>
      cases hname
      exact .insert hcompile (htaken.mpr hother)

theorem InStep.addRoutes (h : table.InStep)
    (hadd : RoutesConfig.addRoutes set entries table = .ok final) : final.InStep := by
  induction entries generalizing table with
  | nil =>
    cases hadd
    exact h
  | cons entry rest ih =>
    obtain ⟨next, hnext, hrest⟩ := Except.foldlM_cons_eq_ok.mp hadd
    refine ih ?_ hrest
    obtain ⟨route, hmakes, hfree, rfl⟩ := h.insert_eq_ok_iff.mp hnext
    exact h.push fun name hname => mt hasName_iff.mp (hfree name (hmakes.name ▸ hname))

/-- **Routes can be added exactly if their templates are accepted and their names are new**,
    and then they stand behind those of the table. -/
theorem InStep.addRoutes_eq_ok_iff (h : table.InStep) :
    RoutesConfig.addRoutes set entries table = .ok final ↔
      ∃ routes, List.Forall₂ (RouteEntry.Makes set) entries routes ∧
        (table.routeNames ++ entries.filterMap RouteEntry.name?).Nodup ∧
        final = routes.foldl RouteTable.push table := by
  induction entries generalizing table with
  | nil =>
    constructor
    · rintro ⟨⟩
      exact ⟨[], .nil, by simpa [routeNames] using h.names, rfl⟩
    · rintro ⟨routes, hroutes, -, rfl⟩
      cases hroutes
      rfl
  | cons entry rest ih =>
    -- the names of a route that is pushed go over to those of the table
    have hnames {route : Route} (hmakes : entry.Makes set route) :
        (table.push route).routeNames ++ rest.filterMap RouteEntry.name? =
          table.routeNames ++ (entry :: rest).filterMap RouteEntry.name? := by
      rw [routeNames_push, hmakes.name, List.append_assoc, List.filterMap_cons]
      cases entry.name? <;> rfl
    have hpush {route : Route} (hmakes : entry.Makes set route)
        (hfree : ∀ name ∈ entry.name?, name ∉ table.routeNames) : (table.push route).InStep :=
      h.push fun name hname => mt hasName_iff.mp (hfree name (hmakes.name ▸ hname))
    have hcons : RoutesConfig.addRoutes set (entry :: rest) table = .ok final ↔
        ∃ next, table.insert set entry.name? entry.pattern = .ok next ∧
          RoutesConfig.addRoutes set rest next = .ok final := Except.foldlM_cons_eq_ok
    rw [hcons]
    constructor
    · rintro ⟨next, hnext, hrest⟩
      obtain ⟨route, hmakes, hfree, rfl⟩ := h.insert_eq_ok_iff.mp hnext
      obtain ⟨routes, hroutes, hnodup, rfl⟩ := (ih (hpush hmakes hfree)).mp hrest
      exact ⟨route :: routes, .cons hmakes hroutes, hnames hmakes ▸ hnodup, rfl⟩
    · rintro ⟨_, _ | @⟨_, route, _, routes, hmakes, hroutes⟩, hnodup, rfl⟩
      -- the name of the entry is not among those before it
      have hfree : ∀ name ∈ entry.name?, name ∉ table.routeNames := by
        intro name hname hmem
        refine (List.nodup_append.mp hnodup).2.2 name hmem name ?_ rfl
        rw [List.mem_filterMap]
        exact ⟨entry, List.mem_cons_self, hname⟩
      refine ⟨table.push route, h.insert_eq_ok_iff.mpr ⟨route, hmakes, hfree, rfl⟩, ?_⟩
      exact (ih (hpush hmakes hfree)).mpr ⟨routes, hroutes, (hnames hmakes).symm ▸ hnodup, rfl⟩

theorem addRoutes_empty_eq_ok_iff : RoutesConfig.addRoutes set entries empty = .ok final ↔
    ∃ routes, List.Forall₂ (RouteEntry.Makes set) entries routes ∧
      (entries.filterMap RouteEntry.name?).Nodup ∧ final = routes.foldl push empty :=
  inStep_empty.addRoutes_eq_ok_iff

/-- **The routes go in exactly if every template compiles and no name stands twice.** -/
theorem exists_addRoutes_iff : (∃ final, RoutesConfig.addRoutes set entries empty = .ok final) ↔
    ValidRoutes set entries := by
  simp only [addRoutes_empty_eq_ok_iff]
  constructor
  · rintro ⟨final, routes, hroutes, hnodup, -⟩
    refine ⟨fun entry hentry => ?_, hnodup⟩
    obtain ⟨route, -, hmakes⟩ := exists_right_of_forall₂ hroutes entry hentry
    exact ⟨route.pattern, hmakes.pattern⟩
  · intro h
    obtain ⟨routes, hroutes⟩ := exists_makes h.templates
    exact ⟨_, routes, hroutes, h.names, rfl⟩

theorem routes_of_addRoutes (h : RoutesConfig.addRoutes set entries empty = .ok final) :
    List.Forall₂ (RouteEntry.Makes set) entries final.routes := by
  obtain ⟨routes, hroutes, -, rfl⟩ := addRoutes_empty_eq_ok_iff.mp h
  rw [routes_foldl_push]
  exact hroutes

/-- **The error of routes is the one of the first entry at fault.** -/
theorem addRoutes_eq_error_iff {e : TableError} :
    RoutesConfig.addRoutes set entries empty = .error e ↔ ∃ before entry after,
      entries = before ++ entry :: after ∧ ValidRoutes set before ∧ entry.Fault set before e := by
  have hfold : RoutesConfig.addRoutes set entries empty = .error e ↔
      ∃ before entry after mid, entries = before ++ entry :: after ∧
        RoutesConfig.addRoutes set before empty = .ok mid ∧
        mid.insert set entry.name? entry.pattern = .error e := Except.foldlM_eq_error_iff
  have hstep {before : List RouteEntry} {entry : RouteEntry} {mid : RouteTable}
      (hmid : RoutesConfig.addRoutes set before empty = .ok mid) :
      mid.insert set entry.name? entry.pattern = .error e ↔ entry.Fault set before e := by
    refine (inStep_empty.addRoutes hmid).insert_eq_error_iff ?_
    exact names_of_makes (routes_of_addRoutes hmid)
  rw [hfold]
  constructor
  · rintro ⟨before, entry, after, mid, heq, hmid, hinsert⟩
    exact ⟨before, entry, after, heq, exists_addRoutes_iff.mp ⟨mid, hmid⟩, (hstep hmid).mp hinsert⟩
  · rintro ⟨before, entry, after, heq, hvalid, hfault⟩
    obtain ⟨mid, hmid⟩ := exists_addRoutes_iff.mpr hvalid
    exact ⟨before, entry, after, mid, heq, hmid, (hstep hmid).mpr hfault⟩

end RouteTable

/-! ### The table of a configuration -/

namespace RoutesConfig

variable {config : RoutesConfig}

/-- The names of the constraints ascend byte by byte, as the keys of a map do. -/
def Ordered (config : RoutesConfig) : Prop :=
  config.constraints.Pairwise fun first second => bytesOf first.1 < bytesOf second.1

def unreserved (config : RoutesConfig) : RoutesConfig :=
  { config with constraints := config.constraints.filter fun entry => entry.1 ∉ reservedNames }

/-- What a configuration must keep to. -/
structure Valid (config : RoutesConfig) : Prop where
  /-- every expression compiles -/
  constraints : ∀ entry ∈ config.constraints, ∃ r, Regex.ofText entry.2 = .ok r
  /-- the routes are valid with the constraints of the configuration -/
  routes : ∃ set, config.constraintSet = .ok set ∧ ValidRoutes set config.routes

inductive Fault (config : RoutesConfig) : TableError → Prop
  /-- of the names with an expression that does not compile, the least one -/
  | constraint {name source : String} {fault : Regex.Fault}
      (hmem : (name, source) ∈ config.constraints) (hfault : Regex.ofText source = .error fault)
      (hleast : ∀ other ∈ config.constraints, (∃ e, Regex.ofText other.2 = .error e) →
        other.1 = name ∨ bytesOf name < bytesOf other.1) :
    Fault config (.invalidConstraint name fault)
  /-- if every expression compiles, the error of the first route at fault -/
  | route {set : ConstraintSet} {before after : List RouteEntry} {entry : RouteEntry}
      {e : TableError} (hset : config.constraintSet = .ok set)
      (hroutes : config.routes = before ++ entry :: after) (hbefore : ValidRoutes set before)
      (hentry : entry.Fault set before e) :
    Fault config e

theorem Ordered.nodup (h : config.Ordered) : (config.constraints.map Prod.fst).Nodup := by
  rw [List.Nodup, List.pairwise_map]
  refine List.Pairwise.imp (fun {first second} hlt heq => ?_) h
  rw [heq] at hlt
  exact List.lt_irrefl _ hlt

theorem constraintSet_eq (config : RoutesConfig) :
    config.constraintSet = config.constraints.foldlM registerEntry .empty := by
  unfold constraintSet
  congr 1
  funext set ⟨name, source⟩
  simp only [registerEntry, ConstraintSet.registerRegex, Change.orError,
    ConstraintSet.registerRegexM_run]
  cases Regex.ofText source <;> rfl

theorem exists_constraintSet_iff : (∃ set, config.constraintSet = .ok set) ↔
    ∀ entry ∈ config.constraints, ∃ r, Regex.ofText entry.2 = .ok r := by
  simp only [constraintSet_eq]
  exact exists_registered_iff

theorem factory?_constraintSet (hordered : config.Ordered) {set : ConstraintSet}
    (hset : config.constraintSet = .ok set) (name : String) :
    set.factory? name = factoryOf? config.constraints name := by
  rw [constraintSet_eq] at hset
  rw [factory?_registered hordered.nodup hset]
  cases factoryOf? config.constraints name <;> rfl

/-- The error of the constraints is the one of the least name at fault. -/
theorem constraintSet_eq_error_iff (hordered : config.Ordered) {e : TableError} :
    config.constraintSet = .error e ↔ ∃ name source fault, (name, source) ∈ config.constraints ∧
      Regex.ofText source = .error fault ∧ e = .invalidConstraint name fault ∧
      ∀ other ∈ config.constraints, (∃ e, Regex.ofText other.2 = .error e) →
        other.1 = name ∨ bytesOf name < bytesOf other.1 := by
  rw [constraintSet_eq, Except.foldlM_eq_error_iff]
  constructor
  · rintro ⟨before, ⟨name, source⟩, after, mid, heq, hbefore, hentry⟩
    obtain ⟨fault, hfault, rfl⟩ := registerEntry_eq_error_iff.mp hentry
    refine ⟨name, source, fault, by simp [heq], hfault, rfl, fun other hother hbad => ?_⟩
    rw [heq, List.mem_append, List.mem_cons] at hother
    -- those before it were registered, and those after it have greater names
    rcases hother with hother | rfl | hother
    · obtain ⟨r, hr⟩ := exists_registered_iff.mp ⟨mid, hbefore⟩ other hother
      obtain ⟨e, he⟩ := hbad
      rw [hr] at he
      cases he
    · exact .inl rfl
    · have hpairs := hordered
      rw [Ordered, heq, List.pairwise_append, List.pairwise_cons] at hpairs
      exact .inr (hpairs.2.1.1 other hother)
  · rintro ⟨name, source, fault, hmem, hfault, rfl, hleast⟩
    obtain ⟨before, after, heq⟩ := List.append_of_mem hmem
    have hpairs := hordered
    rw [Ordered, heq, List.pairwise_append] at hpairs
    -- an entry before it has a smaller name, so it compiles
    have hbefore : ∀ entry ∈ before, ∃ r, Regex.ofText entry.2 = .ok r := by
      intro entry hentry
      cases hr : Regex.ofText entry.2 with
      | ok r => exact ⟨r, rfl⟩
      | error e =>
        have hlt := hpairs.2.2 entry hentry (name, source) List.mem_cons_self
        rcases hleast entry (by simp [heq, hentry]) ⟨e, hr⟩ with hname | hgt
        · rw [hname] at hlt
          exact absurd hlt (List.lt_irrefl _)
        · exact absurd hgt (List.lt_asymm hlt)
    obtain ⟨mid, hmid⟩ := exists_registered_iff.mpr hbefore
    exact ⟨before, (name, source), after, mid, heq, hmid,
      registerEntry_eq_error_iff.mpr ⟨fault, hfault, rfl⟩⟩

theorem table_of_constraintSet {set : ConstraintSet} (hset : config.constraintSet = .ok set) :
    config.table = addRoutes set config.routes RouteTable.empty := by
  unfold table
  rw [hset]
  rfl

/-- Constraints under reserved names have no part in the set. -/
theorem constraintSet_unreserved {set : ConstraintSet} (hset : config.constraintSet = .ok set) :
    config.unreserved.constraintSet = .ok set := by
  rw [constraintSet_eq] at hset ⊢
  exact foldlM_registerEntry_filter hset

theorem exists_table_iff : (∃ table, config.table = .ok table) ↔ config.Valid := by
  constructor
  · rintro ⟨table, htable⟩
    obtain ⟨set, hset, hroutes⟩ := Except.bind_eq_ok.mp htable
    exact ⟨exists_constraintSet_iff.mp ⟨set, hset⟩, set, hset,
      RouteTable.exists_addRoutes_iff.mp ⟨table, hroutes⟩⟩
  · rintro ⟨-, set, hset, hroutes⟩
    rw [table_of_constraintSet hset]
    exact RouteTable.exists_addRoutes_iff.mpr hroutes

theorem table_eq_error_iff (hordered : config.Ordered) {e : TableError} :
    config.table = .error e ↔ config.Fault e := by
  unfold table
  rw [Except.bind_eq_error, constraintSet_eq_error_iff hordered]
  simp only [RouteTable.addRoutes_eq_error_iff]
  constructor
  · rintro (⟨name, source, fault, hmem, hfault, rfl, hleast⟩ |
      ⟨set, hset, before, entry, after, hroutes, hbefore, hentry⟩)
    · exact .constraint hmem hfault hleast
    · exact .route hset hroutes hbefore hentry
  · intro h
    cases h with
    | constraint hmem hfault hleast => exact .inl ⟨_, _, _, hmem, hfault, rfl, hleast⟩
    | route hset hroutes hbefore hentry =>
      exact .inr ⟨_, hset, _, _, _, hroutes, hbefore, hentry⟩

/-- **A configuration makes a table with all of its routes, or none and a definite error.**
    It makes one exactly if every expression compiles, every template is accepted and no name
    is used twice, and then the routes of the table are those of the configuration, one for
    one. Of any other configuration exactly its fault is reported. A constraint under a
    reserved name must compile, and is of no use to any route. -/
theorem table_valid_or_first_fault (config : RoutesConfig) (hordered : config.Ordered) :
    ((∃ table, config.table = .ok table) ↔ config.Valid) ∧
      (∀ table, config.table = .ok table → ∃ set, config.constraintSet = .ok set ∧
        List.Forall₂ (RouteEntry.Makes set) config.routes table.routes) ∧
      (∀ e, config.table = .error e ↔ config.Fault e) ∧
      ∀ set, config.constraintSet = .ok set →
        (∀ name, set.factory? name = factoryOf? config.constraints name) ∧
          config.unreserved.constraintSet = .ok set ∧ config.unreserved.table = config.table := by
  refine ⟨exists_table_iff, fun table htable => ?_, fun _ => table_eq_error_iff hordered, ?_⟩
  · obtain ⟨set, hset, hroutes⟩ := Except.bind_eq_ok.mp htable
    exact ⟨set, hset, RouteTable.routes_of_addRoutes hroutes⟩
  · intro set hset
    have hunreserved := constraintSet_unreserved hset
    refine ⟨factory?_constraintSet hordered hset, hunreserved, ?_⟩
    rw [table_of_constraintSet hset, table_of_constraintSet hunreserved]
    rfl

/-- Of two faulty expressions the one of the least name is reported, though the name is
    reserved; and a route with a fault in its template and a name that is taken is reported
    for its template. -/
theorem table_valid_or_first_fault_slug :
    let routes : List RouteEntry := [⟨some "home", "/"⟩, ⟨none, "/\x7bpage:slug\x7d"⟩]
    let faulty : RoutesConfig := ⟨[("=", "("), ("slug", ")")], routes⟩
    let sound : RoutesConfig := ⟨[("=", "x"), ("slug", "[a-z]")], routes⟩
    let late : RoutesConfig := ⟨sound.constraints, routes ++ [⟨some "home", "/\x7bpage"⟩]⟩
    faulty.Ordered ∧ sound.Ordered ∧ late.Ordered ∧
      faulty.table = .error (.invalidConstraint "=" .unclosedGroup) ∧
      (∃ table, sound.table = .ok table ∧ sound.unreserved.table = .ok table) ∧
      late.table =
        .error (.pattern ⟨.malformed ⟨.token .unterminatedParameter, 1⟩, "/\x7bpage"⟩) := by
  intro routes faulty sound late
  let letter : Regex := .chars (CharClass.range 'a' 'z')
  let set : ConstraintSet := ⟨[("slug", fun _ => .ok (Builtin.matching letter))]⟩
  have hfaulty : faulty.Ordered := by
    simp only [faulty, Ordered]
    decide +kernel
  have hsound : sound.Ordered := by
    simp only [sound, Ordered]
    decide +kernel
  have hset : sound.constraintSet = .ok set := rfl
  have hhome : Template.outline "/" = .ok [] := by decide +kernel
  have hpage : Template.outline "/\x7bpage:slug\x7d" =
      .ok [⟨[.parameter ⟨"page", .required, [⟨"slug", ""⟩], none⟩]⟩] := by
    decide +kernel
  have hopen : Template.outline "/\x7bpage" = .error ⟨.token .unterminatedParameter, 1⟩ := by
    decide +kernel
  have hroutes : ValidRoutes set routes := by
    refine ⟨?_, by simp [routes]⟩
    simp only [routes, List.forall_mem_cons]
    exact ⟨⟨_, RoutePattern.compile_of_outline hhome rfl⟩,
      ⟨_, RoutePattern.compile_of_outline hpage rfl⟩, by simp⟩
  have hlast : RoutePattern.compile set "/\x7bpage" =
      .error ⟨.malformed ⟨.token .unterminatedParameter, 1⟩, "/\x7bpage"⟩ := by
    simp only [RoutePattern.compile, hopen]
  obtain ⟨hvalid, -, -, hreserved⟩ := table_valid_or_first_fault sound hsound
  obtain ⟨-, -, hfirst, -⟩ := table_valid_or_first_fault faulty hfaulty
  obtain ⟨-, -, hlate, -⟩ := table_valid_or_first_fault late hsound
  obtain ⟨table, htable⟩ := hvalid.mpr ⟨exists_constraintSet_iff.mp ⟨set, hset⟩, set, hset, hroutes⟩
  refine ⟨hfaulty, hsound, hsound, (hfirst _).mpr (.constraint List.mem_cons_self rfl ?_),
    ⟨table, htable, (hreserved set hset).2.2.trans htable⟩,
    (hlate _).mpr (.route hset rfl hroutes (.template hlast))⟩
  intro other hother _
  simp only [faulty, List.mem_cons, List.not_mem_nil, or_false] at hother
  rcases hother with rfl | rfl
  · exact .inl rfl
  · exact .inr (by decide +kernel)

end RoutesConfig

end Routing
