/-
  Routing/Proofs/TableRuns.lean
  =============================
  **Tables over whole runs.**  A table grows by operations that add a route; an operation
  that fails leaves the table as it was. The routes of a table are those of the
  operations that succeeded, in their order, and the index leads each name to the one
  route that has it.

  An operation that succeeds pushes its route, and it succeeds exactly if its template
  compiles and its name is free. So it is enough that pushing a route with a free name
  keeps routes and index in step.
-/
import Routing.Table

namespace Routing

inductive TableOperation where
  /-- adds a route without a name -/
  | add (pattern : RoutePattern)
  /-- adds a route with a name -/
  | addNamed (name : String) (pattern : RoutePattern)
  /-- compiles a template and adds it, with a name or without one -/
  | insert (set : ConstraintSet) (name? : Option String) (template : String)

namespace TableOperation

def apply : TableOperation → Change TableError RouteTable Unit
  | .add pattern => modify fun table => table.add pattern
  | .addNamed name pattern => RouteTable.addNamedM name pattern
  | .insert set name? template => RouteTable.insertM set name? template

/-- The route that the operation is to add, if its template compiles. -/
def route? : TableOperation → Option Route
  | .add pattern => some ⟨none, pattern⟩
  | .addNamed name pattern => some ⟨some name, pattern⟩
  | .insert set name? template =>
    match RoutePattern.compile set template with
    | .ok pattern => some ⟨name?, pattern⟩
    | .error _ => none

end TableOperation

namespace RouteTable

def HasName (table : RouteTable) (name : String) : Prop :=
  ∃ route ∈ table.routes, route.name? = some name

/-- The table that an operation leaves, whether it fails or not. -/
def after (table : RouteTable) (op : TableOperation) : RouteTable :=
  op.apply.left table

def run (table : RouteTable) (ops : List TableOperation) : RouteTable :=
  ops.foldl after table

def successes : RouteTable → List TableOperation → List TableOperation
  | _, [] => []
  | table, op :: rest =>
    match op.apply.run table with
    | .ok _ next => op :: successes next rest
    | .error _ next => successes next rest

/-- Routes and index of a table are in step. -/
structure InStep (table : RouteTable) : Prop where
  /-- the index leads a name to a place exactly if the route there has the name -/
  index : ∀ name i, table.index.lookup name = some i ↔
    ∃ h : i < table.routes.length, table.routes[i].name? = some name
  /-- no two routes have the same name -/
  names : (table.routes.filterMap Route.name?).Nodup

/-! ### One operation -/

def push (table : RouteTable) (route : Route) : RouteTable where
  routes := table.routes ++ [route]
  index :=
    match route.name? with
    | some name => (name, table.routes.length) :: table.index
    | none => table.index

end RouteTable

/-- Why an operation fails. A fault of the template comes before one of the name. -/
inductive TableOperation.Refused (table : RouteTable) : TableOperation → TableError → Prop
  | addNamed {name : String} {pattern : RoutePattern} (h : table.HasName name) :
    Refused table (.addNamed name pattern) (.duplicateName name)
  | template {set : ConstraintSet} {name? : Option String} {template : String} {e : PatternError}
      (h : RoutePattern.compile set template = .error e) :
    Refused table (.insert set name? template) (.pattern e)
  | insert {set : ConstraintSet} {name template : String} {pattern : RoutePattern}
      (hcompile : RoutePattern.compile set template = .ok pattern) (h : table.HasName name) :
    Refused table (.insert set (some name) template) (.duplicateName name)

namespace RouteTable

variable {table : RouteTable}

/-- The index knows the names that routes have. -/
theorem InStep.isSome_lookup (h : table.InStep) {name : String} :
    (table.index.lookup name).isSome ↔ table.HasName name := by
  rw [Option.isSome_iff_exists]
  constructor
  · rintro ⟨i, hi⟩
    obtain ⟨hlt, hname⟩ := (h.index name i).mp hi
    exact ⟨table.routes[i], List.getElem_mem hlt, hname⟩
  · rintro ⟨route, hroute, hname⟩
    obtain ⟨i, hlt, rfl⟩ := List.getElem_of_mem hroute
    exact ⟨i, (h.index name i).mpr ⟨hlt, hname⟩⟩

theorem addNamedM_run (table : RouteTable) (name : String) (pattern : RoutePattern) :
    (addNamedM name pattern).run table =
      if (table.index.lookup name).isSome then .error (.duplicateName name) table
      else .ok () (table.push ⟨some name, pattern⟩) := by
  have hget : (addNamedM name pattern).run table =
      EStateM.run (do
        if (table.index.lookup name).isSome then
          throw (.duplicateName name)
        modify fun table => { table with index := (name, table.routes.length) :: table.index }
        modify fun table =>
          { table with routes := table.routes ++ [⟨some name, pattern⟩] } :
            Change TableError RouteTable Unit) table := rfl
  rw [hget]
  split
  · rfl
  · rfl

/-- A name that is taken is refused before anything is changed. -/
theorem InStep.addNamedM_taken (h : table.InStep) {name : String} (hname : table.HasName name)
    (pattern : RoutePattern) :
    (addNamedM name pattern).run table = .error (.duplicateName name) table := by
  rw [addNamedM_run, if_pos (h.isSome_lookup.mpr hname)]

theorem InStep.addNamedM_free (h : table.InStep) {name : String} (hname : ¬ table.HasName name)
    (pattern : RoutePattern) :
    (addNamedM name pattern).run table = .ok () (table.push ⟨some name, pattern⟩) := by
  rw [addNamedM_run, if_neg (mt h.isSome_lookup.mp hname)]

theorem insertM_of_error (table : RouteTable) {set : ConstraintSet} {template : String}
    {e : PatternError} (hcompile : RoutePattern.compile set template = .error e)
    (name? : Option String) :
    (insertM set name? template).run table = .error (.pattern e) table := by
  rw [insertM, hcompile]
  rfl

theorem insertM_of_ok {set : ConstraintSet} {template : String} {pattern : RoutePattern}
    (hcompile : RoutePattern.compile set template = .ok pattern) (name? : Option String) :
    insertM set name? template =
      match name? with
      | some name => addNamedM name pattern
      | none => modify fun table => table.push ⟨none, pattern⟩ := by
  rw [insertM, hcompile]
  rfl

/-- **An operation succeeds exactly if it has a route whose name is free**, and pushes it. -/
theorem InStep.apply_eq_ok_iff (h : table.InStep) {op : TableOperation} {next : RouteTable} :
    op.apply.run table = .ok () next ↔ ∃ route, op.route? = some route ∧
      (∀ name, route.name? = some name → ¬ table.HasName name) ∧ next = table.push route := by
  have hnamed (name : String) (pattern : RoutePattern) :
      (addNamedM name pattern).run table = .ok () next ↔
        ¬ table.HasName name ∧ next = table.push ⟨some name, pattern⟩ := by
    by_cases hname : table.HasName name
    · simp [h.addNamedM_taken hname, hname]
    · simp [h.addNamedM_free hname, hname, eq_comm]
  rcases op with pattern | ⟨name, pattern⟩ | ⟨set, name?, template⟩
  · have hadd : (TableOperation.add pattern).apply.run table =
        .ok () (table.push ⟨none, pattern⟩) := rfl
    simp [hadd, TableOperation.route?, eq_comm]
  · simp [TableOperation.apply, TableOperation.route?, hnamed]
  · cases hcompile : RoutePattern.compile set template with
    | error e =>
      simp [TableOperation.apply, TableOperation.route?, insertM_of_error table hcompile, hcompile]
    | ok pattern =>
      rw [TableOperation.apply, insertM_of_ok hcompile]
      cases name? with
      | none => simp [TableOperation.route?, hcompile, eq_comm]
      | some name => simp [TableOperation.route?, hcompile, hnamed]

/-- **An operation that fails has changed nothing.** -/
theorem InStep.apply_eq_error_iff (h : table.InStep) {op : TableOperation} {e : TableError}
    {left : RouteTable} :
    op.apply.run table = .error e left ↔ op.Refused table e ∧ left = table := by
  have hnamed (name : String) (pattern : RoutePattern) :
      (addNamedM name pattern).run table = .error e left ↔
        table.HasName name ∧ e = .duplicateName name ∧ left = table := by
    by_cases hname : table.HasName name
    · simp [h.addNamedM_taken hname, hname, eq_comm]
    · simp [h.addNamedM_free hname, hname]
  constructor
  · intro herror
    rcases op with pattern | ⟨name, pattern⟩ | ⟨set, name?, template⟩
    · cases herror
    · obtain ⟨hname, rfl, rfl⟩ := (hnamed name pattern).mp herror
      exact ⟨.addNamed hname, rfl⟩
    · -- the template is compiled before the table is touched
      cases hcompile : RoutePattern.compile set template with
      | error fault =>
        have hinsert := insertM_of_error table hcompile name?
        cases hinsert.symm.trans herror
        exact ⟨.template hcompile, rfl⟩
      | ok pattern =>
        rw [TableOperation.apply, insertM_of_ok hcompile] at herror
        cases name? with
        | none => cases herror
        | some name =>
          obtain ⟨hname, rfl, rfl⟩ := (hnamed name pattern).mp herror
          exact ⟨.insert hcompile hname, rfl⟩
  · rintro ⟨hrefused, rfl⟩
    cases hrefused with
    | addNamed hname => exact h.addNamedM_taken hname _
    | template hcompile => exact insertM_of_error left hcompile _
    | @insert _ name _ pattern hcompile hname =>
      rw [TableOperation.apply, insertM_of_ok hcompile]
      exact h.addNamedM_taken hname pattern

/-- A name is in a pushed table where it was before, or with the pushed route. -/
theorem name_at_push (table : RouteTable) (route : Route) (name : String) (i : Nat) :
    (∃ h : i < (table.push route).routes.length, (table.push route).routes[i].name? = some name) ↔
      (∃ h : i < table.routes.length, table.routes[i].name? = some name) ∨
        (i = table.routes.length ∧ route.name? = some name) := by
  have hlength : (table.push route).routes.length = table.routes.length + 1 :=
    List.length_append
  rcases Nat.lt_trichotomy i table.routes.length with hlt | rfl | hgt
  · simp [push, List.getElem_append_left hlt, hlt, Nat.ne_of_lt hlt, Nat.lt_succ_of_lt hlt]
  · simp [push]
  · constructor
    · rintro ⟨hi, -⟩
      omega
    · rintro (⟨hi, -⟩ | ⟨rfl, -⟩)
      · omega
      · omega

/-- **Pushing a route with a free name keeps routes and index in step.** -/
theorem InStep.push (h : table.InStep) {route : Route}
    (hfree : ∀ name, route.name? = some name → ¬ table.HasName name) :
    (table.push route).InStep := by
  have hnames : (table.push route).routes.filterMap Route.name? =
      table.routes.filterMap Route.name? ++ route.name?.toList := by
    cases hname : route.name? <;> simp [RouteTable.push, hname]
  constructor
  · intro other i
    rw [name_at_push, ← h.index]
    cases hname : route.name? with
    | none => simp [RouteTable.push, hname]
    | some name =>
      have hindex : (table.push route).index = (name, table.routes.length) :: table.index := by
        simp [RouteTable.push, hname]
      have hnone : table.index.lookup name = none :=
        Option.not_isSome_iff_eq_none.mp (mt h.isSome_lookup.mp (hfree name hname))
      rw [hindex]
      by_cases hother : other = name
      · subst hother
        simp [hnone, eq_comm]
      · simp [List.lookup_cons, beq_false_of_ne hother, Ne.symm hother]
  · rw [hnames]
    cases hname : route.name? with
    | none => simpa using h.names
    | some name =>
      refine List.nodup_append.mpr ⟨h.names, by simp, ?_⟩
      rintro old hold new hnew rfl
      cases List.mem_singleton.mp hnew
      obtain ⟨other, hmem, hother⟩ := List.mem_filterMap.mp hold
      exact hfree name hname ⟨other, hmem, hother⟩

theorem inStep_empty : empty.InStep := by
  refine ⟨fun name i => ?_, .nil⟩
  simp [empty]

/-- **An operation pushes a route with a free name, or leaves the table as it was.** -/
theorem InStep.after_cases (h : table.InStep) (op : TableOperation) :
    (∃ route, op.apply.run table = .ok () (table.push route) ∧ op.route? = some route ∧
        (∀ name, route.name? = some name → ¬ table.HasName name) ∧
        table.after op = table.push route) ∨
      ∃ e, op.apply.run table = .error e table ∧ op.Refused table e ∧ table.after op = table := by
  unfold RouteTable.after Change.left
  cases happly : op.apply.run table with
  | ok _ next =>
    obtain ⟨route, hroute, hfree, rfl⟩ := h.apply_eq_ok_iff.mp happly
    exact .inl ⟨route, rfl, hroute, hfree, rfl⟩
  | error e left =>
    obtain ⟨hrefused, rfl⟩ := h.apply_eq_error_iff.mp happly
    exact .inr ⟨e, rfl, hrefused, rfl⟩

theorem InStep.after (h : table.InStep) (op : TableOperation) : (table.after op).InStep := by
  rcases h.after_cases op with ⟨route, -, -, hfree, hafter⟩ | ⟨e, -, -, hafter⟩
  · rw [hafter]
    exact h.push hfree
  · rw [hafter]
    exact h

/-! ### Runs -/

theorem run_append (table : RouteTable) (ops more : List TableOperation) :
    table.run (ops ++ more) = (table.run ops).run more :=
  List.foldl_append

theorem InStep.run (h : table.InStep) (ops : List TableOperation) : (table.run ops).InStep := by
  induction ops generalizing table with
  | nil => exact h
  | cons op rest ih => exact ih (h.after op)

/-- A run puts the routes of the operations that succeed behind those of the table. -/
theorem InStep.routes_run (h : table.InStep) (ops : List TableOperation) :
    (table.run ops).routes.map some =
      table.routes.map some ++ (table.successes ops).map TableOperation.route? := by
  induction ops generalizing table with
  | nil => simp [RouteTable.run, successes]
  | cons op rest ih =>
    have hrest := ih (h.after op)
    rw [RouteTable.run, List.foldl_cons, ← RouteTable.run, hrest, successes]
    rcases h.after_cases op with ⟨route, happly, hroute, -, hafter⟩ | ⟨e, happly, -, hafter⟩
    · rw [happly, hafter]
      simp [RouteTable.push, hroute]
    · rw [happly, hafter]

/-- Routes stay where they are: a run only adds behind them. -/
theorem InStep.routes_isPrefix_run (h : table.InStep) (ops : List TableOperation) :
    table.routes <+: (table.run ops).routes := by
  induction ops generalizing table with
  | nil => exact List.prefix_rfl
  | cons op rest ih =>
    refine List.IsPrefix.trans ?_ (ih (h.after op))
    rcases h.after_cases op with ⟨route, -, -, -, hafter⟩ | ⟨e, -, -, hafter⟩
    · rw [hafter]
      exact List.prefix_append _ _
    · simp [hafter]

/-- A name gives the route that has it. -/
theorem InStep.get?_eq_some_iff (h : table.InStep) {name : String} {route : Route} :
    table.get? name = some route ↔ route ∈ table.routes ∧ route.name? = some name := by
  rw [get?, Option.bind_eq_bind, Option.bind_eq_some_iff]
  constructor
  · rintro ⟨i, hi, hroute⟩
    obtain ⟨hlt, hname⟩ := (h.index name i).mp hi
    obtain ⟨-, rfl⟩ := List.getElem?_eq_some_iff.mp hroute
    exact ⟨List.getElem_mem hlt, hname⟩
  · rintro ⟨hmem, hname⟩
    obtain ⟨i, hlt, rfl⟩ := List.getElem_of_mem hmem
    exact ⟨i, (h.index name i).mpr ⟨hlt, hname⟩, List.getElem?_eq_getElem hlt⟩

/-- A name that gives a route goes on giving it. -/
theorem InStep.get?_run (h : table.InStep) {name : String} {route : Route}
    (hget : table.get? name = some route) (ops : List TableOperation) :
    (table.run ops).get? name = some route := by
  obtain ⟨hmem, hname⟩ := h.get?_eq_some_iff.mp hget
  exact (h.run ops).get?_eq_some_iff.mpr ⟨(h.routes_isPrefix_run ops).subset hmem, hname⟩

/-- The routes of a run from the empty table are those of the operations that succeed. -/
theorem mem_routes_run {ops : List TableOperation} {route : Route} :
    route ∈ (empty.run ops).routes ↔ ∃ op ∈ empty.successes ops, op.route? = some route := by
  have hsome : some route ∈ (empty.run ops).routes.map some ↔ route ∈ (empty.run ops).routes := by
    simp
  rw [← hsome, inStep_empty.routes_run]
  simp [empty]

/-- **Over every run, routes and index stay in step.** The routes are those of the operations
    that succeeded, in order. An operation fails for its template or for a name that is
    taken, and then leaves the table as it was. A name gives the route that was added under
    it, in every later table too, and no other name gives one. -/
theorem run_inStep (ops : List TableOperation) :
    let table := empty.run ops
    table.InStep ∧
      table.routes.map some = (empty.successes ops).map TableOperation.route? ∧
      (∀ (op : TableOperation) (e : TableError),
        (∃ left, op.apply.run table = .error e left) ↔ op.Refused table e) ∧
      (∀ (op : TableOperation) (e : TableError) (left : RouteTable),
        op.apply.run table = .error e left →
          left = table ∧ empty.run (ops ++ [op]) = table) ∧
      (∀ name route, table.get? name = some route ↔
        ∃ op ∈ empty.successes ops, op.route? = some route ∧ route.name? = some name) ∧
      ∀ name route, table.get? name = some route → ∀ more,
        (empty.run (ops ++ more)).get? name = some route ∧
          ∀ values, (empty.run (ops ++ more)).resolve? name values =
            route.pattern.resolve? values := by
  intro table
  have hstep : table.InStep := inStep_empty.run ops
  refine ⟨hstep, inStep_empty.routes_run ops, ?_, ?_, ?_, ?_⟩
  · intro op e
    simp only [hstep.apply_eq_error_iff]
    exact ⟨fun ⟨_, hrefused, _⟩ => hrefused, fun hrefused => ⟨table, hrefused, rfl⟩⟩
  · intro op e left herror
    obtain ⟨-, rfl⟩ := hstep.apply_eq_error_iff.mp herror
    refine ⟨rfl, ?_⟩
    rw [run_append]
    change table.after op = table
    rw [RouteTable.after, Change.left, herror]
  · intro name route
    rw [hstep.get?_eq_some_iff, mem_routes_run]
    constructor
    · rintro ⟨⟨op, hop, hroute⟩, hname⟩
      exact ⟨op, hop, hroute, hname⟩
    · rintro ⟨op, hop, hroute, hname⟩
      exact ⟨⟨op, hop, hroute⟩, hname⟩
  · intro name route hget more
    have hlater : (empty.run (ops ++ more)).get? name = some route := by
      rw [run_append]
      exact hstep.get?_run hget more
    refine ⟨hlater, fun values => ?_⟩
    rw [resolve?, hlater]
    rfl

/-- A name that is taken is refused, and gives the first route before and after that. -/
theorem run_inStep_home :
    let home : RoutePattern := ⟨"/", []⟩
    let other : RoutePattern := ⟨"/home", [⟨[.literal "home"]⟩]⟩
    let ops : List TableOperation := [.add other, .addNamed "home" home]
    let table := empty.run ops
    table.get? "home" = some ⟨some "home", home⟩ ∧
      TableOperation.Refused table (.addNamed "home" other) (.duplicateName "home") ∧
      empty.run (ops ++ [.addNamed "home" other]) = table ∧
      (empty.run (ops ++ [.addNamed "home" other, .addNamed "other" other])).get? "home" =
        some ⟨some "home", home⟩ := by
  intro home other ops table
  have hget : table.get? "home" = some ⟨some "home", home⟩ := rfl
  have herror : (TableOperation.addNamed "home" other).apply.run table =
      .error (.duplicateName "home") table := rfl
  obtain ⟨-, -, hrefused, hkept, -, hlater⟩ := run_inStep ops
  exact ⟨hget, (hrefused _ _).mp ⟨_, herror⟩, (hkept _ _ _ herror).2, (hlater _ _ hget _).1⟩

end RouteTable

end Routing
