/-
  Routing/Proofs/DistinctKeys.lean
  ================================
  **No table of a file has two entries under one key.**  Whatever changes a table while a
  file is read either changes the entry under a key that it finds or adds an entry under
  a key that it does not find, and both leave the keys distinct. Along a path that is so
  for each table on the way, and a file is read by such changes.
-/
import Routing.Toml.Document
import Routing.Proofs.Keyed

namespace Routing.Toml

inductive Value.DistinctKeys : Value → Prop
  | text (s : String) : DistinctKeys (.text s)
  | int (n : Int) : DistinctKeys (.int n)
  | float (x : Float) : DistinctKeys (.float x)
  | bool (b : Bool) : DistinctKeys (.bool b)
  | dateTime (s : String) : DistinctKeys (.dateTime s)
  | array {items : List Value} (hitems : ∀ item ∈ items, DistinctKeys item) :
    DistinctKeys (.array items)
  | table {entries : List (String × Value)} (hkeys : (entries.map Prod.fst).Nodup)
      (hvalues : ∀ entry ∈ entries, DistinctKeys entry.2) :
    DistinctKeys (.table entries)

inductive Node.DistinctKeys : Node → Prop
  | value {v : Value} (h : v.DistinctKeys) : DistinctKeys (.value v)
  | table {origin : Origin} {entries : Entries} (hkeys : (entries.map Prod.fst).Nodup)
      (hnodes : ∀ entry ∈ entries, DistinctKeys entry.2) :
    DistinctKeys (.table origin entries)
  | tables {elements : List Entries}
      (hkeys : ∀ entries ∈ elements, (entries.map Prod.fst).Nodup)
      (hnodes : ∀ entries ∈ elements, ∀ entry ∈ entries, DistinctKeys entry.2) :
    DistinctKeys (.tables elements)

structure Entries.DistinctKeys (entries : Entries) : Prop where
  keys : (entries.map Prod.fst).Nodup
  nodes : ∀ entry ∈ entries, entry.2.DistinctKeys

theorem Node.distinctKeys_table {origin : Origin} {entries : Entries} :
    (Node.table origin entries).DistinctKeys ↔ Entries.DistinctKeys entries :=
  ⟨fun | .table hkeys hnodes => ⟨hkeys, hnodes⟩, fun h => .table h.keys h.nodes⟩

theorem Node.distinctKeys_tables {elements : List Entries} :
    (Node.tables elements).DistinctKeys ↔ ∀ entries ∈ elements, Entries.DistinctKeys entries :=
  ⟨fun | .tables hkeys hnodes => fun entries h => ⟨hkeys entries h, hnodes entries h⟩,
    fun h => .tables (fun entries hmem => (h entries hmem).keys)
      fun entries hmem => (h entries hmem).nodes⟩

/-! ### Finished values -/

theorem finishEntries_eq (entries : Entries) :
    finishEntries entries = entries.map fun entry => (entry.1, entry.2.finish) := by
  induction entries with
  | nil => rfl
  | cons entry rest ih => rw [finishEntries, ih, List.map_cons]

theorem finishElements_eq (elements : List Entries) :
    finishElements elements = elements.map fun entries => .table (finishEntries entries) := by
  induction elements with
  | nil => rfl
  | cons entries rest ih => rw [finishElements, ih, List.map_cons]

theorem distinctKeys_finishEntries {entries : Entries} (hkeys : (entries.map Prod.fst).Nodup)
    (hvalues : ∀ entry ∈ entries, entry.2.finish.DistinctKeys) :
    (Value.table (finishEntries entries)).DistinctKeys := by
  rw [finishEntries_eq]
  refine .table ?_ ?_
  · rw [List.map_map]
    exact hkeys
  · intro finished hfinished
    obtain ⟨entry, hentry, rfl⟩ := List.mem_map.mp hfinished
    exact hvalues entry hentry

theorem Node.DistinctKeys.finish {node : Node} (h : node.DistinctKeys) :
    node.finish.DistinctKeys := by
  induction h with
  | value h => exact h
  | table hkeys _ ih => exact distinctKeys_finishEntries hkeys ih
  | tables hkeys _ ih =>
    rw [Node.finish, finishElements_eq]
    refine .array fun item hitem => ?_
    obtain ⟨entries, hentries, rfl⟩ := List.mem_map.mp hitem
    exact distinctKeys_finishEntries (hkeys entries hentries) (ih entries hentries)

theorem Entries.DistinctKeys.finish {entries : Entries} (h : entries.DistinctKeys) :
    (Value.table (finishEntries entries)).DistinctKeys :=
  distinctKeys_finishEntries h.keys fun entry hentry => (h.nodes entry hentry).finish

/-! ### Changes of a table -/

namespace Entries

variable {entries : Entries} {key : String} {node : Node}

theorem distinctKeys_nil : DistinctKeys [] :=
  ⟨.nil, by simp⟩

theorem DistinctKeys.lookup (h : DistinctKeys entries) (hnode : entries.lookup key = some node) :
    node.DistinctKeys :=
  h.nodes _ (mem_of_lookup hnode)

theorem DistinctKeys.add (h : DistinctKeys entries) (hnew : entries.lookup key = none)
    (hnode : node.DistinctKeys) : DistinctKeys (entries ++ [(key, node)]) := by
  constructor
  · rw [List.map_append, List.map_singleton, ← List.concat_eq_append, List.nodup_concat]
    exact ⟨lookup_eq_none_iff_not_mem.mp hnew, h.keys⟩
  · intro entry hentry
    rcases List.mem_append.mp hentry with hentry | hentry
    · exact h.nodes entry hentry
    · rw [List.mem_singleton.mp hentry]
      exact hnode

/-- Setting a key adds no entry but its own. -/
theorem mem_setNode {entry : String × Node} (hentry : entry ∈ setNode key node entries) :
    entry = (key, node) ∨ entry ∈ entries := by
  induction entries with
  | nil => exact .inl (List.mem_singleton.mp hentry)
  | cons first rest ih =>
    rw [setNode] at hentry
    split at hentry
    · exact (List.mem_cons.mp hentry).imp_right (List.mem_cons_of_mem _)
    · rcases List.mem_cons.mp hentry with rfl | hentry
      · exact .inr List.mem_cons_self
      · exact (ih hentry).imp_right (List.mem_cons_of_mem _)

theorem DistinctKeys.setNode (h : DistinctKeys entries) (key : String)
    (hnode : node.DistinctKeys) : DistinctKeys (setNode key node entries) := by
  constructor
  · have hkeys := h.keys
    clear h
    induction entries with
    | nil => simp [Toml.setNode]
    | cons first rest ih =>
      rw [Toml.setNode]
      split
      · next heq => exact heq ▸ hkeys
      · next hne =>
        rw [List.map_cons, List.nodup_cons] at hkeys ⊢
        refine ⟨fun hmem => ?_, ih hkeys.2⟩
        obtain ⟨entry, hentry, hfirst⟩ := List.mem_map.mp hmem
        rcases mem_setNode hentry with rfl | hentry
        · exact hne hfirst.symm
        · exact hkeys.1 (hfirst ▸ List.mem_map_of_mem hentry)
  · intro entry hentry
    rcases mem_setNode hentry with rfl | hentry
    · exact hnode
    · exact h.nodes entry hentry

theorem DistinctKeys.filter (h : DistinctKeys entries) (kept : String × Node → Bool) :
    DistinctKeys (entries.filter kept) :=
  ⟨h.keys.sublist (List.filter_sublist.map Prod.fst),
    fun entry hentry => h.nodes entry (List.mem_of_mem_filter hentry)⟩

end Entries

def KeepsKeys (change : Table → Option Entries) : Prop :=
  ∀ {table : Table} {entries : Entries}, table.entries.DistinctKeys →
    change table = some entries → entries.DistinctKeys

/-- **A change that keeps keys distinct does so where a path leads to.** -/
theorem KeepsKeys.descend {change : Table → Option Entries} (hchange : KeepsKeys change)
    (dotted : Bool) (path : List String) : KeepsKeys (descend dotted change path) := by
  induction path with
  | nil => exact hchange
  | cons key path ih =>
    intro table entries h hentries
    rw [Toml.descend] at hentries
    split at hentries
    · obtain ⟨inner, hinner, hentries⟩ := Option.bind_eq_some_iff.mp hentries
      cases hentries
      exact h.setNode key (Node.distinctKeys_table.mpr (ih Entries.distinctKeys_nil hinner))
    · cases hentries
    · next origin found hfound =>
      split at hentries
      · cases hentries
      · obtain ⟨inner, hinner, hentries⟩ := Option.bind_eq_some_iff.mp hentries
        cases hentries
        have hin := Node.distinctKeys_table.mp (h.lookup hfound)
        exact h.setNode key (Node.distinctKeys_table.mpr (ih hin hinner))
    · next elements hfound =>
      obtain ⟨last, hlast, hentries⟩ := Option.bind_eq_some_iff.mp hentries
      obtain ⟨inner, hinner, hentries⟩ := Option.bind_eq_some_iff.mp hentries
      cases hentries
      have hin := Node.distinctKeys_tables.mp (h.lookup hfound)
      have hnew := ih (hin last (List.mem_of_getLast? hlast)) hinner
      refine h.setNode key (Node.distinctKeys_tables.mpr fun element helement => ?_)
      rcases List.mem_append.mp helement with helement | helement
      · exact hin element (elements.dropLast_subset helement)
      · rw [List.mem_singleton.mp helement]
        exact hnew

/-- A dotted key clashes with what is there or is new at its end. -/
theorem keepsKeys_addValue (path : List String) (key : String) {v : Value}
    (hv : v.DistinctKeys) : KeepsKeys (addValue path key v) := by
  refine KeepsKeys.descend (fun h hentries => ?_) true path
  split at hentries
  · cases hentries
  · split at hentries
    · cases hentries
    · next hnew =>
      cases hentries
      exact h.add (Option.not_isSome_iff_eq_none.mp hnew) (.value hv)

/-! ### Values -/

theorem distinctKeys_readBased {base : Nat} {cs rest : List Char} {v : Value}
    (h : readBased base cs = some (v, rest)) : v.DistinctKeys := by
  simp only [readBased, Option.bind_eq_bind, Option.pure_def, Option.bind_eq_some_iff,
    Option.some.injEq, Prod.mk.injEq] at h
  obtain ⟨_, -, n, -, rfl, -⟩ := h
  exact .int n

theorem distinctKeys_readDecimal {negative : Bool} {cs rest : List Char} {v : Value}
    (h : readDecimal negative cs = some (v, rest)) : v.DistinctKeys := by
  simp only [readDecimal, Option.bind_eq_bind, Option.pure_def, Option.bind_eq_some_iff] at h
  obtain ⟨_, -, _, -, _, -, h⟩ := h
  split at h
  · obtain ⟨n, -, h⟩ := Option.bind_eq_some_iff.mp h
    cases h
    exact .int n
  · split at h
    · cases h
    · cases h
      exact .float _

theorem distinctKeys_readNumber {cs rest : List Char} {v : Value}
    (h : readNumber cs = some (v, rest)) : v.DistinctKeys := by
  unfold readNumber at h
  split at h
  · exact distinctKeys_readBased h
  · exact distinctKeys_readBased h
  · exact distinctKeys_readBased h
  · dsimp only at h
    split at h
    · cases h
      exact .float _
    · cases h
      exact .float _
    · exact distinctKeys_readDecimal h

theorem distinctKeys_readDateTime {cs rest : List Char} {v : Value}
    (h : readDateTime cs = some (v, rest)) : v.DistinctKeys := by
  have hfinish {read : Option (List Char × List Char)}
      (hread : (read.map fun found => (Value.dateTime (String.ofList found.1), found.2)) =
        some (v, rest)) : v.DistinctKeys := by
    obtain ⟨_, -, heq⟩ := Option.map_eq_some_iff.mp hread
    cases heq
    exact .dateTime _
  unfold readDateTime at h
  split at h
  · exact hfinish h
  · split at h
    · split at h
      · split at h
        · exact hfinish h
        · exact hfinish h
      · exact hfinish h
    · exact hfinish h

/-- Whatever is read with the given fuel has distinct keys: a value, the items of an array and
    the members of a table. -/
structure ReadsDistinct (fuel : Nat) : Prop where
  value : ∀ {depth : Nat} {cs rest : List Char} {v : Value},
    readValue fuel depth cs = some (v, rest) → v.DistinctKeys
  items : ∀ {depth : Nat} {cs rest : List Char} {v : Value},
    readItems fuel depth cs = some (v, rest) → v.DistinctKeys
  members : ∀ {depth : Nat} {table : Table} {cs rest : List Char} {v : Value},
    table.entries.DistinctKeys → readMembers fuel depth table cs = some (v, rest) → v.DistinctKeys

namespace ReadsDistinct

variable {fuel depth : Nat} {cs rest : List Char} {v : Value}

theorem readValue (ih : ReadsDistinct fuel)
    (h : readValue (fuel + 1) depth cs = some (v, rest)) : v.DistinctKeys := by
  rw [readValue.eq_def] at h
  dsimp only at h
  split at h
  · cases h
  · -- an array
    split at h
    · cases h
    · exact ih.items h
  · -- a table on one line
    split at h
    · cases h
    · split at h
      · cases h
        exact .table .nil (by simp)
      · exact ih.members Entries.distinctKeys_nil h
  · split at h
    · -- a text
      obtain ⟨_, -, heq⟩ := Option.map_eq_some_iff.mp h
      cases heq
      exact .text _
    · split at h
      · split at h
        · cases h
          exact .bool true
        · cases h
          exact .bool false
        · cases h
      · split at h
        · next read hread =>
          cases h
          exact distinctKeys_readDateTime hread
        · exact distinctKeys_readNumber h

theorem readItems (ih : ReadsDistinct fuel)
    (h : readItems (fuel + 1) depth cs = some (v, rest)) : v.DistinctKeys := by
  rw [Toml.readItems] at h
  split at h
  · cases h
    exact .array (by simp)
  · obtain ⟨⟨item, after⟩, hitem, h⟩ := Option.bind_eq_some_iff.mp h
    have hfirst := ih.value hitem
    dsimp only at h
    split at h
    · obtain ⟨⟨others, after⟩, hothers, h⟩ := Option.bind_eq_some_iff.mp h
      split at h
      · next items _ heq =>
        cases heq
        cases h
        cases ih.items hothers with
        | array hitems => exact .array (List.forall_mem_cons.mpr ⟨hfirst, hitems⟩)
      · cases h
    · cases h
      exact .array (List.forall_mem_singleton.mpr hfirst)
    · cases h

theorem readMembers (ih : ReadsDistinct fuel) {table : Table}
    (htable : table.entries.DistinctKeys)
    (h : readMembers (fuel + 1) depth table cs = some (v, rest)) : v.DistinctKeys := by
  rw [Toml.readMembers] at h
  simp only [Option.bind_eq_bind, Option.bind_eq_some_iff] at h
  obtain ⟨⟨⟨path, key⟩, _⟩, -, _, -, ⟨v, _⟩, hv, entries, hentries, h⟩ := h
  have hkept := keepsKeys_addValue path key (ih.value hv) htable hentries
  split at h
  · exact ih.members hkept h
  · cases h
    exact hkept.finish
  · cases h

end ReadsDistinct

/-- **Values are read with distinct keys.** The readers call each other with less fuel. -/
theorem readsDistinct (fuel : Nat) : ReadsDistinct fuel := by
  induction fuel with
  | zero =>
    refine ⟨fun h => ?_, fun h => ?_, fun _ h => ?_⟩
    · rw [readValue] at h
      cases h
    · rw [readItems] at h
      cases h
    · rw [readMembers] at h
      cases h
  | succ fuel ih => exact ⟨ih.readValue, ih.readItems, ih.readMembers⟩

/-! ### Files -/

structure Reader.DistinctKeys (r : Reader) : Prop where
  root : r.root.DistinctKeys
  current : r.current.DistinctKeys

namespace Reader

variable {r r' : Reader}

theorem distinctKeys_start : start.DistinctKeys :=
  ⟨Entries.distinctKeys_nil, Entries.distinctKeys_nil⟩

theorem DistinctKeys.close (h : r.DistinctKeys) {entries : Entries}
    (hclose : r.close = some entries) : entries.DistinctKeys := by
  unfold Reader.close at hclose
  split at hclose
  · cases hclose
    exact h.current
  · refine KeepsKeys.descend (fun htable hput => ?_) _ _ h.root hclose
    split at hput
    · split at hput
      · next elements hfound =>
        cases hput
        have hin := Node.distinctKeys_tables.mp (htable.lookup hfound)
        refine htable.setNode _ (Node.distinctKeys_tables.mpr fun element helement => ?_)
        rcases List.mem_append.mp helement with helement | helement
        · exact hin element helement
        · rw [List.mem_singleton.mp helement]
          exact h.current
      · cases hput
      · next hnew =>
        cases hput
        exact htable.add hnew
          (Node.distinctKeys_tables.mpr (List.forall_mem_singleton.mpr h.current))
    · split at hput
      · cases hput
      · next hnew =>
        cases hput
        exact htable.add (Option.not_isSome_iff_eq_none.mp hnew)
          (Node.distinctKeys_table.mpr h.current)

theorem distinctKeys_taken {key : String} {entries found : Entries} {path : List String}
    (h : entries.DistinctKeys) (htaken : openTable.taken key entries path = some found) :
    found.DistinctKeys := by
  induction path generalizing entries with
  | nil =>
    rw [openTable.taken] at htaken
    split at htaken
    · next hfound =>
      cases htaken
      exact Node.distinctKeys_table.mp (h.lookup hfound)
    · cases htaken
      exact Entries.distinctKeys_nil
  | cons step path ih =>
    rw [openTable.taken] at htaken
    split at htaken
    · next hfound => exact ih (Node.distinctKeys_table.mp (h.lookup hfound)) htaken
    · next elements hfound =>
      refine ih ?_ htaken
      cases hlast : elements.getLast? with
      | none => exact Entries.distinctKeys_nil
      | some last =>
        exact Node.distinctKeys_tables.mp (h.lookup hfound) last (List.mem_of_getLast? hlast)
    · cases htaken
      exact Entries.distinctKeys_nil

theorem DistinctKeys.openTable (h : r.DistinctKeys) {path : List String} {key : String}
    (hopen : r.openTable path key = some r') : r'.DistinctKeys := by
  simp only [Reader.openTable, Option.bind_eq_bind, Option.pure_def, Option.bind_eq_some_iff,
    Option.some.injEq] at hopen
  obtain ⟨root, hroot, found, hfound, entries, hentries, rfl⟩ := hopen
  have hclosed := h.close hroot
  refine ⟨KeepsKeys.descend (fun htable hparent => ?_) _ _ hclosed hentries,
    distinctKeys_taken hclosed hfound⟩
  split at hparent
  · cases hparent
    exact htable
  · cases hparent
    exact htable.filter _
  · cases hparent

theorem DistinctKeys.openElement (h : r.DistinctKeys) {path : List String} {key : String}
    (hopen : r.openElement path key = some r') : r'.DistinctKeys := by
  simp only [Reader.openElement, Option.bind_eq_bind, Option.pure_def, Option.bind_eq_some_iff,
    Option.some.injEq] at hopen
  obtain ⟨root, hroot, entries, hentries, rfl⟩ := hopen
  refine ⟨KeepsKeys.descend (fun htable hparent => ?_) _ _ (h.close hroot) hentries,
    Entries.distinctKeys_nil⟩
  split at hparent
  · next hnew =>
    cases hparent
    exact htable.add hnew (Node.distinctKeys_tables.mpr (by simp))
  · cases hparent
    exact htable
  · cases hparent

theorem DistinctKeys.readLine (h : r.DistinctKeys) {cs rest : List Char}
    (hline : r.readLine cs = some (r', rest)) : r'.DistinctKeys := by
  unfold Reader.readLine at hline
  split at hline
  · simp only [Option.bind_eq_bind, Option.pure_def, Option.bind_eq_some_iff, Option.some.injEq,
      Prod.mk.injEq] at hline
    obtain ⟨_, -, _, -, _, -, opened, hopen, _, -, rfl, -⟩ := hline
    exact h.openElement hopen
  · simp only [Option.bind_eq_bind, Option.pure_def, Option.bind_eq_some_iff, Option.some.injEq,
      Prod.mk.injEq] at hline
    obtain ⟨_, -, _, -, opened, hopen, _, -, rfl, -⟩ := hline
    exact h.openTable hopen
  · simp only [Option.bind_eq_bind, Option.pure_def, Option.bind_eq_some_iff, Option.some.injEq,
      Prod.mk.injEq] at hline
    obtain ⟨⟨⟨path, key⟩, _⟩, -, _, -, ⟨v, _⟩, hv, current, hcurrent, _, -, rfl, -⟩ := hline
    exact ⟨h.root, keepsKeys_addValue path key ((readsDistinct _).value hv) h.current hcurrent⟩

theorem DistinctKeys.readAll {fuel : Nat} {cs : List Char} (h : r.DistinctKeys)
    (hall : readAll fuel r cs = some r') : r'.DistinctKeys := by
  induction fuel generalizing r cs with
  | zero =>
    rw [Reader.readAll] at hall
    split at hall
    · cases hall
      exact h
    · cases hall
  | succ fuel ih =>
    rw [Reader.readAll] at hall
    split at hall
    · cases hall
      exact h
    · obtain ⟨⟨next, rest⟩, hline, hall⟩ := Option.bind_eq_some_iff.mp hall
      exact ih (h.readLine hline) hall

end Reader

/-- **No table of a file has two entries under one key.** -/
theorem distinctKeys_parse {content : String} {entries : List (String × Value)}
    (h : parse content = some entries) : (Value.table entries).DistinctKeys := by
  simp only [parse, Option.bind_eq_bind, Option.pure_def, Option.bind_eq_some_iff,
    Option.some.injEq] at h
  obtain ⟨r, hall, root, hroot, rfl⟩ := h
  exact ((Reader.distinctKeys_start.readAll hall).close hroot).finish

end Routing.Toml
