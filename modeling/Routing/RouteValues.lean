/-
  Routing/RouteValues.lean
  ========================
  **Values to build a path from.**  A map from names to values that remembers the
  order in which names were first set; the values that a pattern does not use
  become the query in that order.
-/
import Routing.Params

namespace Routing

/-- Names with their values, in the order in which the names were first set. -/
structure RouteValues where
  entries : List (String × Value)
deriving Repr

namespace RouteValues

def empty : RouteValues := ⟨[]⟩

/-- Puts `value` in the place of the entry for `name`, or at the end if there is
    none. -/
def setEntry (name : String) (value : Value) : List (String × Value) → List (String × Value)
  | [] => [(name, value)]
  | entry :: rest =>
    if entry.1 = name then (name, value) :: rest else entry :: setEntry name value rest

/-- Sets a value. A name that is set already keeps its place. -/
def set (values : RouteValues) (name : String) (value : Value) : RouteValues :=
  ⟨setEntry name value values.entries⟩

def get? (values : RouteValues) (name : String) : Option Value :=
  values.entries.lookup name

/-- The entries without the first one for `name`. -/
def eraseEntry (name : String) : List (String × Value) → List (String × Value)
  | [] => []
  | entry :: rest => if entry.1 = name then rest else entry :: eraseEntry name rest

def take (values : RouteValues) (name : String) : Option Value × RouteValues :=
  (values.get? name, ⟨eraseEntry name values.entries⟩)

def ofList (pairs : List (String × Value)) : RouteValues :=
  pairs.foldl (fun values pair => values.set pair.1 pair.2) empty

/-- The values of a match, without the parameters that have none. -/
def ofParams (params : Params) : RouteValues :=
  ofList (params.entries.filterMap fun entry =>
    entry.2.value?.map fun value => (entry.1, value))

def size (values : RouteValues) : Nat :=
  values.entries.length

def isEmpty (values : RouteValues) : Bool :=
  values.entries.isEmpty

/-! ### What each operation does to a look-up -/

theorem lookup_setEntry (name other : String) (value : Value) (entries : List (String × Value)) :
    (setEntry name value entries).lookup other =
      if other = name then some value else entries.lookup other := by
  induction entries with
  | nil =>
    by_cases h : other = name
    · simp [setEntry, h]
    · simp [setEntry, List.lookup_cons, h, beq_false_of_ne h]
  | cons entry rest ih =>
    obtain ⟨key, old⟩ := entry
    by_cases hk : key = name
    · subst hk
      by_cases h : other = key
      · simp [setEntry, h]
      · simp [setEntry, List.lookup_cons, h, beq_false_of_ne h]
    · by_cases h : other = key
      · subst h
        simp [setEntry, hk]
      · simp [setEntry, hk, List.lookup_cons, beq_false_of_ne h, ih]

/-- **Setting a name changes the value of that name and of no other.** -/
theorem get?_set (values : RouteValues) (name other : String) (value : Value) :
    (values.set name value).get? other = if other = name then some value else values.get? other :=
  lookup_setEntry name other value values.entries

end RouteValues

end Routing
