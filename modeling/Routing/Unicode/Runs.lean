/-
  Routing/Unicode/Runs.lean
  =========================
  **Sets of code points as runs.**  A set is a list of runs in ascending order, with
  a gap between any two of them. Its text gives the gap before each run and the
  run's length, as decimal numbers with spaces between them; the tables of this
  folder are written so. The operations on sets keep the order and the gaps.
-/

namespace Routing.Unicode

/-- Runs of code points, each by its first and its last member. -/
abbrev Runs := List (Nat × Nat)

namespace Runs

def contains (n : Nat) : Runs → Bool
  | [] => false
  | (first, last) :: rest => !decide (n < first) && (decide (n ≤ last) || contains n rest)

/-- The set with the code points from `first` to `last` added. Runs that overlap or
    touch become one. -/
def insert (first last : Nat) : Runs → Runs
  | [] => [(first, last)]
  | (first', last') :: rest =>
    if last + 1 < first' then (first, last) :: (first', last') :: rest
    else if last' + 1 < first then (first', last') :: insert first last rest
    else insert (min first first') (max last last') rest

def union (s t : Runs) : Runs :=
  s.foldr (fun run t => insert run.1 run.2 t) t

def unionAll (sets : List Runs) : Runs :=
  sets.foldr union []

/-- The code points from `first` to `last` that are not in the set. -/
def gaps (first last : Nat) : Runs → Runs
  | [] => [(first, last)]
  | (first', last') :: rest =>
    if last' < first then gaps first last rest
    else if last < first' then [(first, last)]
    else
      let front := if first < first' then [(first, first' - 1)] else []
      front ++ if last' < last then gaps (last' + 1) last rest else []

def diff (s t : Runs) : Runs :=
  s.flatMap fun run => gaps run.1 run.2 t

def inter (s t : Runs) : Runs :=
  diff s (diff s t)

def symmDiff (s t : Runs) : Runs :=
  union (diff s t) (diff t s)

/-- The code points of characters: all but the surrogates. -/
def characters : Runs :=
  [(0, 0xd7ff), (0xe000, 0x10ffff)]

end Runs

/-! ### Written form -/

def numbersOfText (text : String) : List Nat :=
  (text.splitOn " ").filterMap String.toNat?

/-- The runs with the given gaps and lengths, where the first gap starts at `start`. -/
def Runs.ofGaps (start : Nat) : List Nat → Runs
  | gap :: length :: rest =>
    (start + gap, start + gap + length - 1) :: Runs.ofGaps (start + gap + length) rest
  | _ => []

def Runs.ofText (text : String) : Runs :=
  Runs.ofGaps 0 (numbersOfText text)

end Routing.Unicode
