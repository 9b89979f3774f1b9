/-
  Routing/Text/Pieces.lean
  ========================
  **Cutting a text at a separator and joining texts again.**  `pieces` keeps
  empty pieces and `solidPieces` drops them; a path is its solid pieces between
  slashes.
-/

namespace Routing.Text

/-- The pieces of a text between the occurrences of `sep`. There is always at
    least one piece, the text itself when `sep` does not occur. -/
def pieces (sep : Char) : List Char → List (List Char)
  | [] => [[]]
  | c :: cs =>
    if c = sep then [] :: pieces sep cs
    else
      match pieces sep cs with
      | [] => [[c]]
      | piece :: rest => (c :: piece) :: rest

def solidPieces (sep : Char) (cs : List Char) : List (List Char) :=
  (pieces sep cs).filter fun piece => !piece.isEmpty

/-- The members of `texts` one after another, with `sep` between neighbours. -/
def joined (sep : List Char) : List (List Char) → List Char
  | [] => []
  | [piece] => piece
  | piece :: next :: rest => piece ++ sep ++ joined sep (next :: rest)

def split (sep : Char) (text : String) : List String :=
  (pieces sep text.toList).map String.ofList

def splitSolid (sep : Char) (text : String) : List String :=
  (solidPieces sep text.toList).map String.ofList

def join (sep : String) (texts : List String) : String :=
  String.ofList (joined sep.toList (texts.map String.toList))

/-- The text before the first `sep` and the text after it, if `sep` occurs. -/
def cutAt (sep : Char) : List Char → Option (List Char × List Char)
  | [] => none
  | c :: cs =>
    if c = sep then some ([], cs)
    else (cutAt sep cs).map fun (before, after) => (c :: before, after)

/-! ### The two directions agree -/

theorem pieces_ne_nil (sep : Char) (cs : List Char) : pieces sep cs ≠ [] := by
  cases cs with
  | nil => simp [pieces]
  | cons c cs =>
    simp only [pieces]
    split
    · simp
    · split <;> simp

/-- **Joining the pieces with the separator gives the text back.** -/
theorem joined_pieces (sep : Char) (cs : List Char) : joined [sep] (pieces sep cs) = cs := by
  induction cs with
  | nil => rfl
  | cons c cs ih =>
    simp only [pieces]
    split
    · next h =>
      cases hp : pieces sep cs with
      | nil => exact absurd hp (pieces_ne_nil sep cs)
      | cons piece rest =>
        rw [hp] at ih
        simp [joined, ih, h]
    · cases hp : pieces sep cs with
      | nil => exact absurd hp (pieces_ne_nil sep cs)
      | cons piece rest =>
        rw [hp] at ih
        cases rest with
        | nil => simpa [joined] using ih
        | cons next rest => simpa [joined] using ih

/-! ### The first separator -/

theorem cutAt_eq_none {sep : Char} {cs : List Char} (h : sep ∉ cs) : cutAt sep cs = none := by
  induction cs with
  | nil => rfl
  | cons c cs ih =>
    rw [List.mem_cons, not_or] at h
    rw [cutAt, if_neg (Ne.symm h.1), ih h.2]
    rfl

theorem cutAt_append {sep : Char} {before : List Char} (h : sep ∉ before) (after : List Char) :
    cutAt sep (before ++ sep :: after) = some (before, after) := by
  induction before with
  | nil => simp [cutAt]
  | cons c before ih =>
    rw [List.mem_cons, not_or] at h
    rw [List.cons_append, cutAt, if_neg (Ne.symm h.1), ih h.2]
    rfl

end Routing.Text
