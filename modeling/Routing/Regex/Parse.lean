/-
  Routing/Regex/Parse.lean
  ========================
  **Reading an expression.**  The reader goes through the text once. It keeps the
  groups that are still open in a stack, and for the innermost one the branches
  that are finished and the items of the branch at hand. Flags apply from where
  they stand to the end of the group.
-/
import Routing.Regex.Bracket
import Routing.Unicode.Recent

namespace Routing.Regex

structure Item where
  tree : Regex
  /-- how deep groups, repetitions, sequences, alternatives and brackets are nested -/
  depth : Nat
  /-- whether a repetition may follow; flags alone cannot be repeated -/
  repeatable : Bool
deriving DecidableEq, Repr

def Item.leaf (tree : Regex) : Item := ⟨tree, 0, true⟩

/-- The items of a branch in sequence, or the branches of a group as alternatives:
    `build` puts the trees together. A single one adds no depth. -/
def Item.gather (build : List Regex → Regex) (items : List Item) : Item :=
  let depth := (items.map Item.depth).foldl max 0
  ⟨build (items.map Item.tree), if items.length ≤ 1 then depth else depth + 1, true⟩

/-- A group that is still open: what surrounds it, to be taken up again when it
    closes. -/
structure OpenGroup where
  /-- the number of a group whose text is kept -/
  index : Option Nat
  flags : Flags
  branches : List Item
  items : List Item
deriving DecidableEq, Repr

/-- Where the reader stands. The lists hold the latest member first. -/
structure Reader where
  flags : Flags := {}
  outer : List OpenGroup := []
  branches : List Item := []
  items : List Item := []
  /-- how many groups have a number so far -/
  groups : Nat := 0
  names : List (List Char) := []
deriving DecidableEq, Repr

namespace Reader

def add (r : Reader) (item : Item) : Reader :=
  { r with items := item :: r.items }

def branch (r : Reader) : Item :=
  Item.gather seqAll r.items.reverse

def content (r : Reader) : Item :=
  Item.gather altAll (r.branch :: r.branches).reverse

def openGroup (r : Reader) (index : Option Nat) (flags : Flags) : Reader :=
  { r with
    flags := flags
    outer := ⟨index, r.flags, r.branches, r.items⟩ :: r.outer
    branches := []
    items := [] }

def openCapture (r : Reader) : Reader :=
  { r.openGroup (some (r.groups + 1)) r.flags with groups := r.groups + 1 }

def closeGroup (r : Reader) : Except Fault Reader :=
  match r.outer with
  | [] => .error .unopenedGroup
  | enclosing :: outer =>
    let content := r.content
    let tree :=
      match enclosing.index with
      | some index => .group index content.tree
      | none => content.tree
    .ok { r with
      flags := enclosing.flags
      outer := outer
      branches := enclosing.branches
      items := ⟨tree, content.depth + 1, true⟩ :: enclosing.items }

def nextBranch (r : Reader) : Reader :=
  { r with branches := r.branch :: r.branches, items := [] }

def repeatLast (r : Reader) (least : Nat) (most : Option Nat) (greedy : Bool) :
    Except Fault Reader :=
  match r.items with
  | [] => .error .nothingToRepeat
  | item :: items =>
    if item.repeatable then
      .ok { r with
        items := ⟨.rep item.tree least most (greedy != r.flags.lazy), item.depth + 1, true⟩ :: items }
    else .error .nothingToRepeat

end Reader

/-! ### Groups and flags -/

def Flags.set? (flags : Flags) (letter : Char) (on : Bool) : Option Flags :=
  match letter with
  | 'i' => some { flags with caseless := on }
  | 'm' => some { flags with multiLine := on }
  | 's' => some { flags with dotAll := on }
  | 'U' => some { flags with lazy := on }
  | 'u' => some { flags with ascii := !on }
  | 'R' => some { flags with crlf := on }
  | 'x' => some { flags with verbose := on }
  | _ => none

/-- Reads letters of flags up to `:` or `)`. Letters after a hyphen switch flags off.
    No letter stands twice, there is one hyphen at most, and it is not the last. -/
def readFlags : Flags → (seen : List Char) → List Char → Except Fault (Flags × List Char)
  | _, _, [] => .error .flagList
  | flags, seen, c :: cs =>
    if c = ':' ∨ c = ')' then
      if seen.head? = some '-' then .error .flagList else .ok (flags, c :: cs)
    else if seen.contains c then .error .flagList
    else if c = '-' then readFlags flags (c :: seen) cs
    else
      match flags.set? c (!seen.contains '-') with
      | some flags => readFlags flags (c :: seen) cs
      | none => .error .flagList

def nameLetters : Unicode.Runs :=
  Unicode.Runs.unionAll [Unicode.runsOfProperty "Alphabetic", Unicode.recentLetters]

def nameNumbers : Unicode.Runs :=
  Unicode.Runs.unionAll [Unicode.runsOfCategories ["Nd", "Nl", "No"], Unicode.recentDigits]

/-- Whether a character may stand in the name of a group, in front or further on. -/
def isNameChar (front : Bool) (c : Char) : Bool :=
  let letter := nameLetters.contains c.toNat
  if front then c == '_' || letter
  else c == '_' || c == '.' || c == '[' || c == ']' || letter || nameNumbers.contains c.toNat

def isGroupName : List Char → Bool
  | [] => false
  | c :: cs => isNameChar true c && cs.all (isNameChar false)

def readNamedGroup (r : Reader) (cs : List Char) : Except Fault (Reader × List Char) :=
  let name := cs.takeWhile (· != '>')
  match cs.dropWhile (· != '>') with
  | [] => .error .groupName
  | _ :: rest =>
    if !isGroupName name then .error .groupName
    else if r.names.contains name then .error .repeatedGroupName
    else .ok ({ r.openCapture with names := name :: r.names }, rest)

def readGroup (r : Reader) (cs : List Char) : Except Fault (Reader × List Char) :=
  match r.flags.skip cs with
  | '?' :: '=' :: _ => .error .lookAround
  | '?' :: '!' :: _ => .error .lookAround
  | '?' :: '<' :: '=' :: _ => .error .lookAround
  | '?' :: '<' :: '!' :: _ => .error .lookAround
  | '?' :: 'P' :: '<' :: rest => readNamedGroup r rest
  | '?' :: '<' :: rest => readNamedGroup r rest
  | '?' :: rest => do
    match ← readFlags r.flags [] rest with
    | (flags, ':' :: rest) => return (r.openGroup none flags, rest)
    | (flags, _ :: after) =>
      if rest.head? = some ')' then .error .nothingToRepeat
      else return ({ r with flags := flags, items := ⟨.empty, 0, false⟩ :: r.items }, after)
    | (_, []) => .error .unclosedGroup
  | rest => .ok (r.openCapture, rest)

/-! ### Repetitions -/

/-- Reads a whole number below two to the thirty-second, with blanks around it. -/
def readCount (flags : Flags) (cs : List Char) : Except Fault (Nat × List Char) :=
  let (digits, rest) := flags.span Char.isDigit (cs.dropWhile Text.isBlank)
  let n := digits.foldl (fun n c => 10 * n + (c.toNat - 48)) 0
  if digits.isEmpty || Nat.pow 2 32 ≤ n then .error .repetitionCount
  else .ok (n, (flags.span Text.isBlank rest).2)

def readBounds (flags : Flags) (cs : List Char) : Except Fault (Nat × Option Nat × List Char) := do
  let (least, rest) ← readCount flags (flags.skip cs)
  match rest with
  | '\x7d' :: rest => return (least, some least, rest)
  | ',' :: rest =>
    match flags.skip rest with
    | '\x7d' :: rest => return (least, none, rest)
    | rest =>
      match ← readCount flags rest with
      | (most, '\x7d' :: rest) =>
        if least ≤ most then return (least, some most, rest) else .error .repetitionCount
      | _ => .error .repetitionCount
  | _ => .error .repetitionCount

/-- Whether a repetition is greedy: a question mark after it says it is not. -/
def readGreed : List Char → Bool × List Char
  | '?' :: rest => (false, rest)
  | rest => (true, rest)

/-! ### The whole expression -/

def Escape.item (flags : Flags) : Escape → Except Fault Item
  | .char c => .ok (.leaf (.chars (flags.fold (CharClass.single c))))
  | .byte c =>
    if flags.ascii && 128 ≤ c.toNat then .error .notText
    else .ok (.leaf (.chars (flags.fold (CharClass.single c))))
  | .set s => .ok (.leaf (.chars s))
  | .look l => .ok (.leaf (.look l))

def readStep (r : Reader) (c : Char) (cs : List Char) : Except Fault (Reader × List Char) :=
  match c with
  | '(' => readGroup r cs
  | ')' => do return (← r.closeGroup, cs)
  | '|' => .ok (r.nextBranch, cs)
  | '[' => do
    let (part, rest) ← readBracket r.flags cs
    return (r.add ⟨.chars part.set, part.depth, true⟩, rest)
  | '?' => do
    let (greedy, rest) := readGreed cs
    return (← r.repeatLast 0 (some 1) greedy, rest)
  | '*' => do
    let (greedy, rest) := readGreed cs
    return (← r.repeatLast 0 none greedy, rest)
  | '+' => do
    let (greedy, rest) := readGreed cs
    return (← r.repeatLast 1 none greedy, rest)
  | '\x7b' => do
    let (least, most, rest) ← readBounds r.flags cs
    let (greedy, rest) := readGreed (r.flags.skip rest)
    return (← r.repeatLast least most greedy, rest)
  | '.' => do return (r.add (.leaf (.chars (← r.flags.dot))), cs)
  | '^' => .ok (r.add (.leaf (.look r.flags.caret)), cs)
  | '$' => .ok (r.add (.leaf (.look r.flags.dollar)), cs)
  | '\\' => do
    let (escape, rest) ← readEscape r.flags cs
    return (r.add (← escape.item r.flags), rest)
  | c => do return (r.add (← (Escape.char c).item r.flags), cs)

/-- Reads to the end of the expression. Every step takes a character, so `fuel` is
    never short when it is the length of what is left. -/
def readAll : (fuel : Nat) → Reader → List Char → Except Fault Reader
  | 0, r, _ => .ok r
  | fuel + 1, r, cs =>
    match r.flags.skip cs with
    | [] => .ok r
    | c :: cs => do
      let (r, rest) ← readStep r c cs
      readAll fuel r rest

def depthLimit : Nat := 250

def parse (text : String) : Except Fault Regex := do
  let r ← readAll text.length {} text.toList
  match r.outer with
  | _ :: _ => .error .unclosedGroup
  | [] =>
    let whole := r.content
    if depthLimit < whole.depth then .error .tooDeep else return whole.tree

end Routing.Regex
