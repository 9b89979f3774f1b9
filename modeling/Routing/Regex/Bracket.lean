/-
  Routing/Regex/Bracket.lean
  ==========================
  **Bracketed character classes.**  A bracket holds characters, ranges, escapes,
  named classes and further brackets, and the operators `&&`, `--` and `~~`, which
  have one precedence and group to the left. The reader keeps the brackets that
  are still open in a stack.
-/
import Routing.Regex.Escape

namespace Routing.Regex

/-- A set that was read, and how deep its brackets and operators are nested. -/
structure Part where
  set : CharClass
  depth : Nat
deriving DecidableEq, Repr

inductive SetOperator where
  | inter
  | diff
  | symmDiff
deriving DecidableEq, Repr

/-- The set of an operator's result; the operands are closed under case first. -/
def SetOperator.apply (flags : Flags) (op : SetOperator) (a b : Part) : Part :=
  let s := flags.fold a.set
  let t := flags.fold b.set
  let set :=
    match op with
    | .inter => s.inter t
    | .diff => s.diff t
    | .symmDiff => s.symmDiff t
  ⟨set, max a.depth b.depth + 1⟩

structure OpenBracket where
  negated : Bool
  /-- the left operand of an operator that waits for its right one -/
  pending : Option (SetOperator × Part)
  /-- the members since then, the latest first -/
  parts : List Part
deriving DecidableEq, Repr

def unite (parts : List Part) : Part :=
  match parts with
  | [part] => part
  | parts =>
    let depth := (parts.map Part.depth).foldl max 0
    ⟨CharClass.unionAll (parts.map Part.set), if parts.isEmpty then 0 else depth + 1⟩

namespace OpenBracket

def content (flags : Flags) (b : OpenBracket) : Part :=
  let right := unite b.parts.reverse
  match b.pending with
  | none => right
  | some (op, left) => op.apply flags left right

def add (b : OpenBracket) (part : Part) : OpenBracket :=
  { b with parts := part :: b.parts }

def operate (flags : Flags) (b : OpenBracket) (op : SetOperator) : OpenBracket :=
  { b with pending := some (op, b.content flags), parts := [] }

def close (flags : Flags) (b : OpenBracket) : Except Fault Part :=
  let part := b.content flags
  (flags.complement b.negated (flags.fold part.set)).map fun s => ⟨s, part.depth + 1⟩

end OpenBracket

/-- The hyphens at the start of a bracket, which stand for themselves. -/
def readHyphens (flags : Flags) : Nat → OpenBracket → List Char → OpenBracket × List Char
  | fuel + 1, b, '-' :: cs =>
    readHyphens flags fuel (b.add ⟨CharClass.single '-', 0⟩) (flags.skip cs)
  | _, b, cs => (b, cs)

/-- Reads the start of a bracket, after `[`: a caret, hyphens, or a closing bracket
    that stands for itself. -/
def openBracket (flags : Flags) (cs : List Char) : Except Fault (OpenBracket × List Char) :=
  let start (negated : Bool) (cs : List Char) : Except Fault (OpenBracket × List Char) :=
    match readHyphens flags cs.length ⟨negated, none, []⟩ cs with
    | (_, []) => .error .unclosedBracket
    | (b, ']' :: rest) =>
      if b.parts.isEmpty then
        match flags.skip rest with
        | [] => .error .unclosedBracket
        | rest => .ok (b.add ⟨CharClass.single ']', 0⟩, rest)
      else .ok (b, ']' :: rest)
    | (b, rest) => .ok (b, rest)
  match flags.skip cs with
  | '^' :: cs => start true (flags.skip cs)
  | cs => start false cs

/-- A named class such as `[:alpha:]`, after its `[`. Nothing when the text is no
    such class; it is a bracket of its own then. -/
def readAsciiClass? (cs : List Char) : Option (Bool × CharClass × List Char) :=
  let named (negated : Bool) (cs : List Char) : Option (Bool × CharClass × List Char) :=
    match cs.dropWhile (· != ':') with
    | ':' :: ']' :: rest =>
      (CharClass.named? (String.ofList (cs.takeWhile (· != ':')))).map (negated, ·, rest)
    | _ => none
  match cs with
  | ':' :: '^' :: cs => named true cs
  | ':' :: cs => named false cs
  | _ => none

def readMember (flags : Flags) : List Char → Except Fault (Escape × List Char)
  | [] => .error .unclosedBracket
  | '\\' :: cs => readEscape flags cs
  | c :: cs => .ok (.char c, cs)

/-- The character that a member stands for, as the end of a range. Among bytes only
    ASCII characters can be members. -/
def Escape.rangeEnd (flags : Flags) : Escape → Except Fault Char
  | .char c => if flags.ascii && 128 ≤ c.toNat then .error .notText else .ok c
  | .byte c => if flags.ascii && 128 ≤ c.toNat then .error .notText else .ok c
  | _ => .error .classRange

def Escape.member (flags : Flags) : Escape → Except Fault Part
  | .set s => .ok ⟨s, 0⟩
  | .look _ => .error .classMember
  | e => (e.rangeEnd flags).map fun c => ⟨CharClass.single c, 0⟩

/-- The character that decides whether a hyphen stands for a range: the next one,
    or in a verbose expression the next one that is not blank. A `#` before it is
    passed over once. -/
def peek (flags : Flags) (cs : List Char) : Option Char :=
  if !flags.verbose then cs.head?
  else
    match cs.dropWhile Text.isBlank with
    | [] => cs.head?
    | '#' :: more =>
      match more.dropWhile Text.isBlank with
      | [] => cs.head?
      | c :: _ => some c
    | c :: _ => some c

def readPart (flags : Flags) (cs : List Char) : Except Fault (Part × List Char) := do
  let (first, rest) ← readMember flags cs
  match flags.skip rest with
  | [] => .error .unclosedBracket
  | '-' :: after =>
    if peek flags after = some ']' ∨ peek flags after = some '-' then
      return (← first.member flags, '-' :: after)
    else
      let (last, rest) ← readMember flags (flags.skip after)
      let low ← first.rangeEnd flags
      let high ← last.rangeEnd flags
      if low ≤ high then return (⟨CharClass.range low high, 0⟩, rest) else .error .classRange
  | rest => return (← first.member flags, rest)

/-- Reads on in the bracket `b`, which stands in the brackets `outer`, up to the
    end of the outermost bracket. -/
def readBrackets (flags : Flags) : Nat → List OpenBracket → OpenBracket → List Char →
    Except Fault (Part × List Char)
  | 0, _, _, _ => .error .unclosedBracket
  | fuel + 1, outer, b, cs =>
    match flags.skip cs with
    | [] => .error .unclosedBracket
    | '[' :: rest =>
      match readAsciiClass? rest with
      | some (negated, s, rest) => do
        let s ← flags.complement negated (flags.fold s)
        readBrackets flags fuel outer (b.add ⟨s, 0⟩) rest
      | none => do
        let (inner, rest) ← openBracket flags rest
        readBrackets flags fuel (b :: outer) inner rest
    | ']' :: rest => do
      let part ← b.close flags
      match outer with
      | [] => return (part, rest)
      | enclosing :: outer => readBrackets flags fuel outer (enclosing.add part) rest
    | '&' :: '&' :: rest => readBrackets flags fuel outer (b.operate flags .inter) rest
    | '-' :: '-' :: rest => readBrackets flags fuel outer (b.operate flags .diff) rest
    | '~' :: '~' :: rest => readBrackets flags fuel outer (b.operate flags .symmDiff) rest
    | cs => do
      let (part, rest) ← readPart flags cs
      readBrackets flags fuel outer (b.add part) rest

def readBracket (flags : Flags) (cs : List Char) : Except Fault (Part × List Char) := do
  let (b, rest) ← openBracket flags cs
  readBrackets flags (cs.length + 1) [] b rest

end Routing.Regex
