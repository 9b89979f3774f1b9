/-
  Routing/Regex/Size.lean
  =======================
  **How much memory an expression takes.**  Texts are matched byte by byte in UTF-8. An
  expression is written out for this as a network of states: a counted repetition
  as often as it may take place, a set as the byte sequences of its characters.
  `ofText` refuses expressions whose networks are too large.
-/
import Routing.Regex.Parse

namespace Routing.Regex

/-! ### Byte sequences -/

/-- How UTF-8 writes the code points from `first` to `last`: `more` bytes follow the
    first one, which is `lead` or greater. -/
structure ByteForm where
  first : Nat
  last : Nat
  lead : Nat
  more : Nat
deriving DecidableEq, Repr

/-- The forms of UTF-8. There is none for the surrogates. -/
def byteForms : List ByteForm := [
  ⟨0, 0x7f, 0, 0⟩, ⟨0x80, 0x7ff, 0xc0, 1⟩, ⟨0x800, 0xd7ff, 0xe0, 2⟩,
  ⟨0xe000, 0xffff, 0xe0, 2⟩, ⟨0x10000, 0x10ffff, 0xf0, 3⟩]

/-- A range for each byte of a sequence; every combination is meant. -/
abbrev ByteRanges := List (Nat × Nat)

/-- The numbers from `first` to `last` to base 64, in the fewest ranges of digits.
    `more` digits follow the first one, to which `lead` is added. -/
def digitRanges : (more lead first last : Nat) → List ByteRanges
  | 0, lead, first, last => [[(lead + first, lead + last)]]
  | more + 1, lead, first, last =>
    let block := Nat.pow 64 (more + 1)
    let low := first / block
    let high := last / block
    let under (digit first last : Nat) : List ByteRanges :=
      (digitRanges more 0x80 first last).map ((lead + digit, lead + digit) :: ·)
    if low = high then under low (first % block) (last % block)
    else
      let cutLow := first % block != 0
      let cutHigh := last % block != block - 1
      let start := if cutLow then low + 1 else low
      let stop := if cutHigh then high else high + 1
      let front := if cutLow then under low (first % block) (block - 1) else []
      let whole := List.replicate (more + 1) (0x80, 0xbf)
      let middle := if start < stop then [(lead + start, lead + stop - 1) :: whole] else []
      let back := if cutHigh then under high 0 (last % block) else []
      front ++ middle ++ back

def byteSequences (runs : Unicode.Runs) : List ByteRanges :=
  runs.flatMap fun (first, last) =>
    byteForms.flatMap fun form =>
      let low := max first form.first
      let high := min last form.last
      if low ≤ high then digitRanges form.more form.lead low high else []

def sharedBytes : ByteRanges → ByteRanges → Nat
  | a :: as, b :: bs => if a = b then sharedBytes as bs + 1 else 0
  | _, _ => 0

/-- The number of states that read the sequences after `previous`. A state serves all
    sequences that start alike up to its byte. -/
def sequenceStates (previous : ByteRanges) : List ByteRanges → Nat
  | [] => 0
  | s :: rest => s.length - sharedBytes previous s + sequenceStates s rest

/-! ### Sizes -/

def stateSize : Nat := 32

def rangeSize : Nat := 8

def exitSize : Nat := 4

def forkSize (count : Nat) : Nat :=
  stateSize + exitSize * count

/-- The size of a set: one state for each byte of a single character, one state and an
    end for ASCII characters, and the states of all byte sequences for others. -/
def setSize (s : CharClass) : Nat :=
  match s.runs with
  | [(first, last)] =>
    if first = last then stateSize * (Char.ofNat first).utf8Size else runsSize [(first, last)]
  | runs => runsSize runs
where
  runsSize (runs : Unicode.Runs) : Nat :=
    if runs.all fun run => run.2 < 128 then 2 * stateSize + rangeSize * runs.length
    else
      let sequences := byteSequences runs
      stateSize * (sequenceStates [] sequences + 1) + forkSize sequences.length

def isSingle (s : CharClass) : Bool :=
  match s.runs with
  | [(first, last)] => first == last
  | _ => false

def sets? : Regex → Option (List CharClass)
  | .chars s => some [s]
  | .alt a b => do return (← sets? a) ++ (← sets? b)
  | _ => none

def unitedSet? (r : Regex) : Option CharClass := do
  let sets ← r.sets?
  if sets.all isSingle || !sets.any isSingle then some (CharClass.unionAll sets) else none

def isWidthless : Regex → Bool
  | .empty => true
  | .chars _ => false
  | .look _ => true
  | .seq a b => a.isWidthless && b.isWidthless
  | .alt a b => a.isWidthless && b.isWidthless
  | .rep body _ most _ => body.isWidthless || most == some 0
  | .group _ body => body.isWidthless

def isNullable : Regex → Bool
  | .empty => true
  | .chars _ => false
  | .look _ => true
  | .seq a b => a.isNullable && b.isNullable
  | .alt a b => a.isNullable || b.isNullable
  | .rep body least _ _ => least == 0 || body.isNullable
  | .group _ body => body.isNullable

def repSize (body : Nat) (nullable : Bool) : (least : Nat) → (most : Option Nat) → Nat
  | 0, none =>
    if nullable then body + 2 * forkSize 2 + stateSize else body + forkSize 2
  | least, none => least * body + forkSize 2
  | 0, some 0 => 0
  | 0, some 1 => body + forkSize 2 + stateSize
  | least, some most =>
    let start := if least = 0 then stateSize else least * body
    if most ≤ least then start else start + stateSize + (most - least) * (body + forkSize 2)

/-- The size of an expression. `inner` tells whether it is one of several
    alternatives, which part and meet together. -/
def sizeIn (inner : Bool) : Regex → Nat
  | .empty => branch 0
  | .chars s => branch (setSize s)
  | .look _ => branch stateSize
  | .seq a b => branch (a.sizeIn false + b.sizeIn false)
  | .alt a b =>
    if inner then a.sizeIn true + b.sizeIn true
    else
      match (Regex.alt a b).unitedSet? with
      | some s => setSize s
      | none => stateSize + forkSize 0 + a.sizeIn true + b.sizeIn true
  | .rep body least most _ =>
    branch <|
      if body.isWidthless then repSize (body.sizeIn false) true (min least 1) (some 1)
      else repSize (body.sizeIn false) body.isNullable least most
  | .group _ body => branch (body.sizeIn false + 2 * stateSize)
where
  branch (size : Nat) : Nat := if inner then size + exitSize else size

/-- The size of an expression with what surrounds it: a loop that skips characters
    in front, the bounds of the match and its end. -/
def size (r : Regex) : Nat :=
  r.sizeIn false + repSize (2 * stateSize + rangeSize) false 0 none + 3 * stateSize

/-- The greatest size that is allowed: ten mebibytes. -/
def sizeLimit : Nat := 10 * Nat.pow 2 20

/-- The expression that a text writes, if it is not too large to be matched with. -/
def ofText (text : String) : Except Fault Regex := do
  let r ← parse text
  if sizeLimit < r.size then .error .tooLarge else return r

end Routing.Regex
