/-
  Routing/Regex/Flags.lean
  ========================
  **Flags of an expression and faults of its text.**  Flags change how the text
  after them is read, up to the end of the group they stand in.
-/
import Routing.Regex.Basic
import Routing.Text.Blank

namespace Routing.Regex

structure Flags where
  /-- `i`: letters stand for all their cases -/
  caseless : Bool := false
  /-- `m`: `^` and `$` hold at every line -/
  multiLine : Bool := false
  /-- `s`: the dot stands for line ends too -/
  dotAll : Bool := false
  /-- `U`: repetitions are lazy, and greedy with a question mark -/
  lazy : Bool := false
  /-- not `u`: classes and cases are those of ASCII -/
  ascii : Bool := false
  /-- `R`: a carriage return ends a line too -/
  crlf : Bool := false
  /-- `x`: blanks and comments in the expression are skipped -/
  verbose : Bool := false
deriving DecidableEq, Repr

inductive Fault where
  | unclosedGroup
  | unopenedGroup
  | unclosedBracket
  | lookAround
  | groupName
  | repeatedGroupName
  | flagList
  | nothingToRepeat
  | repetitionCount
  | escape
  | backReference
  | wordBoundary
  | classRange
  | classMember
  | unknownClass
  /-- a class of bytes that need not form a text -/
  | notText
  | tooDeep
  | tooLarge
deriving DecidableEq, Repr

/-- The report of a fault. What is wrong with an expression is not told apart. -/
def Fault.message (_ : Fault) : String :=
  "<regex error>"

/-! ### Blanks and comments -/

/-- What follows the blanks and the comments, which run from `#` to a line end. -/
def skipComments (inComment : Bool) : List Char → List Char
  | [] => []
  | c :: cs =>
    if inComment then skipComments (c != '\n') cs
    else if Text.isBlank c then skipComments false cs
    else if c = '#' then skipComments true cs
    else c :: cs

/-- What is left to read: all of it, or in a verbose expression what follows blanks
    and comments. -/
def Flags.skip (flags : Flags) (cs : List Char) : List Char :=
  if flags.verbose then skipComments false cs else cs

/-- Reads characters with a property; in a verbose expression blanks and comments
    may stand after each of them. -/
def Flags.collect (flags : Flags) (p : Char → Bool) : Nat → List Char → List Char × List Char
  | 0, cs => ([], cs)
  | _ + 1, [] => ([], [])
  | fuel + 1, c :: cs =>
    if p c then
      let (more, rest) := flags.collect p fuel (flags.skip cs)
      (c :: more, rest)
    else ([], c :: cs)

def Flags.span (flags : Flags) (p : Char → Bool) (cs : List Char) : List Char × List Char :=
  flags.collect p cs.length cs

/-! ### The meaning of single characters under flags -/

/-- The set, closed under case when letters stand for all their cases. -/
def Flags.fold (flags : Flags) (s : CharClass) : CharClass :=
  if flags.caseless then s.caseClosure flags.ascii else s

/-- The set or its complement. A complement among bytes holds bytes that are no
    text. -/
def Flags.complement (flags : Flags) (negated : Bool) (s : CharClass) : Except Fault CharClass :=
  if negated then
    if flags.ascii then .error .notText else .ok s.complement
  else .ok s

def Flags.dot (flags : Flags) : Except Fault CharClass :=
  if flags.ascii then .error .notText
  else if flags.dotAll then .ok CharClass.none.complement
  else if flags.crlf then .ok (CharClass.ofChars ['\r', '\n']).complement
  else .ok (CharClass.single '\n').complement

def Flags.caret (flags : Flags) : Look :=
  if flags.multiLine then if flags.crlf then .crlfLineStart else .lineStart else .textStart

def Flags.dollar (flags : Flags) : Look :=
  if flags.multiLine then if flags.crlf then .crlfLineEnd else .lineEnd else .textEnd

end Routing.Regex
