/-
  Routing/Regex/Escape.lean
  =========================
  **What stands after a backslash.**  An escape is a character, a class of
  characters or a condition on a place. Property names are compared in a loose
  form, so `\p{Greek}`, `\p{is greek}` and `\p{GREEK}` are the same class.
-/
import Routing.Regex.Flags
import Routing.Text.Pieces
import Routing.Unicode.Age
import Routing.Unicode.Break
import Routing.Unicode.Script

namespace Routing.Regex

inductive Escape where
  | char (c : Char)
  /-- a character below 256 given by two hexadecimal digits -/
  | byte (c : Char)
  | set (s : CharClass)
  | look (l : Look)
deriving DecidableEq, Repr

/-! ### Named classes -/

/-- The loose form of a name: lower case, without spaces, hyphens, underscores and
    characters beyond ASCII, and without `is` in front. The abbreviation `isc`
    keeps its `is`. -/
def looseName (cs : List Char) : String :=
  let loose (cs : List Char) : List Char :=
    (cs.filter fun c => c != ' ' && c != '_' && c != '-' && c.toNat < 128).map Char.toLower
  let name :=
    match cs with
    | i :: s :: rest =>
      if i.toLower = 'i' && s.toLower = 's' then
        if loose rest = ['c'] then ['i', 's', 'c'] else loose rest
      else loose cs
    | cs => loose cs
  String.ofList name

/-- The class of a single name: a property, a general category or a script. The
    names `cf`, `sc` and `lc` are categories although properties share them. -/
def classOfName? (name : String) : Option Unicode.Runs :=
  let property := if ["cf", "sc", "lc"].contains name then none else Unicode.property? name
  property <|> Unicode.category? name <|> Unicode.script? name

def classOfValue? (property value : String) : Option Unicode.Runs :=
  match property with
  | "gc" | "generalcategory" => Unicode.category? value
  | "sc" | "script" => Unicode.script? value
  | "scx" | "scriptextensions" => Unicode.scriptExtension? value
  | "age" => Unicode.age? value
  | "gcb" | "graphemeclusterbreak" => Unicode.breakRole? Unicode.characterBreakRuns value
  | "wb" | "wordbreak" => Unicode.breakRole? Unicode.wordBreakRuns value
  | "sb" | "sentencebreak" => Unicode.breakRole? Unicode.sentenceBreakRuns value
  | _ => none

def cutAtUnequal : List Char → Option (List Char × List Char)
  | [] => none
  | [_] => none
  | c :: d :: rest =>
    if c = '!' ∧ d = '=' then some ([], rest)
    else (cutAtUnequal (d :: rest)).map fun (before, after) => (c :: before, after)

/-- The class that braces after `\p` describe, and whether they mean its complement:
    a name, or a property and its value with `=` or `:` between them, or with `!=`
    for the complement. -/
def classOfBraces? (cs : List Char) : Option (Bool × Unicode.Runs) :=
  let ofValue (property value : List Char) : Option Unicode.Runs :=
    classOfValue? (looseName property) (looseName value)
  match cutAtUnequal cs with
  | some (property, value) => (ofValue property value).map (true, ·)
  | none =>
    match Text.cutAt ':' cs <|> Text.cutAt '=' cs with
    | some (property, value) => (ofValue property value).map (false, ·)
    | none => (classOfName? (looseName cs)).map (false, ·)

def readNamedClass (flags : Flags) (negated : Bool) (cs : List Char) :
    Except Fault (Escape × List Char) :=
  let build (found : Option (Bool × Unicode.Runs)) (rest : List Char) :
      Except Fault (Escape × List Char) :=
    if flags.ascii then .error .unknownClass
    else
      match found with
      | none => .error .unknownClass
      | some (complement, runs) =>
        let s := flags.fold ⟨runs⟩
        .ok (.set (if negated != complement then s.complement else s), rest)
  match flags.skip cs with
  | [] => .error .escape
  | '\x7b' :: cs =>
    match flags.span (· != '\x7d') (flags.skip cs) with
    | (_, []) => .error .escape
    | (name, _ :: rest) => build (classOfBraces? name) rest
  | '\\' :: _ => .error .unknownClass
  | c :: rest => build ((classOfName? (looseName [c])).map (false, ·)) (flags.skip rest)

/-! ### Characters by number -/

def hexValue (c : Char) : Nat :=
  if c.isDigit then c.toNat - 48 else c.toUpper.toNat - 55

def isHexDigit (c : Char) : Bool :=
  c.isDigit || ('a' ≤ c && c ≤ 'f') || ('A' ≤ c && c ≤ 'F')

def charOfHex? (digits : List Char) : Option Char :=
  let n := digits.foldl (fun n c => 16 * n + hexValue c) 0
  if n.isValidChar then some (Char.ofNat n) else none

def readHexDigits (flags : Flags) : Nat → List Char → Except Fault (List Char × List Char)
  | 0, cs => .ok ([], cs)
  | _ + 1, [] => .error .escape
  | count + 1, c :: cs =>
    if isHexDigit c then
      (readHexDigits flags count (flags.skip cs)).map fun (digits, rest) => (c :: digits, rest)
    else .error .escape

/-- Reads the number after `\x`, `\u` or `\U`: `count` digits, or any number of
    digits in braces. -/
def readHex (flags : Flags) (count : Nat) (cs : List Char) : Except Fault (Escape × List Char) :=
  match flags.skip cs with
  | [] => .error .escape
  | '\x7b' :: cs =>
    match flags.span isHexDigit (flags.skip cs) with
    | (digits, '\x7d' :: rest) =>
      match digits, charOfHex? digits with
      | _ :: _, some c => .ok (.char c, flags.skip rest)
      | _, _ => .error .escape
    | _ => .error .escape
  | cs => do
    let (digits, rest) ← readHexDigits flags count cs
    match charOfHex? digits with
    | some c => .ok (if count = 2 then .byte c else .char c, rest)
    | none => .error .escape

/-! ### Escapes -/

def isMeta (c : Char) : Bool :=
  ['\\', '.', '+', '*', '?', '(', ')', '|', '[', ']', '\x7b', '\x7d', '^', '$', '#', '&', '-',
    '~'].contains c

/-- The characters that a backslash leaves as they are: all of ASCII except letters,
    digits and the angle brackets. -/
def isEscapable (c : Char) : Bool :=
  isMeta c || (c.toNat < 128 && !c.isAlphanum && c != '<' && c != '>')

/-- What may stand in braces after `\b`, if the braces start like a name. Other
    braces are a repetition. -/
def readBoundary (flags : Flags) (cs : List Char) : Except Fault (WordRule × List Char) :=
  let isNameChar (c : Char) : Bool := c.isAlpha || c == '-'
  match cs with
  | '\x7b' :: inner =>
    match flags.skip inner with
    | [] => .error .wordBoundary
    | c :: more =>
      if !isNameChar c then .ok (.boundary, cs)
      else
        match flags.span isNameChar (c :: more) with
        | (name, '\x7d' :: rest) =>
          match String.ofList name with
          | "start" => .ok (.start, rest)
          | "end" => .ok (.stop, rest)
          | "start-half" => .ok (.startHalf, rest)
          | "end-half" => .ok (.stopHalf, rest)
          | _ => .error .wordBoundary
        | _ => .error .wordBoundary
  | cs => .ok (.boundary, cs)

def readEscape (flags : Flags) : List Char → Except Fault (Escape × List Char)
  | [] => .error .escape
  | c :: cs =>
    let look (rule : WordRule) : Escape := .look (.word rule flags.ascii)
    let shorthand (negated : Bool) (s : CharClass) : Except Fault (Escape × List Char) :=
      (flags.complement negated s).map fun s => (.set s, cs)
    if c.isDigit then .error .backReference
    else if isEscapable c then .ok (.char c, cs)
    else
      match c with
      | 'x' => readHex flags 2 cs
      | 'u' => readHex flags 4 cs
      | 'U' => readHex flags 8 cs
      | 'p' => readNamedClass flags false cs
      | 'P' => readNamedClass flags true cs
      | 'd' => shorthand false (CharClass.digits flags.ascii)
      | 'D' => shorthand true (CharClass.digits flags.ascii)
      | 's' => shorthand false (CharClass.blanks flags.ascii)
      | 'S' => shorthand true (CharClass.blanks flags.ascii)
      | 'w' => shorthand false (CharClass.words flags.ascii)
      | 'W' => shorthand true (CharClass.words flags.ascii)
      | 'a' => .ok (.char '\x07', cs)
      | 'f' => .ok (.char '\x0c', cs)
      | 't' => .ok (.char '\t', cs)
      | 'n' => .ok (.char '\n', cs)
      | 'r' => .ok (.char '\r', cs)
      | 'v' => .ok (.char '\x0b', cs)
      | 'A' => .ok (.look .textStart, cs)
      | 'z' => .ok (.look .textEnd, cs)
      | 'b' => (readBoundary flags cs).map fun (rule, rest) => (look rule, rest)
      | 'B' => .ok (look .inner, cs)
      | '<' => .ok (look .start, cs)
      | '>' => .ok (look .stop, cs)
      | _ => .error .escape

end Routing.Regex
