/-
  Routing/Toml/Lexeme.lean
  ========================
  **Keys, texts, numbers and dates of TOML.**  Each reader takes what it reads from
  the front of the characters and gives the rest; nothing if the characters do not
  start that way.
-/
import Routing.Number.Numeral
import Routing.Toml.Basic

namespace Routing.Toml

/-! ### Blanks, comments and line ends -/

def isSpace (c : Char) : Bool :=
  c == ' ' || c == '\t'

/-- The characters that may stand in comments and texts: no controls but the tab. -/
def isPlain (c : Char) : Bool :=
  c == '\t' || (decide (' ' ≤ c) && c != '\x7f')

def skipSpaces (cs : List Char) : List Char :=
  cs.dropWhile isSpace

def readNewline : List Char → Option (List Char)
  | '\n' :: rest => some rest
  | '\r' :: '\n' :: rest => some rest
  | _ => none

def skipComment : List Char → List Char
  | '#' :: rest => rest.dropWhile isPlain
  | cs => cs

def readLineEnd (cs : List Char) : Option (List Char) :=
  match skipComment (skipSpaces cs) with
  | [] => some []
  | rest => readNewline rest

def skipLines : Nat → List Char → List Char
  | 0, cs => cs
  | fuel + 1, cs =>
    let rest := skipComment (skipSpaces cs)
    match readNewline rest with
    | some rest => skipLines fuel rest
    | none => rest

/-! ### Texts -/

def hexValue? (c : Char) : Option Nat :=
  if c.isDigit then some (c.toNat - 48)
  else if 'a' ≤ c ∧ c ≤ 'f' then some (c.toNat - 87)
  else if 'A' ≤ c ∧ c ≤ 'F' then some (c.toNat - 55)
  else none

def readCodePoint : (count value : Nat) → List Char → Option (Char × List Char)
  | 0, value, cs => if value.isValidChar then some (Char.ofNat value, cs) else none
  | _ + 1, _, [] => none
  | count + 1, value, c :: cs => do
    let digit ← hexValue? c
    readCodePoint count (16 * value + digit) cs

def readEscape : List Char → Option (Char × List Char)
  | [] => none
  | c :: cs =>
    match c with
    | 'b' => some ('\x08', cs)
    | 't' => some ('\t', cs)
    | 'n' => some ('\n', cs)
    | 'f' => some ('\x0c', cs)
    | 'r' => some ('\r', cs)
    | '"' => some ('"', cs)
    | '\\' => some ('\\', cs)
    | 'u' => readCodePoint 4 0 cs
    | 'U' => readCodePoint 8 0 cs
    | _ => none

/-- Reads a text on one line up to the quotation mark `quote`. Escapes are read
    between double quotes only. -/
def readLineText (quote : Char) : Nat → List Char → Option (List Char × List Char)
  | 0, _ => none
  | _ + 1, [] => none
  | fuel + 1, c :: cs =>
    if c = quote then some ([], cs)
    else if c = '\\' ∧ quote = '"' then do
      let (c, cs) ← readEscape cs
      let (text, rest) ← readLineText quote fuel cs
      return (c :: text, rest)
    else if isPlain c then do
      let (text, rest) ← readLineText quote fuel cs
      return (c :: text, rest)
    else none

def skipBlankLines (cs : List Char) : List Char :=
  match cs with
  | '\r' :: '\n' :: rest => skipBlankLines rest
  | c :: rest => if isSpace c || c == '\n' then skipBlankLines rest else c :: rest
  | [] => []

def skipLineBreak (cs : List Char) : Option (List Char) :=
  (readNewline (skipSpaces cs)).map skipBlankLines

/-- The end of a text over lines, and the quotation marks that still belong to it:
    of five marks in a row the last three close the text. -/
def readClosing (quote : Char) (cs : List Char) : Option (Nat × List Char) :=
  let marks := (cs.take 5).takeWhile (· == quote)
  if 3 ≤ marks.length then some (marks.length - 3, cs.drop marks.length) else none

/-- Reads a text over lines up to three quotation marks. Every line end is read as
    one line feed. -/
def readLinesText (quote : Char) : Nat → List Char → Option (List Char × List Char)
  | 0, _ => none
  | _ + 1, [] => none
  | fuel + 1, c :: cs =>
    match readClosing quote (c :: cs) with
    | some (marks, rest) => some (List.replicate marks quote, rest)
    | none =>
      match readNewline (c :: cs) with
      | some cs => do
        let (text, rest) ← readLinesText quote fuel cs
        return ('\n' :: text, rest)
      | none =>
        if c = '\\' ∧ quote = '"' then
          match skipLineBreak cs with
          | some cs => readLinesText quote fuel cs
          | none => do
            let (c, cs) ← readEscape cs
            let (text, rest) ← readLinesText quote fuel cs
            return (c :: text, rest)
        else if isPlain c then do
          let (text, rest) ← readLinesText quote fuel cs
          return (c :: text, rest)
        else none

/-- Reads a text over lines, after its opening marks. A line end right there is not
    part of the text. -/
def readLines (quote : Char) (cs : List Char) : Option (List Char × List Char) :=
  readLinesText quote (cs.length + 1) ((readNewline cs).getD cs)

def readText : List Char → Option (String × List Char)
  | '"' :: '"' :: '"' :: cs => (readLines '"' cs).map fun (s, rest) => (String.ofList s, rest)
  | '\'' :: '\'' :: '\'' :: cs => (readLines '\'' cs).map fun (s, rest) => (String.ofList s, rest)
  | '"' :: cs => (readLineText '"' (cs.length + 1) cs).map fun (s, rest) => (String.ofList s, rest)
  | '\'' :: cs =>
    (readLineText '\'' (cs.length + 1) cs).map fun (s, rest) => (String.ofList s, rest)
  | _ => none

/-! ### Keys -/

def isBare (c : Char) : Bool :=
  c.isAlphanum || c == '-' || c == '_'

def readKey : List Char → Option (String × List Char)
  | '"' :: cs => (readLineText '"' (cs.length + 1) cs).map fun (s, rest) => (String.ofList s, rest)
  | '\'' :: cs =>
    (readLineText '\'' (cs.length + 1) cs).map fun (s, rest) => (String.ofList s, rest)
  | cs =>
    let key := cs.takeWhile isBare
    if key.isEmpty then none else some (String.ofList key, cs.dropWhile isBare)

/-- How many keys a dotted key has less than, and how deep arrays and tables may be
    nested. -/
def depthLimit : Nat := 80

def readDottedKey : Nat → List Char → Option (List String × List Char)
  | 0, _ => none
  | fuel + 1, cs => do
    let (key, rest) ← readKey (skipSpaces cs)
    match skipSpaces rest with
    | '.' :: rest => do
      let (keys, rest) ← readDottedKey fuel rest
      return (key :: keys, rest)
    | rest => return ([key], rest)

def readPath (cs : List Char) : Option ((List String × String) × List Char) := do
  let (keys, rest) ← readDottedKey (depthLimit - 1) cs
  let last ← keys.getLast?
  return ((keys.dropLast, last), rest)

/-! ### Numbers -/

/-- Digits after a digit, where single underscores may stand between digits. -/
def readMoreDigits (p : Char → Bool) : List Char → Option (List Char × List Char)
  | [] => some ([], [])
  | '_' :: c :: cs =>
    if p c then (readMoreDigits p cs).map fun (digits, rest) => (c :: digits, rest) else none
  | c :: cs =>
    if p c then (readMoreDigits p cs).map fun (digits, rest) => (c :: digits, rest)
    else if c = '_' then none
    else some ([], c :: cs)

def readDigits (p : Char → Bool) : List Char → Option (List Char × List Char)
  | [] => none
  | c :: cs =>
    if p c then (readMoreDigits p cs).map fun (digits, rest) => (c :: digits, rest) else none

/-- A whole number that fits sixty-four bits. -/
def fitting (negative : Bool) (n : Nat) : Option Int :=
  if negative then if n ≤ Nat.pow 2 63 then some (-(n : Int)) else none
  else if n < Nat.pow 2 63 then some n else none

def readBased (base : Nat) (cs : List Char) : Option (Value × List Char) := do
  let isDigit (c : Char) : Bool := (hexValue? c).any (· < base)
  let (digits, rest) ← readDigits isDigit cs
  let n := digits.foldl (fun n c => base * n + (hexValue? c).getD 0) 0
  return (.int (← fitting false n), rest)

def readWhole : List Char → Option (List Char × List Char)
  | '0' :: cs => some (['0'], cs)
  | cs => readDigits Char.isDigit cs

def readExponent : List Char → Option (Option Int × List Char)
  | c :: cs =>
    if c = 'e' ∨ c = 'E' then do
      let (negative, cs) := Number.splitSign cs
      let (digits, rest) ← readDigits Char.isDigit cs
      let n : Int := Number.valueOfDigits digits
      return (some (if negative then -n else n), rest)
    else some (none, c :: cs)
  | [] => some (none, [])

def readFraction : List Char → Option (Option (List Char) × List Char)
  | '.' :: cs => (readDigits Char.isDigit cs).map fun (digits, rest) => (some digits, rest)
  | cs => some (none, cs)

/-- Reads a decimal number: a whole number, or with a fraction or an exponent a
    floating one, which must not be too large. -/
def readDecimal (negative : Bool) (cs : List Char) : Option (Value × List Char) := do
  let (whole, rest) ← readWhole cs
  let (fraction, rest) ← readFraction rest
  let (exponent, rest) ← readExponent rest
  if fraction.isNone && exponent.isNone then
    return (.int (← fitting negative (Number.valueOfDigits whole)), rest)
  else
    let fraction := fraction.getD []
    let x := Number.Numeral.toFloat
      ⟨negative, whole ++ fraction, exponent.getD 0 - fraction.length⟩
    if x == Number.infinity then none else return (.float x, rest)

def readNumber : List Char → Option (Value × List Char)
  | '0' :: 'x' :: cs => readBased 16 cs
  | '0' :: 'o' :: cs => readBased 8 cs
  | '0' :: 'b' :: cs => readBased 2 cs
  | cs =>
    let (negative, rest) := Number.splitSign cs
    match rest with
    | 'i' :: 'n' :: 'f' :: rest =>
      some (.float (if negative then -Number.infinity else Number.infinity), rest)
    | 'n' :: 'a' :: 'n' :: rest => some (.float (Float.ofBits 0x7ff8000000000000), rest)
    | rest => readDecimal negative rest

/-! ### Dates and times -/

def readFixed (count : Nat) (cs : List Char) : Option (List Char × List Char) :=
  let digits := cs.take count
  if digits.length = count && digits.all Char.isDigit then some (digits, cs.drop count) else none

def readPair (low high : Nat) (cs : List Char) : Option (List Char × List Char) := do
  let (digits, rest) ← readFixed 2 cs
  let n := Number.valueOfDigits digits
  if low ≤ n ∧ n ≤ high then return (digits, rest) else none

def daysOf (year month : Nat) : Nat :=
  if month = 2 then
    if year % 4 = 0 ∧ (year % 100 ≠ 0 ∨ year % 400 = 0) then 29 else 28
  else if month = 4 ∨ month = 6 ∨ month = 9 ∨ month = 11 then 30
  else 31

def readChar (c : Char) : List Char → Option (List Char)
  | d :: rest => if d = c then some rest else none
  | [] => none

def readDate (cs : List Char) : Option (List Char × List Char) := do
  let (year, rest) ← readFixed 4 cs
  let rest ← readChar '-' rest
  let (month, rest) ← readPair 1 12 rest
  let rest ← readChar '-' rest
  let days := daysOf (Number.valueOfDigits year) (Number.valueOfDigits month)
  let (day, rest) ← readPair 1 days rest
  return (year ++ '-' :: month ++ '-' :: day, rest)

/-- A fraction of a second, to nine places and without zeros at its end. -/
def shortFraction (digits : List Char) : List Char :=
  match ((digits.take 9).reverse.dropWhile (· == '0')).reverse with
  | [] => []
  | digits => '.' :: digits

def readTime (cs : List Char) : Option (List Char × List Char) := do
  let (hour, rest) ← readPair 0 23 cs
  let rest ← readChar ':' rest
  let (minute, rest) ← readPair 0 59 rest
  let rest ← readChar ':' rest
  let (second, rest) ← readPair 0 60 rest
  let time := hour ++ ':' :: minute ++ ':' :: second
  match rest with
  | '.' :: rest =>
    let fraction := rest.takeWhile Char.isDigit
    if fraction.isEmpty then none
    else return (time ++ shortFraction fraction, rest.dropWhile Char.isDigit)
  | rest => return (time, rest)

/-- Reads the distance from universal time, if there is one. No distance has a plus
    sign. -/
def readOffset (cs : List Char) : Option (List Char × List Char) :=
  match cs with
  | [] => some ([], [])
  | c :: rest =>
    if c = 'Z' ∨ c = 'z' then some (['Z'], rest)
    else if c = '+' ∨ c = '-' then do
      let (hour, rest) ← readPair 0 23 rest
      let rest ← readChar ':' rest
      let (minute, rest) ← readPair 0 59 rest
      let sign := if (hour ++ minute).all (· == '0') then '+' else c
      return (sign :: hour ++ ':' :: minute, rest)
    else some ([], cs)

def readDateTime (cs : List Char) : Option (Value × List Char) :=
  let finish (read : Option (List Char × List Char)) : Option (Value × List Char) :=
    read.map fun (text, rest) => (.dateTime (String.ofList text), rest)
  match readDate cs with
  | none => finish (readTime cs)
  | some (date, rest) =>
    match rest with
    | c :: after =>
      if c = 'T' ∨ c = 't' ∨ c = ' ' then
        match readTime after with
        | some (time, after) =>
          finish ((readOffset after).map fun (offset, after) =>
            (date ++ 'T' :: time ++ offset, after))
        | none => finish (some (date, rest))
      else finish (some (date, rest))
    | [] => finish (some (date, rest))

end Routing.Toml
