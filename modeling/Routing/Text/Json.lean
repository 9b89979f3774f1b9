/-
  Routing/Text/Json.lean
  ======================
  **Writing JSON.**  A document is written without any blanks or laid out over
  lines with two blanks for each level. Quotes, backslashes and control characters
  are escaped; everything else stands for itself.
-/
import Routing.Number.Notation

namespace Routing

/-- A JSON document. The members of an object keep their order. -/
inductive Json where
  | null
  | bool (b : Bool)
  | int (n : Int)
  | number (x : Float)
  | text (s : String)
  | list (items : List Json)
  | object (members : List (String × Json))

namespace Json

def hexDigit (n : Nat) : Char :=
  Nat.digitChar n

def escapedChar (c : Char) : List Char :=
  if c = '"' || c = '\\' then ['\\', c]
  else if c = '\x08' then ['\\', 'b']
  else if c = '\x0c' then ['\\', 'f']
  else if c = '\n' then ['\\', 'n']
  else if c = '\r' then ['\\', 'r']
  else if c = '\t' then ['\\', 't']
  else if c.toNat < 32 then
    ['\\', 'u', '0', '0', hexDigit (c.toNat / 16), hexDigit (c.toNat % 16)]
  else [c]

def textLiteral (s : String) : List Char :=
  '"' :: s.toList.flatMap escapedChar ++ ['"']

/-- A number; what is no finite number is written as `null`. -/
def numberLiteral (x : Float) : List Char :=
  match Number.interchange? x with
  | some s => s.toList
  | none => "null".toList

def newline (level : Nat) : List Char :=
  '\n' :: List.replicate (2 * level) ' '

mutual
def compact : Json → List Char
  | .null => "null".toList
  | .bool b => (if b then "true" else "false").toList
  | .int n => (toString n).toList
  | .number x => numberLiteral x
  | .text s => textLiteral s
  | .list items => '[' :: compactItems items ++ [']']
  | .object members => '\x7b' :: compactMembers members ++ ['\x7d']

def compactItems : List Json → List Char
  | [] => []
  | [item] => compact item
  | item :: next :: rest => compact item ++ ',' :: compactItems (next :: rest)

def compactMembers : List (String × Json) → List Char
  | [] => []
  | [(key, value)] => textLiteral key ++ ':' :: compact value
  | (key, value) :: next :: rest =>
    textLiteral key ++ ':' :: compact value ++ ',' :: compactMembers (next :: rest)
end

mutual
/-- A document over lines. `level` is how deep it stands in another one. -/
def laidOut (level : Nat) : Json → List Char
  | .null => "null".toList
  | .bool b => (if b then "true" else "false").toList
  | .int n => (toString n).toList
  | .number x => numberLiteral x
  | .text s => textLiteral s
  | .list items =>
    if items.isEmpty then ['[', ']']
    else '[' :: laidOutItems (level + 1) items ++ newline level ++ [']']
  | .object members =>
    if members.isEmpty then ['\x7b', '\x7d']
    else '\x7b' :: laidOutMembers (level + 1) members ++ newline level ++ ['\x7d']

def laidOutItems (level : Nat) : List Json → List Char
  | [] => []
  | [item] => newline level ++ laidOut level item
  | item :: next :: rest =>
    newline level ++ laidOut level item ++ ',' :: laidOutItems level (next :: rest)

def laidOutMembers (level : Nat) : List (String × Json) → List Char
  | [] => []
  | [(key, value)] => newline level ++ textLiteral key ++ ':' :: ' ' :: laidOut level value
  | (key, value) :: next :: rest =>
    newline level ++ textLiteral key ++ ':' :: ' ' :: laidOut level value ++
      ',' :: laidOutMembers level (next :: rest)
end

def toCompact (j : Json) : String :=
  String.ofList j.compact

def toLines (j : Json) : String :=
  String.ofList (j.laidOut 0)

end Json

end Routing
