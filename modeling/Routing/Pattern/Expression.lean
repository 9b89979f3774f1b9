/-
  Routing/Pattern/Expression.lean
  ===============================
  **The expression that a pattern matches paths with.**  Each parameter is one
  group, numbered from one in declaration order.

    * a literal: its text, after a slash when it starts its segment
    * a parameter: `([^/]+?)`, made optional by a question mark
    * an optional parameter alone in its segment: `(?:/([^/]+?))?`
    * a catch-all: `(.+)` or `(.*)`, the second one optional and lazy; one that
      starts its segment is put into a group with the slash before it

  `source` is the written form and `tree` the expression itself.
-/
import Routing.Pattern.Segment
import Routing.Regex.Escape

namespace Routing.Expression

/-! ### Written form -/

/-- A literal in written form: a backslash stands before characters that mean
    something in an expression. -/
def escaped (cs : List Char) : List Char :=
  cs.flatMap fun c => if Regex.isMeta c then ['\\', c] else [c]

def lead (first : Bool) : List Char :=
  if first then ['/'] else []

/-- The written form of a part. `first` tells whether it starts its segment, and
    `sole` whether it is alone there. -/
def partSource (first sole : Bool) : Part → List Char
  | .literal text => lead first ++ escaped text.toList
  | .parameter p =>
    match p.quantifier with
    | .required => lead first ++ "([^/]+?)".toList
    | .optional =>
      if sole then "(?:/([^/]+?))?".toList else lead first ++ "([^/]+?)?".toList
    | .oneOrMore => if first then "(?:/(.+))".toList else "(.+)".toList
    | .zeroOrMore => if first then "(?:/(.*))??".toList else "(.*)??".toList

def partsSource (sole : Bool) : Bool → List Part → List Char
  | _, [] => []
  | first, part :: rest => partSource first sole part ++ partsSource sole false rest

def segmentsSource (segments : List Segment) : List Char :=
  segments.flatMap fun s => partsSource (s.parts.length == 1) true s.parts

def source (segments : List Segment) : String :=
  let body := segmentsSource segments
  String.ofList (if body.isEmpty then "^/$".toList else '^' :: body ++ "/?$".toList)

/-! ### The expression -/

/-- One or more characters other than a slash, as few as possible. -/
def pieces : Regex :=
  .rep (.chars (CharClass.single '/').complement) 1 none false

/-- At least `least` characters other than a line end, as many as possible. -/
def remainder (least : Nat) : Regex :=
  .rep (.chars (CharClass.single '\n').complement) least none true

/-- `r` or nothing, the preferred one first. -/
def optional (greedy : Bool) (r : Regex) : Regex :=
  .rep r 0 (some 1) greedy

def verbatim (cs : List Char) : List Regex :=
  cs.map Regex.char

/-- The items of a part. `index` is the number of its group if it is a parameter. -/
def partItems (first sole : Bool) (index : Nat) : Part → List Regex
  | .literal text => verbatim (lead first ++ text.toList)
  | .parameter p =>
    let slash := verbatim (lead first)
    match p.quantifier with
    | .required => slash ++ [.group index pieces]
    | .optional =>
      if sole then [optional true (Regex.seqAll [Regex.char '/', .group index pieces])]
      else slash ++ [optional true (.group index pieces)]
    | .oneOrMore => [Regex.seqAll (slash ++ [.group index (remainder 1)])]
    | .zeroOrMore => [optional false (Regex.seqAll (slash ++ [.group index (remainder 0)]))]

def groupCount (part : Part) : Nat :=
  if part.parameter?.isSome then 1 else 0

def partsItems (sole : Bool) : Bool → Nat → List Part → List Regex
  | _, _, [] => []
  | first, index, part :: rest =>
    partItems first sole index part ++ partsItems sole false (index + groupCount part) rest

def segmentsItems : Nat → List Segment → List Regex
  | _, [] => []
  | index, s :: rest =>
    partsItems (s.parts.length == 1) true index s.parts ++
      segmentsItems (index + s.parameters.length) rest

def tree (segments : List Segment) : Regex :=
  let body := segmentsItems 1 segments
  if body.isEmpty then .seq (.look .textStart) (.seq (Regex.char '/') (.look .textEnd))
  else Regex.seqAll ([.look .textStart] ++ body ++
    [optional true (Regex.char '/'), .look .textEnd])

end Routing.Expression
