/-
  Routing/Regex/Basic.lean
  ========================
  **Regular expressions.**  The expressions that constraints test values with and
  that templates are matched with: character sets, conditions on a place of the
  text, sequences, prioritised alternatives and repetitions, and numbered groups.
-/
import Routing.Regex.CharClass

namespace Routing

inductive WordRule where
  /-- a word starts or ends here -/
  | boundary
  /-- no word starts or ends here -/
  | inner
  | start
  | stop
  /-- no word character stands before -/
  | startHalf
  /-- no word character stands after -/
  | stopHalf
deriving DecidableEq, Repr

/-- Conditions on a place between two characters. -/
inductive Look where
  | textStart
  | textEnd
  | lineStart
  | lineEnd
  /-- the start of a line where `\r`, `\n` and `\r\n` all end lines -/
  | crlfLineStart
  | crlfLineEnd
  | word (rule : WordRule) (ascii : Bool)
deriving DecidableEq, Repr

inductive Regex where
  /-- the empty text -/
  | empty
  /-- one character of a set -/
  | chars (s : CharClass)
  /-- the empty text at a place with a property -/
  | look (l : Look)
  | seq (a b : Regex)
  /-- `a`, or else `b` -/
  | alt (a b : Regex)
  /-- `body` from `least` to `most` times, as often as possible when `greedy` and as
      seldom as possible otherwise -/
  | rep (body : Regex) (least : Nat) (most : Option Nat) (greedy : Bool)
  /-- `body`, whose text is kept under the number `index` -/
  | group (index : Nat) (body : Regex)
deriving DecidableEq, Repr

namespace Regex

def seqAll : List Regex → Regex
  | [] => .empty
  | [r] => r
  | r :: s :: rest => .seq r (seqAll (s :: rest))

def altAll : List Regex → Regex
  | [] => .empty
  | [r] => r
  | r :: s :: rest => .alt r (altAll (s :: rest))

def char (c : Char) : Regex := .chars (CharClass.single c)

end Regex

/-! ### Conditions -/

def isWordMember (ascii : Bool) (c : Char) : Bool :=
  (CharClass.words ascii).contains c

def WordRule.holds (before after : Bool) : WordRule → Bool
  | .boundary => before != after
  | .inner => before == after
  | .start => !before && after
  | .stop => before && !after
  | .startHalf => !before
  | .stopHalf => !after

def Look.holds (before after : Option Char) : Look → Bool
  | .textStart => before.isNone
  | .textEnd => after.isNone
  | .lineStart => before.isNone || before == some '\n'
  | .lineEnd => after.isNone || after == some '\n'
  | .crlfLineStart =>
    before.isNone || before == some '\n' || (before == some '\r' && after != some '\n')
  | .crlfLineEnd =>
    after.isNone || after == some '\r' || (after == some '\n' && before != some '\r')
  | .word rule ascii =>
    rule.holds (before.any (isWordMember ascii)) (after.any (isWordMember ascii))

end Routing
