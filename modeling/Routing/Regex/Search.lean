/-
  Routing/Regex/Search.lean
  =========================
  **Whether an expression matches somewhere in a text.**  The text is gone through
  from its end to its start. A `Matcher` is an expression in which every character
  set carries a mark: whether a match can go on with the set at the place reached.
  One step takes all marks from a place to the place before it, so the cost is the
  length of the text times the size of the expression, however many ways there are
  to match.
-/
import Routing.Regex.Basic

namespace Routing.Regex

structure Place where
  before : Option Char
  after : Option Char
deriving DecidableEq, Repr

def placesFrom (before : Option Char) : List Char → List Place
  | [] => [⟨before, none⟩]
  | c :: cs => ⟨before, some c⟩ :: placesFrom (some c) cs

/-- An expression with a mark at each set of characters. Groups are left out, and
    counted repetitions are written out. -/
inductive Matcher where
  | empty
  /-- `ready` tells whether a character of the set stands here, after which the rest
      can be matched -/
  | chars (s : CharClass) (ready : Bool)
  | look (l : Look)
  | seq (a b : Matcher)
  | alt (a b : Matcher)
  | star (body : Matcher)

namespace Matcher

/-- `m` exactly `count` times, as a balanced tree. -/
def power (m : Matcher) (count : Nat) : Matcher :=
  if count = 0 then .empty
  else if count = 1 then m
  else
    let half := power m (count / 2)
    if count % 2 = 0 then .seq half half else .seq m (.seq half half)
termination_by count

/-- Whether the rest can be matched from here on, when `onward` tells whether what
    follows the expression can be matched at this place. -/
def enter (place : Place) : Matcher → (onward : Bool) → Bool
  | .empty, onward => onward
  | .chars _ ready, _ => ready
  | .look l, onward => onward && l.holds place.before place.after
  | .seq a b, onward => a.enter place (b.enter place onward)
  | .alt a b, onward => a.enter place onward || b.enter place onward
  | .star body, onward => body.enter place false || onward

/-- The answer of `enter`, and the expression with its marks at the place before. -/
def step (place : Place) : Matcher → (onward : Bool) → Bool × Matcher
  | .empty, onward => (onward, .empty)
  | .chars s ready, onward =>
    (ready, .chars s (onward && place.before.any fun c => s.contains c))
  | .look l, onward => (onward && l.holds place.before place.after, .look l)
  | .seq a b, onward =>
    let (onward, b) := b.step place onward
    let (answer, a) := a.step place onward
    (answer, .seq a b)
  | .alt a b, onward =>
    let (first, a) := a.step place onward
    let (second, b) := b.step place onward
    (first || second, .alt a b)
  | .star body, onward =>
    let onward := body.enter place false || onward
    (onward, .star (body.step place onward).2)

end Matcher

/-- The expression with no mark set, as it is at the end of a text of `places` places.
    A repetition of more rounds than there are places matches the same as one of
    that many: some of the rounds take no character, and can be left out. -/
def matcher (places : Nat) : Regex → Matcher
  | .empty => .empty
  | .chars s => .chars s false
  | .look l => .look l
  | .seq a b => .seq (a.matcher places) (b.matcher places)
  | .alt a b => .alt (a.matcher places) (b.matcher places)
  | .rep body least most _ =>
    let m := body.matcher places
    let more :=
      match most with
      | none => .star m
      | some most => (Matcher.alt m .empty).power (min (most - least) places)
    .seq (m.power (min least places)) more
  | .group _ body => body.matcher places

def isMatch (r : Regex) (text : String) : Bool :=
  let places := placesFrom none text.toList
  (places.foldr
    (fun place (found, m) =>
      let (answer, m) := m.step place true
      (found || answer, m))
    (false, r.matcher places.length)).1

end Routing.Regex
