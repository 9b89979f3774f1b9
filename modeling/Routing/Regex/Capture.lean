/-
  Routing/Regex/Capture.lean
  ==========================
  **The preferred match of an expression and the texts of its groups.**  Where an
  expression can match in several ways, alternatives are tried in order, greedy
  repetitions first go on and the others first stop. `run` takes what is to be
  matched after an expression, as the answer for each place where the expression
  may end, to the answers for the expression and that rest together. Answers that
  can be asked for in several ways are kept once they are found.
-/
import Routing.Regex.Basic

namespace Routing.Regex

/-- The texts of groups by number, in the order in which the groups end. -/
abbrev Groups := List (Nat × List Char)

/-- What is to be matched after an expression. A place is given by the number of
    characters before it; the answer for a place is the groups matched from there
    on, if there is a match. -/
structure Rest where
  /-- the answers for the places of the text, each found when it is first asked for -/
  kept : Array (Thunk (Option Groups))
  /-- how the answer for a place is found -/
  find : Nat → Option Groups

namespace Rest

def at? (rest : Rest) (place : Nat) : Option Groups :=
  match rest.kept[place]? with
  | some answer => answer.get
  | none => rest.find place

def direct (find : Nat → Option Groups) : Rest := ⟨#[], find⟩

/-- The same answers, kept for the places of a text of `size` characters. -/
def remember (size : Nat) (rest : Rest) : Rest :=
  if rest.kept.isEmpty then
    ⟨Array.ofFn fun place : Fin (size + 1) => Thunk.mk fun _ => rest.find place, rest.find⟩
  else rest

@[simp] theorem at?_direct (find : Nat → Option Groups) (place : Nat) :
    (direct find).at? place = find place := by
  simp [direct, at?]

/-- Keeping answers changes none. -/
@[simp] theorem at?_remember (size : Nat) (rest : Rest) (place : Nat) :
    (rest.remember size).at? place = rest.at? place := by
  unfold remember
  split
  · next h =>
    rw [Array.isEmpty_iff] at h
    simp only [at?, h, Array.getElem?_ofFn]
    split
    · next answer heq =>
      split at heq
      · simp only [Option.some.injEq] at heq
        subst heq
        rfl
      · cases heq
    · simp
  · rfl

end Rest

def exactly (body : Rest → Rest) : Nat → Rest → Rest
  | 0, rest => rest
  | count + 1, rest => body (exactly body count rest)

/-- Goes on or stops, the preferred one first. The other is only looked at when that
    one fails. -/
@[macro_inline]
def choose (greedy : Bool) (more stop : Option Groups) : Option Groups :=
  if greedy then more <|> stop else stop <|> more

def atMost (greedy : Bool) (body : Rest → Rest) : Nat → Rest → Rest
  | 0, rest => rest
  | count + 1, rest =>
    let more := body (atMost greedy body count rest)
    .direct fun place => choose greedy (more.at? place) (rest.at? place)

/-- `body` any number of times, where each time takes at least one character and
    `count` bounds the characters left. -/
def anyNumber (greedy : Bool) (body : Rest → Rest) : Nat → Rest → Rest
  | 0, rest => rest
  | count + 1, rest =>
    .direct fun place =>
      let again : Rest :=
        .direct fun next =>
          if place < next then (anyNumber greedy body count rest).at? next else none
      choose greedy ((body again).at? place) (rest.at? place)

def slice (text : Array Char) (start stop : Nat) : List Char :=
  (text.extract start stop).toList

def run (text : Array Char) : Regex → Rest → Rest
  | .empty, rest => rest
  | .chars s, rest =>
    .direct fun place =>
      match text[place]? with
      | some c => if s.contains c then rest.at? (place + 1) else none
      | none => none
  | .look l, rest =>
    .direct fun place =>
      let before := if place = 0 then none else text[place - 1]?
      if l.holds before text[place]? then rest.at? place else none
  | .seq a b, rest => run text a (run text b rest)
  | .alt a b, rest =>
    let rest := rest.remember text.size
    let first := run text a rest
    let second := run text b rest
    .direct fun place => first.at? place <|> second.at? place
  | .rep body least most greedy, rest =>
    let more :=
      match most with
      | some most => atMost greedy (run text body) (most - least) (rest.remember text.size)
      | none =>
        .direct fun place =>
          (anyNumber greedy (run text body) (text.size - place) rest).at? place
    exactly (run text body) least more
  | .group index body, rest =>
    let rest := rest.remember text.size
    .direct fun start =>
      let close : Rest :=
        .direct fun stop => (rest.at? stop).map ((index, slice text start stop) :: ·)
      (run text body close).at? start

/-- The groups of the preferred match of `r` in `text`: of the matches that start
    first, the preferred one. A group that takes no part in it is not listed. -/
def captures (r : Regex) (text : String) : Option Groups :=
  let text := text.toList.toArray
  let whole := run text r (.direct fun _ => some [])
  (List.range (text.size + 1)).findSome? fun place => whole.at? place

end Routing.Regex
