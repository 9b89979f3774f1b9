/-
  Routing/Regex/CharClass.lean
  ============================
  **Sets of characters.**  A set is held as the runs of its code points, so that the
  set operations give sets that can be compared and measured. Closing a set under
  case adds the characters that fold like a member.
-/
import Routing.Unicode.Folding
import Routing.Unicode.Category
import Routing.Unicode.Property

namespace Routing

structure CharClass where
  runs : Unicode.Runs
deriving DecidableEq, Repr

namespace CharClass

def contains (c : Char) (s : CharClass) : Bool :=
  s.runs.contains c.toNat

def none : CharClass := ⟨[]⟩

def range (first last : Char) : CharClass :=
  if first ≤ last then ⟨[(first.toNat, last.toNat)]⟩ else none

def single (c : Char) : CharClass := ⟨[(c.toNat, c.toNat)]⟩

def union (s t : CharClass) : CharClass := ⟨s.runs.union t.runs⟩

def unionAll (sets : List CharClass) : CharClass :=
  ⟨Unicode.Runs.unionAll (sets.map runs)⟩

def ofChars (cs : List Char) : CharClass :=
  unionAll (cs.map single)

def inter (s t : CharClass) : CharClass := ⟨s.runs.inter t.runs⟩

def diff (s t : CharClass) : CharClass := ⟨s.runs.diff t.runs⟩

def symmDiff (s t : CharClass) : CharClass := ⟨s.runs.symmDiff t.runs⟩

def complement (s : CharClass) : CharClass :=
  ⟨Unicode.Runs.characters.diff s.runs⟩

/-- The set with all characters that differ from a member in case only, where
    `ascii` looks at the case of ASCII letters alone. -/
def caseClosure (ascii : Bool) (s : CharClass) : CharClass :=
  ⟨s.runs.caseClosure (if ascii then Unicode.asciiFoldPairs else Unicode.foldPairs)⟩

theorem contains_single {c d : Char} : (single d).contains c = true ↔ c = d := by
  have h : c = d ↔ c.toNat = d.toNat := ⟨fun h => h ▸ rfl, Char.toNat_inj.1⟩
  simp only [single, contains, Unicode.Runs.contains, Bool.or_false, Bool.and_eq_true,
    Bool.not_eq_true', decide_eq_false_iff_not, decide_eq_true_eq, h]
  omega

/-- The complement of one character holds all others. -/
theorem contains_complement_single {c d : Char} :
    (single d).complement.contains c = true ↔ c ≠ d := by
  have h : c ≠ d ↔ c.toNat ≠ d.toNat := not_congr Char.toNat_inj.symm
  have hc : c.toNat < 0xd800 ∨ 0xdfff < c.toNat ∧ c.toNat < 0x110000 := c.valid
  have hd : d.toNat < 0xd800 ∨ 0xdfff < d.toNat ∧ d.toNat < 0x110000 := d.valid
  simp only [h, single, complement, contains, Unicode.Runs.characters, Unicode.Runs.diff,
    Unicode.Runs.gaps, List.flatMap_cons, List.flatMap_nil, List.append_nil]
  repeat' split
  all_goals simp only [List.nil_append, List.cons_append, Unicode.Runs.contains, Bool.or_false,
    Bool.and_eq_true, Bool.or_eq_true, Bool.not_eq_true', decide_eq_false_iff_not,
    decide_eq_true_eq, Bool.false_eq_true, false_iff]
  all_goals omega

/-! ### Classes with a letter of their own -/

/-- The characters of words: letters, marks, digits, connectors and joiners. -/
def wordRuns : Unicode.Runs :=
  Unicode.Runs.unionAll [
    Unicode.runsOfProperty "Alphabetic",
    Unicode.runsOfCategories ["Mc", "Me", "Mn", "Nd", "Pc"],
    Unicode.runsOfProperty "Join_Control"]

def digits (ascii : Bool) : CharClass :=
  if ascii then range '0' '9' else ⟨Unicode.runsOfCategories ["Nd"]⟩

def blanks (ascii : Bool) : CharClass :=
  if ascii then (range '\t' '\r').union (single ' ')
  else ⟨Unicode.runsOfProperty "White_Space"⟩

def words (ascii : Bool) : CharClass :=
  if ascii then unionAll [range '0' '9', range 'A' 'Z', single '_', range 'a' 'z']
  else ⟨wordRuns⟩

def named? (name : String) : Option CharClass :=
  match name with
  | "alnum" => some (unionAll [range '0' '9', range 'A' 'Z', range 'a' 'z'])
  | "alpha" => some ((range 'A' 'Z').union (range 'a' 'z'))
  | "ascii" => some (range '\x00' '\x7f')
  | "blank" => some ((single '\t').union (single ' '))
  | "cntrl" => some ((range '\x00' '\x1f').union (single '\x7f'))
  | "digit" => some (range '0' '9')
  | "graph" => some (range '!' '~')
  | "lower" => some (range 'a' 'z')
  | "print" => some (range ' ' '~')
  | "punct" => some (unionAll [range '!' '/', range ':' '@', range '[' '\x60',
      range '\x7b' '~'])
  | "space" => some (blanks true)
  | "upper" => some (range 'A' 'Z')
  | "word" => some (words true)
  | "xdigit" => some (unionAll [range '0' '9', range 'A' 'F', range 'a' 'f'])
  | _ => Option.none

end CharClass

end Routing
