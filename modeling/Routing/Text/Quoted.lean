/-
  Routing/Text/Quoted.lean
  ========================
  **Quoted text in reports.**  A text is shown between double quotes. Inside,
  quotes and backslashes get a backslash, the usual control characters their
  short escapes, and any other character that does not show on its own its code
  point in braces.
-/
import Routing.Unicode.Category
import Routing.Unicode.Property
import Routing.Unicode.Recent

namespace Routing.Text

/-- Characters without a shape of their own: controls, formats, separators,
    private and unassigned ones, and those that rendering may leave out. -/
def shapelessRuns : Unicode.Runs :=
  Unicode.Runs.unionAll [
    Unicode.runsOfCategories ["Cc", "Cf", "Cn", "Co", "Zl", "Zp", "Zs"],
    Unicode.runsOfProperty "Default_Ignorable_Code_Point"]

def attachingRuns : Unicode.Runs :=
  Unicode.runsOfProperty "Grapheme_Extend"

/-- Whether a character does not show on its own. The space shows, and so do the
    sound marks of half-width katakana. -/
def isHidden (c : Char) : Bool :=
  let n := c.toNat
  !(n == 0x20 || n == 0xff9e || n == 0xff9f || Unicode.recentShown.contains n) &&
    (shapelessRuns.contains n || attachingRuns.contains n)

def hexDigits (n : Nat) : List Char :=
  Nat.toDigits 16 n

def quotedChar (c : Char) : List Char :=
  if c = '\x00' then ['\\', '0']
  else if c = '\t' then ['\\', 't']
  else if c = '\r' then ['\\', 'r']
  else if c = '\n' then ['\\', 'n']
  else if c = '\\' || c = '"' then ['\\', c]
  else if isHidden c then
    ['\\', 'u', '\x7b'] ++ hexDigits c.toNat ++ ['\x7d']
  else [c]

def quoted (text : String) : String :=
  String.ofList ('"' :: text.toList.flatMap quotedChar ++ ['"'])

end Routing.Text
