/-
  Routing/Number/Notation.lean
  ============================
  **Numbers in writing.**  Parameter text is always positional and drops a zero
  fraction; interchange text keeps one fraction digit and turns to exponents for
  very large and very small numbers.
-/
import Routing.Number.Binary
import Routing.Number.Shortest

namespace Routing.Number

def digitsOf (n : Nat) : List Char :=
  Nat.toDigits 10 n

def zeros (count : Nat) : List Char :=
  List.replicate count '0'

def Decimal.positional (d : Decimal) : List Char :=
  let digits := digitsOf d.digits
  let point := digits.length + d.exponent
  if 0 ≤ d.exponent then digits ++ zeros d.exponent.toNat
  else if 0 < point then digits.take point.toNat ++ '.' :: digits.drop point.toNat
  else '0' :: '.' :: zeros (-point).toNat ++ digits

/-- A decimal with a fraction digit at least. Whole numbers below ten to the
    sixteenth and fractions with at most four zeros after the point are
    positional; the others have one digit before the point and an exponent with a
    sign. -/
def Decimal.interchange (d : Decimal) : List Char :=
  let digits := digitsOf d.digits
  let point := digits.length + d.exponent
  if 0 ≤ d.exponent ∧ point ≤ 16 then d.positional ++ ['.', '0']
  else if -5 < point ∧ point ≤ 16 then d.positional
  else
    let fraction := if digits.length = 1 then [] else '.' :: digits.drop 1
    let sign := if 0 < point then '+' else '-'
    digits.take 1 ++ fraction ++ 'e' :: sign :: digitsOf (point - 1).natAbs

def signed (negative : Bool) (cs : List Char) : String :=
  String.ofList (if negative then '-' :: cs else cs)

/-- The text of a number as a parameter: whole numbers below two to the
    sixty-third as such, all others by their shortest digits without exponent.
    Of two equally near decimals the larger is written. -/
def text (x : Float) : String :=
  let binary := Binary.ofFloat x
  match binary.whole? with
  | some n =>
    if n.natAbs < Nat.pow 2 63 then toString n
    else
      match binary with
      | .finite negative mantissa exponent =>
        signed negative (shortest .up mantissa exponent).positional
      | _ => toString n
  | none =>
    match binary with
    | .nan => "NaN"
    | .infinite negative => signed negative ['i', 'n', 'f']
    | .finite negative mantissa exponent =>
      signed negative (shortest .up mantissa exponent).positional

/-- The text of a number for interchange; there is none for NaN and the
    infinities. Of two equally near decimals the one with an even last digit is
    written. -/
def interchange? (x : Float) : Option String :=
  match Binary.ofFloat x with
  | .finite negative mantissa exponent =>
    if mantissa = 0 then some (signed negative ['0', '.', '0'])
    else some (signed negative (shortest .even mantissa exponent).interchange)
  | _ => none

end Routing.Number
