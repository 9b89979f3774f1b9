/-
  Routing/Text/Percent.lean
  =========================
  **Percent encoding of path pieces and query texts.**  Encoding leaves letters,
  digits and `-` `_` `.` `~` alone and writes every other byte as `%` and two
  upper-case hexadecimal digits. Decoding reads such escapes, leaves a `%` that
  starts none as it is, and fails when the bytes are no UTF-8.
-/

namespace Routing.Text.Percent

def isUnreserved (b : UInt8) : Bool :=
  (0x41 ≤ b && b ≤ 0x5a) || (0x61 ≤ b && b ≤ 0x7a) || (0x30 ≤ b && b ≤ 0x39) ||
    b == 0x2d || b == 0x5f || b == 0x2e || b == 0x7e

def hexDigit (n : UInt8) : UInt8 :=
  if n < 10 then 0x30 + n else 0x37 + n

def hexValue? (b : UInt8) : Option UInt8 :=
  if 0x30 ≤ b && b ≤ 0x39 then some (b - 0x30)
  else if 0x41 ≤ b && b ≤ 0x46 then some (b - 0x37)
  else if 0x61 ≤ b && b ≤ 0x66 then some (b - 0x57)
  else none

def encodeByte (b : UInt8) : List UInt8 :=
  if isUnreserved b then [b] else [0x25, hexDigit (b / 16), hexDigit (b % 16)]

def decodeBytes : List UInt8 → List UInt8
  | [] => []
  | [b] => [b]
  | [b, c] => [b, c]
  | b :: high :: low :: rest =>
    if b = 0x25 then
      match hexValue? high, hexValue? low with
      | some h, some l => (h * 16 + l) :: decodeBytes rest
      | _, _ => b :: decodeBytes (high :: low :: rest)
    else b :: decodeBytes (high :: low :: rest)

def bytesOf (text : String) : List UInt8 :=
  text.toByteArray.data.toList

def encode (text : String) : String :=
  String.ofList (((bytesOf text).flatMap encodeByte).map fun b => Char.ofNat b.toNat)

/-- `text` with its escapes read, or nothing when the bytes are no UTF-8. -/
def decode? (text : String) : Option String :=
  String.fromUTF8? ⟨(decodeBytes (bytesOf text)).toArray⟩

/-- `text` with its escapes read where that gives a text, and as it is otherwise. -/
def decode (text : String) : String :=
  (decode? text).getD text

end Routing.Text.Percent
