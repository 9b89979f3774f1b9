/-
  Routing/Proofs/ByteOrder.lean
  =============================
  **Texts are ordered as their bytes are.**  In UTF-8 a character is a first byte, which
  tells how many bytes follow, and its number in digits to the base 64, the highest digit
  first. A greater character has more bytes and with them a greater first byte, or as many
  and greater digits. So no character's bytes are the start of another's, and comparing
  texts byte by byte is comparing them character by character.
-/
import Routing.Proofs.PercentCodec
import Mathlib.Algebra.Group.Nat.Defs
import Mathlib.Data.List.Lex

namespace Routing.Text.Percent

/-- The bytes of a number: the first one is marked by `mark` and `count` bytes follow it. -/
def spread (mark : Nat) : Nat → Nat → List UInt8
  | 0, n => [UInt8.ofNat (n + mark)]
  | count + 1, n => spread mark count (n / 64) ++ [UInt8.ofNat (n % 64 + 128)]

theorem byte_cons_lt {a b : Nat} (hlt : a < b) (hb : b < 256) (left right : List UInt8) :
    UInt8.ofNat a :: left < UInt8.ofNat b :: right := by
  refine List.cons_lt_cons_iff.mpr (.inl ?_)
  rw [UInt8.lt_iff_toNat_lt, UInt8.toNat_ofNat', UInt8.toNat_ofNat']
  omega

/-- **A greater number has greater bytes**, whatever follows them. The induction is on the
    bytes after the first: without the last of them, they are those of the number without
    its last digit. -/
theorem spread_lt {mark count m n : Nat} (hlt : m < n) (hn : n / 64 ^ count + mark < 256)
    (left right : List UInt8) :
    spread mark count m ++ left < spread mark count n ++ right := by
  induction count generalizing m n left right with
  | zero => exact byte_cons_lt (by omega) (by simpa using hn) left right
  | succ count ih =>
    rw [spread, spread, List.append_assoc, List.append_assoc]
    have hnext : n / 64 / 64 ^ count + mark < 256 := by
      rw [Nat.div_div_eq_div_mul, ← Nat.pow_succ']
      exact hn
    rcases Nat.lt_or_eq_of_le (Nat.div_le_div_right hlt.le : m / 64 ≤ n / 64) with hdiv | hdiv
    · exact ih hdiv hnext _ _
    · rw [hdiv]
      exact List.append_left_lt (byte_cons_lt (by omega) (by omega) left right)

theorem exists_spread_eq (mark count n : Nat) :
    ∃ tail, spread mark count n = UInt8.ofNat (n / 64 ^ count + mark) :: tail := by
  induction count generalizing n with
  | zero => exact ⟨[], by simp [spread]⟩
  | succ count ih =>
    obtain ⟨tail, htail⟩ := ih (n / 64)
    rw [Nat.div_div_eq_div_mul, ← Nat.pow_succ'] at htail
    exact ⟨tail ++ [UInt8.ofNat (n % 64 + 128)], by rw [spread, htail, List.cons_append]⟩

/-- The first bytes decide where they differ. -/
theorem spread_lt_of_first {mark mark' count count' m n : Nat}
    (hlt : m / 64 ^ count + mark < n / 64 ^ count' + mark') (hn : n / 64 ^ count' + mark' < 256)
    (left right : List UInt8) :
    spread mark count m ++ left < spread mark' count' n ++ right := by
  obtain ⟨tail, htail⟩ := exists_spread_eq mark count m
  obtain ⟨tail', htail'⟩ := exists_spread_eq mark' count' n
  rw [htail, htail', List.cons_append, List.cons_append]
  exact byte_cons_lt hlt hn _ _

theorem toNat_lt (c : Char) : c.toNat < 0x110000 := by
  have hvalid : c.toNat.isValidChar := c.valid
  rcases hvalid with h | h <;> omega

theorem utf8EncodeChar_eq (c : Char) :
    String.utf8EncodeChar c =
      if c.toNat ≤ 0x7f then spread 0 0 c.toNat
      else if c.toNat ≤ 0x7ff then spread 192 1 c.toNat
      else if c.toNat ≤ 0xffff then spread 224 2 c.toNat
      else spread 240 3 c.toNat := by
  have hbound := toNat_lt c
  have hval : c.val.toNat = c.toNat := rfl
  simp only [String.utf8EncodeChar, hval, spread, Nat.div_div_eq_div_mul, Nat.reduceMul,
    List.cons_append, List.nil_append, Nat.add_zero]
  -- the number has no more digits than are written, so the first byte has all that is left
  split_ifs
  · rfl
  all_goals rw [Nat.mod_eq_of_lt (by omega)]

/-- **A greater character has greater bytes**, whatever follows them. -/
theorem utf8EncodeChar_lt {c d : Char} (h : c < d) (left right : List UInt8) :
    String.utf8EncodeChar c ++ left < String.utf8EncodeChar d ++ right := by
  have hlt : c.toNat < d.toNat := h
  have hbound := toNat_lt d
  rw [utf8EncodeChar_eq, utf8EncodeChar_eq]
  split_ifs
  -- with as many bytes the digits decide, and with more bytes the first byte
  any_goals omega
  any_goals exact spread_lt hlt (by omega) left right
  all_goals exact spread_lt_of_first (by omega) (by omega) left right

/-- No code of a character starts another one, so the first character that differs decides. -/
theorem flatMap_utf8EncodeChar_lt {cs ds : List Char} (h : cs < ds) :
    cs.flatMap String.utf8EncodeChar < ds.flatMap String.utf8EncodeChar := by
  induction cs generalizing ds with
  | nil =>
    cases ds with
    | nil => exact absurd h (List.lt_irrefl _)
    | cons d ds =>
      cases hbytes : (d :: ds).flatMap String.utf8EncodeChar with
      | nil => simp [String.utf8EncodeChar_ne_nil] at hbytes
      | cons b bytes => exact List.nil_lt_cons b bytes
  | cons c cs ih =>
    cases ds with
    | nil => exact absurd h (List.not_lt_nil _)
    | cons d ds =>
      rw [List.flatMap_cons, List.flatMap_cons]
      rcases List.cons_lt_cons_iff.mp h with hlt | ⟨rfl, hrest⟩
      · exact utf8EncodeChar_lt hlt _ _
      · exact List.append_left_lt (ih hrest)

/-- **A greater text has greater bytes.** -/
theorem bytesOf_lt {s t : String} (h : s < t) : bytesOf s < bytesOf t := by
  have hchars : s.toList < t.toList := h
  rw [← String.ofList_toList (s := s), ← String.ofList_toList (s := t), bytesOf_ofList,
    bytesOf_ofList]
  exact flatMap_utf8EncodeChar_lt hchars

end Routing.Text.Percent
