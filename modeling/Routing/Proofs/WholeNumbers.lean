/-
  Routing/Proofs/WholeNumbers.lean
  ================================
  **Which texts the `int` constraint turns into which numbers.**  A text of decimal digits
  writes one number, and zeros in front do not change it. The constraint takes the texts of
  the numbers that fit a value and gives these very numbers; whatever writes a larger number,
  and whatever is no text of digits, is rejected. A number that it gave has a text that writes
  it again.
-/
import Routing.Proofs.NumericArguments
import Mathlib.Data.Nat.Digits.Defs

namespace Routing

/-! ### The number that digits write -/

namespace Number

/-- The digits write the number, the last of them its ones. -/
structure Writes (cs : List Char) (n : Nat) : Prop where
  digits : Digits cs
  value : n = Nat.ofDigits 10 (cs.reverse.map fun c => c.toNat - '0'.toNat)

theorem valueOfDigits_eq_ofDigits (cs : List Char) :
    valueOfDigits cs = Nat.ofDigits 10 (cs.reverse.map fun c => c.toNat - '0'.toNat) := by
  rw [Nat.ofDigits_eq_foldr, List.foldr_map, valueOfDigits, List.foldl_eq_foldr_reverse]
  have hstep : (fun c n => 10 * n + (c.toNat - 48) : Char → Nat → Nat) =
      fun c n => c.toNat - '0'.toNat + 10 * n := by
    funext c n
    exact Nat.add_comm _ _
  rw [hstep]
  rfl

/-- The rule for digits gives the number that is read from them. -/
theorem writes_iff {cs : List Char} {n : Nat} :
    Writes cs n ↔ Digits cs ∧ valueOfDigits cs = n := by
  rw [valueOfDigits_eq_ofDigits]
  constructor
  · rintro ⟨hdigits, rfl⟩
    exact ⟨hdigits, rfl⟩
  · rintro ⟨hdigits, rfl⟩
    exact ⟨hdigits, rfl⟩

theorem Writes.unique {cs : List Char} {n n' : Nat} (h : Writes cs n) (h' : Writes cs n') :
    n = n' :=
  h.value.trans h'.value.symm

/-- Zeros in front of the digits add nothing. -/
theorem valueOfDigits_zeros (zeros : Nat) (cs : List Char) :
    valueOfDigits (List.replicate zeros '0' ++ cs) = valueOfDigits cs := by
  induction zeros with
  | zero => rfl
  | succ zeros ih =>
    rw [List.replicate_succ, List.cons_append]
    exact ih

theorem digits_zeros_iff {zeros : Nat} {cs : List Char} (hcs : cs ≠ []) :
    Digits (List.replicate zeros '0' ++ cs) ↔ Digits cs := by
  have hzero : ∀ c ∈ List.replicate zeros '0', c.isDigit := by
    intro c hc
    rw [List.eq_of_mem_replicate hc]
    decide
  simp only [Digits, List.forall_mem_append, ne_eq, List.append_eq_nil_iff, hcs, and_false,
    not_false_eq_true, true_and]
  exact and_iff_right hzero

theorem writes_toDigits (n : Nat) : Writes (Nat.toDigits 10 n) n := by
  refine writes_iff.mpr ⟨⟨Nat.toDigits_ne_nil, ?_⟩, ?_⟩
  · intro c hc
    exact Nat.isDigit_of_mem_toDigits (by decide) (by decide) hc
  · exact Nat.ofDigitChars_toDigits (by decide) (by decide)

end Number

open Number (Digits Writes)

/-- The text of a number that is not negative writes it. -/
theorem Value.writes_toText {n : Int64} {k : Nat} (h : n.toInt = k) :
    Writes (Value.int n).toText.toList k := by
  have htext : (Value.int n).toText = k.repr := by
    rw [Value.toText, h]
    rfl
  rw [htext, Nat.repr_eq_ofList_toDigits, String.toList_ofList]
  exact Number.writes_toDigits k

/-! ### The constraint -/

namespace Builtin

theorem intOfText?_eq_some_iff {text : String} {n : Int64} : intOfText? text = some n ↔
    Number.valueOfDigits text.toList < 2 ^ 63 ∧ n.toInt = Number.valueOfDigits text.toList := by
  unfold intOfText?
  constructor
  · intro h
    obtain ⟨hlt, heq⟩ := Option.ite_none_right_eq_some.mp h
    cases heq
    exact ⟨hlt, Int64.toInt_ofNat_of_lt hlt⟩
  · rintro ⟨hlt, hn⟩
    have heq : Int64.ofNat (Number.valueOfDigits text.toList) = n := by
      rw [← Int64.toInt_inj, Int64.toInt_ofNat_of_lt hlt, hn]
    exact (if_pos hlt).trans (congrArg some heq)

/-- **The constraint gives the number that a text writes, if it fits.** -/
theorem int_apply_eq_some_iff {v w : Value} : int.apply v = some w ↔
    ∃ (k : Nat) (n : Int64), Writes v.toText.toList k ∧ k < 2 ^ 63 ∧ n.toInt = k ∧ w = .int n := by
  change (if isDigits v.toText.toList then (intOfText? v.toText).map Value.int else none) =
    some w ↔ _
  simp only [Option.ite_none_right_eq_some, Option.map_eq_some_iff, intOfText?_eq_some_iff,
    Number.isDigits_iff, Number.writes_iff]
  constructor
  · rintro ⟨hdigits, n, ⟨hlt, hn⟩, rfl⟩
    exact ⟨_, n, ⟨hdigits, rfl⟩, hlt, hn, rfl⟩
  · rintro ⟨_, n, ⟨hdigits, rfl⟩, hlt, hn, rfl⟩
    exact ⟨hdigits, n, ⟨hlt, hn⟩, rfl⟩

theorem int_apply_eq_none_iff {v : Value} :
    int.apply v = none ↔ ∀ k, Writes v.toText.toList k → ¬ k < 2 ^ 63 := by
  rw [Option.eq_none_iff_forall_ne_some]
  constructor
  · intro h k hk hlt
    exact h _ (int_apply_eq_some_iff.mpr ⟨k, _, hk, hlt, Int64.toInt_ofNat_of_lt hlt, rfl⟩)
  · intro h w hw
    obtain ⟨k, n, hk, hlt, -, -⟩ := int_apply_eq_some_iff.mp hw
    exact h k hk hlt

/-- A number that is not negative passes and stays what it is. -/
theorem int_apply_int {n : Int64} (h : 0 ≤ n.toInt) : int.apply (.int n) = some (.int n) := by
  obtain ⟨k, hk⟩ := Int.eq_ofNat_of_zero_le h
  have hlt := n.toInt_lt
  exact int_apply_eq_some_iff.mpr ⟨k, n, Value.writes_toText hk, by omega, hk, rfl⟩

/-- Two values with the same text fare alike. -/
theorem int_apply_congr {v w : Value} (h : v.toText = w.toText) : int.apply v = int.apply w := by
  unfold Constraint.apply int
  simp only [h]

theorem int_apply_zeros (zeros : Nat) {text : String} (htext : text ≠ "") :
    int.apply (.text (String.ofList (List.replicate zeros '0') ++ text)) =
      int.apply (.text text) := by
  have hcs : text.toList ≠ [] := by simpa [String.toList_eq_nil_iff] using htext
  have hwrites (k : Nat) :
      Writes (String.ofList (List.replicate zeros '0') ++ text).toList k ↔ Writes text.toList k := by
    rw [String.toList_append, String.toList_ofList, Number.writes_iff, Number.writes_iff,
      Number.digits_zeros_iff hcs, Number.valueOfDigits_zeros]
  ext w
  simp only [int_apply_eq_some_iff, Value.toText, hwrites]

/-- **The `int` constraint is exact.**  It gives a number exactly if the text of the value
    writes that number in decimal digits and the number is at most `2 ^ 63 - 1`, and nothing
    otherwise; zeros in front of a text are as good as none. What it gives is a number that is
    not negative, which passes again unchanged, by itself and by its text. -/
theorem int_apply_exact (v : Value) :
    (∀ n : Int64, int.apply v = some (.int n) ↔
      ∃ k : Nat, Writes v.toText.toList k ∧ k ≤ 2 ^ 63 - 1 ∧ n.toInt = k) ∧
    (int.apply v = none ↔ ¬ ∃ k : Nat, Writes v.toText.toList k ∧ k ≤ 2 ^ 63 - 1) ∧
    (∀ (zeros : Nat) (text : String), text ≠ "" →
      int.apply (.text (String.ofList (List.replicate zeros '0') ++ text)) =
        int.apply (.text text)) ∧
    (∀ w, int.apply v = some w →
      (∃ n, w = .int n ∧ 0 ≤ n.toInt) ∧ int.apply w = some w) ∧
    ∀ n : Int64, 0 ≤ n.toInt → int.apply (.int n) = some (.int n) ∧
      int.apply (.text (Value.int n).toText) = some (.int n) := by
  have hle {k : Nat} : k ≤ 2 ^ 63 - 1 ↔ k < 2 ^ 63 := by omega
  refine ⟨?_, ?_, fun zeros text => int_apply_zeros zeros, ?_, ?_⟩
  · intro n
    rw [int_apply_eq_some_iff]
    constructor
    · rintro ⟨k, n', hk, hlt, hn, heq⟩
      cases heq
      exact ⟨k, hk, hle.mpr hlt, hn⟩
    · rintro ⟨k, hk, hmax, hn⟩
      exact ⟨k, n, hk, hle.mp hmax, hn, rfl⟩
  · rw [int_apply_eq_none_iff]
    simp only [not_exists, not_and, hle]
  · intro w hw
    obtain ⟨k, n, -, -, hn, rfl⟩ := int_apply_eq_some_iff.mp hw
    have hnonneg : 0 ≤ n.toInt := hn ▸ Int.natCast_nonneg k
    exact ⟨⟨n, rfl, hnonneg⟩, int_apply_int hnonneg⟩
  · intro n hn
    have hself := int_apply_int hn
    have htext : (Value.text (Value.int n).toText).toText = (Value.int n).toText := rfl
    exact ⟨hself, (int_apply_congr htext).trans hself⟩

/-- The largest number passes with zeros in front, and the next one does not pass. -/
theorem int_apply_exact_largest :
    let largest : Value := .int Int64.maxValue
    int.apply (.text "0009223372036854775807") = some largest ∧
      int.apply (.text "9223372036854775807") = some largest ∧
      int.apply largest = some largest ∧ int.apply (.text largest.toText) = some largest ∧
      int.apply (.text "9223372036854775808") = none := by
  intro largest
  have hwrites : Writes "0009223372036854775807".toList (2 ^ 63 - 1) :=
    Number.writes_iff.mpr ⟨Number.isDigits_iff.mp rfl, rfl⟩
  have htooLarge : Writes "9223372036854775808".toList (2 ^ 63) :=
    Number.writes_iff.mpr ⟨Number.isDigits_iff.mp rfl, rfl⟩
  obtain ⟨hgives, -, hzeros, hagain, hself⟩ := int_apply_exact (.text "0009223372036854775807")
  obtain ⟨-, hnone, -⟩ := int_apply_exact (.text "9223372036854775808")
  have hlargest : int.apply (.text "0009223372036854775807") = some largest :=
    (hgives _).mpr ⟨_, hwrites, le_rfl, rfl⟩
  have hplain := hzeros 3 "9223372036854775807" (by decide)
  refine ⟨hlargest, hplain.symm.trans hlargest, (hagain _ hlargest).2,
    (hself Int64.maxValue (by decide)).2, hnone.mpr ?_⟩
  rintro ⟨k, hk, hmax⟩
  rw [hk.unique htooLarge] at hmax
  omega

end Builtin

end Routing
