/-
  Routing/Proofs/LetterCase.lean
  ==============================
  **Which texts count as letters and as truth values.**  The constraints `alpha` and `bool`
  fold the case of a text as Unicode does it, and two characters outside of ASCII fold to an
  ASCII letter: the long s and the Kelvin sign. So `alpha` accepts these two as letters, and
  `bool` accepts a `false` with a long s in it. `alpha_bool_apply` says that this is all that
  they accept besides the ASCII words.
-/
import Routing.Constraint.Builtin
import Mathlib.Data.List.Sections

namespace Routing.Unicode

/-! ### What folds to an ASCII letter -/

/-- The characters outside of ASCII that fold to an ASCII letter, each with that letter: the
    long s and the Kelvin sign. -/
def strays : List (Char × Char) :=
  [('\u017f', 's'), ('\u212a', 'k')]

/-- What a small letter is written as, where capital letters count as small ones. -/
def spellings (letter : Char) : List Char :=
  letter :: (strays.filter fun stray => stray.2 = letter).map Prod.fst

theorem mem_spellings {c letter : Char} :
    c ∈ spellings letter ↔ c = letter ∨ (c, letter) ∈ strays := by
  simp [spellings]

theorem foldCase_stray : ∀ stray ∈ strays, foldCase stray.1 = stray.2 := by
  decide

def capitals : FoldRun := ⟨65, 26, 1, 97⟩

/-- The runs of the folding that lead to ASCII letters hold the capital letters and the
    strays. -/
theorem foldRuns_target : ∀ run ∈ foldRuns,
    run ∈ [capitals, ⟨0x17f, 1, 1, 115⟩, ⟨0x212a, 1, 1, 107⟩] ∨ 122 < run.target := by
  decide +kernel

/-- What holds of the first 128 characters holds of all of ASCII. -/
theorem forall_ascii {P : Char → Prop} (h : ∀ n < 128, P (Char.ofNat n)) {c : Char}
    (hc : c.toNat < 128) : P c := by
  have hchar := h c.toNat hc
  rwa [Char.ofNat_toNat] at hchar

/-- Past its first run the folding table has no ASCII characters. -/
theorem foldRuns_tail : ∀ run ∈ foldRuns.tail, 128 ≤ run.first := by
  decide +kernel

/-- Folding knows one run of ASCII characters, the capital letters. -/
theorem foldCase_of_ascii {c : Char} (hc : c.toNat < 128) : foldCase c = c.toLower := by
  have htail : foldRuns.tail.findSome? (·.image? c.toNat) = none := by
    rw [List.findSome?_eq_none_iff]
    intro run hrun
    have hfirst := foldRuns_tail run hrun
    exact if_neg (by omega)
  have hfold : foldCase c = (capitals.image? c.toNat).elim c Char.ofNat := by
    have hruns : foldRuns = capitals :: foldRuns.tail := rfl
    rw [foldCase, hruns, List.findSome?_cons, htail]
    cases capitals.image? c.toNat <;> rfl
  rw [hfold]
  apply forall_ascii (P := fun c => (capitals.image? c.toNat).elim c Char.ofNat = c.toLower) _ hc
  decide

theorem isLower_iff {c : Char} : c.isLower ↔ 97 ≤ c.toNat ∧ c.toNat ≤ 122 := by
  constructor
  · intro h
    obtain ⟨hlow, hhigh⟩ := Bool.and_eq_true_iff.mp h
    exact ⟨of_decide_eq_true hlow, of_decide_eq_true hhigh⟩
  · rintro ⟨hlow, hhigh⟩
    exact Bool.and_eq_true_iff.mpr ⟨decide_eq_true hlow, decide_eq_true hhigh⟩

theorem toLower_of_not_ascii {c : Char} (hc : 128 ≤ c.toNat) : c.toLower = c := by
  apply dif_neg
  rintro ⟨-, hle⟩
  have hupper : c.toNat ≤ 90 := hle
  omega

theorem ascii_of_isAlpha {c : Char} (h : c.isAlpha) : c.toNat < 128 := by
  rcases Bool.or_eq_true_iff.mp h with hupper | hlower
  · have hle : c.toNat ≤ 90 := (of_decide_eq_true hupper).2
    omega
  · have hle := (isLower_iff.mp hlower).2
    omega

/-- A number that belongs to no character gives the character with number zero, so nothing
    behind the small letters gives one of them. -/
theorem not_isLower_ofNat {n : Nat} (hn : 122 < n) : ¬ (Char.ofNat n).isLower := by
  by_cases hvalid : n.isValidChar
  · have hchar : Char.ofNat n = Char.ofNatAux n hvalid := dif_pos hvalid
    have hnumber : (Char.ofNatAux n hvalid).toNat = n := rfl
    rw [hchar, isLower_iff, hnumber]
    omega
  · have hchar : Char.ofNat n = '\x00' := dif_neg hvalid
    rw [hchar]
    decide

/-- **Outside of ASCII, only the strays fold to a small ASCII letter.** -/
theorem mem_strays_of_isLower_foldCase {c : Char} (hc : 128 ≤ c.toNat)
    (hlower : (foldCase c).isLower) : (c, foldCase c) ∈ strays := by
  cases himage : foldRuns.findSome? (·.image? c.toNat) with
  | none =>
    have hsame : foldCase c = c := by simp only [foldCase, himage]
    rw [hsame, isLower_iff] at hlower
    omega
  | some n =>
    have hfold : foldCase c = Char.ofNat n := by simp only [foldCase, himage]
    obtain ⟨run, hmem, hrun⟩ := List.exists_of_findSome?_eq_some himage
    obtain ⟨⟨hfirst, -, hcount⟩, hn⟩ := Option.ite_none_right_eq_some.mp hrun
    have hn := Option.some.inj hn
    -- only the first runs of the table lead to small ASCII letters
    rcases foldRuns_target run hmem with hruns | htarget
    · simp only [List.mem_cons, List.not_mem_nil, or_false] at hruns
      rcases hruns with rfl | rfl | rfl
      · simp only [capitals, Nat.div_one] at hcount
        omega
      · have hlong : c = '\u017f' := Char.toNat_inj.mp (by simp at hcount hfirst ⊢; omega)
        subst hlong
        decide
      · have hkelvin : c = '\u212a' := Char.toNat_inj.mp (by simp at hcount hfirst ⊢; omega)
        subst hkelvin
        decide
    · rw [hfold] at hlower
      exact absurd hlower (not_isLower_ofNat (by omega))

theorem not_ascii_of_mem_strays {stray : Char × Char} (h : stray ∈ strays) :
    128 ≤ stray.1.toNat ∧ stray.2.isLower := by
  revert stray
  decide

/-- **What folds to a small ASCII letter** is that letter in either case, or one of its
    strays. -/
theorem foldCase_eq_iff {c letter : Char} (hletter : letter.isLower) :
    foldCase c = letter ↔ c.toLower ∈ spellings letter := by
  rw [mem_spellings]
  by_cases hc : c.toNat < 128
  · -- in ASCII folding is lowering, and no stray stands there
    have hascii : c.toLower.toNat < 128 := by
      apply forall_ascii (P := fun c => c.toLower.toNat < 128) _ hc
      decide
    rw [foldCase_of_ascii hc]
    constructor
    · exact .inl
    · rintro (heq | hstray)
      · exact heq
      · exact absurd (not_ascii_of_mem_strays hstray).1 (Nat.not_le.mpr hascii)
  · have hc : 128 ≤ c.toNat := Nat.not_lt.mp hc
    rw [toLower_of_not_ascii hc]
    constructor
    · intro hfold
      subst hfold
      exact .inr (mem_strays_of_isLower_foldCase hc hletter)
    · rintro (heq | hstray)
      · rw [heq] at hc
        have hbound := (isLower_iff.mp hletter).2
        omega
      · exact foldCase_stray (c, letter) hstray

/-- The letters are those of ASCII, and the strays. -/
theorem isLower_foldCase {c : Char} :
    (foldCase c).isLower ↔ c.isAlpha ∨ c ∈ strays.map Prod.fst := by
  by_cases hc : c.toNat < 128
  · rw [foldCase_of_ascii hc]
    apply forall_ascii (P := fun c => c.toLower.isLower ↔ c.isAlpha ∨ c ∈ strays.map Prod.fst) _ hc
    decide
  · have hc : 128 ≤ c.toNat := Nat.not_lt.mp hc
    constructor
    · intro hlower
      exact .inr (List.mem_map_of_mem (mem_strays_of_isLower_foldCase hc hlower))
    · rintro (halpha | hstray)
      · exact absurd (ascii_of_isAlpha halpha) (Nat.not_lt.mpr hc)
      · obtain ⟨stray, hmem, rfl⟩ := List.mem_map.mp hstray
        rw [foldCase_stray stray hmem]
        exact (not_ascii_of_mem_strays hmem).2

end Routing.Unicode

namespace Routing.Builtin

open Unicode

/-! ### Words -/

/-- Folding a text gives a word exactly if the text in small letters is one of the word's
    spellings. -/
theorem foldedText_eq_iff {cs word : List Char} (hword : word.all Char.isLower) :
    foldedText cs = word ↔ cs.map Char.toLower ∈ (word.map spellings).sections := by
  rw [List.mem_sections]
  induction cs generalizing word with
  | nil => simp [foldedText, List.forall₂_map_right_iff, eq_comm]
  | cons c cs ih =>
    rcases word with _ | ⟨letter, word⟩
    · simp [foldedText]
    · rw [List.all_cons, Bool.and_eq_true] at hword
      simp only [foldedText, List.map_cons, List.cons.injEq, List.forall₂_cons] at ih ⊢
      rw [foldCase_eq_iff hword.1, ih hword.2]

theorem isBoolText_iff {text : String} :
    isBoolText text ↔ equalsIgnoringAsciiCase text "true" ∨
      equalsIgnoringAsciiCase text "false" ∨ equalsIgnoringAsciiCase text "fal\u017fe" := by
  have htrue : foldedText text.toList = "true".toList ↔ _ := foldedText_eq_iff (by decide)
  have hfalse : foldedText text.toList = "false".toList ↔ _ := foldedText_eq_iff (by decide)
  rw [show ("true".toList.map spellings).sections = ["true".toList] by decide] at htrue
  rw [show ("false".toList.map spellings).sections = ["false".toList, "fal\u017fe".toList]
    by decide] at hfalse
  simp only [isBoolText, equalsIgnoringAsciiCase, Bool.or_eq_true, beq_iff_eq]
  rw [htrue, hfalse, List.mem_singleton, List.mem_pair]
  rfl

theorem bool_apply (v : Value) :
    bool.apply v = if isBoolText v.toText
      then some (.bool (equalsIgnoringAsciiCase v.toText "true")) else none := rfl

/-- A text is one of two different words at most. -/
theorem toLower_eq_of_equals {text word other : String} (h : equalsIgnoringAsciiCase text word)
    (hother : equalsIgnoringAsciiCase text other) :
    word.toList.map Char.toLower = other.toList.map Char.toLower := by
  rw [equalsIgnoringAsciiCase, beq_iff_eq] at h hother
  rw [← h, hother]

/-! ### Letters -/

/-- The text has characters, and all of them are ASCII letters or strays. -/
def OfLetters (text : String) : Prop :=
  text ≠ "" ∧ ∀ c ∈ text.toList, c.isAlpha ∨ c ∈ strays.map Prod.fst

/-- Under folding, strays are letters too. -/
theorem isLetters_iff {text : String} : isLetters text.toList ↔ OfLetters text := by
  have hletter (c : Char) : (decide ('a' ≤ c) && decide (c ≤ 'z')) = c.isLower := rfl
  simp only [isLetters, OfLetters, hletter, Bool.and_eq_true, Bool.not_eq_true',
    List.isEmpty_eq_false_iff, List.all_eq_true, foldedText, List.forall_mem_map,
    isLower_foldCase, ne_eq, String.toList_eq_nil_iff]

theorem alpha_apply (v : Value) :
    alpha.apply v = if isLetters v.toText.toList then some v else none := rfl

/-- **Case in `alpha` and `bool`.** The constraint `alpha` accepts, unchanged, the values whose
    text consists of ASCII letters and strays; `bool` makes `true` of the texts that are this
    word up to ASCII case, and `false` of those that are `false` up to ASCII case, where the
    long s is let through as well. They reject all other values. -/
theorem alpha_bool_apply (v : Value) :
    (alpha.apply v = some v ↔ OfLetters v.toText) ∧
    (alpha.apply v = none ↔ ¬ OfLetters v.toText) ∧
    (bool.apply v = some (.bool true) ↔ equalsIgnoringAsciiCase v.toText "true") ∧
    (bool.apply v = some (.bool false) ↔ equalsIgnoringAsciiCase v.toText "false" ∨
      equalsIgnoringAsciiCase v.toText "fal\u017fe") ∧
    (bool.apply v = none ↔ ∀ word ∈ ["true", "false", "fal\u017fe"],
      ¬ equalsIgnoringAsciiCase v.toText word) := by
  rw [alpha_apply, bool_apply]
  refine ⟨?_, ?_, ?_, ?_, ?_⟩
  · simp only [Option.ite_none_right_eq_some, and_true, isLetters_iff]
  · rw [ite_eq_right_iff, ← isLetters_iff]
    simp
  · simp only [Option.ite_none_right_eq_some, Option.some.injEq, Value.bool.injEq, isBoolText_iff]
    exact and_iff_right_of_imp .inl
  · simp only [Option.ite_none_right_eq_some, Option.some.injEq, Value.bool.injEq, isBoolText_iff]
    constructor
    · rintro ⟨htrue | hfalse, hother⟩
      · rw [htrue] at hother
        exact absurd hother (by decide)
      · exact hfalse
    · intro hfalse
      refine ⟨.inr hfalse, Bool.eq_false_iff.mpr fun htrue => ?_⟩
      rcases hfalse with hfalse | hfalse <;>
        exact absurd (toLower_eq_of_equals htrue hfalse) (by decide)
  · rw [ite_eq_right_iff]
    simp [isBoolText_iff]

/-- **The ASCII words are not all**: the long s alone passes for a letter, and the word with
    it for `false`. -/
theorem not_forall_ascii_words :
    (¬ ∀ v : Value, (alpha.apply v).isSome ↔
      v.toText ≠ "" ∧ ∀ c ∈ v.toText.toList, c.isAlpha) ∧
    ¬ ∀ v : Value, (bool.apply v).isSome ↔
      equalsIgnoringAsciiCase v.toText "true" ∨ equalsIgnoringAsciiCase v.toText "false" := by
  constructor
  · intro h
    have haccepted : (alpha.apply (.text "\u017f")).isSome := by decide +kernel
    have hletter := ((h (.text "\u017f")).mp haccepted).2 '\u017f' (by decide)
    exact absurd hletter (by decide)
  · intro h
    have haccepted : (bool.apply (.text "fal\u017fe")).isSome := by decide +kernel
    exact absurd ((h (.text "fal\u017fe")).mp haccepted) (by decide)

end Routing.Builtin
