/-
  Routing/Proofs/NormalForm.lean
  ==============================
  **The normal form of a path depends on its pieces alone.**  A canonical path is kept as
  it is and any other is rebuilt from its pieces; both ways give the path of the pieces,
  because a canonical path is made from its pieces. So the test for the canonical form and
  the rebuilding describe the same paths, and whatever looks at the normal form only, as
  patterns and tables do, cannot tell paths with the same pieces apart.
-/
import Routing.Proofs.Building
import Routing.Proofs.FirstMatch

namespace Routing.Path

open Text (solidPieces splitSolid)

/-! ### The test for the canonical form -/

theorem hasDoubleSlash_iff {cs : List Char} : hasDoubleSlash cs ↔ ['/', '/'] <:+: cs := by
  induction cs with
  | nil => simp [hasDoubleSlash]
  | cons c rest ih =>
    rw [List.infix_cons_iff, ← ih]
    cases rest with
    | nil => simp [hasDoubleSlash]
    | cons d rest =>
      simp only [hasDoubleSlash, Bool.or_eq_true, Bool.and_eq_true, beq_iff_eq,
        List.cons_prefix_cons, List.nil_prefix, and_true]
      rw [eq_comm (a := c), eq_comm (a := d)]

/-- What the canonical form rules out. -/
structure Canonical (path : String) : Prop where
  rooted : ['/'] <+: path.toList
  /-- no two slashes stand next to each other -/
  single : ¬ ['/', '/'] <:+: path.toList
  /-- only `/` itself ends with a slash -/
  ending : ['/'] <:+ path.toList → path = "/"

theorem isRooted_iff {cs : List Char} : isRooted cs ↔ ['/'] <+: cs := by
  cases cs with
  | nil => simp [isRooted]
  | cons c rest => simp [isRooted, eq_comm (a := c)]

theorem getLast?_eq_slash_iff {cs : List Char} : cs.getLast? = some '/' ↔ ['/'] <:+ cs := by
  rw [List.getLast?_eq_some_iff]
  exact exists_congr fun _ => eq_comm

/-- The test for canonical paths, said without recursion. -/
theorem isCanonical_iff {path : String} : isCanonical path ↔ Canonical path := by
  have hroot : path.toList = ['/'] ↔ path = "/" := by
    rw [← String.toList_inj]
    rfl
  unfold isCanonical isCanonicalChars
  simp only [Bool.and_eq_true, Bool.not_eq_true', Bool.or_eq_true, beq_iff_eq, isRooted_iff,
    ← Bool.not_eq_true, hasDoubleSlash_iff, hroot, getLast?_eq_slash_iff]
  constructor
  · rintro ⟨⟨hrooted, hsingle⟩, hending⟩
    exact ⟨hrooted, hsingle, fun h => hending.resolve_right fun hnot => hnot h⟩
  · intro h
    refine ⟨⟨h.rooted, h.single⟩, ?_⟩
    by_cases hslash : ['/'] <:+ path.toList
    · exact .inl (h.ending hslash)
    · exact .inr hslash

/-! ### The two ways to the normal form -/

/-- The path that cutting at slashes, dropping empty pieces and joining again gives. -/
def rejoined (path : String) : String :=
  "/" ++ Text.join "/" (splitSolid '/' path)

theorem rejoined_eq (path : String) : rejoined path = String.ofList (canonical path) := by
  unfold rejoined splitSolid canonical
  rw [slash_append_join, List.map_map]
  simp [Function.comp_def]

theorem isCanonical_rejoined (path : String) : isCanonical (rejoined path) := by
  rw [rejoined_eq]
  exact isCanonical_ofPieces fun _ => Text.isPiece_of_mem_solidPieces

theorem splitSolid_rejoined (path : String) :
    splitSolid '/' (rejoined path) = splitSolid '/' path := by
  unfold splitSolid
  rw [rejoined_eq, String.toList_ofList, canonical,
    solidPieces_ofPieces fun _ => Text.isPiece_of_mem_solidPieces]

/-- **Exactly the canonical paths are kept by cutting and joining.** -/
theorem rejoined_eq_self_iff {path : String} : rejoined path = path ↔ isCanonical path := by
  constructor
  · intro h
    rw [← h]
    exact isCanonical_rejoined path
  · intro h
    rw [rejoined_eq, canonical_of_isCanonical h, String.ofList_toList]

theorem normalized?_of_isCanonical {path : String} (h : isCanonical path) :
    normalized? path = some ⟨path, true⟩ := by
  simp [normalized?, isRooted_of_isCanonical h, h]

/-- Both ways give the rejoined path, and only a canonical path is kept. -/
theorem normalized?_of_isRooted {path : String} (hrooted : isRooted path.toList) :
    normalized? path = some ⟨rejoined path, isCanonical path⟩ := by
  by_cases hcanonical : isCanonical path
  · rw [normalized?_of_isCanonical hcanonical, rejoined_eq_self_iff.mpr hcanonical, hcanonical]
  · rw [rejoined_eq, canonical]
    simp [normalized?, hrooted, hcanonical]

theorem normalized?_eq_none_iff {path : String} :
    normalized? path = none ↔ ¬ ['/'] <+: path.toList := by
  rw [← isRooted_iff]
  by_cases hrooted : isRooted path.toList
  · simp [normalized?_of_isRooted hrooted, hrooted]
  · simp [normalized?, hrooted]

/-- What normalizing makes of a path. -/
structure NormalForm (path : String) (normal : Normalized) : Prop where
  canonical : isCanonical normal.path
  pieces : splitSolid '/' normal.path = splitSolid '/' path
  /-- normalizing once more keeps it -/
  fixed : normalized? normal.path = some ⟨normal.path, true⟩
  /-- it is the path itself exactly if that is canonical -/
  same : normal.path = path ↔ isCanonical path
  /-- and then it is not rebuilt -/
  kept : normal.kept ↔ isCanonical path
  /-- rebuilding gives it in any case -/
  rejoined : rejoined path = normal.path

theorem normalForm_of_normalized? {path : String} {normal : Normalized}
    (h : normalized? path = some normal) : NormalForm path normal := by
  have hrooted : isRooted path.toList := by
    by_contra hrooted
    rw [normalized?_eq_none_iff.mpr (mt isRooted_iff.mpr hrooted)] at h
    cases h
  rw [normalized?_of_isRooted hrooted] at h
  cases h
  exact {
    canonical := isCanonical_rejoined path
    pieces := splitSolid_rejoined path
    fixed := normalized?_of_isCanonical (isCanonical_rejoined path)
    same := rejoined_eq_self_iff
    kept := Iff.rfl
    rejoined := rfl }

/-! ### Paths with the same pieces -/

/-- Paths with the same pieces have the same normal form. -/
theorem normalize_of_splitSolid {path other : String} (hpath : ['/'] <+: path.toList)
    (hother : ['/'] <+: other.toList) (hpieces : splitSolid '/' path = splitSolid '/' other) :
    normalize path = normalize other := by
  have hsame : rejoined path = rejoined other := by
    unfold rejoined
    rw [hpieces]
  unfold normalize
  rw [normalized?_of_isRooted (isRooted_iff.mpr hpath),
    normalized?_of_isRooted (isRooted_iff.mpr hother), hsame]
  rfl

end Routing.Path

namespace Routing

open Routing.Path (Canonical NormalForm isCanonical normalize normalized?)

theorem RoutePattern.match?_congr (p : RoutePattern) {path other : String}
    (h : normalize path = normalize other) : p.match? path = p.match? other := by
  unfold match?
  rw [h]

/-- A table sees of a path only its normal form. -/
theorem RouteTable.match?_congr (table : RouteTable) {path other : String}
    (h : normalize path = normalize other) : table.match? path = table.match? other := by
  unfold match?
  rw [h]

/-- **Normalizing gives the one canonical path with the same pieces.** Exactly the paths
    with a leading slash have a normal form; it is canonical and has the pieces of the path,
    normalizing keeps it, and it is the path itself exactly if that is canonical. Paths with
    the same pieces have the same normal form, and every pattern and every table answers
    them alike. -/
theorem normalized?_normalForm :
    (∀ path, isCanonical path ↔ Canonical path) ∧
      (∀ path, normalized? path = none ↔ ¬ ['/'] <+: path.toList) ∧
      (∀ path normal, normalized? path = some normal → NormalForm path normal) ∧
      ∀ path other : String, ['/'] <+: path.toList → ['/'] <+: other.toList →
        Text.splitSolid '/' path = Text.splitSolid '/' other →
          normalize path = normalize other ∧
            (∀ p : RoutePattern, p.match? path = p.match? other) ∧
            ∀ table : RouteTable, table.match? path = table.match? other := by
  refine ⟨fun _ => Path.isCanonical_iff, fun _ => Path.normalized?_eq_none_iff,
    fun _ _ => Path.normalForm_of_normalized?, ?_⟩
  intro path other hpath hother hpieces
  have hnormal := Path.normalize_of_splitSolid hpath hother hpieces
  exact ⟨hnormal, fun p => p.match?_congr hnormal, fun table => table.match?_congr hnormal⟩

/-- A path of slashes has the pieces of `/`, which is none, and a path with slashes in a row
    and at the end those of the path without them. -/
theorem normalized?_normalForm_slashes :
    NormalForm "//a///x/" ⟨"/a/x", false⟩ ∧ NormalForm "/a/x" ⟨"/a/x", true⟩ ∧
      NormalForm "///" ⟨"/", false⟩ ∧
      (∀ p : RoutePattern, p.match? "//a///x/" = p.match? "/a/x") ∧
      ∀ table : RouteTable, table.match? "///" = table.match? "/" := by
  obtain ⟨-, -, hform, hsame⟩ := normalized?_normalForm
  refine ⟨hform _ _ (by decide +kernel), hform _ _ (by decide +kernel),
    hform _ _ (by decide +kernel), ?_, ?_⟩
  · exact (hsame "//a///x/" "/a/x" (by decide +kernel) (by decide +kernel) (by decide +kernel)).2.1
  · exact (hsame "///" "/" (by decide +kernel) (by decide +kernel) (by decide +kernel)).2.2

end Routing
