/-
  Routing/Proofs/CanonicalPath.lean
  =================================
  **A canonical path is its pieces with a slash before each.**  Normalizing keeps
  the pieces of a path, and the normal form is canonical; a canonical path is its
  own normal form. Everything about pieces follows from one equation: a text is
  cut at a slash into the pieces before it and the pieces after it.
-/
import Routing.Path
import Mathlib.Data.List.Basic

namespace Routing.Text

/-! ### Pieces between separators -/

theorem pieces_eq_splitOn (sep : Char) (cs : List Char) : pieces sep cs = cs.splitOn sep := by
  induction cs with
  | nil => rfl
  | cons c cs ih =>
    rw [pieces, List.splitOn_cons_eq_if_modifyHead, ih]
    by_cases h : c = sep
    · simp [h]
    · simp only [h, if_false, beq_iff_eq]
      cases hsplit : cs.splitOn sep with
      | nil => exact absurd hsplit (List.splitOn_ne_nil sep cs)
      | cons piece rest => rfl

/-- **A text is cut at a separator into the pieces before and after it.** -/
theorem solidPieces_append_cons (sep : Char) (before after : List Char) :
    solidPieces sep (before ++ sep :: after) = solidPieces sep before ++ solidPieces sep after := by
  simp only [solidPieces, pieces_eq_splitOn, List.splitOn_append_cons_self, List.filter_append]

theorem solidPieces_cons (sep : Char) (cs : List Char) :
    solidPieces sep (sep :: cs) = solidPieces sep cs :=
  solidPieces_append_cons sep [] cs

/-- A text that a path can have between two slashes. -/
def IsPiece (text : List Char) : Prop :=
  text ≠ [] ∧ '/' ∉ text

theorem solidPieces_of_not_mem {sep : Char} {text : List Char} (hne : text ≠ [])
    (hsep : sep ∉ text) : solidPieces sep text = [text] := by
  rw [solidPieces, pieces_eq_splitOn, List.splitOn_eq_singleton hsep]
  simp [hne]

theorem not_mem_of_mem_pieces {sep : Char} {piece cs : List Char} (h : piece ∈ pieces sep cs) :
    sep ∉ piece := by
  induction cs generalizing piece with
  | nil =>
    rw [pieces, List.mem_singleton] at h
    simp [h]
  | cons c cs ih =>
    rw [pieces] at h
    split at h
    · rcases List.mem_cons.mp h with rfl | h
      · simp
      · exact ih h
    · next hc =>
      split at h
      · next hpieces => exact absurd hpieces (pieces_ne_nil sep cs)
      · next first rest hpieces =>
        rcases List.mem_cons.mp h with rfl | h
        · rw [List.mem_cons, not_or]
          exact ⟨fun heq => hc heq.symm, ih (hpieces ▸ List.mem_cons_self)⟩
        · exact ih (hpieces ▸ List.mem_cons_of_mem _ h)

/-- Cutting at slashes and dropping what is empty leaves pieces. -/
theorem isPiece_of_mem_solidPieces {piece cs : List Char} (h : piece ∈ solidPieces '/' cs) :
    IsPiece piece := by
  obtain ⟨hmem, hne⟩ := List.mem_filter.mp h
  exact ⟨by simpa using hne, not_mem_of_mem_pieces hmem⟩

theorem mem_joined (sep : List Char) {piece : List Char} {texts : List (List Char)}
    (h : piece ∈ texts) {c : Char} (hc : c ∈ piece) : c ∈ joined sep texts := by
  induction texts with
  | nil => cases h
  | cons first rest ih =>
    cases rest with
    | nil =>
      rw [List.mem_singleton] at h
      exact h ▸ hc
    | cons next rest =>
      rw [joined, List.mem_append, List.mem_append]
      rcases List.mem_cons.mp h with rfl | h
      · exact .inl (.inl hc)
      · exact .inr (ih h)

/-- The pieces of a text have characters of the text. -/
theorem mem_of_mem_solidPieces {sep c : Char} {piece cs : List Char}
    (h : piece ∈ solidPieces sep cs) (hc : c ∈ piece) : c ∈ cs := by
  have hmem := mem_joined [sep] (List.mem_filter.mp h).1 hc
  rwa [joined_pieces] at hmem

theorem solidPieces_joined (sep : Char) (texts : List (List Char)) :
    solidPieces sep (joined [sep] texts) = texts.flatMap (solidPieces sep) := by
  induction texts with
  | nil => rfl
  | cons text rest ih =>
    cases rest with
    | nil => simp [joined]
    | cons next rest =>
      rw [joined, List.append_assoc, List.singleton_append, solidPieces_append_cons, ih]
      rfl

/-- A text without separators stands at the start of the first piece. -/
theorem pieces_append {sep : Char} {front cs first : List Char} {rest : List (List Char)}
    (hfront : sep ∉ front) (h : pieces sep cs = first :: rest) :
    pieces sep (front ++ cs) = (front ++ first) :: rest := by
  induction front with
  | nil => exact h
  | cons c front ih =>
    rw [List.mem_cons, not_or] at hfront
    rw [List.cons_append, pieces, if_neg (Ne.symm hfront.1), ih hfront.2]
    rfl

/-- A text has a piece if it has a character that is no separator. -/
theorem solidPieces_ne_nil_iff {sep : Char} {cs : List Char} :
    solidPieces sep cs ≠ [] ↔ ∃ c ∈ cs, c ≠ sep := by
  induction cs with
  | nil => simp [solidPieces, pieces]
  | cons c cs ih =>
    by_cases hc : c = sep
    · subst hc
      rw [solidPieces_cons, ih]
      simp
    · obtain ⟨first, rest, hpieces⟩ := List.exists_cons_of_ne_nil (pieces_ne_nil sep cs)
      have hfront : sep ∉ [c] := by simpa using Ne.symm hc
      have hwhole : pieces sep (c :: cs) = (c :: first) :: rest := pieces_append hfront hpieces
      have hsolid : solidPieces sep (c :: cs) ≠ [] := by
        rw [solidPieces, hwhole]
        simp
      exact iff_of_true hsolid ⟨c, List.mem_cons_self, hc⟩

end Routing.Text

namespace Routing.Path

open Routing.Text

/-! ### Paths as pieces -/

def slashed (texts : List (List Char)) : List Char :=
  texts.flatMap ('/' :: ·)

@[simp] theorem slashed_nil : slashed [] = [] := rfl

@[simp] theorem slashed_cons (text : List Char) (rest : List (List Char)) :
    slashed (text :: rest) = '/' :: (text ++ slashed rest) := rfl

theorem slashed_append (first second : List (List Char)) :
    slashed (first ++ second) = slashed first ++ slashed second :=
  List.flatMap_append

theorem ofPieces_of_ne_nil {texts : List (List Char)} (hne : texts ≠ []) :
    ofPieces texts = slashed texts := by
  induction texts with
  | nil => exact absurd rfl hne
  | cons text rest ih =>
    cases rest with
    | nil => simp [ofPieces, joined]
    | cons next rest =>
      have hrest : '/' :: joined ['/'] (next :: rest) = slashed (next :: rest) := ih (by simp)
      rw [ofPieces, joined, slashed_cons, ← hrest]
      simp

/-- A path is the slashed form of its pieces, except that `/` has none. -/
theorem ofPieces_eq (texts : List (List Char)) :
    ofPieces texts = if texts = [] then ['/'] else slashed texts := by
  split
  · next h =>
    rw [h]
    rfl
  · next h => exact ofPieces_of_ne_nil h

theorem ofPieces_ne_nil (texts : List (List Char)) : ofPieces texts ≠ [] := by
  simp [ofPieces]

/-- Apart from the slashes, a path has the characters of its pieces. -/
theorem mem_ofPieces {c : Char} (hc : c ≠ '/') {texts : List (List Char)} :
    c ∈ ofPieces texts ↔ ∃ text ∈ texts, c ∈ text := by
  rw [ofPieces_eq]
  split
  · next hnil => simp [hnil, hc]
  · simp [slashed, hc]

theorem not_mem_ofPieces {c : Char} (hc : c ≠ '/') {texts : List (List Char)}
    (h : ∀ text ∈ texts, c ∉ text) : c ∉ (String.ofList (ofPieces texts)).toList := by
  rw [String.toList_ofList, mem_ofPieces hc]
  rintro ⟨text, htext, hmem⟩
  exact h text htext hmem

theorem solidPieces_append_slashed (text : List Char) {texts : List (List Char)}
    (hpieces : ∀ piece ∈ texts, IsPiece piece) :
    solidPieces '/' (text ++ slashed texts) = solidPieces '/' text ++ texts := by
  induction texts generalizing text with
  | nil => simp
  | cons first rest ih =>
    obtain ⟨hne, hslash⟩ := hpieces first List.mem_cons_self
    have hrest : ∀ piece ∈ rest, IsPiece piece :=
      fun piece hpiece => hpieces piece (List.mem_cons_of_mem _ hpiece)
    rw [slashed_cons, solidPieces_append_cons, ih first hrest,
      solidPieces_of_not_mem hne hslash, List.singleton_append]

/-- **The pieces of a path are the texts that it was made from.** -/
theorem solidPieces_slashed {texts : List (List Char)} (hpieces : ∀ piece ∈ texts, IsPiece piece) :
    solidPieces '/' (slashed texts) = texts :=
  solidPieces_append_slashed [] hpieces

/-- **Cutting takes back what joining made**, for pieces. -/
theorem solidPieces_ofPieces {texts : List (List Char)}
    (hpieces : ∀ piece ∈ texts, IsPiece piece) : solidPieces '/' (ofPieces texts) = texts := by
  rw [ofPieces_eq]
  split
  · next h =>
    rw [h]
    rfl
  · exact solidPieces_slashed hpieces

theorem solidPieces_joined_pieces {texts : List (List Char)}
    (hpieces : ∀ piece ∈ texts, IsPiece piece) : solidPieces '/' (joined ['/'] texts) = texts := by
  have hsolid := solidPieces_ofPieces hpieces
  rwa [ofPieces, solidPieces_cons] at hsolid

/-- Cutting a path gives the pieces of the texts that it was made from. -/
theorem solidPieces_ofPieces_eq (texts : List (List Char)) :
    solidPieces '/' (ofPieces texts) = texts.flatMap (solidPieces '/') := by
  rw [ofPieces, solidPieces_cons, solidPieces_joined]

/-! ### Texts with slashes -/

theorem mem_slashed {c : Char} {texts : List (List Char)} (h : c ∈ slashed texts) :
    c = '/' ∨ ∃ text ∈ texts, c ∈ text := by
  obtain ⟨text, htext, hc⟩ := List.mem_flatMap.mp h
  rcases List.mem_cons.mp hc with heq | hc
  · exact .inl heq
  · exact .inr ⟨text, htext, hc⟩

theorem slashed_ne_nil {texts : List (List Char)} (h : texts ≠ []) : slashed texts ≠ [] := by
  cases texts with
  | nil => exact absurd rfl h
  | cons text rest => simp

/-- **A text without slashes stays at the start of the pieces of a longer text.** What
    follows it there has slashes and characters of the other text only, and it is not
    empty if the other text has a piece. -/
theorem exists_after_front {front : List Char} (hfront : '/' ∉ front) {text : List Char}
    (hne : solidPieces '/' (front ++ text) ≠ []) :
    ∃ rest, slashed (solidPieces '/' (front ++ text)) = '/' :: (front ++ rest) ∧
      (∀ c ∈ rest, c = '/' ∨ c ∈ text) ∧ (solidPieces '/' text ≠ [] → rest ≠ []) := by
  -- the characters of some pieces of the text with slashes between them
  have hchars {first : List Char} {others : List (List Char)} (hfirst : ∀ c ∈ first, c ∈ text)
      (hothers : ∀ piece ∈ others, piece ∈ solidPieces '/' text) :
      ∀ c ∈ first ++ slashed others, c = '/' ∨ c ∈ text := by
    intro c hc
    rcases List.mem_append.mp hc with hc | hc
    · exact .inr (hfirst c hc)
    · rcases mem_slashed hc with heq | ⟨piece, hpiece, hc⟩
      · exact .inl heq
      · exact .inr (mem_of_mem_solidPieces (hothers piece hpiece) hc)
  obtain ⟨first, others, hpieces⟩ := List.exists_cons_of_ne_nil (pieces_ne_nil '/' text)
  have hwhole : solidPieces '/' (front ++ text) =
      ((front ++ first) :: others).filter fun piece => !piece.isEmpty := by
    rw [solidPieces, pieces_append hfront hpieces]
  have htext : solidPieces '/' text = (first :: others).filter fun piece => !piece.isEmpty := by
    rw [solidPieces, hpieces]
  by_cases hempty : front ++ first = []
  · -- nothing stands before the first slash: the pieces are those of the text
    obtain ⟨rfl, rfl⟩ := List.append_eq_nil_iff.mp hempty
    rw [List.nil_append] at hne ⊢
    obtain ⟨piece, rest, hsolid⟩ := List.exists_cons_of_ne_nil hne
    have hmem : piece ∈ solidPieces '/' text := hsolid ▸ List.mem_cons_self
    refine ⟨piece ++ slashed rest, by rw [hsolid]; rfl, hchars ?_ ?_, fun _ => ?_⟩
    · exact fun c hc => mem_of_mem_solidPieces hmem hc
    · exact fun other hother => hsolid ▸ List.mem_cons_of_mem _ hother
    · simp [(isPiece_of_mem_solidPieces hmem).1]
  · -- what stands there before the first slash is one piece
    have hsolid : solidPieces '/' (front ++ text) =
        (front ++ first) :: others.filter fun piece => !piece.isEmpty := by
      rw [hwhole, List.filter_cons_of_pos (by simpa using hempty)]
    refine ⟨first ++ slashed (others.filter fun piece => !piece.isEmpty), ?_, hchars ?_ ?_, ?_⟩
    · rw [hsolid, slashed_cons, List.append_assoc]
    · intro c hc
      have hfirst : first ∈ pieces '/' text := hpieces ▸ List.mem_cons_self
      have hmem := mem_joined ['/'] hfirst hc
      rwa [joined_pieces] at hmem
    · intro piece hpiece
      rw [htext, List.filter_cons]
      split
      · exact List.mem_cons_of_mem _ hpiece
      · exact hpiece
    · intro hsome hnil
      obtain ⟨hfirst, hothers⟩ := List.append_eq_nil_iff.mp hnil
      rw [htext, hfirst, List.filter_cons_of_neg (by simp)] at hsome
      exact slashed_ne_nil hsome hothers

/-! ### The canonical form -/

theorem hasDoubleSlash_cons_of_ne {c : Char} (hc : c ≠ '/') (cs : List Char) :
    hasDoubleSlash (c :: cs) = hasDoubleSlash cs := by
  cases cs with
  | nil => rfl
  | cons d cs => simp [hasDoubleSlash, hc]

theorem hasDoubleSlash_append {text : List Char} (hslash : '/' ∉ text) (cs : List Char) :
    hasDoubleSlash (text ++ cs) = hasDoubleSlash cs := by
  induction text with
  | nil => rfl
  | cons c text ih =>
    rw [List.mem_cons, not_or] at hslash
    rw [List.cons_append, hasDoubleSlash_cons_of_ne (Ne.symm hslash.1), ih hslash.2]

theorem hasDoubleSlash_slashed {texts : List (List Char)}
    (hpieces : ∀ piece ∈ texts, IsPiece piece) : hasDoubleSlash (slashed texts) = false := by
  induction texts with
  | nil => rfl
  | cons first rest ih =>
    obtain ⟨hne, hslash⟩ := hpieces first List.mem_cons_self
    have hrest := ih fun piece hpiece => hpieces piece (List.mem_cons_of_mem _ hpiece)
    rw [slashed_cons]
    cases first with
    | nil => exact absurd rfl hne
    | cons c text =>
      have hc : c ≠ '/' := fun heq => hslash (heq ▸ List.mem_cons_self)
      have hstep : hasDoubleSlash ('/' :: (c :: text ++ slashed rest)) =
          hasDoubleSlash (c :: text ++ slashed rest) := by
        simp [hasDoubleSlash, hc]
      rw [hstep, hasDoubleSlash_append hslash, hrest]

/-- The last piece is not empty and has no slash, so neither does the path end with one. -/
theorem getLast?_slashed {texts : List (List Char)} (hpieces : ∀ piece ∈ texts, IsPiece piece) :
    (slashed texts).getLast? ≠ some '/' := by
  rcases List.eq_nil_or_concat' texts with rfl | ⟨init, last, rfl⟩
  · simp
  · obtain ⟨hne, hslash⟩ := hpieces last (by simp)
    have hlast : (slashed (init ++ [last])).getLast? = last.getLast? := by
      rw [slashed_append, slashed_cons, slashed_nil, List.append_nil]
      cases last with
      | nil => exact absurd rfl hne
      | cons c text => simp [List.getLast?_append, List.getLast?_cons]
    rw [hlast]
    intro h
    exact hslash (List.mem_of_getLast? h)

/-- **A path made from pieces is canonical.** -/
theorem isCanonicalChars_ofPieces {texts : List (List Char)}
    (hpieces : ∀ piece ∈ texts, IsPiece piece) : isCanonicalChars (ofPieces texts) := by
  rw [ofPieces_eq]
  split
  · rfl
  · next hne =>
    have hrooted : isRooted (slashed texts) := by
      cases texts with
      | nil => exact absurd rfl hne
      | cons first rest => rfl
    simp [isCanonicalChars, hrooted, hasDoubleSlash_slashed hpieces, getLast?_slashed hpieces]

/-- **What is made of pieces is canonical.** -/
theorem isCanonical_ofPieces {texts : List (List Char)} (hpieces : ∀ piece ∈ texts, IsPiece piece) :
    isCanonical (String.ofList (ofPieces texts)) := by
  unfold isCanonical
  rw [String.toList_ofList]
  exact isCanonicalChars_ofPieces hpieces

/-- Without slashes in a row and at the end, at most the first piece is empty. -/
theorem nil_not_mem_tail_pieces {cs : List Char} (hdouble : hasDoubleSlash cs = false)
    (hlast : cs.getLast? ≠ some '/') : [] ∉ (pieces '/' cs).tail := by
  induction cs with
  | nil => simp [pieces]
  | cons c cs ih =>
    cases cs with
    | nil => by_cases hc : c = '/' <;> simp_all [pieces]
    | cons d cs =>
      have hlast' : (d :: cs).getLast? ≠ some '/' := by simpa using hlast
      have hrest : hasDoubleSlash (d :: cs) = false := by
        rw [hasDoubleSlash, Bool.or_eq_false_iff] at hdouble
        exact hdouble.2
      have htail := ih hrest hlast'
      rw [pieces]
      split
      · next hc =>
        have hd : d ≠ '/' := by
          rintro rfl
          simp [hasDoubleSlash, hc] at hdouble
        -- the piece after a slash starts with a character that is no slash
        have hhead : ∃ first rest, pieces '/' (d :: cs) = (d :: first) :: rest := by
          rw [pieces, if_neg hd]
          split <;> exact ⟨_, _, rfl⟩
        obtain ⟨first, rest, hpieces⟩ := hhead
        rw [hpieces] at htail ⊢
        simpa using htail
      · split
        · simp
        · next hpieces =>
          rw [hpieces] at htail
          exact htail

/-- **A canonical path is made from its pieces.** -/
theorem ofPieces_solidPieces {cs : List Char} (h : isCanonicalChars cs) :
    ofPieces (solidPieces '/' cs) = cs := by
  simp only [isCanonicalChars, Bool.and_eq_true, Bool.not_eq_true', Bool.or_eq_true, beq_iff_eq,
    beq_eq_false_iff_ne] at h
  obtain ⟨⟨hrooted, hdouble⟩, hlast⟩ := h
  rcases hlast with rfl | hlast
  · rfl
  · cases cs with
    | nil => simp [isRooted] at hrooted
    | cons c rest =>
      have hc : c = '/' := by simpa [isRooted] using hrooted
      subst hc
      have htail := nil_not_mem_tail_pieces hdouble hlast
      rw [pieces, if_pos rfl, List.tail_cons] at htail
      have hsolid : solidPieces '/' ('/' :: rest) = pieces '/' rest := by
        rw [solidPieces_cons, solidPieces, List.filter_eq_self]
        intro piece hpiece
        have hne : piece ≠ [] := fun heq => htail (heq ▸ hpiece)
        simpa using hne
      rw [hsolid, ofPieces, joined_pieces]

/-! ### Normalizing -/

def canonical (path : String) : List Char :=
  ofPieces (solidPieces '/' path.toList)

theorem canonical_ne_nil (path : String) : canonical path ≠ [] :=
  ofPieces_ne_nil _

/-- **The normal form of a rooted path is made from the pieces of the path.** -/
theorem normalize_of_isRooted {path : String} (hrooted : isRooted path.toList) :
    normalize path = some (String.ofList (canonical path)) := by
  rw [normalize, normalized?]
  simp only [hrooted, Bool.not_true, Bool.false_eq_true, if_false]
  split
  · next hcanonical =>
    rw [canonical, ofPieces_solidPieces hcanonical, String.ofList_toList]
    rfl
  · rfl

theorem isRooted_of_isCanonical {path : String} (h : isCanonical path) :
    isRooted path.toList := by
  rw [isCanonical, isCanonicalChars, Bool.and_eq_true, Bool.and_eq_true] at h
  exact h.1.1

theorem canonical_of_isCanonical {path : String} (h : isCanonical path) :
    canonical path = path.toList :=
  ofPieces_solidPieces h

/-- A path without a leading slash has no normal form. -/
theorem normalize_of_not_isRooted {path : String} (hrooted : ¬ isRooted path.toList) :
    normalize path = none := by
  simp [normalize, normalized?, hrooted]

/-- **Normal forms are canonical.** -/
theorem isCanonical_of_normalize {path normal : String} (h : normalize path = some normal) :
    isCanonical normal := by
  by_cases hrooted : isRooted path.toList
  · rw [normalize_of_isRooted hrooted] at h
    cases h
    exact isCanonical_ofPieces fun _ => isPiece_of_mem_solidPieces
  · rw [normalize_of_not_isRooted hrooted] at h
    cases h

/-- A canonical path is its own normal form. -/
theorem normalize_of_isCanonical {path : String} (h : isCanonical path) :
    normalize path = some path := by
  rw [normalize_of_isRooted (isRooted_of_isCanonical h), canonical_of_isCanonical h,
    String.ofList_toList]

end Routing.Path
