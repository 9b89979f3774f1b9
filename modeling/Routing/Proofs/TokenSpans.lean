/-
  Routing/Proofs/TokenSpans.lean
  ==============================
  **Scanning loses nothing of a template.**  The tokens lie side by side from the first
  byte to the last, and each is found again, spelled from its kind and its text alone, in
  the bytes that it covers. Braces come in pairs that are not nested, with the tokens of
  a parameter inside of them and slashes and literals outside.

  What the tokens spell and how they follow each other is read off `Lexes`; where they
  stand is `laidFrom`, which knows nothing of the scanner.
-/
import Routing.Proofs.Scanning
import Mathlib.Data.List.Chain
import Mathlib.Data.String.Basic

namespace Routing.Template

/-! ### Places in a text -/

theorem byteLength_eq_utf8Len (cs : List Char) : byteLength cs = String.utf8Len cs := by
  induction cs with
  | nil => rfl
  | cons c cs ih =>
    rw [String.utf8Len_cons, ← ih, Nat.add_comm]
    rfl

theorem byteLength_toList (text : String) : byteLength text.toList = text.utf8ByteSize := by
  rw [byteLength_eq_utf8Len, ← String.utf8ByteSize_ofList, String.ofList_toList]

theorem byteLength_pos {cs : List Char} (hne : cs ≠ []) : 0 < byteLength cs := by
  obtain ⟨c, rest, rfl⟩ := List.exists_cons_of_ne_nil hne
  have hpos := c.utf8Size_pos
  rw [byteLength_cons]
  omega

/-- The characters stand in the text from byte `start` on and end before byte `stop`. -/
def StandsAt (text : String) (run : List Char) (start stop : Nat) : Prop :=
  ∃ before after, text.toList = before ++ run ++ after ∧ start = byteLength before ∧
    stop = start + byteLength run

namespace StandsAt

variable {text : String} {run : List Char} {start stop : Nat}

theorem isValid_of_append {first second : List Char} (h : text.toList = first ++ second) :
    String.Pos.Raw.IsValid text ⟨byteLength first⟩ := by
  rw [String.Pos.Raw.isValid_iff_exists_append]
  refine ⟨String.ofList first, String.ofList second, ?_, ?_⟩
  · rw [← String.ofList_append, ← h, String.ofList_toList]
  · apply String.Pos.Raw.ext
    rw [String.byteIdx_rawEndPos, String.utf8ByteSize_ofList, byteLength_eq_utf8Len]

/-- Both ends of a run of characters are character boundaries. -/
theorem isValid (h : StandsAt text run start stop) :
    String.Pos.Raw.IsValid text ⟨start⟩ ∧ String.Pos.Raw.IsValid text ⟨stop⟩ := by
  obtain ⟨before, after, htext, rfl, rfl⟩ := h
  have hstart : text.toList = before ++ (run ++ after) := by rw [htext, List.append_assoc]
  rw [← byteLength_append]
  exact ⟨isValid_of_append hstart, isValid_of_append htext⟩

theorem extract_eq (h : StandsAt text run start stop) :
    String.Pos.Raw.extract text ⟨start⟩ ⟨stop⟩ = String.ofList run := by
  obtain ⟨before, after, htext, rfl, rfl⟩ := h
  have hextract := String.extract_of_valid before run after
  rw [← htext, String.ofList_toList] at hextract
  rw [byteLength_eq_utf8Len, byteLength_eq_utf8Len]
  exact hextract

theorem lt (h : StandsAt text run start stop) (hne : run ≠ []) :
    start < stop ∧ start < text.utf8ByteSize := by
  obtain ⟨before, after, htext, rfl, rfl⟩ := h
  have hpos := byteLength_pos hne
  rw [← byteLength_toList, htext, byteLength_append, byteLength_append]
  omega

end StandsAt

/-! ### Tokens side by side -/

theorem laidFrom_cons (offset : Nat) (t : Token) (ts : List Token) :
    laidFrom offset (t :: ts) = ⟨t, offset, offset + byteLength t.spelling⟩ ::
      laidFrom (offset + byteLength t.spelling) ts := rfl

theorem start_of_head?_laidFrom {offset : Nat} {ts : List Token} {t : Spanned}
    (h : (laidFrom offset ts).head? = some t) : t.start = offset := by
  cases ts with
  | nil => cases h
  | cons token ts =>
    cases h
    rfl

theorem stop_of_getLast?_laidFrom {offset : Nat} {ts : List Token} {t : Spanned}
    (h : (laidFrom offset ts).getLast? = some t) :
    t.stop = offset + byteLength (ts.flatMap Token.spelling) := by
  induction ts generalizing offset with
  | nil => cases h
  | cons token ts ih =>
    rw [List.flatMap_cons, byteLength_append, ← Nat.add_assoc]
    cases ts with
    | nil =>
      cases h
      rfl
    | cons next ts =>
      rw [laidFrom_cons, laidFrom_cons, List.getLast?_cons_cons] at h
      exact ih h

/-- Each token starts where the one before it stops. -/
theorem isChain_laidFrom (offset : Nat) (ts : List Token) :
    (laidFrom offset ts).IsChain fun t u => u.start = t.stop := by
  induction ts generalizing offset with
  | nil => exact .nil
  | cons token ts ih =>
    cases ts with
    | nil => exact .singleton _
    | cons next ts => exact .cons_cons rfl (ih _)

theorem standsAt_of_mem_laidFrom {text : String} {before : List Char} {ts : List Token}
    (htext : text.toList = before ++ ts.flatMap Token.spelling) {t : Spanned}
    (ht : t ∈ laidFrom (byteLength before) ts) :
    StandsAt text t.token.spelling t.start t.stop := by
  induction ts generalizing before with
  | nil => cases ht
  | cons token ts ih =>
    rw [List.flatMap_cons, ← List.append_assoc] at htext
    rcases List.mem_cons.mp ht with rfl | ht
    · exact ⟨before, ts.flatMap Token.spelling, htext, rfl, rfl⟩
    · rw [← byteLength_append] at ht
      exact ih htext ht

/-! ### What the tokens of a text spell -/

/-- The spellings of the tokens, put together, are the text. -/
theorem Lexes.flatMap_spelling {inside : Bool} {cs : List Char} {ts : List Token}
    (h : Lexes inside cs ts) : ts.flatMap Token.spelling = cs := by
  induction h with
  | done => rfl
  | argument _ _ ih => simp [Token.spelling, ih]
  | slash _ ih | openBrace _ ih | literal _ _ _ _ ih | closeBrace _ ih | colon _ ih | equals _ ih
  | quantifier _ _ ih | word _ _ _ _ ih | stray _ _ _ ih =>
    rw [List.flatMap_cons, ih]
    rfl

theorem Lexes.spelling_ne_nil {inside : Bool} {cs : List Char} {ts : List Token}
    (h : Lexes inside cs ts) : ∀ t ∈ ts, t.spelling ≠ [] := by
  induction h with
  | done => simp
  | literal hne _ _ _ ih | word hne _ _ _ ih =>
    refine List.forall_mem_cons.mpr ⟨?_, ih⟩
    simpa [Token.spelling] using hne
  | slash _ ih | openBrace _ ih | closeBrace _ ih | colon _ ih | equals _ ih | quantifier _ _ ih
  | argument _ _ ih | stray _ _ _ ih =>
    exact List.forall_mem_cons.mpr ⟨by simp [Token.spelling], ih⟩

theorem eq_laidFrom_of_tokens {template : String} {ts : List Spanned}
    (h : tokens template = .ok ts) : Lexes false template.toList (ts.map Spanned.token) ∧
      ts = laidFrom 0 (ts.map Spanned.token) := by
  have hlexes := exists_tokens_iff.mp ⟨ts, h, rfl⟩
  have hscan : tokens template = .ok (laidFrom 0 (ts.map Spanned.token)) :=
    scan_of_lexes hlexes 0 0
  rw [h] at hscan
  exact ⟨hlexes, Except.ok.inj hscan⟩

theorem standsAt_of_mem_tokens {template : String} {ts : List Spanned}
    (h : tokens template = .ok ts) {t : Spanned} (ht : t ∈ ts) :
    StandsAt template t.token.spelling t.start t.stop ∧ t.token.spelling ≠ [] := by
  obtain ⟨hlexes, hlaid⟩ := eq_laidFrom_of_tokens h
  refine ⟨?_, hlexes.spelling_ne_nil _ (List.mem_map_of_mem ht)⟩
  have htext : template.toList = [] ++ (ts.map Spanned.token).flatMap Token.spelling :=
    hlexes.flatMap_spelling.symm
  rw [hlaid] at ht
  exact standsAt_of_mem_laidFrom htext ht

/-! ### How the tokens of a text follow each other -/

def Token.isBrace : Token → Bool
  | .openBrace | .closeBrace => true
  | _ => false

def Token.isOuter : Token → Bool
  | .slash | .literal _ => true
  | _ => false

/-- Pairs of braces, with tokens of the outer kinds between them and of the other kinds inside. -/
inductive Paired : List Token → Prop
  | nil : Paired []
  | outer {t : Token} {ts : List Token} (ht : t.isOuter) (h : Paired ts) : Paired (t :: ts)
  | pair {inner ts : List Token} (hinner : ∀ t ∈ inner, t.isBrace = false ∧ t.isOuter = false)
      (h : Paired ts) : Paired (.openBrace :: (inner ++ .closeBrace :: ts))

def PairedFrom (inside : Bool) (ts : List Token) : Prop :=
  match inside with
  | false => Paired ts
  | true => Paired (.openBrace :: ts)

theorem PairedFrom.inner {t : Token} {ts : List Token} (ht : t.isBrace = false ∧ t.isOuter = false)
    (h : PairedFrom true ts) : PairedFrom true (t :: ts) := by
  cases h with
  | outer houter _ => cases houter
  | @pair inner ts hinner h =>
    rw [← List.cons_append]
    exact .pair (List.forall_mem_cons.mpr ⟨ht, hinner⟩) h

theorem Lexes.paired {inside : Bool} {cs : List Char} {ts : List Token}
    (h : Lexes inside cs ts) : PairedFrom inside ts := by
  induction h with
  | done => exact .nil
  | slash _ ih | literal _ _ _ _ ih => exact .outer rfl ih
  | openBrace _ ih => exact ih
  | closeBrace _ ih => -- the tokens before it go between the braces one by one
    have hinner : ∀ t ∈ ([] : List Token), t.isBrace = false ∧ t.isOuter = false := by simp
    exact .pair hinner ih
  | colon _ ih | equals _ ih | quantifier _ _ ih | argument _ _ ih | word _ _ _ _ ih
  | stray _ _ _ ih => exact ih.inner ⟨rfl, rfl⟩

theorem Paired.filter_isBrace {ts : List Token} (h : Paired ts) :
    ∃ n, ts.filter Token.isBrace = (List.replicate n [.openBrace, .closeBrace]).flatten := by
  induction h with
  | nil => exact ⟨0, rfl⟩
  | @outer t ts ht _ ih =>
    have hbrace : t.isBrace = false := by
      cases t <;> first | rfl | cases ht
    rw [List.filter_cons_of_neg (by simp [hbrace])]
    exact ih
  | @pair inner ts hinner _ ih =>
    obtain ⟨n, hn⟩ := ih
    have hnone : inner.filter Token.isBrace = [] := by
      rw [List.filter_eq_nil_iff]
      intro t ht
      simp [(hinner t ht).1]
    refine ⟨n + 1, ?_⟩
    rw [List.filter_cons_of_pos rfl, List.filter_append, hnone, List.nil_append,
      List.filter_cons_of_pos rfl, hn, List.replicate_succ, List.flatten_cons]
    rfl

def Token.sameRun : Token → Token → Bool
  | .literal _, .literal _ | .word _, .word _ => true
  | _, _ => false

/-- A literal begins with a character of literals. -/
theorem Lexes.head?_literal {cs : List Char} {text : String} {ts : List Token}
    (h : Lexes false cs (.literal text :: ts)) : ∃ c, cs.head? = some c ∧ isLiteralChar c := by
  cases h with
  | @literal _ cs _ hne hchars _ _ =>
    obtain ⟨c, run, htext⟩ := List.exists_cons_of_ne_nil (mt String.toList_eq_nil_iff.mp hne)
    rw [htext] at hchars ⊢
    exact ⟨c, rfl, hchars c List.mem_cons_self⟩

theorem Lexes.head?_word {cs : List Char} {text : String} {ts : List Token}
    (h : Lexes true cs (.word text :: ts)) : ∃ c, cs.head? = some c ∧ isWordChar c := by
  cases h with
  | @word _ cs _ hne hchars _ _ =>
    obtain ⟨c, run, htext⟩ := List.exists_cons_of_ne_nil (mt String.toList_eq_nil_iff.mp hne)
    rw [htext] at hchars ⊢
    exact ⟨c, rfl, hchars c List.mem_cons_self⟩

/-- A literal or a word is as long as it can be, so no other one follows it. -/
theorem Lexes.isChain {inside : Bool} {cs : List Char} {ts : List Token}
    (h : Lexes inside cs ts) : ts.IsChain fun t u => t.sameRun u = false := by
  induction h with
  | done => exact .nil
  | @literal text cs ts _ _ hend hlexes ih =>
    refine .cons ih ?_
    intro u hu
    cases u with
    | literal next => -- the next literal would begin with a character that ended this one
      obtain ⟨rest, rfl⟩ := List.head?_eq_some_iff.mp hu
      obtain ⟨c, hc, hchar⟩ := hlexes.head?_literal
      rw [hend c hc] at hchar
      cases hchar
    | _ => rfl
  | @word text cs ts _ _ hend hlexes ih =>
    refine .cons ih ?_
    intro u hu
    cases u with
    | word next =>
      obtain ⟨rest, rfl⟩ := List.head?_eq_some_iff.mp hu
      obtain ⟨c, hc, hchar⟩ := hlexes.head?_word
      rw [hend c hc] at hchar
      cases hchar
    | _ => rfl
  | slash _ ih | openBrace _ ih | closeBrace _ ih | colon _ ih | equals _ ih | quantifier _ _ ih
  | argument _ _ ih | stray _ _ _ ih => exact .cons ih fun _ _ => rfl

theorem Lexes.balanced {inside : Bool} {cs : List Char} {ts : List Token} (h : Lexes inside cs ts)
    {text : String} (htext : .argument text ∈ ts) : Balanced text.toList := by
  induction h with
  | done => cases htext
  | argument hbalanced _ ih =>
    rcases List.mem_cons.mp htext with heq | htext
    · cases heq
      exact hbalanced
    · exact ih htext
  | slash _ ih | openBrace _ ih | literal _ _ _ _ ih | closeBrace _ ih | colon _ ih | equals _ ih
  | quantifier _ _ ih | word _ _ _ _ ih | stray _ _ _ ih =>
    exact ih (List.mem_of_ne_of_mem (by simp) htext)

/-! ### A whole template -/

/-- The source text of a token, from its kind and its text alone. -/
def Token.source (t : Token) : String :=
  String.ofList t.spelling

/-- The tokens hold all of the template, each in its place. -/
structure Lossless (template : String) (ts : List Spanned) : Prop where
  first : ∀ t, ts.head? = some t → t.start = 0
  next : ts.IsChain fun t u => u.start = t.stop
  last : ∀ t, ts.getLast? = some t → t.stop = template.utf8ByteSize
  solid : ∀ t ∈ ts, t.start < t.stop
  boundary : ∀ t ∈ ts, String.Pos.Raw.IsValid template ⟨t.start⟩ ∧
    String.Pos.Raw.IsValid template ⟨t.stop⟩
  source : ∀ t ∈ ts, String.Pos.Raw.extract template ⟨t.start⟩ ⟨t.stop⟩ = t.token.source
  whole : String.join (ts.map fun t => t.token.source) = template
  paired : Paired (ts.map Spanned.token)
  braces : ∃ n, (ts.map Spanned.token).filter Token.isBrace =
    (List.replicate n [.openBrace, .closeBrace]).flatten
  nested : ∀ t ∈ ts, ∀ text, t.token = .argument text → Balanced text.toList
  runs : (ts.map Spanned.token).IsChain fun t u => t.sameRun u = false

/-- **Tokens give the template back**, as a whole and one by one from the bytes they cover. -/
theorem tokens_lossless {template : String} {ts : List Spanned} (h : tokens template = .ok ts) :
    Lossless template ts := by
  obtain ⟨hlexes, hlaid⟩ := eq_laidFrom_of_tokens h
  have hspelled := hlexes.flatMap_spelling
  refine ⟨?_, ?_, ?_, ?_, ?_, ?_, ?_, hlexes.paired, ?_, ?_, hlexes.isChain⟩
  · intro t ht
    rw [hlaid] at ht
    exact start_of_head?_laidFrom ht
  · rw [hlaid]
    exact isChain_laidFrom 0 _
  · intro t ht
    rw [hlaid] at ht
    rw [stop_of_getLast?_laidFrom ht, hspelled, byteLength_toList, Nat.zero_add]
  · intro t ht
    obtain ⟨hstands, hne⟩ := standsAt_of_mem_tokens h ht
    exact (hstands.lt hne).1
  · intro t ht
    exact (standsAt_of_mem_tokens h ht).1.isValid
  · intro t ht
    exact (standsAt_of_mem_tokens h ht).1.extract_eq
  · apply String.toList_inj.mp
    rw [String.toList_join, List.flatMap_map, ← hspelled, List.flatMap_map]
    exact List.flatMap_congr fun t _ => String.toList_ofList
  · exact Paired.filter_isBrace hlexes.paired
  · intro t ht text htext
    exact hlexes.balanced (htext ▸ List.mem_map_of_mem ht)

theorem tokens_lossless_nested :
    tokens "/é\x7bn*:(f\x7b2\x7d) ü\x7d" = .ok [⟨.slash, 0, 1⟩, ⟨.literal "é", 1, 3⟩,
      ⟨.openBrace, 3, 4⟩, ⟨.word "n", 4, 5⟩, ⟨.quantifier '*', 5, 6⟩, ⟨.colon, 6, 7⟩,
      ⟨.argument "f\x7b2\x7d", 7, 13⟩, ⟨.stray ' ', 13, 14⟩, ⟨.stray 'ü', 14, 16⟩,
      ⟨.closeBrace, 16, 17⟩] ∧
    Lossless "/é\x7bn*:(f\x7b2\x7d) ü\x7d" [⟨.slash, 0, 1⟩, ⟨.literal "é", 1, 3⟩,
      ⟨.openBrace, 3, 4⟩, ⟨.word "n", 4, 5⟩, ⟨.quantifier '*', 5, 6⟩, ⟨.colon, 6, 7⟩,
      ⟨.argument "f\x7b2\x7d", 7, 13⟩, ⟨.stray ' ', 13, 14⟩, ⟨.stray 'ü', 14, 16⟩,
      ⟨.closeBrace, 16, 17⟩] :=
  ⟨by decide +kernel, tokens_lossless (by decide +kernel)⟩

end Routing.Template
