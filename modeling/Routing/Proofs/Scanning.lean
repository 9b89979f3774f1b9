/-
  Routing/Proofs/Scanning.lean
  ============================
  **What the scanner makes of a text.**  An argument is read up to the parenthesis
  that closes it: `readArgument_eq_ok_iff` says that this is the first one after a
  text with nested delimiters. While delimiters are open, the text still to be read
  closes them one after another, `Closes`.

  `Lexes` says of a text and tokens that the text is their spelling, with literals and
  words as long as they can be; `exists_tokens_iff` says that the scanner finds these
  tokens and no others.  A token covers as many bytes as its spelling, so the tokens say
  where each of them stands, `laidFrom`.
-/
import Routing.Proofs.Accepted
import Routing.Proofs.Grammar

namespace Routing.Template

/-! ### Arguments -/

theorem byteLength_cons (c : Char) (cs : List Char) :
    byteLength (c :: cs) = c.utf8Size + byteLength cs := rfl

theorem byteLength_append (first second : List Char) :
    byteLength (first ++ second) = byteLength first + byteLength second := by
  induction first with
  | nil => simp [byteLength]
  | cons c first ih =>
    rw [List.cons_append, byteLength_cons, byteLength_cons, ih, Nat.add_assoc]

theorem Balanced.append {first second : List Char} (hfirst : Balanced first)
    (hsecond : Balanced second) : Balanced (first ++ second) := by
  induction hfirst with
  | nil => exact hsecond
  | other hc _ ih => exact .other hc ih
  | nested hpair hinner _ _ ih =>
    rw [List.cons_append, List.append_assoc, List.cons_append]
    exact .nested hpair hinner ih

theorem mem_pairs_iff {opener closer : Char} :
    (opener, closer) ∈ [('(', ')'), ('{', '}')] ↔ closerOf? opener = some closer := by
  unfold closerOf?
  simp only [List.mem_cons, Prod.mk.injEq, List.not_mem_nil, or_false]
  split
  · next h => simp [h, eq_comm]
  · split
    · next h => simp [h, eq_comm]
    · next h₁ h₂ => simp [h₁, h₂]

theorem closerOf?_closer {opener closer : Char} (h : closerOf? opener = some closer) :
    (closer = ')' ∨ closer = '}') ∧ closerOf? closer = none := by
  rcases List.mem_cons.mp (mem_pairs_iff.mpr h) with heq | hmem
  · cases heq
    decide
  · cases List.mem_singleton.mp hmem
    decide

theorem not_mem_delimiters_iff {c : Char} :
    c ∉ ['(', ')', '{', '}'] ↔ closerOf? c = none ∧ ¬ (c = ')' ∨ c = '}') := by
  have hopener : closerOf? c = none ↔ c ≠ '(' ∧ c ≠ '{' := by
    unfold closerOf?
    by_cases hparen : c = '('
    · simp [hparen]
    · by_cases hbrace : c = '{' <;> simp [hparen, hbrace]
  rw [hopener]
  simp only [List.mem_cons, List.not_mem_nil, or_false, not_or, ne_eq]
  constructor
  · rintro ⟨h₁, h₂, h₃, h₄⟩
    exact ⟨⟨h₁, h₃⟩, h₂, h₄⟩
  · rintro ⟨⟨h₁, h₃⟩, h₂, h₄⟩
    exact ⟨h₁, h₂, h₃, h₄⟩

section

variable {opened offset : Nat} {expected cs text rest : List Char}

/-- Whatever is nested is passed over. -/
theorem readArgument_append {before : List Char} (hbefore : Balanced before)
    (hexpected : expected ≠ []) (offset : Nat) (cs : List Char) :
    readArgument opened expected offset (before ++ cs) =
      (readArgument opened expected (offset + byteLength before) cs).map
        fun (text, rest) => (before ++ text, rest) := by
  induction hbefore generalizing expected offset cs with
  | nil =>
    show readArgument opened expected offset cs = (readArgument opened expected offset cs).map _
    cases readArgument opened expected offset cs <;> rfl
  | @other c before hc _ ih =>
    obtain ⟨hopener, hcloser⟩ := not_mem_delimiters_iff.mp hc
    simp only [List.cons_append, readArgument, hopener, if_neg hcloser]
    rw [ih hexpected, byteLength_cons, Nat.add_assoc]
    cases readArgument opened expected (offset + (c.utf8Size + byteLength before)) cs <;> rfl
  | @nested opener closer inner before hpair _ _ ihinner ih =>
    have hopener := mem_pairs_iff.mp hpair
    obtain ⟨hcloser, hnone⟩ := closerOf?_closer hopener
    -- the closing delimiter is the one that is due
    have hclose (offset : Nat) (cs : List Char) : readArgument opened (closer :: expected) offset
        (closer :: cs) = (readArgument opened expected (offset + closer.utf8Size) cs).map
          fun (text, rest) => (closer :: text, rest) := by
      simp only [readArgument, hnone, if_pos hcloser, ne_eq, not_true, if_false, List.isEmpty_iff,
        hexpected]
    have hoffset : offset + opener.utf8Size + byteLength inner + closer.utf8Size +
        byteLength before = offset + byteLength (opener :: (inner ++ closer :: before)) := by
      rw [byteLength_cons, byteLength_append, byteLength_cons]
      omega
    rw [List.cons_append, List.append_assoc, List.cons_append]
    simp only [readArgument, hopener]
    rw [ihinner (List.cons_ne_nil closer expected), hclose, ih hexpected, hoffset]
    cases readArgument opened expected _ cs <;> simp [Except.map]

/-- What is to be read closes the delimiters that are due, and then comes a parenthesis. -/
inductive Closes : List Char → List Char → Prop
  | last {text : List Char} (h : Balanced text) : Closes [')'] text
  | next {due : Char} {outer inner text : List Char} (hinner : Balanced inner)
      (h : Closes outer text) : Closes (due :: outer) (inner ++ due :: text)

theorem Closes.append {before : List Char} (hbefore : Balanced before)
    (h : Closes expected text) : Closes expected (before ++ text) := by
  cases h with
  | last h => exact .last (hbefore.append h)
  | next hinner h =>
    rw [← List.append_assoc]
    exact .next (hbefore.append hinner) h

/-- What is read closes the delimiters that are due, each after a nested text. -/
theorem closes_of_readArgument (hlast : expected.getLast? = some ')')
    (h : readArgument opened expected offset cs = .ok (text, rest)) :
    Closes expected text ∧ cs = text ++ ')' :: rest := by
  induction cs generalizing expected offset text with
  | nil => cases h
  | cons c cs ih =>
    have hne : expected ≠ [] := by
      rintro rfl
      cases hlast
    simp only [readArgument] at h
    split at h
    · next closer hopener => -- an opening delimiter: the rest is read with its closer due first
      obtain ⟨⟨after, rest'⟩, hafter, heq⟩ := Except.map_eq_ok.mp h
      cases heq
      obtain ⟨hcloses, rfl⟩ := ih (by simp [List.getLast?_cons, hlast]) hafter
      refine ⟨?_, rfl⟩
      cases hcloses with
      | last _ => exact absurd rfl hne
      | @next _ _ inner after hinner hcloses =>
        have hgroup : Balanced (c :: (inner ++ [closer])) :=
          .nested (mem_pairs_iff.mpr hopener) hinner .nil
        have hwhole := hcloses.append hgroup
        rwa [List.cons_append, List.append_assoc, List.singleton_append] at hwhole
    · next hnone =>
      split at h
      · next hcloser =>
        split at h
        · cases h
        · next due outer =>
          split at h
          · cases h
          · next hdue =>
            have hc : due = c := by simpa using hdue
            subst hc
            split at h
            · next hempty => -- nothing else is due, so this is the parenthesis of the argument
              cases h
              rw [List.isEmpty_iff.mp hempty] at hlast ⊢
              cases hlast
              exact ⟨.last .nil, rfl⟩
            · next hnot => -- delimiters further out are still open
              obtain ⟨⟨after, rest'⟩, hafter, heq⟩ := Except.map_eq_ok.mp h
              cases heq
              have houter : outer.getLast? = some ')' := by
                cases outer with
                | nil => simp at hnot
                | cons next outer => simpa using hlast
              obtain ⟨hcloses, rfl⟩ := ih houter hafter
              exact ⟨.next .nil hcloses, rfl⟩
      · next hcloser =>
        obtain ⟨⟨after, rest'⟩, hafter, heq⟩ := Except.map_eq_ok.mp h
        cases heq
        obtain ⟨hcloses, rfl⟩ := ih hlast hafter
        have hother : Balanced [c] := .other (not_mem_delimiters_iff.mpr ⟨hnone, hcloser⟩) .nil
        exact ⟨hcloses.append hother, rfl⟩

/-- **An argument is a nested text up to its closing parenthesis.** -/
theorem readArgument_eq_ok_iff : readArgument opened [')'] offset cs = .ok (text, rest) ↔
    Balanced text ∧ cs = text ++ ')' :: rest := by
  constructor
  · intro h
    obtain ⟨hcloses, rfl⟩ := closes_of_readArgument rfl h
    cases hcloses with
    | last hbalanced => exact ⟨hbalanced, rfl⟩
    | next _ hnone => cases hnone
  · rintro ⟨hbalanced, rfl⟩
    have hclose (offset : Nat) :
        readArgument opened [')'] offset (')' :: rest) = .ok ([], rest) := rfl
    rw [readArgument_append hbalanced (List.cons_ne_nil _ _), hclose]
    simp [Except.map]

end

/-! ### Tokens -/

def Token.spelling : Token → List Char
  | .slash => ['/']
  | .openBrace => ['{']
  | .closeBrace => ['}']
  | .colon => [':']
  | .equals => ['=']
  | .quantifier mark => [mark]
  | .literal text | .word text => text.toList
  | .argument text => '(' :: (text.toList ++ [')'])
  | .stray c => [c]

/-- The tokens one after another from byte `offset` on, each with the bytes of its spelling. -/
def laidFrom : Nat → List Token → List Spanned
  | _, [] => []
  | offset, t :: ts =>
    let stop := offset + byteLength t.spelling
    ⟨t, offset, stop⟩ :: laidFrom stop ts

theorem map_token_laidFrom (offset : Nat) (tokens : List Token) :
    (laidFrom offset tokens).map Spanned.token = tokens := by
  induction tokens generalizing offset with
  | nil => rfl
  | cons t ts ih => rw [laidFrom, List.map_cons, ih]

def Mode.isInside : Mode → Bool
  | .outside => false
  | .inside _ => true

/-- The text is the spelling of the tokens, from a place outside or inside of braces on. -/
inductive Lexes : Bool → List Char → List Token → Prop
  | done : Lexes false [] []
  | slash {cs : List Char} {ts : List Token} (h : Lexes false cs ts) :
    Lexes false ('/' :: cs) (.slash :: ts)
  | openBrace {cs : List Char} {ts : List Token} (h : Lexes true cs ts) :
    Lexes false ('{' :: cs) (.openBrace :: ts)
  | literal {text : String} {cs : List Char} {ts : List Token} (hne : text ≠ "")
      (hchars : ∀ c ∈ text.toList, isLiteralChar c)
      (hend : ∀ c, cs.head? = some c → isLiteralChar c = false) (h : Lexes false cs ts) :
    Lexes false (text.toList ++ cs) (.literal text :: ts)
  | closeBrace {cs : List Char} {ts : List Token} (h : Lexes false cs ts) :
    Lexes true ('}' :: cs) (.closeBrace :: ts)
  | colon {cs : List Char} {ts : List Token} (h : Lexes true cs ts) :
    Lexes true (':' :: cs) (.colon :: ts)
  | equals {cs : List Char} {ts : List Token} (h : Lexes true cs ts) :
    Lexes true ('=' :: cs) (.equals :: ts)
  | quantifier {mark : Char} {cs : List Char} {ts : List Token}
      (hmark : mark = '?' ∨ mark = '*' ∨ mark = '+') (h : Lexes true cs ts) :
    Lexes true (mark :: cs) (.quantifier mark :: ts)
  | argument {text : String} {cs : List Char} {ts : List Token} (htext : Balanced text.toList)
      (h : Lexes true cs ts) :
    Lexes true ('(' :: (text.toList ++ ')' :: cs)) (.argument text :: ts)
  | word {text : String} {cs : List Char} {ts : List Token} (hne : text ≠ "")
      (hchars : ∀ c ∈ text.toList, isWordChar c)
      (hend : ∀ c, cs.head? = some c → isWordChar c = false) (h : Lexes true cs ts) :
    Lexes true (text.toList ++ cs) (.word text :: ts)
  | stray {c : Char} {cs : List Char} {ts : List Token}
      (hc : c ∉ ['}', ':', '=', '?', '*', '+', '(']) (hword : isWordChar c = false)
      (h : Lexes true cs ts) : Lexes true (c :: cs) (.stray c :: ts)

theorem head?_dropWhile {kind : Char → Bool} {cs : List Char} {c : Char}
    (h : (cs.dropWhile kind).head? = some c) : kind c = false := by
  have hnot := List.head?_dropWhile_not kind cs
  rw [h] at hnot
  simpa using hnot

/-- What the scanner made of a text spells the text. -/
theorem lexes_of_scan {mode : Mode} {offset : Nat} {cs : List Char} {ts : List Spanned}
    (h : scan mode offset cs = .ok ts) : Lexes mode.isInside cs (ts.map Spanned.token) := by
  -- a token before those of the rest of the template
  have step {inside inside' : Bool} {cs cs' : List Char} {t : Spanned}
      {scanned : Except TokenError (List Spanned)} {ts : List Spanned}
      (hmap : scanned.map (t :: ·) = .ok ts)
      (ih : ∀ {ts}, scanned = .ok ts → Lexes inside cs (ts.map Spanned.token))
      (hlex : ∀ {ts}, Lexes inside cs ts → Lexes inside' cs' (t.token :: ts)) :
      Lexes inside' cs' (ts.map Spanned.token) := by
    obtain ⟨rest, hrest, rfl⟩ := Except.map_eq_ok.mp hmap
    exact hlex (ih hrest)
  -- a run of characters of one kind
  have run (kind : Char → Bool) {c : Char} (rest : List Char) (hc : kind c) :
      c :: rest = (String.ofList (c :: rest.takeWhile kind)).toList ++ rest.dropWhile kind ∧
        ∀ d ∈ (String.ofList (c :: rest.takeWhile kind)).toList, kind d := by
    rw [String.toList_ofList]
    refine ⟨by simp, ?_⟩
    intro d hd
    rcases List.mem_cons.mp hd with rfl | hd
    · exact hc
    · exact List.mem_takeWhile_imp hd
  induction mode, offset, cs using scan_induction generalizing ts with
  | done =>
    cases h
    exact .done
  | unterminated | badArgument => cases h
  | slash offset rest ih => exact step h ih .slash
  | openBrace offset rest ih => exact step h ih .openBrace
  | literal offset c rest hslash hbrace ih =>
    have hliteral : isLiteralChar c := by simp [isLiteralChar, hslash, hbrace]
    obtain ⟨heq, hchars⟩ := run isLiteralChar rest hliteral
    rw [heq]
    exact step h ih (.literal (by simp [String.ext_iff]) hchars fun _ => head?_dropWhile)
  | closeBrace offset opened rest ih => exact step h ih .closeBrace
  | colon offset opened rest ih => exact step h ih .colon
  | equals offset opened rest ih => exact step h ih .equals
  | quantifier offset opened mark rest hmark ih => exact step h ih (.quantifier hmark)
  | argument offset opened rest text after hargument ih =>
    obtain ⟨hbalanced, heq⟩ := readArgument_eq_ok_iff.mp hargument
    have htext : text = (String.ofList text).toList := String.toList_ofList.symm
    rw [htext] at hbalanced heq
    rw [heq]
    exact step h ih (.argument hbalanced)
  | word offset opened c rest _ _ _ _ _ hword ih =>
    obtain ⟨heq, hchars⟩ := run isWordChar rest hword
    rw [heq]
    exact step h ih (.word (by simp [String.ext_iff]) hchars fun _ => head?_dropWhile)
  | stray offset opened c rest hclose hcolon hequals hmark hparen hword ih =>
    -- no other kind of token starts with the character
    refine step h ih (.stray ?_ (by simpa using hword))
    simp_all

/-- A run of characters of one kind ends where another one stands. -/
theorem takeWhile_run {kind : Char → Bool} {run cs : List Char} (hrun : ∀ c ∈ run, kind c)
    (hend : ∀ c, cs.head? = some c → kind c = false) :
    (run ++ cs).takeWhile kind = run ∧ (run ++ cs).dropWhile kind = cs := by
  rw [List.takeWhile_append_of_pos hrun, List.dropWhile_append_of_pos hrun]
  cases cs with
  | nil => simp
  | cons c cs => simp [hend c rfl]

section

variable {opened offset : Nat} {cs : List Char}

theorem scan_slash : scan .outside offset ('/' :: cs) =
    (scan .outside (offset + 1) cs).map (⟨.slash, offset, offset + 1⟩ :: ·) := by
  rw [scan, if_pos rfl]

theorem scan_openBrace : scan .outside offset ('{' :: cs) =
    (scan (.inside offset) (offset + 1) cs).map (⟨.openBrace, offset, offset + 1⟩ :: ·) := by
  rw [scan, if_neg (by decide), if_pos rfl]

theorem scan_literal {text : String} (hne : text ≠ "") (hchars : ∀ c ∈ text.toList, isLiteralChar c)
    (hend : ∀ c, cs.head? = some c → isLiteralChar c = false) :
    scan .outside offset (text.toList ++ cs) =
      (scan .outside (offset + byteLength text.toList) cs).map
        (⟨.literal text, offset, offset + byteLength text.toList⟩ :: ·) := by
  obtain ⟨c, run, htext⟩ := List.exists_cons_of_ne_nil (mt String.toList_eq_nil_iff.mp hne)
  rw [htext, List.forall_mem_cons] at hchars
  obtain ⟨htake, hdrop⟩ := takeWhile_run hchars.2 hend
  have hc : c ≠ '/' ∧ c ≠ '{' := by simpa [isLiteralChar] using hchars.1
  have hwhole : String.ofList (c :: run) = text := by rw [← htext, String.ofList_toList]
  rw [htext, List.cons_append, scan, if_neg hc.1, if_neg hc.2]
  simp only [htake, hdrop, hwhole]

theorem scan_closeBrace : scan (.inside opened) offset ('}' :: cs) =
    (scan .outside (offset + 1) cs).map (⟨.closeBrace, offset, offset + 1⟩ :: ·) := by
  rw [scan, if_pos rfl]

theorem scan_colon : scan (.inside opened) offset (':' :: cs) =
    (scan (.inside opened) (offset + 1) cs).map (⟨.colon, offset, offset + 1⟩ :: ·) := by
  rw [scan, if_neg (by decide), if_pos rfl]

theorem scan_equals : scan (.inside opened) offset ('=' :: cs) =
    (scan (.inside opened) (offset + 1) cs).map (⟨.equals, offset, offset + 1⟩ :: ·) := by
  rw [scan, if_neg (by decide), if_neg (by decide), if_pos rfl]

theorem scan_quantifier {mark : Char} (hmark : mark = '?' ∨ mark = '*' ∨ mark = '+') :
    scan (.inside opened) offset (mark :: cs) =
      (scan (.inside opened) (offset + 1) cs).map
        (⟨.quantifier mark, offset, offset + 1⟩ :: ·) := by
  have hother : mark ≠ '}' ∧ mark ≠ ':' ∧ mark ≠ '=' := by
    rcases hmark with rfl | rfl | rfl <;> decide
  rw [scan, if_neg hother.1, if_neg hother.2.1, if_neg hother.2.2, if_pos hmark]

theorem scan_openParen : scan (.inside opened) offset ('(' :: cs) =
    match readArgument offset [')'] (offset + 1) cs with
    | .error e => .error e
    | .ok (text, rest) => (scan (.inside opened) (offset + byteLength text + 2) rest).map
        (⟨.argument (String.ofList text), offset, offset + byteLength text + 2⟩ :: ·) := by
  rw [scan, if_neg (by decide), if_neg (by decide), if_neg (by decide), if_neg (by decide),
    if_pos rfl]
  split
  · next heq => rw [heq]
  · next heq => rw [heq]

theorem scan_argument {text : String} (htext : Balanced text.toList) :
    scan (.inside opened) offset ('(' :: (text.toList ++ ')' :: cs)) =
      (scan (.inside opened) (offset + byteLength text.toList + 2) cs).map
        (⟨.argument text, offset, offset + byteLength text.toList + 2⟩ :: ·) := by
  have hread : readArgument offset [')'] (offset + 1) (text.toList ++ ')' :: cs) =
      .ok (text.toList, cs) := readArgument_eq_ok_iff.mpr ⟨htext, rfl⟩
  rw [scan_openParen, hread]
  simp only [String.ofList_toList]

theorem ne_of_isWordChar {c d : Char} (hc : isWordChar c) (hd : isWordChar d = false) : c ≠ d := by
  rintro rfl
  rw [hc] at hd
  cases hd

theorem scan_word {text : String} (hne : text ≠ "") (hchars : ∀ c ∈ text.toList, isWordChar c)
    (hend : ∀ c, cs.head? = some c → isWordChar c = false) :
    scan (.inside opened) offset (text.toList ++ cs) =
      (scan (.inside opened) (offset + byteLength text.toList) cs).map
        (⟨.word text, offset, offset + byteLength text.toList⟩ :: ·) := by
  obtain ⟨c, run, htext⟩ := List.exists_cons_of_ne_nil (mt String.toList_eq_nil_iff.mp hne)
  rw [htext, List.forall_mem_cons] at hchars
  obtain ⟨htake, hdrop⟩ := takeWhile_run hchars.2 hend
  have hwhole : String.ofList (c :: run) = text := by rw [← htext, String.ofList_toList]
  have hother {d : Char} (hd : isWordChar d = false) : c ≠ d := ne_of_isWordChar hchars.1 hd
  have hmark : ¬ (c = '?' ∨ c = '*' ∨ c = '+') := by
    rintro (h | h | h) <;> exact hother (by decide) h
  rw [htext, List.cons_append, scan, if_neg (hother (by decide)), if_neg (hother (by decide)),
    if_neg (hother (by decide)), if_neg hmark, if_neg (hother (by decide)), if_pos hchars.1]
  simp only [htake, hdrop, hwhole]

theorem scan_stray {c : Char} (hc : c ∉ ['}', ':', '=', '?', '*', '+', '('])
    (hword : isWordChar c = false) : scan (.inside opened) offset (c :: cs) =
      (scan (.inside opened) (offset + c.utf8Size) cs).map
        (⟨.stray c, offset, offset + c.utf8Size⟩ :: ·) := by
  simp only [List.mem_cons, List.not_mem_nil, or_false, not_or] at hc
  obtain ⟨hclose, hcolon, hequals, hoptional, hstar, hplus, hparen⟩ := hc
  have hmark : ¬ (c = '?' ∨ c = '*' ∨ c = '+') := by
    rintro (h | h | h)
    · exact hoptional h
    · exact hstar h
    · exact hplus h
  rw [scan, if_neg hclose, if_neg hcolon, if_neg hequals, if_neg hmark, if_neg hparen,
    if_neg (by simp [hword])]

end

/-- Where the scanner stands, if it is inside of braces in a pair opened at a byte. -/
def Mode.of (inside : Bool) (opened : Nat) : Mode :=
  match inside with
  | false => .outside
  | true => .inside opened

theorem byteLength_parentheses (text : List Char) :
    byteLength ('(' :: (text ++ [')'])) = byteLength text + 2 := by
  have hcons (cs : List Char) : byteLength ('(' :: cs) = 1 + byteLength cs := rfl
  have hclose : byteLength [')'] = 1 := rfl
  rw [hcons, byteLength_append, hclose]
  omega

theorem Lexes.ne_nil {cs : List Char} {tokens : List Token} (h : Lexes true cs tokens) :
    cs ≠ [] := by
  cases h with
  | word hne _ _ _ => exact List.append_ne_nil_of_left_ne_nil (mt String.toList_eq_nil_iff.mp hne) _
  | _ => simp

/-- **The tokens that a text spells are found where their spellings stand**, and the scanner
    goes on outside of braces after them. -/
theorem scan_append_of_lexes {inside : Bool} {cs rest : List Char} {tokens : List Token}
    (h : Lexes inside cs tokens) (hrest : ∀ c, rest.head? = some c → isLiteralChar c = false)
    (opened offset : Nat) : scan (.of inside opened) offset (cs ++ rest) =
      (scan .outside (offset + byteLength cs) rest).map (laidFrom offset tokens ++ ·) := by
  -- a token before those of the rest of the text
  have step {mode mode' : Mode} {offset stop : Nat} {cs whole : List Char} {t : Token}
      {tokens : List Token} (hwhole : whole = t.spelling ++ cs)
      (hstop : stop = offset + byteLength t.spelling)
      (hscan : scan mode' offset (whole ++ rest) =
        (scan mode stop (cs ++ rest)).map (⟨t, offset, stop⟩ :: ·))
      (ih : scan mode stop (cs ++ rest) =
        (scan .outside (stop + byteLength cs) rest).map (laidFrom stop tokens ++ ·)) :
      scan mode' offset (whole ++ rest) = (scan .outside (offset + byteLength whole) rest).map
        (laidFrom offset (t :: tokens) ++ ·) := by
    subst hwhole hstop
    rw [hscan, ih, byteLength_append, Nat.add_assoc]
    cases scan .outside (offset + (byteLength t.spelling + byteLength cs)) rest <;> rfl
  induction h generalizing opened offset with
  | done =>
    show scan .outside offset rest = (scan .outside offset rest).map _
    cases scan .outside offset rest <;> rfl
  | slash _ ih => exact step rfl rfl scan_slash (ih opened _)
  | openBrace _ ih => exact step rfl rfl scan_openBrace (ih offset _)
  | @literal text cs _ hne hchars hend _ ih =>
    refine step rfl rfl ?_ (ih opened _)
    rw [List.append_assoc]
    refine scan_literal hne hchars ?_
    intro c hc
    cases cs with -- a literal at the end of the text must not run on into what follows it
    | nil => exact hrest c hc
    | cons d cs => exact hend c hc
  | closeBrace _ ih => exact step rfl rfl scan_closeBrace (ih opened _)
  | colon _ ih => exact step rfl rfl scan_colon (ih opened _)
  | equals _ ih => exact step rfl rfl scan_equals (ih opened _)
  | quantifier hmark _ ih =>
    refine step rfl ?_ (scan_quantifier hmark) (ih opened _)
    rcases hmark with rfl | rfl | rfl <;> rfl
  | @argument text _ _ htext _ ih =>
    refine step (by simp [Token.spelling]) ?_ ?_ (ih opened (offset + byteLength text.toList + 2))
    · rw [Token.spelling, byteLength_parentheses, Nat.add_assoc]
    · rw [List.cons_append, List.append_assoc, List.cons_append]
      exact scan_argument htext
  | @word text cs _ hne hchars hend h ih =>
    refine step rfl rfl ?_ (ih opened _)
    rw [List.append_assoc]
    refine scan_word hne hchars ?_
    intro c hc
    -- inside of braces the tokens go on, at the least with the closing brace
    rw [List.head?_append_of_ne_nil _ h.ne_nil] at hc
    exact hend c hc
  | stray hc hword _ ih => exact step rfl rfl (scan_stray hc hword) (ih opened _)

theorem scan_of_lexes {inside : Bool} {cs : List Char} {tokens : List Token}
    (h : Lexes inside cs tokens) (opened offset : Nat) :
    scan (.of inside opened) offset cs = .ok (laidFrom offset tokens) := by
  have happend : scan (.of inside opened) offset (cs ++ []) = _ :=
    scan_append_of_lexes h (by simp) opened offset
  rw [List.append_nil, scan] at happend
  rw [happend]
  exact congrArg Except.ok (List.append_nil _)

/-- Scanning is a function, so a text is the spelling of one list of tokens at most. -/
theorem Lexes.unique {inside : Bool} {cs : List Char} {tokens tokens' : List Token}
    (h : Lexes inside cs tokens) (h' : Lexes inside cs tokens') : tokens = tokens' := by
  have hscan := scan_of_lexes h 0 0
  rw [scan_of_lexes h' 0 0] at hscan
  have heq := congrArg (List.map Spanned.token) (Except.ok.inj hscan)
  rw [map_token_laidFrom, map_token_laidFrom] at heq
  exact heq.symm

/-- **The scanner finds the tokens that a template spells, and no others.** -/
theorem exists_tokens_iff {template : String} {tokens : List Token} :
    (∃ ts, Template.tokens template = .ok ts ∧ ts.map Spanned.token = tokens) ↔
      Lexes false template.toList tokens := by
  constructor
  · rintro ⟨ts, hts, rfl⟩
    exact lexes_of_scan hts
  · intro h
    exact ⟨laidFrom 0 tokens, scan_of_lexes h 0 0, map_token_laidFrom 0 tokens⟩

theorem Lexes.ne_of_mem_word {inside : Bool} {cs : List Char} {tokens : List Token}
    (h : Lexes inside cs tokens) {word : String} (hword : .word word ∈ tokens) :
    word ≠ "" ∧ word ≠ "=" := by
  induction h with
  | word hne hchars _ _ ih =>
    rcases List.mem_cons.mp hword with heq | hword
    · cases heq
      refine ⟨hne, ?_⟩
      rintro rfl
      exact absurd (hchars '=' (by simp)) (by decide)
    · exact ih hword
  | done => cases hword
  | _ =>
    rename_i ih
    exact ih (by simpa using hword)

end Routing.Template
