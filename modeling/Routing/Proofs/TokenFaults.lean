/-
  Routing/Proofs/TokenFaults.lean
  ===============================
  **Which templates have no tokens, and what is reported of them.**  Scanning fails in three
  ways. A parameter is never closed, although its arguments are complete; an argument is
  never closed, although its delimiters are nested as far as it goes; or a delimiter closes
  another one than the innermost that is open. `tokens_eq_error_iff` says of each when it is
  reported, and at which byte.

  The open delimiters of an argument are what its scan is about: `Leaves` says of a text which
  closing delimiters are due after it, and `Leaves.readArgument_append` that the scan stands
  with exactly these. Outside of arguments, an error does not depend on how the characters in
  front of it are grouped into tokens, so these are gone through one by one.
-/
import Routing.Proofs.Scanning

namespace Routing.Template

/-! ### The faults -/

/-- A properly nested text starts with the characters, so none of their closing delimiters
    is of the wrong kind. -/
def NestedSoFar (cs : List Char) : Prop :=
  ∃ more, Balanced (cs ++ more)

/-- What starts with an opening delimiter has it open to the end: nothing in front is properly
    nested. -/
def NeverCloses (cs : List Char) : Prop :=
  ∀ front, front ≠ [] → front <+: cs → ¬ Balanced front

/-- A parameter is open behind these characters: none of them closes it, and its arguments
    are complete. -/
inductive KeepsOpen : List Char → Prop
  | nil : KeepsOpen []
  | char {c : Char} {cs : List Char} (hc : c ∉ ['\x7d', '(']) (h : KeepsOpen cs) :
    KeepsOpen (c :: cs)
  | argument {text cs : List Char} (htext : Balanced text) (h : KeepsOpen cs) :
    KeepsOpen ('(' :: (text ++ ')' :: cs))

def HasTokens (cs : List Char) : Prop :=
  ∃ ts, tokens (String.ofList cs) = .ok ts

/-- The template has a parameter that is still open behind `inner`, and `rest` comes then.
    `place` is the byte that `rest` starts at, and `opened` that of the parameter's brace. -/
structure StandsInside (template : String) (opened : Nat) (inner rest : List Char)
    (place : Nat) : Prop where
  split : ∃ before, template.toList = before ++ '\x7b' :: (inner ++ rest) ∧ HasTokens before ∧
    opened = byteLength before
  keepsOpen : KeepsOpen inner
  place : place = opened + 1 + byteLength inner

/-- The character at byte `place` closes another delimiter than the innermost one that is open:
    it stands in an argument whose text so far is nested, behind an opening delimiter of the
    other kind with nothing but nested text since then. -/
inductive Mismatch (template : String) (closer : Char) : Nat → Prop
  | intro {opened start : Nat} {inner text outer nested rest : List Char} {opener : Char}
      (hplace : StandsInside template opened inner ('(' :: (text ++ closer :: rest)) start)
      (hopen : NeverCloses ('(' :: text)) (hnested : NestedSoFar ('(' :: text))
      (hinnermost : '(' :: text = outer ++ opener :: nested) (hsince : Balanced nested)
      (hkinds : (opener, closer) ∈ [('(', '\x7d'), ('\x7b', ')')]) :
      Mismatch template closer (start + byteLength ('(' :: text))

inductive FaultAt (template : String) : TokenError → Prop
  | unterminatedParameter {opened stop : Nat} {inner : List Char}
      (h : StandsInside template opened inner [] stop) :
      FaultAt template ⟨.unterminatedParameter, opened⟩
  | unterminatedArgument {opened start : Nat} {inner text : List Char}
      (h : StandsInside template opened inner ('(' :: text) start)
      (hopen : NeverCloses ('(' :: text)) (hnested : NestedSoFar ('(' :: text)) :
      FaultAt template ⟨.unterminatedArgument, start⟩
  | mismatchedDelimiter {closer : Char} {place : Nat} (h : Mismatch template closer place)
      (hfirst : ∀ other later, Mismatch template other later → place ≤ later) :
      FaultAt template ⟨.mismatchedDelimiter closer, place⟩

/-! ### What is due in an argument -/

/-- The text opens delimiters, the first of them in front, and the closing ones `due` are due
    behind it, innermost first. -/
inductive Leaves : List Char → List Char → Prop
  | nil : Leaves [] []
  | opener {due front nested : List Char} {opener closer : Char} (hfront : Leaves due front)
      (hpair : closerOf? opener = some closer) (hnested : Balanced nested) :
      Leaves (closer :: due) (front ++ opener :: nested)

namespace Leaves

variable {due front text : List Char}

theorem due_eq_nil (h : Leaves due front) (hfront : front = []) : due = [] := by
  cases h with
  | nil => rfl
  | opener _ _ _ => exact absurd hfront (by simp)

theorem append (h : Leaves due front) (hdue : due ≠ []) (htext : Balanced text) :
    Leaves due (front ++ text) := by
  cases h with
  | nil => exact absurd rfl hdue
  | opener hfront hpair hnested =>
    rw [List.append_assoc, List.cons_append]
    exact .opener hfront hpair (hnested.append htext)

/-- The innermost delimiter that is open is closed. -/
theorem close {closer : Char} (h : Leaves (closer :: due) front) (hdue : due ≠ []) :
    Leaves due (front ++ [closer]) := by
  cases h with
  | @opener _ front nested opener _ hfront hpair hnested =>
    have hclosed : Balanced (opener :: (nested ++ [closer])) :=
      .nested (mem_pairs_iff.mpr hpair) hnested .nil
    have hwhole := hfront.append hdue hclosed
    rwa [List.append_assoc, List.cons_append]

/-- What is due completes the text. -/
theorem balanced (h : Leaves due front) (htext : Balanced text) :
    Balanced (front ++ (text ++ due)) := by
  induction h generalizing text with
  | nil =>
    rw [List.nil_append, List.append_nil]
    exact htext
  | @opener due front nested opener closer _ hpair hnested ih =>
    have hclosed : Balanced (opener :: ((nested ++ text) ++ [closer])) :=
      .nested (mem_pairs_iff.mpr hpair) (hnested.append htext) .nil
    have hwhole := ih hclosed
    simpa using hwhole

/-- **The scan of an argument stands with what is due.** -/
theorem readArgument_append (h : Leaves due ('(' :: text)) (start offset : Nat)
    (cs : List Char) : readArgument start [')'] offset (text ++ cs) =
      (readArgument start due (offset + byteLength text) cs).map
        fun (argument, rest) => (text ++ argument, rest) := by
  generalize hwhole : '(' :: text = whole at h
  induction h generalizing text cs with
  | nil => cases hwhole
  | @opener due front nested opener closer hfront hpair hnested ih =>
    rcases List.cons_eq_append_iff.mp hwhole with ⟨rfl, heq⟩ | ⟨front, rfl, rfl⟩
    · -- the parenthesis of the argument is the innermost delimiter
      cases heq
      cases hfront.due_eq_nil rfl
      cases hpair
      exact Template.readArgument_append hnested (List.cons_ne_nil _ _) offset cs
    · rw [List.append_assoc, ih _ rfl, List.cons_append]
      simp only [readArgument, hpair]
      rw [Template.readArgument_append hnested (List.cons_ne_nil _ _), byteLength_append,
        byteLength_cons, ← Nat.add_assoc, ← Nat.add_assoc]
      cases readArgument start (closer :: due) _ cs <;> simp [Except.map]

end Leaves

/-- Why the scan of an argument that starts at byte `start` fails behind `front`, its text from
    the parenthesis on up to byte `offset`. -/
inductive Stuck (start offset : Nat) (front cs : List Char) : TokenError → Prop
  | ended {due : List Char} (h : Leaves due (front ++ cs)) :
    Stuck start offset front cs ⟨.unterminatedArgument, start⟩
  | mismatched {before rest due : List Char} {closer wanted : Char}
      (hsplit : cs = before ++ closer :: rest) (h : Leaves (wanted :: due) (front ++ before))
      (hcloser : closer = ')' ∨ closer = '\x7d') (hne : wanted ≠ closer) :
      Stuck start offset front cs ⟨.mismatchedDelimiter closer, offset + byteLength before⟩

theorem Stuck.cons {start offset : Nat} {front cs : List Char} {c : Char} {e : TokenError}
    (h : Stuck start (offset + c.utf8Size) (front ++ [c]) cs e) :
    Stuck start offset front (c :: cs) e := by
  cases h with
  | ended h =>
    rw [List.append_assoc] at h
    exact .ended h
  | mismatched hsplit h hcloser hne =>
    rw [List.append_assoc] at h
    rw [Nat.add_assoc]
    exact .mismatched (congrArg (c :: ·) hsplit) h hcloser hne

theorem stuck_of_readArgument {start offset : Nat} {due front cs : List Char} {e : TokenError}
    (hfront : Leaves due front) (hdue : due ≠ [])
    (h : readArgument start due offset cs = .error e) : Stuck start offset front cs e := by
  induction cs generalizing due front offset with
  | nil =>
    cases h
    rw [← List.append_nil front] at hfront
    exact .ended hfront
  | cons c cs ih =>
    simp only [readArgument] at h
    split at h
    · next closer hpair => -- one more closing delimiter is due
      exact (ih (.opener hfront hpair .nil) (List.cons_ne_nil _ _) (Except.map_eq_error.mp h)).cons
    · next hopener =>
      split at h
      · next hcloser =>
        split at h
        · exact absurd rfl hdue
        · next wanted outer =>
          split at h
          · next hne => -- another delimiter is due: the scan is stuck here
            cases h
            rw [← List.append_nil front] at hfront
            have hstuck : Stuck start offset front (c :: cs)
                ⟨.mismatchedDelimiter c, offset + byteLength []⟩ :=
              .mismatched rfl hfront hcloser hne
            exact hstuck
          · next heq =>
            have hc : wanted = c := not_not.mp heq
            subst hc
            split at h
            · -- the last one was closed, so the argument would have been read
              cases h
            · next houter =>
              have houter : outer ≠ [] := by simpa using houter
              exact (ih (hfront.close houter) houter (Except.map_eq_error.mp h)).cons
      · next hcloser =>
        have hother : Balanced [c] := .other (not_mem_delimiters_iff.mpr ⟨hopener, hcloser⟩) .nil
        exact (ih (hfront.append hdue hother) hdue (Except.map_eq_error.mp h)).cons

/-- **An argument is not read exactly if its scan is stuck.** -/
theorem readArgument_eq_error_iff {start offset : Nat} {cs : List Char} {e : TokenError} :
    readArgument start [')'] offset cs = .error e ↔ Stuck start offset ['('] cs e := by
  constructor
  · intro h
    have hparenthesis : Leaves [')'] ['('] := .opener .nil rfl .nil
    exact stuck_of_readArgument hparenthesis (List.cons_ne_nil _ _) h
  · intro h
    cases h with
    | @ended due h =>
      have h : Leaves due ('(' :: cs) := h
      -- the scan goes on up to the end, where delimiters are still due
      have hread := h.readArgument_append start offset []
      rw [List.append_nil] at hread
      rw [hread]
      rfl
    | @mismatched before rest due closer wanted hsplit h hcloser hne =>
      have h : Leaves (wanted :: due) ('(' :: before) := h
      have hnone : closerOf? closer = none := by
        rcases hcloser with rfl | rfl <;> decide
      rw [hsplit, h.readArgument_append]
      simp only [readArgument, hnone, if_pos hcloser, if_pos hne]
      rfl

/-! ### Nested texts -/

/-- A nested text that starts with a parenthesis has the parenthesis that closes it. -/
theorem exists_argument_of_balanced {text : List Char} (h : Balanced ('(' :: text)) :
    ∃ inner rest, text = inner ++ ')' :: rest ∧ Balanced inner := by
  cases h with
  | other hc _ => exact absurd List.mem_cons_self hc
  | @nested _ closer inner rest hpair hinner _ =>
    cases mem_pairs_iff.mp hpair
    exact ⟨inner, rest, rfl, hinner⟩

theorem NeverCloses.of_prefix {front cs : List Char} (h : NeverCloses cs) (hfront : front <+: cs) :
    NeverCloses front := by
  intro start hne hstart
  exact h start hne (hstart.trans hfront)

theorem NestedSoFar.of_prefix {front cs : List Char} (h : NestedSoFar cs) (hfront : front <+: cs) :
    NestedSoFar front := by
  obtain ⟨more, hmore⟩ := h
  obtain ⟨rest, rfl⟩ := hfront
  rw [List.append_assoc] at hmore
  exact ⟨rest ++ more, hmore⟩

/-- **Closing delimiters are due behind a text exactly if it is nested as far as it goes and
    never closes.** -/
theorem exists_leaves_iff {text : List Char} :
    (∃ due, Leaves due ('(' :: text)) ↔ NeverCloses ('(' :: text) ∧ NestedSoFar ('(' :: text) := by
  constructor
  · rintro ⟨due, h⟩
    refine ⟨?_, due, h.balanced .nil⟩
    rintro front hne ⟨rest, hsplit⟩ hfront
    obtain ⟨c, front, rfl⟩ := List.exists_cons_of_ne_nil hne
    obtain ⟨rfl, htext⟩ := List.cons.inj hsplit
    obtain ⟨inner, after, rfl, hinner⟩ := exists_argument_of_balanced hfront
    -- the scan of the text succeeds, but ends with delimiters due
    have hok : readArgument 0 [')'] 0 text = .ok (inner, after ++ rest) := by
      rw [readArgument_eq_ok_iff, ← htext]
      exact ⟨hinner, by simp⟩
    have hstuck : Stuck 0 0 ['('] text ⟨.unterminatedArgument, 0⟩ := .ended h
    rw [readArgument_eq_error_iff.mpr hstuck] at hok
    cases hok
  · rintro ⟨hopen, more, hmore⟩
    cases hread : readArgument 0 [')'] 0 text with
    | ok read =>
      obtain ⟨inner, rest⟩ := read
      obtain ⟨hinner, rfl⟩ := readArgument_eq_ok_iff.mp hread
      have hclosed : Balanced ('(' :: (inner ++ [')'])) :=
        .nested (mem_pairs_iff.mpr rfl) hinner .nil
      -- an argument that is read closes, against the assumption
      refine absurd hclosed (hopen _ (List.cons_ne_nil _ _) ⟨rest, ?_⟩)
      simp
    | error e =>
      cases readArgument_eq_error_iff.mp hread with
      | @ended due h => exact ⟨due, h⟩
      | @mismatched before rest due closer wanted hsplit h hcloser hne =>
        -- whatever follows, the wrong delimiter keeps the scan from going on
        subst hsplit
        obtain ⟨inner, after, htext, hinner⟩ := exists_argument_of_balanced hmore
        have hok : readArgument 0 [')'] 0 (before ++ closer :: (rest ++ more)) =
            .ok (inner, after) := by
          rw [readArgument_eq_ok_iff, ← htext]
          exact ⟨hinner, by simp⟩
        have hstuck : Stuck 0 0 ['('] (before ++ closer :: (rest ++ more))
            ⟨.mismatchedDelimiter closer, 0 + byteLength before⟩ :=
          .mismatched rfl h hcloser hne
        rw [readArgument_eq_error_iff.mpr hstuck] at hok
        cases hok

/-- What is due first is the closing delimiter of the innermost one that is open. -/
theorem leaves_cons_iff {text : List Char} {wanted : Char} :
    (∃ due, Leaves (wanted :: due) ('(' :: text)) ↔
      NeverCloses ('(' :: text) ∧ NestedSoFar ('(' :: text) ∧
        ∃ outer opener nested, '(' :: text = outer ++ opener :: nested ∧ Balanced nested ∧
          closerOf? opener = some wanted := by
  constructor
  · rintro ⟨due, h⟩
    obtain ⟨hopen, hnested⟩ := exists_leaves_iff.mp ⟨_, h⟩
    refine ⟨hopen, hnested, ?_⟩
    generalize '(' :: text = whole at h
    cases h with
    | opener hfront hpair hsince => exact ⟨_, _, _, rfl, hsince, hpair⟩
  · rintro ⟨hopen, hnested, outer, opener, nested, hsplit, hsince, hpair⟩
    have houter : outer <+: '(' :: text := ⟨opener :: nested, hsplit.symm⟩
    have hfront : ∃ due, Leaves due outer := by
      rcases List.cons_eq_append_iff.mp hsplit with ⟨rfl, -⟩ | ⟨front, rfl, -⟩
      · exact ⟨[], .nil⟩
      · exact exists_leaves_iff.mpr ⟨hopen.of_prefix houter, hnested.of_prefix houter⟩
    obtain ⟨due, hfront⟩ := hfront
    exact ⟨due, hsplit ▸ .opener hfront hpair hsince⟩

/-! ### Errors of the scanner, character by character -/

section

variable {opened offset : Nat} {cs rest : List Char} {e : TokenError}

/-- Where the scanner reads runs of a kind as one token, an error does not tell whether the
    first character of a run stands in front of it. -/
theorem scan_run_eq_error_iff {mode : Mode} {kind : Char → Bool}
    (hrun : ∀ {offset c cs}, kind c → (scan mode offset (c :: cs) = .error e ↔
      scan mode (offset + byteLength (c :: cs.takeWhile kind)) (cs.dropWhile kind) = .error e))
    {c : Char} (hc : kind c) : scan mode offset (c :: cs) = .error e ↔
      scan mode (offset + c.utf8Size) cs = .error e := by
  rw [hrun hc]
  cases cs with
  | nil => exact Iff.rfl
  | cons d cs =>
    by_cases hd : kind d
    · rw [hrun hd, List.takeWhile_cons_of_pos hd, List.dropWhile_cons_of_pos hd,
        byteLength_cons, Nat.add_assoc]
    · rw [List.takeWhile_cons_of_neg hd, List.dropWhile_cons_of_neg hd]
      exact Iff.rfl

/-- Outside of braces, nothing but an opening brace can lead to a fault. -/
theorem scan_outside_eq_error_iff {c : Char} (hc : c ≠ '\x7b') :
    scan .outside offset (c :: cs) = .error e ↔
      scan .outside (offset + c.utf8Size) cs = .error e := by
  by_cases hslash : c = '/'
  · subst hslash
    rw [scan_slash, Except.map_eq_error]
    exact Iff.rfl
  · have hliteral : isLiteralChar c := by simp [isLiteralChar, hslash, hc]
    refine scan_run_eq_error_iff (fun {offset c cs} hchar => ?_) hliteral
    have hchar' : c ≠ '/' ∧ c ≠ '\x7b' := by simpa [isLiteralChar] using hchar
    rw [scan, if_neg hchar'.1, if_neg hchar'.2, Except.map_eq_error]

theorem scan_inside_eq_error_iff {c : Char} (hc : c ∉ ['\x7d', '(']) :
    scan (.inside opened) offset (c :: cs) = .error e ↔
      scan (.inside opened) (offset + c.utf8Size) cs = .error e := by
  have hne : c ≠ '\x7d' ∧ c ≠ '(' := by simpa using hc
  by_cases hsign : c = ':' ∨ c = '='
  · rcases hsign with rfl | rfl
    · rw [scan_colon, Except.map_eq_error]
      exact Iff.rfl
    · rw [scan_equals, Except.map_eq_error]
      exact Iff.rfl
  rw [not_or] at hsign
  by_cases hmark : c = '?' ∨ c = '*' ∨ c = '+'
  · have hsize : c.utf8Size = 1 := by
      rcases hmark with rfl | rfl | rfl <;> rfl
    rw [scan_quantifier hmark, Except.map_eq_error, hsize]
  by_cases hword : isWordChar c
  · refine scan_run_eq_error_iff (fun {offset c cs} hchar => ?_) hword
    have hhead (d : Char) (hd : (cs.dropWhile isWordChar).head? = some d) :
        isWordChar d = false := head?_dropWhile hd
    have hchars : ∀ d ∈ (String.ofList (c :: cs.takeWhile isWordChar)).toList, isWordChar d := by
      rw [String.toList_ofList]
      exact List.forall_mem_cons.mpr ⟨hchar, fun d hd => List.mem_takeWhile_imp hd⟩
    have hscan : scan (.inside opened) offset
        ((String.ofList (c :: cs.takeWhile isWordChar)).toList ++ cs.dropWhile isWordChar) = _ :=
      scan_word (by simp [String.ext_iff]) hchars hhead
    rw [String.toList_ofList, List.cons_append, List.takeWhile_append_dropWhile] at hscan
    rw [hscan, Except.map_eq_error]
  · rw [not_or, not_or] at hmark
    have hstray : c ∉ ['\x7d', ':', '=', '?', '*', '+', '('] := by
      simp [hne, hsign, hmark]
    rw [scan_stray hstray (by simpa using hword), Except.map_eq_error]

/-- **What leaves a parameter open is passed over.** -/
theorem scan_keepsOpen {inner : List Char} (hinner : KeepsOpen inner) :
    scan (.inside opened) offset (inner ++ rest) = .error e ↔
      scan (.inside opened) (offset + byteLength inner) rest = .error e := by
  induction hinner generalizing offset with
  | nil => exact Iff.rfl
  | char hc _ ih =>
    rw [List.cons_append, scan_inside_eq_error_iff hc, byteLength_cons, ← Nat.add_assoc]
    exact ih
  | @argument text cs htext _ ih =>
    have hwhole : '(' :: (text ++ ')' :: cs) ++ rest =
        '(' :: ((String.ofList text).toList ++ ')' :: (cs ++ rest)) := by simp
    have hlength :
        byteLength ('(' :: (text ++ ')' :: cs)) = byteLength text + 2 + byteLength cs := by
      have hclosed : '(' :: (text ++ ')' :: cs) = '(' :: (text ++ [')']) ++ cs := by simp
      rw [hclosed, byteLength_append, byteLength_parentheses]
    have htext : Balanced (String.ofList text).toList := by rwa [String.toList_ofList]
    rw [hwhole, scan_argument htext, Except.map_eq_error, String.toList_ofList, hlength,
      ← Nat.add_assoc, ← Nat.add_assoc]
    exact ih

theorem hasTokens_iff : HasTokens cs ↔ ∃ tokens, Lexes false cs tokens := by
  unfold HasTokens
  constructor
  · rintro ⟨ts, hts⟩
    have hlexes := exists_tokens_iff.mp ⟨ts, hts, rfl⟩
    rw [String.toList_ofList] at hlexes
    exact ⟨_, hlexes⟩
  · rintro ⟨tokens, hlexes⟩
    rw [← @String.toList_ofList cs] at hlexes
    obtain ⟨ts, hts, -⟩ := exists_tokens_iff.mpr hlexes
    exact ⟨ts, hts⟩

/-- A text has tokens wherever it stands, or nowhere. -/
theorem hasTokens_iff_not_error (offset : Nat) :
    HasTokens cs ↔ ¬ ∃ e, scan .outside offset cs = .error e := by
  rw [hasTokens_iff]
  constructor
  · rintro ⟨tokens, hlexes⟩ ⟨e, he⟩
    have hscan : scan .outside offset cs = _ := scan_of_lexes hlexes 0 offset
    rw [hscan] at he
    cases he
  · intro hno
    cases hscan : scan .outside offset cs with
    | ok ts => exact ⟨_, lexes_of_scan hscan⟩
    | error e => exact absurd ⟨e, hscan⟩ hno

/-- A brace behind a text that has tokens opens a parameter. -/
theorem scan_parameter {before : List Char} (hbefore : HasTokens before) :
    scan .outside offset (before ++ '\x7b' :: rest) = .error e ↔
      scan (.inside (offset + byteLength before)) (offset + byteLength before + 1) rest =
        .error e := by
  obtain ⟨tokens, hlexes⟩ := hasTokens_iff.mp hbefore
  have hbrace : ∀ c, ('\x7b' :: rest).head? = some c → isLiteralChar c = false := by
    rintro c ⟨⟩
    rfl
  have hscan : scan .outside offset (before ++ '\x7b' :: rest) = _ :=
    scan_append_of_lexes hlexes hbrace 0 offset
  rw [hscan, Except.map_eq_error, scan_openBrace, Except.map_eq_error]

end

/-! ### Texts without tokens -/

def Unread (cs : List Char) : Prop :=
  ∃ text, cs = '(' :: text ∧ ∀ inner rest, text = inner ++ ')' :: rest → ¬ Balanced inner

/-- A text goes on in a parameter until it ends, the parameter is closed, or an argument
    is not. -/
theorem exists_keepsOpen (cs : List Char) : ∃ inner rest, cs = inner ++ rest ∧ KeepsOpen inner ∧
    (rest = [] ∨ (∃ after, rest = '\x7d' :: after) ∨ Unread rest) := by
  induction hlength : cs.length using Nat.strong_induction_on generalizing cs with
  | _ n ih =>
    subst hlength
    cases cs with
    | nil => exact ⟨[], [], rfl, .nil, .inl rfl⟩
    | cons c cs =>
      by_cases hclose : c = '\x7d'
      · exact ⟨[], c :: cs, rfl, .nil, .inr (.inl ⟨cs, by rw [hclose]⟩)⟩
      by_cases hparenthesis : c = '('
      · subst hparenthesis
        by_cases hread : ∃ text after, cs = text ++ ')' :: after ∧ Balanced text
        · obtain ⟨text, after, rfl, htext⟩ := hread
          have hshorter : after.length < ('(' :: (text ++ ')' :: after)).length := by
            simp only [List.length_cons, List.length_append]
            omega
          obtain ⟨inner, rest, rfl, hinner, hrest⟩ := ih _ hshorter after rfl
          exact ⟨'(' :: (text ++ ')' :: inner), rest, by simp, .argument htext hinner, hrest⟩
        · refine ⟨[], '(' :: cs, rfl, .nil, .inr (.inr ⟨cs, rfl, ?_⟩)⟩
          intro inner rest hsplit hinner
          exact hread ⟨inner, rest, hsplit, hinner⟩
      · obtain ⟨inner, rest, rfl, hinner, hrest⟩ := ih cs.length (Nat.lt_succ_self _) cs rfl
        exact ⟨c :: inner, rest, rfl, .char (by simp [hclose, hparenthesis]) hinner, hrest⟩

theorem hasTokens_cons_iff {c : Char} (hbrace : c ≠ '\x7b') (cs : List Char) :
    HasTokens (c :: cs) ↔ HasTokens cs := by
  rw [hasTokens_iff_not_error 0, hasTokens_iff_not_error (0 + c.utf8Size)]
  simp only [scan_outside_eq_error_iff hbrace]

/-- A parameter that is closed does not matter. -/
theorem hasTokens_closed_iff {inner : List Char} (hinner : KeepsOpen inner) (cs : List Char) :
    HasTokens ('\x7b' :: (inner ++ '\x7d' :: cs)) ↔ HasTokens cs := by
  have hparameter (offset : Nat) (e : TokenError) :
      scan .outside offset ('\x7b' :: (inner ++ '\x7d' :: cs)) = .error e ↔
        scan .outside (offset + 1 + byteLength inner + 1) cs = .error e := by
    rw [scan_openBrace, Except.map_eq_error, scan_keepsOpen hinner, scan_closeBrace,
      Except.map_eq_error]
  rw [hasTokens_iff_not_error 0, hasTokens_iff_not_error (0 + 1 + byteLength inner + 1)]
  simp only [hparameter]

/-- A text without tokens has a parameter that is open to its end or has an argument that is
    not closed. -/
theorem exists_parameter_of_not_hasTokens {cs : List Char} (h : ¬ HasTokens cs) :
    ∃ before inner rest, cs = before ++ '\x7b' :: (inner ++ rest) ∧ HasTokens before ∧
      KeepsOpen inner ∧ (rest = [] ∨ Unread rest) := by
  have hempty : HasTokens [] := hasTokens_iff.mpr ⟨[], .done⟩
  induction hlength : cs.length using Nat.strong_induction_on generalizing cs with
  | _ n ih =>
    subst hlength
    cases cs with
    | nil => exact absurd hempty h
    | cons c cs =>
      by_cases hbrace : c = '\x7b'
      · subst hbrace
        obtain ⟨inner, rest, rfl, hinner, hrest⟩ := exists_keepsOpen cs
        rcases hrest with rfl | ⟨after, rfl⟩ | hunread
        · exact ⟨[], inner, [], rfl, hempty, hinner, .inl rfl⟩
        · have hshorter : after.length < ('\x7b' :: (inner ++ '\x7d' :: after)).length := by
            simp only [List.length_cons, List.length_append]
            omega
          rw [hasTokens_closed_iff hinner] at h
          obtain ⟨before, later, rest, rfl, hbefore, hlater, hrest⟩ := ih _ hshorter h rfl
          exact ⟨'\x7b' :: (inner ++ '\x7d' :: before), later, rest, by simp,
            (hasTokens_closed_iff hinner before).mpr hbefore, hlater, hrest⟩
        · exact ⟨[], inner, rest, rfl, hempty, hinner, .inr hunread⟩
      · rw [hasTokens_cons_iff hbrace] at h
        obtain ⟨before, inner, rest, rfl, hbefore, hinner, hrest⟩ :=
          ih cs.length (Nat.lt_succ_self _) h rfl
        exact ⟨c :: before, inner, rest, rfl, (hasTokens_cons_iff hbrace before).mpr hbefore,
          hinner, hrest⟩

/-! ### A whole template -/

section

variable {template : String} {opened place : Nat} {inner rest text : List Char} {e : TokenError}

/-- The scanner goes on where it stands inside of a parameter. -/
theorem StandsInside.error_iff (h : StandsInside template opened inner rest place) :
    tokens template = .error e ↔ scan (.inside opened) place rest = .error e := by
  obtain ⟨⟨before, htemplate, hbefore, rfl⟩, hinner, rfl⟩ := h
  rw [tokens, htemplate, scan_parameter hbefore, scan_keepsOpen hinner, Nat.zero_add]

/-- An argument in which the scan is stuck is what is reported. -/
theorem StandsInside.tokens_of_stuck
    (h : StandsInside template opened inner ('(' :: text) place)
    (hstuck : Stuck place (place + 1) ['('] text e) : tokens template = .error e := by
  rw [h.error_iff, scan_openParen, readArgument_eq_error_iff.mpr hstuck]

/-- A delimiter of the other kind is a closing one, and not the one that is wanted. -/
theorem mem_kinds_iff {opener closer : Char} : (opener, closer) ∈ [('(', '\x7d'), ('\x7b', ')')] ↔
    ∃ wanted, closerOf? opener = some wanted ∧ wanted ≠ closer ∧
      (closer = ')' ∨ closer = '\x7d') := by
  constructor
  · intro hkinds
    rcases List.mem_pair.mp hkinds with heq | heq
    · cases heq
      exact ⟨')', rfl, by decide, .inr rfl⟩
    · cases heq
      exact ⟨'\x7d', rfl, by decide, .inl rfl⟩
  · rintro ⟨wanted, hpair, hne, hcloser⟩
    rcases List.mem_pair.mp (mem_pairs_iff.mpr hpair) with heq | heq
    · cases heq
      cases hcloser.resolve_left (Ne.symm hne)
      exact List.mem_cons_self
    · cases heq
      cases hcloser.resolve_right (Ne.symm hne)
      exact List.mem_cons_of_mem _ List.mem_cons_self

theorem Mismatch.tokens_eq {closer : Char} (h : Mismatch template closer place) :
    tokens template = .error ⟨.mismatchedDelimiter closer, place⟩ := by
  cases h with
  | @intro opened start inner text outer nested rest opener hplace hopen hnested hinnermost hsince
      hkinds =>
    obtain ⟨wanted, hpair, hne, hcloser⟩ := mem_kinds_iff.mp hkinds
    obtain ⟨due, hleaves⟩ := leaves_cons_iff.mpr
      ⟨hopen, hnested, outer, opener, nested, hinnermost, hsince, hpair⟩
    have hstuck : Stuck start (start + 1) ['('] (text ++ closer :: rest)
        ⟨.mismatchedDelimiter closer, start + 1 + byteLength text⟩ :=
      .mismatched rfl hleaves hcloser hne
    have hlength : start + byteLength ('(' :: text) = start + 1 + byteLength text := by
      rw [Nat.add_assoc]
      rfl
    rw [hlength]
    exact hplace.tokens_of_stuck hstuck

theorem FaultAt.of_stuck (h : StandsInside template opened inner ('(' :: text) place)
    (hstuck : Stuck place (place + 1) ['('] text e) : FaultAt template e := by
  have htokens := h.tokens_of_stuck hstuck
  cases hstuck with
  | ended hleaves =>
    obtain ⟨hopen, hnested⟩ := exists_leaves_iff.mp ⟨_, hleaves⟩
    exact .unterminatedArgument h hopen hnested
  | @mismatched before rest due closer wanted hsplit hleaves hcloser hne =>
    subst hsplit
    obtain ⟨hopen, hnested, outer, opener, nested, hinnermost, hsince, hpair⟩ :=
      leaves_cons_iff.mp ⟨due, hleaves⟩
    have hkinds := mem_kinds_iff.mpr ⟨wanted, hpair, hne, hcloser⟩
    have hmismatch := Mismatch.intro h hopen hnested hinnermost hsince hkinds
    have hlength : place + byteLength ('(' :: before) = place + 1 + byteLength before := by
      rw [Nat.add_assoc]
      rfl
    rw [hlength] at hmismatch
    refine .mismatchedDelimiter hmismatch ?_
    -- another mismatch would be reported too
    intro other later hother
    rw [hother.tokens_eq] at htokens
    cases htokens
    exact Nat.le_refl _

end

/-- **Scanning fails exactly at the faults of a template**, and the error names the fault and
    the byte. -/
theorem tokens_eq_error_iff {template : String} {e : TokenError} :
    tokens template = .error e ↔ FaultAt template e := by
  constructor
  · intro h
    have hno : ¬ HasTokens template.toList := by
      rw [hasTokens_iff_not_error 0, not_not]
      exact ⟨e, h⟩
    obtain ⟨before, inner, rest, hsplit, hbefore, hinner, hrest⟩ :=
      exists_parameter_of_not_hasTokens hno
    have hplace : StandsInside template (byteLength before) inner rest _ :=
      ⟨⟨before, hsplit, hbefore, rfl⟩, hinner, rfl⟩
    -- the tokens end inside of braces, or at an argument that cannot be read
    rcases hrest with rfl | ⟨text, rfl, hunread⟩
    · rw [hplace.error_iff, scan] at h
      cases h
      exact .unterminatedParameter hplace
    · cases hread : readArgument (byteLength before + 1 + byteLength inner) [')']
        (byteLength before + 1 + byteLength inner + 1) text with
      | ok read =>
        obtain ⟨htext, hsplit⟩ := readArgument_eq_ok_iff.mp hread
        exact absurd htext (hunread _ _ hsplit)
      | error e' =>
        have hstuck := readArgument_eq_error_iff.mp hread
        rw [hplace.tokens_of_stuck hstuck] at h
        cases h
        exact .of_stuck hplace hstuck
  · intro h
    cases h with
    | unterminatedParameter hplace => rw [hplace.error_iff, scan]
    | unterminatedArgument hplace hopen hnested =>
      obtain ⟨due, hleaves⟩ := exists_leaves_iff.mpr ⟨hopen, hnested⟩
      exact hplace.tokens_of_stuck (.ended hleaves)
    | mismatchedDelimiter hmismatch _ => exact hmismatch.tokens_eq

/-- The brace in the argument is still open. -/
example : tokens "/\x7bid:=(\x7b)\x7d" = .error ⟨.mismatchedDelimiter ')', 8⟩ := by
  decide +kernel

end Routing.Template
