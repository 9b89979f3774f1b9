/-
  Routing/Proofs/ErrorPlaces.lean
  ===============================
  **Where the errors of a template are.**  Tokens go on inside of braces until the braces
  are closed, and outside of them otherwise: `Inside` and `Outside` are what every reader
  keeps. With them each reader finds the tokens that it asks for, so no error is one of the
  dead ones, and each is at the start of a token. Errors of the scanner are at a character
  of the template as well.
-/
import Routing.Proofs.Parsing
import Routing.Proofs.TokenSpans

namespace Routing.Template

/-! ### Errors of the scanner -/

/-- A character of a text that starts at byte `offset` starts at byte `place`. -/
def CharAt (cs : List Char) (offset place : Nat) : Prop :=
  ∃ before c after, cs = before ++ c :: after ∧ place = offset + byteLength before

namespace CharAt

variable {cs : List Char} {offset place : Nat}

theorem head (c : Char) : CharAt (c :: cs) offset offset :=
  ⟨[], c, cs, rfl, rfl⟩

theorem skip {run whole : List Char} (hwhole : whole = run ++ cs)
    (h : CharAt cs (offset + byteLength run) place) : CharAt whole offset place := by
  subst hwhole
  obtain ⟨before, c, after, rfl, rfl⟩ := h
  refine ⟨run ++ before, c, after, (List.append_assoc _ _ _).symm, ?_⟩
  rw [byteLength_append, Nat.add_assoc]

theorem standsAt {text : String} (h : CharAt text.toList 0 place) :
    ∃ run stop, StandsAt text run place stop ∧ run ≠ [] := by
  obtain ⟨before, c, after, htext, rfl⟩ := h
  refine ⟨[c], _, ⟨before, after, ?_, Nat.zero_add _, rfl⟩, List.cons_ne_nil c []⟩
  rw [htext, List.append_assoc, List.singleton_append]

end CharAt

/-- An argument that fails does so at the parenthesis that opened it or at a later character. -/
theorem charAt_of_readArgument {opened offset : Nat} {expected cs : List Char} {e : TokenError}
    (h : readArgument opened expected offset cs = .error e) :
    e.offset = opened ∨ CharAt cs offset e.offset := by
  induction cs generalizing expected offset with
  | nil =>
    cases h
    exact .inl rfl
  | cons c cs ih =>
    have step {expected : List Char} {f : List Char × List Char → List Char × List Char}
        (hmap : (readArgument opened expected (offset + c.utf8Size) cs).map f = .error e) :
        e.offset = opened ∨ CharAt (c :: cs) offset e.offset := by
      have hrun : c :: cs = [c] ++ cs := rfl
      exact (ih (Except.map_eq_error.mp hmap)).imp_right (CharAt.skip hrun)
    simp only [readArgument] at h
    split at h
    · exact step h
    · split at h
      · split at h
        · cases h
          exact .inr (.head c)
        · split at h
          · cases h
            exact .inr (.head c)
          · split at h
            · cases h
            · exact step h
      · exact step h

/-- The scanner fails at a character, or at the brace that it is still inside of. -/
theorem charAt_of_scan {mode : Mode} {offset : Nat} {cs : List Char} {e : TokenError}
    (h : scan mode offset cs = .error e) : mode = .inside e.offset ∨ CharAt cs offset e.offset := by
  -- a token of the characters `run`
  have step {mode : Mode} {offset stop : Nat} {run rest whole : List Char} {t : Spanned}
      (hwhole : whole = run ++ rest) (hstop : stop = offset + byteLength run)
      (h : (scan mode stop rest).map (t :: ·) = .error e)
      (ih : scan mode stop rest = .error e →
        mode = .inside e.offset ∨ CharAt rest stop e.offset) :
      mode = .inside e.offset ∨ CharAt whole offset e.offset := by
    subst hstop
    exact (ih (Except.map_eq_error.mp h)).imp_right (CharAt.skip hwhole)
  have one (c : Char) (rest : List Char) : c :: rest = [c] ++ rest := rfl
  have many (kind : Char → Bool) (c : Char) (rest : List Char) :
      c :: rest = (c :: rest.takeWhile kind) ++ rest.dropWhile kind := by simp
  have houtside (place : Nat) : Mode.outside ≠ .inside place := by simp
  induction mode, offset, cs using scan_induction with
  | done => cases h
  | unterminated =>
    cases h
    exact .inl rfl
  | slash offset rest ih => exact .inr ((step (one _ rest) rfl h ih).resolve_left (houtside _))
  | openBrace offset rest ih => -- a brace that is never closed is the character that was just read
    rcases step (one '{' rest) rfl h ih with hopened | hplace
    · cases hopened
      exact .inr (.head _)
    · exact .inr hplace
  | literal offset c rest _ _ ih =>
    exact .inr ((step (many _ c rest) rfl h ih).resolve_left (houtside _))
  | closeBrace offset opened rest ih =>
    exact .inr ((step (one _ rest) rfl h ih).resolve_left (houtside _))
  | colon offset opened rest ih | equals offset opened rest ih => exact step (one _ rest) rfl h ih
  | quantifier offset opened mark rest hmark ih =>
    refine step (one mark rest) ?_ h ih
    rcases hmark with rfl | rfl | rfl <;> rfl
  | badArgument offset opened rest e' hargument =>
    cases h
    -- the argument fails at its parenthesis or at a delimiter in it
    rcases charAt_of_readArgument hargument with hopened | hplace
    · rw [hopened]
      exact .inr (.head _)
    · exact .inr (hplace.skip (one _ rest))
  | argument offset opened rest text after hargument ih =>
    obtain ⟨-, rfl⟩ := readArgument_eq_ok_iff.mp hargument
    have hwhole : '(' :: (text ++ ')' :: after) = '(' :: (text ++ [')']) ++ after := by simp
    refine step hwhole ?_ h ih
    rw [byteLength_parentheses, ← Nat.add_assoc]
  | word offset opened c rest _ _ _ _ _ _ ih => exact step (many _ c rest) rfl h ih
  | stray offset opened c rest _ _ _ _ _ _ ih => exact step (one c rest) rfl h ih

/-! ### Errors of the readers -/

theorem Lexes.exists_inside {cs : List Char} {token : Token} {tokens : List Token}
    (h : Lexes true cs (token :: tokens)) (htoken : token ≠ .closeBrace) :
    ∃ rest, Lexes true rest tokens := by
  cases h with
  | closeBrace _ => exact absurd rfl htoken
  | colon h | equals h | quantifier _ h | argument _ h | word _ _ _ h | stray _ _ h =>
    exact ⟨_, h⟩

theorem Lexes.exists_outside {cs : List Char} {token : Token} {tokens : List Token}
    (h : Lexes false cs (token :: tokens)) (htoken : token ≠ .openBrace) :
    ∃ rest, Lexes false rest tokens := by
  cases h with
  | openBrace _ => exact absurd rfl htoken
  | slash h | literal _ _ _ h => exact ⟨_, h⟩

theorem Lexes.outer_kind {cs : List Char} {token : Token} {tokens : List Token}
    (h : Lexes false cs (token :: tokens)) :
    token = .slash ∨ (∃ text, token = .literal text) ∨ token = .openBrace := by
  cases h with
  | slash _ => exact .inl rfl
  | literal _ _ _ _ => exact .inr (.inl ⟨_, rfl⟩)
  | openBrace _ => exact .inr (.inr rfl)

def Inside (ts : List Spanned) : Prop :=
  ∃ cs, Lexes true cs (ts.map Spanned.token)

def Outside (ts : List Spanned) : Prop :=
  ∃ cs, Lexes false cs (ts.map Spanned.token)

namespace Inside

theorem wordTokens {ts : List Spanned} (h : Inside ts) : WordTokens ts := by
  obtain ⟨cs, hlexes⟩ := h
  intro t ht word hword
  exact hlexes.ne_of_mem_word (hword ▸ List.mem_map_of_mem ht)

/-- Braces are closed, so there is a token left inside of them. -/
theorem exists_cons {ts : List Spanned} (h : Inside ts) : ∃ t rest, ts = t :: rest := by
  obtain ⟨cs, hlexes⟩ := h
  cases ts with
  | nil => cases hlexes
  | cons t rest => exact ⟨t, rest, rfl⟩

theorem tail {t : Spanned} {rest : List Spanned} (h : Inside (t :: rest))
    (htoken : t.token ≠ .closeBrace) : Inside rest := by
  obtain ⟨cs, hlexes⟩ := h
  exact hlexes.exists_inside htoken

theorem outside {t : Spanned} {rest : List Spanned} (h : Inside (t :: rest))
    (htoken : t.token = .closeBrace) : Outside rest := by
  obtain ⟨cs, hlexes⟩ := h
  rw [List.map_cons, htoken] at hlexes
  cases hlexes with
  | closeBrace h => exact ⟨_, h⟩

theorem mark {t : Spanned} {rest : List Spanned} (h : Inside (t :: rest)) {mark : Char}
    (htoken : t.token = .quantifier mark) : mark = '?' ∨ mark = '*' ∨ mark = '+' := by
  obtain ⟨cs, hlexes⟩ := h
  rw [List.map_cons, htoken] at hlexes
  cases hlexes with
  | quantifier hmark _ => exact hmark

theorem of_consumes {tokens : List Token} {ts rest : List Spanned} (h : Inside ts)
    (hconsumes : Consumes tokens ts rest) (hopen : .closeBrace ∉ tokens) : Inside rest := by
  induction tokens generalizing ts with
  | nil =>
    cases hconsumes
    exact h
  | cons token tokens ih =>
    obtain ⟨t, left, rfl, htoken, hleft⟩ := hconsumes.exists_cons
    rw [List.mem_cons, not_or] at hopen
    exact ih (h.tail (htoken ▸ Ne.symm hopen.1)) hleft hopen.2

end Inside

namespace Outside

theorem tail {t : Spanned} {rest : List Spanned} (h : Outside (t :: rest))
    (htoken : t.token ≠ .openBrace) : Outside rest := by
  obtain ⟨cs, hlexes⟩ := h
  exact hlexes.exists_outside htoken

theorem inside {t : Spanned} {rest : List Spanned} (h : Outside (t :: rest))
    (htoken : t.token = .openBrace) : Inside rest := by
  obtain ⟨cs, hlexes⟩ := h
  rw [List.map_cons, htoken] at hlexes
  cases hlexes with
  | openBrace h => exact ⟨_, h⟩

theorem kind {t : Spanned} {rest : List Spanned} (h : Outside (t :: rest)) :
    t.token = .slash ∨ (∃ text, t.token = .literal text) ∨ t.token = .openBrace := by
  obtain ⟨cs, hlexes⟩ := h
  exact hlexes.outer_kind

end Outside

/-- The faults that no text with tokens has. -/
def SyntaxFault.isDead : SyntaxFault → Bool
  | .outOfTokens | .misplacedToken | .unknownMark => true
  | _ => false

/-- The error is at the start of one of the tokens. -/
structure SyntaxError.Located (e : SyntaxError) (ts : List Spanned) : Prop where
  live : e.fault.isDead = false
  place : ∃ t ∈ ts, e.offset = t.start

theorem SyntaxError.Located.mono {e : SyntaxError} {ts rest : List Spanned} (h : e.Located rest)
    (hrest : rest <:+ ts) : e.Located ts := by
  obtain ⟨hlive, t, ht, hplace⟩ := h
  exact ⟨hlive, t, hrest.subset ht, hplace⟩

section

variable {stop : Nat} {ts : List Spanned} {e : SyntaxError}

theorem located_head {t : Spanned} {fault : SyntaxFault} (hlive : fault.isDead = false) :
    SyntaxError.Located ⟨fault, t.start⟩ (t :: ts) :=
  ⟨hlive, t, List.mem_cons_self, rfl⟩

theorem located_expectEnd {fault : SyntaxFault} (hlive : fault.isDead = false) (hinside : Inside ts)
    (h : expectEnd fault stop ts = .error e) : e.Located ts := by
  obtain ⟨t, rest, rfl⟩ := hinside.exists_cons
  rw [expectEnd] at h
  split at h
  · cases h
  · cases h
  · cases h
    exact located_head hlive

theorem located_readClauseArgument (hinside : Inside ts)
    (h : readClauseArgument stop ts = .error e) : e.Located ts := by
  obtain ⟨t, rest, rfl⟩ := hinside.exists_cons
  rw [readClauseArgument] at h
  split at h
  · next text htoken =>
    rcases Except.bind_eq_error.mp h with hend | ⟨_, -, hok⟩
    · have hrest : Inside rest := hinside.tail (by simp [htoken])
      exact (located_expectEnd rfl hrest hend).mono (List.suffix_cons t rest)
    · cases hok
  · cases h
  · cases h
  · cases h
    exact located_head rfl

/-- A clause that is empty is reported at its colon, which stands before the tokens at hand. -/
theorem located_readClause {colon : Nat} (hinside : Inside ts)
    (h : readClause stop colon ts = .error e) : e.Located ts ∨ e = ⟨.emptyConstraint, colon⟩ := by
  obtain ⟨t, rest, rfl⟩ := hinside.exists_cons
  -- the argument stands behind the title
  have titled {title : String} (htoken : t.token ≠ .closeBrace)
      (h : (do
        let read ← readClauseArgument stop rest
        return (⟨title, read.1⟩, read.2) : Except SyntaxError (Clause × List Spanned)) =
          .error e) : e.Located (t :: rest) ∨ e = ⟨.emptyConstraint, colon⟩ := by
    rcases Except.bind_eq_error.mp h with hargument | ⟨_, -, hok⟩
    · exact .inl ((located_readClauseArgument (hinside.tail htoken) hargument).mono
        (List.suffix_cons t rest))
    · cases hok
  -- without a title, only the missing argument is reported at the colon
  have untitled (h : (do
        let read ← readClauseArgument stop (t :: rest)
        if read.1.getD "" = "" then .error ⟨.emptyConstraint, colon⟩
        else return (⟨"", read.1⟩, read.2) : Except SyntaxError (Clause × List Spanned)) =
          .error e) : e.Located (t :: rest) ∨ e = ⟨.emptyConstraint, colon⟩ := by
    rcases Except.bind_eq_error.mp h with hargument | ⟨_, -, hempty⟩
    · exact .inl (located_readClauseArgument hinside hargument)
    · split at hempty
      · cases hempty
        exact .inr rfl
      · cases hempty
  simp only [readClause] at h
  split at h
  · next htoken => exact titled (by simp [htoken]) h
  · next word htoken =>
    split at h
    · exact titled (by simp [htoken]) h
    · cases h
      exact .inl (located_head rfl)
  · exact untitled h
  · exact untitled h
  · exact untitled h
  · cases h
    exact .inl (located_head rfl)

theorem not_mem_clause_tokens (c : ClauseTree) : .closeBrace ∉ c.tokens := by
  have htitle (title : String) : .closeBrace ≠ titleToken title := by
    unfold titleToken
    split <;> simp
  cases c <;> simp [ClauseTree.tokens, htitle]

theorem inside_of_readClause {colon : Nat} {clause : Clause} {rest : List Spanned}
    (hinside : Inside ts) (h : readClause stop colon ts = .ok (clause, rest)) : Inside rest := by
  obtain ⟨c, -, -, hconsumes, -⟩ := (readClause_eq_ok_iff hinside.wordTokens).mp h
  exact hinside.of_consumes hconsumes (not_mem_clause_tokens c)

theorem located_readClauses (hinside : Inside ts) (h : readClauses stop ts = .error e) :
    e.Located ts := by
  induction ts using readClauses_induction stop with
  | noTokens =>
    obtain ⟨t, rest, hts⟩ := hinside.exists_cons
    cases hts
  | close => cases h
  | badClause t ts htoken e' hclause =>
    cases h
    have hrest : Inside ts := hinside.tail (by simp [htoken])
    rcases located_readClause hrest hclause with hlocated | rfl
    · exact hlocated.mono (List.suffix_cons t ts)
    · exact located_head rfl
  | clause t ts htoken clause left hclause ih =>
    have hrest : Inside ts := hinside.tail (by simp [htoken])
    have hlocated := ih (inside_of_readClause hrest hclause) (Except.map_eq_error.mp h)
    exact hlocated.mono ((readClause_suffix hclause).trans (List.suffix_cons t ts))
  | other =>
    cases h
    exact located_head rfl

theorem located_readQuantifier (hinside : Inside ts) (h : readQuantifier stop ts = .error e) :
    e.Located ts := by
  obtain ⟨⟨token, start, last⟩, rest, rfl⟩ := hinside.exists_cons
  cases token with
  | quantifier mark =>
    have hrest : Inside rest := hinside.tail (by simp)
    rcases Except.bind_eq_error.mp h with hend | ⟨_, -, hmark⟩
    · exact (located_expectEnd rfl hrest hend).mono (List.suffix_cons _ rest)
    · -- the scanner makes quantifiers of three marks only
      rcases hinside.mark rfl with rfl | rfl | rfl <;> cases hmark
  | colon | closeBrace => cases h
  | _ =>
    cases h
    exact located_head rfl

theorem not_mem_markTokens (q : Quantifier) : .closeBrace ∉ markTokens q := by
  cases q <;> simp [markTokens]

theorem located_readParameter (hinside : Inside ts) (h : readParameter stop ts = .error e) :
    e.Located ts := by
  obtain ⟨t, rest, rfl⟩ := hinside.exists_cons
  rw [readParameter] at h
  split at h
  · next name htoken =>
    split at h
    · have hrest : Inside rest := hinside.tail (by simp [htoken])
      rcases Except.bind_eq_error.mp h with hquantifier | ⟨⟨q, left⟩, hquantifier, h⟩
      · exact (located_readQuantifier hrest hquantifier).mono (List.suffix_cons t rest)
      · have hmark := (readQuantifier_eq_ok_iff.mp hquantifier).1
        have hleft : Inside left := hrest.of_consumes hmark (not_mem_markTokens q)
        have hsuffix := (readQuantifier_suffix hquantifier).trans (List.suffix_cons t rest)
        rcases Except.bind_eq_error.mp h with hclauses | ⟨_, -, hok⟩
        · exact (located_readClauses hleft hclauses).mono hsuffix
        · cases hok
    · cases h
      exact located_head rfl
  · cases h
    exact located_head rfl

theorem outside_of_readParameter {p : ParameterNode} {rest : List Spanned} (hinside : Inside ts)
    (h : readParameter stop ts = .ok (p, rest)) : Outside rest := by
  obtain ⟨tree, -, hchecked, hconsumes⟩ := (readParameter_eq_ok_iff hinside.wordTokens).mp h
  obtain ⟨cs, hlexes⟩ := hinside
  rw [hconsumes.map_token] at hlexes
  obtain ⟨-, left, -, hleft⟩ := of_lexes_parameter hchecked hlexes
  exact ⟨left, hleft⟩

/-- **No error of the readers is one of the dead ones**, and each is at the start of a token. -/
theorem located_readSegments {parts : List PartNode} (houtside : Outside ts)
    (h : readSegments stop parts ts = .error e) : e.Located ts := by
  induction parts, ts using readSegments_induction stop with
  | done => cases h
  | slash parts t ts htoken ih =>
    have hrest : Outside ts := houtside.tail (by simp [htoken])
    exact (ih hrest (Except.map_eq_error.mp h)).mono (List.suffix_cons t ts)
  | literal parts t ts text htoken ih =>
    have hrest : Outside ts := houtside.tail (by simp [htoken])
    exact (ih hrest h).mono (List.suffix_cons t ts)
  | badParameter parts t ts htoken e' hparameter =>
    cases h
    exact (located_readParameter (houtside.inside htoken) hparameter).mono (List.suffix_cons t ts)
  | parameter parts t ts htoken node rest hparameter ih =>
    have hrest := outside_of_readParameter (houtside.inside htoken) hparameter
    have hsuffix := (readParameter_suffix hparameter).trans (List.suffix_cons t ts)
    exact (ih hrest h).mono hsuffix
  | other parts t ts hslash hliteral hbrace =>
    rcases houtside.kind with htoken | ⟨text, htoken⟩ | htoken
    · exact absurd htoken hslash
    · exact absurd htoken (hliteral text)
    · exact absurd htoken hbrace

end

/-! ### Errors of a template -/

theorem outside_of_tokens {template : String} {ts : List Spanned} (h : tokens template = .ok ts) :
    Outside ts :=
  ⟨template.toList, exists_tokens_iff.mp ⟨ts, h, rfl⟩⟩

/-- The error of an outline is where a character of the template starts. -/
theorem standsAt_of_outline {template : String} {e : SyntaxError}
    (h : outline template = .error e) :
    ∃ run stop, StandsAt template run e.offset stop ∧ run ≠ [] := by
  rw [outline] at h
  split at h
  · next e' hscan =>
    cases h
    rcases charAt_of_scan hscan with hmode | hplace
    · cases hmode
    · exact hplace.standsAt
  · next ts hts =>
    obtain ⟨-, t, ht, hplace⟩ := located_readSegments (outside_of_tokens hts) h
    obtain ⟨hstands, hne⟩ := standsAt_of_mem_tokens hts ht
    rw [hplace]
    exact ⟨t.token.spelling, t.stop, hstands, hne⟩

end Template

def syntaxMessages : List String :=
  [SyntaxGroup.pattern, .parameterName, .constraintName].map SyntaxGroup.message

/-- The reports of other causes begin with other words. -/
theorem PatternFault.message_mem_syntaxMessages {fault : PatternFault} :
    fault.message ∈ syntaxMessages ↔ ∃ e, fault = .malformed e := by
  have hother {start text : String} (hstart : ∀ m ∈ syntaxMessages, ¬ start.toList <+: m.toList)
      (htext : start.toList <+: text.toList) : text ∉ syntaxMessages :=
    fun hmem => hstart text hmem htext
  have hmore {start text more : String} (h : start.toList <+: text.toList) :
      start.toList <+: (text ++ more).toList := by
    rw [String.toList_append]
    exact h.trans (List.prefix_append _ _)
  cases fault with
  | malformed e =>
    have hgroup : e.fault.group ∈ [SyntaxGroup.pattern, .parameterName, .constraintName] := by
      cases e.fault.group <;> simp
    exact iff_of_true (List.mem_map.mpr ⟨_, hgroup, rfl⟩) ⟨e, rfl⟩
  | questionMarkInLiteral | allOptionalSegment | misplacedCatchAll =>
    exact iff_of_false (hother (by decide +kernel) List.prefix_rfl) nofun
  | duplicateParameter name | unknownConstraint name =>
    exact iff_of_false (hother (by decide +kernel) (hmore (hmore List.prefix_rfl))) nofun
  | invalidConstraintArgument name argument fault =>
    exact iff_of_false (hother (by decide +kernel)
      (hmore (hmore (hmore (hmore (hmore (hmore List.prefix_rfl))))))) nofun

theorem PatternError.isSyntax_iff (e : PatternError) :
    e.isSyntax ↔ e.fault.message ∈ syntaxMessages := by
  rw [PatternFault.message_mem_syntaxMessages, isSyntax]
  split
  · next e' hfault => exact iff_of_true rfl ⟨e', hfault⟩
  · next hfault => exact iff_of_false nofun (fun ⟨e', h⟩ => hfault e' h)

/-- Binding knows nothing of grammar. -/
theorem FirstFault.ne_malformed {set : ConstraintSet} {before parts : List Template.PartNode}
    {fault : PatternFault} (h : FirstFault set before parts fault) (e : Template.SyntaxError) :
    fault ≠ .malformed e := by
  induction h with
  | here hrejected =>
    rintro rfl
    cases hrejected with
    | constraint _ _ _ _ hfails => cases hfails
  | later _ _ ih => exact ih

/-- **Errors of grammar are located.** -/
theorem compile_error_located (set : ConstraintSet) (template : String) :
    (∀ ts, Template.tokens template = .ok ts →
      ∀ e, Template.readSegments template.utf8ByteSize [] ts = .error e →
        e.fault ≠ .outOfTokens ∧ e.fault ≠ .misplacedToken ∧ e.fault ≠ .unknownMark) ∧
    ∀ e, RoutePattern.compile set template = .error e →
      e.template = template ∧ e.message = e.fault.message ++ ": " ++ template ∧
      (e.offset?.isSome ↔ e.isSyntax) ∧ (e.isSyntax ↔ e.fault.message ∈ syntaxMessages) ∧
      ∀ offset, e.offset? = some offset →
        offset < template.utf8ByteSize ∧ String.Pos.Raw.IsValid template ⟨offset⟩ := by
  constructor
  · intro ts hts e he
    have hlive := (Template.located_readSegments (Template.outside_of_tokens hts) he).live
    refine ⟨?_, ?_, ?_⟩ <;> intro hfault <;> rw [hfault] at hlive <;> cases hlive
  · intro e h
    rw [RoutePattern.compile] at h
    have htemplate : e.template = template := by
      split at h
      · cases h
        rfl
      · split at h
        · cases h
          rfl
        · cases h
    refine ⟨htemplate, by rw [PatternError.message, htemplate], ?_, e.isSyntax_iff, ?_⟩
    · rw [PatternError.isSome_offset?]
    · intro offset hoffset
      split at h
      · next e' houtline =>
        cases h
        cases hoffset
        obtain ⟨run, stop, hstands, hne⟩ := Template.standsAt_of_outline houtline
        exact ⟨(hstands.lt hne).2, hstands.isValid.1⟩
      · split at h
        · next fault hbind =>
          cases h
          cases fault with
          | malformed e =>
            cases bind_eq_error_iff.mp hbind with
            | part _ hfirst => exact absurd rfl (hfirst.ne_malformed e)
          | _ => cases hoffset
        · cases h

theorem compile_error_located_colon :
    Template.tokens "/é\x7bn:\x7d" = .ok [⟨.slash, 0, 1⟩, ⟨.literal "é", 1, 3⟩,
      ⟨.openBrace, 3, 4⟩, ⟨.word "n", 4, 5⟩, ⟨.colon, 5, 6⟩, ⟨.closeBrace, 6, 7⟩] ∧
    Template.SyntaxFault.emptyConstraint ≠ .outOfTokens ∧
    RoutePattern.compile .empty "/é\x7bn:\x7d" =
      .error ⟨.malformed ⟨.emptyConstraint, 5⟩, "/é\x7bn:\x7d"⟩ ∧
    5 < "/é\x7bn:\x7d".utf8ByteSize ∧ String.Pos.Raw.IsValid "/é\x7bn:\x7d" ⟨5⟩ := by
  have htokens : Template.tokens "/é\x7bn:\x7d" = .ok [⟨.slash, 0, 1⟩, ⟨.literal "é", 1, 3⟩,
      ⟨.openBrace, 3, 4⟩, ⟨.word "n", 4, 5⟩, ⟨.colon, 5, 6⟩, ⟨.closeBrace, 6, 7⟩] := by
    decide +kernel
  have houtline : Template.outline "/é\x7bn:\x7d" = .error ⟨.emptyConstraint, 5⟩ := by
    decide +kernel
  have hcompile : RoutePattern.compile .empty "/é\x7bn:\x7d" =
      .error ⟨.malformed ⟨.emptyConstraint, 5⟩, "/é\x7bn:\x7d"⟩ := by
    simp only [RoutePattern.compile, houtline]
  have hread := houtline
  rw [Template.outline, htokens] at hread
  obtain ⟨hlive, herror⟩ := compile_error_located .empty "/é\x7bn:\x7d"
  obtain ⟨-, -, -, -, hplace⟩ := herror _ hcompile
  exact ⟨htokens, (hlive _ htokens _ hread).1, hcompile, hplace 5 rfl⟩

end Routing
