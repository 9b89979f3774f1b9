/-
  Routing/Proofs/TreeTokens.lean
  ==============================
  **The tokens of a tree.**  The text of a tree is the spelling of its tokens,
  `derives_iff`; what the grammar asks of names and titles comes from the scanner for
  one half and from what the readers check for the other. A tree is found again in its
  tokens, so a text has one derivation at most: `Derives.unique`.
-/
import Routing.Proofs.Scanning

namespace Routing.Template

/-! ### The tokens of a tree -/

def titleToken (title : String) : Token :=
  if title = "=" then .equals else .word title

def ClauseTree.tokens : ClauseTree → List Token
  | .named title => [titleToken title]
  | .applied title argument => [titleToken title, .argument argument]
  | .anonymous argument => [.argument argument]

def markTokens : Quantifier → List Token
  | .required => []
  | .optional => [.quantifier '?']
  | .zeroOrMore => [.quantifier '*']
  | .oneOrMore => [.quantifier '+']

def clausesTokens (clauses : List ClauseTree) : List Token :=
  clauses.flatMap fun clause => .colon :: clause.tokens

theorem clausesTokens_cons (clause : ClauseTree) (clauses : List ClauseTree) :
    clausesTokens (clause :: clauses) = .colon :: (clause.tokens ++ clausesTokens clauses) := rfl

def ParameterTree.tokens (p : ParameterTree) : List Token :=
  .word p.name :: (markTokens p.quantifier ++ (clausesTokens p.clauses ++ [.closeBrace]))

def ItemTree.tokens : ItemTree → List Token
  | .slash => [.slash]
  | .literal text => [.literal text]
  | .parameter p => .openBrace :: p.tokens

/-! ### What the readers check -/

/-- A title that is a word has no hyphen, and an argument without a title is not empty. -/
inductive ClauseTree.Checked : ClauseTree → Prop
  | named {title : String} (hne : title ≠ "") (h : title = "=" ∨ isConstraintName title) :
    Checked (.named title)
  | applied {title argument : String} (hne : title ≠ "")
      (h : title = "=" ∨ isConstraintName title) : Checked (.applied title argument)
  | anonymous {argument : String} (hne : argument ≠ "") : Checked (.anonymous argument)

structure ParameterTree.Checked (p : ParameterTree) : Prop where
  name : isParameterName p.name
  clauses : ∀ clause ∈ p.clauses, clause.Checked

def ItemTree.Checked : ItemTree → Prop
  | .parameter p => p.Checked
  | _ => True

/-! ### The spelling of a tree -/

theorem of_lexes_title {title : String} {cs : List Char} {ts : List Token}
    (h : Lexes true cs (titleToken title :: ts))
    (hchecked : title = "=" ∨ isConstraintName title) :
    IsTitle title ∧ ∃ rest, cs = title.toList ++ rest ∧ Lexes true rest ts := by
  unfold titleToken at h
  split at h
  · next hequals =>
    subst hequals
    cases h with
    | equals h => exact ⟨.inl rfl, _, rfl, h⟩
  · next hne =>
    cases h with
    | word hempty hchars _ h =>
      refine ⟨.inr ⟨hempty, fun c hc => ?_⟩, _, rfl, h⟩
      have hhyphen : '-' ∉ title.toList := by
        simpa [isConstraintName] using hchecked.resolve_left hne
      have hword := hchars c hc
      have hother : c ≠ '-' := fun heq => hhyphen (heq ▸ hc)
      simpa [isWordChar, hother, or_assoc] using hword

theorem lexes_title {title : String} (htitle : IsTitle title) {cs : List Char} {ts : List Token}
    (hend : ∀ c, cs.head? = some c → isWordChar c = false) (h : Lexes true cs ts) :
    Lexes true (title.toList ++ cs) (titleToken title :: ts) := by
  unfold titleToken
  split
  · next hequals =>
    subst hequals
    exact .equals h
  · next hne =>
    obtain ⟨hempty, hchars⟩ := htitle.resolve_left hne
    refine .word hempty (fun c hc => ?_) hend h
    rcases hchars c hc with hc | rfl | rfl
    · simp [isWordChar, hc]
    · rfl
    · rfl

theorem checked_of_isTitle {title : String} (htitle : IsTitle title) :
    title ≠ "" ∧ (title = "=" ∨ isConstraintName title) := by
  rcases htitle with rfl | ⟨hne, hchars⟩
  · exact ⟨by decide, .inl rfl⟩
  · refine ⟨hne, .inr ?_⟩
    have hhyphen : '-' ∉ title.toList := by
      intro hmem
      have := hchars _ hmem
      revert this
      decide
    simpa [isConstraintName] using hhyphen

theorem ClauseTree.Grammatical.checked {c : ClauseTree} (h : c.Grammatical) : c.Checked := by
  cases h with
  | named htitle =>
    obtain ⟨hne, htitle⟩ := checked_of_isTitle htitle
    exact .named hne htitle
  | applied htitle _ =>
    obtain ⟨hne, htitle⟩ := checked_of_isTitle htitle
    exact .applied hne htitle
  | anonymous _ hne => exact .anonymous hne

/-- The tokens of a clause are spelled as the grammar writes the clause. -/
theorem of_lexes_clause {c : ClauseTree} (hchecked : c.Checked) {cs : List Char}
    {ts : List Token} (h : Lexes true cs (c.tokens ++ ts)) :
    c.Grammatical ∧ ∃ rest, cs = c.spelling ++ rest ∧ Lexes true rest ts := by
  cases hchecked with
  | named _ hname =>
    obtain ⟨htitle, rest, rfl, hrest⟩ := of_lexes_title h hname
    exact ⟨.named htitle, rest, rfl, hrest⟩
  | applied _ hname =>
    obtain ⟨htitle, rest, rfl, hrest⟩ := of_lexes_title h hname
    cases hrest with
    | argument hargument h =>
      exact ⟨.applied htitle hargument, _, by simp [ClauseTree.spelling], h⟩
  | anonymous hne =>
    cases h with
    | argument hargument h =>
      exact ⟨.anonymous hargument hne, _, by simp [ClauseTree.spelling], h⟩

theorem lexes_clause {c : ClauseTree} (hc : c.Grammatical) {cs : List Char} {ts : List Token}
    (hend : ∀ c, cs.head? = some c → isWordChar c = false) (h : Lexes true cs ts) :
    Lexes true (c.spelling ++ cs) (c.tokens ++ ts) := by
  cases hc with
  | named htitle => exact lexes_title htitle hend h
  | applied htitle hargument =>
    have hparen := Lexes.argument hargument h
    simp only [ClauseTree.spelling, List.append_assoc, List.cons_append, List.nil_append]
    refine lexes_title htitle ?_ hparen
    rintro c ⟨⟩
    rfl
  | anonymous hargument hne =>
    have hparen := Lexes.argument hargument h
    simpa [ClauseTree.spelling, ClauseTree.tokens] using hparen

theorem clausesSpelling_cons (clause : ClauseTree) (clauses : List ClauseTree) :
    clausesSpelling (clause :: clauses) = ':' :: (clause.spelling ++ clausesSpelling clauses) :=
  rfl

theorem of_lexes_clauses {clauses : List ClauseTree} (hchecked : ∀ c ∈ clauses, c.Checked)
    {cs : List Char} {ts : List Token}
    (h : Lexes true cs (clausesTokens clauses ++ .closeBrace :: ts)) :
    (∀ c ∈ clauses, c.Grammatical) ∧
      ∃ rest, cs = clausesSpelling clauses ++ '}' :: rest ∧ Lexes false rest ts := by
  induction clauses generalizing cs with
  | nil =>
    cases h with
    | closeBrace h => exact ⟨by simp, _, rfl, h⟩
  | cons c clauses ih =>
    obtain ⟨hc, hclauses⟩ := List.forall_mem_cons.mp hchecked
    rw [clausesTokens_cons, List.cons_append, List.append_assoc] at h
    cases h with
    | colon h =>
      obtain ⟨hclause, _, rfl, hafter⟩ := of_lexes_clause hc h
      obtain ⟨hothers, rest, rfl, hrest⟩ := ih hclauses hafter
      refine ⟨List.forall_mem_cons.mpr ⟨hclause, hothers⟩, rest, ?_, hrest⟩
      rw [clausesSpelling_cons, List.cons_append, List.append_assoc]

/-- After a title, a mark or a name there is no word character. -/
theorem head_clausesSpelling {clauses : List ClauseTree} {cs : List Char} {c : Char}
    (h : (clausesSpelling clauses ++ '}' :: cs).head? = some c) : isWordChar c = false := by
  cases clauses <;> cases h <;> rfl

theorem lexes_clauses {clauses : List ClauseTree} (hclauses : ∀ c ∈ clauses, c.Grammatical)
    {cs : List Char} {ts : List Token} (h : Lexes false cs ts) :
    Lexes true (clausesSpelling clauses ++ '}' :: cs)
      (clausesTokens clauses ++ .closeBrace :: ts) := by
  induction clauses with
  | nil => exact .closeBrace h
  | cons c clauses ih =>
    obtain ⟨hc, hclauses⟩ := List.forall_mem_cons.mp hclauses
    rw [clausesSpelling_cons, clausesTokens_cons, List.cons_append, List.cons_append,
      List.append_assoc, List.append_assoc]
    exact .colon (lexes_clause hc (fun _ => head_clausesSpelling) (ih hclauses))

theorem of_lexes_mark {q : Quantifier} {cs : List Char} {ts : List Token}
    (h : Lexes true cs (markTokens q ++ ts)) :
    ∃ rest, cs = q.mark.toList ++ rest ∧ Lexes true rest ts := by
  cases q with
  | required => exact ⟨cs, rfl, h⟩
  | optional | zeroOrMore | oneOrMore =>
    cases h with
    | quantifier _ h => exact ⟨_, rfl, h⟩

theorem lexes_mark (q : Quantifier) {cs : List Char} {ts : List Token} (h : Lexes true cs ts) :
    Lexes true (q.mark.toList ++ cs) (markTokens q ++ ts) := by
  cases q with
  | required => exact h
  | optional => exact .quantifier (.inl rfl) h
  | zeroOrMore => exact .quantifier (.inr (.inl rfl)) h
  | oneOrMore => exact .quantifier (.inr (.inr rfl)) h

theorem isName_iff {name : String} :
    IsName name ↔ isParameterName name ∧ ∀ c ∈ name.toList, isWordChar c := by
  constructor
  · rintro ⟨c, cs, hname, hc, hcs⟩
    refine ⟨by simpa [isParameterName, hname, isNameStart, or_assoc] using hc, ?_⟩
    rw [hname, List.forall_mem_cons]
    refine ⟨?_, fun d hd => by simpa [isWordChar, or_assoc] using hcs d hd⟩
    rcases hc with hc | rfl | rfl
    · simp [isWordChar, Char.isAlphanum, hc]
    · rfl
    · rfl
  · rintro ⟨hstart, hchars⟩
    cases hname : name.toList with
    | nil => simp [isParameterName, hname] at hstart
    | cons c cs =>
      rw [hname, List.forall_mem_cons] at hchars
      have hc : c.isAlpha ∨ c = '_' ∨ c = '$' := by
        simpa [isParameterName, hname, isNameStart, or_assoc] using hstart
      refine ⟨c, cs, hname, hc, ?_⟩
      intro d hd
      simpa [isWordChar, or_assoc] using hchars.2 d hd

theorem of_lexes_parameter {p : ParameterTree} (hchecked : p.Checked) {cs : List Char}
    {ts : List Token} (h : Lexes true cs (p.tokens ++ ts)) :
    p.Grammatical ∧ ∃ rest, cs = p.spelling ++ '}' :: rest ∧ Lexes false rest ts := by
  rw [ParameterTree.tokens, List.cons_append, List.append_assoc, List.append_assoc] at h
  cases h with
  | word _ hchars _ h =>
    obtain ⟨_, rfl, hafter⟩ := of_lexes_mark h
    obtain ⟨hclauses, rest, rfl, hrest⟩ := of_lexes_clauses hchecked.clauses hafter
    refine ⟨⟨isName_iff.mpr ⟨hchecked.name, hchars⟩, hclauses⟩, rest, ?_, hrest⟩
    rw [ParameterTree.spelling, List.append_assoc, List.append_assoc]

theorem lexes_parameter {p : ParameterTree} (hp : p.Grammatical) {cs : List Char}
    {ts : List Token} (h : Lexes false cs ts) :
    Lexes true (p.spelling ++ '}' :: cs) (p.tokens ++ ts) := by
  rw [ParameterTree.spelling, ParameterTree.tokens, List.cons_append, List.append_assoc,
    List.append_assoc, List.append_assoc, List.append_assoc]
  obtain ⟨c, cs', hname, -⟩ := id hp.name
  have hclauses := lexes_clauses hp.clauses h
  refine .word ?_ (isName_iff.mp hp.name).2 ?_ (lexes_mark p.quantifier hclauses)
  · rintro hempty
    simp [hempty] at hname
  · intro d hd
    cases hq : p.quantifier with
    | required =>
      rw [hq] at hd
      exact head_clausesSpelling hd
    | optional | zeroOrMore | oneOrMore =>
      rw [hq] at hd
      cases hd
      rfl

theorem ParameterTree.Grammatical.checked {p : ParameterTree} (h : p.Grammatical) : p.Checked :=
  ⟨(isName_iff.mp h.name).1, fun c hc => (h.clauses c hc).checked⟩

theorem isLiteralChar_iff {c : Char} : isLiteralChar c ↔ c ≠ '/' ∧ c ≠ '{' := by
  simp [isLiteralChar]

theorem isLiteralChar_eq_false_iff {c : Char} : isLiteralChar c = false ↔ c = '/' ∨ c = '{' := by
  simp [isLiteralChar, ← or_iff_not_imp_left]

/-- **The text of a derivation is the spelling of its tokens.** -/
theorem derives_iff {items : List ItemTree} {cs : List Char} : Derives items cs ↔
    Lexes false cs (items.flatMap ItemTree.tokens) ∧ ∀ item ∈ items, item.Checked := by
  constructor
  · intro h
    induction h with
    | nil => exact ⟨.done, by simp⟩
    | slash _ ih => exact ⟨.slash ih.1, List.forall_mem_cons.mpr ⟨trivial, ih.2⟩⟩
    | literal hne hchars hend _ ih =>
      refine ⟨.literal hne ?_ ?_ ih.1, List.forall_mem_cons.mpr ⟨trivial, ih.2⟩⟩
      · intro c hc
        exact isLiteralChar_iff.mpr (hchars c hc)
      · intro c hc
        exact isLiteralChar_eq_false_iff.mpr (hend c hc)
    | parameter hp _ ih =>
      exact ⟨.openBrace (lexes_parameter hp ih.1), List.forall_mem_cons.mpr ⟨hp.checked, ih.2⟩⟩
  · -- the first item says which tokens the spelling begins with
    rintro ⟨h, hchecked⟩
    induction items generalizing cs with
    | nil =>
      cases h
      exact .nil
    | cons item items ih =>
      obtain ⟨hitem, hitems⟩ := List.forall_mem_cons.mp hchecked
      rw [List.flatMap_cons] at h
      cases item with
      | slash =>
        cases h with
        | slash h => exact .slash (ih h hitems)
      | literal text =>
        cases h with
        | literal hne hchars hend h =>
          refine .literal hne ?_ ?_ (ih h hitems)
          · intro c hc
            exact isLiteralChar_iff.mp (hchars c hc)
          · intro c hc
            exact isLiteralChar_eq_false_iff.mp (hend c hc)
      | parameter p =>
        cases h with
        | openBrace h =>
          obtain ⟨hp, rest, rfl, hrest⟩ := of_lexes_parameter hitem h
          exact .parameter hp (ih hrest hitems)

/-! ### The tree of a text -/

theorem titleToken_inj {title title' : String} (h : titleToken title = titleToken title') :
    title = title' := by
  unfold titleToken at h
  split at h <;> split at h
  · next h₁ h₂ => exact h₁.trans h₂.symm
  · cases h
  · cases h
  · cases h
    rfl

theorem titleToken_ne_argument {title argument : String} :
    titleToken title ≠ .argument argument := by
  unfold titleToken
  split <;> simp

def Token.Bounds (tokens : List Token) : Prop :=
  tokens.head? = some .colon ∨ tokens.head? = some .closeBrace

theorem bounds_clausesTokens (clauses : List ClauseTree) (ts : List Token) :
    Token.Bounds (clausesTokens clauses ++ .closeBrace :: ts) := by
  cases clauses with
  | nil => exact .inr rfl
  | cons clause clauses => exact .inl rfl

theorem not_bounds_argument {argument : String} {ts : List Token} :
    ¬ Token.Bounds (.argument argument :: ts) := by
  simp [Token.Bounds]

theorem ClauseTree.tokens_append_inj {c c' : ClauseTree} {ts ts' : List Token}
    (hts : Token.Bounds ts) (hts' : Token.Bounds ts') (h : c.tokens ++ ts = c'.tokens ++ ts') :
    c = c' ∧ ts = ts' := by
  cases c with
  | named title =>
    cases c' with
    | named title' =>
      obtain ⟨htitle, rfl⟩ := List.cons.inj h
      exact ⟨congrArg ClauseTree.named (titleToken_inj htitle), rfl⟩
    | applied title' argument' =>
      obtain ⟨-, rfl⟩ := List.cons.inj h
      exact absurd hts not_bounds_argument
    | anonymous argument' => exact absurd (List.cons.inj h).1 titleToken_ne_argument
  | applied title argument =>
    cases c' with
    | named title' =>
      obtain ⟨-, rfl⟩ := List.cons.inj h
      exact absurd hts' not_bounds_argument
    | applied title' argument' =>
      obtain ⟨htitle, h⟩ := List.cons.inj h
      cases h
      exact ⟨congrArg (ClauseTree.applied · argument) (titleToken_inj htitle), rfl⟩
    | anonymous argument' => exact absurd (List.cons.inj h).1 titleToken_ne_argument
  | anonymous argument =>
    cases c' with
    | named title' => exact absurd (List.cons.inj h).1.symm titleToken_ne_argument
    | applied title' argument' => exact absurd (List.cons.inj h).1.symm titleToken_ne_argument
    | anonymous argument' =>
      cases h
      exact ⟨rfl, rfl⟩

theorem clausesTokens_append_inj {clauses clauses' : List ClauseTree} {ts ts' : List Token}
    (h : clausesTokens clauses ++ .closeBrace :: ts =
      clausesTokens clauses' ++ .closeBrace :: ts') : clauses = clauses' ∧ ts = ts' := by
  induction clauses generalizing clauses' with
  | nil =>
    cases clauses' with
    | nil => exact ⟨rfl, (List.cons.inj h).2⟩
    | cons c' clauses' => cases h
  | cons c clauses ih =>
    cases clauses' with
    | nil => cases h
    | cons c' clauses' =>
      simp only [clausesTokens_cons, List.cons_append, List.append_assoc] at h
      obtain ⟨rfl, hrest⟩ := ClauseTree.tokens_append_inj (bounds_clausesTokens _ _)
        (bounds_clausesTokens _ _) (List.cons.inj h).2
      obtain ⟨rfl, rfl⟩ := ih hrest
      exact ⟨rfl, rfl⟩

theorem markTokens_append_inj {q q' : Quantifier} {ts ts' : List Token}
    (hts : Token.Bounds ts) (hts' : Token.Bounds ts')
    (h : markTokens q ++ ts = markTokens q' ++ ts') : q = q' ∧ ts = ts' := by
  have hmark (mark : Char) (ts : List Token) : ¬ Token.Bounds (.quantifier mark :: ts) := by
    simp [Token.Bounds]
  cases q with
  | required =>
    cases q' with
    | required => exact ⟨rfl, h⟩
    | optional | zeroOrMore | oneOrMore =>
      obtain rfl : ts = .quantifier _ :: ts' := h
      exact absurd hts (hmark _ _)
  | optional | zeroOrMore | oneOrMore =>
    cases q' with
    | required =>
      obtain rfl : .quantifier _ :: ts = ts' := h
      exact absurd hts' (hmark _ _)
    | optional | zeroOrMore | oneOrMore =>
      cases h <;> exact ⟨rfl, rfl⟩

theorem ParameterTree.tokens_append_inj {p p' : ParameterTree} {ts ts' : List Token}
    (h : p.tokens ++ ts = p'.tokens ++ ts') : p = p' ∧ ts = ts' := by
  obtain ⟨name, q, clauses⟩ := p
  obtain ⟨name', q', clauses'⟩ := p'
  simp only [tokens, List.cons_append, List.append_assoc, List.nil_append] at h
  obtain ⟨hname, hmark⟩ := List.cons.inj h
  cases hname
  obtain ⟨rfl, hclauses⟩ :=
    markTokens_append_inj (bounds_clausesTokens _ _) (bounds_clausesTokens _ _) hmark
  obtain ⟨rfl, rfl⟩ := clausesTokens_append_inj hclauses
  exact ⟨rfl, rfl⟩

/-- **Tokens determine the tree.** -/
theorem tokens_injective : Function.Injective (List.flatMap ItemTree.tokens) := by
  intro items items' h
  induction items generalizing items' with
  | nil =>
    cases items' with
    | nil => rfl
    | cons item' items' => cases item' <;> cases h
  | cons item items ih =>
    cases items' with
    | nil => cases item <;> cases h
    | cons item' items' =>
      rw [List.flatMap_cons, List.flatMap_cons] at h
      obtain ⟨rfl, hitems⟩ : item = item' ∧
          items.flatMap ItemTree.tokens = items'.flatMap ItemTree.tokens := by
        cases item <;> cases item' <;> obtain ⟨hhead, htail⟩ := List.cons.inj h <;> cases hhead
        · exact ⟨rfl, htail⟩
        · exact ⟨rfl, htail⟩
        · obtain ⟨rfl, hrest⟩ := ParameterTree.tokens_append_inj htail
          exact ⟨rfl, hrest⟩
      rw [ih hitems]

/-- So a text has one derivation at most. -/
theorem Derives.unique {items items' : List ItemTree} {cs : List Char} (h : Derives items cs)
    (h' : Derives items' cs) : items = items' :=
  tokens_injective ((derives_iff.mp h).1.unique (derives_iff.mp h').1)

end Routing.Template
