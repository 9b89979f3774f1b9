/-
  Routing/Proofs/Parsing.lean
  ===========================
  **The outline of a template is the tree of its derivation.**  Each reader is a
  function of the tokens at hand: what it takes are the tokens of a tree that passes its
  checks, and what it gives is made of that tree. With the scanner in front this is
  `outline_eq_ok_iff`.
-/
import Routing.Proofs.TreeTokens

namespace Routing.Template

/-! ### Tokens that are taken -/

/-- The first tokens of a list are the given ones, and the rest comes after them. -/
def Consumes : List Token → List Spanned → List Spanned → Prop
  | [], ts, rest => ts = rest
  | _ :: _, [], _ => False
  | token :: tokens, t :: ts, rest => t.token = token ∧ Consumes tokens ts rest

theorem Consumes.exists_cons {ts rest : List Spanned} {token : Token} {tokens : List Token}
    (h : Consumes (token :: tokens) ts rest) :
    ∃ t left, ts = t :: left ∧ t.token = token ∧ Consumes tokens left rest := by
  cases ts with
  | nil => cases h
  | cons t left => exact ⟨t, left, rfl, h⟩

theorem consumes_append_iff {ts rest : List Spanned} {first second : List Token} :
    Consumes (first ++ second) ts rest ↔
      ∃ middle, Consumes first ts middle ∧ Consumes second middle rest := by
  induction first generalizing ts with
  | nil => simp [Consumes]
  | cons token first ih =>
    cases ts with
    | nil => simp [Consumes]
    | cons t ts => simp [Consumes, ih, and_assoc]

theorem Consumes.map_token {ts rest : List Spanned} {tokens : List Token}
    (h : Consumes tokens ts rest) :
    ts.map Spanned.token = tokens ++ rest.map Spanned.token := by
  induction tokens generalizing ts with
  | nil =>
    cases h
    rfl
  | cons token tokens ih =>
    obtain ⟨t, left, rfl, htoken, hleft⟩ := h.exists_cons
    rw [List.map_cons, htoken, ih hleft, List.cons_append]

theorem exists_consumes {ts : List Spanned} {first second : List Token}
    (h : ts.map Spanned.token = first ++ second) :
    ∃ rest, Consumes first ts rest ∧ rest.map Spanned.token = second := by
  induction first generalizing ts with
  | nil => exact ⟨ts, rfl, h⟩
  | cons token first ih =>
    cases ts with
    | nil => cases h
    | cons t ts =>
      obtain ⟨htoken, h⟩ := List.cons.inj h
      obtain ⟨rest, hrest, hsecond⟩ := ih h
      exact ⟨rest, ⟨htoken, hrest⟩, hsecond⟩

def Ends : List Spanned → Prop
  | [] => False
  | t :: _ => t.token = .colon ∨ t.token = .closeBrace

theorem ends_of_consumes {ts rest : List Spanned} {clauses : List ClauseTree}
    (h : Consumes (clausesTokens clauses ++ [.closeBrace]) ts rest) : Ends ts := by
  cases clauses with
  | nil =>
    obtain ⟨t, left, rfl, htoken, -⟩ := h.exists_cons
    exact .inr htoken
  | cons clause clauses =>
    obtain ⟨t, left, rfl, htoken, -⟩ := h.exists_cons
    exact .inl htoken

/-! ### The readers of a parameter -/

theorem expectEnd_eq_ok_iff {fault : SyntaxFault} {stop : Nat} {ts : List Spanned} {u : Unit} :
    expectEnd fault stop ts = .ok u ↔ Ends ts := by
  cases ts with
  | nil => simp [expectEnd, Ends]
  | cons t ts =>
    obtain ⟨token, start, last⟩ := t
    cases token <;> simp [expectEnd, Ends]

def argumentTokens : Option String → List Token
  | none => []
  | some argument => [.argument argument]

theorem readClauseArgument_eq_ok_iff {stop : Nat} {ts rest : List Spanned}
    {argument? : Option String} : readClauseArgument stop ts = .ok (argument?, rest) ↔
      Consumes (argumentTokens argument?) ts rest ∧ Ends rest := by
  constructor
  · intro h
    cases ts with
    | nil => cases h
    | cons t ts =>
      rw [readClauseArgument] at h
      split at h
      · next text htext =>
        obtain ⟨_, hend, heq⟩ := Except.bind_eq_ok.mp h
        cases heq
        exact ⟨⟨htext, rfl⟩, expectEnd_eq_ok_iff.mp hend⟩
      · next htoken =>
        cases h
        exact ⟨rfl, .inl htoken⟩
      · next htoken =>
        cases h
        exact ⟨rfl, .inr htoken⟩
      · cases h
  · rintro ⟨hconsumes, hend⟩
    cases argument? with
    | none =>
      cases hconsumes
      cases ts with
      | nil => cases hend
      | cons t ts => rcases hend with htoken | htoken <;> simp [readClauseArgument, htoken]
    | some argument =>
      obtain ⟨t, left, rfl, htoken, hrest⟩ := hconsumes.exists_cons
      cases hrest
      simp only [readClauseArgument, htoken]
      exact Except.bind_eq_ok.mpr ⟨(), expectEnd_eq_ok_iff.mpr hend, rfl⟩

def ClauseTree.clause : ClauseTree → Clause
  | .named title => ⟨title, none⟩
  | .applied title argument => ⟨title, some argument⟩
  | .anonymous argument => ⟨"", some argument⟩

def ClauseTree.titled (title : String) : Option String → ClauseTree
  | none => .named title
  | some argument => .applied title argument

namespace ClauseTree

theorem clause_titled (title : String) (argument? : Option String) :
    (titled title argument?).clause = ⟨title, argument?⟩ := by
  cases argument? <;> rfl

theorem tokens_titled (title : String) (argument? : Option String) :
    (titled title argument?).tokens = titleToken title :: argumentTokens argument? := by
  cases argument? <;> rfl

theorem checked_titled {title : String} (hne : title ≠ "")
    (h : title = "=" ∨ isConstraintName title) (argument? : Option String) :
    (titled title argument?).Checked := by
  cases argument? with
  | none => exact .named hne h
  | some argument => exact .applied hne h

end ClauseTree

/-- The scanner makes words of word characters, so none is empty or the sign of a default. -/
def WordTokens (ts : List Spanned) : Prop :=
  ∀ t ∈ ts, ∀ word, t.token = .word word → word ≠ "" ∧ word ≠ "="

theorem WordTokens.of_suffix {ts rest : List Spanned} (h : WordTokens ts) (hrest : rest <:+ ts) :
    WordTokens rest :=
  fun t ht => h t (hrest.subset ht)

theorem exists_tree_of_title {stop : Nat} {t : Spanned} {ts rest : List Spanned} {title : String}
    {argument? : Option String} (htoken : t.token = titleToken title) (hne : title ≠ "")
    (htitle : title = "=" ∨ isConstraintName title)
    (hargument : readClauseArgument stop ts = .ok (argument?, rest)) :
    ∃ c : ClauseTree, c.clause = ⟨title, argument?⟩ ∧ c.Checked ∧
      Consumes c.tokens (t :: ts) rest ∧ Ends rest := by
  obtain ⟨hconsumes, hend⟩ := readClauseArgument_eq_ok_iff.mp hargument
  refine ⟨.titled title argument?, ClauseTree.clause_titled _ _,
    ClauseTree.checked_titled hne htitle _, ?_, hend⟩
  rw [ClauseTree.tokens_titled]
  exact ⟨htoken, hconsumes⟩

theorem readClause_of_title {stop colon : Nat} {ts rest : List Spanned} {title : String}
    {argument? : Option String} (htitle : title = "=" ∨ isConstraintName title)
    (hconsumes : Consumes (titleToken title :: argumentTokens argument?) ts rest)
    (hend : Ends rest) : readClause stop colon ts = .ok (⟨title, argument?⟩, rest) := by
  obtain ⟨t, left, rfl, htoken, hleft⟩ := hconsumes.exists_cons
  have hargument : readClauseArgument stop left = .ok (argument?, rest) :=
    readClauseArgument_eq_ok_iff.mpr ⟨hleft, hend⟩
  unfold titleToken at htoken
  split at htoken
  · next hequals =>
    simp only [readClause, htoken, hequals]
    exact Except.bind_eq_ok.mpr ⟨_, hargument, rfl⟩
  · next hword =>
    simp only [readClause, htoken, htitle.resolve_left hword, if_true]
    exact Except.bind_eq_ok.mpr ⟨_, hargument, rfl⟩

theorem readClause_of_argument {stop colon : Nat} {ts rest : List Spanned} {argument : String}
    (hne : argument ≠ "") (hconsumes : Consumes [.argument argument] ts rest) (hend : Ends rest) :
    readClause stop colon ts = .ok (⟨"", some argument⟩, rest) := by
  have hargument : readClauseArgument stop ts = .ok (some argument, rest) :=
    readClauseArgument_eq_ok_iff.mpr ⟨hconsumes, hend⟩
  obtain ⟨t, left, rfl, htoken, -⟩ := hconsumes.exists_cons
  simp only [readClause, htoken]
  refine Except.bind_eq_ok.mpr ⟨_, hargument, ?_⟩
  rw [Option.getD_some, if_neg hne]
  rfl

/-- **A clause is read exactly along a tree** that keeps the rules for titles and arguments. -/
theorem readClause_eq_ok_iff {stop colon : Nat} {ts rest : List Spanned} (hwords : WordTokens ts)
    {clause : Clause} : readClause stop colon ts = .ok (clause, rest) ↔
      ∃ c : ClauseTree, c.clause = clause ∧ c.Checked ∧ Consumes c.tokens ts rest ∧ Ends rest := by
  constructor
  · intro h
    cases ts with
    | nil => cases h
    | cons t ts =>
      -- without a title, the argument is there and not empty
      have unnamed {argument? : Option String} {left : List Spanned}
          (hargument : readClauseArgument stop (t :: ts) = .ok (argument?, left))
          (h : (if argument?.getD "" = "" then Except.error (SyntaxError.mk .emptyConstraint colon)
            else .ok (Clause.mk "" argument?, left)) = .ok (clause, rest)) :
          ∃ c : ClauseTree, c.clause = clause ∧ c.Checked ∧ Consumes c.tokens (t :: ts) rest ∧
            Ends rest := by
        obtain ⟨hconsumes, hend⟩ := readClauseArgument_eq_ok_iff.mp hargument
        split at h
        · cases h
        · next hne =>
          cases h
          cases argument? with
          | none => exact absurd rfl hne
          | some argument => exact ⟨.anonymous argument, rfl, .anonymous hne, hconsumes, hend⟩
      simp only [readClause] at h
      split at h
      · next htoken => -- the equals sign of a default
        obtain ⟨⟨argument?, left⟩, hargument, heq⟩ := Except.bind_eq_ok.mp h
        cases heq
        exact exists_tree_of_title htoken (by decide) (.inl rfl) hargument
      · next word htoken => -- the name of a constraint
        split at h
        · next hname =>
          obtain ⟨hne, hequals⟩ := hwords t List.mem_cons_self word htoken
          obtain ⟨⟨argument?, left⟩, hargument, heq⟩ := Except.bind_eq_ok.mp h
          cases heq
          have htitle : t.token = titleToken word := by rw [titleToken, if_neg hequals, htoken]
          exact exists_tree_of_title htitle hne (.inr hname) hargument
        · cases h
      · -- an argument, a colon or a closing brace: there is no title
        obtain ⟨_, hargument, heq⟩ := Except.bind_eq_ok.mp h
        exact unnamed hargument heq
      · obtain ⟨_, hargument, heq⟩ := Except.bind_eq_ok.mp h
        exact unnamed hargument heq
      · obtain ⟨_, hargument, heq⟩ := Except.bind_eq_ok.mp h
        exact unnamed hargument heq
      · cases h
  · rintro ⟨c, rfl, hchecked, hconsumes, hend⟩
    cases hchecked with
    | @named title _ htitle =>
      have htokens : Consumes (titleToken title :: argumentTokens none) ts rest := hconsumes
      exact readClause_of_title htitle htokens hend
    | @applied title argument _ htitle =>
      have htokens : Consumes (titleToken title :: argumentTokens (some argument)) ts rest :=
        hconsumes
      exact readClause_of_title htitle htokens hend
    | anonymous hne => exact readClause_of_argument hne hconsumes hend

theorem readClauses_colon {stop : Nat} {t : Spanned} {ts : List Spanned}
    (htoken : t.token = .colon) : readClauses stop (t :: ts) = (do
      let (clause, rest) ← readClause stop t.start ts
      (readClauses stop rest).map fun (clauses, rest) => (clause :: clauses, rest)) := by
  rw [readClauses]
  simp only [htoken]
  split
  · next heq =>
    rw [heq]
    rfl
  · next heq =>
    rw [heq]
    rfl

theorem exists_trees_of_readClauses {stop : Nat} {ts rest : List Spanned}
    (hwords : WordTokens ts) {clauses : List Clause}
    (h : readClauses stop ts = .ok (clauses, rest)) :
    ∃ trees : List ClauseTree, trees.map ClauseTree.clause = clauses ∧
      (∀ c ∈ trees, c.Checked) ∧ Consumes (clausesTokens trees ++ [.closeBrace]) ts rest := by
  induction ts using readClauses_induction stop generalizing clauses rest with
  | noTokens | badClause | other => cases h
  | close t ts htoken =>
    cases h
    exact ⟨[], rfl, by simp, htoken, rfl⟩
  | clause t ts htoken clause left hclause ih =>
    obtain ⟨⟨others, left'⟩, hothers, heq⟩ := Except.map_eq_ok.mp h
    cases heq
    have hrest := hwords.of_suffix (List.suffix_cons t ts)
    obtain ⟨c, rfl, hc, hconsumes, -⟩ := (readClause_eq_ok_iff hrest).mp hclause
    obtain ⟨trees, rfl, htrees, hconsumes'⟩ :=
      ih (hrest.of_suffix (readClause_suffix hclause)) hothers
    refine ⟨c :: trees, rfl, List.forall_mem_cons.mpr ⟨hc, htrees⟩, ?_⟩
    rw [clausesTokens_cons, List.cons_append, List.append_assoc]
    exact ⟨htoken, consumes_append_iff.mpr ⟨left, hconsumes, hconsumes'⟩⟩

theorem readClauses_of_trees {stop : Nat} {ts rest : List Spanned} (hwords : WordTokens ts)
    {trees : List ClauseTree} (htrees : ∀ c ∈ trees, c.Checked)
    (hconsumes : Consumes (clausesTokens trees ++ [.closeBrace]) ts rest) :
    readClauses stop ts = .ok (trees.map ClauseTree.clause, rest) := by
  induction trees generalizing ts with
  | nil =>
    obtain ⟨t, left, rfl, htoken, hrest⟩ := hconsumes.exists_cons
    cases hrest
    rw [readClauses]
    simp only [htoken]
    rfl
  | cons c trees ih =>
    rw [clausesTokens_cons, List.cons_append, List.append_assoc] at hconsumes
    obtain ⟨t, left, rfl, htoken, hleft⟩ := hconsumes.exists_cons
    obtain ⟨hc, htrees⟩ := List.forall_mem_cons.mp htrees
    have hwords' := hwords.of_suffix (List.suffix_cons t left)
    obtain ⟨middle, hfirst, hothers⟩ := consumes_append_iff.mp hleft
    have hclause : readClause stop t.start left = .ok (c.clause, middle) :=
      (readClause_eq_ok_iff hwords').mpr ⟨c, rfl, hc, hfirst, ends_of_consumes hothers⟩
    have hclauses := ih (hwords'.of_suffix (readClause_suffix hclause)) htrees hothers
    rw [readClauses_colon htoken]
    exact Except.bind_eq_ok.mpr ⟨_, hclause, Except.map_eq_ok.mpr ⟨_, hclauses, rfl⟩⟩

theorem ofMark?_eq_some_iff {mark : Char} {q : Quantifier} :
    Quantifier.ofMark? mark = some q ↔ markTokens q = [.quantifier mark] := by
  unfold Quantifier.ofMark?
  by_cases hoptional : mark = '?'
  · subst hoptional
    cases q <;> simp [markTokens]
  · by_cases hstar : mark = '*'
    · subst hstar
      cases q <;> simp [markTokens]
    · by_cases hplus : mark = '+'
      · subst hplus
        cases q <;> simp [markTokens]
      · cases q <;> simp [markTokens, hoptional, hstar, hplus, eq_comm]

theorem readQuantifier_eq_ok_iff {stop : Nat} {ts rest : List Spanned} {q : Quantifier} :
    readQuantifier stop ts = .ok (q, rest) ↔ Consumes (markTokens q) ts rest ∧ Ends rest := by
  constructor
  · intro h
    cases ts with
    | nil => simp only [readQuantifier, reduceCtorEq] at h
    | cons t ts =>
      obtain ⟨token, start, last⟩ := t
      cases token with
      | quantifier mark =>
        simp only [readQuantifier] at h
        obtain ⟨_, hend, hmark⟩ := Except.bind_eq_ok.mp h
        split at hmark
        · next q' hq =>
          cases hmark
          rw [ofMark?_eq_some_iff.mp hq]
          exact ⟨⟨rfl, rfl⟩, expectEnd_eq_ok_iff.mp hend⟩
        · cases hmark
      | colon =>
        simp only [readQuantifier, Except.ok.injEq, Prod.mk.injEq] at h
        obtain ⟨rfl, rfl⟩ := h
        exact ⟨rfl, .inl rfl⟩
      | closeBrace =>
        simp only [readQuantifier, Except.ok.injEq, Prod.mk.injEq] at h
        obtain ⟨rfl, rfl⟩ := h
        exact ⟨rfl, .inr rfl⟩
      | _ => simp [readQuantifier] at h
  · rintro ⟨hconsumes, hend⟩
    by_cases hq : q = .required -- a required parameter is the one that is written without a mark
    · subst hq
      cases hconsumes
      cases ts with
      | nil => cases hend
      | cons t ts =>
        obtain ⟨token, start, last⟩ := t
        rcases hend with htoken | htoken <;> cases htoken <;> simp [readQuantifier]
    · obtain ⟨mark, hmark⟩ : ∃ mark, markTokens q = [.quantifier mark] := by
        cases q with
        | required => exact absurd rfl hq
        | optional | zeroOrMore | oneOrMore => exact ⟨_, rfl⟩
      rw [hmark] at hconsumes
      obtain ⟨⟨token, start, last⟩, left, rfl, htoken, hrest⟩ := hconsumes.exists_cons
      cases htoken
      cases hrest
      simp only [readQuantifier]
      refine Except.bind_eq_ok.mpr ⟨(), expectEnd_eq_ok_iff.mpr hend, ?_⟩
      rw [ofMark?_eq_some_iff.mpr hmark]
      rfl

theorem ClauseTree.Checked.constraint?_eq {c : ClauseTree} (h : c.Checked) :
    c.constraint? = if c.clause.isDefault then none else some c.clause.constraint := by
  cases h with
  | named hne _ =>
    simp [constraint?, clause, Clause.isDefault, declaresDefault, Clause.constraint, hne]
  | applied hne _ =>
    simp [constraint?, clause, Clause.isDefault, declaresDefault, Clause.constraint, hne]
  | anonymous _ => rfl

theorem ClauseTree.default?_eq (c : ClauseTree) :
    c.default? = if c.clause.isDefault then some (c.clause.argument?.getD "") else none := by
  cases c <;> rfl

/-- The parameter that is made of the clauses is that of the tree. -/
theorem ParameterTree.node_eq {p : ParameterTree} (hclauses : ∀ c ∈ p.clauses, c.Checked) :
    p.node = .ofClauses p.name p.quantifier (p.clauses.map ClauseTree.clause) := by
  obtain ⟨name, quantifier, clauses⟩ := p
  simp only [node, ParameterNode.ofClauses, ParameterNode.mk.injEq, true_and]
  induction clauses with
  | nil => exact ⟨rfl, rfl⟩
  | cons c clauses ih =>
    obtain ⟨hc, hrest⟩ := List.forall_mem_cons.mp hclauses
    obtain ⟨hconstraints, hdefault⟩ := ih hrest
    rw [List.map_cons, List.filterMap_cons, List.findSome?_cons, List.filter_cons,
      List.find?_cons, hc.constraint?_eq, c.default?_eq]
    cases c.clause.isDefault with
    | true => exact ⟨hconstraints, rfl⟩
    | false => exact ⟨congrArg (c.clause.constraint :: ·) hconstraints, hdefault⟩

/-- **A parameter is read exactly along a tree.** -/
theorem readParameter_eq_ok_iff {stop : Nat} {ts rest : List Spanned} (hwords : WordTokens ts)
    {node : ParameterNode} : readParameter stop ts = .ok (node, rest) ↔
      ∃ p : ParameterTree, p.node = node ∧ p.Checked ∧ Consumes p.tokens ts rest := by
  cases ts with
  | nil =>
    refine iff_of_false (by simp [readParameter]) ?_
    rintro ⟨p, -, -, ⟨⟩⟩
  | cons t ts =>
    have hrest := hwords.of_suffix (List.suffix_cons t ts)
    constructor
    · intro h
      rw [readParameter] at h
      split at h
      · next name htoken =>
        split at h
        · next hname =>
          obtain ⟨⟨q, afterMark⟩, hquantifier, h⟩ := Except.bind_eq_ok.mp h
          obtain ⟨⟨clauses, left⟩, hclauses, heq⟩ := Except.bind_eq_ok.mp h
          cases heq
          -- the name, the mark and the clauses stand one behind the other
          obtain ⟨hmark, -⟩ := readQuantifier_eq_ok_iff.mp hquantifier
          obtain ⟨trees, rfl, htrees, hconsumes⟩ := exists_trees_of_readClauses
            (hrest.of_suffix (readQuantifier_suffix hquantifier)) hclauses
          exact ⟨⟨name, q, trees⟩, ParameterTree.node_eq htrees, ⟨hname, htrees⟩, htoken,
            consumes_append_iff.mpr ⟨afterMark, hmark, hconsumes⟩⟩
        · cases h
      · cases h
    · rintro ⟨p, rfl, hchecked, htoken, hconsumes⟩
      obtain ⟨afterMark, hmark, hconsumes⟩ := consumes_append_iff.mp hconsumes
      have hquantifier : readQuantifier stop ts = .ok (p.quantifier, afterMark) :=
        readQuantifier_eq_ok_iff.mpr ⟨hmark, ends_of_consumes hconsumes⟩
      have hclauses : readClauses stop afterMark =
          .ok (p.clauses.map ClauseTree.clause, rest) :=
        readClauses_of_trees (hrest.of_suffix (readQuantifier_suffix hquantifier))
          hchecked.clauses hconsumes
      rw [ParameterTree.node_eq hchecked.clauses, readParameter]
      simp only [htoken, hchecked.name, if_true]
      exact Except.bind_eq_ok.mpr ⟨_, hquantifier, Except.bind_eq_ok.mpr ⟨_, hclauses, rfl⟩⟩

/-! ### The segments -/

def segmentsAfter (parts : List PartNode) : List ItemTree → List SegmentNode
  | [] => segmentOf parts
  | .slash :: items => segmentOf parts ++ segmentsAfter [] items
  | .literal text :: items => segmentsAfter (parts ++ [.literal text]) items
  | .parameter p :: items => segmentsAfter (parts ++ [.parameter p.node]) items

theorem exists_items_of_readSegments {stop : Nat} {parts : List PartNode} {ts : List Spanned}
    (hwords : WordTokens ts) {segments : List SegmentNode}
    (h : readSegments stop parts ts = .ok segments) :
    ∃ items : List ItemTree, segmentsAfter parts items = segments ∧
      (∀ item ∈ items, item.Checked) ∧
      ts.map Spanned.token = items.flatMap ItemTree.tokens := by
  induction parts, ts using readSegments_induction stop generalizing segments with
  | done =>
    cases h
    exact ⟨[], rfl, by simp, rfl⟩
  | badParameter | other => cases h
  | slash parts t ts htoken ih =>
    obtain ⟨rest, hrest, rfl⟩ := Except.map_eq_ok.mp h
    obtain ⟨items, rfl, hitems, htokens⟩ := ih (hwords.of_suffix (List.suffix_cons t ts)) hrest
    refine ⟨.slash :: items, rfl, List.forall_mem_cons.mpr ⟨trivial, hitems⟩, ?_⟩
    rw [List.map_cons, htoken, htokens]
    rfl
  | literal parts t ts text htoken ih =>
    obtain ⟨items, rfl, hitems, htokens⟩ := ih (hwords.of_suffix (List.suffix_cons t ts)) h
    refine ⟨.literal text :: items, rfl, List.forall_mem_cons.mpr ⟨trivial, hitems⟩, ?_⟩
    rw [List.map_cons, htoken, htokens]
    rfl
  | parameter parts t ts htoken node rest hnode ih =>
    have hts := hwords.of_suffix (List.suffix_cons t ts)
    obtain ⟨p, rfl, hchecked, hconsumes⟩ := (readParameter_eq_ok_iff hts).mp hnode
    obtain ⟨items, rfl, hitems, htokens⟩ := ih (hts.of_suffix (readParameter_suffix hnode)) h
    refine ⟨.parameter p :: items, rfl, List.forall_mem_cons.mpr ⟨hchecked, hitems⟩, ?_⟩
    rw [List.map_cons, htoken, hconsumes.map_token, htokens]
    rfl

theorem readSegments_openBrace {stop : Nat} {parts : List PartNode} {t : Spanned}
    {ts : List Spanned} (htoken : t.token = .openBrace) : readSegments stop parts (t :: ts) = (do
      let (p, rest) ← readParameter stop ts
      readSegments stop (parts ++ [.parameter p]) rest) := by
  rw [readSegments]
  simp only [htoken]
  split
  · next heq =>
    rw [heq]
    rfl
  · next heq =>
    rw [heq]
    rfl

/-- The reader goes past the tokens of a tree, whatever it makes of those after them. -/
theorem readSegments_of_consumes {stop : Nat} {ts rest : List Spanned}
    {others : Except SyntaxError (List SegmentNode)}
    (hrest : ∀ parts, readSegments stop parts rest = others.map (segmentOf parts ++ ·))
    (hwords : WordTokens ts) {items : List ItemTree} (hitems : ∀ item ∈ items, item.Checked)
    (hconsumes : Consumes (items.flatMap ItemTree.tokens) ts rest) (parts : List PartNode) :
    readSegments stop parts ts = others.map (segmentsAfter parts items ++ ·) := by
  induction items generalizing parts ts with
  | nil =>
    cases hconsumes
    exact hrest parts
  | cons item items ih =>
    obtain ⟨hitem, hothers⟩ := List.forall_mem_cons.mp hitems
    rw [List.flatMap_cons] at hconsumes
    cases item with
    | slash => -- a slash ends the segment that was read so far
      obtain ⟨t, left, rfl, htoken, hleft⟩ := hconsumes.exists_cons
      have hslash := ih (hwords.of_suffix (List.suffix_cons t left)) hothers hleft []
      rw [readSegments]
      simp only [htoken, hslash]
      cases others with
      | error e => rfl
      | ok segments => exact congrArg Except.ok (List.append_assoc _ _ _).symm
    | literal text => -- a literal or a parameter goes to the parts of the segment at hand
      obtain ⟨t, left, rfl, htoken, hleft⟩ := hconsumes.exists_cons
      rw [readSegments]
      simp only [htoken]
      exact ih (hwords.of_suffix (List.suffix_cons t left)) hothers hleft _
    | parameter p =>
      obtain ⟨t, left, rfl, htoken, hleft⟩ := hconsumes.exists_cons
      obtain ⟨middle, hparameter, hmiddle⟩ := consumes_append_iff.mp hleft
      have hleft := hwords.of_suffix (List.suffix_cons t left)
      have hnode : readParameter stop left = .ok (p.node, middle) :=
        (readParameter_eq_ok_iff hleft).mpr ⟨p, rfl, hitem, hparameter⟩
      rw [readSegments_openBrace htoken, hnode]
      exact ih (hleft.of_suffix (readParameter_suffix hnode)) hothers hmiddle _

theorem readSegments_of_items {stop : Nat} (parts : List PartNode) {ts : List Spanned}
    (hwords : WordTokens ts) {items : List ItemTree} (hitems : ∀ item ∈ items, item.Checked)
    (htokens : ts.map Spanned.token = items.flatMap ItemTree.tokens) :
    readSegments stop parts ts = .ok (segmentsAfter parts items) := by
  have hend (parts : List PartNode) : readSegments stop parts [] =
      (Except.ok []).map (segmentOf parts ++ ·) := by
    rw [readSegments]
    simp only [Except.map, List.append_nil]
  rw [← List.append_nil (items.flatMap ItemTree.tokens)] at htokens
  obtain ⟨rest, hconsumes, hrest⟩ := exists_consumes htokens
  cases List.map_eq_nil_iff.mp hrest
  rw [readSegments_of_consumes hend hwords hitems hconsumes parts]
  simp only [Except.map, List.append_nil]

theorem segmentsOf_eq (items : List ItemTree) : segmentsOf items =
    (items.splitOnP ItemTree.isSlash).flatMap fun group =>
      segmentOf (group.filterMap ItemTree.part?) := by
  unfold segmentsOf
  induction items.splitOnP ItemTree.isSlash with
  | nil => rfl
  | cons group groups ih =>
    rw [List.map_cons, List.filter_cons, List.flatMap_cons, ← ih, segmentOf]
    cases (group.filterMap ItemTree.part?).isEmpty <;> rfl

theorem segmentsAfter_eq {items : List ItemTree} {first : List ItemTree}
    {others : List (List ItemTree)} (h : items.splitOnP ItemTree.isSlash = first :: others)
    (parts : List PartNode) : segmentsAfter parts items =
      segmentOf (parts ++ first.filterMap ItemTree.part?) ++
        others.flatMap fun group => segmentOf (group.filterMap ItemTree.part?) := by
  induction items generalizing parts first others with
  | nil =>
    cases h
    simp [segmentsAfter]
  | cons item items ih =>
    obtain ⟨next, rest, hsplit⟩ :=
      List.exists_cons_of_ne_nil (List.splitOnP_ne_nil ItemTree.isSlash items)
    rw [List.splitOnP_cons_eq_if_modifyHead, hsplit] at h
    cases item with
    | slash =>
      cases h
      rw [segmentsAfter, ih hsplit, List.flatMap_cons]
      simp
    | literal text =>
      cases h
      rw [segmentsAfter, ih hsplit]
      simp [ItemTree.part?]
    | parameter p =>
      cases h
      rw [segmentsAfter, ih hsplit]
      simp [ItemTree.part?]

/-- Cutting the items at slashes gives the same segments as collecting parts up to the next slash.
    -/
theorem segmentsAfter_nil (items : List ItemTree) : segmentsAfter [] items = segmentsOf items := by
  obtain ⟨first, others, hsplit⟩ :=
    List.exists_cons_of_ne_nil (List.splitOnP_ne_nil ItemTree.isSlash items)
  rw [segmentsAfter_eq hsplit, segmentsOf_eq, hsplit, List.flatMap_cons]
  rfl

/-! ### The outline -/

theorem wordTokens_of_tokens {template : String} {ts : List Spanned}
    (h : tokens template = .ok ts) : WordTokens ts := by
  intro t ht word hword
  have hlexes : Lexes false template.toList (ts.map Spanned.token) :=
    exists_tokens_iff.mp ⟨ts, h, rfl⟩
  exact hlexes.ne_of_mem_word (hword ▸ List.mem_map_of_mem ht)

/-- An outline is what some derivation of the template makes. -/
theorem outline_eq_ok_iff_exists {template : String} {segments : List SegmentNode} :
    outline template = .ok segments ↔
      ∃ items, Derives items template.toList ∧ segmentsOf items = segments := by
  constructor
  · intro h
    rw [outline] at h
    split at h
    · cases h
    · next ts hts =>
      obtain ⟨items, rfl, hchecked, htokens⟩ :=
        exists_items_of_readSegments (wordTokens_of_tokens hts) h
      have hlexes : Lexes false template.toList (items.flatMap ItemTree.tokens) :=
        exists_tokens_iff.mp ⟨ts, hts, htokens⟩
      exact ⟨items, derives_iff.mpr ⟨hlexes, hchecked⟩, (segmentsAfter_nil items).symm⟩
  · rintro ⟨items, hderives, rfl⟩
    obtain ⟨hlexes, hchecked⟩ := derives_iff.mp hderives
    obtain ⟨ts, hts, htokens⟩ := exists_tokens_iff.mpr hlexes
    rw [outline, hts]
    rw [← segmentsAfter_nil]
    exact readSegments_of_items [] (wordTokens_of_tokens hts) hchecked htokens

/-- **A template has an outline exactly if the grammar derives it, and the outline is
    what the one derivation stands for.** -/
theorem outline_eq_ok_iff (template : String) :
    (∀ segments, outline template = .ok segments ↔
      ∃ items, Derives items template.toList ∧ segmentsOf items = segments) ∧
    ∀ items items', Derives items template.toList → Derives items' template.toList →
      items = items' :=
  ⟨fun _ => outline_eq_ok_iff_exists, fun _ _ => Derives.unique⟩

theorem outline_eq_ok_iff_nested :
    outline "/v\x7bn*:(f\x7b2\x7d):int:=(5)\x7d" = .ok [⟨[.literal "v", .parameter
      ⟨"n", .zeroOrMore, [⟨"regex", "f\x7b2\x7d"⟩, ⟨"int", ""⟩], some "5"⟩]⟩] ∧
    ∀ items, Derives items "/v\x7bn*:(f\x7b2\x7d):int:=(5)\x7d".toList →
      items = [.slash, .literal "v", .parameter ⟨"n", .zeroOrMore,
        [.anonymous "f\x7b2\x7d", .named "int", .applied "=" "5"]⟩] := by
  have hargument : Balanced "f\x7b2\x7d".toList :=
    .other (by decide) (.nested (by decide) (.other (by decide) .nil) .nil)
  have hletter : ∀ c ∈ "v".toList, c ≠ '/' ∧ c ≠ '{' := by
    intro c hc
    cases List.mem_singleton.mp hc
    decide
  have hint : IsTitle "int" :=
    .inr ⟨by decide, fun c hc => .inl (List.all_eq_true.mp rfl c hc)⟩
  have hclauses : ∀ clause ∈ [ClauseTree.anonymous "f\x7b2\x7d", .named "int", .applied "=" "5"],
      clause.Grammatical := by
    simp only [List.forall_mem_cons, List.not_mem_nil, false_imp_iff, implies_true, and_true]
    exact ⟨.anonymous hargument (by decide), .named hint,
      .applied (.inl rfl) (.other (by decide) .nil)⟩
  have hderives : Derives [.slash, .literal "v", .parameter ⟨"n", .zeroOrMore,
      [.anonymous "f\x7b2\x7d", .named "int", .applied "=" "5"]⟩]
      "/v\x7bn*:(f\x7b2\x7d):int:=(5)\x7d".toList :=
    .slash (.literal (by decide) hletter (fun c hc => .inr (Option.some.inj hc).symm)
      (.parameter ⟨⟨'n', [], rfl, .inl rfl, by simp⟩, hclauses⟩ .nil))
  obtain ⟨houtline, hunique⟩ := outline_eq_ok_iff "/v\x7bn*:(f\x7b2\x7d):int:=(5)\x7d"
  refine ⟨(houtline _).mpr ⟨_, hderives, by decide⟩, ?_⟩
  intro items hitems
  exact hunique items _ hitems hderives

end Routing.Template
