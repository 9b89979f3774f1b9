/-
  Routing/Proofs/JoinedTemplates.lean
  ===================================
  **A slash outside of braces takes a template apart.**  What the scanner and the readers
  make of a text does not depend on where it stands in the template: all bytes that they
  name are further on by the same number. So the outline of `a/b` is that of `a` and then
  that of `b`, `outline_join`, and a slash with nothing beside it leaves no trace.
-/
import Routing.Proofs.Parsing
import Routing.Proofs.TokenSpans
import Mathlib.Logic.Relation

namespace Routing.Template

/-! ### The same text further on -/

def Spanned.shift (k : Nat) (t : Spanned) : Spanned :=
  ⟨t.token, k + t.start, k + t.stop⟩

def TokenError.shift (k : Nat) (e : TokenError) : TokenError :=
  ⟨e.fault, k + e.offset⟩

def SyntaxError.shift (k : Nat) (e : SyntaxError) : SyntaxError :=
  ⟨e.fault, k + e.offset⟩

def Mode.shift (k : Nat) : Mode → Mode
  | .outside => .outside
  | .inside opened => .inside (k + opened)

/-- A result that came from bytes `k` further on, in its errors and in its value. -/
def shifted {ε α : Type} (onError : ε → ε) (onValue : α → α) : Except ε α → Except ε α
  | .error e => .error (onError e)
  | .ok a => .ok (onValue a)

theorem shifted_map {ε α β : Type} {onError : ε → ε} {onValue : α → α} {onResult : β → β}
    {f g : α → β} (hcomm : ∀ a, onResult (f a) = g (onValue a)) (x : Except ε α) :
    shifted onError onResult (x.map f) = (shifted onError onValue x).map g := by
  cases x with
  | error e => rfl
  | ok a => exact congrArg Except.ok (hcomm a)

theorem shifted_bind {ε α β : Type} {onError : ε → ε} {onValue : α → α} {onResult : β → β}
    {f g : α → Except ε β} (hcomm : ∀ a, shifted onError onResult (f a) = g (onValue a))
    (x : Except ε α) :
    shifted onError onResult (x >>= f) = shifted onError onValue x >>= g := by
  cases x with
  | error e => rfl
  | ok a => exact hcomm a

/-- The reader of arguments looks at its offset only to report it. -/
theorem readArgument_shift (k opened : Nat) (expected : List Char) (offset : Nat)
    (cs : List Char) : readArgument (k + opened) expected (k + offset) cs =
      shifted (TokenError.shift k) id (readArgument opened expected offset cs) := by
  induction cs generalizing expected offset with
  | nil => rfl
  | cons c cs ih =>
    have step (expected : List Char) {f : List Char × List Char → List Char × List Char} :
        (readArgument (k + opened) expected (k + offset + c.utf8Size) cs).map f =
          shifted (TokenError.shift k) id
            ((readArgument opened expected (offset + c.utf8Size) cs).map f) := by
      rw [Nat.add_assoc, ih]
      symm
      apply shifted_map
      exact fun _ => rfl
    simp only [readArgument]
    split
    · exact step _
    · split
      · split
        · rfl
        · split
          · rfl
          · split
            · rfl
            · exact step _
      · exact step _

/-- **A scan from a later byte is the same scan, with all bytes moved.** -/
theorem scan_shift (k : Nat) (mode : Mode) (offset : Nat) (cs : List Char) :
    scan (mode.shift k) (k + offset) cs =
      shifted (TokenError.shift k) (List.map (Spanned.shift k)) (scan mode offset cs) := by
  -- a token before those of the rest of the template
  have step {mode : Mode} {token : Token} {start stop stop' : Nat} {cs : List Char}
      (hstop : stop' = k + stop)
      (ih : scan (mode.shift k) (k + stop) cs =
        shifted (TokenError.shift k) (List.map (Spanned.shift k)) (scan mode stop cs)) :
      (scan (mode.shift k) stop' cs).map (⟨token, k + start, stop'⟩ :: ·) =
        shifted (TokenError.shift k) (List.map (Spanned.shift k))
          ((scan mode stop cs).map (⟨token, start, stop⟩ :: ·)) := by
    rw [hstop, ih]
    symm
    apply shifted_map
    exact fun _ => rfl
  induction mode, offset, cs using scan_induction with
  | done | unterminated =>
    rw [Mode.shift, scan]
    rfl
  | slash offset rest ih =>
    rw [Mode.shift, scan_slash]
    exact step (Nat.add_assoc _ _ _) ih
  | openBrace offset rest ih =>
    rw [Mode.shift, scan_openBrace]
    exact step (Nat.add_assoc _ _ _) ih
  | literal offset c rest hslash hbrace ih =>
    rw [Mode.shift, scan, if_neg hslash, if_neg hbrace]
    exact step (Nat.add_assoc _ _ _) ih
  | closeBrace offset opened rest ih =>
    rw [Mode.shift, scan_closeBrace]
    exact step (Nat.add_assoc _ _ _) ih
  | colon offset opened rest ih =>
    rw [Mode.shift, scan_colon]
    exact step (Nat.add_assoc _ _ _) ih
  | equals offset opened rest ih =>
    rw [Mode.shift, scan_equals]
    exact step (Nat.add_assoc _ _ _) ih
  | quantifier offset opened mark rest hmark ih =>
    rw [Mode.shift, scan_quantifier hmark]
    exact step (Nat.add_assoc _ _ _) ih
  | badArgument offset opened rest e hargument =>
    rw [Mode.shift, scan_openParen, Nat.add_assoc, readArgument_shift, hargument]
    rfl
  | argument offset opened rest text after hargument ih =>
    rw [Mode.shift, scan_openParen, Nat.add_assoc, readArgument_shift, hargument]
    exact step (by omega) ih
  | word offset opened c rest hclose hcolon hequals hmark hparen hword ih =>
    rw [Mode.shift, scan, if_neg hclose, if_neg hcolon, if_neg hequals, if_neg hmark,
      if_neg hparen, if_pos hword]
    exact step (Nat.add_assoc _ _ _) ih
  | stray offset opened c rest hclose hcolon hequals hmark hparen hword ih =>
    rw [Mode.shift, scan, if_neg hclose, if_neg hcolon, if_neg hequals, if_neg hmark,
      if_neg hparen, if_neg hword]
    exact step (Nat.add_assoc _ _ _) ih

section

variable {α : Type}

abbrev shiftRead (k : Nat) :
    Except SyntaxError (α × List Spanned) → Except SyntaxError (α × List Spanned) :=
  shifted (SyntaxError.shift k) fun (a, rest) => (a, rest.map (Spanned.shift k))

end

section

variable (k stop : Nat)

theorem expectEnd_shift (fault : SyntaxFault) (ts : List Spanned) :
    expectEnd fault (k + stop) (ts.map (Spanned.shift k)) =
      shifted (SyntaxError.shift k) id (expectEnd fault stop ts) := by
  cases ts with
  | nil => rfl
  | cons t ts =>
    obtain ⟨token, start, last⟩ := t
    cases token <;> rfl

theorem readClauseArgument_shift (ts : List Spanned) :
    readClauseArgument (k + stop) (ts.map (Spanned.shift k)) =
      shiftRead k (readClauseArgument stop ts) := by
  cases ts with
  | nil => rfl
  | cons t ts =>
    obtain ⟨token, start, last⟩ := t
    cases token with
    | argument text =>
      simp only [readClauseArgument, List.map_cons, Spanned.shift, expectEnd_shift]
      symm
      apply shifted_bind
      exact fun _ => rfl
    | _ => rfl

theorem readClause_shift (colon : Nat) (ts : List Spanned) :
    readClause (k + stop) (k + colon) (ts.map (Spanned.shift k)) =
      shiftRead k (readClause stop colon ts) := by
  cases ts with
  | nil => rfl
  | cons t ts =>
    obtain ⟨token, start, last⟩ := t
    -- the clause has a title, and its argument is read behind it
    have titled (title : String) :
        (do
          let read ← readClauseArgument (k + stop) (ts.map (Spanned.shift k))
          return (⟨title, read.1⟩, read.2) : Except SyntaxError (Clause × List Spanned)) =
        shiftRead k (do
          let read ← readClauseArgument stop ts
          return (⟨title, read.1⟩, read.2)) := by
      rw [readClauseArgument_shift]
      symm
      apply shifted_bind
      exact fun _ => rfl
    -- the argument stands first, and an empty clause is reported at the colon
    have untitled (t : Spanned) :
        (do
          let read ← readClauseArgument (k + stop) ((t :: ts).map (Spanned.shift k))
          if read.1.getD "" = "" then .error ⟨.emptyConstraint, k + colon⟩
          else return (⟨"", read.1⟩, read.2) : Except SyntaxError (Clause × List Spanned)) =
        shiftRead k (do
          let read ← readClauseArgument stop (t :: ts)
          if read.1.getD "" = "" then .error ⟨.emptyConstraint, colon⟩
          else return (⟨"", read.1⟩, read.2)) := by
      rw [readClauseArgument_shift]
      symm
      apply shifted_bind
      rintro ⟨argument?, rest⟩
      dsimp only
      split <;> rfl
    cases token with
    | equals => exact titled "="
    | word word =>
      simp only [readClause, List.map_cons, Spanned.shift]
      split
      · exact titled word
      · rfl
    | argument text => exact untitled _
    | colon => exact untitled _
    | closeBrace => exact untitled _
    | _ => rfl

theorem readClauses_shift (ts : List Spanned) :
    readClauses (k + stop) (ts.map (Spanned.shift k)) = shiftRead k (readClauses stop ts) := by
  induction ts using readClauses_induction stop with
  | noTokens =>
    rw [List.map_nil, readClauses]
    rfl
  | close t ts htoken =>
    rw [List.map_cons, readClauses]
    simp only [Spanned.shift, htoken]
    rfl
  | badClause t ts htoken e hclause =>
    have hshift := readClause_shift k stop t.start ts
    have hcolon : (t.shift k).token = .colon := htoken
    rw [hclause] at hshift
    rw [List.map_cons, readClauses_colon hcolon]
    exact congrArg (· >>= _) hshift
  | clause t ts htoken clause left hclause ih =>
    have hshift := readClause_shift k stop t.start ts
    have hcolon : (t.shift k).token = .colon := htoken
    rw [hclause] at hshift
    rw [List.map_cons, readClauses_colon hcolon]
    refine (congrArg (· >>= _) hshift).trans ?_
    show (readClauses (k + stop) (left.map (Spanned.shift k))).map _ = _
    rw [ih]
    symm
    apply shifted_map
    exact fun _ => rfl
  | other t ts hclose hcolon =>
    obtain ⟨token, start, last⟩ := t
    rw [List.map_cons, readClauses]
    simp only [Spanned.shift]
    cases token with
    | closeBrace => exact absurd rfl hclose
    | colon => exact absurd rfl hcolon
    | _ => rfl

theorem readQuantifier_shift (ts : List Spanned) :
    readQuantifier (k + stop) (ts.map (Spanned.shift k)) =
      shiftRead k (readQuantifier stop ts) := by
  cases ts with
  | nil => rfl
  | cons t ts =>
    obtain ⟨token, start, last⟩ := t
    cases token with
    | quantifier mark =>
      simp only [readQuantifier, List.map_cons, Spanned.shift, expectEnd_shift]
      symm
      apply shifted_bind
      intro u
      split <;> rfl
    | _ => rfl

theorem readParameter_shift (ts : List Spanned) :
    readParameter (k + stop) (ts.map (Spanned.shift k)) = shiftRead k (readParameter stop ts) := by
  cases ts with
  | nil => rfl
  | cons t ts =>
    obtain ⟨token, start, last⟩ := t
    cases token with
    | word name =>
      simp only [readParameter, List.map_cons, Spanned.shift]
      split
      · rw [readQuantifier_shift]
        symm
        apply shifted_bind
        rintro ⟨quantifier, rest⟩
        dsimp only
        rw [readClauses_shift]
        apply shifted_bind
        exact fun _ => rfl
      · rfl
    | _ => rfl

theorem readSegments_shift (parts : List PartNode) (ts : List Spanned) :
    readSegments (k + stop) parts (ts.map (Spanned.shift k)) =
      shifted (SyntaxError.shift k) id (readSegments stop parts ts) := by
  induction parts, ts using readSegments_induction stop with
  | done =>
    rw [List.map_nil, readSegments]
    rfl
  | slash parts t ts htoken ih =>
    rw [List.map_cons, readSegments]
    simp only [Spanned.shift, htoken, ih]
    symm
    apply shifted_map
    exact fun _ => rfl
  | literal parts t ts text htoken ih =>
    rw [List.map_cons, readSegments]
    simp only [Spanned.shift, htoken, ih]
  | badParameter parts t ts htoken e hparameter =>
    have hshift := readParameter_shift k stop ts
    have hbrace : (t.shift k).token = .openBrace := htoken
    rw [hparameter] at hshift
    rw [List.map_cons, readSegments_openBrace hbrace, hshift]
    rfl
  | parameter parts t ts htoken node rest hparameter ih =>
    have hshift := readParameter_shift k stop ts
    have hbrace : (t.shift k).token = .openBrace := htoken
    rw [hparameter] at hshift
    rw [List.map_cons, readSegments_openBrace hbrace, hshift]
    exact ih
  | other parts t ts hslash hliteral hbrace =>
    obtain ⟨token, start, last⟩ := t
    rw [List.map_cons, readSegments]
    simp only [Spanned.shift]
    cases token with
    | slash => exact absurd rfl hslash
    | literal text => exact absurd rfl (hliteral text)
    | openBrace => exact absurd rfl hbrace
    | _ => rfl

end

/-! ### A slash between two templates -/

/-- The template ends outside of braces, so that a slash after it stands between segments. -/
def EndsOutside (template : String) : Prop :=
  ∃ ts, tokens template = .ok ts

/-- A template that is read to its end has closed all its braces. -/
theorem endsOutside_of_outline {template : String} {segments : List SegmentNode}
    (h : outline template = .ok segments) : EndsOutside template := by
  rw [outline] at h
  split at h
  · cases h
  · next ts hts => exact ⟨ts, hts⟩

theorem toList_join (a b : String) : (a ++ "/" ++ b).toList = a.toList ++ '/' :: b.toList := by
  rw [String.toList_append, String.toList_append, List.append_assoc]
  rfl

theorem utf8ByteSize_join (a b : String) :
    (a ++ "/" ++ b).utf8ByteSize = a.utf8ByteSize + 1 + b.utf8ByteSize := by
  rw [String.utf8ByteSize_append, String.utf8ByteSize_append]
  rfl

/-- A slash outside of braces is a token of its own, whatever stands around it. -/
theorem tokens_join {a : String} {before : List Spanned} (h : tokens a = .ok before) (b : String) :
    tokens (a ++ "/" ++ b) =
      (shifted (TokenError.shift (a.utf8ByteSize + 1))
        (List.map (Spanned.shift (a.utf8ByteSize + 1))) (tokens b)).map
          (before ++ ⟨.slash, a.utf8ByteSize, a.utf8ByteSize + 1⟩ :: ·) := by
  obtain ⟨hlexes, hlaid⟩ := eq_laidFrom_of_tokens h
  have hhead : ∀ c, ('/' :: b.toList).head? = some c → isLiteralChar c = false := by
    rintro c ⟨⟩
    rfl
  have hscan : scan .outside 0 (a.toList ++ '/' :: b.toList) =
      (scan .outside (0 + byteLength a.toList) ('/' :: b.toList)).map (before ++ ·) := by
    rw [hlaid]
    exact scan_append_of_lexes hlexes hhead 0 0
  have hafter := scan_shift (a.utf8ByteSize + 1) .outside 0 b.toList
  rw [Nat.add_zero, Mode.shift] at hafter
  rw [tokens, toList_join, hscan, byteLength_toList, Nat.zero_add, scan_slash, hafter, ← tokens]
  cases tokens b <;> rfl

theorem consumes_self_append {ts : List Spanned} {tokens : List Token}
    (h : ts.map Spanned.token = tokens) (rest : List Spanned) :
    Consumes tokens (ts ++ rest) rest := by
  induction ts generalizing tokens with
  | nil =>
    cases h
    rfl
  | cons t ts ih =>
    cases h
    exact ⟨rfl, ih rfl⟩

/-- The outline after a template and a slash is that of the rest, further on. -/
theorem outline_join {a : String} {x : List SegmentNode} (h : outline a = .ok x) (b : String) :
    outline (a ++ "/" ++ b) =
      (shifted (SyntaxError.shift (a.utf8ByteSize + 1)) id (outline b)).map (x ++ ·) := by
  rw [outline] at h
  split at h
  · cases h
  · next before hbefore =>
    obtain ⟨items, rfl, hchecked, htokens⟩ :=
      exists_items_of_readSegments (wordTokens_of_tokens hbefore) h
    have hjoin := tokens_join hbefore b
    rw [outline, outline, hjoin, utf8ByteSize_join]
    cases hb : tokens b with
    | error e => rfl
    | ok after =>
      rw [hb] at hjoin
      have hwords := wordTokens_of_tokens hjoin
      refine readSegments_of_consumes ?_ hwords hchecked (consumes_self_append htokens _) []
      intro parts
      rw [readSegments]
      simp only [readSegments_shift]

theorem slash_not_mem_tokens (p : ParameterTree) : .slash ∉ p.tokens := by
  obtain ⟨name, quantifier, clauses⟩ := p
  have htitle (title : String) : .slash ≠ titleToken title := by
    unfold titleToken
    split <;> simp
  have hmark : .slash ∉ markTokens quantifier := by
    cases quantifier <;> simp [markTokens]
  have hclauses : .slash ∉ clausesTokens clauses := by
    simp only [clausesTokens, List.mem_flatMap, not_exists, not_and]
    rintro (title | ⟨title, argument⟩ | argument) - <;>
      simp [ClauseTree.tokens, htitle]
  simp [ParameterTree.tokens, hmark, hclauses]

/-- A slash among the tokens of a tree is an item of the tree. -/
theorem exists_items_around_slash {items : List ItemTree} {before after : List Token}
    (h : items.flatMap ItemTree.tokens = before ++ .slash :: after) :
    ∃ first second, items = first ++ .slash :: second ∧
      first.flatMap ItemTree.tokens = before := by
  induction items generalizing before with
  | nil => simp at h
  | cons item items ih =>
    rw [List.flatMap_cons] at h
    obtain ⟨first, rfl, hitems⟩ | ⟨rest, hitem, hrest⟩ := List.append_eq_append_iff.mp h
    · obtain ⟨first', second, rfl, rfl⟩ := ih hitems
      exact ⟨item :: first', second, rfl, List.flatMap_cons⟩
    · cases rest with
      | nil =>
        rw [List.append_nil] at hitem
        have hslash : items.flatMap ItemTree.tokens = [] ++ .slash :: after := hrest.symm
        obtain ⟨first, second, rfl, hfirst⟩ := ih hslash
        refine ⟨item :: first, second, rfl, ?_⟩
        rw [List.flatMap_cons, hfirst, List.append_nil, hitem]
      | cons t rest =>
        obtain ⟨rfl, -⟩ := List.cons.inj hrest
        have hmem : .slash ∈ item.tokens := by simp [hitem]
        cases item with
        | slash =>
          obtain rfl : before = [] := by
            cases before with
            | nil => rfl
            | cons t before => simp [ItemTree.tokens] at hitem
          exact ⟨[], items, rfl, rfl⟩
        | literal text => simp [ItemTree.tokens] at hmem
        | parameter p => simp [ItemTree.tokens, slash_not_mem_tokens] at hmem

/-- Nothing of a template goes into what stands after a slash outside of braces. -/
theorem outline_join_eq_ok_iff {a b : String} (ha : EndsOutside a) {segments : List SegmentNode} :
    outline (a ++ "/" ++ b) = .ok segments ↔
      ∃ x y, outline a = .ok x ∧ outline b = .ok y ∧ x ++ y = segments := by
  constructor
  · intro h
    obtain ⟨before, hbefore⟩ := ha
    obtain ⟨items, hderives, -⟩ := outline_eq_ok_iff_exists.mp h
    obtain ⟨hlexes, hchecked⟩ := derives_iff.mp hderives
    obtain ⟨ts, hts, htokens⟩ := exists_tokens_iff.mpr hlexes
    have hjoin := tokens_join hbefore b
    rw [hts] at hjoin
    obtain ⟨after, -, rfl⟩ := Except.map_eq_ok.mp hjoin.symm
    -- the slash is a token of the whole, so it parts the items
    rw [List.map_append, List.map_cons] at htokens
    obtain ⟨first, second, rfl, hfirst⟩ := exists_items_around_slash htokens.symm
    have hx : outline a = .ok (segmentsAfter [] first) := by
      rw [outline, hbefore]
      refine readSegments_of_items [] (wordTokens_of_tokens hbefore) ?_ hfirst.symm
      intro item hitem
      exact hchecked item (List.mem_append_left _ hitem)
    rw [outline_join hx] at h
    obtain ⟨y, hy, hsegments⟩ := Except.map_eq_ok.mp h
    refine ⟨_, y, hx, ?_, hsegments⟩
    cases hb : outline b with
    | error e =>
      rw [hb] at hy
      cases hy
    | ok y' =>
      rw [hb] at hy
      exact hy
  · rintro ⟨x, y, hx, hy, rfl⟩
    rw [outline_join hx, hy]
    rfl

theorem outline_empty : outline "" = .ok [] := by
  rw [outline, show tokens "" = .ok [] from scan.eq_1 0]
  exact readSegments.eq_1 _ []

/-- The first template has one slash more, outside of braces and beside no part. -/
inductive ExtraSlash : String → String → Prop
  | leading (t : String) : ExtraSlash ("/" ++ t) t
  | trailing (t : String) (h : EndsOutside t) : ExtraSlash (t ++ "/") t
  | repeated (a b : String) (h : EndsOutside a) : ExtraSlash (a ++ "/" ++ "/" ++ b) (a ++ "/" ++ b)

theorem outline_leading_slash {t : String} {segments : List SegmentNode} :
    outline ("/" ++ t) = .ok segments ↔ outline t = .ok segments := by
  have hempty : EndsOutside "" := ⟨[], scan.eq_1 0⟩
  have hjoin := @outline_join_eq_ok_iff "" t hempty segments
  rw [String.empty_append] at hjoin
  rw [hjoin]
  constructor
  · rintro ⟨x, y, hx, hy, rfl⟩
    rw [outline_empty] at hx
    cases hx
    exact hy
  · intro h
    exact ⟨[], segments, outline_empty, h, rfl⟩

theorem ExtraSlash.outline_iff {s t : String} (h : ExtraSlash s t) {segments : List SegmentNode} :
    outline s = .ok segments ↔ outline t = .ok segments := by
  cases h with
  | leading t => exact outline_leading_slash
  | trailing _ ht =>
    have hjoin := @outline_join_eq_ok_iff t "" ht segments
    rw [String.append_empty] at hjoin
    rw [hjoin]
    constructor
    · rintro ⟨x, y, hx, hy, rfl⟩
      rw [outline_empty] at hy
      cases hy
      rw [List.append_nil]
      exact hx
    · intro h
      exact ⟨segments, [], h, outline_empty, List.append_nil _⟩
  | repeated a b ha =>
    rw [String.append_assoc, outline_join_eq_ok_iff ha, outline_join_eq_ok_iff ha]
    simp only [outline_leading_slash]

theorem outline_iff_of_extraSlashes {s t : String} (h : Relation.EqvGen ExtraSlash s t)
    {segments : List SegmentNode} : outline s = .ok segments ↔ outline t = .ok segments := by
  induction h with
  | rel _ _ h => exact h.outline_iff
  | refl _ => exact Iff.rfl
  | symm _ _ _ ih => exact ih.symm
  | trans _ _ _ _ _ ih ih' => exact ih.trans ih'

/-- **Joining templates with a slash joins their outlines**, with the errors of the second one
    further on; slashes beside no part change neither the segments nor the expression. -/
theorem outline_joined :
    (∀ a b x, outline a = .ok x →
      (∀ y, outline b = .ok y → outline (a ++ "/" ++ b) = .ok (x ++ y)) ∧
      ∀ fault offset, outline b = .error ⟨fault, offset⟩ →
        outline (a ++ "/" ++ b) = .error ⟨fault, a.utf8ByteSize + 1 + offset⟩) ∧
    ∀ s t, Relation.EqvGen ExtraSlash s t →
      (∀ segments, outline s = .ok segments ↔ outline t = .ok segments) ∧
      ∀ set p, RoutePattern.compile set s = .ok p → ∃ q, RoutePattern.compile set t = .ok q ∧
        q.segments = p.segments ∧ q.source = p.source ∧ q.regex = p.regex := by
  refine ⟨?_, ?_⟩
  · intro a b x hx
    have hjoin := outline_join hx b
    constructor
    · intro y hy
      rw [hjoin, hy]
      rfl
    · intro fault offset he
      rw [hjoin, he]
      rfl
  · intro s t h
    refine ⟨fun _ => outline_iff_of_extraSlashes h, ?_⟩
    intro set p hp
    obtain ⟨segments, hs, hvalid, hbinds⟩ := RoutePattern.compile_eq_ok hp
    have ht := (outline_iff_of_extraSlashes h).mp hs
    have hbind : bind set segments = .ok p.segments := bind_eq_ok_iff.mpr ⟨hvalid, hbinds⟩
    exact ⟨_, RoutePattern.compile_of_outline ht hbind, rfl, rfl, rfl⟩

theorem outline_joined_users :
    outline ("users" ++ "/" ++ "\x7bid\x7d") =
      .ok [⟨[.literal "users"]⟩, ⟨[.parameter ⟨"id", .required, [], none⟩]⟩] ∧
    outline ("users" ++ "/" ++ "é\x7b9\x7d") = .error ⟨.parameterName, 5 + 1 + 3⟩ ∧
    outline "/users//\x7bid\x7d/" =
      .ok [⟨[.literal "users"]⟩, ⟨[.parameter ⟨"id", .required, [], none⟩]⟩] ∧
    ∃ q, RoutePattern.compile .empty "/users//\x7bid\x7d/" = .ok q ∧
      q.source = "^/users/([^/]+?)/?$" := by
  obtain ⟨hjoin, hslash⟩ := outline_joined
  have husers : outline "users" = .ok [⟨[.literal "users"]⟩] := by decide +kernel
  have hid : outline "\x7bid\x7d" = .ok [⟨[.parameter ⟨"id", .required, [], none⟩]⟩] := by
    decide +kernel
  have hfault : outline "é\x7b9\x7d" = .error ⟨.parameterName, 3⟩ := by decide +kernel
  have hwhole : outline "users/\x7bid\x7d" =
      .ok [⟨[.literal "users"]⟩, ⟨[.parameter ⟨"id", .required, [], none⟩]⟩] :=
    (hjoin _ _ _ husers).1 _ hid
  have hslashes : Relation.EqvGen ExtraSlash "/users//\x7bid\x7d/" "users/\x7bid\x7d" := by
    have hrepeated := ExtraSlash.repeated "users" "\x7bid\x7d/" (endsOutside_of_outline husers)
    have htrailing := ExtraSlash.trailing "users/\x7bid\x7d" (endsOutside_of_outline hwhole)
    refine .trans _ _ _ (.rel _ _ (.leading "users//\x7bid\x7d/")) ?_
    exact .trans _ _ _ (.rel _ _ hrepeated) (.rel _ _ htrailing)
  obtain ⟨hsame, hcompiled⟩ := hslash _ _ hslashes.symm
  refine ⟨hwhole, (hjoin _ _ _ husers).2 _ _ hfault, (hsame _).mp hwhole, ?_⟩
  obtain ⟨q, hq, -, hsource, -⟩ :=
    hcompiled .empty _ (RoutePattern.compile_of_outline hwhole rfl)
  exact ⟨q, hq, hsource.trans (by decide +kernel)⟩

end Routing.Template
