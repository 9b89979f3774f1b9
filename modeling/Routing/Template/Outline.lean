/-
  Routing/Template/Outline.lean
  =============================
  **The outline of a template: its segments as they are written.**  A segment is
  what stands between two slashes, and empty segments are dropped. A parameter
  reads

      name [mark] (":" constraint)*

  between its braces, and a constraint is a name, an argument in parentheses, or
  both. Nothing is looked up yet; the outline only says what is asked for.
-/
import Routing.Template.Quantifier
import Routing.Template.Token

namespace Routing.Template

structure ConstraintNode where
  name : String
  argument : String
deriving DecidableEq, Repr

structure ParameterNode where
  name : String
  quantifier : Quantifier
  constraints : List ConstraintNode
  /-- the declared default -/
  default? : Option String
deriving DecidableEq, Repr

inductive PartNode where
  | literal (text : String)
  | parameter (p : ParameterNode)
deriving DecidableEq, Repr

structure SegmentNode where
  parts : List PartNode
deriving DecidableEq, Repr

def PartNode.isOptional : PartNode → Bool
  | .literal _ => false
  | .parameter p => p.quantifier.isOptional

/-! ### Errors -/

inductive SyntaxFault where
  /-- the template has no tokens -/
  | token (fault : TokenFault)
  | parameterName
  | constraintName
  /-- neither a colon nor a closing brace after a quantifier mark -/
  | afterQuantifier
  /-- neither a colon nor a closing brace after an argument -/
  | afterArgument
  /-- a colon without a name and without an argument after it -/
  | emptyConstraint
  /-- neither a colon nor a closing brace after a constraint -/
  | afterConstraint
  /-- a mark that is no quantifier -/
  | unknownMark
  /-- a token between parameters that belongs inside one -/
  | misplacedToken
  /-- no tokens left inside a parameter -/
  | outOfTokens
deriving DecidableEq, Repr

structure SyntaxError where
  fault : SyntaxFault
  offset : Nat
deriving DecidableEq, Repr

/-! ### Constraints -/

def isNameStart (c : Char) : Bool :=
  c.isAlpha || c == '_' || c == '$'

def isParameterName (word : String) : Bool :=
  (word.toList.head?).any isNameStart

def isConstraintName (word : String) : Bool :=
  !word.toList.contains '-'

/-- What stands after a colon: the name of a constraint, empty for an argument
    alone, and its argument if it has one. -/
structure Clause where
  name : String
  argument? : Option String
deriving DecidableEq, Repr

/-- Checks that a colon or a closing brace comes next. -/
def expectEnd (fault : SyntaxFault) (stop : Nat) : List Spanned → Except SyntaxError Unit
  | [] => .error ⟨.outOfTokens, stop⟩
  | t :: _ =>
    match t.token with
    | .colon | .closeBrace => .ok ()
    | _ => .error ⟨fault, t.start⟩

def readClauseArgument (stop : Nat) : List Spanned →
    Except SyntaxError (Option String × List Spanned)
  | [] => .error ⟨.outOfTokens, stop⟩
  | t :: rest =>
    match t.token with
    | .argument text => do
      expectEnd .afterArgument stop rest
      return (some text, rest)
    | .colon | .closeBrace => .ok (none, t :: rest)
    | _ => .error ⟨.constraintName, t.start⟩

def readClause (stop colon : Nat) : List Spanned → Except SyntaxError (Clause × List Spanned)
  | [] => .error ⟨.outOfTokens, stop⟩
  | t :: rest =>
    let named (name : String) : Except SyntaxError (Clause × List Spanned) := do
      let (argument?, rest) ← readClauseArgument stop rest
      return (⟨name, argument?⟩, rest)
    match t.token with
    | .equals => named "="
    | .word word => if isConstraintName word then named word else .error ⟨.constraintName, t.start⟩
    | .argument _ | .colon | .closeBrace => do
      let (argument?, rest) ← readClauseArgument stop (t :: rest)
      if argument?.getD "" = "" then .error ⟨.emptyConstraint, colon⟩
      else return (⟨"", argument?⟩, rest)
    | _ => .error ⟨.constraintName, t.start⟩

/-- What follows an argument is no longer than what was read. -/
theorem readClauseArgument_length {stop : Nat} {ts rest : List Spanned} {argument? : Option String}
    (h : readClauseArgument stop ts = .ok (argument?, rest)) : rest.length ≤ ts.length := by
  cases ts with
  | nil => simp [readClauseArgument] at h
  | cons t ts =>
    simp only [readClauseArgument] at h
    split at h
    · cases hend : expectEnd .afterArgument stop ts with
      | error e => rw [hend] at h; simp [bind, Except.bind] at h
      | ok u =>
        rw [hend] at h
        simp only [bind, Except.bind, pure, Except.pure, Except.ok.injEq, Prod.mk.injEq] at h
        rw [← h.2]
        simp
    · simp only [Except.ok.injEq, Prod.mk.injEq] at h
      exact Nat.le_of_eq (h.2 ▸ rfl)
    · simp only [Except.ok.injEq, Prod.mk.injEq] at h
      exact Nat.le_of_eq (h.2 ▸ rfl)
    · simp at h

/-- What follows a clause is no longer than what was read. -/
theorem readClause_length {stop colon : Nat} {ts rest : List Spanned} {clause : Clause}
    (h : readClause stop colon ts = .ok (clause, rest)) : rest.length ≤ ts.length := by
  cases ts with
  | nil => simp [readClause] at h
  | cons t ts =>
    have named {name : String} {p : Clause × List Spanned}
        (hp : (do
          let (argument?, rest) ← readClauseArgument stop ts
          return (⟨name, argument?⟩, rest) : Except SyntaxError (Clause × List Spanned)) = .ok p) :
        p.2.length ≤ (t :: ts).length := by
      cases hr : readClauseArgument stop ts with
      | error e => rw [hr] at hp; simp [bind, Except.bind] at hp
      | ok q =>
        rw [hr] at hp
        simp only [bind, Except.bind, pure, Except.pure, Except.ok.injEq] at hp
        have := readClauseArgument_length hr
        rw [← hp]
        simp only [List.length_cons]
        omega
    have unnamed {p : Clause × List Spanned}
        (hp : (do
          let (argument?, rest) ← readClauseArgument stop (t :: ts)
          if argument?.getD "" = "" then .error ⟨.emptyConstraint, colon⟩
          else return (⟨"", argument?⟩, rest) :
            Except SyntaxError (Clause × List Spanned)) = .ok p) :
        p.2.length ≤ (t :: ts).length := by
      cases hr : readClauseArgument stop (t :: ts) with
      | error e => rw [hr] at hp; simp [bind, Except.bind] at hp
      | ok q =>
        rw [hr] at hp
        have hq := readClauseArgument_length hr
        simp only [bind, Except.bind] at hp
        split at hp
        · simp at hp
        · simp only [pure, Except.pure, Except.ok.injEq] at hp
          rw [← hp]
          exact hq
    simp only [readClause] at h
    split at h
    · exact named h
    · split at h
      · exact named h
      · simp at h
    · exact unnamed h
    · exact unnamed h
    · exact unnamed h
    · simp at h

def readClauses (stop : Nat) (ts : List Spanned) :
    Except SyntaxError (List Clause × List Spanned) :=
  match ts with
  | [] => .error ⟨.outOfTokens, stop⟩
  | t :: rest =>
    match t.token with
    | .closeBrace => .ok ([], rest)
    | .colon =>
      match _h : readClause stop t.start rest with
      | .error e => .error e
      | .ok (clause, rest) =>
        (readClauses stop rest).map fun (clauses, rest) => (clause :: clauses, rest)
    | _ => .error ⟨.afterConstraint, t.start⟩
termination_by ts.length
decreasing_by
  have := readClause_length _h
  simp only [List.length_cons]
  omega

/-- Induction along the reader of clauses. -/
theorem readClauses_induction (stop : Nat)
    {motive : List Spanned → Except SyntaxError (List Clause × List Spanned) → Prop}
    (noTokens : motive [] (.error ⟨.outOfTokens, stop⟩))
    (close : ∀ t ts, t.token = .closeBrace → motive (t :: ts) (.ok ([], ts)))
    (badClause : ∀ t ts, t.token = .colon → ∀ e, readClause stop t.start ts = .error e →
      motive (t :: ts) (.error e))
    (clause : ∀ t ts, t.token = .colon → ∀ clause rest,
      readClause stop t.start ts = .ok (clause, rest) → motive rest (readClauses stop rest) →
      motive (t :: ts) ((readClauses stop rest).map fun (others, rest) => (clause :: others, rest)))
    (other : ∀ t ts, t.token ≠ .closeBrace → t.token ≠ .colon →
      motive (t :: ts) (.error ⟨.afterConstraint, t.start⟩))
    (ts : List Spanned) : motive ts (readClauses stop ts) :=
  readClauses.induct_unfolding stop motive noTokens close badClause clause other ts

/-- What follows the clauses is shorter than what was read. -/
theorem readClauses_length {stop : Nat} {ts rest : List Spanned} {clauses : List Clause}
    (h : readClauses stop ts = .ok (clauses, rest)) : rest.length < ts.length := by
  induction ts using readClauses_induction stop generalizing clauses rest with
  | noTokens | badClause | other => simp at h
  | close t ts =>
    simp only [Except.ok.injEq, Prod.mk.injEq] at h
    rw [← h.2]
    simp
  | clause t ts _ clause ts' hc ih =>
    cases hr : readClauses stop ts' with
    | error e => rw [hr] at h; simp [Except.map] at h
    | ok p =>
      rw [hr] at h
      simp only [Except.map, Except.ok.injEq, Prod.mk.injEq] at h
      have h₁ := ih hr
      have h₂ := readClause_length hc
      rw [← h.2]
      simp only [List.length_cons]
      omega

/-! ### Parameters -/

def Clause.isDefault (c : Clause) : Bool :=
  c.name == "=" || c.name == "default"

/-- The constraint that a clause asks for. An argument alone is an expression. -/
def Clause.constraint (c : Clause) : ConstraintNode :=
  ⟨if c.name = "" then "regex" else c.name, c.argument?.getD ""⟩

/-- The parameter with the given clauses. The first default counts. -/
def ParameterNode.ofClauses (name : String) (quantifier : Quantifier) (clauses : List Clause) :
    ParameterNode where
  name := name
  quantifier := quantifier
  constraints := (clauses.filter fun c => !c.isDefault).map Clause.constraint
  default? := (clauses.find? Clause.isDefault).map fun c => c.argument?.getD ""

def readQuantifier (stop : Nat) : List Spanned → Except SyntaxError (Quantifier × List Spanned)
  | [] => .error ⟨.outOfTokens, stop⟩
  | t :: rest =>
    match t.token with
    | .quantifier mark => do
      expectEnd .afterQuantifier stop rest
      match Quantifier.ofMark? mark with
      | some q => return (q, rest)
      | none => .error ⟨.unknownMark, t.start⟩
    | .colon | .closeBrace => .ok (.required, t :: rest)
    | _ => .error ⟨.parameterName, t.start⟩

/-- What follows a quantifier is no longer than what was read. -/
theorem readQuantifier_length {stop : Nat} {ts rest : List Spanned} {q : Quantifier}
    (h : readQuantifier stop ts = .ok (q, rest)) : rest.length ≤ ts.length := by
  cases ts with
  | nil => simp only [readQuantifier, reduceCtorEq] at h
  | cons t ts =>
    obtain ⟨token, start, last⟩ := t
    cases token with
    | quantifier mark =>
      cases hend : expectEnd .afterQuantifier stop ts with
      | error e => simp [readQuantifier, hend, bind, Except.bind] at h
      | ok u =>
        simp only [readQuantifier, hend, bind, Except.bind, pure, Except.pure] at h
        split at h
        · simp only [Except.ok.injEq, Prod.mk.injEq] at h
          rw [← h.2]
          simp
        · simp at h
    | colon =>
      simp only [readQuantifier, Except.ok.injEq, Prod.mk.injEq] at h
      exact Nat.le_of_eq (h.2 ▸ rfl)
    | closeBrace =>
      simp only [readQuantifier, Except.ok.injEq, Prod.mk.injEq] at h
      exact Nat.le_of_eq (h.2 ▸ rfl)
    | _ => simp [readQuantifier] at h

def readParameter (stop : Nat) : List Spanned → Except SyntaxError (ParameterNode × List Spanned)
  | [] => .error ⟨.outOfTokens, stop⟩
  | t :: rest =>
    match t.token with
    | .word name =>
      if isParameterName name then do
        let (quantifier, rest) ← readQuantifier stop rest
        let (clauses, rest) ← readClauses stop rest
        return (.ofClauses name quantifier clauses, rest)
      else .error ⟨.parameterName, t.start⟩
    | _ => .error ⟨.parameterName, t.start⟩

/-- What follows a parameter is shorter than what was read. -/
theorem readParameter_length {stop : Nat} {ts rest : List Spanned} {p : ParameterNode}
    (h : readParameter stop ts = .ok (p, rest)) : rest.length < ts.length := by
  cases ts with
  | nil => simp [readParameter] at h
  | cons t ts =>
    simp only [readParameter] at h
    split at h
    · split at h
      · cases hq : readQuantifier stop ts with
        | error e => rw [hq] at h; simp [bind, Except.bind] at h
        | ok q =>
          rw [hq] at h
          cases hc : readClauses stop q.2 with
          | error e => simp [bind, Except.bind, hc] at h
          | ok c =>
            simp only [bind, Except.bind, hc, pure, Except.pure, Except.ok.injEq,
              Prod.mk.injEq] at h
            have h₁ := readQuantifier_length hq
            have h₂ := readClauses_length hc
            rw [← h.2]
            simp only [List.length_cons]
            omega
      · simp at h
    · simp at h

/-! ### Segments -/

/-- A segment with the given parts, unless there are none. -/
def segmentOf (parts : List PartNode) : List SegmentNode :=
  if parts.isEmpty then [] else [⟨parts⟩]

/-- Reads the segments of a template. `parts` are the parts of the segment at hand. -/
def readSegments (stop : Nat) (parts : List PartNode) (ts : List Spanned) :
    Except SyntaxError (List SegmentNode) :=
  match ts with
  | [] => .ok (segmentOf parts)
  | t :: rest =>
    match t.token with
    | .slash => (readSegments stop [] rest).map (segmentOf parts ++ ·)
    | .literal text => readSegments stop (parts ++ [.literal text]) rest
    | .openBrace =>
      match _h : readParameter stop rest with
      | .error e => .error e
      | .ok (p, rest) => readSegments stop (parts ++ [.parameter p]) rest
    | _ => .error ⟨.misplacedToken, t.start⟩
termination_by ts.length
decreasing_by
  · simp
  · simp
  · have := readParameter_length _h
    simp only [List.length_cons]
    omega

/-- Induction along the reader of segments. -/
theorem readSegments_induction (stop : Nat)
    {motive : List PartNode → List Spanned → Except SyntaxError (List SegmentNode) → Prop}
    (done : ∀ parts, motive parts [] (.ok (segmentOf parts)))
    (slash : ∀ parts t ts, t.token = .slash → motive [] ts (readSegments stop [] ts) →
      motive parts (t :: ts) ((readSegments stop [] ts).map (segmentOf parts ++ ·)))
    (literal : ∀ parts t ts text, t.token = .literal text →
      motive (parts ++ [.literal text]) ts (readSegments stop (parts ++ [.literal text]) ts) →
      motive parts (t :: ts) (readSegments stop (parts ++ [.literal text]) ts))
    (badParameter : ∀ parts t ts, t.token = .openBrace → ∀ e, readParameter stop ts = .error e →
      motive parts (t :: ts) (.error e))
    (parameter : ∀ parts t ts, t.token = .openBrace → ∀ p rest,
      readParameter stop ts = .ok (p, rest) →
      motive (parts ++ [.parameter p]) rest (readSegments stop (parts ++ [.parameter p]) rest) →
      motive parts (t :: ts) (readSegments stop (parts ++ [.parameter p]) rest))
    (other : ∀ parts t ts, t.token ≠ .slash → (∀ text, t.token ≠ .literal text) →
      t.token ≠ .openBrace → motive parts (t :: ts) (.error ⟨.misplacedToken, t.start⟩))
    (parts : List PartNode) (ts : List Spanned) : motive parts ts (readSegments stop parts ts) :=
  readSegments.induct_unfolding stop motive done slash literal badParameter parameter other parts ts

def outline (template : String) : Except SyntaxError (List SegmentNode) :=
  match tokens template with
  | .error e => .error ⟨.token e.fault, e.offset⟩
  | .ok ts => readSegments template.utf8ByteSize [] ts

end Routing.Template
