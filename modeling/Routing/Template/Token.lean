/-
  Routing/Template/Token.lean
  ===========================
  **The tokens of a route template.**  Braces switch between two modes:

    * outside braces `/` and `{` stand for themselves and everything else is
      literal text up to the next of the two, so a lone `}` is literal text;
    * inside braces `}` `:` `=` and the marks `?` `*` `+` stand for themselves,
      `(` opens an argument that ends at its balancing `)`, runs of
      `[A-Za-z0-9_$-]` are words, and any other character is stray.

  A stray character is no error here: the reader of the token list knows what it
  expected in its place. Every token carries the byte range it was read from.
-/

namespace Routing.Template

inductive Token where
  | slash
  | openBrace
  | closeBrace
  | colon
  | equals
  /-- one of `?`, `*` and `+` -/
  | quantifier (mark : Char)
  /-- text outside braces -/
  | literal (text : String)
  /-- the text between balanced parentheses, without the outer pair -/
  | argument (text : String)
  | word (text : String)
  | stray (char : Char)
deriving DecidableEq, Repr

/-- A token and the bytes of the template it covers, the first included and the
    last excluded. -/
structure Spanned where
  token : Token
  start : Nat
  stop : Nat
deriving DecidableEq, Repr

inductive TokenFault where
  /-- an opening brace without its closing brace -/
  | unterminatedParameter
  /-- an opening parenthesis without its closing parenthesis -/
  | unterminatedArgument
  /-- a closing delimiter of the wrong kind for the innermost open one -/
  | mismatchedDelimiter (closer : Char)
deriving DecidableEq, Repr

structure TokenError where
  fault : TokenFault
  offset : Nat
deriving DecidableEq, Repr

def TokenError.message (e : TokenError) : String :=
  let what :=
    match e.fault with
    | .unterminatedParameter => "unterminated parameter"
    | .unterminatedArgument => "unterminated argument"
    | .mismatchedDelimiter closer => "mismatched '" ++ closer.toString ++ "'"
  what ++ " at byte " ++ toString e.offset

def byteLength (cs : List Char) : Nat :=
  cs.foldr (fun c length => c.utf8Size + length) 0

def isWordChar (c : Char) : Bool :=
  c.isAlphanum || c == '_' || c == '$' || c == '-'

def isLiteralChar (c : Char) : Bool :=
  c != '/' && c != '{'

/-! ### Arguments -/

def closerOf? (c : Char) : Option Char :=
  if c = '(' then some ')' else if c = '{' then some '}' else none

/-- Reads an argument up to the parenthesis that closes it. `expected` holds the
    closing delimiters still due, innermost first and the closing parenthesis of
    the argument last; `offset` is where `cs` starts and `opened` where the
    argument does. Gives the argument's text and what follows it. -/
def readArgument (opened : Nat) : List Char → Nat → List Char →
    Except TokenError (List Char × List Char)
  | _, _, [] => .error ⟨.unterminatedArgument, opened⟩
  | expected, offset, c :: cs =>
    match closerOf? c with
    | some closer => (readArgument opened (closer :: expected) (offset + c.utf8Size) cs).map
        fun (text, rest) => (c :: text, rest)
    | none =>
      if c = ')' ∨ c = '}' then
        match expected with
        | [] => .error ⟨.mismatchedDelimiter c, offset⟩
        | due :: outer =>
          if due ≠ c then .error ⟨.mismatchedDelimiter c, offset⟩
          else if outer.isEmpty then .ok ([], cs)
          else (readArgument opened outer (offset + c.utf8Size) cs).map
            fun (text, rest) => (c :: text, rest)
      else (readArgument opened expected (offset + c.utf8Size) cs).map
        fun (text, rest) => (c :: text, rest)

/-- What follows an argument is shorter than what was read. -/
theorem readArgument_length {opened offset : Nat} {expected cs text rest : List Char}
    (h : readArgument opened expected offset cs = .ok (text, rest)) :
    rest.length < cs.length := by
  induction cs generalizing expected offset text rest with
  | nil => simp [readArgument] at h
  | cons c cs ih =>
    have step {expected' : List Char} {p : List Char × List Char}
        (hp : (readArgument opened expected' (offset + c.utf8Size) cs).map
          (fun (text, rest) => (c :: text, rest)) = .ok p) :
        p.2.length < (c :: cs).length := by
      cases hr : readArgument opened expected' (offset + c.utf8Size) cs with
      | error e => rw [hr] at hp; simp [Except.map] at hp
      | ok q =>
        rw [hr] at hp
        have hq := ih hr
        simp only [Except.map, Except.ok.injEq] at hp
        rw [← hp]
        simp only [List.length_cons]
        omega
    simp only [readArgument] at h
    split at h
    · exact step h
    · split at h
      · split at h
        · simp at h
        · split at h
          · simp at h
          · split at h
            · simp only [Except.ok.injEq, Prod.mk.injEq] at h
              obtain ⟨-, rfl⟩ := h
              simp
            · exact step h
      · exact step h

/-! ### The token list -/

/-- Where the reader stands: outside braces, or inside a pair opened at a byte. -/
inductive Mode where
  | outside
  | inside (opened : Nat)
deriving DecidableEq, Repr

/-- The tokens of `cs`, which starts at byte `offset` of the template. -/
def scan (mode : Mode) (offset : Nat) (cs : List Char) : Except TokenError (List Spanned) :=
  match mode, cs with
  | .outside, [] => .ok []
  | .inside opened, [] => .error ⟨.unterminatedParameter, opened⟩
  | .outside, c :: rest =>
    if c = '/' then
      (scan .outside (offset + 1) rest).map (⟨.slash, offset, offset + 1⟩ :: ·)
    else if c = '{' then
      (scan (.inside offset) (offset + 1) rest).map (⟨.openBrace, offset, offset + 1⟩ :: ·)
    else
      let text := c :: rest.takeWhile isLiteralChar
      let stop := offset + byteLength text
      (scan .outside stop (rest.dropWhile isLiteralChar)).map
        (⟨.literal (String.ofList text), offset, stop⟩ :: ·)
  | .inside opened, c :: rest =>
    if c = '}' then
      (scan .outside (offset + 1) rest).map (⟨.closeBrace, offset, offset + 1⟩ :: ·)
    else if c = ':' then
      (scan (.inside opened) (offset + 1) rest).map (⟨.colon, offset, offset + 1⟩ :: ·)
    else if c = '=' then
      (scan (.inside opened) (offset + 1) rest).map (⟨.equals, offset, offset + 1⟩ :: ·)
    else if c = '?' ∨ c = '*' ∨ c = '+' then
      (scan (.inside opened) (offset + 1) rest).map (⟨.quantifier c, offset, offset + 1⟩ :: ·)
    else if c = '(' then
      match _h : readArgument offset [')'] (offset + 1) rest with
      | .error e => .error e
      | .ok (text, after) =>
        let stop := offset + byteLength text + 2
        (scan (.inside opened) stop after).map
          (⟨.argument (String.ofList text), offset, stop⟩ :: ·)
    else if isWordChar c then
      let text := c :: rest.takeWhile isWordChar
      let stop := offset + byteLength text
      (scan (.inside opened) stop (rest.dropWhile isWordChar)).map
        (⟨.word (String.ofList text), offset, stop⟩ :: ·)
    else
      let stop := offset + c.utf8Size
      (scan (.inside opened) stop rest).map (⟨.stray c, offset, stop⟩ :: ·)
termination_by cs.length
decreasing_by
  all_goals simp only [List.length_cons]
  · omega
  · omega
  · exact Nat.lt_succ_of_le (List.dropWhile_sublist _).length_le
  · omega
  · omega
  · omega
  · omega
  · have := readArgument_length _h; omega
  · exact Nat.lt_succ_of_le (List.dropWhile_sublist _).length_le
  · omega

/-- Induction along the scanner, with a case for each kind of token. -/
theorem scan_induction
    {motive : Mode → Nat → List Char → Except TokenError (List Spanned) → Prop}
    (done : ∀ offset, motive .outside offset [] (.ok []))
    (unterminated : ∀ offset opened,
      motive (.inside opened) offset [] (.error ⟨.unterminatedParameter, opened⟩))
    (slash : ∀ offset rest, motive .outside (offset + 1) rest (scan .outside (offset + 1) rest) →
      motive .outside offset ('/' :: rest)
        ((scan .outside (offset + 1) rest).map (⟨.slash, offset, offset + 1⟩ :: ·)))
    (openBrace : ∀ offset rest,
      motive (.inside offset) (offset + 1) rest (scan (.inside offset) (offset + 1) rest) →
      motive .outside offset ('{' :: rest)
        ((scan (.inside offset) (offset + 1) rest).map (⟨.openBrace, offset, offset + 1⟩ :: ·)))
    (literal : ∀ offset c rest, c ≠ '/' → c ≠ '{' →
      motive .outside (offset + byteLength (c :: rest.takeWhile isLiteralChar))
        (rest.dropWhile isLiteralChar) (scan .outside
          (offset + byteLength (c :: rest.takeWhile isLiteralChar))
          (rest.dropWhile isLiteralChar)) →
      motive .outside offset (c :: rest)
        ((scan .outside (offset + byteLength (c :: rest.takeWhile isLiteralChar))
          (rest.dropWhile isLiteralChar)).map
            (⟨.literal (String.ofList (c :: rest.takeWhile isLiteralChar)), offset,
              offset + byteLength (c :: rest.takeWhile isLiteralChar)⟩ :: ·)))
    (closeBrace : ∀ offset opened rest,
      motive .outside (offset + 1) rest (scan .outside (offset + 1) rest) →
      motive (.inside opened) offset ('}' :: rest)
        ((scan .outside (offset + 1) rest).map (⟨.closeBrace, offset, offset + 1⟩ :: ·)))
    (colon : ∀ offset opened rest,
      motive (.inside opened) (offset + 1) rest (scan (.inside opened) (offset + 1) rest) →
      motive (.inside opened) offset (':' :: rest)
        ((scan (.inside opened) (offset + 1) rest).map (⟨.colon, offset, offset + 1⟩ :: ·)))
    (equals : ∀ offset opened rest,
      motive (.inside opened) (offset + 1) rest (scan (.inside opened) (offset + 1) rest) →
      motive (.inside opened) offset ('=' :: rest)
        ((scan (.inside opened) (offset + 1) rest).map (⟨.equals, offset, offset + 1⟩ :: ·)))
    (quantifier : ∀ offset opened mark rest, mark = '?' ∨ mark = '*' ∨ mark = '+' →
      motive (.inside opened) (offset + 1) rest (scan (.inside opened) (offset + 1) rest) →
      motive (.inside opened) offset (mark :: rest)
        ((scan (.inside opened) (offset + 1) rest).map
          (⟨.quantifier mark, offset, offset + 1⟩ :: ·)))
    (badArgument : ∀ offset opened rest e,
      readArgument offset [')'] (offset + 1) rest = .error e →
      motive (.inside opened) offset ('(' :: rest) (.error e))
    (argument : ∀ offset opened rest text after,
      readArgument offset [')'] (offset + 1) rest = .ok (text, after) →
      motive (.inside opened) (offset + byteLength text + 2) after
        (scan (.inside opened) (offset + byteLength text + 2) after) →
      motive (.inside opened) offset ('(' :: rest)
        ((scan (.inside opened) (offset + byteLength text + 2) after).map
          (⟨.argument (String.ofList text), offset, offset + byteLength text + 2⟩ :: ·)))
    (word : ∀ offset opened c rest, c ≠ '}' → c ≠ ':' → c ≠ '=' →
      ¬ (c = '?' ∨ c = '*' ∨ c = '+') → c ≠ '(' → isWordChar c →
      motive (.inside opened) (offset + byteLength (c :: rest.takeWhile isWordChar))
        (rest.dropWhile isWordChar) (scan (.inside opened)
          (offset + byteLength (c :: rest.takeWhile isWordChar)) (rest.dropWhile isWordChar)) →
      motive (.inside opened) offset (c :: rest)
        ((scan (.inside opened) (offset + byteLength (c :: rest.takeWhile isWordChar))
          (rest.dropWhile isWordChar)).map
            (⟨.word (String.ofList (c :: rest.takeWhile isWordChar)), offset,
              offset + byteLength (c :: rest.takeWhile isWordChar)⟩ :: ·)))
    (stray : ∀ offset opened c rest, c ≠ '}' → c ≠ ':' → c ≠ '=' →
      ¬ (c = '?' ∨ c = '*' ∨ c = '+') → c ≠ '(' → ¬ isWordChar c →
      motive (.inside opened) (offset + c.utf8Size) rest
        (scan (.inside opened) (offset + c.utf8Size) rest) →
      motive (.inside opened) offset (c :: rest)
        ((scan (.inside opened) (offset + c.utf8Size) rest).map
          (⟨.stray c, offset, offset + c.utf8Size⟩ :: ·)))
    (mode : Mode) (offset : Nat) (cs : List Char) : motive mode offset cs (scan mode offset cs) :=
  scan.induct_unfolding motive done unterminated slash
    (fun offset rest _ => openBrace offset rest) literal closeBrace
    (fun offset opened rest _ => colon offset opened rest)
    (fun offset opened rest _ _ => equals offset opened rest)
    (fun offset opened mark rest _ _ _ => quantifier offset opened mark rest)
    (fun offset opened rest e h _ _ _ _ => badArgument offset opened rest e h)
    (fun offset opened rest text after h _ _ _ _ => argument offset opened rest text after h)
    word stray mode offset cs

def tokens (template : String) : Except TokenError (List Spanned) :=
  scan .outside 0 template.toList

end Routing.Template
