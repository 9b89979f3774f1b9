/-
  Routing/Proofs/Grammar.lean
  ===========================
  **The grammar of templates.**

      template  = ( "/" | literal | "{" parameter "}" )*
      literal   = a run of characters other than "/" and "{", as long as it can be
      parameter = name mark? ( ":" clause )*
      name      = [A-Za-z_$] [A-Za-z0-9_$-]*
      mark      = "?" | "*" | "+"
      clause    = title | title "(" argument ")" | "(" argument ")"
      title     = "=" | [A-Za-z0-9_$]+
      argument  = a text in which parentheses and braces are nested

  where an argument without a title is not empty. `Derives` gives the derivations
  with their trees, and `segmentsOf` what a tree stands for. Nothing here knows of
  tokens.
-/
import Routing.Template.Outline

namespace Routing.Template

/-! ### Trees -/

inductive ClauseTree where
  | named (title : String)
  | applied (title argument : String)
  | anonymous (argument : String)
deriving DecidableEq, Repr

/-- A parameter as it is written between its braces; one without a mark is required. -/
structure ParameterTree where
  name : String
  quantifier : Quantifier
  clauses : List ClauseTree
deriving DecidableEq, Repr

inductive ItemTree where
  | slash
  | literal (text : String)
  | parameter (p : ParameterTree)
deriving DecidableEq, Repr

def ClauseTree.spelling : ClauseTree → List Char
  | .named title => title.toList
  | .applied title argument => title.toList ++ '(' :: (argument.toList ++ [')'])
  | .anonymous argument => '(' :: (argument.toList ++ [')'])

def clausesSpelling (clauses : List ClauseTree) : List Char :=
  clauses.flatMap fun clause => ':' :: clause.spelling

def ParameterTree.spelling (p : ParameterTree) : List Char :=
  p.name.toList ++ (p.quantifier.mark.toList ++ clausesSpelling p.clauses)

/-! ### Derivations -/

inductive Balanced : List Char → Prop
  | nil : Balanced []
  | other {c : Char} {cs : List Char} (hc : c ∉ ['(', ')', '{', '}']) (h : Balanced cs) :
    Balanced (c :: cs)
  | nested {opener closer : Char} {inner cs : List Char}
      (hpair : (opener, closer) ∈ [('(', ')'), ('{', '}')]) (hinner : Balanced inner)
      (h : Balanced cs) : Balanced (opener :: (inner ++ closer :: cs))

def IsName (name : String) : Prop :=
  ∃ c cs, name.toList = c :: cs ∧ (c.isAlpha ∨ c = '_' ∨ c = '$') ∧
    ∀ d ∈ cs, d.isAlphanum ∨ d = '_' ∨ d = '$' ∨ d = '-'

/-- The names of constraints, and the sign that declares a default. -/
def IsTitle (title : String) : Prop :=
  title = "=" ∨ title ≠ "" ∧ ∀ c ∈ title.toList, c.isAlphanum ∨ c = '_' ∨ c = '$'

inductive ClauseTree.Grammatical : ClauseTree → Prop
  | named {title : String} (htitle : IsTitle title) : Grammatical (.named title)
  | applied {title argument : String} (htitle : IsTitle title)
      (hargument : Balanced argument.toList) : Grammatical (.applied title argument)
  | anonymous {argument : String} (hargument : Balanced argument.toList)
      (hne : argument ≠ "") : Grammatical (.anonymous argument)

structure ParameterTree.Grammatical (p : ParameterTree) : Prop where
  name : IsName p.name
  clauses : ∀ clause ∈ p.clauses, clause.Grammatical

/-- The text is derived from the grammar along the tree. -/
inductive Derives : List ItemTree → List Char → Prop
  | nil : Derives [] []
  | slash {items : List ItemTree} {cs : List Char} (h : Derives items cs) :
    Derives (.slash :: items) ('/' :: cs)
  | literal {text : String} {items : List ItemTree} {cs : List Char} (hne : text ≠ "")
      (hchars : ∀ c ∈ text.toList, c ≠ '/' ∧ c ≠ '{')
      -- the literal is as long as it can be
      (hend : ∀ c, cs.head? = some c → c = '/' ∨ c = '{') (h : Derives items cs) :
    Derives (.literal text :: items) (text.toList ++ cs)
  | parameter {p : ParameterTree} {items : List ItemTree} {cs : List Char}
      (hp : p.Grammatical) (h : Derives items cs) :
    Derives (.parameter p :: items) ('{' :: (p.spelling ++ '}' :: cs))

/-! ### What a tree stands for -/

def declaresDefault (title : String) : Bool :=
  title == "=" || title == "default"

def ClauseTree.constraint? : ClauseTree → Option ConstraintNode
  | .named title => if declaresDefault title then none else some ⟨title, ""⟩
  | .applied title argument => if declaresDefault title then none else some ⟨title, argument⟩
  | .anonymous argument => some ⟨"regex", argument⟩

def ClauseTree.default? : ClauseTree → Option String
  | .named title => if declaresDefault title then some "" else none
  | .applied title argument => if declaresDefault title then some argument else none
  | .anonymous _ => none

/-- The parameter of a tree: the constraints in order, and the first default. -/
def ParameterTree.node (p : ParameterTree) : ParameterNode where
  name := p.name
  quantifier := p.quantifier
  constraints := p.clauses.filterMap ClauseTree.constraint?
  default? := p.clauses.findSome? ClauseTree.default?

namespace ItemTree

def isSlash : ItemTree → Bool
  | .slash => true
  | _ => false

def part? : ItemTree → Option PartNode
  | .slash => none
  | .literal text => some (.literal text)
  | .parameter p => some (.parameter p.node)

end ItemTree

/-- The segments of a tree: the parts between slashes, where there are any. -/
def segmentsOf (items : List ItemTree) : List SegmentNode :=
  (((items.splitOnP ItemTree.isSlash).map fun group => group.filterMap ItemTree.part?).filter
    fun parts => !parts.isEmpty).map SegmentNode.mk

end Routing.Template
