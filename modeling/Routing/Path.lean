/-
  Routing/Path.lean
  =================
  **Canonical paths.**  A path is canonical when it starts with `/`, has no two
  slashes in a row and, `/` itself apart, does not end with one. Every path with
  a leading slash has exactly one canonical form: its non-empty pieces joined by
  single slashes.
-/
import Routing.Text.Pieces

namespace Routing.Path

open Routing.Text

def hasDoubleSlash : List Char → Bool
  | [] => false
  | [_] => false
  | c :: d :: rest => (c == '/' && d == '/') || hasDoubleSlash (d :: rest)

def isRooted (cs : List Char) : Bool :=
  cs.head? == some '/'

/-- Canonical form as a test: a leading slash, no double slash, and no trailing
    slash except in `/`. -/
def isCanonicalChars (cs : List Char) : Bool :=
  isRooted cs && !hasDoubleSlash cs && (cs == ['/'] || !(cs.getLast? == some '/'))

def isCanonical (path : String) : Bool :=
  isCanonicalChars path.toList

def ofPieces (texts : List (List Char)) : List Char :=
  '/' :: joined ['/'] texts

structure Normalized where
  /-- the canonical path -/
  path : String
  /-- whether this is the given path itself, which was canonical already -/
  kept : Bool
deriving DecidableEq, Repr

/-- Normalizes a path and tells whether it had to be rebuilt. A path without a
    leading slash has no canonical form. -/
def normalized? (path : String) : Option Normalized :=
  if !isRooted path.toList then none
  else if isCanonical path then some ⟨path, true⟩
  else some ⟨String.ofList (ofPieces (solidPieces '/' path.toList)), false⟩

/-- The canonical form of `path`: runs of slashes become one slash and a
    trailing slash is dropped. -/
def normalize (path : String) : Option String :=
  (normalized? path).map Normalized.path

end Routing.Path
