/-
Paths of files on a host. A path is a list of parts; it starts at the root of the tree when it is written with slashes in
front, and at the working folder otherwise. Empty parts and single dots say nothing and are dropped when a path is read;
double dots are kept, because the part before them may be a link.
-/
import Transclude.Text.Basic

namespace Transclude

/-- a path -/
structure FilePath where
  /-- the number of slashes in front; a path with any starts at the root -/
  slashes : Nat := 0
  parts : List Text
deriving DecidableEq, Repr

namespace FilePath

/-- the parts of a written path that say something -/
def partsOf (t : Text) : List Text := (Text.split '/' t).filter fun part => part != [] && part != ['.']

/-- reads a path; exactly two slashes in front are kept apart from a single one, more of them are not -/
def ofText (t : Text) : FilePath :=
  let front := (t.takeWhile (· == '/')).length
  { slashes := if front = 0 then 0 else if front = 2 then 2 else 1, parts := partsOf t }

/-- writes a path -/
def toText (p : FilePath) : Text :=
  if p.slashes = 0 ∧ p.parts = [] then ['.'] else List.replicate p.slashes '/' ++ Text.join ['/'] p.parts

/-- a path that starts where another one leads to -/
def join (p q : FilePath) : FilePath := if q.slashes = 0 then { p with parts := p.parts ++ q.parts } else q

/-- the path without its last part -/
def parent (p : FilePath) : FilePath := { p with parts := p.parts.dropLast }

/-- a path with one more part -/
def child (p : FilePath) (name : Text) : FilePath := { p with parts := p.parts ++ [name] }

/-- what remains of a list of parts after those in front of it -/
def partsAfter? : List Text → List Text → Option (List Text)
  | [], parts => some parts
  | _ :: _, [] => none
  | name :: front, part :: parts => if name = part then partsAfter? front parts else none

/-- the order of lists of parts: the first part that differs decides -/
def partsLe : List Text → List Text → Bool
  | [], _ => true
  | _ :: _, [] => false
  | s :: ss, t :: ts => if s = t then partsLe ss ts else Text.le s t

/-- the order of relative paths, part by part -/
def le (p q : FilePath) : Bool := partsLe p.parts q.parts

theorem length_parts_parent_lt {p : FilePath} (h : p.parts ≠ []) : p.parent.parts.length < p.parts.length := by
  have := List.length_pos_iff.2 h
  simp only [parent, List.length_dropLast]
  omega

end FilePath

end Transclude
