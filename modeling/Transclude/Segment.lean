/-
What takes the place of a text with directives, and the report of it.

The segments of a text are literal text and blocks, in the order of the text. The report of a pass over a document counts how
many texts were looked at and replaced and how many blocks of each kind were put in, and lists what went wrong, in document
order. Reports of several passes are merged by adding them up.
-/
import Transclude.Directive.Occurrence

namespace Transclude

/-! ## Segments -/

/-- what a block shows -/
inductive BlockKind where
  /-- imported code -/
  | code
  /-- a report of what went wrong -/
  | error
deriving DecidableEq, Repr

/-- a block of markup in the place of a directive; a report has a message -/
structure BlockSegment where
  kind : BlockKind
  html : Text
  directive : Directive
  message : Option Text := none
deriving DecidableEq, Repr

/-- literal text, or a block -/
inductive Segment where
  | text (content : Text)
  | block (block : BlockSegment)
deriving DecidableEq, Repr

/-- the block of a segment -/
def Segment.block? : Segment → Option BlockSegment
  | .text _ => none
  | .block b => some b

/-- what a report says of a block that went wrong: its message, or the source of its directive without one -/
def BlockSegment.failure (b : BlockSegment) : Text :=
  match b.message with
  | none | some [] => b.directive.raw
  | some message => message

/-! ## Reports -/

/-- the counters of a pass -/
structure Report where
  leavesScanned : Int := 0
  leavesReplaced : Int := 0
  blocks : Int := 0
  errors : Int := 0
  failures : List Text := []
deriving DecidableEq, Repr

namespace Report

/-- one report and then another -/
def merge (r s : Report) : Report where
  leavesScanned := r.leavesScanned + s.leavesScanned
  leavesReplaced := r.leavesReplaced + s.leavesReplaced
  blocks := r.blocks + s.blocks
  errors := r.errors + s.errors
  failures := r.failures ++ s.failures

/-- one more text was looked at -/
def scanned (r : Report) : Report := { r with leavesScanned := r.leavesScanned + 1 }

/-- a block was put in -/
def add (r : Report) (b : BlockSegment) : Report :=
  match b.kind with
  | .code => { r with blocks := r.blocks + 1 }
  | .error => { r with errors := r.errors + 1, failures := r.failures ++ [b.failure] }

/-- a text was replaced by some segments -/
def replaced (r : Report) (segments : List Segment) : Report :=
  (segments.filterMap Segment.block?).foldl add { r with leavesReplaced := r.leavesReplaced + 1 }

end Report

end Transclude
