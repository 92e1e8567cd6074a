/-
Directives, and the places where a text has them.

A directive asks for a file, or for a range of its lines, to be shown in its place. The first line is counted from zero and
included; the end is counted from zero and excluded, and a negative end counts back from the end of the file. The range label
shows the first line counted from one and the end as it is written.

The directives of a text are its shapes with their line bounds read. Reading fails only where a bound has more digits than a
numeral may have; the first such bound decides.
-/
import Transclude.Directive.Bounds
import Transclude.Directive.Shape

namespace Transclude

/-- a directive as it was written: its path, its line bounds and its whole source text -/
structure Directive where
  path : Text
  lineBegin : Option Int := none
  lineEnd : Option Int := none
  raw : Text := []
deriving DecidableEq, Repr

namespace Directive

/-- at least one line bound was given -/
def hasRange (d : Directive) : Bool := d.lineBegin.isSome || d.lineEnd.isSome

/-- the numbers that the range label shows -/
def labelNumbers (d : Directive) : List Int := (d.lineBegin.map (· + 1)).toList ++ d.lineEnd.toList

/-- the numbers of the bounds, each behind an `L`, with a hyphen between two -/
def rangeLabel (d : Directive) : Except DigitLimit Text :=
  (d.labelNumbers.mapM fun n => (Numeral.write n).map ('L' :: ·)).map (Text.join ['-'])

/-! ## The directives of a text -/

/-- a directive and the half-open span of its source text -/
structure Occurrence where
  directive : Directive
  start : Nat
  stop : Nat
deriving DecidableEq, Repr

/-- the directive of a shape -/
def ofShape (s : Shape) : Except DigitLimit Directive := do
  let bounds ← match s.options with
    | some (_, interior) => Bounds.read interior
    | none => pure {}
  return { path := s.path, lineBegin := bounds.lineBegin, lineEnd := bounds.lineEnd, raw := s.text }

/-- the directive of a shape, at its place -/
def Occurrence.ofShape (offset : Nat) (s : Shape) : Except DigitLimit Occurrence :=
  (Directive.ofShape s).map fun d => { directive := d, start := offset, stop := offset + s.text.length }

/-- the directives of a text, from left to right -/
def scan (t : Text) : Except DigitLimit (List Occurrence) :=
  (shapes t).mapM fun (offset, shape) => Occurrence.ofShape offset shape

end Directive

end Transclude
