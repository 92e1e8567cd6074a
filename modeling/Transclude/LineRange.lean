/-
A range of the lines of a text. Lines are the pieces between line feeds, so a line feed at the end begins one more, empty
line.
-/
import Transclude.Text.Basic

namespace Transclude

/-- a first line, counted from zero, and an end that is not included; a negative end counts back from the last line -/
structure LineRange where
  first : Option Int := none
  stop : Option Int := none
deriving DecidableEq, Repr

namespace LineRange

/-- the lines of a text -/
def lines (t : Text) : List Text := Text.split '\n' t

/-- the number of lines in front of the range -/
def skipped (r : LineRange) : Nat := (r.first.getD 0).toNat

/-- the number of lines in front of the end of the range, among `n` lines -/
def limit (r : LineRange) (n : Nat) : Nat :=
  match r.stop with
  | none => n
  | some stop => min n (if stop < 0 then n + stop else stop).toNat

/-- the elements of a list that a range selects -/
def select (r : LineRange) {α : Type} (xs : List α) : List α :=
  (xs.take (r.limit xs.length)).drop r.skipped

/-- the lines of a text that a range selects, without a line feed at the end; an empty range selects the empty text -/
def extract (r : LineRange) (t : Text) : Text := Text.join ['\n'] (r.select (lines t))

end LineRange

end Transclude
