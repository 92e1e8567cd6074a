/-
The line bounds in the braces of a directive. Each bound is the first integer assigned to its key: the key, blanks, an
equals sign, blanks, and an integer, where the key does not follow a word character or a hyphen. Everything else in the
braces is free text.
-/
import Transclude.Numeral
import Transclude.Text.Classes

namespace Transclude.Directive

/-- the line bounds of a directive -/
structure Bounds where
  lineBegin : Option Int := none
  lineEnd : Option Int := none
deriving DecidableEq, Repr

namespace Bounds

/-- a character that a key can be part of -/
def isKeyChar (c : Char) : Bool := Text.isWord c || c == '-'

/-- the integer that a text starts with, as written -/
def integer? : Text → Option Text
  | '-' :: t =>
    match t.takeWhile Text.isDigit with
    | [] => none
    | digits => some ('-' :: digits)
  | t =>
    match t.takeWhile Text.isDigit with
    | [] => none
    | digits => some digits

/-- the integer assigned to `key` at the front of a text, as written -/
def assigned? (key t : Text) : Option Text :=
  match (Text.after? key t).map (List.dropWhile Text.isBlank) with
  | some ('=' :: value) => integer? (value.dropWhile Text.isBlank)
  | _ => none

/-- the first integer assigned to `key`, as written; `free` says that no key character stands in front of the text -/
def find? (key : Text) : (free : Bool) → Text → Option Text
  | _, [] => none
  | free, c :: rest =>
    match if free then assigned? key (c :: rest) else none with
    | some digits => some digits
    | none => find? key (!isKeyChar c) rest

/-- the bound that is assigned to `key` -/
def bound? (key interior : Text) : Except DigitLimit (Option Int) :=
  match find? key true interior with
  | some digits => (Numeral.read digits).map some
  | none => .ok none

/-- the bounds written between the braces -/
def read (interior : Text) : Except DigitLimit Bounds := do
  let lineBegin ← bound? "line_begin".toList interior
  let lineEnd ← bound? "line_end".toList interior
  return { lineBegin, lineEnd }

end Bounds

end Transclude.Directive
