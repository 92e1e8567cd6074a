/-
What happens to a text before it is highlighted: a byte order mark at its front goes, line breaks become line feeds, blank
ends may be trimmed, tabs may be expanded, and a line feed may be added at the end.
-/
import Transclude.Text.Classes

namespace Transclude.Highlight

/-- how a text is prepared -/
structure Preparation where
  /-- blanks at both ends go -/
  trimBlanks : Bool := false
  /-- line feeds at both ends go -/
  trimLines : Bool := true
  /-- the distance of tab stops; tabs stay when it is not positive -/
  tabSize : Int := 0
  /-- a line feed at the end is added when it is missing -/
  endLine : Bool := true
deriving DecidableEq, Repr

/-- tabs as spaces up to the next tab stop, from a column onwards -/
def expandTabs (size : Nat) (column : Nat) : Text → Text
  | [] => []
  | c :: rest =>
    if c = '\t' then
      let width := size - column % size
      List.replicate width ' ' ++ expandTabs size (column + width) rest
    else c :: expandTabs size (if c = '\n' ∨ c = '\r' then 0 else column + 1) rest

/-- the text without a byte order mark at its front -/
def dropMark : Text → Text
  | c :: rest => if c = '\ufeff' then rest else c :: rest
  | [] => []

/-- the text with a line feed at its end -/
def closeLine (t : Text) : Text := if t.getLast? = some '\n' then t else t ++ ['\n']

/-- the text as the highlighter sees it -/
def Preparation.apply (p : Preparation) (t : Text) : Text :=
  let t := Text.unifyLines (dropMark t)
  let t := if p.trimBlanks then Text.trim Text.isBlank t else if p.trimLines then Text.trim (· == '\n') t else t
  let t := if 0 < p.tabSize then expandTabs p.tabSize.toNat 0 t else t
  if p.endLine then closeLine t else t

/-- how an excerpt of a file is prepared: its blank lines stay -/
def excerpt : Preparation := { trimLines := false }

/-- how the source of a directive is prepared: nothing is trimmed or added -/
def verbatim : Preparation := { trimLines := false, endLine := false }

end Transclude.Highlight
