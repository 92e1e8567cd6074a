/-
Laying out tokens as markup, line by line. Neighbouring tokens of one style share a span as long as they stand on one line;
no span reaches over the end of a line.
-/
import Transclude.Highlight.Token
import Transclude.Markup.Escape

namespace Transclude.Highlight

/-- the inline style of a token; plain tokens have none -/
def TokenKind.style? : TokenKind → Option String
  | .text | .punctuation => none
  | .blank => some "color: #BBB"
  | .key => some "color: #687822"
  | .path => some "color: #BA2121"
  | .keyword => some "color: #008000; font-weight: bold"
  | .integer | .operator => some "color: #666"

/-- the tag that opens the span of a token; empty for plain tokens -/
def TokenKind.openTag (k : TokenKind) : Text :=
  match k.style? with
  | some style => "<span style=\"".toList ++ style.toList ++ "\">".toList
  | none => []

/-- the tag that closes a span with this opening tag -/
def closeTag (openTag : Text) : Text := if openTag = [] then [] else "</span>".toList

/-- the line that is laid out: nothing is on it yet, or there is a last piece with this opening tag -/
abbrev Line := Option Text

namespace Layout

/-- a piece that ends a line; the line behind it has nothing on it -/
def endLine (span : Text) (line : Line) (part : Text) : Text :=
  match line with
  | none => (if part = [] then [] else span ++ part ++ closeTag span) ++ ['\n']
  | some last =>
    if last ≠ span ∧ part ≠ [] then closeTag last ++ span ++ part ++ closeTag span ++ ['\n']
    else part ++ closeTag last ++ ['\n']

/-- a piece that does not end a line, and the line behind it -/
def extend (span : Text) (line : Line) (part : Text) : Text × Line :=
  if part = [] then ([], line)
  else match line with
    | none => (span ++ part, some span)
    | some last => if last = span then (part, some last) else (closeTag last ++ span ++ part, some span)

/-- pieces with an end of a line between neighbours, and the line behind them -/
def pieces (span : Text) : Line → List Text → Text × Line
  | line, [] => ([], line)
  | line, [part] => extend span line part
  | line, part :: next :: parts =>
    let (rest, last) := pieces span none (next :: parts)
    (endLine span line part ++ rest, last)

/-- tokens from a line onwards, with a line feed behind an unfinished line -/
def tokens (e : Markup.Escaping) : Line → List Token → Text
  | none, [] => []
  | some last, [] => closeTag last ++ ['\n']
  | line, t :: ts =>
    let (laid, next) := pieces t.kind.openTag line (Text.split '\n' (e.text t.text))
    laid ++ tokens e next ts

/-- the markup of some tokens -/
def ofTokens (e : Markup.Escaping) (ts : List Token) : Text := tokens e none ts

end Layout

/-- the source of a directive as markup, where `e` is how the highlighter writes quotation marks -/
def directiveSource (raw : Text) (e : Markup.Escaping := .content) : Text :=
  Text.trimRight (· == '\n') (Layout.ofTokens e (Token.lex (verbatim.apply raw)))

end Transclude.Highlight
