/-
The blocks that take the place of directives: imported code under a header with its file name and line range, or a report
of what went wrong with the source of the directive.
-/
import Transclude.Directive.Occurrence
import Transclude.Highlight.Layout

namespace Transclude

/-- how blocks are presented -/
structure Presentation where
  showFileName : Bool := true
  wrapCode : Bool := false
deriving DecidableEq, Repr

namespace Block

/-- an element with a class, around markup -/
def enclose (tag : String) (cssClass : String) (content : Text) : Text :=
  '<' :: tag.toList ++ " class=\"".toList ++ cssClass.toList ++ "\">".toList ++ content ++ "</".toList ++ tag.toList ++ ['>']

/-- the header of a code block: the path as written, and the line range when a bound was given -/
def header (d : Directive) : Except DigitLimit Text := do
  let range ← if d.hasRange then d.rangeLabel.map (enclose "span" "code-import-line-info") else pure []
  return enclose "div" "code-import-header"
    (enclose "span" "code-import-filename" (Markup.escape d.path) ++ range)

/-- rendered code in its container -/
def code (d : Directive) (rendered : Text) (p : Presentation) : Except DigitLimit Text := do
  let head ← if p.showFileName then header d else pure []
  let cssClass := if p.wrapCode then "code-import-block code-import-wrap" else "code-import-block"
  return enclose "div" "code-import-container" (enclose "div" cssClass (head ++ rendered))

/-- the title of an error report; an empty one counts as none -/
def errorTitle : Option Text → Text
  | none | some [] => "Import error".toList
  | some title => title

/-- an error report: a title, what went wrong, and the source of the directive, where `e` is how the highlighter of the source
writes quotation marks -/
def error (message raw : Text) (title : Option Text) (e : Markup.Escaping := .content) : Text :=
  enclose "div" "code-import-container" (enclose "div" "code-import-error"
    (enclose "div" "code-import-error-header" (Markup.escape (errorTitle title)) ++
     enclose "div" "code-import-error-details" (Markup.escape message) ++
     enclose "div" "code-import-error-source"
       ("<code>".toList ++ Highlight.directiveSource raw e ++ "</code>".toList)))

end Block

end Transclude
