/-
Nodes as markup. Attributes are written in the order of their names, always with a value; text is escaped except in
scripts and style sheets.
-/
import Transclude.Markup.Element
import Transclude.Markup.Escape
import Transclude.Markup.Forest

namespace Transclude.Markup

/-- a value in quotation marks: double ones, or single ones around a value that holds double ones only -/
def quoteValue (value : Text) : Text :=
  let escaped := escapeContent value
  if escaped.contains '"' then
    if escaped.contains '\'' then
      '"' :: (escaped.flatMap fun c => if c = '"' then "&quot;".toList else [c]) ++ ['"']
    else '\'' :: (escaped ++ ['\''])
  else '"' :: (escaped ++ ['"'])

/-- the attributes of a tag as they are written -/
def printAttributes (attributes : List Attribute) : Text :=
  (attributes.mergeSort fun a b => Text.le a.name b.name).flatMap fun a => ' ' :: a.name ++ '=' :: quoteValue a.value

/-- a special string as it is written -/
def printSpecial (kind : SpecialKind) (content : Text) : Text :=
  match kind with
  | .comment => "<!--".toList ++ content ++ "-->".toList
  | .cdata => "<![CDATA[".toList ++ content ++ "]]>".toList
  | .instruction => "<?".toList ++ content ++ ">".toList
  | .declaration => "<?".toList ++ content ++ "?>".toList
  | .doctype => "<!DOCTYPE ".toList ++ content ++ ">\n".toList

/-- an element around printed content -/
def printElement (name : Text) (attributes : List Attribute) (childless : Bool) (content : Text) : Text :=
  let tag := '<' :: name ++ printAttributes attributes
  if isVoid name && childless then tag ++ "/>".toList
  else tag ++ '>' :: (content ++ "</".toList ++ name ++ ['>'])

/-- the nodes of a forest as markup, where `parent` is the name of the element around them -/
def Forest.print (parent : Text) : Forest → Text
  | .nil => []
  | .text _ content next => (if printsRaw parent then content else escapeContent content) ++ next.print parent
  | .special _ kind content next => printSpecial kind content ++ next.print parent
  | .element _ name attributes children next =>
    printElement name attributes (children matches .nil) (children.print name) ++ next.print parent

end Transclude.Markup
