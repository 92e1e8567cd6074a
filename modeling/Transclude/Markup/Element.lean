/-
What the names of elements mean: which elements are empty, where blank text is kept, and which attributes hold lists of
words or the name of an encoding.
-/
import Transclude.Markup.Token
import Transclude.Text.Classes
import Transclude.Text.Lower

namespace Transclude.Markup

/-- a name among some names -/
def isOneOf (names : List String) (name : Text) : Bool := names.any (·.toList == name)

/-- elements that close at once -/
def isVoid : Text → Bool :=
  isOneOf ["area", "base", "br", "col", "embed", "hr", "img", "input", "keygen", "link", "menuitem", "meta", "param",
    "source", "track", "wbr", "basefont", "bgsound", "command", "frame", "image", "isindex", "nextid", "spacer"]

/-- elements in which blank text is kept as it is -/
def keepsBlanks : Text → Bool := isOneOf ["pre", "textarea"]

/-- elements whose text is printed as it is -/
def printsRaw : Text → Bool := isOneOf ["script", "style"]

/-- attributes that hold a list of words in every element -/
def isWordList : Text → Bool := isOneOf ["class", "accesskey", "dropzone"]

/-- attributes that hold a list of words in some elements: the element and its attributes -/
def wordListTable : List (String × List String) :=
  [("a", ["rel", "rev"]), ("link", ["rel", "rev"]), ("td", ["headers"]), ("th", ["headers"]),
   ("form", ["accept-charset"]), ("object", ["archive"]), ("area", ["rel"]), ("icon", ["sizes"]),
   ("iframe", ["sandbox"]), ("output", ["for"])]

/-- the attribute `name` of the element holds a list of words -/
def holdsWords (element name : Text) : Bool :=
  isWordList name || wordListTable.any fun e => e.1.toList == element && isOneOf e.2 name

/-- the words of a text with one space between neighbours; `gap` says that a space is due before the next word -/
def spaceWords (gap : Bool) : Text → Text
  | [] => []
  | c :: t =>
    if Text.isBlank c then spaceWords true t
    else if gap then ' ' :: c :: spaceWords false t
    else c :: spaceWords false t

/-- the words of a text with one space between neighbours -/
def words (t : Text) : Text := spaceWords false (t.dropWhile Text.isBlank)

/-- the encoding that documents are written in -/
def outputEncoding : Text := "utf-8".toList

/-- a content type with the output encoding in the place of the one it names; `fresh` says that a line starts here, and
`skip` characters belong to the parameter before -/
def renameEncoding (fresh : Bool) : (skip : Nat) → Text → Text
  | _, [] => []
  | skip + 1, c :: t => renameEncoding (c == '\n') skip t
  | 0, c :: t =>
    match if fresh then Text.after? "charset=".toList (c :: t) else none with
    | some value => "charset=".toList ++ outputEncoding ++ renameEncoding false (7 + (value.takeWhile (· != ';')).length) t
    | none =>
      match if Text.isBlank c || c == ';' then Text.after? "charset=".toList t else none with
      | some value =>
        c :: "charset=".toList ++ outputEncoding ++ renameEncoding false (8 + (value.takeWhile (· != ';')).length) t
      | none => c :: renameEncoding (c == '\n') 0 t

/-- the value of an attribute among others -/
def valueOf? (attributes : List Attribute) (name : String) : Option Text :=
  (attributes.find? fun a => a.name == name.toList).map (·.value)

/-- the attributes of a meta element, with the output encoding in the place of the one they name -/
def declareEncoding (attributes : List Attribute) : List Attribute :=
  let isContentType := (valueOf? attributes "http-equiv").map Text.lower == some "content-type".toList
  if (valueOf? attributes "charset").isSome then
    attributes.map fun a => if a.name = "charset".toList then { a with value := outputEncoding } else a
  else if isContentType then
    attributes.map fun a => if a.name = "content".toList then { a with value := renameEncoding true 0 a.value } else a
  else attributes

/-- the attributes of an element as they are kept -/
def keptAttributes (element : Text) (attributes : List Attribute) : List Attribute :=
  let attributes := attributes.map fun a => if holdsWords element a.name then { a with value := words a.value } else a
  if element = "meta".toList then declareEncoding attributes else attributes

/-- a blank string outside of elements that keep blanks is one line feed, or one space if it has none -/
def tidy (keep : Bool) (t : Text) : Text :=
  if !keep && t.all Text.isMarkupBlank then (if t.contains '\n' then ['\n'] else [' ']) else t

end Transclude.Markup
