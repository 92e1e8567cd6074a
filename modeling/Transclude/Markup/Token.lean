/-
The tokens of markup, and why a text can fail to be markup.
-/
import Transclude.Numeral
import Transclude.Text.Quoted

namespace Transclude.Markup

/-- a name and a value; an attribute without a value has the empty one -/
structure Attribute where
  name : Text
  value : Text
deriving DecidableEq, Repr

/-- strings of markup that are not text: they are kept as they stand and never searched -/
inductive SpecialKind where
  | comment
  | cdata
  | instruction
  | declaration
  | doctype
deriving DecidableEq, Repr

/-- a token of markup -/
inductive Token where
  /-- a piece of text, references replaced; neighbouring pieces belong together -/
  | text (content : Text)
  | special (kind : SpecialKind) (content : Text)
  /-- a start tag -/
  | opening (name : Text) (attributes : List Attribute)
  /-- a tag that ends in a slash -/
  | closed (name : Text) (attributes : List Attribute)
  /-- an end tag -/
  | closing (name : Text)
deriving DecidableEq, Repr

/-- why a text is no markup -/
inductive Error where
  /-- a marked section whose keyword is not known -/
  | unknownSection (keyword : Text)
  /-- a marked section without a keyword, with the text it starts with -/
  | missingKeyword (context : Text)
  /-- a numeric reference with too many digits -/
  | digits (limit : DigitLimit)
deriving DecidableEq, Repr

/-- the explanation that goes with rejected markup -/
def Error.message : Error → Text
  | .unknownSection keyword =>
    rejected ("unknown status keyword ".toList ++ Text.quoted keyword ++ " in marked section".toList)
  | .missingKeyword context => rejected ("expected name token at ".toList ++ Text.quoted context)
  | .digits limit => limit.message
where
  rejected (reason : Text) : Text :=
    "The markup you provided was rejected by the parser. ".toList ++
      "Trying a different parser or a different encoding may help.\n\n".toList ++
      "Original exception(s) from parser:\n AssertionError: ".toList ++ reason

end Transclude.Markup
