/-
Values that a log message may name, and their two written forms: plainly, as a reader wants to see them, and exactly, with
texts between quotation marks. Inside a list or a table every value is written exactly.
-/
import Transclude.Numeral
import Transclude.Text.Quoted

namespace Transclude.Log

/-- a value that a message may name -/
inductive Value where
  | nothing
  | truth (holds : Bool)
  | number (n : Int)
  /-- a decimal fraction, as it is written -/
  | fraction (digits : Text)
  | text (t : Text)
  | list (items : List Value)
  | table (entries : List (Text × Value))
deriving Inhabited

namespace Value

/-- the name of the kind that a value is of -/
def kind : Value → Text
  | .nothing => "NoneType".toList
  | .truth _ => "bool".toList
  | .number _ => "int".toList
  | .fraction _ => "float".toList
  | .text _ => "str".toList
  | .list _ => "list".toList
  | .table _ => "dict".toList

mutual

/-- a value in its exact form -/
def exact : Value → Text
  | .nothing => "None".toList
  | .truth holds => (if holds then "True" else "False").toList
  | .number n => Numeral.print n
  | .fraction digits => digits
  | .text t => Text.quoted t
  | .list items => '[' :: (Text.join [',', ' '] (exactItems items) ++ [']'])
  | .table entries => '{' :: (Text.join [',', ' '] (exactEntries entries) ++ ['}'])

/-- the items of a list in their exact forms -/
def exactItems : List Value → List Text
  | [] => []
  | v :: items => exact v :: exactItems items

/-- the entries of a table in their exact forms -/
def exactEntries : List (Text × Value) → List Text
  | [] => []
  | (name, v) :: entries => (Text.quoted name ++ ':' :: ' ' :: exact v) :: exactEntries entries

end

/-- a value in its plain form -/
def plain : Value → Text
  | .text t => t
  | v => v.exact

/-- a text with its characters beyond the first 128 code points written by their code points -/
def spellOut (t : Text) : Text :=
  t.flatMap fun c =>
    if c.toNat < 0x80 then [c]
    else if c.toNat < 0x100 then '\\' :: 'x' :: Text.hexDigits 2 c.toNat
    else if c.toNat < 0x10000 then '\\' :: 'u' :: Text.hexDigits 4 c.toNat
    else '\\' :: 'U' :: Text.hexDigits 8 c.toNat

end Value

end Transclude.Log
