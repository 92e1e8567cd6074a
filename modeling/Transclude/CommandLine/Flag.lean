/-
The options of the command line, and what a single word of it is: a place, an option, or a separator after which every word
is a place.

An option is known by its names. The front of a long name will do when no other long name begins with it, and a long name
may carry a value behind an equals sign. A word with one dash stands for the option of its first letter, and what follows is
kept for later: it may be the letters of more options.
-/
import Transclude.Text.Classes
import Transclude.Text.Quoted

namespace Transclude.CommandLine

/-- an option of the command line -/
inductive Flag where
  | help
  | pattern
  | hideFileName
  | wrapCode
  | style
  | verbosity
  | version
  | inputMeta
  | outputMeta
deriving DecidableEq, Repr

namespace Flag

/-- all options in order -/
def all : List Flag :=
  [.help, .pattern, .hideFileName, .wrapCode, .style, .verbosity, .version, .inputMeta, .outputMeta]

/-- the names of an option -/
def names : Flag → List Text
  | .help => ["-h".toList, "--help".toList]
  | .pattern => ["--pattern".toList]
  | .hideFileName => ["--noFileName".toList]
  | .wrapCode => ["--wrapCode".toList]
  | .style => ["--style".toList]
  | .verbosity => ["-v".toList, "--verbosity".toList]
  | .version => ["-V".toList, "--version".toList]
  | .inputMeta => ["--saveinputmeta".toList]
  | .outputMeta => ["--saveoutputmeta".toList]

/-- an option that goes with a value -/
def takesValue : Flag → Bool
  | .pattern | .style => true
  | _ => false

/-- all names in order, each with its option -/
def table : List (Text × Flag) := all.flatMap fun f => f.names.map fun name => (name, f)

/-- the option of a name -/
def ofName? (name : Text) : Option Flag := (table.find? fun e => e.1 == name).map (·.2)

/-- the names of an option in messages -/
def label (f : Flag) : Text := Text.join ['/'] f.names

end Flag

/-! ## Misuse -/

/-- what is wrong with a command line -/
inductive Misuse where
  /-- the front of more than one long name -/
  | ambiguous (word : Text) (names : List Text)
  | expectedValue (f : Flag)
  | unwantedValue (f : Flag) (value : Text)
  | missingPlaces (names : List Text)
  | unrecognized (words : List Text)
deriving DecidableEq, Repr

/-- the explanation that goes with a misuse -/
def Misuse.message : Misuse → Text
  | .ambiguous word names =>
    "ambiguous option: ".toList ++ word ++ " could match ".toList ++ Text.join ", ".toList names
  | .expectedValue f => "argument ".toList ++ f.label ++ ": expected one argument".toList
  | .unwantedValue f value =>
    "argument ".toList ++ f.label ++ ": ignored explicit argument ".toList ++ Text.quoted value
  | .missingPlaces names => "the following arguments are required: ".toList ++ Text.join ", ".toList names
  | .unrecognized words => "unrecognized arguments: ".toList ++ Text.join [' '] words

/-! ## Words -/

/-- what a word of the command line is -/
inductive Word where
  | place (t : Text)
  /-- two dashes: the words behind them are places -/
  | separator
  /-- an option and what is written behind its name; `short` where the name has a single dash -/
  | flag (f : Flag) (short : Bool) (rest : Option Text)
  /-- the word looks like an option and is none -/
  | unknown (t : Text)
deriving DecidableEq, Repr

/-- a word in front of an equals sign and what is behind it -/
def cutAtEquals (t : Text) : Text × Option Text :=
  match Text.upTo? '=' t with
  | some (name, value) => (name, some value)
  | none => (t, none)

/-- the name has a single dash -/
def isShort (name : Text) : Bool := !Text.startsWith ['-', '-'] name

/-- the word is a negative number -/
def isNegativeNumber : Text → Bool
  | '-' :: t =>
    match Text.upTo? '.' t with
    | some (whole, fraction) => whole.all Text.isDigit && fraction != [] && fraction.all Text.isDigit
    | none => t != [] && t.all Text.isDigit
  | _ => false

/-- the options that a word may be short for, by name -/
def candidates (t : Text) : List (Text × Flag × Option Text) :=
  if isShort t then
    (Flag.table.filter fun e => e.1 == t.take 2).map fun e => (e.1, e.2, some (t.drop 2))
  else
    let (front, value) := cutAtEquals t
    (Flag.table.filter fun e => Text.startsWith front e.1).map fun e => (e.1, e.2, value)

/-- what a word in front of any separator is -/
def Word.read (t : Text) : Except Misuse Word :=
  if t.head? ≠ some '-' ∨ t = ['-'] then .ok (.place t)
  else if t = ['-', '-'] then .ok .separator
  else match Flag.ofName? t, Flag.ofName? (cutAtEquals t).1 with
    | some f, _ => .ok (.flag f (isShort t) none)
    | none, some f => .ok (.flag f (isShort t) (cutAtEquals t).2)
    | none, none =>
      match candidates t with
      | [] => .ok (if isNegativeNumber t || t.contains ' ' then .place t else .unknown t)
      | [(name, f, rest)] => .ok (.flag f (isShort name) rest)
      | several => .error (.ambiguous t (several.map (·.1)))

/-- what the words of a command line are -/
def words : List Text → Except Misuse (List Word)
  | [] => .ok []
  | t :: ts => do
    match ← Word.read t with
    | .separator => return .separator :: ts.map Word.place
    | word => return word :: (← words ts)

end Transclude.CommandLine
