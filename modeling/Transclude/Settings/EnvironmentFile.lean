/-
Files of variables: lines `NAME=value`, with comments, quotation marks around names and values, and names of earlier
variables in the values. A quoted value may go over several lines. A line that is not of this form is passed over.
-/
import Transclude.Text.Classes

namespace Transclude.EnvironmentFile

/-- a line of the file: the name that it gives, if it gives one, with the value, if there is one -/
structure Binding where
  name : Option Text
  value : Option Text
deriving DecidableEq, Repr

/-! ## Lines -/

/-- white space inside a line -/
def isLineBlank (c : Char) : Bool := Text.isBlank c && c != '\n' && c != '\r'

/-- what follows the word `export`, if it is there -/
def afterExport (t : Text) : Text :=
  match Text.after? "export".toList t with
  | some (c :: rest) => if isLineBlank c then rest.dropWhile isLineBlank else t
  | _ => t

/-- the name in front of a line and what follows it; a comment has no name -/
def name? (t : Text) : Option (Option Text × Text) :=
  match t with
  | '#' :: _ => some (none, t)
  | '\'' :: rest =>
    match Text.upTo? '\'' rest with
    | some (c :: name, rest) => some (some (c :: name), rest)
    | _ => none
  | t =>
    match t.takeWhile fun c => c != '=' && c != '#' && !Text.isBlank c with
    | [] => none
    | name => some (some name, t.drop name.length)

/-- the text up to the closing mark and what follows the mark; no character behind a backslash closes -/
def upToMark? (mark : Char) : Text → Option (Text × Text)
  | '\\' :: c :: rest => (upToMark? mark rest).map fun (inner, after) => ('\\' :: c :: inner, after)
  | c :: rest =>
    if c = mark then some ([], rest) else (upToMark? mark rest).map fun (inner, after) => (c :: inner, after)
  | [] => none

/-- the character that stands behind a backslash in a value between single marks -/
def singleEscape? (c : Char) : Option Char := if c = '\\' ∨ c = '\'' then some c else none

/-- the character that stands behind a backslash in a value between double marks -/
def doubleEscape? (c : Char) : Option Char :=
  match c with
  | '\\' | '\'' | '"' => some c
  | 'a' => some '\x07'
  | 'b' => some '\x08'
  | 'f' => some '\x0c'
  | 'n' => some '\n'
  | 'r' => some '\r'
  | 't' => some '\t'
  | 'v' => some '\x0b'
  | _ => none

/-- a quoted value with its escapes replaced -/
def unescape (escape? : Char → Option Char) : Text → Text
  | '\\' :: c :: rest =>
    match escape? c with
    | some e => e :: unescape escape? rest
    | none => '\\' :: unescape escape? (c :: rest)
  | c :: rest => c :: unescape escape? rest
  | [] => []

/-- the part of a value without marks that is not a comment; a comment starts behind white space -/
def withoutComment (before : Option Char) : Text → Text
  | [] => []
  | c :: rest =>
    if c = '#' ∧ before.any Text.isBlank then [] else c :: withoutComment (some c) rest

/-- the value behind an equals sign, and what follows it -/
def value? (t : Text) : Option (Text × Text) :=
  match t with
  | '\'' :: rest => (upToMark? '\'' rest).map fun (inner, rest) => (unescape singleEscape? inner, rest)
  | '"' :: rest => (upToMark? '"' rest).map fun (inner, rest) => (unescape doubleEscape? inner, rest)
  | t =>
    let line := t.takeWhile (· != '\n')
    some (Text.trimRight Text.isBlank (withoutComment none line), t.drop line.length)

/-- what follows the line, if there is nothing more in it than a comment -/
def endOfLine? (t : Text) : Option Text :=
  match t.dropWhile isLineBlank with
  | [] => some []
  | '\n' :: rest => some rest
  | '#' :: rest => some ((rest.dropWhile (· != '\n')).drop 1)
  | _ => none

/-- what follows the line that the text starts in -/
def nextLine (t : Text) : Text := (t.dropWhile (· != '\n')).drop 1

/-- the binding that the text starts with, if it has the right form, and what follows it -/
def binding (t : Text) : Option Binding × Text :=
  let t := t.dropWhile Text.isBlank
  if t = [] then (none, [])
  else
    let t := afterExport t
    match name? t with
    | none => (none, nextLine t)
    | some (name, rest) =>
      match rest.dropWhile isLineBlank with
      | '=' :: rest =>
        let t := rest.dropWhile isLineBlank
        match value? t with
        | none => (none, nextLine t)
        | some (value, rest) =>
          match endOfLine? rest with
          | none => (none, nextLine rest)
          | some rest => (some { name, value := some value }, rest)
      | rest =>
        match endOfLine? rest with
        | none => (none, nextLine rest)
        | some rest => (some { name, value := none }, rest)

/-- the bindings of a file in order; each of them takes some of the text -/
def bindings (t : Text) : List Binding :=
  if t = [] then []
  else
    let (found, rest) := binding t
    found.toList ++ (if rest.length < t.length then bindings rest else [])
termination_by t.length

/-! ## Variables -/

/-- a variable and its value, if it has one -/
abbrev Variables := List (Text × Option Text)

/-- the variables with a value for a name; a name that is there already keeps its place -/
def assign (known : Variables) (name : Text) (value : Option Text) : Variables :=
  if known.any fun v => v.1 == name then known.map fun v => if v.1 == name then (name, value) else v
  else known ++ [(name, value)]

/-- a reference to a variable at the front of a text: its name, what stands for it if there is no such variable, and the rest -/
def reference? (t : Text) : Option (Text × Option Text × Text) :=
  match Text.after? ['$', '\x7b'] t with
  | none => none
  | some inner =>
    let name := inner.takeWhile fun c => c != '}' && c != ':'
    match inner.drop name.length with
    | '}' :: rest => some (name, none, rest)
    | ':' :: '-' :: rest => (Text.upTo? '}' rest).map fun (other, rest) => (name, some other, rest)
    | _ => none

/-- the value of a variable, or what stands for it -/
def valueOf (known : Variables) (name : Text) (other : Option Text) : Text :=
  match known.find? fun v => v.1 == name with
  | some (_, value) => value.getD []
  | none => other.getD []

/-- a value with the references in it replaced -/
def expand (known : Variables) (t : Text) : Text :=
  match t with
  | [] => []
  | c :: rest =>
    match reference? (c :: rest) with
    | some (name, other, after) =>
      valueOf known name other ++ (if after.length < rest.length + 1 then expand known after else [])
    | none => c :: expand known rest
termination_by t.length

/-- a text without the byte order mark at its front -/
def withoutMark : Text → Text
  | '\uFEFF' :: t => t
  | t => t

/-- the variables of a file, where values may refer to variables of the file above and of the environment -/
def read (environment : List (Text × Text)) (content : Text) : Variables :=
  let outer : Variables := environment.map fun v => (v.1, some v.2)
  (bindings (Text.unifyLines (withoutMark content))).foldl (fun known b =>
    match b.name with
    | none => known
    | some name => assign known name (b.value.map (expand (known ++ outer)))) []

end Transclude.EnvironmentFile
