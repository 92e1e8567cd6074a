/-
The values that settings are given as: texts from the environment, or values with a type of their own.

`ofJson?` reads the JSON notation. Characters are cut into tokens by `scan`, one character at a time, and `Reading.step` takes
one token at a time; what a record holds is checked for its form and not kept, because no setting is a record.
-/
import Transclude.Numeral

namespace Transclude

/-- a value that a setting is given as -/
inductive SettingValue where
  | null
  | truth (value : Bool)
  /-- a number, with its value if it is whole -/
  | number (value : Option Int)
  | text (content : Text)
  /-- a text that no sequence of characters stands for -/
  | illFormedText
  | list (items : List SettingValue)
  | record
deriving Inhabited, Repr

namespace SettingValue

/-! ## Tokens -/

/-- a token of the JSON notation -/
inductive Token where
  | scalar (value : SettingValue)
  | openList
  | closeList
  | openRecord
  | closeRecord
  | comma
  | colon

/-- what stands between two characters of the notation -/
inductive Scan where
  | between
  /-- a number or a name, last character first -/
  | word (read : Text)
  /-- a text, as code points, last one first -/
  | text (read : List Nat)
  /-- a text behind a backslash -/
  | escape (read : List Nat)
  /-- a text inside a code point written with four digits -/
  | digits (read : List Nat) (missing : Nat) (value : Nat)

/-- the characters that code points stand for; a pair of halves is one character, and a half by itself is none -/
def characters? : List Nat → Option Text
  | [] => some []
  | high :: low :: rest =>
    if 0xD800 ≤ high ∧ high < 0xDC00 ∧ 0xDC00 ≤ low ∧ low < 0xE000 then
      (characters? rest).map (Char.ofNat (0x10000 + (high - 0xD800) * 0x400 + (low - 0xDC00)) :: ·)
    else if h : high.isValidChar then (characters? (low :: rest)).map (Char.ofNatAux high h :: ·)
    else none
  | [n] => if h : n.isValidChar then some [Char.ofNatAux n h] else none

/-- a text given by its code points -/
def ofCodePoints (points : List Nat) : SettingValue :=
  match characters? points with
  | some t => .text t
  | none => .illFormedText

/-- a run of digits, at least one, and what follows it -/
def digits? (t : Text) : Option (Text × Text) :=
  match t.takeWhile Text.isAsciiDigit with
  | [] => none
  | digits => some (digits, t.dropWhile Text.isAsciiDigit)

/-- the whole part of a number, and what follows it; it has no zero in front -/
def wholePart? (t : Text) : Option (Text × Text) :=
  match t with
  | '-' :: rest => (unsigned? rest).map fun (digits, rest) => ('-' :: digits, rest)
  | t => unsigned? t
where
  unsigned? (t : Text) : Option (Text × Text) :=
    match t with
    | '0' :: rest => some (['0'], rest)
    | t => digits? t

/-- what follows the fraction of a number -/
def afterFraction? (t : Text) : Option Text :=
  match t with
  | '.' :: rest => (digits? rest).map (·.2)
  | t => some t

/-- what follows the exponent of a number -/
def afterExponent? (t : Text) : Option Text :=
  match t with
  | e :: rest =>
    if e = 'e' ∨ e = 'E' then
      match rest with
      | '+' :: rest | '-' :: rest => (digits? rest).map (·.2)
      | rest => (digits? rest).map (·.2)
    else some t
  | [] => some []

/-- a number that is written like this -/
def number? (t : Text) : Option SettingValue := do
  let (whole, rest) ← wholePart? t
  if rest = [] then
    let n ← (Numeral.read whole).toOption
    return .number (some n)
  else
    let rest ← afterExponent? (← afterFraction? rest)
    if rest = [] then return .number none else none

/-- the value that a word stands for -/
def word? (t : Text) : Option SettingValue :=
  if t = "null".toList then some .null
  else if t = "true".toList then some (.truth true)
  else if t = "false".toList then some (.truth false)
  else if t = "NaN".toList ∨ t = "Infinity".toList ∨ t = "-Infinity".toList then some (.number none)
  else number? t

/-- a character of numbers and names -/
def isWordChar (c : Char) : Bool :=
  Text.isAsciiLetter c || Text.isAsciiDigit c || c == '+' || c == '-' || c == '.'

/-- a sign by itself -/
def sign? (c : Char) : Option Token :=
  match c with
  | '[' => some .openList
  | ']' => some .closeList
  | '{' => some .openRecord
  | '}' => some .closeRecord
  | ',' => some .comma
  | ':' => some .colon
  | _ => none

/-- white space of the notation -/
def isJsonBlank (c : Char) : Bool := c == ' ' || c == '\t' || c == '\n' || c == '\r'

/-- the token that is complete with a character between tokens, and what the next character belongs to -/
def begin? (c : Char) : Option (List Token × Scan) :=
  if isJsonBlank c then some ([], .between)
  else if c = '"' then some ([], .text [])
  else if isWordChar c then some ([], .word [c])
  else (sign? c).map fun token => ([token], .between)

/-- the code point that a character behind a backslash stands for -/
def escaped? (c : Char) : Option Nat :=
  match c with
  | '"' | '\\' | '/' => some c.toNat
  | 'b' => some 8
  | 'f' => some 12
  | 'n' => some 10
  | 'r' => some 13
  | 't' => some 9
  | _ => none

/-- the value of a hexadecimal digit -/
def hexValue? (c : Char) : Option Nat :=
  if Text.isAsciiDigit c then some (c.toNat - 48)
  else if 'a' ≤ c ∧ c ≤ 'f' then some (c.toNat - 87)
  else if 'A' ≤ c ∧ c ≤ 'F' then some (c.toNat - 55)
  else none

/-- the tokens that are complete with a character, and what the next character belongs to -/
def Scan.next? : Scan → Char → Option (List Token × Scan)
  | .between, c => begin? c
  | .word read, c =>
    if isWordChar c then some ([], .word (c :: read))
    else do
      let value ← word? read.reverse
      let (tokens, scan) ← begin? c
      return (.scalar value :: tokens, scan)
  | .text read, c =>
    if c = '"' then some ([.scalar (ofCodePoints read.reverse)], .between)
    else if c = '\\' then some ([], .escape read)
    else if c.toNat < 0x20 then none
    else some ([], .text (c.toNat :: read))
  | .escape read, c =>
    if c = 'u' then some ([], .digits read 4 0) else (escaped? c).map fun n => ([], .text (n :: read))
  | .digits read missing value, c =>
    (hexValue? c).map fun n =>
      let value := 16 * value + n
      ([], if missing ≤ 1 then .text (value :: read) else .digits read (missing - 1) value)

/-- the tokens of a text -/
def scan (s : Scan) : Text → Option (List Token)
  | [] => match s with
    | .between => some []
    | .word read => (word? read.reverse).map fun value => [.scalar value]
    | _ => none
  | c :: rest => do
    let (tokens, s) ← s.next? c
    return tokens ++ (← scan s rest)

/-! ## Values -/

/-- a list or record that is not complete; the items of a list are kept last one first -/
inductive Frame where
  | list (items : List SettingValue)
  | record

/-- what may come next -/
inductive Awaited where
  | value
  /-- a value, or the end of a list without items -/
  | item
  /-- a name, or the end of a record without members -/
  | member
  | name
  | colon
  /-- a comma, or the end of what is not complete -/
  | more
  | nothing (result : SettingValue)

/-- the lists and records that are not complete, innermost first, and what may come next -/
structure Reading where
  frames : List Frame := []
  awaited : Awaited := .value

/-- a value is complete -/
def Reading.complete (value : SettingValue) : List Frame → Reading
  | [] => { awaited := .nothing value }
  | .list items :: frames => { frames := .list (value :: items) :: frames, awaited := .more }
  | .record :: frames => { frames := .record :: frames, awaited := .more }

/-- a value begins -/
def Reading.value? (frames : List Frame) : Token → Option Reading
  | .scalar value => some (complete value frames)
  | .openList => some { frames := .list [] :: frames, awaited := .item }
  | .openRecord => some { frames := .record :: frames, awaited := .member }
  | _ => none

/-- takes one token -/
def Reading.step (r : Reading) (token : Token) : Option Reading :=
  match r.awaited, r.frames, token with
  | .item, .list items :: frames, .closeList => some (complete (.list items.reverse) frames)
  | .value, frames, token | .item, frames, token => value? frames token
  | .member, .record :: frames, .closeRecord => some (complete .record frames)
  | .member, frames, .scalar (.text _) | .member, frames, .scalar .illFormedText
  | .name, frames, .scalar (.text _) | .name, frames, .scalar .illFormedText => some { frames, awaited := .colon }
  | .colon, frames, .colon => some { frames, awaited := .value }
  | .more, .list items :: frames, .comma => some { frames := .list items :: frames, awaited := .value }
  | .more, .list items :: frames, .closeList => some (complete (.list items.reverse) frames)
  | .more, .record :: frames, .comma => some { frames := .record :: frames, awaited := .name }
  | .more, .record :: frames, .closeRecord => some (complete .record frames)
  | _, _, _ => none

/-- the value of a text in the JSON notation -/
def ofJson? (t : Text) : Option SettingValue := do
  let tokens ← scan .between t
  let r ← tokens.foldlM Reading.step {}
  match r.awaited with
  | .nothing value => some value
  | _ => none

end SettingValue

end Transclude
