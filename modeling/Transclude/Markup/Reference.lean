/-
Character references: names and numbers that stand for characters in markup.

Attribute values follow the tolerant rules (`unescape`): the oldest names may stand without a semicolon, even at the front
of a longer word, and numbers that name no character are dropped. References between tags are recognised by the lexer and
looked up here (`named?`, `numbered`).
-/
import Transclude.Markup.NameTable
import Transclude.Numeral

namespace Transclude.Markup

/-! ## Names and numbers -/

/-- what the numbers from 128 to 159 stand for: the characters that a common older encoding has there -/
def upperControls : List Nat :=
  [0x20AC, 0x0081, 0x201A, 0x0192, 0x201E, 0x2026, 0x2020, 0x2021, 0x02C6, 0x2030, 0x0160, 0x2039, 0x0152, 0x008D, 0x017D, 0x008F,
   0x0090, 0x2018, 0x2019, 0x201C, 0x201D, 0x2022, 0x2013, 0x2014, 0x02DC, 0x2122, 0x0161, 0x203A, 0x0153, 0x009D, 0x017E, 0x0178]

/-- what a table has for a name -/
def lookUp? {α : Type} (names : List (String × α)) (name : Text) : Option α :=
  (names.find? fun e => e.1.toList == name).map (·.2)

/-- the text of a name that may stand without a semicolon -/
def oldNamed? (name : Text) : Option Text := (lookUp? oldNames name).map fun n => [Char.ofNat n]

/-- the text of a name: one character, or two -/
def named? (name : Text) : Option Text :=
  (oldNamed? name).or (((lookUp? newNames name).map fun n => [Char.ofNat n]).or
    ((lookUp? pairNames name).map fun (n, m) => [Char.ofNat n, Char.ofNat m]))

/-- the character of a number: the replacement character for zero and for numbers that are no characters -/
def numbered (n : Nat) : Char :=
  if n = 0 then '\ufffd'
  else if 0x80 ≤ n ∧ n < 0xA0 then Char.ofNat (upperControls.getD (n - 0x80) n)
  else if n.isValidChar then Char.ofNat n
  else '\ufffd'

/-! ## Attribute values -/

/-- a hexadecimal digit -/
def hexValue? (c : Char) : Option Nat :=
  if '0' ≤ c ∧ c ≤ '9' then some (c.toNat - '0'.toNat)
  else if 'a' ≤ c ∧ c ≤ 'f' then some (c.toNat - 'a'.toNat + 10)
  else if 'A' ≤ c ∧ c ≤ 'F' then some (c.toNat - 'A'.toNat + 10)
  else none

/-- the value of a run of hexadecimal digits -/
def hexNumber (digits : Text) : Nat := digits.foldl (fun n c => 16 * n + (hexValue? c).getD 0) 0

/-- numbers that are dropped from attribute values: control characters, and code points that never are characters -/
def isDropped (n : Nat) : Bool :=
  (0 < n && n < 9) || n == 0x0B || (0x0D < n && n < 0x20) || n == 0x7F || (0xFDD0 ≤ n && n ≤ 0xFDEF) ||
    (n % 0x10000 == 0xFFFE && n ≤ 0x10FFFF) || (n % 0x10000 == 0xFFFF && n ≤ 0x10FFFF)

/-- the text of a number in an attribute value -/
def numberedText (n : Nat) : Text := if isDropped n then [] else [numbered n]

/-- the rest behind a semicolon, if there is one -/
def skipSemicolon : Text → Text
  | ';' :: rest => rest
  | rest => rest

/-- a character that a name in an attribute value can have -/
def isNameChar (c : Char) : Bool :=
  !(c == '\t' || c == '\n' || c == '\x0c' || c == ' ' || c == '<' || c == '&' || c == '#' || c == ';')

/-- the longest old name of at least two letters that a word starts with, and what follows it -/
def oldPrefix? (word : Text) : Nat → Option Text
  | 0 | 1 => none
  | n + 2 =>
    match oldNamed? (word.take (n + 2)) with
    | some shown => some (shown ++ word.drop (n + 2))
    | none => oldPrefix? word (n + 1)

/-- the text of a word behind an ampersand, and whether a semicolon ends the word -/
def wordText (word : Text) (ended : Bool) : Text :=
  let semicolon := if ended then [';'] else []
  match if ended then named? word else oldNamed? word with
  | some shown => shown
  | none =>
    let whole := word ++ semicolon
    (oldPrefix? whole (whole.length - 1)).getD ('&' :: whole)

/-- the reference behind an ampersand: its text and what follows it; `none` when the ampersand stands for itself -/
def reference? (t : Text) : Except DigitLimit (Option (Text × Text)) :=
  match t with
  | '#' :: rest =>
    match rest with
    | x :: digits =>
      if (x = 'x' ∨ x = 'X') ∧ (digits.takeWhile (hexValue? · |>.isSome)) ≠ [] then
        .ok (some (numberedText (hexNumber (digits.takeWhile (hexValue? · |>.isSome))),
          skipSemicolon (digits.dropWhile (hexValue? · |>.isSome))))
      else if Text.isAsciiDigit x then
        (Numeral.readDigits (rest.takeWhile Text.isAsciiDigit)).map fun n =>
          some (numberedText n, skipSemicolon (rest.dropWhile Text.isAsciiDigit))
      else .ok none
    | [] => .ok none
  | _ =>
    match (t.take 32).takeWhile isNameChar with
    | [] => .ok none
    | word =>
      match t.drop word.length with
      | ';' :: rest => .ok (some (wordText word true, rest))
      | rest => .ok (some (wordText word false, rest))

/-- an attribute value with its references replaced; `skip` characters belong to the reference before -/
def unescapeFrom : (skip : Nat) → Text → Except DigitLimit Text
  | _, [] => .ok []
  | skip + 1, _ :: rest => unescapeFrom skip rest
  | 0, c :: rest =>
    if c = '&' then do
      match ← reference? rest with
      | some (text, after) => return text ++ (← unescapeFrom (rest.length - after.length) rest)
      | none => return c :: (← unescapeFrom 0 rest)
    else return c :: (← unescapeFrom 0 rest)

/-- an attribute value with its references replaced -/
def unescape (t : Text) : Except DigitLimit Text := unescapeFrom 0 t

end Transclude.Markup
