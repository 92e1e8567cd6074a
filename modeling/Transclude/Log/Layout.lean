/-
Layouts: how a value is set into a line. A layout is written as

    fill alignment sign # 0 width separator .precision type

and every part of it may be left out. Texts stand at the left of their width and numbers at the right; a number may be
written in another base, with a sign, with a mark for its base, and with its digits in groups.
-/
import Transclude.Log.Value

namespace Transclude.Log

/-- where a value stands in its width; `inside` puts the filling between the sign of a number and its digits -/
inductive Alignment where
  | left
  | right
  | centre
  | inside
deriving DecidableEq, Repr

/-- the alignment that a character stands for -/
def Alignment.ofChar? : Char → Option Alignment
  | '<' => some .left
  | '>' => some .right
  | '^' => some .centre
  | '=' => some .inside
  | _ => none

/-- how a value is set into a line -/
structure Layout where
  fill : Char := ' '
  alignment : Option Alignment := none
  sign : Option Char := none
  /-- a zero has no sign -/
  unsignedZero : Bool := false
  /-- the base of a number is marked -/
  marked : Bool := false
  /-- the filling is made of zeros -/
  zeros : Bool := false
  width : Option Nat := none
  separator : Option Char := none
  precision : Option Nat := none
  type : Option Char := none
deriving DecidableEq, Repr

/-- why a value cannot be set into a line -/
inductive LayoutError where
  /-- a width or a precision has too many digits -/
  | tooManyDigits
  | twoSeparators
  | noPrecision
  /-- something stands behind the type -/
  | malformed (layout kind : Text)
  | separated (separator type : Char)
  | unknownType (type : Char) (kind : Text)
  /-- a text or a character cannot be set so -/
  | notPermitted (what : String)
  /-- values of this kind have no layouts -/
  | noLayouts (kind : Text)
  /-- no character has this code point -/
  | noCharacter (n : Int)
deriving DecidableEq, Repr

/-- a type in a message; characters without a plain glyph are written by their code points -/
def typeText (c : Char) : Text :=
  if 32 < c.toNat ∧ c.toNat < 128 then [c] else '\\' :: 'x' :: Nat.toDigits 16 c.toNat

/-- the largest number that a width or a precision may be -/
def maxNumber : Nat := 9223372036854775807

/-- the explanation that goes with a layout error -/
def LayoutError.message : LayoutError → Text
  | .tooManyDigits => "Too many decimal digits in format string".toList
  | .twoSeparators => "Cannot specify both ',' and '_'.".toList
  | .noPrecision => "Format specifier missing precision".toList
  | .malformed layout kind =>
    "Invalid format specifier '".toList ++ layout ++ "' for object of type '".toList ++ kind ++ ['\'']
  | .separated separator type =>
    "Cannot specify '".toList ++ separator :: "' with '".toList ++ typeText type ++ "'.".toList
  | .unknownType type kind =>
    "Unknown format code '".toList ++ typeText type ++ "' for object of type '".toList ++ kind ++ ['\'']
  | .notPermitted what => what.toList
  | .noLayouts kind => "unsupported format string passed to ".toList ++ kind ++ ".__format__".toList
  | .noCharacter n =>
    if -(maxNumber : Int) - 1 ≤ n ∧ n ≤ maxNumber then "%c arg not in range(0x110000)".toList
    else "Python int too large to convert to C long".toList

namespace Layout

/-! ## Reading -/

/-- the number at the front of a text, if there are digits there, and what follows it -/
def number? (t : Text) : Except LayoutError (Option Nat × Text) :=
  let digits := t.takeWhile Text.isDigit
  if digits = [] then .ok (none, t)
  else if maxNumber < Numeral.value digits then .error .tooManyDigits
  else .ok (some (Numeral.value digits), t.dropWhile Text.isDigit)

/-- a character at the front of a text, if it is one of these, and what follows it -/
def oneOf? (choices : List Char) : Text → Option Char × Text
  | c :: t => if choices.contains c then (some c, t) else (none, c :: t)
  | [] => (none, [])

/-- the fill character and the alignment at the front of a layout, and what follows them -/
def placing : Text → (Option Char × Option Alignment) × Text
  | c :: d :: t =>
    match Alignment.ofChar? d, Alignment.ofChar? c with
    | some a, _ => ((some c, some a), t)
    | none, some a => ((none, some a), d :: t)
    | none, none => ((none, none), c :: d :: t)
  | [c] =>
    match Alignment.ofChar? c with
    | some a => ((none, some a), [])
    | none => ((none, none), [c])
  | [] => ((none, none), [])

/-- the separator of the digits at the front of a text, and what follows it -/
def separator? : Text → Except LayoutError (Option Char × Text)
  | ',' :: '_' :: _ => .error .twoSeparators
  | '_' :: ',' :: _ => .error .twoSeparators
  | t => .ok (oneOf? [',', '_'] t)

/-- the precision at the front of a text, and what follows it -/
def precision? : Text → Except LayoutError (Option Nat × Text)
  | '.' :: t => do
    let (n, rest) ← number? t
    if n.isNone then .error .noPrecision else .ok (n, rest)
  | t => .ok (none, t)

/-- a type that numbers with separated digits may have -/
def separable (separator type : Char) : Bool :=
  ['d', 'e', 'f', 'g', 'E', 'G', '%', 'F'].contains type || (separator == '_' && ['b', 'o', 'x', 'X'].contains type)

/-- the layout that a text describes, for values of a kind whose own type is `standard` -/
def read (kind : Text) (standard : Char) (t : Text) : Except LayoutError Layout := do
  let ((fill, alignment), rest) := placing t
  let (sign, rest) := oneOf? ['+', '-', ' '] rest
  let (unsignedZero, rest) := oneOf? ['z'] rest
  let (marked, rest) := oneOf? ['#'] rest
  let (zero, rest) := if fill.isNone then oneOf? ['0'] rest else (none, rest)
  let (width, rest) ← number? rest
  let (separator, rest) ← separator? rest
  let (precision, rest) ← precision? rest
  if 1 < rest.length then throw (.malformed t kind)
  let type := rest.head?
  if let some s := separator then
    if !separable s (type.getD standard) then throw (.separated s (type.getD standard))
  return { fill := fill.getD (if zero.isSome then '0' else ' '), alignment, sign, unsignedZero := unsignedZero.isSome,
           marked := marked.isSome, zeros := zero.isSome, width, separator, precision, type }

/-! ## Setting -/

/-- text with a filling that makes it as wide as the layout asks; `front` stays in front of a filling inside -/
def pad (l : Layout) (standard : Alignment) (front t : Text) : Text :=
  let missing := l.width.getD 0 - (front.length + t.length)
  let filling := fun n => List.replicate n l.fill
  match l.alignment.getD standard with
  | .left => front ++ t ++ filling missing
  | .right => filling missing ++ front ++ t
  | .centre => filling (missing / 2) ++ front ++ t ++ filling (missing - missing / 2)
  | .inside => front ++ filling missing ++ t

/-- the first thing that a layout asks for and a text cannot have -/
def textMisfit? (l : Layout) : Option String :=
  if l.sign = some ' ' then some "Space not allowed in string format specifier"
  else if l.sign.isSome then some "Sign not allowed in string format specifier"
  else if l.unsignedZero then some "Negative zero coercion (z) not allowed in string format specifier"
  else if l.marked then some "Alternate form (#) not allowed in string format specifier"
  else if l.alignment = some .inside then some "'=' alignment not allowed in string format specifier"
  else none

/-- a text in its layout; a precision is the most characters that are kept -/
def setText (l : Layout) (t : Text) : Except LayoutError Text :=
  if let some type := l.type.filter (· != 's') then .error (.unknownType type "str".toList)
  else match l.textMisfit? with
    | some what => .error (.notPermitted what)
    | none => .ok (l.pad .left [] ((l.precision.map (t.take ·)).getD t))

/-- digits, least significant first, in groups of a size with `separator` between them; zeros are added until the whole is
`least` characters wide -/
def grouped (size : Nat) (separator : Char) (least : Nat) (digits : Text) : Text :=
  let n := max 1 (min size (max digits.length least))
  let group := digits.take n ++ List.replicate (n - digits.length) '0'
  if _h : digits.length ≤ n ∧ least ≤ n then group
  else group ++ separator :: grouped size separator (least - n - 1) (digits.drop n)
termination_by digits.length + least
decreasing_by
  have hn : 1 ≤ n := Nat.le_max_left ..
  simp only [List.length_drop]
  omega

/-- the digits of a number in the base of a type, and the mark of the base -/
def digitsOf (type : Char) (n : Nat) : Text × Text :=
  match type with
  | 'b' => (Nat.toDigits 2 n, ['0', 'b'])
  | 'o' => (Nat.toDigits 8 n, ['0', 'o'])
  | 'x' => (Nat.toDigits 16 n, ['0', 'x'])
  | 'X' => ((Nat.toDigits 16 n).map Char.toUpper, ['0', 'X'])
  | _ => (Nat.toDigits 10 n, [])

/-- the sign in front of a number -/
def signOf (l : Layout) (n : Int) : Text :=
  if n < 0 then ['-']
  else match l.sign with
    | some '+' => ['+']
    | some ' ' => [' ']
    | _ => []

/-- the alignment of numbers -/
def numberAlignment (l : Layout) : Alignment := if l.zeros then .inside else .right

/-- the first thing that a layout asks for and a number cannot have -/
def numberMisfit? (l : Layout) : Option String :=
  if l.precision.isSome then some "Precision not allowed in integer format specifier"
  else if l.unsignedZero then some "Negative zero coercion (z) not allowed in integer format specifier"
  else if l.type = some 'c' then
    if l.sign.isSome then some "Sign not allowed with integer format specifier 'c'"
    else if l.marked then some "Alternate form (#) not allowed with integer format specifier 'c'"
    else none
  else none

/-- the types that whole numbers may have -/
def numberTypes : List Char := ['b', 'c', 'd', 'n', 'o', 'x', 'X']

/-- the digits of a number in groups, least significant first, where `front` stands before it -/
def separated (l : Layout) (separator type : Char) (front digits : Text) : Text :=
  let inside := decide (l.fill = '0' ∧ l.alignment.getD l.numberAlignment = Alignment.inside)
  let least := if inside then l.width.getD 0 - front.length else 0
  grouped (if ['b', 'o', 'x', 'X'].contains type then 4 else 3) separator least digits

/-- a number in its layout, where `kind` is what messages call it -/
def setNumber (l : Layout) (kind : Text) (n : Int) : Except LayoutError Text :=
  let type := l.type.getD 'd'
  if numberTypes.contains type then
    match l.numberMisfit? with
    | some what => .error (.notPermitted what)
    | none =>
      if type = 'c' then
        if 0 ≤ n ∧ n < 0x110000 then .ok (l.pad l.numberAlignment [] [Char.ofNat n.toNat]) else .error (.noCharacter n)
      else
        let (digits, mark) := digitsOf type n.natAbs
        let front := l.signOf n ++ (if l.marked then mark else [])
        let digits := match l.separator with
          | none => digits
          | some s => (l.separated s type front digits.reverse).reverse
        .ok (l.pad l.numberAlignment front digits)
  else .error (.unknownType type kind)

end Layout

/-- a value in the layout that a text describes; the empty text describes its plain form -/
def Value.set (v : Value) (layout : Text) : Except LayoutError Text :=
  if layout = [] then .ok v.plain
  else match v with
    | .text t => do (← Layout.read v.kind 's' layout).setText t
    | .number n => do (← Layout.read v.kind 'd' layout).setNumber v.kind n
    | .truth holds => do (← Layout.read v.kind 'd' layout).setNumber v.kind (if holds then 1 else 0)
    | .fraction digits => do return (← Layout.read v.kind 'd' layout).pad .right [] digits
    | _ => .error (.noLayouts v.kind)

end Transclude.Log
