/-
The encodings that files are read and written in. Reading stops at the first octets that stand for no character;
`DecodingError` says where they are and why. `lineEnds` is applied to every text that is read, so that a line ends in a
single line feed whatever the file has there.
-/
import Transclude.Numeral
import Transclude.Text.Quoted

namespace Transclude

/-- a way to read octets as text -/
inductive Encoding where
  | utf8
  /-- UTF-8 where a mark at the front of the file is not part of its text -/
  | utf8Marked
  | ascii
  | latin1
deriving DecidableEq, Repr

/-- the name of an encoding in messages -/
def Encoding.name : Encoding → Text
  | .utf8 => "utf-8".toList
  | .utf8Marked => "utf-8-sig".toList
  | .ascii => "ascii".toList
  | .latin1 => "latin-1".toList

/-- why some octets stand for no character -/
inductive DecodingReason where
  | invalidStart
  | invalidContinuation
  | unexpectedEnd
  | outOfRange
deriving DecidableEq, Repr

/-- the explanation that goes with a reason -/
def DecodingReason.message : DecodingReason → Text
  | .invalidStart => "invalid start byte".toList
  | .invalidContinuation => "invalid continuation byte".toList
  | .unexpectedEnd => "unexpected end of data".toList
  | .outOfRange => "ordinal not in range(128)".toList

/-- octets that stand for no character: the number of octets before them, how many they are, and the first of them -/
structure DecodingError where
  start : Nat
  length : Nat
  first : UInt8
  reason : DecodingReason
deriving DecidableEq, Repr

/-- the explanation that goes with octets that cannot be read in an encoding -/
def DecodingError.message (encoding : Encoding) (e : DecodingError) : Text :=
  Text.quoted encoding.name ++ " codec can't decode ".toList ++
    (if e.length = 1 then
      "byte 0x".toList ++ Text.hexDigits 2 e.first.toNat ++ " in position ".toList ++ Numeral.print e.start
    else
      "bytes in position ".toList ++ Numeral.print e.start ++ ['-'] ++ Numeral.print (e.start + e.length - 1 : Nat)) ++
    ": ".toList ++ e.reason.message

namespace Encoding

/-! ## UTF-8 -/

/-- a character that was begun: how many octets it still needs, and between which values the next one is -/
structure Lead where
  missing : Nat
  low : UInt8 := 0x80
  high : UInt8 := 0xBF
  /-- the bits of the character that its first octet gives -/
  bits : Nat
deriving DecidableEq, Repr

/-- what the first octet of a character of several octets says about the rest of it -/
def lead? (b : UInt8) : Option Lead :=
  if b < 0xC2 then none
  else if b < 0xE0 then some { missing := 1, bits := b.toNat - 0xC0 }
  else if b = 0xE0 then some { missing := 2, low := 0xA0, bits := 0 }
  else if b = 0xED then some { missing := 2, high := 0x9F, bits := 0xD }
  else if b < 0xF0 then some { missing := 2, bits := b.toNat - 0xE0 }
  else if b = 0xF0 then some { missing := 3, low := 0x90, bits := 0 }
  else if b = 0xF4 then some { missing := 3, high := 0x8F, bits := 4 }
  else if b < 0xF4 then some { missing := 3, bits := b.toNat - 0xF0 }
  else none

/-- reads the octets that a character still needs: its value and what follows it, or how many of them are good -/
def finish (bits : Nat) (low high : UInt8) : (missing : Nat) → List UInt8 → Except (Nat × DecodingReason) (Nat × List UInt8)
  | 0, octets => .ok (bits, octets)
  | _ + 1, [] => .error (0, .unexpectedEnd)
  | missing + 1, b :: octets =>
    if low ≤ b ∧ b ≤ high then
      match finish (64 * bits + (b.toNat - 0x80)) 0x80 0xBF missing octets with
      | .ok r => .ok r
      | .error (good, reason) => .error (good + 1, reason)
    else .error (0, .invalidContinuation)

theorem length_finish_le {bits missing value : Nat} {low high : UInt8} {octets rest : List UInt8}
    (h : finish bits low high missing octets = .ok (value, rest)) : rest.length ≤ octets.length := by
  induction missing generalizing bits low high octets with
  | zero =>
    simp only [finish, Except.ok.injEq, Prod.mk.injEq] at h
    exact h.2 ▸ Nat.le_refl _
  | succ missing ih =>
    cases octets with
    | nil => simp [finish] at h
    | cons b octets =>
      simp only [finish] at h
      split at h
      · split at h
        · next r hr =>
          simp only [Except.ok.injEq] at h
          subst h
          have := ih hr
          simp only [List.length_cons]
          omega
        · simp at h
      · simp at h

/-- the text of octets in UTF-8, where `start` octets are before them -/
def utf8From (start : Nat) : List UInt8 → Except DecodingError Text
  | [] => .ok []
  | b :: octets =>
    if b < 0x80 then (utf8From (start + 1) octets).map (Char.ofNat b.toNat :: ·)
    else match lead? b with
      | none => .error ⟨start, 1, b, .invalidStart⟩
      | some lead =>
        match _h : finish lead.bits lead.low lead.high lead.missing octets with
        | .error (good, reason) => .error ⟨start, good + 1, b, reason⟩
        | .ok (value, rest) => (utf8From (start + 1 + lead.missing) rest).map (Char.ofNat value :: ·)
termination_by octets => octets.length
decreasing_by
  · simp
  · have := length_finish_le (by assumption)
    simp only [List.length_cons]
    omega

/-- the mark of UTF-8 -/
def mark : List UInt8 := [0xEF, 0xBB, 0xBF]

/-- the text of octets in UTF-8 after the mark; a file that ends inside the mark is empty -/
def utf8AfterMark (octets : List UInt8) : Except DecodingError Text :=
  match octets with
  | 0xEF :: 0xBB :: 0xBF :: rest => utf8From 0 rest
  | [0xEF, 0xBB] | [0xEF] => .ok []
  | octets => utf8From 0 octets

/-! ## One octet for each character -/

/-- the text of octets, where no octet may be `limit` or above -/
def singleFrom (limit start : Nat) : List UInt8 → Except DecodingError Text
  | [] => .ok []
  | b :: octets =>
    if b.toNat < limit then (singleFrom limit (start + 1) octets).map (Char.ofNat b.toNat :: ·)
    else .error ⟨start, 1, b, .outOfRange⟩

/-! ## Files -/

/-- the text of octets in an encoding -/
def decode : Encoding → List UInt8 → Except DecodingError Text
  | .utf8 => utf8From 0
  | .utf8Marked => utf8AfterMark
  | .ascii => singleFrom 128 0
  | .latin1 => singleFrom 256 0

/-- the text of a file, with line feeds at the ends of lines -/
def readText (encoding : Encoding) (octets : List UInt8) : Except DecodingError Text :=
  (encoding.decode octets).map Text.unifyLines

/-- a text in UTF-8 -/
def encodeText (t : Text) : List UInt8 := t.flatMap String.utf8EncodeChar

end Encoding

end Transclude
