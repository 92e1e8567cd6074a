/-
The composed normal form of text. Characters are taken apart as far as they go, the marks of each letter are brought
into the order of their combining classes, and what can be composed is put together again.

Syllables of the Korean alphabet are composed by arithmetic on their code points; everything else goes by table.
-/
import Transclude.Text.CompositionTable

namespace Transclude.Text

/-! ## Korean syllables -/

/-- first syllable, and the first leading consonant, vowel and trailing consonant (one before the first) -/
def syllableBase : Nat := 0xAC00
def leadBase : Nat := 0x1100
def vowelBase : Nat := 0x1161
def trailBase : Nat := 0x11A7

/-- the letters of a syllable -/
def splitSyllable? (n : Nat) : Option (List Nat) :=
  if syllableBase ≤ n ∧ n < syllableBase + 11172 then
    let i := n - syllableBase
    let trail := i % 28
    let letters := [leadBase + i / 588, vowelBase + i % 588 / 28]
    some (if trail = 0 then letters else letters ++ [trailBase + trail])
  else none

/-- the syllable of a leading consonant and a vowel, or of an open syllable and a trailing consonant -/
def joinSyllable? (a b : Nat) : Option Nat :=
  if leadBase ≤ a ∧ a < leadBase + 19 ∧ vowelBase ≤ b ∧ b < vowelBase + 21 then
    some (syllableBase + ((a - leadBase) * 21 + (b - vowelBase)) * 28)
  else if syllableBase ≤ a ∧ a < syllableBase + 11172 ∧ (a - syllableBase) % 28 = 0 ∧ trailBase < b ∧
      b < trailBase + 28 then
    some (a + (b - trailBase))
  else none

/-! ## One step of decomposition and composition -/

/-- the combining class: zero for characters that start a new group -/
def combiningClass (n : Nat) : Nat :=
  if n < 0x300 then 0
  else ((combiningRanges.find? fun r => r.1 ≤ n && n ≤ r.2.1).map (·.2.2)).getD 0

/-- the parts of a character that the tables take apart, one level deep -/
def splitOnce? (n : Nat) : Option (List Nat) :=
  if n < 0xC0 then none
  else match composedPairs.find? fun r => r.1 == n with
    | some r => some [r.2.1, r.2.2]
    | none =>
      match replacedSingles.find? fun r => r.1 == n with
      | some r => some [r.2]
      | none => (decomposedPairs.find? fun r => r.1 == n).map fun r => [r.2.1, r.2.2]

/-- the character composed of two -/
def joinPair? (a b : Nat) : Option Nat :=
  match joinSyllable? a b with
  | some n => some n
  | none => (composedPairs.find? fun r => r.2.1 == a && r.2.2 == b).map (·.1)

/-! ## The three passes -/

/-- a character taken apart; no character of the tables is nested more than four levels deep -/
def decomposeChar : Nat → Nat → List Nat
  | 0, n => [n]
  | depth + 1, n =>
    match splitSyllable? n with
    | some letters => letters
    | none =>
      match splitOnce? n with
      | some parts => parts.flatMap (decomposeChar depth)
      | none => [n]

/-- inserts a mark in front of the marks of a higher class that end the reversed text -/
def insertMark (n : Nat) : List Nat → List Nat
  | [] => [n]
  | last :: before =>
    if combiningClass n < combiningClass last then last :: insertMark n before else n :: last :: before

/-- marks in the order of their classes; marks of one class keep their order -/
def orderMarks (ns : List Nat) : List Nat :=
  (ns.foldl (fun done n => if combiningClass n = 0 then n :: done else insertMark n done) []).reverse

/-- the state of composition: finished text (last first), the letter that marks join, the marks that stay behind it -/
structure Composing where
  done : List Nat := []
  letter : Option Nat := none
  marks : List Nat := []

/-- one character joins the letter unless a mark of the same or a higher class stands between them -/
def Composing.step (s : Composing) (n : Nat) : Composing :=
  let k := combiningClass n
  match s.letter with
  | none => if k = 0 then { s with letter := some n } else { s with done := n :: s.done }
  | some letter =>
    let blocked := match s.marks with
      | [] => false
      | m :: _ => k ≤ combiningClass m
    match if blocked then none else joinPair? letter n with
    | some joined => { s with letter := some joined }
    | none =>
      if k = 0 then { done := s.marks ++ letter :: s.done, letter := some n, marks := [] }
      else { s with marks := n :: s.marks }

/-- the finished text, first character first -/
def Composing.result (s : Composing) : List Nat :=
  (s.marks ++ (s.letter.toList ++ s.done)).reverse

/-- the composed normal form -/
def composed (t : Text) : Text :=
  let marks := orderMarks (t.flatMap fun c => decomposeChar 4 c.toNat)
  ((marks.foldl Composing.step {}).result).map Char.ofNat

end Transclude.Text
