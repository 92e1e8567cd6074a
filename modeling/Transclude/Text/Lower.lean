/-
Full lower-casing. Nearly every capital has one lower-case partner at a fixed distance; a capital I with a dot becomes
two characters, and a capital sigma becomes the final form when it ends a word: a letter stands before it and none
after it, where characters without case of their own, such as marks and apostrophes, are passed over.
-/
import Transclude.Text.CaseTable

namespace Transclude.Text

/-- the lower-case partner of a character, by the table of runs -/
def lowerChar (c : Char) : Char :=
  let n := c.toNat
  match lowerRuns.find? fun r => r.1 ≤ n && n ≤ r.2.1 && (n - r.1) % r.2.2.1 == 0 with
  | some r => Char.ofNat (Int.toNat (n + r.2.2.2))
  | none => c

/-- the character has case and counts when case is looked for -/
def isCased (c : Char) : Bool := inRanges casedRanges c.toNat

/-- the character is passed over when case is looked for -/
def isCaseIgnorable (c : Char) : Bool := inRanges caseIgnorableRanges c.toNat

/-- the first character that is not passed over has case -/
def startsCased (t : Text) : Bool :=
  match t.dropWhile isCaseIgnorable with
  | [] => false
  | c :: _ => isCased c

/-- lower-casing of `t`, where `before` is the text in front of it, last character first -/
def lowerFrom (before : Text) : Text → Text
  | [] => []
  | c :: rest =>
    let lowered :=
      if c = 'Σ' then [if startsCased before && !startsCased rest then 'ς' else 'σ']
      else if c = 'İ' then ['i', '\u0307']
      else if c.val < 0x80 then [c.toLower]
      else [lowerChar c]
    lowered ++ lowerFrom (c :: before) rest

/-- the text in lower case -/
def lower (t : Text) : Text := lowerFrom [] t

end Transclude.Text
