/-
Text is a list of code points, and offsets into text count code points.

This module holds the few operations on text that the rest of the library shares: cutting at a separator and joining
again (`join_split`: joining what was cut gives the text back), trimming, searching for a fragment, and membership in a
table of code point ranges.
-/

namespace Transclude

/-- text: a list of code points -/
abbrev Text := List Char

namespace Text

/-! ## Cutting and joining -/

/-- the pieces between the occurrences of `sep`; there is always one piece more than there are separators -/
def split (sep : Char) : Text → List Text
  | [] => [[]]
  | c :: rest =>
    if c = sep then [] :: split sep rest
    else match split sep rest with
      | [] => [[c]]
      | piece :: pieces => (c :: piece) :: pieces

/-- the pieces with `sep` written between neighbours -/
def join (sep : Text) : List Text → Text
  | [] => []
  | [piece] => piece
  | piece :: next :: pieces => piece ++ sep ++ join sep (next :: pieces)

theorem split_ne_nil (sep : Char) (t : Text) : split sep t ≠ [] := by
  cases t with
  | nil => simp [split]
  | cons c rest =>
    simp only [split]
    split
    · simp
    · split <;> simp

/-- nothing is lost by cutting a text at a separator -/
theorem join_split (sep : Char) (t : Text) : join [sep] (split sep t) = t := by
  induction t with
  | nil => rfl
  | cons c rest ih =>
    have hne := split_ne_nil sep rest
    simp only [split]
    cases hs : split sep rest with
    | nil => exact absurd hs hne
    | cons piece pieces =>
      rw [hs] at ih
      split
      · next h => subst h; simp [join, ih]
      · cases pieces with
        | nil => simpa [join] using ih
        | cons next pieces => simpa [join] using ih

/-- text before the last occurrence of `sep`, and text after it, if it occurs -/
def splitLast? (sep : Char) (t : Text) : Option (Text × Text) :=
  let after := t.reverse.takeWhile (· != sep)
  match t.reverse.drop after.length with
  | [] => none
  | _ :: before => some (before.reverse, after.reverse)

/-! ## Trimming -/

/-- the text without the characters of a class at its front -/
def trimLeft (p : Char → Bool) (t : Text) : Text := t.dropWhile p

/-- the text without the characters of a class at its end -/
def trimRight (p : Char → Bool) (t : Text) : Text := (t.reverse.dropWhile p).reverse

/-- the text without the characters of a class at both ends -/
def trim (p : Char → Bool) (t : Text) : Text := trimRight p (trimLeft p t)

/-! ## Searching -/

/-- what follows `head`, if the text starts with it -/
def after? : Text → Text → Option Text
  | [], t => some t
  | _ :: _, [] => none
  | h :: head, c :: t => if h = c then after? head t else none

theorem eq_append_of_after? {head t rest : Text} (h : after? head t = some rest) : t = head ++ rest := by
  induction head generalizing t with
  | nil => simpa [after?] using h
  | cons c head ih =>
    cases t with
    | nil => simp [after?] at h
    | cons d t =>
      simp only [after?] at h
      split at h
      · next hc => rw [hc, ih h, List.cons_append]
      · simp at h

/-- the text starts with `head` -/
def startsWith (head t : Text) : Bool := (after? head t).isSome

/-- the characters in front of the first closing one, and what follows it -/
def upTo? (close : Char) (t : Text) : Option (Text × Text) :=
  match t.dropWhile (· != close) with
  | [] => none
  | _ :: rest => some (t.takeWhile (· != close), rest)

theorem eq_append_of_upTo? {close : Char} {t inner rest : Text} (h : upTo? close t = some (inner, rest)) :
    t = inner ++ close :: rest := by
  unfold upTo? at h
  split at h
  · simp at h
  · next c rest' hd =>
    have hc : c = close := by
      have := List.head?_dropWhile_not (· != close) t
      simpa [hd] using this
    have ht := List.takeWhile_append_dropWhile (p := (· != close)) (l := t)
    simp only [Option.some.injEq, Prod.mk.injEq] at h
    rw [← ht, hd, h.1, h.2, hc]

theorem length_upTo?_lt {close : Char} {t inner rest : Text} (h : upTo? close t = some (inner, rest)) :
    rest.length < t.length := by
  have := congrArg List.length (eq_append_of_upTo? h)
  simp only [List.length_append, List.length_cons] at this
  omega

theorem length_after?_le {head t rest : Text} (h : after? head t = some rest) : rest.length ≤ t.length := by
  have := congrArg List.length (eq_append_of_after? h)
  simp only [List.length_append] at this
  omega

/-- `part` occurs somewhere in the text -/
def occurs (part : Text) : Text → Bool
  | [] => part.isEmpty
  | c :: t => startsWith part (c :: t) || occurs part t

/-- the text with every line break of the forms CR LF and CR turned into LF -/
def unifyLines : Text → Text
  | [] => []
  | '\r' :: '\n' :: rest => '\n' :: unifyLines rest
  | c :: rest => (if c = '\r' then '\n' else c) :: unifyLines rest

/-! ## Order -/

/-- the order of texts by the code points of their characters -/
def le : Text → Text → Bool
  | [], _ => true
  | _ :: _, [] => false
  | c :: s, d :: t => c < d || (c == d && le s t)

/-! ## Ranges of code points -/

/-- membership in a table of inclusive ranges -/
def inRanges (ranges : List (Nat × Nat)) (n : Nat) : Bool := ranges.any fun r => r.1 ≤ n && n ≤ r.2

/-- a letter of the Latin alphabet without marks -/
def isAsciiLetter (c : Char) : Bool := ('a' ≤ c && c ≤ 'z') || ('A' ≤ c && c ≤ 'Z')

/-- a digit from 0 to 9 -/
def isAsciiDigit (c : Char) : Bool := '0' ≤ c && c ≤ '9'

end Text

end Transclude
