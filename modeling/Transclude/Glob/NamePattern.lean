/-
Patterns of names: a star for any run of characters, a question mark for one character, and a set of characters in
brackets. A set may hold ranges and may be negated by an exclamation mark; a bracket that is not closed stands for itself.
-/
import Transclude.Text.Basic

namespace Transclude.Glob

/-- the characters between the ends of ranges; the last one of a chunk and the first one of the next are a range -/
abbrev Chunks := List Text

/-- a piece of a pattern -/
inductive Piece where
  | char (c : Char)
  | any
  | run
  | set (negated : Bool) (chunks : Chunks)
  /-- a set without characters -/
  | nothing
deriving DecidableEq, Repr

/-! ## Sets -/

/-- the inside of a set and what follows it; a closing bracket at the front is a character of the set -/
def setBody? (t : Text) : Option (Text × Text) :=
  let (front, t) : Text × Text := match t with
    | '!' :: ']' :: t => (['!', ']'], t)
    | '!' :: t => (['!'], t)
    | ']' :: t => ([']'], t)
    | t => ([], t)
  (Text.upTo? ']' t).map fun (inner, after) => (front ++ inner, after)

/-- the inside of a set cut at the hyphens that make ranges; the first `skip` characters are no such hyphens -/
def cutRanges (skip : Nat) (t : Text) : Chunks :=
  match _h : (t.drop skip).dropWhile (· != '-') with
  | [] => [t]
  | _ :: rest => (t.take skip ++ (t.drop skip).takeWhile (· != '-')) :: cutRanges 2 rest
termination_by t.length
decreasing_by
  have h₁ := (List.dropWhile_sublist (fun c => c != '-') (l := t.drop skip)).length_le
  rw [_h] at h₁
  simp only [List.length_cons, List.length_drop] at h₁
  omega

/-- a hyphen at the end of a set makes no range -/
def closeRanges : Chunks → Chunks
  | [chunk, []] => [chunk ++ ['-']]
  | chunk :: chunks => chunk :: closeRanges chunks
  | [] => []

/-- a range whose ends are in the wrong order has no characters and goes with its ends -/
def dropEmptyRanges : Chunks → Chunks
  | [] => []
  | chunk :: chunks =>
    match dropEmptyRanges chunks with
    | [] => [chunk]
    | next :: rest =>
      match chunk.getLast?, next.head? with
      | some low, some high => if high < low then (chunk.dropLast ++ next.tail) :: rest else chunk :: next :: rest
      | _, _ => chunk :: next :: rest

/-- the set with this inside -/
def setPiece (inner : Text) : Piece :=
  match dropEmptyRanges (closeRanges (cutRanges (if inner.head? = some '!' then 2 else 1) inner)) with
  | [] | [[]] => .nothing
  | [['!']] => .any
  | ('!' :: chunk) :: chunks => .set true (chunk :: chunks)
  | chunks => .set false chunks

/-- the character is in one of the ranges -/
def inRange (c : Char) : Chunks → Bool
  | chunk :: next :: rest =>
    (match chunk.getLast?, next.head? with
      | some low, some high => low ≤ c && c ≤ high
      | _, _ => false) || inRange c (next :: rest)
  | _ => false

/-- the character is in the set -/
def inSet (c : Char) (chunks : Chunks) : Bool := chunks.any (·.contains c) || inRange c chunks

/-! ## Patterns -/

theorem length_setBody?_lt {t inner after : Text} (h : setBody? t = some (inner, after)) : after.length < t.length := by
  simp only [setBody?, Option.map_eq_some_iff, Prod.mk.injEq, Prod.exists] at h
  obtain ⟨inner', after', h, -, rfl⟩ := h
  have := Text.length_upTo?_lt h
  split at this <;> simp only [List.length_cons] at * <;> omega

/-- the pieces of a pattern -/
def pieces (t : Text) : List Piece :=
  match t with
  | [] => []
  | c :: rest =>
    if c = '*' then .run :: pieces rest
    else if c = '?' then .any :: pieces rest
    else if c = '[' then
      match _h : setBody? rest with
      | none => .char '[' :: pieces rest
      | some (inner, after) => setPiece inner :: pieces after
    else .char c :: pieces rest
termination_by t.length
decreasing_by
  · simp
  · simp
  · simp
  · have := length_setBody?_lt _h
    simp only [List.length_cons]
    omega
  · simp

/-- the piece stands for the character -/
def Piece.accepts (c : Char) : Piece → Bool
  | .char d => c == d
  | .any | .run => true
  | .set negated chunks => inSet c chunks != negated
  | .nothing => false

/-- the pieces stand for the whole name -/
def accepts : List Piece → Text → Bool
  | [], t => t.isEmpty
  | .run :: ps, t => accepts ps t || (match t with
    | [] => false
    | _ :: t => accepts (.run :: ps) t)
  | p :: ps, c :: t => p.accepts c && accepts ps t
  | _ :: _, [] => false
termination_by ps t => ps.length + t.length

end Transclude.Glob
