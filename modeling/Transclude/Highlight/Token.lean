/-
The tokens of a directive's source text, and the lexer that finds them.

The lexer knows two modes: prose, and the text between the braces of a directive. Each step takes at least one character,
so that it ends on every text; `flatten_lexFrom` says that the tokens together are the text.
-/
import Transclude.Directive.Bounds
import Transclude.Directive.Shape
import Transclude.Highlight.Prepared

namespace Transclude.Highlight

/-- what a token is -/
inductive TokenKind where
  | text
  | blank
  | punctuation
  | key
  | path
  | keyword
  | integer
  | operator
deriving DecidableEq, Repr

/-- a piece of text and what it is -/
structure Token where
  kind : TokenKind
  text : Text
deriving DecidableEq, Repr

/-- where the lexer stands: in prose, or between the braces of a directive -/
inductive Mode where
  | prose
  | options
deriving DecidableEq, Repr

namespace Token

open Directive

/-- a character of prose that begins nothing -/
def isPlain (c : Char) : Bool := !(c == '@' || c == '"' || c == '{' || Text.isBlank c)

/-- a character between braces that ends nothing -/
def isInterior (c : Char) : Bool := !(c == '}' || Text.isBlank c)

/-- the run of characters of a class that a text starts with, as a token behind a first character -/
def run (kind : TokenKind) (p : Char → Bool) (c : Char) (t : Text) : Token × Text :=
  (⟨kind, c :: t.takeWhile p⟩, t.dropWhile p)

/-- the tokens among some that are not empty -/
def nonEmpty (ts : List Token) : List Token := ts.filter fun t => !t.text.isEmpty

/-- one step in prose, where `c` is the first character and `t` what follows it -/
def proseStep (c : Char) (t : Text) : Mode × List Token × Text :=
  if c = '@' then
    match Text.after? keyword.tail t with
    | some rest => if Text.boundaryBefore rest then (.prose, [⟨.keyword, keyword⟩], rest) else (.prose, [⟨.text, [c]⟩], t)
    | none => (.prose, [⟨.text, [c]⟩], t)
  else if c = '"' then
    match Text.upTo? '"' t with
    | some (inner, rest) => (.prose, [⟨.path, '"' :: (inner ++ ['"'])⟩], rest)
    | none => (.prose, [⟨.text, [c]⟩], t)
  else if c = '{' then (.options, [⟨.punctuation, [c]⟩], t)
  else
    let r := if Text.isBlank c then run .blank Text.isBlank c t else run .text isPlain c t
    (.prose, [r.1], r.2)

/-- the integer behind an equals sign and blanks, if no word character follows it: the blanks, the integer, the rest -/
def integer? (t : Text) : Option (Text × Text × Text) :=
  let gap := t.takeWhile Text.isBlank
  let after := t.dropWhile Text.isBlank
  (Bounds.integer? after).bind fun digits =>
    let rest := after.drop digits.length
    if Text.boundaryBefore rest then some (gap, digits, rest) else none

/-- the assignment that a text between braces starts with: a key, an equals sign, and an integer if there is one -/
def assignment? (c : Char) (t : Text) : Option (List Token × Text) :=
  if Bounds.isKeyChar c then
    let key := c :: t.takeWhile Bounds.isKeyChar
    let after := t.dropWhile Bounds.isKeyChar
    let gap := after.takeWhile Text.isBlank
    match after.dropWhile Text.isBlank with
    | '=' :: value =>
      let head : List Token := [⟨.key, key⟩, ⟨.blank, gap⟩, ⟨.operator, ['=']⟩]
      match integer? value with
      | some (gap, digits, rest) => some (nonEmpty (head ++ [⟨.blank, gap⟩, ⟨.integer, digits⟩]), rest)
      | none => some (nonEmpty head, value)
    | _ => none
  else none

/-- one step between braces, where `c` is the first character and `t` what follows it -/
def optionsStep (c : Char) (t : Text) : Mode × List Token × Text :=
  if c = '}' then (.prose, [⟨.punctuation, [c]⟩], t)
  else if Text.isBlank c then
    let r := run .blank Text.isBlank c t
    (.options, [r.1], r.2)
  else
    match assignment? c t with
    | some (tokens, rest) => (.options, tokens, rest)
    | none =>
      let r := run .text isInterior c t
      (.options, [r.1], r.2)

/-- one step: the mode after it, the tokens found, and the text that is left -/
def step : Mode → Char → Text → Mode × List Token × Text
  | .prose => proseStep
  | .options => optionsStep

/-- all characters of some tokens -/
def flatten (ts : List Token) : Text := ts.flatMap Token.text

/-! ## A step neither loses nor stalls -/

theorem flatten_nonEmpty (ts : List Token) : flatten (nonEmpty ts) = flatten ts := by
  induction ts with
  | nil => rfl
  | cons a ts ih =>
    simp only [flatten, nonEmpty, List.flatMap_cons] at ih ⊢
    by_cases h : a.text.isEmpty
    · have : a.text = [] := by simpa using h
      rw [List.filter_cons_of_neg (by simp [h]), ih, this, List.nil_append]
    · rw [List.filter_cons_of_pos (by simp [h]), List.flatMap_cons, ih]

theorem flatten_run (kind : TokenKind) (p : Char → Bool) (c : Char) (t : Text) :
    flatten [(run kind p c t).1] ++ (run kind p c t).2 = c :: t := by
  simp [flatten, run]

theorem flatten_proseStep (c : Char) (t : Text) :
    flatten (proseStep c t).2.1 ++ (proseStep c t).2.2 = c :: t := by
  unfold proseStep
  split
  · next hc =>
    split
    · next rest h =>
      split
      · rw [Text.eq_append_of_after? h, hc]
        simp [flatten, keyword]
      · simp [flatten]
    · simp [flatten]
  · split
    · next hc =>
      split
      · next inner rest h =>
        rw [Text.eq_append_of_upTo? h, hc]
        simp [flatten]
      · simp [flatten]
    · split
      · simp [flatten]
      · dsimp only
        split
        · exact flatten_run .blank Text.isBlank c t
        · exact flatten_run .text isPlain c t

theorem integer?_eq_take {t digits : Text} (h : Bounds.integer? t = some digits) :
    t.take digits.length = digits := by
  have takeRun (u : Text) : u.take (u.takeWhile Text.isDigit).length = u.takeWhile Text.isDigit :=
    (List.prefix_iff_eq_take.1 (List.takeWhile_prefix _)).symm
  unfold Bounds.integer? at h
  split at h
  · next u =>
    split at h
    · simp at h
    · simp only [Option.some.injEq] at h
      subst h
      simp [takeRun]
  · split at h
    · simp at h
    · simp only [Option.some.injEq] at h
      subst h
      exact takeRun t

theorem eq_append_of_integer? {t gap digits rest : Text} (h : integer? t = some (gap, digits, rest)) :
    t = gap ++ (digits ++ rest) := by
  unfold integer? at h
  dsimp only at h
  obtain ⟨ds, hd, he⟩ := Option.bind_eq_some_iff.1 h
  split at he
  · simp only [Option.some.injEq, Prod.mk.injEq] at he
    have ht := List.takeWhile_append_dropWhile (p := Text.isBlank) (l := t)
    have hs := List.take_append_drop ds.length (t.dropWhile Text.isBlank)
    rw [integer?_eq_take hd] at hs
    rw [← he.1, ← he.2.1, ← he.2.2, hs, ht]
  · simp at he

theorem flatten_assignment? {c : Char} {t rest : Text} {ts : List Token} (h : assignment? c t = some (ts, rest)) :
    flatten ts ++ rest = c :: t := by
  unfold assignment? at h
  split at h
  · dsimp only at h
    have hk := List.takeWhile_append_dropWhile (p := Bounds.isKeyChar) (l := t)
    have hg := List.takeWhile_append_dropWhile (p := Text.isBlank) (l := t.dropWhile Bounds.isKeyChar)
    split at h
    · next value hv =>
      rw [hv] at hg
      split at h
      · next gap digits rest' hi =>
        simp only [Option.some.injEq, Prod.mk.injEq] at h
        rw [← h.1, ← h.2, flatten_nonEmpty]
        have hi := eq_append_of_integer? hi
        simp only [flatten, List.flatMap_cons, List.flatMap_nil, List.append_nil, List.cons_append, List.append_assoc, List.nil_append]
        rw [← hi, hg, hk]
      · simp only [Option.some.injEq, Prod.mk.injEq] at h
        rw [← h.1, ← h.2, flatten_nonEmpty]
        simp only [flatten, List.flatMap_cons, List.flatMap_nil, List.append_nil, List.cons_append,
          List.append_assoc, List.nil_append]
        rw [hg, hk]
    · simp at h
  · simp at h

theorem flatten_optionsStep (c : Char) (t : Text) :
    flatten (optionsStep c t).2.1 ++ (optionsStep c t).2.2 = c :: t := by
  unfold optionsStep
  split
  · simp [flatten]
  · split
    · exact flatten_run .blank Text.isBlank c t
    · split
      · next ts rest h => exact flatten_assignment? h
      · exact flatten_run .text isInterior c t

theorem flatten_step (m : Mode) (c : Char) (t : Text) : flatten (step m c t).2.1 ++ (step m c t).2.2 = c :: t := by
  cases m with
  | prose => exact flatten_proseStep c t
  | options => exact flatten_optionsStep c t

theorem flatten_assignment?_ne_nil {c : Char} {t rest : Text} {ts : List Token}
    (h : assignment? c t = some (ts, rest)) : flatten ts ≠ [] := by
  unfold assignment? at h
  split at h
  · dsimp only at h
    split at h
    · split at h <;>
      · simp only [Option.some.injEq, Prod.mk.injEq] at h
        rw [← h.1, flatten_nonEmpty]
        simp [flatten]
    · simp at h
  · simp at h

theorem flatten_step_ne_nil (m : Mode) (c : Char) (t : Text) : flatten (step m c t).2.1 ≠ [] := by
  cases m with
  | prose =>
    simp only [step, proseStep]
    split
    · split
      · split <;> simp [flatten, keyword]
      · simp [flatten]
    · split
      · split <;> simp [flatten]
      · split
        · simp [flatten]
        · dsimp only
          split <;> simp [flatten, run]
  | options =>
    simp only [step, optionsStep]
    split
    · simp [flatten]
    · split
      · simp [flatten, run]
      · split
        · next h => exact flatten_assignment?_ne_nil h
        · simp [flatten, run]

theorem step_rest_length_le (m : Mode) (c : Char) (t : Text) : (step m c t).2.2.length ≤ t.length := by
  have h := congrArg List.length (flatten_step m c t)
  have hne := List.length_pos_iff.2 (flatten_step_ne_nil m c t)
  simp only [List.length_append, List.length_cons] at h
  omega

/-! ## The lexer -/

/-- the tokens of a text, from a mode onwards -/
def lexFrom (m : Mode) : Text → List Token
  | [] => []
  | c :: t => (step m c t).2.1 ++ lexFrom (step m c t).1 (step m c t).2.2
termination_by t => t.length
decreasing_by
  have := step_rest_length_le m c t
  simp only [List.length_cons]
  omega

/-- the tokens of a text -/
def lex (t : Text) : List Token := lexFrom .prose t

/-- the tokens of a text together are the text -/
theorem flatten_lexFrom (m : Mode) (t : Text) : flatten (lexFrom m t) = t := by
  fun_induction lexFrom m t with
  | case1 m => rfl
  | case2 m c t ih =>
    have happ : ∀ a b : List Token, flatten (a ++ b) = flatten a ++ flatten b := by simp [flatten]
    rw [happ, ih, flatten_step]

end Token

end Transclude.Highlight
