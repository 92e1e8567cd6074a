/-
The rules of the lexer as patterns, and the machine that follows them.

Each mode has a row of rules, and the first one whose pattern finds something at the front of the text is followed. A rule gives one
token for all that it takes, or a token for each group of its pattern that is not empty; and it may put a mode on top of the others
or go back to the one below. Where no rule finds anything, a line feed is passed over and all modes but that of prose are forgotten,
and any other character is refused. The machine stops when there is nothing left and nothing is found.

Nothing here knows what the rules of a mode are good for: that some rule is always followed, that the machine stops, and that no more
than two modes are ever on top of each other is proved of the lexer, in `Proofs/Highlight/Lexing`.

- `Runs.unique`: the machine leaves no choice, so what is told of one run is told of all.
-/
import Transclude.Highlight.Token
import Transclude.Proofs.Directive.Assigning
import Transclude.Proofs.Text.Patterns

namespace Transclude.Highlight

open Directive (keyword)
open Directive.Bounds (isKeyChar)
open Pattern (Part first? firstGroups? groupWays lastOf literal ways)

/-- what a rule does to the modes -/
inductive Move where
  | stay
  /-- a mode comes on top of the others -/
  | push (m : Mode)
  /-- the mode below comes back, if there is one -/
  | pop
deriving DecidableEq, Repr

/-- a rule: a pattern and what is made of what it takes -/
inductive Rule where
  /-- one token -/
  | token (kind : TokenKind) (parts : List Part) (move : Move)
  /-- a token for each group that is not empty -/
  | groups (row : List (TokenKind × List Part))

namespace Rule

def move : Rule → Move
  | token _ _ move => move
  | groups _ => .stay

/-- the tokens that a rule makes of the front of a text, and the text behind them; `before` is the character in front -/
def take? (before : Option Char) (t : Text) : Rule → Option (List Token × Text)
  | token kind parts _ => (first? parts before t).map fun w => ([⟨kind, w.1⟩], w.2)
  | groups row => (firstGroups? (row.map Prod.snd) before t).map fun w =>
      (Token.nonEmpty (List.zipWith (fun group text => ⟨group.1, text⟩) row w.1), w.2)

@[simp] theorem take?_token (kind : TokenKind) (parts : List Part) (move : Move) (before : Option Char) (t : Text) :
    (token kind parts move).take? before t = (first? parts before t).map fun w => ([⟨kind, w.1⟩], w.2) := rfl

end Rule

/-- a key and an equals sign -/
def assignmentGroups : List (TokenKind × List Part) :=
  [(.key, [.atLeastOne isKeyChar]), (.blank, [.any Text.isBlank]), (.operator, [.one (· == '=')])]

/-- an integer to the end of a word -/
def integerParts : List Part := [.atMostOne (· == '-'), .atLeastOne Text.isDigit, .edge]

/-- the integer that is assigned to a key -/
def valueGroups : List (TokenKind × List Part) := [(.blank, [.any Text.isBlank]), (.integer, integerParts)]

/-- the rules of a mode, in the order in which they are tried -/
def rules : Mode → List Rule
  | .prose =>
    [.token .keyword (literal keyword ++ [.edge]) .stay,
     .token .path [.one (· == '"'), .any (· != '"'), .one (· == '"')] .stay,
     .token .punctuation [.one (· == '{')] (.push .options),
     .token .blank [.atLeastOne Text.isBlank] .stay,
     .token .text [.atLeastOne Token.isPlain] .stay,
     .token .text [.one fun c => c == '@' || c == '"'] .stay]
  | .options =>
    [.token .punctuation [.one (· == '}')] .pop,
     .token .blank [.atLeastOne Text.isBlank] .stay,
     .groups (assignmentGroups ++ valueGroups),
     .groups assignmentGroups,
     .token .text [.atLeastOne Token.isInterior] .stay]

/-- what the first rule that finds something does and takes -/
def take? (m : Mode) (before : Option Char) (t : Text) : Option (Move × List Token × Text) :=
  (rules m).findSome? fun r => (r.take? before t).map fun w => (r.move, w)

/-! ## The machine -/

/-- what the machine does with the front of the text -/
inductive Event where
  /-- a token, by a rule of this mode -/
  | found (e : Mode × Token)
  /-- a line feed that no rule takes -/
  | lineFeed
  /-- a character that no rule takes -/
  | refused (c : Char)

/-- the mode, the modes below it, the character in front of the text that is left, and that text -/
structure Machine where
  mode : Mode
  below : List Mode
  before : Option Char
  rest : Text

namespace Machine

/-- all modes, the one on top first -/
def stack (s : Machine) : List Mode := s.mode :: s.below

/-- at the front of a text, in prose -/
def start (t : Text) : Machine := ⟨.prose, [], none, t⟩

/-- the machine behind what a rule has taken -/
def behind (s : Machine) (taken rest : Text) : Move → Machine
  | .stay => ⟨s.mode, s.below, lastOf s.before taken, rest⟩
  | .push m => ⟨m, s.mode :: s.below, lastOf s.before taken, rest⟩
  | .pop =>
    match s.below with
    | [] => ⟨s.mode, [], lastOf s.before taken, rest⟩
    | m :: below => ⟨m, below, lastOf s.before taken, rest⟩

/-- one step, if there is one: what is done, and the machine after it -/
def next? (s : Machine) : Option (List Event × Machine) :=
  match take? s.mode s.before s.rest, s.rest with
  | some (move, tokens, rest), _ =>
    some (tokens.map fun t => .found (s.mode, t), s.behind (Token.flatten tokens) rest move)
  | none, c :: rest =>
    if c = '\n' then some ([.lineFeed], ⟨.prose, [], some c, rest⟩)
    else some ([.refused c], ⟨s.mode, s.below, some c, rest⟩)
  | none, [] => none

/-- by some steps, which do all this in a row, one machine comes to be another one -/
inductive Goes : Machine → List Event → Machine → Prop
  | refl (s : Machine) : Goes s [] s
  | step {s s' s'' : Machine} {es es' : List Event} (h : s.next? = some (es, s')) (more : Goes s' es' s'') :
      Goes s (es ++ es') s''

/-- by all its steps, which come to an end, the machine does all this in a row -/
def Runs (s : Machine) (es : List Event) : Prop := ∃ s', Goes s es s' ∧ s'.next? = none

variable {s s' s'' : Machine} {es es' : List Event}

theorem Goes.one (h : s.next? = some (es, s')) : Goes s es s' := by
  have hone : Goes s (es ++ []) s' := .step h (.refl s')
  rwa [List.append_nil] at hone

theorem Goes.trans (h : Goes s es s') (h' : Goes s' es' s'') : Goes s (es ++ es') s'' := by
  induction h with
  | refl _ => exact h'
  | step hstep _ ih =>
    rw [List.append_assoc]
    exact .step hstep (ih h')

/-- a machine that stops does so in one way -/
theorem Runs.unique (h : Runs s es) (h' : Runs s es') : es = es' := by
  obtain ⟨last, hgoes, hstop⟩ := h
  obtain ⟨last', hgoes', hstop'⟩ := h'
  induction hgoes generalizing es' with
  | refl s =>
    cases hgoes' with
    | refl _ => rfl
    | step hstep _ => rw [hstop] at hstep; cases hstep
  | step hstep _ ih =>
    cases hgoes' with
    | refl _ => rw [hstop'] at hstep; cases hstep
    | step hstep' hmore' =>
      rw [hstep] at hstep'
      obtain ⟨rfl, rfl⟩ := Prod.mk.inj (Option.some.inj hstep')
      rw [ih hstop hmore']

end Machine

end Transclude.Highlight
