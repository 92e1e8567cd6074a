/-
The lexer follows its rules.

The lexer asks for the longest run of a class of characters and never gives any of it back, while a pattern may. The two take the same
because no rule goes on with a character that its run could have taken: behind a key stands a blank or an equals sign, behind blanks
an equals sign or an integer, and behind digits the edge of a word. `take?_prose` and `take?_options` say so for each mode as a whole,
with the order of its rules, and both say that a rule is found at every character. All the rest follows from there.

- `Machine.next?_standing`: the machine steps with the lexer, by a rule, from a mode of the lexer to a mode of the lexer.
- `Machine.Passes`: such steps in a row. They compose, and the lexer makes them up to the end of the text (`exists_passes_lexFrom`).
- `lex_follows`: the machine does nothing but find the tokens of the lexer, on every text.
-/
import Transclude.Proofs.Highlight.Rules

namespace Transclude

/-! ## Runs of characters -/

namespace Text

theorem drop_length_takeWhile (p : Char → Bool) (t : Text) : t.drop (t.takeWhile p).length = t.dropWhile p := by
  have h : (t.takeWhile p ++ t.dropWhile p).drop (t.takeWhile p).length = t.dropWhile p := List.drop_left
  rwa [List.takeWhile_append_dropWhile] at h

/-- the ten digits of a script are word characters, in one range -/
theorem isWord_of_isDigit {c : Char} (h : isDigit c = true) : isWord c = true := by
  -- `Nat.ble` is evaluated at once, where a decision would be built for each pair of a zero and a range
  have htables : (digitZeros.all fun z => z == 0x30 ||
      (Nat.ble 0x80 z && wordRanges.any fun r => Nat.ble r.1 z && Nat.ble (z + 9) r.2)) = true := by decide +kernel
  have hzeros : ∀ z ∈ digitZeros, z = 0x30 ∨ 0x80 ≤ z ∧ ∃ r ∈ wordRanges, r.1 ≤ z ∧ z + 9 ≤ r.2 := by
    simpa using htables
  obtain ⟨n, hn⟩ := Option.isSome_iff_exists.1 h
  obtain ⟨z, hz, -⟩ := Option.map_eq_some_iff.1 hn
  have hin := List.find?_some hz
  rw [Bool.and_eq_true, decide_eq_true_eq, decide_eq_true_eq] at hin
  rcases hzeros z (List.mem_of_find?_eq_some hz) with rfl | ⟨hle, r, hr, hrange⟩
  · have hdigit : c.isDigit = true := by
      simp only [Char.isDigit, Bool.and_eq_true, decide_eq_true_eq, UInt32.le_iff_toNat_le]
      exact hin
    have hascii : c.val < 0x80 := by
      rw [UInt32.lt_iff_toNat_lt]
      exact lt_of_le_of_lt hin.2 (by decide)
    simp [isWord, hascii, Char.isAlphanum, hdigit]
  · have hascii : ¬ c.val < 0x80 := by
      rw [UInt32.lt_iff_toNat_lt, not_lt]
      exact hle.trans hin.1
    rw [isWord, if_neg hascii]
    exact List.any_eq_true.2 ⟨r, hr, by simp; omega⟩

end Text

namespace Highlight

open Directive (keyword)
open Directive.Bounds (isKeyChar)
open Pattern

/-! ## What each pattern takes -/

theorem first?_keyword (before : Option Char) (t : Text) :
    first? (literal keyword ++ [.edge]) before t =
      match Text.after? keyword t with
      | some rest => if Text.boundaryBefore rest then some (keyword, rest) else none
      | none => none := by
  rw [first?, ways_literal]
  cases Text.after? keyword t with
  | none => rfl
  | some rest =>
    have hword : Text.isWord 't' = true := by decide
    have hlast : lastOf before keyword = some 't' := rfl
    dsimp only
    rw [hlast, ways_edge hword]
    split <;> simp

theorem first?_path (before : Option Char) (c : Char) (t : Text) :
    first? [.one (· == '"'), .any (· != '"'), .one (· == '"')] before (c :: t) =
      if c = '"' then (Text.upTo? '"' t).map fun w => ('"' :: (w.1 ++ ['"']), w.2) else none := by
  rw [first?, ways_one_cons]
  by_cases hc : c = '"'
  · subst hc
    rw [if_pos (beq_self_eq_true _), if_pos rfl, ways, flatMap_ways_any]
    · rw [Text.upTo?]
      have hhead := List.head?_dropWhile_not (· != '"') t
      cases hd : t.dropWhile (· != '"') with
      | nil => rfl
      | cons d rest =>
        rw [hd] at hhead
        have hquote : d = '"' := by simpa using hhead
        simp [hquote, Part.ways]
    · intro w d u _ hd
      have hne : d ≠ '"' := by simpa using hd
      simp [Part.ways, hne]
  · simp [hc]

/-- digits to the end of a word -/
theorem ways_digits (before : Option Char) (t : Text) :
    ways [.atLeastOne Text.isDigit, .edge] before t =
      match t.takeWhile Text.isDigit with
      | [] => []
      | digits => if Text.boundaryBefore (t.dropWhile Text.isDigit) then [(digits, t.dropWhile Text.isDigit)] else [] := by
  -- behind digits stands a word character
  have hedge : ∀ d w u, (∀ e ∈ d :: w, Text.isDigit e = true) →
      ways [.edge] (lastOf before (d :: w)) u = if Text.boundaryBefore u then [([], u)] else [] := by
    intro d w u hw
    obtain ⟨e, he, hlast⟩ := exists_lastOf before (List.cons_ne_nil d w)
    rw [hlast, ways_edge (Text.isWord_of_isDigit (hw e he))]
  cases t with
  | nil => rfl
  | cons c t =>
    rw [ways, flatMap_ways_atLeastOne]
    · by_cases hc : Text.isDigit c = true
      · have hall : ∀ e ∈ c :: t.takeWhile Text.isDigit, Text.isDigit e = true :=
          List.forall_mem_cons.2 ⟨hc, fun e he => List.mem_takeWhile_imp he⟩
        rw [if_pos hc, List.takeWhile_cons_of_pos hc, List.dropWhile_cons_of_pos hc, hedge _ _ _ hall]
        dsimp only
        split <;> simp
      · simp [hc]
    · intro d w e u hw he
      rw [hedge d w _ hw, if_neg (by simp [Text.boundaryBefore, Text.isWord_of_isDigit he]), List.map_nil]

/-- an integer to the end of a word -/
theorem ways_integer (before : Option Char) (t : Text) :
    ways integerParts before t =
      match Directive.Bounds.integer? t with
      | some digits => if Text.boundaryBefore (t.drop digits.length) then [(digits, t.drop digits.length)] else []
      | none => [] := by
  rw [integerParts, ways]
  by_cases hsign : ∃ u, t = '-' :: u
  · obtain ⟨u, rfl⟩ := hsign
    have htwo : (Part.atMostOne (· == '-')).ways before ('-' :: u) = [(['-'], u), ([], '-' :: u)] := rfl
    have hdrop := Text.drop_length_takeWhile Text.isDigit u
    simp only [htwo, List.flatMap_cons, List.flatMap_nil, ways_digits, Directive.Bounds.integer?]
    cases hd : u.takeWhile Text.isDigit with
    | nil => rfl
    | cons d digits =>
      rw [hd] at hdrop
      simp only [List.length_cons, List.drop_succ_cons] at hdrop ⊢
      rw [hdrop]
      split <;> rfl
  · have hone : (Part.atMostOne (· == '-')).ways before t = [([], t)] := by
      cases t with
      | nil => rfl
      | cons c t =>
        have hc : c ≠ '-' := fun he => hsign ⟨t, he ▸ rfl⟩
        simp [Part.ways, hc]
    have hread : Directive.Bounds.integer? t =
        match t.takeWhile Text.isDigit with
        | [] => none
        | digits => some digits := by
      unfold Directive.Bounds.integer?
      split
      · rename_i u
        exact absurd ⟨u, rfl⟩ hsign
      · rfl
    have hdrop := Text.drop_length_takeWhile Text.isDigit t
    simp only [hone, hread, List.flatMap_cons, List.flatMap_nil, ways_digits]
    cases hd : t.takeWhile Text.isDigit with
    | nil => rfl
    | cons d digits =>
      rw [hd] at hdrop
      dsimp only
      rw [hdrop]
      split <;> rfl

/-- an equals sign behind blanks, in front of more groups -/
theorem groupWays_equals (more : List (List Part)) (before : Option Char) (t : Text) :
    groupWays ([.any Text.isBlank] :: [.one (· == '=')] :: more) before t =
      match t.dropWhile Text.isBlank with
      | '=' :: value =>
        (groupWays more (some '=') value).map fun v => (t.takeWhile Text.isBlank :: ['='] :: v.1, v.2)
      | _ => [] := by
  have hequals : Text.isBlank '=' = false := by decide
  rw [groupWays_singleton, flatMap_ways_any]
  · rw [groupWays_singleton]
    cases hd : t.dropWhile Text.isBlank with
    | nil => rfl
    | cons e value =>
      by_cases he : e = '='
      · subst he
        simp [Part.ways, lastOf, Function.comp_def]
      · simp [Part.ways, he]
  · intro w e u _ he
    have hne : e ≠ '=' := by
      rintro rfl
      rw [hequals] at he
      cases he
    simp [groupWays_singleton, Part.ways, hne]

/-- a key and an equals sign, in front of more groups -/
theorem groupWays_assignment (more : List (List Part)) (before : Option Char) (c : Char) (t : Text) :
    groupWays (assignmentGroups.map Prod.snd ++ more) before (c :: t) =
      if isKeyChar c then
        match (t.dropWhile isKeyChar).dropWhile Text.isBlank with
        | '=' :: value => (groupWays more (some '=') value).map fun v =>
            ((c :: t.takeWhile isKeyChar) :: (t.dropWhile isKeyChar).takeWhile Text.isBlank :: ['='] :: v.1, v.2)
        | _ => []
      else [] := by
  have hrow : assignmentGroups.map Prod.snd ++ more =
      [.atLeastOne isKeyChar] :: [.any Text.isBlank] :: [.one (· == '=')] :: more := rfl
  rw [hrow, groupWays_singleton, flatMap_ways_atLeastOne]
  · rw [groupWays_equals]
    split
    · dsimp only
      split
      · rw [List.map_map]
        rfl
      · rfl
    · rfl
  · intro d w e u _ he
    have hblank := Directive.Bounds.not_isBlank_of_isKeyChar he
    have hne := Directive.Bounds.ne_equals_of_isKeyChar he
    rw [groupWays_equals, List.dropWhile_cons_of_neg (by simp [hblank])]
    simp [hne]

theorem integer?_of_isBlank {c : Char} (h : Text.isBlank c = true) (t : Text) : Directive.Bounds.integer? (c :: t) = none := by
  have hdigit := Text.not_isDigit_of_isBlank h
  have hne : c ≠ '-' := by
    rintro rfl
    revert h
    decide
  unfold Directive.Bounds.integer?
  split
  · rename_i heq
    exact absurd (List.cons.inj heq).1 hne
  · rw [List.takeWhile_cons_of_neg (by simp [hdigit])]

/-- an integer behind blanks -/
theorem groupWays_value (before : Option Char) (t : Text) :
    groupWays [[.any Text.isBlank], integerParts] before t =
      match Token.integer? t with
      | some (gap, digits, rest) => [([gap, digits], rest)]
      | none => [] := by
  rw [groupWays_singleton, flatMap_ways_any]
  · simp only [groupWays, ways_integer, Token.integer?]
    cases Directive.Bounds.integer? (t.dropWhile Text.isBlank) with
    | none => rfl
    | some digits =>
      rw [Option.bind_some]
      dsimp only
      split <;> rfl
  · intro w e u _ he
    simp [groupWays, ways_integer, integer?_of_isBlank he]

/-! ## What each mode takes -/

/-- the rules of assignments, one behind the other -/
theorem take?_assignment (before : Option Char) (c : Char) (t : Text) :
    ((Rule.groups (assignmentGroups ++ valueGroups)).take? before (c :: t)).or
      ((Rule.groups assignmentGroups).take? before (c :: t)) = Token.assignment? c t := by
  have hvalue := groupWays_assignment [[.any Text.isBlank], integerParts] before c t
  have hbare := groupWays_assignment [] before c t
  rw [List.append_nil] at hbare
  have hmore : (assignmentGroups ++ valueGroups).map Prod.snd =
      assignmentGroups.map Prod.snd ++ [[.any Text.isBlank], integerParts] := rfl
  simp only [Rule.take?, firstGroups?, hmore, hvalue, hbare, Token.assignment?]
  by_cases hc : isKeyChar c = true
  · simp only [if_pos hc]
    cases hv : (t.dropWhile isKeyChar).dropWhile Text.isBlank with
    | nil => rfl
    | cons e value =>
      by_cases he : e = '='
      · subst he
        simp only [groupWays_value]
        cases Token.integer? value with
        | none => rfl
        | some found => rfl
      · simp [he]
  · simp only [if_neg hc]
    rfl

/-- what is found first in prose is what the lexer finds -/
theorem take?_prose (before : Option Char) (c : Char) (t : Text) :
    take? .prose before (c :: t) = some (if c = '{' then .push .options else .stay, (Token.proseStep c t).2) := by
  simp only [take?, rules, List.findSome?_cons, List.findSome?_nil, Rule.take?, Rule.move, first?_keyword, first?_path,
    first?_one_cons, first?_atLeastOne_cons, Token.proseStep]
  by_cases hat : c = '@'
  · subst hat
    have hblank : Text.isBlank '@' = false := by decide
    have hplain : Token.isPlain '@' = false := by decide
    have hword : Text.after? keyword ('@' :: t) = Text.after? keyword.tail t := rfl
    rw [hword]
    cases Text.after? keyword.tail t with
    | none => simp [hblank, hplain]
    | some rest => by_cases hb : Text.boundaryBefore rest = true <;> simp [hb, hblank, hplain]
  · have hword : Text.after? keyword (c :: t) = none := if_neg (Ne.symm hat)
    rw [hword]
    by_cases hquote : c = '"'
    · subst hquote
      have hblank : Text.isBlank '"' = false := by decide
      have hplain : Token.isPlain '"' = false := by decide
      cases Text.upTo? '"' t with
      | none => simp [hblank, hplain]
      | some w => simp
    · by_cases hbrace : c = '{'
      · subst hbrace
        simp
      · by_cases hblank : Text.isBlank c = true
        · simp [hat, hquote, hbrace, hblank, Token.run]
        · have hplain : Token.isPlain c = true := by simp [Token.isPlain, hat, hquote, hbrace, hblank]
          simp [hat, hquote, hbrace, hblank, hplain, Token.run]

/-- what is found first between braces is what the lexer finds -/
theorem take?_options (before : Option Char) (c : Char) (t : Text) :
    take? .options before (c :: t) = some (if c = '}' then .pop else .stay, (Token.optionsStep c t).2) := by
  have hassignment := take?_assignment before c t
  simp only [take?, rules, List.findSome?_cons, List.findSome?_nil, Rule.take?_token, Rule.move, first?_one_cons,
    first?_atLeastOne_cons, Token.optionsStep]
  by_cases hbrace : c = '}'
  · subst hbrace
    simp
  · by_cases hblank : Text.isBlank c = true
    · simp [hbrace, hblank, Token.run]
    · have hinterior : Token.isInterior c = true := by simp [Token.isInterior, hbrace, hblank]
      rw [← hassignment]
      cases (Rule.groups (assignmentGroups ++ valueGroups)).take? before (c :: t) with
      | some found => simp [hbrace, hblank]
      | none =>
        cases (Rule.groups assignmentGroups).take? before (c :: t) with
        | some found => simp [hbrace, hblank]
        | none => simp [hbrace, hblank, hinterior, Token.run]

/-! ## The machine steps with the lexer -/

namespace Token

theorem proseStep_mode (c : Char) (t : Text) : (proseStep c t).1 = if c = '{' then .options else .prose := by
  unfold proseStep
  split
  · rename_i hat
    rw [hat, if_neg (by decide)]
    split
    · split <;> rfl
    · rfl
  · split
    · rename_i hquote
      rw [hquote, if_neg (by decide)]
      split <;> rfl
    · split <;> rfl

theorem optionsStep_mode (c : Char) (t : Text) : (optionsStep c t).1 = if c = '}' then .prose else .options := by
  unfold optionsStep
  split
  · rfl
  · split
    · rfl
    · split <;> rfl

theorem text_ne_nil_of_mem_assignment? {c : Char} {t rest : Text} {ts : List Token} (h : assignment? c t = some (ts, rest)) :
    ∀ token ∈ ts, token.text ≠ [] := by
  have hnonEmpty : ∀ us, ∀ token ∈ nonEmpty us, token.text ≠ [] := by
    intro us token hmem
    simpa using (List.mem_filter.1 hmem).2
  unfold assignment? at h
  split at h
  · dsimp only at h
    split at h
    · split at h
      · obtain ⟨rfl, -⟩ := Prod.mk.inj (Option.some.inj h)
        exact hnonEmpty _
      · obtain ⟨rfl, -⟩ := Prod.mk.inj (Option.some.inj h)
        exact hnonEmpty _
    · cases h
  · cases h

/-- a step finds no empty token -/
theorem text_ne_nil_of_mem_step (m : Mode) (c : Char) (t : Text) : ∀ token ∈ (step m c t).2.1, token.text ≠ [] := by
  cases m with
  | prose =>
    simp only [step, proseStep]
    split
    · split
      · split <;> simp [keyword]
      · simp
    · split
      · split <;> simp
      · split
        · simp
        · split <;> simp [run]
  | options =>
    simp only [step, optionsStep]
    split
    · simp
    · split
      · simp [run]
      · split
        · rename_i h
          exact text_ne_nil_of_mem_assignment? h
        · simp [run]

end Token

namespace Machine

/-- the machine in a mode of the lexer: nothing is below prose, and prose is below the mode of braces -/
def standing (m : Mode) (before : Option Char) (t : Text) : Machine :=
  ⟨m, match m with
    | .prose => []
    | .options => [.prose], before, t⟩

/-- **The machine steps with the lexer**, from a mode of the lexer to a mode of the lexer, by a rule. -/
theorem next?_standing (m : Mode) (before : Option Char) (c : Char) (t : Text) :
    (standing m before (c :: t)).next? =
      some ((Token.step m c t).2.1.map fun token => .found (m, token),
        standing (Token.step m c t).1 (lastOf before (Token.flatten (Token.step m c t).2.1)) (Token.step m c t).2.2) := by
  cases m with
  | prose =>
    rw [next?, standing, take?_prose]
    dsimp only [Token.step]
    rw [Token.proseStep_mode]
    by_cases hbrace : c = '{'
    · rw [if_pos hbrace, if_pos hbrace]
      rfl
    · rw [if_neg hbrace, if_neg hbrace]
      rfl
  | options =>
    rw [next?, standing, take?_options]
    dsimp only [Token.step]
    rw [Token.optionsStep_mode]
    by_cases hbrace : c = '}'
    · rw [if_pos hbrace, if_pos hbrace]
      rfl
    · rw [if_neg hbrace, if_neg hbrace]
      rfl

theorem next?_standing_nil (m : Mode) (before : Option Char) : (standing m before []).next? = none := by
  cases m <;> rfl

/-- from one mode and text to another one, the machine finds these tokens and does nothing else -/
def Passes (m : Mode) (t : Text) (found : List (Mode × Token)) (m' : Mode) (t' : Text) : Prop :=
  ∀ before, ∃ before', Goes (standing m before t) (found.map .found) (standing m' before' t')

variable {m m' m'' : Mode} {t t' t'' : Text} {found found' : List (Mode × Token)}

theorem Passes.refl (m : Mode) (t : Text) : Passes m t [] m t := fun before => ⟨before, .refl _⟩

theorem Passes.trans (h : Passes m t found m' t') (h' : Passes m' t' found' m'' t'') : Passes m t (found ++ found') m'' t'' := by
  intro before
  obtain ⟨between, hgoes⟩ := h before
  obtain ⟨after, hgoes'⟩ := h' between
  rw [List.map_append]
  exact ⟨after, hgoes.trans hgoes'⟩

theorem Passes.step {c : Char} {ts : List Token} (h : Token.step m c t = (m', ts, t')) :
    Passes m (c :: t) (ts.map (Prod.mk m)) m' t' := by
  intro before
  have hstep := next?_standing m before c t
  rw [h] at hstep
  rw [List.map_map]
  exact ⟨_, .one hstep⟩

/-- the machine passes a text as the lexer does -/
theorem exists_passes_lexFrom (m : Mode) (t : Text) :
    ∃ found m', found.map Prod.snd = Token.lexFrom m t ∧ Passes m t found m' [] := by
  fun_induction Token.lexFrom m t with
  | case1 m => exact ⟨[], m, rfl, .refl m []⟩
  | case2 m c t ih =>
    obtain ⟨found, m', htokens, hpasses⟩ := ih
    refine ⟨(Token.step m c t).2.1.map (Prod.mk m) ++ found, m', ?_, (Passes.step rfl).trans hpasses⟩
    rw [List.map_append, List.map_map, htokens]
    exact congrArg (· ++ _) (List.map_id _)

/-- a machine that passes all of a text comes to its end -/
theorem Passes.runs (h : Passes .prose t found m []) : (start t).Runs (found.map .found) := by
  obtain ⟨before, hgoes⟩ := h none
  exact ⟨_, hgoes, next?_standing_nil m before⟩

/-- what the machine finds in a text is what the lexer finds -/
theorem Passes.map_eq_lex (h : Passes .prose t found m []) : found.map Prod.snd = Token.lex t := by
  obtain ⟨found', m', htokens, h'⟩ := exists_passes_lexFrom .prose t
  have hevents := h.runs.unique h'.runs
  have hfound : found = found' := List.map_injective_iff.2 (fun _ _ => Event.found.inj) hevents
  rw [hfound, htokens]
  rfl

/-- whatever the machine comes to be, it is in a mode of the lexer -/
theorem Goes.standing {s s' : Machine} {es : List Event} (h : Goes s es s') (hs : ∃ m before t, s = standing m before t) :
    ∃ m before t, s' = standing m before t := by
  induction h with
  | refl s => exact hs
  | step hstep _ ih =>
    obtain ⟨m, before, t, rfl⟩ := hs
    cases t with
    | nil =>
      rw [next?_standing_nil] at hstep
      cases hstep
    | cons c t =>
      rw [next?_standing] at hstep
      obtain ⟨-, rfl⟩ := Prod.mk.inj (Option.some.inj hstep)
      exact ih ⟨_, _, _, rfl⟩

end Machine

/-! ## The lexer -/

/-- no token is empty -/
theorem Token.text_ne_nil_of_mem_lexFrom (m : Mode) (t : Text) : ∀ token ∈ lexFrom m t, token.text ≠ [] := by
  fun_induction lexFrom m t with
  | case1 m => exact List.forall_mem_nil _
  | case2 m c t ih => exact List.forall_mem_append.2 ⟨text_ne_nil_of_mem_step m c t, ih⟩

/-- **The lexer is the machine that follows the rules**, on every text however it is prepared. The machine comes to an end, and all
that it does on the way is to find tokens by its rules: it refuses no character and forgets no modes. The tokens are those of the
lexer; none is empty, and together they are the prepared text. The modes are that of prose, with that of braces on top or not. -/
theorem lex_follows (p : Preparation) (t : Text) :
    ∃ found : List (Mode × Token),
      (∀ es, (Machine.start (p.apply t)).Runs es ↔ es = found.map .found) ∧
      found.map Prod.snd = Token.lex (p.apply t) ∧
      (∀ token ∈ Token.lex (p.apply t), token.text ≠ []) ∧
      Token.flatten (Token.lex (p.apply t)) = p.apply t ∧
      ∀ es s, (Machine.start (p.apply t)).Goes es s → s.stack = [.prose] ∨ s.stack = [.options, .prose] := by
  obtain ⟨found, m, htokens, hpasses⟩ := Machine.exists_passes_lexFrom .prose (p.apply t)
  have hruns := hpasses.runs
  refine ⟨found, fun es => ⟨fun h => h.unique hruns, fun h => h ▸ hruns⟩, htokens, Token.text_ne_nil_of_mem_lexFrom _ _,
    Token.flatten_lexFrom _ _, fun es s h => ?_⟩
  obtain ⟨m', before', t', rfl⟩ := h.standing ⟨.prose, none, p.apply t, rfl⟩
  cases m' with
  | prose => exact Or.inl rfl
  | options => exact Or.inr rfl

end Highlight

end Transclude
