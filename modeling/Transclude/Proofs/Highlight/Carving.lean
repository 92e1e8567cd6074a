/-
How the lexer carves the source of a directive.

The lexer and the reader of directives are made apart from each other: the one tries the rules of a mode in their order, the other
asks for the parts of a directive. `Carved` says which tokens there are for the parts that the reader finds. The lexer sees line feeds
for all line breaks; the parts are the same with and without, for a character that is no line feed follows each of them
(`Shape.text_unifyLines`).

- `Token.exists_step_options`: a step between braces stays in front of the closing brace, whatever stands behind the brace.
- `exists_passes_interior`: so text without a closing brace is passed between braces, up to the closing brace.
- `exists_carved`: the text of a shape is carved into its parts.
- `lex_carves`: so is the source of every directive that a scan finds.
-/
import Transclude.Proofs.Directive.Scanning
import Transclude.Proofs.Highlight.Lexing

namespace Transclude

/-! ## Line breaks -/

namespace Text

theorem unifyLines_cons {c : Char} (h : c ≠ '\r') (t : Text) : unifyLines (c :: t) = c :: unifyLines t := by
  rw [unifyLines, if_neg h]
  rintro rest rfl
  exact absurd rfl h

/-- no line break reaches from one text into another one that begins with no line feed -/
theorem unifyLines_append {c : Char} (h : c ≠ '\n') (a b : Text) :
    unifyLines (a ++ c :: b) = unifyLines a ++ unifyLines (c :: b) := by
  fun_induction unifyLines a with
  | case1 => rfl
  | case2 rest ih => simp only [List.cons_append, unifyLines, ih]
  | case3 d rest hbreak ih =>
    have hnone : ∀ u, d = '\r' → rest ++ c :: b = '\n' :: u → False := by
      rintro u rfl hu
      cases rest with
      | nil => exact h (List.cons.inj hu).1
      | cons e rest => exact hbreak rest rfl (congrArg (· :: rest) (List.cons.inj hu).1)
    rw [List.cons_append, unifyLines, ih, List.cons_append]
    exact hnone

theorem mem_unifyLines {c : Char} {t : Text} (h : c ∈ unifyLines t) : c ∈ t ∨ c = '\n' := by
  fun_induction unifyLines t with
  | case1 => exact Or.inl h
  | case2 rest ih =>
    rcases List.mem_cons.1 h with rfl | hrest
    · exact Or.inr rfl
    · exact (ih hrest).imp_left fun hmem => List.mem_cons_of_mem _ (List.mem_cons_of_mem _ hmem)
  | case3 d rest _ ih =>
    rcases List.mem_cons.1 h with hd | hrest
    · split at hd
      · exact Or.inr hd
      · exact Or.inl (hd ▸ List.mem_cons_self)
    · exact (ih hrest).imp_left (List.mem_cons_of_mem d)

theorem unifyLines_ne_nil {t : Text} (h : t ≠ []) : unifyLines t ≠ [] := by
  fun_cases unifyLines t with
  | case1 => exact absurd rfl h
  | case2 rest => exact List.cons_ne_nil _ _
  | case3 d rest _ => exact List.cons_ne_nil _ _

/-- blanks stay blanks -/
theorem isBlank_of_mem_unifyLines {t : Text} (h : ∀ c ∈ t, isBlank c = true) : ∀ c ∈ unifyLines t, isBlank c = true := by
  intro c hc
  rcases mem_unifyLines hc with hmem | rfl
  · exact h c hmem
  · decide

end Text

/-! ## Shapes -/

namespace Directive

/-- the parts of a shape are such as the grammar has them -/
structure Shape.Sound (s : Shape) : Prop where
  gap_ne_nil : s.gap ≠ []
  blank : ∀ c ∈ s.gap, Text.isBlank c = true
  unquoted : '"' ∉ s.path
  braces : ∀ w ∈ s.options, w.1 ≠ [] ∧ (∀ c ∈ w.1, Text.isBlank c = true) ∧ '}' ∉ w.2

theorem Shape.sound_of_ends {t rest behind : Text} {s : Shape} (hopens : Opens t s.gap s.path behind)
    (hends : Ends behind s.options rest) : s.Sound := by
  obtain ⟨u, -, hquoted⟩ := hopens.quoted
  obtain ⟨gap, path, options⟩ := s
  refine ⟨hquoted.gap_ne_nil, hquoted.blank, hquoted.unclosed, fun w hw => ?_⟩
  cases hends with
  | braces h =>
    cases hw
    exact ⟨h.gap_ne_nil, h.blank, h.unclosed⟩
  | bare _ => cases hw

/-- the shape with line feeds for line breaks -/
def Shape.unifyLines (s : Shape) : Shape where
  gap := Text.unifyLines s.gap
  path := Text.unifyLines s.path
  options := s.options.map fun w => (Text.unifyLines w.1, Text.unifyLines w.2)

theorem Shape.Sound.unifyLines {s : Shape} (h : s.Sound) : s.unifyLines.Sound := by
  have hout : ∀ {c : Char} {t : Text}, c ≠ '\n' → c ∉ t → c ∉ Text.unifyLines t :=
    fun hc ht hmem => (Text.mem_unifyLines hmem).elim ht hc
  refine ⟨Text.unifyLines_ne_nil h.gap_ne_nil, Text.isBlank_of_mem_unifyLines h.blank, hout (by decide) h.unquoted, ?_⟩
  intro w hw
  obtain ⟨w', hw', rfl⟩ := Option.map_eq_some_iff.1 hw
  obtain ⟨hne, hblank, hopen⟩ := h.braces w' hw'
  exact ⟨Text.unifyLines_ne_nil hne, Text.isBlank_of_mem_unifyLines hblank, hout (by decide) hopen⟩

/-- no line break of a shape reaches from one part into the next one -/
theorem Shape.text_unifyLines (s : Shape) : s.unifyLines.text = Text.unifyLines s.text := by
  have hkeyword : ∀ t, Text.unifyLines (keyword ++ t) = keyword ++ Text.unifyLines t := fun t => by
    simp [keyword, Text.unifyLines_cons]
  have hoptions : Text.unifyLines (optionsText s.options) = optionsText s.unifyLines.options := by
    obtain ⟨gap, path, options⟩ := s
    cases options with
    | none => rfl
    | some w =>
      have hclose : Text.unifyLines ['}'] = ['}'] := rfl
      simp only [optionsText, unifyLines, Option.map_some]
      rw [Text.unifyLines_append (by decide), Text.unifyLines_cons (by decide), Text.unifyLines_append (by decide), hclose]
  rw [text, text, List.append_assoc, List.append_assoc, hkeyword, Text.unifyLines_append (by decide),
    Text.unifyLines_cons (by decide), Text.unifyLines_append (by decide), Text.unifyLines_cons (by decide), hoptions]
  rfl

end Directive

namespace Highlight

open Directive (Ends Occurrence Opens Shape keyword scan)
open Directive.Bounds (isKeyChar)

/-! ## Steps on the parts of a directive -/

namespace Token

variable {rest : Text}

theorem step_keyword (h : Text.boundaryBefore rest = true) :
    step .prose '@' (keyword.tail ++ rest) = (.prose, [⟨.keyword, keyword⟩], rest) := by
  have hafter : Text.after? keyword.tail (keyword.tail ++ rest) = some rest := Text.after?_append _ _
  simp only [step, proseStep, hafter, h, if_true]

theorem step_blank {b : Char} {gap : Text} (hgap : ∀ c ∈ b :: gap, Text.isBlank c = true)
    (hrest : ∀ c ∈ rest.head?, Text.isBlank c = false) :
    step .prose b (gap ++ rest) = (.prose, [⟨.blank, b :: gap⟩], rest) := by
  obtain ⟨hb, hgap⟩ := List.forall_mem_cons.1 hgap
  have hne : ∀ {d}, Text.isBlank d = false → b ≠ d := by
    rintro d hd rfl
    rw [hb] at hd
    cases hd
  have hat : b ≠ '@' := hne (by decide)
  have hquote : b ≠ '"' := hne (by decide)
  have hbrace : b ≠ '{' := hne (by decide)
  simp only [step, proseStep, if_neg hat, if_neg hquote, if_neg hbrace, if_pos hb, run, Text.takeWhile_run hgap hrest,
    Text.dropWhile_run hgap hrest]

theorem step_path {path : Text} (h : '"' ∉ path) (rest : Text) :
    step .prose '"' (path ++ '"' :: rest) = (.prose, [⟨.path, '"' :: (path ++ ['"'])⟩], rest) := by
  simp only [step, proseStep, Text.upTo?_append rest h]
  rfl

theorem step_brace (t : Text) : step .prose '{' t = (.options, [⟨.punctuation, ['{']⟩], t) := rfl

theorem step_close (t : Text) : step .options '}' t = (.prose, [⟨.punctuation, ['}']⟩], t) := rfl

/-! ## Between braces -/

theorem not_mem_takeWhile {p : Char → Bool} (hp : p '}' = false) (t : Text) : '}' ∉ t.takeWhile p := by
  intro h
  rw [List.mem_takeWhile_imp h] at hp
  cases hp

theorem not_mem_flatten_run {kind : TokenKind} {p : Char → Bool} {c : Char} (hc : c ≠ '}') (hp : p '}' = false) (t : Text) :
    '}' ∉ flatten [(run kind p c t).1] := by
  simpa [flatten, run] using List.not_mem_cons_of_ne_of_not_mem (Ne.symm hc) (not_mem_takeWhile hp t)

theorem not_mem_integer? {t gap digits rest : Text} (h : integer? t = some (gap, digits, rest)) : '}' ∉ gap ∧ '}' ∉ digits := by
  obtain ⟨digits', hdigits, hbehind⟩ := Option.bind_eq_some_iff.1 h
  dsimp only at hbehind
  split at hbehind
  · obtain ⟨rfl, rfl, rfl⟩ : _ ∧ _ ∧ _ := by simpa using hbehind
    obtain ⟨⟨ds, -, hall, hds⟩, -⟩ := Directive.Bounds.integer?_eq_some_iff.1 hdigits
    have hnone : '}' ∉ ds := fun hmem => (Directive.isDigit_facts (hall _ hmem)).2.2.1 rfl
    refine ⟨not_mem_takeWhile (by decide) t, ?_⟩
    rcases hds with rfl | rfl
    · exact hnone
    · exact List.not_mem_cons_of_ne_of_not_mem (by decide) hnone
  · cases hbehind

theorem not_mem_flatten_assignment? {c : Char} {t rest : Text} {ts : List Token} (h : assignment? c t = some (ts, rest)) :
    '}' ∉ flatten ts := by
  have hkey : isKeyChar '}' = false := by decide
  have hblank : Text.isBlank '}' = false := by decide
  unfold assignment? at h
  split at h
  · rename_i hc
    have hne : '}' ≠ c := by
      rintro rfl
      rw [hc] at hkey
      cases hkey
    have hname := not_mem_takeWhile hkey t
    have hgap := not_mem_takeWhile hblank (t.dropWhile isKeyChar)
    dsimp only at h
    split at h
    · split at h
      · rename_i gap digits rest' hinteger
        obtain ⟨rfl, -⟩ := Prod.mk.inj (Option.some.inj h)
        obtain ⟨hgap', hdigits⟩ := not_mem_integer? hinteger
        rw [flatten_nonEmpty]
        simp [flatten, hne, hname, hgap, hgap', hdigits]
      · obtain ⟨rfl, -⟩ := Prod.mk.inj (Option.some.inj h)
        rw [flatten_nonEmpty]
        simp [flatten, hne, hname, hgap]
    · cases h
  · cases h

/-- a step between braces that does not begin at the closing brace stays in front of it -/
theorem not_mem_flatten_optionsStep {c : Char} (hc : c ≠ '}') (t : Text) : '}' ∉ flatten (optionsStep c t).2.1 := by
  unfold optionsStep
  rw [if_neg hc]
  split
  · exact not_mem_flatten_run hc (by decide) t
  · split
    · rename_i h
      exact not_mem_flatten_assignment? h
    · exact not_mem_flatten_run hc (by decide) t

/-- **A step between braces stays in front of the closing brace.** -/
theorem exists_step_options {c : Char} {t : Text} (h : '}' ∉ c :: t) (rest : Text) :
    ∃ ts left, step .options c (t ++ '}' :: rest) = (.options, ts, left ++ '}' :: rest) ∧ flatten ts ++ left = c :: t ∧
      left.length ≤ t.length := by
  have hc : c ≠ '}' := fun he => h (he ▸ List.mem_cons_self)
  have hmode : (step .options c (t ++ '}' :: rest)).1 = .options := (optionsStep_mode c _).trans (if_neg hc)
  have hopen : '}' ∉ flatten (step .options c (t ++ '}' :: rest)).2.1 := not_mem_flatten_optionsStep hc _
  have hall : _ = (c :: t) ++ '}' :: rest := flatten_step .options c (t ++ '}' :: rest)
  have hsome := List.length_pos_iff.2 (flatten_step_ne_nil .options c (t ++ '}' :: rest))
  rcases hstep : step .options c (t ++ '}' :: rest) with ⟨m, ts, behind⟩
  rw [hstep] at hmode hopen hall hsome
  dsimp only at hmode hopen hall hsome
  subst hmode
  -- the tokens end in front of the brace: else they hold it
  rcases List.append_eq_append_iff.1 hall with ⟨left, hleft, rfl⟩ | ⟨m, hm, hbrace⟩
  · refine ⟨ts, left, rfl, hleft.symm, ?_⟩
    have hlength := congrArg List.length hleft
    rw [List.length_append, List.length_cons] at hlength
    omega
  · cases m with
    | nil =>
      refine ⟨ts, [], by rw [List.nil_append, hbrace, List.nil_append], ?_, Nat.zero_le _⟩
      rw [hm, List.append_nil, List.append_nil]
    | cons d m =>
      obtain ⟨rfl, -⟩ := List.cons.inj hbrace
      rw [hm] at hopen
      exact absurd (List.mem_append_right _ List.mem_cons_self) hopen

end Token

/-- **Text without a closing brace is passed between braces**, up to the closing brace. -/
theorem exists_passes_interior (interior rest : Text) (h : '}' ∉ interior) :
    ∃ inner : List Token, Token.flatten inner = interior ∧
      Machine.Passes .options (interior ++ '}' :: rest) (inner.map (Prod.mk .options)) .options ('}' :: rest) := by
  induction hn : interior.length using Nat.strong_induction_on generalizing interior with
  | _ n ih =>
    cases interior with
    | nil => exact ⟨[], rfl, .refl _ _⟩
    | cons c t =>
      obtain ⟨ts, left, hstep, hall, hshort⟩ := Token.exists_step_options h rest
      have hleft : '}' ∉ left := fun hmem => h (hall ▸ List.mem_append_right _ hmem)
      obtain ⟨inner, hinner, hpasses⟩ := ih left.length (by rw [← hn]; exact Nat.lt_succ_of_le hshort) left hleft rfl
      refine ⟨ts ++ inner, ?_, ?_⟩
      · rw [Token.flatten, List.flatMap_append]
        exact (congrArg _ hinner).trans hall
      · rw [List.map_append]
        exact (Machine.Passes.step hstep).trans hpasses

/-! ## Sources -/

/-- the tokens at the front of the source of a directive: the keyword, blanks, and the path with its quotation marks -/
def frontTokens (gap path : Text) : List (Mode × Token) :=
  [(.prose, ⟨.keyword, keyword⟩), (.prose, ⟨.blank, gap⟩), (.prose, ⟨.path, '"' :: (path ++ ['"'])⟩)]

/-- the tokens of braces: blanks, the opening brace, what is found between braces, and the closing brace -/
def braceTokens (gap : Text) (inner : List Token) : List (Mode × Token) :=
  [(.prose, ⟨.blank, gap⟩), (.prose, ⟨.punctuation, ['{']⟩)] ++
    (inner.map (Prod.mk .options) ++ [(.options, ⟨.punctuation, ['}']⟩)])

/-- the tokens of a shape, each with the mode of its rule: what is found between braces is all that stands there -/
inductive Carved : Shape → List (Mode × Token) → Prop
  | bare {gap path : Text} : Carved ⟨gap, path, none⟩ (frontTokens gap path)
  | braces {gap path gap' : Text} {inner : List Token} :
      Carved ⟨gap, path, some (gap', Token.flatten inner)⟩ (frontTokens gap path ++ braceTokens gap' inner)

/-- the blanks in front of a character that is none are one token -/
theorem passes_blanks {gap : Text} {c : Char} (hne : gap ≠ []) (hblank : ∀ d ∈ gap, Text.isBlank d = true)
    (hc : Text.isBlank c = false) (rest : Text) :
    Machine.Passes .prose (gap ++ c :: rest) [(.prose, ⟨.blank, gap⟩)] .prose (c :: rest) := by
  obtain ⟨b, gap, rfl⟩ := List.exists_cons_of_ne_nil hne
  exact Machine.Passes.step (Token.step_blank hblank (by simp [hc]))

/-- the front of a shape is passed in prose, with nothing around the braces looked at -/
theorem passes_front {gap path : Text} (hne : gap ≠ []) (hblank : ∀ c ∈ gap, Text.isBlank c = true) (hpath : '"' ∉ path)
    (rest : Text) :
    Machine.Passes .prose (keyword ++ (gap ++ '"' :: (path ++ '"' :: rest))) (frontTokens gap path) .prose rest := by
  have hedge : Text.boundaryBefore (gap ++ '"' :: (path ++ '"' :: rest)) = true := by
    obtain ⟨b, gap, rfl⟩ := List.exists_cons_of_ne_nil hne
    have hb := Directive.Bounds.not_isKeyChar_of_isBlank (hblank b List.mem_cons_self)
    rw [isKeyChar, Bool.or_eq_false_iff] at hb
    simp [Text.boundaryBefore, hb.1]
  have hkeyword := Machine.Passes.step (Token.step_keyword hedge)
  have hgap := passes_blanks hne hblank Directive.blank_quote (path ++ '"' :: rest)
  have hquoted := Machine.Passes.step (Token.step_path hpath rest)
  exact hkeyword.trans (hgap.trans hquoted)

/-- braces are passed up to the closing one, and prose is next -/
theorem exists_passes_braces {gap interior : Text} (hne : gap ≠ []) (hblank : ∀ c ∈ gap, Text.isBlank c = true)
    (hopen : '}' ∉ interior) (rest : Text) :
    ∃ inner, Token.flatten inner = interior ∧
      Machine.Passes .prose (gap ++ '{' :: (interior ++ '}' :: rest)) (braceTokens gap inner) .prose rest := by
  obtain ⟨inner, hinner, hpasses⟩ := exists_passes_interior interior rest hopen
  have hgap := passes_blanks hne hblank Directive.blank_brace (interior ++ '}' :: rest)
  have hbrace := Machine.Passes.step (Token.step_brace (interior ++ '}' :: rest))
  have hclose := Machine.Passes.step (Token.step_close rest)
  exact ⟨inner, hinner, (hgap.trans hbrace).trans (hpasses.trans hclose)⟩

/-- **The text of a shape is carved into its parts.** -/
theorem exists_carved {s : Shape} (h : s.Sound) :
    ∃ tokens, Carved s tokens ∧ Machine.Passes .prose s.text tokens .prose [] := by
  obtain ⟨gap, path, options⟩ := s
  have hfront := passes_front h.gap_ne_nil h.blank h.unquoted (Shape.optionsText options)
  rw [← List.append_assoc] at hfront
  cases options with
  | none => exact ⟨_, .bare, hfront⟩
  | some w =>
    obtain ⟨gap', interior⟩ := w
    obtain ⟨hne, hblank, hopen⟩ := h.braces _ rfl
    obtain ⟨inner, rfl, hbraces⟩ := exists_passes_braces hne hblank hopen []
    exact ⟨_, .braces, hfront.trans hbraces⟩

/-- **The lexer and the scan agree on the shape of a directive.** The source of every directive that is found, with line feeds for
its line breaks, is carved by the rules into the parts that the grammar has there: the keyword, blanks and the path in quotation
marks, and, if the directive has braces, blanks, the braces, and what the rules for text between braces find in them. -/
theorem lex_carves {t : Text} {found : List Occurrence} (h : scan t = .ok found) {o : Occurrence} (ho : o ∈ found) :
    verbatim.apply o.directive.raw = Text.unifyLines o.directive.raw ∧
    ∃ gap behind options tokens,
      Opens (t.drop o.start) gap o.directive.path behind ∧ Ends behind options (t.drop o.stop) ∧
      (Machine.start (verbatim.apply o.directive.raw)).Runs (tokens.map .found) ∧
      tokens.map Prod.snd = Token.lex (verbatim.apply o.directive.raw) ∧
      Carved (Shape.unifyLines ⟨gap, o.directive.path, options⟩) tokens := by
  obtain ⟨⟨offset, s⟩, hs, hshape⟩ := exists_left_of_forall₂ (Directive.scan_eq_ok_iff.1 h) ho
  obtain ⟨hstart, hstop, hpath, hraw⟩ := Directive.Occurrence.eq_of_ofShape hshape
  obtain ⟨-, rest, hread⟩ := (Directive.scanned_shapes t).reads _ hs
  obtain ⟨behind, hopens, hends⟩ := Directive.head?_eq_some_iff.1 hread
  have hrest : t.drop o.stop = rest := by
    rw [hstop, ← List.drop_drop, Shape.head?_eq_append hread, List.drop_left]
  have hverbatim : verbatim.apply o.directive.raw = Text.unifyLines o.directive.raw := by
    rw [hraw]
    rfl
  obtain ⟨tokens, hcarved, hpasses⟩ := exists_carved (Shape.sound_of_ends hopens hends).unifyLines
  rw [Shape.text_unifyLines, ← hraw, ← hverbatim] at hpasses
  exact ⟨hverbatim, s.gap, behind, s.options, tokens, by rw [hstart, hpath]; exact hopens, by rw [hrest]; exact hends,
    hpasses.runs, hpasses.map_eq_lex, by rw [hpath]; exact hcarved⟩

/-- two directives behind prose: in the braces of the first one, over two lines, stand quotation marks, the keyword, and assignments;
the opening brace behind the second one stands too close to belong to it -/
def folded : Text :=
  "see\r@import\r\n\t\"a\rb\" \x7bstop=\"\r\n@import \"k\" line_end=-4x =7\x7d\n@import \"c\"\x7bd\x7d".toList

/-- the first directive of `folded` -/
def foldedBlock : Occurrence :=
  ⟨⟨"a\rb".toList, none, some (-4), "@import\r\n\t\"a\rb\" \x7bstop=\"\r\n@import \"k\" line_end=-4x =7\x7d".toList⟩, 4, 57⟩

/-- the second directive of `folded` -/
def foldedBare : Occurrence := ⟨⟨['c'], none, none, "@import \"c\"".toList⟩, 58, 69⟩

theorem lex_carves_folded : scan folded = .ok [foldedBlock, foldedBare] ∧
    ∃ tokens, (Machine.start (Text.unifyLines foldedBlock.directive.raw)).Runs (tokens.map .found) ∧
      Carved ⟨"\n\t".toList, "a\nb".toList, some ([' '], "stop=\"\n@import \"k\" line_end=-4x =7".toList)⟩ tokens := by
  have hscan : scan folded = .ok [foldedBlock, foldedBare] := rfl
  obtain ⟨hverbatim, gap, behind, options, tokens, hopens, hends, hruns, -, hcarved⟩ := lex_carves hscan List.mem_cons_self
  -- there is one reading at the place of the directive
  have hread : Shape.head? (folded.drop 4) = some (⟨"\r\n\t".toList, "a\rb".toList,
      some ([' '], "stop=\"\r\n@import \"k\" line_end=-4x =7".toList)⟩, folded.drop 57) := rfl
  obtain ⟨behind', hopens', hends'⟩ := Directive.head?_eq_some_iff.1 hread
  obtain ⟨rfl, -, rfl⟩ := hopens.unique hopens'
  obtain ⟨rfl, -⟩ := hends.unique hends'
  rw [hverbatim] at hruns
  exact ⟨hscan, tokens, hruns, hcarved⟩

end Highlight

end Transclude
