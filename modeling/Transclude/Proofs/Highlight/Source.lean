/-
The source of a directive as markup: escaped text and spans, and nothing else.

The layout goes line by line. It opens a span where a styled piece of text begins, and closes it where the style changes, at the
end of the line at the latest. `Laid` says what comes of that: spans stand one behind the other, with all the text in its order.
Every function of the layout is told by the markup that it puts in front of more, and so is taking line feeds off the end.

- `exists_laid_tokens`: what is laid out has the text of the tokens, whatever they are, and perhaps a line feed behind it.
- `Laid.trimRight`: line feeds at the end of the markup are the line feeds at the end of its text.
- `exists_laid_directiveSource`: the source of any directive is laid out, with its text.
- `exists_builds_directiveSource`: it amounts to text and tags of spans.
-/
import Transclude.Highlight.Layout
import Transclude.Proofs.Markup.Fitting
import Transclude.Proofs.Text.Cutting

namespace Transclude.Highlight

open Markup (Builds Escaping Styling)
open Markup.Token (PlainValue plainName_span startTag)

variable {e : Escaping}

/-- markup in which spans stand one behind the other, with whether it begins inside of a span, the styles of the spans that it
opens, and its text; no span is empty, and none reaches over the end of a line -/
inductive Laid (e : Escaping) : Bool → Text → List String → Text → Prop
  | nil : Laid e false [] [] []
  | char {inside : Bool} {t shown : Text} {styles : List String} (c : Char) (hline : c = '\n' → inside = false)
      (h : Laid e inside t styles shown) : Laid e inside (e.char c ++ t) styles (c :: shown)
  | opening {t shown : Text} {styles : List String} {kind : TokenKind} {style : String} (hstyle : kind.style? = some style)
      (c : Char) (hline : c ≠ '\n') (h : Laid e true t styles shown) :
      Laid e false (kind.openTag ++ (e.char c ++ t)) (style :: styles) (c :: shown)
  | closing {t shown : Text} {styles : List String} (h : Laid e false t styles shown) : Laid e true ("</span>".toList ++ t) styles shown

/-- only the styles of tokens are used -/
theorem Laid.style_of_mem {inside : Bool} {t shown : Text} {styles : List String} (h : Laid e inside t styles shown) :
    ∀ style ∈ styles, ∃ kind : TokenKind, kind.style? = some style := by
  induction h with
  | nil => exact List.forall_mem_nil _
  | char c _ _ ih => exact ih
  | opening hstyle c _ _ ih => exact List.forall_mem_cons.2 ⟨⟨_, hstyle⟩, ih⟩
  | closing _ ih => exact ih

/-! ## In front of more -/

/-- markup that can be put in front of more, with whether the more begins inside of a span -/
def Leads (e : Escaping) (inside after : Bool) (markup : Text) (styles : List String) (shown : Text) : Prop :=
  ∀ t more rest, Laid e after t more rest → Laid e inside (markup ++ t) (styles ++ more) (shown ++ rest)

namespace Leads

variable {inside between after : Bool} {markup markup' shown shown' : Text} {styles styles' : List String}

theorem nil : Leads e inside inside [] [] [] := fun _ _ _ h => h

theorem append (h : Leads e inside between markup styles shown) (h' : Leads e between after markup' styles' shown') :
    Leads e inside after (markup ++ markup') (styles ++ styles') (shown ++ shown') := by
  intro t more rest hrest
  rw [List.append_assoc, List.append_assoc, List.append_assoc]
  exact h _ _ _ (h' _ _ _ hrest)

theorem text {part : Text} (h : '\n' ∈ part → inside = false) : Leads e inside inside (e.text part) [] part := by
  intro t more rest hrest
  induction part with
  | nil => exact hrest
  | cons c part ih =>
    have hcons : e.text (c :: part) ++ t = e.char c ++ (e.text part ++ t) := List.append_assoc _ _ _
    rw [hcons]
    exact .char c (fun hc => h (hc ▸ List.mem_cons_self)) (ih fun hmem => h (List.mem_cons_of_mem c hmem))

theorem lineFeed : Leads e false false ['\n'] [] ['\n'] := by
  have hline : Leads e false false (e.text ['\n']) [] ['\n'] := .text fun _ => rfl
  exact hline

end Leads

theorem isEmpty_openTag (kind : TokenKind) : kind.openTag.isEmpty = kind.style?.isNone := by cases kind <;> rfl

/-- a piece of text in a span of its own, which stays open -/
theorem leads_span (kind : TokenKind) {part : Text} (hne : part ≠ []) (hline : '\n' ∉ part) :
    Leads e false (!kind.openTag.isEmpty) (kind.openTag ++ e.text part) kind.style?.toList part := by
  rw [isEmpty_openTag]
  cases hstyle : kind.style? with
  | none =>
    have hnone : kind.openTag = [] := by rw [TokenKind.openTag, hstyle]
    rw [hnone]
    exact .text fun h => absurd h hline
  | some style =>
    obtain ⟨c, part, rfl⟩ := List.exists_cons_of_ne_nil hne
    rw [List.mem_cons, not_or] at hline
    intro t more rest hrest
    have hinside : Laid e true (e.text part ++ t) more (part ++ rest) := Leads.text (fun h => absurd h hline.2) _ _ _ hrest
    have hcons : kind.openTag ++ e.text (c :: part) ++ t =
        kind.openTag ++ (e.char c ++ (e.text part ++ t)) := by
      rw [List.append_assoc]
      exact congrArg (kind.openTag ++ ·) (List.append_assoc _ _ _)
    rw [hcons]
    exact .opening hstyle c (Ne.symm hline.1) hinside

theorem leads_closeTag (span : Text) : Leads e (!span.isEmpty) false (closeTag span) [] [] := by
  intro t more rest hrest
  unfold closeTag
  split
  · rename_i hnone
    rw [hnone]
    exact hrest
  · rename_i hspan
    have hinside : (!span.isEmpty) = true := by simpa using hspan
    rw [hinside]
    exact .closing hrest

/-! ## The layout -/

/-- the line that is laid out ends inside of a span -/
def Line.inside : Line → Bool
  | none => false
  | some last => !last.isEmpty

theorem escaped_eq_nil_iff {t : Text} : e.text t = [] ↔ t = [] := by
  cases t with
  | nil => exact ⟨fun _ => rfl, fun _ => rfl⟩
  | cons c t =>
    refine ⟨fun h => absurd (List.append_eq_nil_iff.1 h).1 (e.char_ne_nil c), fun h => ?_⟩
    cases h

/-- escaping neither makes nor takes line feeds -/
theorem split_escaped (e : Escaping) (t : Text) : Text.split '\n' (e.text t) = (Text.split '\n' t).map e.text := by
  induction t with
  | nil => rfl
  | cons c t ih =>
    have hcons : e.text (c :: t) = e.char c ++ e.text t := rfl
    by_cases hc : c = '\n'
    · subst hc
      exact congrArg ([] :: ·) ih
    · have hchar : '\n' ∉ e.char c := e.lineFeed_not_mem_char hc
      obtain ⟨line, lines, hlines⟩ := List.exists_cons_of_ne_nil (Text.split_ne_nil '\n' t)
      rw [hcons, Text.split_append_of_not_mem hchar, ih, Text.split, if_neg hc, hlines]
      rfl

/-- a piece that ends its line -/
theorem leads_endLine (kind : TokenKind) (line : Line) {part : Text} (hline : '\n' ∉ part) :
    ∃ styles, Leads e line.inside false (Layout.endLine kind.openTag line (e.text part)) styles (part ++ ['\n']) := by
  have hspan : ∀ hne : part ≠ [], Leads e false false (kind.openTag ++ e.text part ++ closeTag kind.openTag)
      (kind.style?.toList ++ []) (part ++ []) := fun hne => (leads_span kind hne hline).append (leads_closeTag _)
  cases line with
  | none =>
    simp only [Layout.endLine]
    split
    · rename_i hnil
      obtain rfl := escaped_eq_nil_iff.1 hnil
      exact ⟨_, Leads.nil.append .lineFeed⟩
    · rename_i hne
      have hpart := hspan fun hnil => hne (escaped_eq_nil_iff.2 hnil)
      rw [List.append_nil part] at hpart
      exact ⟨_, hpart.append .lineFeed⟩
  | some last =>
    simp only [Layout.endLine]
    split
    · rename_i hchange
      have hpart := hspan fun hnil => hchange.2 (escaped_eq_nil_iff.2 hnil)
      rw [List.append_nil part] at hpart
      have hall := (leads_closeTag last).append (hpart.append .lineFeed)
      simp only [← List.append_assoc] at hall
      exact ⟨_, hall⟩
    · have hpart : Leads e (Line.inside (some last)) (Line.inside (some last)) (e.text part) [] part :=
        .text fun hmem => absurd hmem hline
      have hall := (hpart.append (leads_closeTag last)).append .lineFeed
      rw [List.append_nil part] at hall
      exact ⟨_, hall⟩

/-- a piece that does not end its line -/
theorem leads_extend (kind : TokenKind) (line : Line) {part : Text} (hline : '\n' ∉ part) :
    ∃ styles, Leads e line.inside (Line.inside (Layout.extend kind.openTag line (e.text part)).2)
      (Layout.extend kind.openTag line (e.text part)).1 styles part := by
  unfold Layout.extend
  split
  · rename_i hnil
    obtain rfl := escaped_eq_nil_iff.1 hnil
    exact ⟨[], .nil⟩
  · rename_i hne
    have hspan := leads_span (e := e) kind (fun hnil => hne (escaped_eq_nil_iff.2 hnil)) hline
    cases line with
    | none => exact ⟨_, hspan⟩
    | some last =>
      dsimp only
      split
      · exact ⟨[], .text fun h => absurd h hline⟩
      · have hall := (leads_closeTag last).append hspan
        rw [← List.append_assoc] at hall
        exact ⟨_, hall⟩

/-- the lines of a token -/
theorem leads_pieces (kind : TokenKind) (line : Line) {lines : List Text} (h : ∀ part ∈ lines, '\n' ∉ part) :
    ∃ styles, Leads e line.inside (Line.inside (Layout.pieces kind.openTag line (lines.map e.text)).2)
      (Layout.pieces kind.openTag line (lines.map e.text)).1 styles (Text.join ['\n'] lines) := by
  induction lines generalizing line with
  | nil => exact ⟨[], .nil⟩
  | cons part lines ih =>
    obtain ⟨hpart, hlines⟩ := List.forall_mem_cons.1 h
    cases lines with
    | nil => exact leads_extend kind line hpart
    | cons next lines =>
      obtain ⟨styles, hend⟩ := leads_endLine kind line hpart
      obtain ⟨more, hrest⟩ := ih none hlines
      exact ⟨_, hend.append hrest⟩

/-- **What is laid out has the text of the tokens**, with a line feed behind it if the last line was not finished. -/
theorem exists_laid_tokens (line : Line) (ts : List Token) :
    ∃ styles last, (last = [] ∨ last = ['\n']) ∧ Laid e line.inside (Layout.tokens e line ts) styles (Token.flatten ts ++ last) := by
  induction ts generalizing line with
  | nil =>
    cases line with
    | none => exact ⟨[], [], Or.inl rfl, .nil⟩
    | some last =>
      have hend : Laid e (Line.inside (some last)) (closeTag last ++ ['\n'] ++ []) ([] ++ [] ++ []) ([] ++ ['\n'] ++ []) :=
        (leads_closeTag last).append Leads.lineFeed _ _ _ .nil
      exact ⟨[], ['\n'], Or.inr rfl, by simpa [Layout.tokens, Token.flatten] using hend⟩
  | cons t ts ih =>
    have hcut : ∀ part ∈ Text.split '\n' t.text, '\n' ∉ part := fun _ => Text.not_mem_of_mem_split
    obtain ⟨styles, hlead⟩ := leads_pieces t.kind line hcut
    rw [← split_escaped, Text.join_split] at hlead
    obtain ⟨more, last, hlast, hrest⟩ :=
      ih (Layout.pieces t.kind.openTag line (Text.split '\n' (e.text t.text))).2
    refine ⟨styles ++ more, last, hlast, ?_⟩
    have hall := hlead _ _ _ hrest
    rw [← List.append_assoc] at hall
    cases line with
    | none => exact hall
    | some span => exact hall

/-! ## Without the line feeds at its end -/

/-- what does not end in a line feed stays when line feeds are taken off behind it -/
theorem trimRight_append_of_end {front : Text} (h : Text.trimRight (· == '\n') front = front) (back : Text) :
    Text.trimRight (· == '\n') (front ++ back) = front ++ Text.trimRight (· == '\n') back := by
  rw [Text.trimRight_append]
  split
  · rename_i hback
    rw [h, hback, List.append_nil]
  · rfl

theorem trimRight_lineFeed (t : Text) : Text.trimRight (· == '\n') ('\n' :: t) =
    if Text.trimRight (· == '\n') t = [] then [] else '\n' :: Text.trimRight (· == '\n') t :=
  Text.trimRight_append (· == '\n') ['\n'] t

theorem trimRight_of_getLast {t : Text} (h : t.getLast? ≠ some '\n') : Text.trimRight (· == '\n') t = t := by
  rcases List.eq_nil_or_concat t with rfl | ⟨front, c, rfl⟩
  · rfl
  · rw [List.concat_eq_append, List.getLast?_concat] at h
    have hc : c ≠ '\n' := fun he => h (he ▸ rfl)
    rw [Text.trimRight, List.concat_eq_append, List.reverse_concat, List.dropWhile_cons_of_neg (by simpa using hc),
      ← List.reverse_concat, List.reverse_reverse]

theorem trimRight_cons_of_ne {c : Char} (h : c ≠ '\n') (t : Text) :
    Text.trimRight (· == '\n') (c :: t) = c :: Text.trimRight (· == '\n') t := by
  have hone : Text.trimRight (· == '\n') [c] = [c] := trimRight_of_getLast (by simpa using h)
  exact trimRight_append_of_end hone t

theorem trimRight_char (e : Escaping) {c : Char} (h : c ≠ '\n') : Text.trimRight (· == '\n') (e.char c) = e.char c :=
  trimRight_of_getLast fun hlast => e.lineFeed_not_mem_char h (List.mem_of_getLast? hlast)

theorem trimRight_openTag (kind : TokenKind) : Text.trimRight (· == '\n') kind.openTag = kind.openTag := by
  cases kind <;> decide

/-- **Line feeds at the end of laid out markup** are line feeds at the end of its text. The markup goes altogether exactly when the
text does, unless it begins inside of a span. -/
theorem Laid.trimRight {inside : Bool} {t shown : Text} {styles : List String} (h : Laid e inside t styles shown) :
    Laid e inside (Text.trimRight (· == '\n') t) styles (Text.trimRight (· == '\n') shown) ∧
      (inside = false → (Text.trimRight (· == '\n') t = [] ↔ Text.trimRight (· == '\n') shown = [])) := by
  induction h with
  | nil => exact ⟨.nil, fun _ => Iff.rfl⟩
  | @char inside t shown styles c hline h ih =>
    obtain ⟨hlaid, hiff⟩ := ih
    by_cases hc : c = '\n'
    -- a line feed goes only if all behind it has gone, and no span is open there, so markup and text lose it together
    · subst hc
      obtain rfl := hline rfl
      have hempty := hiff rfl
      have hchar : e.char '\n' ++ t = '\n' :: t := rfl
      rw [hchar, trimRight_lineFeed, trimRight_lineFeed]
      by_cases hnil : Text.trimRight (· == '\n') t = []
      · rw [hnil, hempty.1 hnil] at hlaid
        rw [if_pos hnil, if_pos (hempty.1 hnil)]
        exact ⟨hlaid, fun _ => Iff.rfl⟩
      · rw [if_neg hnil, if_neg (mt hempty.2 hnil)]
        exact ⟨hlaid.char '\n' fun _ => rfl, fun _ => by simp⟩
    · rw [trimRight_append_of_end (trimRight_char e hc), trimRight_cons_of_ne hc]
      refine ⟨hlaid.char c hline, fun _ => ?_⟩
      simp [e.char_ne_nil c]
  | @opening t shown styles kind style hstyle c hline h ih =>
    rw [trimRight_append_of_end (trimRight_openTag kind), trimRight_append_of_end (trimRight_char e hline),
      trimRight_cons_of_ne hline]
    refine ⟨.opening hstyle c hline ih.1, fun _ => ?_⟩
    have hne : kind.openTag ≠ [] := by
      cases kind <;> first | decide | cases hstyle
    simp [hne]
  | @closing t shown styles h ih =>
    rw [trimRight_append_of_end (by decide)]
    refine ⟨.closing ih.1, fun hinside => ?_⟩
    cases hinside

/-! ## The source of a directive -/

/-- the source is not trimmed in front of the layout: a byte order mark at its front goes, and line breaks become line feeds -/
theorem apply_verbatim (raw : Text) : verbatim.apply raw = Text.unifyLines (dropMark raw) := rfl

/-- **The source of a directive is laid out**, and its text is the source without the line feeds at its end. -/
theorem exists_laid_directiveSource (e : Escaping) (raw : Text) :
    ∃ styles, Laid e false (directiveSource raw e) styles (Text.trimRight (· == '\n') (Text.unifyLines (dropMark raw))) := by
  obtain ⟨styles, last, hlast, hlaid⟩ := exists_laid_tokens none (Token.lex (verbatim.apply raw))
  have htext : Text.trimRight (· == '\n') (Token.flatten (Token.lex (verbatim.apply raw)) ++ last) =
      Text.trimRight (· == '\n') (Text.unifyLines (dropMark raw)) := by
    rw [Token.lex, Token.flatten_lexFrom, apply_verbatim]
    rcases hlast with rfl | rfl
    · rw [List.append_nil]
    · exact Text.trimRight_append (· == '\n') _ ['\n']
  exact ⟨styles, htext ▸ hlaid.trimRight.1⟩

/-! ## What it amounts to -/

theorem openTag_eq {kind : TokenKind} {style : String} (h : kind.style? = some style) :
    kind.openTag = startTag "span".toList [⟨"style".toList, style.toList⟩] := by
  rw [TokenKind.openTag, h]
  simp [startTag, Markup.Token.attributesText, Markup.Token.attributeText]

theorem builds_openTag {kind : TokenKind} {style : String} (h : kind.style? = some style) :
    ∃ tokens, Builds kind.openTag tokens ∧ ∀ token ∈ tokens, Styling token := by
  have hplain : PlainValue style.toList := by
    cases kind <;> cases h <;> exact ⟨by decide, by decide⟩
  rw [openTag_eq h]
  refine ⟨_, Markup.builds_startTag plainName_span (List.forall_mem_singleton.2 ?_) (List.nodup_singleton _),
    List.forall_mem_singleton.2 (.opening _)⟩
  exact ⟨List.cons_ne_nil _ _, by simp [Markup.IsSmall], hplain⟩

theorem exists_builds_of_laid {inside : Bool} {t shown : Text} {styles : List String} (h : Laid e inside t styles shown) :
    ∃ tokens, Builds t tokens ∧ ∀ token ∈ tokens, Styling token := by
  have append : ∀ {u v : Text}, (∃ tokens, Builds u tokens ∧ ∀ token ∈ tokens, Styling token) →
      (∃ tokens, Builds v tokens ∧ ∀ token ∈ tokens, Styling token) →
      ∃ tokens, Builds (u ++ v) tokens ∧ ∀ token ∈ tokens, Styling token := by
    rintro u v ⟨tokens, hu, htokens⟩ ⟨more, hv, hmore⟩
    exact ⟨tokens ++ more, hu.append hv, List.forall_mem_append.2 ⟨htokens, hmore⟩⟩
  have char : ∀ c, ∃ tokens, Builds (e.char c) tokens ∧ ∀ token ∈ tokens, Styling token :=
    fun c => ⟨_, Markup.builds_escapedChar e c, List.forall_mem_singleton.2 (.text _)⟩
  induction h with
  | nil => exact ⟨[], .nil, List.forall_mem_nil _⟩
  | char c _ _ ih => exact append (char c) ih
  | opening hstyle c _ _ ih => exact append (builds_openTag hstyle) (append (char c) ih)
  | closing _ ih => exact append ⟨_, Markup.builds_endTag plainName_span, List.forall_mem_singleton.2 .closing⟩ ih

/-- **The source of a directive amounts to text and tags of spans.** -/
theorem exists_builds_directiveSource (e : Escaping) (raw : Text) :
    ∃ tokens, Builds (directiveSource raw e) tokens ∧ ∀ token ∈ tokens, Styling token := by
  obtain ⟨styles, hlaid⟩ := exists_laid_directiveSource e raw
  exact exists_builds_of_laid hlaid

end Transclude.Highlight
