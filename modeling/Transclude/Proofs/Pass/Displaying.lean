/-
What a block of code shows.

An excerpt is cut out of a file, prepared, escaped and put into a preformatted element, and the path and the range label are
escaped and put in front of it. The tags around them are the same for all excerpts, so taking tags out and replacing references
gives the path, the label and the excerpt back.

- `displays_head`, `displays_excerptBlock`: what is shown by the header and by the excerpt.
- `apply_excerpt`: how an excerpt is prepared.
- `resolve_displays`: what is shown by the block of a directive, and all of its tags.
-/
import Transclude.Proofs.Block
import Transclude.Proofs.Highlight.Excerpt
import Transclude.Proofs.Markup.Untagging
import Transclude.Proofs.Pass.Blocks
import Transclude.Proofs.Pass.Splicing

namespace Transclude

open Markup (Displays unescape untag)
open Markup.Token (attributesText enclose_eq endTag startTag)

/-! ## Elements -/

/-- the tag that opens an element with a class -/
def classTag (name cssClass : String) : Text := startTag name.toList [⟨"class".toList, cssClass.toList⟩]

theorem displays_startTag {name : Text} {attributes : List Markup.Attribute} (h : '>' ∉ name ++ attributesText attributes) :
    Displays (startTag name attributes) [startTag name attributes] [] :=
  .tag h

theorem displays_endTag {name : Text} (h : '>' ∉ name) : Displays (endTag name) [endTag name] [] := by
  have hslash : '>' ∉ '/' :: name := by
    rw [List.mem_cons, not_or]
    exact ⟨by decide, h⟩
  exact .tag hslash

/-- an element shows what is in it -/
theorem displays_element {name content shown : Text} {attributes : List Markup.Attribute} {tags : List Text}
    (hname : '>' ∉ name) (hattributes : '>' ∉ attributesText attributes) (h : Displays content tags shown) :
    Displays (startTag name attributes ++ content ++ endTag name) (startTag name attributes :: tags ++ [endTag name]) shown := by
  have hopen : '>' ∉ name ++ attributesText attributes := fun hmem => (List.mem_append.1 hmem).elim hname hattributes
  have hall := ((displays_startTag hopen).append h).append (displays_endTag hname)
  rwa [List.nil_append, List.append_nil] at hall

theorem displays_enclose {name cssClass : String} {content shown : Text} {tags : List Text} (hname : '>' ∉ name.toList)
    (hclass : '>' ∉ attributesText [⟨"class".toList, cssClass.toList⟩]) (h : Displays content tags shown) :
    Displays (Block.enclose name cssClass content) (classTag name cssClass :: tags ++ [endTag name.toList]) shown := by
  rw [enclose_eq]
  exact displays_element hname hclass h

/-! ## The header -/

namespace Block

/-- the tags of the header of a block of code -/
def headTags (d : Directive) (p : Presentation) : List Text :=
  if p.showFileName then
    [classTag "div" "code-import-header", classTag "span" "code-import-filename", endTag "span".toList] ++
      (if d.hasRange then [classTag "span" "code-import-line-info", endTag "span".toList] else []) ++ [endTag "div".toList]
  else []

/-- the heading of a block of code: the path, and the range label when a bound was given -/
def heading (d : Directive) (p : Presentation) : Except DigitLimit Text :=
  if p.showFileName then
    if d.hasRange then d.rangeLabel.map fun label => d.path ++ label else .ok d.path
  else .ok []

theorem displays_rangeLabel {d : Directive} {label : Text} (h : d.rangeLabel = .ok label) : Displays label [] label := by
  have hlt : '<' ∉ label := Directive.not_mem_rangeLabel h (by decide) (by decide) (by decide)
  have hamp : '&' ∉ label := Directive.not_mem_rangeLabel h (by decide) (by decide) (by decide)
  exact .of_not_mem hlt (Markup.unescapes_of_not_mem hamp)

/-- **The header shows the heading.** -/
theorem displays_head {d : Directive} {p : Presentation} {front : Text} (h : head d p = .ok front) :
    ∃ text, heading d p = .ok text ∧ Displays front (headTags d p) text := by
  have hname : Displays (enclose "span" "code-import-filename" (Markup.escape d.path))
      [classTag "span" "code-import-filename", endTag "span".toList] d.path :=
    displays_enclose (by decide) (by decide) (.escaped .anywhere d.path)
  have hheader : ∀ {range label : Text} {tags : List Text}, Displays range tags label →
      Displays (enclose "div" "code-import-header" (enclose "span" "code-import-filename" (Markup.escape d.path) ++ range))
        (classTag "div" "code-import-header" :: ([classTag "span" "code-import-filename", endTag "span".toList] ++ tags) ++
          [endTag "div".toList]) (d.path ++ label) :=
    fun hrange => displays_enclose (by decide) (by decide) (hname.append hrange)
  unfold head at h
  split at h
  · rename_i hshow
    unfold header at h
    split at h
    · rename_i hrange
      cases hl : d.rangeLabel with
      | error e => rw [hl] at h; cases h
      | ok label =>
        rw [hl] at h
        cases h
        have hlabel : Displays (enclose "span" "code-import-line-info" label)
            [classTag "span" "code-import-line-info", endTag "span".toList] label :=
          displays_enclose (by decide) (by decide) (displays_rangeLabel hl)
        refine ⟨d.path ++ label, ?_, ?_⟩
        · rw [heading, if_pos hshow, if_pos hrange, hl]
          rfl
        · rw [headTags, if_pos hshow, if_pos hrange]
          exact hheader hlabel
    · rename_i hrange
      cases h
      refine ⟨d.path, ?_, ?_⟩
      · rw [heading, if_pos hshow, if_neg hrange]
      · rw [headTags, if_pos hshow, if_neg hrange]
        have hall := hheader .nil
        rw [List.append_nil d.path] at hall
        exact hall
  · rename_i hhide
    cases h
    refine ⟨[], ?_, ?_⟩
    · rw [heading, if_neg hhide]
    · rw [headTags, if_neg hhide]
      exact .nil

end Block

/-! ## The excerpt -/

namespace Highlight

/-- the tags of the block of an excerpt -/
def excerptTags (colour : Text) (wrap : Bool) : List Text :=
  [startTag "div".toList (blockAttributes colour), startTag "pre".toList (preAttributes wrap), startTag "span".toList [],
    endTag "span".toList, endTag "pre".toList, endTag "div".toList]

/-- **The block of an excerpt shows the excerpt**, and a line feed behind it. -/
theorem displays_excerptBlock {colour : Text} (hcolour : '>' ∉ colour) (e : Markup.Escaping) (wrap : Bool) (text : Text) :
    Displays (excerptBlock e colour wrap text) (excerptTags colour wrap) (text ++ ['\n']) := by
  have hspan : Displays (startTag "span".toList [] ++ [] ++ endTag "span".toList)
      [startTag "span".toList [], endTag "span".toList] [] :=
    displays_element (by decide) (by decide) .nil
  have hpre : '>' ∉ attributesText (preAttributes wrap) := by cases wrap <;> decide
  have hblock : '>' ∉ attributesText (blockAttributes colour) := by
    simp [attributesText, Markup.Token.attributeText, blockAttributes, hcolour]
  have hline : Displays ['\n'] [] ['\n'] := .of_not_mem (by decide) (Markup.unescapes_of_not_mem (by decide))
  have htext : Displays (startTag "span".toList [] ++ [] ++ endTag "span".toList ++ e.text text)
      [startTag "span".toList [], endTag "span".toList] text :=
    hspan.append (.escaped e text)
  rw [excerptBlock_eq]
  exact (displays_element (by decide) hblock (displays_element (by decide) hpre htext)).append hline

/-- nothing is trimmed when an excerpt is prepared: a byte order mark at its front goes, line breaks become line feeds, and a line
feed is added where there is none at the end -/
theorem apply_excerpt (t : Text) : excerpt.apply t = closeLine (Text.unifyLines (dropMark t)) := rfl

end Highlight

/-! ## The block -/

/-- the tags of a block of code around a plain excerpt -/
def Block.codeTags (d : Directive) (p : Presentation) (colour : Text) : List Text :=
  [classTag "div" "code-import-container", classTag "div" (codeClass p)] ++
    (headTags d p ++ (Highlight.excerptTags colour p.wrapCode ++ [endTag "div".toList, endTag "div".toList]))

theorem Block.displays_code {d : Directive} {p : Presentation} {e : Markup.Escaping} {colour text markup : Text}
    (hcolour : '>' ∉ colour) (h : code d (Highlight.excerptBlock e colour p.wrapCode text) p = .ok markup) :
    ∃ title, heading d p = .ok title ∧ Displays markup (codeTags d p colour) (title ++ (text ++ ['\n'])) := by
  obtain ⟨front, hfront, rfl⟩ := code_eq_ok_iff.1 h
  obtain ⟨title, htitle, hhead⟩ := displays_head hfront
  have hclass : '>' ∉ attributesText [⟨"class".toList, (codeClass p).toList⟩] := by
    unfold codeClass
    split <;> decide
  have hopen : Displays (codeFront p) [classTag "div" "code-import-container", classTag "div" (codeClass p)] [] :=
    (displays_startTag (by decide)).append (displays_startTag fun hmem => (List.mem_append.1 hmem).elim (by decide) hclass)
  have hclose : Displays codeBack [endTag "div".toList, endTag "div".toList] [] :=
    (displays_endTag (by decide)).append (displays_endTag (by decide))
  have hbody := hhead.append ((Highlight.displays_excerptBlock hcolour e p.wrapCode text).append hclose)
  have hall := hopen.append hbody
  rw [List.nil_append, List.append_nil] at hall
  exact ⟨title, htitle, hall⟩

namespace Resolver

/-- **A plain block of code shows its heading and its lines, and nothing else.** Where the renderer does with excerpts in the
language of the file what a highlighter does, and this language has no grammar or is plain text, the block of code for the file has
the tags of its presentation and no others. Without them, and with references replaced, it is the path and the range label if they
are shown, the lines that the directive asks for, and a line feed. The lines are as they are in the file, but for a byte order mark
at their front, the form of line breaks, and a line feed at their end that is added when it is missing. -/
theorem resolve_displays {σ : Type} {r : Resolver} {h : Highlighter} {style : Text} {d : Directive} {document : Text}
    {b : BlockSegment} (host : σ → Text → Dialogue.Run σ Event FileAnswer) (s : σ)
    (hrender : ∀ text, r.render (Language.ofPath d.path) text =
      h.render style r.presentation.wrapCode r.verbosity (Language.ofPath d.path) text)
    (hplain : h.IsPlain (Language.ofPath d.path))
    (hresult : ((r.resolve d document).run host s).result = .ok b) (hcode : b.kind = .code) :
    ∃ content colour title shown,
      (host s (r.target d document)).result = .ok (some content) ∧ h.background style = .ok colour ∧
      Block.heading d r.presentation = .ok title ∧
      (untag b.html).1 = Block.codeTags d r.presentation colour ∧
      unescape (untag b.html).2 = .ok (title ++ shown ++ ['\n']) ∧
      let lines := Text.unifyLines (Highlight.dropMark (LineRange.extract { first := d.lineBegin, stop := d.lineEnd } content))
      shown = if lines.getLast? = some '\n' then lines else lines ++ ['\n'] := by
  rw [result_resolve] at hresult
  obtain ⟨content, html, hcontent, hhtml, hmarkup⟩ := exists_code_of_blockFor r hresult hcode
  rw [hrender] at hhtml
  obtain ⟨colour, hcolour, rfl⟩ := Highlighter.exists_background_of_render hplain hhtml
  obtain ⟨title, htitle, hdisplays⟩ :=
    Block.displays_code (fun hmem => h.background_plain hcolour _ hmem (by decide)) hmarkup
  obtain ⟨htags, htext⟩ := hdisplays.untag_eq
  refine ⟨content, colour, title, Highlight.excerpt.apply (excerpt d content), hcontent, hcolour, htitle, htags, ?_, ?_⟩
  · rw [htext, List.append_assoc]
  · rw [Highlight.apply_excerpt, Highlight.closeLine, excerpt]

/-- a highlighter that writes references for quotation marks -/
def quotingHighlighter : Highlighter := { Highlighter.uncoloured with escaping := ⟨.named, .decimal⟩ }

/-- a resolver with this highlighter in its default style -/
def quotingResolver : Resolver :=
  { normal := id, render := quotingHighlighter.render "default".toList false 0, presentation := {},
    escaping := quotingHighlighter.escaping }

/-- the second line of a file in a language without a grammar -/
def secondLine : Directive := { path := "a.ada".toList, lineBegin := some 1 }

/-- what is said to every request: a file with quotation marks in its second line -/
def quotedFile : FileAnswer := .ok (some "x\n\"y\" & 'z'".toList)

theorem resolve_displays_line :
    quotingHighlighter.IsPlain (Language.ofPath secondLine.path) ∧
      ∃ b, ((quotingResolver.resolve secondLine []).run (Dialogue.answering fun _ => quotedFile) ()).result = .ok b ∧
        b.kind = .code ∧ Text.occurs "&quot;y&quot; &amp; &#39;z&#39;".toList b.html = true ∧
        unescape (untag b.html).2 = .ok "a.adaL2\"y\" & 'z'\n\n".toList := by
  have hplain : quotingHighlighter.IsPlain (Language.ofPath secondLine.path) := by decide +kernel
  have hfacts : ((quotingResolver.resolve secondLine []).run (Dialogue.answering fun _ => quotedFile) ()).result.map
      (fun b => (b.kind, Text.occurs "&quot;y&quot; &amp; &#39;z&#39;".toList b.html)) = .ok (.code, true) := by
    decide +kernel
  have hrender : ∀ text, quotingResolver.render (Language.ofPath secondLine.path) text =
      quotingHighlighter.render "default".toList quotingResolver.presentation.wrapCode quotingResolver.verbosity
        (Language.ofPath secondLine.path) text :=
    fun _ => rfl
  obtain ⟨b, hresult, hb⟩ := Markup.Token.eq_of_map_eq_ok hfacts
  obtain ⟨hcode, hquoted⟩ := Prod.mk.inj hb
  obtain ⟨content, colour, title, shown, hcontent, -, htitle, -, htext, hshown⟩ :=
    resolve_displays (Dialogue.answering fun _ => quotedFile) () hrender hplain hresult hcode
  obtain rfl := Option.some.inj (Except.ok.inj (hcontent.symm.trans (rfl : quotedFile = _)))
  have hheading : Block.heading secondLine quotingResolver.presentation = .ok "a.adaL2".toList := by decide +kernel
  obtain rfl := Except.ok.inj (htitle.symm.trans hheading)
  have hlines : shown = "\"y\" & 'z'\n".toList := hshown.trans (by decide +kernel)
  rw [hlines] at htext
  exact ⟨hplain, b, hresult, hcode, hquoted, htext⟩

end Resolver

end Transclude
