/-
What an error report shows.

A report is made of its own tags, of text that is escaped for any position, and of the source of a directive, which is laid out in
spans by a highlighter. None of the three texts can begin a tag or a reference of its own, so taking tags out and replacing references
gives them back one behind the other, whatever the highlighter does with quotation marks.

- `displays_of_laid`: laid out markup has the tags of its spans, pair by pair, and shows its text.
- `error_displays`: a report has its own tags and pairs of spans, and shows its title, what went wrong, and the source.
-/
import Transclude.Proofs.Pass.Displaying

namespace Transclude

open Markup (Displays unescape untag)
open Markup.Token (attributesText endTag startTag)

/-! ## The source -/

namespace Highlight

/-- the tags of a span in a style -/
def spanTags (style : String) : List Text := [startTag "span".toList [⟨"style".toList, style.toList⟩], endTag "span".toList]

theorem not_mem_style {kind : TokenKind} {style : String} (h : kind.style? = some style) :
    '>' ∉ "span".toList ++ attributesText [⟨"style".toList, style.toList⟩] := by
  cases kind <;> cases h <;> decide

/-- **Laid out markup shows its text**, and its spans are closed before the next one is opened. -/
theorem displays_of_laid {e : Markup.Escaping} {inside : Bool} {t shown : Text} {styles : List String}
    (h : Laid e inside t styles shown) :
    Displays t ((if inside then [endTag "span".toList] else []) ++ styles.flatMap spanTags) shown := by
  have hchar : ∀ c, Displays (e.char c) [] [c] := by
    intro c
    simpa [Markup.Escaping.text] using Displays.escaped e [c]
  have hspan : '>' ∉ "span".toList := by decide
  have hend : Displays "</span>".toList [endTag "span".toList] [] := displays_endTag hspan
  induction h with
  | nil => exact .nil
  | char c _ _ ih => exact (hchar c).append ih
  | opening hstyle c _ _ ih =>
    rw [openTag_eq hstyle]
    exact (displays_startTag (not_mem_style hstyle)).append ((hchar c).append ih)
  | closing _ ih => exact hend.append ih

end Highlight

/-! ## The report -/

namespace Block

/-- the tags of a report in front of the source of its directive -/
def errorFront : List Text :=
  [classTag "div" "code-import-container", classTag "div" "code-import-error",
    classTag "div" "code-import-error-header", endTag "div".toList,
    classTag "div" "code-import-error-details", endTag "div".toList,
    classTag "div" "code-import-error-source", startTag "code".toList []]

/-- the tags of a report behind the source -/
def errorBack : List Text := [endTag "code".toList, endTag "div".toList, endTag "div".toList, endTag "div".toList]

theorem displays_error {e : Markup.Escaping} {raw shown : Text} {tags : List Text} (message : Text) (title : Option Text)
    (h : Displays (Highlight.directiveSource raw e) tags shown) :
    Displays (error message raw title e) (errorFront ++ tags ++ errorBack) (errorTitle title ++ message ++ shown) := by
  have hheader : Displays (enclose "div" "code-import-error-header" (Markup.escape (errorTitle title)))
      [classTag "div" "code-import-error-header", endTag "div".toList] (errorTitle title) :=
    displays_enclose (by decide) (by decide) (.escaped .anywhere _)
  have hdetails : Displays (enclose "div" "code-import-error-details" (Markup.escape message))
      [classTag "div" "code-import-error-details", endTag "div".toList] message :=
    displays_enclose (by decide) (by decide) (.escaped .anywhere _)
  have hname : '>' ∉ "code".toList := by decide
  have hplain : '>' ∉ attributesText [] := List.not_mem_nil
  have hcode : Displays ("<code>".toList ++ Highlight.directiveSource raw e ++ "</code>".toList)
      (startTag "code".toList [] :: tags ++ [endTag "code".toList]) shown :=
    displays_element hname hplain h
  have hsource : Displays (enclose "div" "code-import-error-source"
      ("<code>".toList ++ Highlight.directiveSource raw e ++ "</code>".toList))
      (classTag "div" "code-import-error-source" :: (startTag "code".toList [] :: tags ++ [endTag "code".toList]) ++
        [endTag "div".toList]) shown :=
    displays_enclose (by decide) (by decide) hcode
  have hall : Displays (error message raw title e) _ (errorTitle title ++ message ++ shown) :=
    displays_enclose (by decide) (by decide) (displays_enclose (by decide) (by decide) ((hheader.append hdetails).append hsource))
  simpa [errorFront, errorBack] using hall

/-- **A report shows its texts and nothing breaks out of it**, however the highlighter of its source writes quotation marks. Its
tags are its own, in their order, and between those of the `code` element pairs of a span in the style of a token, each closed before
the next. Without tags, and with references replaced, it is the title, what went wrong, and the source of the directive, but for a
byte order mark at its front, the form of line breaks, and line feeds at its end. -/
theorem error_displays (e : Markup.Escaping) (message raw : Text) (title : Option Text) :
    let report := error message raw title e
    ∃ styles : List String, (∀ style ∈ styles, ∃ kind : Highlight.TokenKind, kind.style? = some style) ∧
      (untag report).1 = errorFront ++ styles.flatMap Highlight.spanTags ++ errorBack ∧
      unescape (untag report).2 =
        .ok (errorTitle title ++ message ++ Text.trimRight (· == '\n') (Text.unifyLines (Highlight.dropMark raw))) := by
  obtain ⟨styles, hlaid⟩ := Highlight.exists_laid_directiveSource e raw
  have hsource := Highlight.displays_of_laid hlaid
  obtain ⟨htags, hshown⟩ := (displays_error message title hsource).untag_eq
  exact ⟨styles, hlaid.style_of_mem, htags, hshown⟩

end Block

end Transclude
