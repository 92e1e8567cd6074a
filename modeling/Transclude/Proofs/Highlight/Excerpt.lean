/-
The block of an excerpt as markup. All of a plain excerpt stands in a preformatted element; behind the element is a line feed.

- `fitting_excerptBlock`: the block of a plain excerpt is markup, and its texts are text in a preformatted element and the line
  feed.
- `Highlighter.exists_of_render`: what is rendered is such a block, or comes from a grammar with colours.
- `Highlighter.fitting_render`: what is rendered fits if what the grammars with colours make of excerpts does.
-/
import Transclude.Highlight.Excerpt
import Transclude.Proofs.Highlight.Source

namespace Transclude

namespace Highlight

open Markup (Escaping Fitting IsSmall Tolerant)
open Markup.Token (PlainAttribute PlainValue endTag plainName_div plainName_pre plainName_span startTag)

theorem plainValue_append {s t : Text} (hs : PlainValue s) (ht : PlainValue t) : PlainValue (s ++ t) := by
  refine ⟨fun h => ?_, fun h => ?_⟩
  · exact (List.mem_append.1 h).elim hs.not_quote ht.not_quote
  · exact (List.mem_append.1 h).elim hs.not_reference ht.not_reference

theorem plainValue_lineStyle (wrap : Bool) : PlainValue (lineStyle wrap) := by
  cases wrap <;> exact ⟨by decide, by decide⟩

theorem plainAttribute_style {value : Text} (h : PlainValue value) : PlainAttribute ⟨"style".toList, value⟩ :=
  ⟨List.cons_ne_nil _ _, by simp [IsSmall], h⟩

/-- the attributes of the block and of the preformatted element in it -/
def blockAttributes (colour : Text) : List Markup.Attribute :=
  [⟨"class".toList, "highlight".toList⟩, ⟨"style".toList, "background: ".toList ++ colour⟩]

def preAttributes (wrap : Bool) : List Markup.Attribute :=
  [⟨"style".toList, lineStyle wrap ++ "; line-height: 125%;".toList⟩]

/-- the block of an excerpt by its elements -/
theorem excerptBlock_eq (e : Escaping) (colour : Text) (wrap : Bool) (text : Text) :
    excerptBlock e colour wrap text =
      startTag "div".toList (blockAttributes colour) ++
        (startTag "pre".toList (preAttributes wrap) ++
          (startTag "span".toList [] ++ [] ++ endTag "span".toList ++ e.text text) ++ endTag "pre".toList) ++
        endTag "div".toList ++ ['\n'] := by
  have hfront : "<div class=\"highlight\" style=\"background: ".toList = '<' :: ("div".toList ++ ' ' :: ("class".toList ++
      '=' :: '"' :: ("highlight".toList ++ '"' :: ' ' :: ("style".toList ++ '=' :: '"' :: "background: ".toList)))) := rfl
  have hmiddle : "\"><pre style=\"".toList = '"' :: '>' :: '<' :: ("pre".toList ++ ' ' :: ("style".toList ++ ['=', '"'])) := rfl
  have hinner : "; line-height: 125%;\"><span></span>".toList = "; line-height: 125%;".toList ++
      '"' :: '>' :: '<' :: ("span".toList ++ '>' :: '<' :: '/' :: ("span".toList ++ ['>'])) := rfl
  have hback : "</pre></div>\n".toList = '<' :: '/' :: ("pre".toList ++ '>' :: '<' :: '/' :: ("div".toList ++ ['>', '\n'])) :=
    rfl
  unfold excerptBlock
  rw [hfront, hmiddle, hinner, hback]
  simp only [startTag, endTag, Markup.Token.attributesText, Markup.Token.attributeText, blockAttributes, preAttributes,
    List.flatMap_cons, List.flatMap_nil, List.append_assoc, List.cons_append, List.nil_append, List.append_nil]

/-- **The block of an excerpt is markup.** All its text is in a preformatted element, but for the line feed at its end. -/
theorem fitting_excerptBlock {fits : List Text → Text → Prop} (hfits : Tolerant fits)
    (hpre : ∀ names t, "pre".toList ∈ names → fits names t) (hline : ∀ names, fits names ['\n']) {colour : Text}
    (hcolour : PlainValue colour) (e : Escaping) (wrap : Bool) (text : Text) (names : List Text) :
    Fitting fits names (excerptBlock e colour wrap text) := by
  have hspan : Fitting fits ("pre".toList :: "div".toList :: names) (startTag "span".toList [] ++ [] ++ endTag "span".toList) :=
    .element hfits plainName_span rfl (List.forall_mem_nil _) List.nodup_nil .nil
  have htext : Fitting fits ("pre".toList :: "div".toList :: names) (e.text text) :=
    .escaped hfits e (hpre _ text List.mem_cons_self)
  have hstyle : ∀ a ∈ preAttributes wrap, PlainAttribute a := List.forall_mem_singleton.2
    (plainAttribute_style (plainValue_append (plainValue_lineStyle wrap) ⟨by decide, by decide⟩))
  have hblock : ∀ a ∈ blockAttributes colour, PlainAttribute a := List.forall_mem_cons.2
    ⟨Markup.Token.plainAttribute_class ⟨by decide, by decide⟩,
      List.forall_mem_singleton.2 (plainAttribute_style (plainValue_append ⟨by decide, by decide⟩ hcolour))⟩
  have hnames : ((blockAttributes colour).map Markup.Attribute.name).Nodup := by
    simp [blockAttributes]
  have hend : Fitting fits names ['\n'] := .plain hfits (List.forall_mem_singleton.2 (by decide)) (hline names)
  rw [excerptBlock_eq]
  exact (Fitting.element hfits plainName_div rfl hblock hnames
    (.element hfits plainName_pre rfl hstyle (List.nodup_singleton _) (hspan.append htext))).append hend

end Highlight

/-! ## What is rendered -/

namespace Highlighter

open Markup (Fitting Tolerant)
open Markup.Token (PlainValue)

variable {h : Highlighter} {style language text html : Text} {wrap : Bool} {verbosity : Int}

theorem plainValue_background {colour : Text} (hcolour : h.background style = .ok colour) : PlainValue colour :=
  ⟨fun hmem => h.background_plain hcolour _ hmem (by decide), fun hmem => h.background_plain hcolour _ hmem (by decide)⟩

/-- **What is rendered** is the block of a plain excerpt in a style that is known, or it comes from a grammar with colours. -/
theorem exists_of_render (hhtml : (h.render style wrap verbosity language text).html = .ok html) :
    (∃ colour, h.background style = .ok colour ∧ html = h.plainBlock colour wrap text) ∨
      ∃ block, h.grammar? language = some (.coloured block) ∧ block style wrap text = .ok html := by
  unfold render at hhtml
  split at hhtml
  · cases hhtml
  · rename_i colour hcolour
    split at hhtml
    · rename_i block hgrammar
      exact Or.inr ⟨block, hgrammar, hhtml⟩
    · exact Or.inl ⟨colour, hcolour, (Except.ok.inj hhtml).symm⟩
    · exact Or.inl ⟨colour, hcolour, (Except.ok.inj hhtml).symm⟩

/-- an excerpt in plain text, or in a language without a grammar, becomes the block of a plain excerpt -/
theorem exists_background_of_render (hplain : h.IsPlain language)
    (hhtml : (h.render style wrap verbosity language text).html = .ok html) :
    ∃ colour, h.background style = .ok colour ∧ html = h.plainBlock colour wrap text := by
  refine (exists_of_render hhtml).resolve_right ?_
  rintro ⟨block, hgrammar, -⟩
  rcases hplain with hnone | rfl
  · rw [hgrammar] at hnone
    cases hnone
  · rw [h.grammar?_text] at hgrammar
    cases hgrammar

/-- the grammars with colours make nothing of excerpts but markup of this kind -/
def Colours (h : Highlighter) (kind : Text → Prop) : Prop :=
  ∀ language block, h.grammar? language = some (.coloured block) →
    ∀ style wrap text html, block style wrap text = .ok html → kind html

theorem grammar?_uncoloured_ne (language : Text) (block : Text → Bool → Text → Except Text Text) :
    uncoloured.grammar? language ≠ some (.coloured block) := by
  intro hgrammar
  obtain ⟨name, -, hplain⟩ := Option.map_eq_some_iff.1 hgrammar
  cases hplain

theorem colours_uncoloured (kind : Text → Prop) : uncoloured.Colours kind :=
  fun language block hgrammar => absurd hgrammar (grammar?_uncoloured_ne language block)

/-- without colours the language makes no difference -/
theorem html_render_uncoloured (style : Text) (wrap : Bool) (verbosity : Int) (language text : Text) :
    (uncoloured.render style wrap verbosity language text).html =
      (Highlight.renderExcerpt style wrap text).mapError Highlight.UnknownStyle.message := by
  unfold render Highlight.renderExcerpt
  change _ = ((uncoloured.background style).map _).mapError _
  cases uncoloured.background style with
  | error e => rfl
  | ok colour =>
    dsimp only
    split
    · rename_i block hgrammar
      exact absurd hgrammar (grammar?_uncoloured_ne language block)
    · rfl
    · rfl

/-- **What is rendered is markup** with all its text in a preformatted element, but for a line feed, if that is so of what the
grammars with colours make of excerpts. -/
theorem fitting_render {fits : List Text → Text → Prop} (hfits : Tolerant fits)
    (hpre : ∀ names t, "pre".toList ∈ names → fits names t) (hline : ∀ names, fits names ['\n']) {names : List Text}
    (hcolours : h.Colours (Fitting fits names))
    (hhtml : (h.render style wrap verbosity language text).html = .ok html) : Fitting fits names html := by
  rcases exists_of_render hhtml with ⟨colour, hcolour, rfl⟩ | ⟨block, hgrammar, hblock⟩
  · exact Highlight.fitting_excerptBlock hfits hpre hline (plainValue_background hcolour) h.escaping wrap _ names
  · exact hcolours language block hgrammar style wrap text html hblock

end Highlighter

end Transclude
