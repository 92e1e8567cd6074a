/-
Excerpts of files as blocks of markup with inline styles.

`Highlighter` is what is relied on of a highlighting library: the languages that it has grammars for, its styles, and how it
writes quotation marks. What a grammar with colours makes of an excerpt is left to the grammar. Where there is no grammar, or
only the one of plain text, the excerpt becomes the same block with every library: a preformatted element in the background of
the style (`excerptBlock`). A style that is not known is found out before anything else.

`Highlighter.uncoloured` has the usual styles and languages, and shows all of them as plain text.
-/
import Transclude.Highlight.Prepared
import Transclude.Language
import Transclude.Log.Record
import Transclude.Markup.Escape
import Transclude.Text.Quoted

namespace Transclude

/-- the markup of an excerpt, or why there is none, and the records that were emitted on the way -/
structure Rendering where
  records : List LogRecord := []
  html : Except Text Text

namespace Highlight

/-! ## Plain excerpts -/

/-- how long lines are treated: wrapped anywhere, or scrolled -/
def lineStyle (wrap : Bool) : Text :=
  if wrap then "white-space: pre-wrap; overflow-wrap: anywhere;".toList else "white-space: pre; overflow-x: auto;".toList

/-- the block of a prepared excerpt in plain text -/
def excerptBlock (e : Markup.Escaping) (background : Text) (wrap : Bool) (text : Text) : Text :=
  "<div class=\"highlight\" style=\"background: ".toList ++ background ++ "\"><pre style=\"".toList ++ lineStyle wrap ++
    "; line-height: 125%;\"><span></span>".toList ++ e.text text ++ "</pre></div>\n".toList

/-! ## Highlighters -/

/-- why a style is not found -/
structure UnknownStyle where
  message : Text
deriving DecidableEq, Repr

/-- what a library has for a language -/
inductive Grammar where
  /-- all of an excerpt is one piece of text -/
  | plain
  /-- `block` is what becomes of an excerpt in a style, where long lines are wrapped or not, or why nothing does -/
  | coloured (block : (style : Text) → (wrap : Bool) → (text : Text) → Except Text Text)

end Highlight

/-- a highlighting library -/
structure Highlighter where
  /-- the grammar that a language tag is registered for -/
  grammar? : Text → Option Highlight.Grammar
  /-- the background colour of a style -/
  background : Text → Except Highlight.UnknownStyle Text
  /-- how quotation marks are written between tags -/
  escaping : Markup.Escaping
  /-- plain text is a language, too -/
  grammar?_text : grammar? "text".toList = some .plain
  /-- colours can stand in attribute values -/
  background_plain : ∀ {style colour : Text}, background style = .ok colour → ∀ c ∈ colour, c ∉ ['"', '&', '<', '>']

namespace Highlighter

open Highlight

/-- excerpts in the language are shown as plain text: it has no grammar, or it is plain text itself -/
def IsPlain (h : Highlighter) (language : Text) : Prop := (h.grammar? language).isNone = true ∨ language = "text".toList

instance (h : Highlighter) (language : Text) : Decidable (h.IsPlain language) := inferInstanceAs (Decidable (_ ∨ _))

/-- an excerpt as a block of plain text, on a background -/
def plainBlock (h : Highlighter) (colour : Text) (wrap : Bool) (text : Text) : Text :=
  excerptBlock h.escaping colour wrap (excerpt.apply text)

/-- an excerpt as a block in a style, with a record for a language without a grammar -/
def render (h : Highlighter) (style : Text) (wrap : Bool) (verbosity : Int) (language text : Text) : Rendering :=
  match h.background style with
  | .error e => { html := .error e.message }
  | .ok colour =>
    match h.grammar? language with
    | some (.coloured block) => { html := block style wrap text }
    | some .plain => { html := .ok (h.plainBlock colour wrap text) }
    | none =>
      { records := Log.debug verbosity 3 ("No lexer for '".toList ++ language ++ "', using plain text".toList)
        html := .ok (h.plainBlock colour wrap text) }

end Highlighter

/-! ## A highlighter without colours -/

namespace Highlight

/-- the background colours of the usual styles -/
def backgroundTable : List (String × String) :=
  [("default", "#f8f8f8"), ("monokai", "#272822"), ("vim", "#000000"), ("nord", "#2E3440"), ("native", "#202020"),
   ("zenburn", "#3f3f3f"), ("bw", "#ffffff"), ("github-dark", "#0d1117"), ("solarized-dark", "#002b36"),
   ("friendly", "#f0f0f0"), ("dracula", "#282a36"), ("abap", "#ffffff"), ("algol", "#ffffff"), ("algol_nu", "#ffffff"),
   ("arduino", "#ffffff"), ("autumn", "#ffffff"), ("borland", "#ffffff"), ("coffee", "#262220"),
   ("colorful", "#ffffff"), ("emacs", "#f8f8f8"), ("friendly_grayscale", "#f0f0f0"), ("fruity", "#111111"),
   ("gruvbox-dark", "#282828"), ("gruvbox-light", "#fbf1c7"), ("igor", "#ffffff"), ("inkpot", "#1e1e27"),
   ("lightbulb", "#1d2331"), ("lilypond", "#ffffff"), ("lovelace", "#ffffff"), ("manni", "#f0f3f3"),
   ("material", "#263238"), ("murphy", "#ffffff"), ("nord-darker", "#242933"), ("one-dark", "#282C34"),
   ("paraiso-dark", "#2f1e2e"), ("paraiso-light", "#e7e9db"), ("pastie", "#ffffff"), ("perldoc", "#eeeedd"),
   ("rainbow_dash", "#ffffff"), ("rrt", "#000000"), ("sas", "#ffffff"), ("solarized-light", "#fdf6e3"),
   ("staroffice", "#ffffff"), ("stata-dark", "#232629"), ("stata-light", "#ffffff"), ("tango", "#f8f8f8"),
   ("trac", "#ffffff"), ("vs", "#ffffff"), ("xcode", "#ffffff")]

/-- the background colour of a usual style; names are exact -/
def background (style : Text) : Except UnknownStyle Text :=
  match backgroundTable.find? fun e => e.1.toList == style with
  | some e => .ok e.2.toList
  | none => .error
      ⟨"Could not find style module ".toList ++ Text.quoted ("pygments.styles.".toList ++ style) ++ ['.']⟩

theorem background_plain {style colour : Text} (h : background style = .ok colour) : ∀ c ∈ colour, c ∉ ['"', '&', '<', '>'] := by
  have htable : ∀ e ∈ backgroundTable, ∀ c ∈ e.2.toList, c ∉ ['"', '&', '<', '>'] := by
    have hall : (backgroundTable.all fun e => e.2.toList.all fun c => decide (c ∉ ['"', '&', '<', '>'])) = true := by
      decide +kernel
    simpa only [List.all_eq_true, decide_eq_true_eq] using hall
  unfold background at h
  split at h
  · next e he =>
    obtain rfl := Except.ok.inj h
    exact htable e (List.mem_of_find?_eq_some he)
  · cases h

end Highlight

/-- the usual styles and languages, where all languages are shown as plain text and quotation marks are left as they are -/
def Highlighter.uncoloured : Highlighter where
  grammar? language := (Language.grammar? language).map fun _ => .plain
  background := Highlight.background
  escaping := .content
  grammar?_text := by
    have h : Language.grammar? "text".toList = some "Text only".toList := by decide +kernel
    simp only [h, Option.map_some]
  background_plain := Highlight.background_plain

/-- an excerpt as a block of plain text, in a usual style -/
def Highlight.renderExcerpt (style : Text) (wrap : Bool) (text : Text) : Except UnknownStyle Text :=
  (background style).map fun colour => Highlighter.uncoloured.plainBlock colour wrap text

end Transclude
