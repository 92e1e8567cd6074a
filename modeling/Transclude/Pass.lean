/-
A pass over a region: every directive in it is replaced by a block.

The texts of the region are listed once and then visited in order. In each text the directives are resolved from left to
right, each one before the next: the file is read, the range of lines is taken from it and rendered. A file that is missing
or cannot be read, and an excerpt that cannot be rendered, become error blocks. The text is replaced only when all of its
segments are there.

A pass stops early only where a number has more digits than a numeral may have, or where a rendered block is no markup. The
texts before the one it stops at stay replaced.
-/
import Transclude.Block
import Transclude.Dialogue
import Transclude.Directive.Occurrence
import Transclude.Document
import Transclude.Highlight.Excerpt
import Transclude.Language
import Transclude.LineRange
import Transclude.Log.Record
import Transclude.Segment
import Transclude.VaultPath

namespace Transclude

/-- what a host says to a request for a file: its text, nothing if there is none, or why it cannot be read -/
abbrev FileAnswer := Except Text (Option Text)

/-- what a pass tells -/
inductive Event where
  /-- the file at this path is asked for -/
  | read (path : Text)
  /-- an excerpt is rendered -/
  | render (language excerpt : Text)
  | record (record : LogRecord)
deriving DecidableEq, Repr

/-- a computation that reads files -/
abbrev Pass := Dialogue Text FileAnswer Event

/-- what a pass works with -/
structure Resolver where
  /-- the normal form of paths -/
  normal : Text → Text
  /-- renders an excerpt in a language -/
  render : Text → Text → Rendering
  presentation : Presentation
  /-- the verbosity of the connected state; zero without one -/
  verbosity : Int := 0
  /-- how the source of a directive is written in a report -/
  escaping : Markup.Escaping := .content

/-- why a pass stops early -/
inductive Stop where
  | digits (limit : DigitLimit)
  | refused (refusal : Document.Refusal)
deriving DecidableEq, Repr

/-- the explanation that goes with an early stop -/
def Stop.message : Stop → Text
  | .digits limit => limit.message
  | .refused refusal => refusal.message

namespace Resolver

/-- renders excerpts in a usual style, all of them as plain text -/
def highlighter (style : Text) (p : Presentation) (verbosity : Int) : Text → Text → Rendering :=
  Highlighter.uncoloured.render style p.wrapCode verbosity

/-! ## One directive -/

/-- emits some records -/
def emit (records : List LogRecord) : Pass Unit := Dialogue.tellAll (records.map Event.record)

/-- emits a record if the verbosity reaches its threshold -/
def log (r : Resolver) (threshold : Int) (message : Text) : Pass Unit := emit (Log.debug r.verbosity threshold message)

/-- text between single quotation marks -/
def marked (t : Text) : Text := '\'' :: (t ++ ['\''])

/-- the block that reports what went wrong with a directive -/
def errorBlock (r : Resolver) (message : Text) (d : Directive) : BlockSegment :=
  { kind := .error, html := Block.error message d.raw none r.escaping, directive := d, message := some message }

/-- warns of what went wrong with a directive, and reports it -/
def reportError (r : Resolver) (message : Text) (d : Directive) : Pass BlockSegment := do
  emit (Log.warning r.verbosity (message ++ " (".toList ++ d.raw ++ [')']))
  return r.errorBlock message d

/-- the path that a directive means in a document -/
def target (r : Resolver) (d : Directive) (document : Text) : Text := VaultPath.resolve r.normal d.path document

/-- the lines of a file that a directive asks for -/
def excerpt (d : Directive) (content : Text) : Text :=
  LineRange.extract { first := d.lineBegin, stop := d.lineEnd } content

/-- the block of a directive whose file was read -/
def resolveContent (r : Resolver) (d : Directive) (path content : Text) : Pass (Except DigitLimit BlockSegment) := do
  let language := Language.ofPath d.path
  let shown := excerpt d content
  Dialogue.tellAll [.render language shown]
  let rendering := r.render language shown
  emit rendering.records
  match rendering.html with
  | .error reason => return .ok (← r.reportError ("Error rendering file: ".toList ++ reason) d)
  | .ok html =>
    r.log 2 ("Rendered ".toList ++ marked path ++ " as ".toList ++ language ++ " (".toList ++
      Numeral.print shown.length ++ " chars)".toList)
    return (Block.code d html r.presentation).map fun html => { kind := .code, html, directive := d }

/-- the block of a directive in a document -/
def resolve (r : Resolver) (d : Directive) (document : Text) : Pass (Except DigitLimit BlockSegment) := do
  let path := r.target d document
  r.log 3 ("Resolved ".toList ++ marked d.path ++ " -> ".toList ++ marked path)
  Dialogue.tellAll [.read path]
  match ← Dialogue.request path with
  | .error reason => return .ok (← r.reportError ("Error reading file: ".toList ++ reason) d)
  | .ok none =>
    r.log 2 (marked d.path ++ " resolved to ".toList ++ marked path)
    return .ok (← r.reportError ("File not found: ".toList ++ d.path) d)
  | .ok (some content) => r.resolveContent d path content

/-! ## One text -/

/-- a directive that is to be resolved in the place of a span of a text; an offset below zero counts back from the end of
the text, and one past the end stands for the end -/
structure Placement where
  directive : Directive
  start : Int
  stop : Int
deriving DecidableEq, Repr

/-- the place that a directive was found at -/
def Placement.ofOccurrence (o : Directive.Occurrence) : Placement :=
  { directive := o.directive, start := o.start, stop := o.stop }

/-- the number of characters in front of an offset -/
def position (t : Text) (offset : Int) : Nat := (if offset < 0 then t.length + offset else offset).toNat

/-- the characters of a text from `start` up to `stop` -/
def slice (t : Text) (start stop : Int) : Text := (t.take (position t stop)).drop (position t start)

/-- the segments of a text from `cursor` on, with blocks in the place of the spans -/
def spliceFrom (r : Resolver) (document t : Text) :
    (cursor : Int) → List Placement → Pass (Except DigitLimit (List Segment))
  | cursor, [] => pure (.ok (if cursor < t.length then [.text (t.drop (position t cursor))] else []))
  | cursor, o :: rest => do
    let gap : List Segment := if cursor < o.start then [.text (slice t cursor o.start)] else []
    match ← r.resolve o.directive document with
    | .error e => return .error e
    | .ok block => return (← spliceFrom r document t o.stop rest).map fun segments => gap ++ .block block :: segments

/-- the segments of a text, with blocks in the place of the spans -/
def splice (r : Resolver) (document t : Text) (placements : List Placement) :
    Pass (Except DigitLimit (List Segment)) := r.spliceFrom document t 0 placements

/-! ## A region -/

/-- how far a pass has come -/
structure Progress (τ : Type) where
  tree : τ
  report : Report := {}

/-- what comes of a pass: the region after it, the report so far, and why it stopped early if it did -/
structure Outcome (τ : Type) where
  tree : τ
  report : Report
  stop : Option Stop := none

variable {τ ℓ : Type}

/-- visits one text -/
def visit (r : Resolver) (region : Region τ ℓ) (document : Text) (p : Progress τ) (leaf : ℓ) :
    Pass (Except Stop (Progress τ)) := do
  let report := p.report.scanned
  match Directive.scan (region.content leaf) with
  | .error e => return .error (.digits e)
  | .ok [] => return .ok { p with report }
  | .ok found =>
    r.log 3 (Numeral.print found.length ++ " directives in leaf".toList)
    match ← r.splice document (region.content leaf) (found.map Placement.ofOccurrence) with
    | .error e => return .error (.digits e)
    | .ok segments =>
      match region.replace p.tree leaf segments with
      | .error e => return .error (.refused e)
      | .ok (false, _) =>
        r.log 2 "Skipping detached text leaf".toList
        return .ok { p with report }
      | .ok (true, tree) => return .ok { tree, report := report.replaced segments }

/-- visits texts in order until one stops the pass -/
def visitAll (r : Resolver) (region : Region τ ℓ) (document : Text) :
    List ℓ → Progress τ → Pass (Outcome τ)
  | [], p => pure { tree := p.tree, report := p.report }
  | leaf :: leaves, p => do
    match ← r.visit region document p leaf with
    | .error stop => return { tree := p.tree, report := p.report, stop := some stop }
    | .ok p => visitAll r region document leaves p

/-- replaces every directive of a region in a document -/
def process (r : Resolver) (region : Region τ ℓ) (document : Text) (tree : τ) : Pass (Outcome τ) := do
  let leaves := region.candidates tree
  r.log 2 (Numeral.print leaves.length ++ " candidate text leaves in ".toList ++ marked document)
  r.visitAll region document leaves { tree }

end Resolver

end Transclude
