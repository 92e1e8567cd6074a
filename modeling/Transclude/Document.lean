/-
A document: the nodes of a markup text, or of one element in it, and which of its texts may hold directives.

A text is a candidate when it holds the token that announces directives and no element around it is verbatim. The elements
around it are counted up to the whole document, also where the document is a single element of it. `replace` puts nodes into
the place of a text that is still there, and either all of them or none.

A pass sees no more of a document than a `Region`: its candidates, what they hold, and how segments are put into their places.
-/
import Transclude.Markup.Builder
import Transclude.Markup.Printer
import Transclude.Segment

namespace Transclude

open Markup (Forest Leaf)

/-- the nodes of a document and what is known about them -/
structure Document where
  nodes : Forest
  /-- the element that passes are made over; without one, the whole document -/
  root : Option Nat := none
  /-- the number of the next node -/
  next : Nat
  /-- the names of elements whose text is never searched, in lower case -/
  verbatim : List Text
  /-- what a text must hold to be a candidate -/
  token : Text
deriving DecidableEq, Repr

namespace Document

/-- the name that counts as that of an element around everything -/
def rootName : Text := "[document]".toList

/-- elements whose text is never prose -/
def nonText : List Text := ["script".toList, "style".toList, "textarea".toList, "template".toList]

/-- the document of a markup text -/
def ofMarkup (source : Text) (verbatimTags : List Text) (token : Text) : Except Markup.Error Document :=
  (Markup.parse 0 source).map fun (nodes, next) =>
    { nodes, next, verbatim := verbatimTags.map Text.lower ++ nonText, token }

/-- the document made of the first element of this name, if there is one -/
def within? (d : Document) (name : Text) : Option Document :=
  ((d.nodes.elements [rootName]).find? fun e => e.name == name).map fun e => { d with root := some e.id }

/-- the element that the document is made of -/
def place? (d : Document) : Option Forest.Place :=
  d.root.bind fun id => (d.nodes.elements [rootName]).find? fun e => e.id == id

/-! ## Finding texts -/

/-- all texts of the markup that the document is part of -/
def allTexts (d : Document) : List Leaf := d.nodes.texts [rootName]

/-- the texts of the document in order -/
def texts (d : Document) : List Leaf :=
  match d.root with
  | none => d.allTexts
  | some _ =>
    match d.place? with
    | some e => e.children.texts (e.name :: e.around)
    | none => []

/-- a verbatim element is around the text -/
def isVerbatim (d : Document) (leaf : Leaf) : Bool := leaf.around.any d.verbatim.contains

/-- the texts that may hold directives; an empty text holds none, whatever the token -/
def candidates (d : Document) : List Leaf :=
  d.texts.filter fun leaf => !leaf.content.isEmpty && Text.occurs d.token leaf.content && !d.isVerbatim leaf

/-- the text `id` as it stands in the document now, if it still does -/
def find? (d : Document) (id : Nat) : Option Leaf := d.allTexts.find? fun leaf => leaf.id == id

/-! ## Replacing texts -/

/-- something to be put into a document -/
inductive Piece where
  /-- a text as it is -/
  | text (content : Text)
  /-- the nodes of a markup text -/
  | markup (source : Text)
  /-- a thing of another type, which no document takes -/
  | foreign (typeName : Text)
deriving DecidableEq, Repr

/-- why pieces cannot be put into a document -/
inductive Refusal where
  | foreign (typeName : Text)
  | markup (error : Markup.Error)
deriving DecidableEq, Repr

/-- the explanation that goes with a refusal -/
def Refusal.message : Refusal → Text
  | .foreign typeName => "Unknown segment type: ".toList ++ typeName
  | .markup e => e.message

/-- the nodes of a piece, numbered from `first` on, and the number of the next node -/
def Piece.nodes (first : Nat) : Piece → Except Refusal (Forest × Nat)
  | .text content => .ok (.text first content .nil, first + 1)
  | .markup source => (Markup.parse first source).mapError Refusal.markup
  | .foreign typeName => .error (.foreign typeName)

/-- the nodes of some pieces in order, numbered from `first` on, and the number of the next node -/
def nodesOf (first : Nat) : List Piece → Except Refusal (Forest × Nat)
  | [] => .ok (.nil, first)
  | p :: pieces => do
    let (nodes, next) ← p.nodes first
    let (rest, next) ← nodesOf next pieces
    return (nodes ++ rest, next)

/-- puts pieces into the place of the text `id`; without it the document stays as it is and the answer is `false` -/
def replace (d : Document) (id : Nat) (pieces : List Piece) : Except Refusal (Bool × Document) :=
  match d.find? id with
  | none => .ok (false, d)
  | some _ => (nodesOf d.next pieces).map fun (nodes, next) =>
    (true, { d with nodes := Forest.replaceText id nodes d.nodes, next })

/-- takes the text `id` out -/
def remove (d : Document) (id : Nat) : Document := { d with nodes := Forest.replaceText id .nil d.nodes }

/-- a segment as a piece -/
def Piece.ofSegment : Segment → Piece
  | .text content => .text content
  | .block b => .markup b.html

/-! ## Printing -/

/-- the whole markup -/
def printAll (d : Document) : Text := d.nodes.print rootName

/-- the document as markup -/
def print (d : Document) : Text :=
  match d.root with
  | none => d.printAll
  | some _ =>
    match d.place? with
    | some e => Markup.printElement e.name e.attributes (e.children matches .nil) (e.children.print e.name)
    | none => []

end Document

/-! ## Regions -/

/-- a way to see values of type `τ` as regions with texts of type `ℓ` -/
structure Region (τ ℓ : Type) where
  /-- the texts that may hold directives, in document order -/
  candidates : τ → List ℓ
  content : ℓ → Text
  /-- puts segments into the place of a text; the answer is `false` when the text is not there any more -/
  replace : τ → ℓ → List Segment → Except Document.Refusal (Bool × τ)

/-- a document as a region -/
def Document.region : Region Document Markup.Leaf where
  candidates := Document.candidates
  content := Markup.Leaf.content
  replace d leaf segments := d.replace leaf.id (segments.map Document.Piece.ofSegment)

/-- a bare sequence of texts, where some are not part of it any more; replacements are noted in order -/
structure Leaves where
  contents : List Text
  detached : List Nat := []
  replaced : List (Nat × List Segment) := []
deriving DecidableEq, Repr

/-- a sequence of texts as a region; the texts with a directive's keyword are the candidates -/
def Leaves.region : Region Leaves (Nat × Text) where
  candidates leaves := (leaves.contents.zipIdx.map fun (t, i) => (i, t)).filter fun leaf =>
    Text.occurs Directive.keyword leaf.2
  content leaf := leaf.2
  replace leaves leaf segments :=
    .ok (if leaves.detached.contains leaf.1 then (false, leaves)
      else (true, { leaves with replaced := leaves.replaced ++ [(leaf.1, segments)] }))

end Transclude
