/-
Building the nodes of a document from its tokens.

Texts that follow each other become one node. An end tag closes the open elements up to the nearest one of its name, and
means nothing without one; elements that are still open at the end are closed there. A void element closes at once, and
so does an element whose start tag ends in a slash. One later end tag of a void element is passed over as its own.
-/
import Transclude.Markup.Element
import Transclude.Markup.Forest
import Transclude.Markup.Token.Lexer

namespace Transclude.Markup

/-- an open element with its children so far, last one first -/
structure Frame where
  id : Nat
  name : Text
  attributes : List Attribute
  children : Forest := .nil

/-- a document under construction -/
structure Builder where
  /-- the number of the next node -/
  next : Nat
  /-- the text that is being read -/
  pending : Option Text := none
  /-- the open elements, innermost first -/
  frames : List Frame := []
  /-- the finished nodes outside of all open elements, last one first -/
  top : Forest := .nil
  /-- the names of void elements whose end tags are still to be passed over -/
  voids : List Text := []

namespace Builder

/-- adds a node to the innermost open element; `node` puts it in front of the nodes after it -/
def add (b : Builder) (node : Forest → Forest) : Builder :=
  match b.frames with
  | [] => { b with top := node b.top }
  | frame :: frames => { b with frames := { frame with children := node frame.children } :: frames }

/-- blank strings are kept as they are -/
def keeps (b : Builder) : Bool := b.frames.any fun f => keepsBlanks f.name

/-- adds a text node for the text that was read -/
def flush (b : Builder) : Builder :=
  match b.pending with
  | none => b
  | some t =>
    let content := tidy b.keeps t
    { b.add (.text b.next content) with pending := none, next := b.next + 1 }

/-- closes the innermost open element -/
def pop (b : Builder) : Builder :=
  match b.frames with
  | [] => b
  | frame :: frames =>
    { b with frames }.add (.element frame.id frame.name frame.attributes frame.children.reverse)

/-- closes open elements up to the nearest one of this name, if there is one -/
def closeTo (b : Builder) (name : Text) : Builder :=
  if b.frames.any (·.name == name) then
    let count := (b.frames.takeWhile (·.name != name)).length + 1
    count.repeat pop b
  else b

/-- the end of an element of this name -/
def close (b : Builder) (name : Text) : Builder := b.flush.closeTo name

/-- an end tag; one of a void element that closed before is passed over, and the text around it is one text -/
def closeTag (b : Builder) (name : Text) : Builder :=
  if b.voids.contains name then { b with voids := b.voids.erase name } else b.close name

/-- a start tag -/
def opening (b : Builder) (name : Text) (attributes : List Attribute) : Builder :=
  let b := b.flush
  { b with
    frames := { id := b.next, name, attributes := keptAttributes name attributes } :: b.frames, next := b.next + 1 }

/-- one token -/
def step (b : Builder) : Token → Builder
  | .text t => { b with pending := some (b.pending.getD [] ++ t) }
  | .special kind content =>
    let b := b.flush
    { b.add (.special b.next kind (tidy b.keeps content)) with next := b.next + 1 }
  | .opening name attributes =>
    let b := b.opening name attributes
    if isVoid name then let b := b.close name; { b with voids := name :: b.voids } else b
  | .closed name attributes => (b.opening name attributes).close name
  | .closing name => b.closeTag name

/-- the finished nodes, and the number of the next node -/
def finish (b : Builder) : Forest × Nat :=
  let b := b.flush
  let b := b.frames.length.repeat pop b
  (b.top.reverse, b.next)

end Builder

/-- the nodes of a markup text, numbered from `first` on, and the number of the next node -/
def parse (first : Nat) (t : Text) : Except Error (Forest × Nat) :=
  (Token.ofText t).map fun tokens => (tokens.foldl Builder.step { next := first }).finish

end Transclude.Markup
