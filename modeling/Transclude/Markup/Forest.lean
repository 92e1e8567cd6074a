/-
The nodes of a document: a sequence of texts, special strings and elements, where an element holds a sequence of its own.

Every node has a number, and the numbers of a document are distinct, so that a text can be told from another one with the
same content after the nodes around it have changed. `texts` lists the texts of a forest in document order, each with the
names of the elements around it; `replaceText` puts nodes into the place of one text.
-/
import Transclude.Markup.Token

namespace Transclude.Markup

/-- a sequence of sibling nodes, first one first -/
inductive Forest where
  | nil
  | text (id : Nat) (content : Text) (next : Forest)
  | special (id : Nat) (kind : SpecialKind) (content : Text) (next : Forest)
  | element (id : Nat) (name : Text) (attributes : List Attribute) (children next : Forest)
deriving DecidableEq, Repr

/-- a text of a document, with the names of the elements around it, innermost first -/
structure Leaf where
  id : Nat
  content : Text
  around : List Text
deriving DecidableEq, Repr

namespace Forest

/-- the nodes of one forest and then those of another -/
def append : Forest → Forest → Forest
  | nil, g => g
  | text id content next, g => text id content (next.append g)
  | special id kind content next, g => special id kind content (next.append g)
  | element id name attributes children next, g => element id name attributes children (next.append g)

instance : Append Forest := ⟨append⟩

/-- the nodes of a forest in reverse order, and then those of another; the children of elements keep their order -/
def reverseAppend : Forest → Forest → Forest
  | nil, g => g
  | text id content next, g => next.reverseAppend (text id content g)
  | special id kind content next, g => next.reverseAppend (special id kind content g)
  | element id name attributes children next, g => next.reverseAppend (element id name attributes children g)

/-- the nodes of a forest in reverse order -/
def reverse (f : Forest) : Forest := f.reverseAppend nil

/-- the texts of a forest in document order, where `around` holds the names of the elements around the forest -/
def texts (around : List Text) : Forest → List Leaf
  | nil => []
  | text id content next => { id, content, around } :: next.texts around
  | special _ _ _ next => next.texts around
  | element _ name _ children next => children.texts (name :: around) ++ next.texts around

/-- the forest with `new` in the place of the text `id` -/
def replaceText (id : Nat) (new : Forest) : Forest → Forest
  | nil => nil
  | text i content next =>
    if i = id then new ++ replaceText id new next else text i content (replaceText id new next)
  | special i kind content next => special i kind content (replaceText id new next)
  | element i name attributes children next =>
    element i name attributes (replaceText id new children) (replaceText id new next)

/-- an element, with the names of the elements around it -/
structure Place where
  id : Nat
  name : Text
  attributes : List Attribute
  children : Forest
  around : List Text
deriving DecidableEq, Repr

/-- the elements of a forest in document order -/
def elements (around : List Text) : Forest → List Place
  | nil => []
  | text _ _ next => next.elements around
  | special _ _ _ next => next.elements around
  | element id name attributes children next =>
    { id, name, attributes, children, around } :: (children.elements (name :: around) ++ next.elements around)

end Forest

end Transclude.Markup
