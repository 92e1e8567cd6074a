/-
The shape of a directive in running text: the keyword, blanks, a quoted path that is not empty, and, if blanks and an
opening brace follow, the text up to the closing brace.

`Shape.text` writes a shape, `Shape.head?` finds the shape a text starts with, and `head?_eq_append` says that nothing is
lost between them. `shapes` lists all shapes of a text from left to right: a shape that starts inside another one is not
listed.
-/
import Transclude.Text.Classes

namespace Transclude.Directive

/-- the word every directive starts with -/
def keyword : Text := ['@', 'i', 'm', 'p', 'o', 'r', 't']

/-- the parts of a directive between its fixed characters -/
structure Shape where
  /-- the blanks between the keyword and the path -/
  gap : Text
  path : Text
  /-- the blanks in front of the braces, and the text between them -/
  options : Option (Text × Text)
deriving DecidableEq, Repr

namespace Shape

/-- the braces of a shape as they are written -/
def optionsText : Option (Text × Text) → Text
  | none => []
  | some (gap, interior) => gap ++ '{' :: (interior ++ ['}'])

/-- a shape as it is written -/
def text (s : Shape) : Text := keyword ++ s.gap ++ '"' :: (s.path ++ '"' :: optionsText s.options)

/-! ## Reading -/

/-- a non-empty run of blanks, the opening character, the characters up to the closing one, and what follows -/
def enclosed? (opening closing : Char) (t : Text) : Option (Text × Text × Text) :=
  match t.takeWhile Text.isBlank, t.dropWhile Text.isBlank with
  | b :: gap, c :: rest =>
    if c = opening then (Text.upTo? closing rest).map fun (inner, rest) => (b :: gap, inner, rest) else none
  | _, _ => none

/-- the braces that a text starts with, behind blanks, and what follows them -/
def options? (t : Text) : Option (Text × Text) × Text :=
  match enclosed? '{' '}' t with
  | some (gap, interior, rest) => (some (gap, interior), rest)
  | none => (none, t)

/-- the shape that a text starts with, and what follows it -/
def head? (t : Text) : Option (Shape × Text) :=
  match (Text.after? keyword t).bind (enclosed? '"' '"') with
  | some (gap, p :: path, rest) =>
    let (options, rest) := options? rest
    some ({ gap, path := p :: path, options }, rest)
  | _ => none

/-! ## Nothing is lost -/

theorem eq_append_of_enclosed? {opening closing : Char} {t gap inner rest : Text}
    (h : enclosed? opening closing t = some (gap, inner, rest)) :
    t = gap ++ opening :: (inner ++ closing :: rest) := by
  unfold enclosed? at h
  split at h
  · next b gap' c rest' hg hr =>
    split at h
    · next hc =>
      obtain ⟨⟨inner', rest''⟩, hu, he⟩ := Option.map_eq_some_iff.1 h
      simp only [Prod.mk.injEq] at he
      have ht := List.takeWhile_append_dropWhile (p := Text.isBlank) (l := t)
      rw [← ht, hg, hr, hc, Text.eq_append_of_upTo? hu, he.1, he.2.1, he.2.2]
    · simp at h
  · simp at h

theorem eq_append_of_options? (t : Text) : t = optionsText (options? t).1 ++ (options? t).2 := by
  unfold options?
  split
  · next gap interior rest h => simpa [optionsText] using eq_append_of_enclosed? h
  · simp [optionsText]

/-- a text that starts with a shape is that shape as written, and what follows it -/
theorem head?_eq_append {t rest : Text} {s : Shape} (h : head? t = some (s, rest)) : t = s.text ++ rest := by
  unfold head? at h
  split at h
  · next gap p path rest' hb =>
    obtain ⟨u, hu, he⟩ := Option.bind_eq_some_iff.1 hb
    have ho := eq_append_of_options? rest'
    simp only [Option.some.injEq, Prod.mk.injEq] at h
    rw [Text.eq_append_of_after? hu, eq_append_of_enclosed? he, ← h.1, ← h.2]
    simp [text, ← ho]
  · simp at h

/-- a written shape is never empty -/
theorem text_ne_nil (s : Shape) : s.text ≠ [] := by
  simp [text, keyword]

end Shape

/-- the shapes of a text with their offsets, where `offset` is the offset of the text's first character and the first
`skip` characters belong to an earlier shape -/
def shapesFrom (offset : Nat) : (skip : Nat) → Text → List (Nat × Shape)
  | _, [] => []
  | skip + 1, _ :: rest => shapesFrom (offset + 1) skip rest
  | 0, c :: rest =>
    match Shape.head? (c :: rest) with
    | some (shape, _) => (offset, shape) :: shapesFrom (offset + 1) (shape.text.length - 1) rest
    | none => shapesFrom (offset + 1) 0 rest

/-- the shapes of a text with their offsets, from left to right -/
def shapes (t : Text) : List (Nat × Shape) := shapesFrom 0 0 t

end Transclude.Directive
