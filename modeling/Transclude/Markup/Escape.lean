/-
Writing text into markup.

An ampersand and the signs of tags are always written as references. Quotation marks mean something in attribute values only,
and writers treat them differently: some leave them as they are, others write one reference or another for them. `Escaping` is
what a writer does with them. `escapeContent` is for text between tags, `escape` for text in any position.

Whatever the writer, a character is written as itself, and then it is no sign of markup, or as a reference that stands for it:
`Escaping.char_eq_or_exists_reference`.
-/
import Transclude.Text.Basic

namespace Transclude.Markup

/-- how a quotation mark is written: as it is, by its name, or by its number -/
inductive QuoteForm where
  | bare
  | named
  | decimal
  | hexadecimal
deriving DecidableEq, Repr

/-- how a writer treats the two quotation marks -/
structure Escaping where
  double : QuoteForm
  single : QuoteForm
deriving DecidableEq, Repr

namespace Escaping

/-- quotation marks are left as they are -/
def content : Escaping := ⟨.bare, .bare⟩

/-- quotation marks are written as references, which is good in any position -/
def anywhere : Escaping := ⟨.named, .hexadecimal⟩

/-- a reference for a double quotation mark -/
def doubleReference? : QuoteForm → Option String
  | .bare => none
  | .named => some "quot"
  | .decimal => some "#34"
  | .hexadecimal => some "#x22"

/-- a reference for a single quotation mark -/
def singleReference? : QuoteForm → Option String
  | .bare => none
  | .named => some "apos"
  | .decimal => some "#39"
  | .hexadecimal => some "#x27"

/-- the reference that is written for a character, if one is -/
def reference? (e : Escaping) (c : Char) : Option String :=
  if c = '&' then some "amp"
  else if c = '<' then some "lt"
  else if c = '>' then some "gt"
  else if c = '"' then doubleReference? e.double
  else if c = '\'' then singleReference? e.single
  else none

/-- a character as it is written -/
def char (e : Escaping) (c : Char) : Text :=
  match e.reference? c with
  | some name => '&' :: (name.toList ++ [';'])
  | none => [c]

/-- a text as it is written -/
def text (e : Escaping) (t : Text) : Text := t.flatMap e.char

/-- the references that can be written, with the characters that they stand for -/
def references : List (String × Char) :=
  [("amp", '&'), ("lt", '<'), ("gt", '>'), ("quot", '"'), ("#34", '"'), ("#x22", '"'), ("apos", '\''), ("#39", '\''),
   ("#x27", '\'')]

theorem mem_references_double {form : QuoteForm} {name : String} (h : doubleReference? form = some name) :
    (name, '"') ∈ references := by
  cases form <;> cases h <;> decide

theorem mem_references_single {form : QuoteForm} {name : String} (h : singleReference? form = some name) :
    (name, '\'') ∈ references := by
  cases form <;> cases h <;> decide

theorem mem_references_of_reference? {e : Escaping} {c : Char} {name : String} (h : e.reference? c = some name) :
    (name, c) ∈ references := by
  unfold reference? at h
  split at h
  · next hc => subst hc; cases h; decide
  · split at h
    · next hc => subst hc; cases h; decide
    · split at h
      · next hc => subst hc; cases h; decide
      · split at h
        · next hc => exact hc ▸ mem_references_double h
        · split at h
          · next hc => exact hc ▸ mem_references_single h
          · cases h

/-- **A character is written as itself**, and then it is no sign of markup, or as a reference that stands for it. -/
theorem char_eq_or_exists_reference (e : Escaping) (c : Char) :
    (c ≠ '&' ∧ c ≠ '<' ∧ e.char c = [c]) ∨
      ∃ name, (name, c) ∈ references ∧ e.char c = '&' :: (name.toList ++ [';']) := by
  unfold char
  cases h : e.reference? c with
  | none =>
    refine Or.inl ⟨?_, ?_, rfl⟩
    · rintro rfl
      cases h
    · rintro rfl
      cases h
  | some name => exact Or.inr ⟨name, mem_references_of_reference? h, rfl⟩

theorem char_ne_nil (e : Escaping) (c : Char) : e.char c ≠ [] := by
  unfold char
  split <;> exact List.cons_ne_nil _ _

/-- a character that is in none of the references is written for itself only -/
theorem eq_of_mem_char {e : Escaping} {c d : Char} (hd : ∀ r ∈ references, d ∉ '&' :: (r.1.toList ++ [';']))
    (h : d ∈ e.char c) : d = c ∧ c ≠ '<' := by
  rcases e.char_eq_or_exists_reference c with ⟨-, hlt, hchar⟩ | ⟨name, hname, hchar⟩
  · rw [hchar, List.mem_singleton] at h
    exact ⟨h, hlt⟩
  · rw [hchar] at h
    exact absurd h (hd _ hname)

/-- no tag begins in written text -/
theorem lt_not_mem_char (e : Escaping) (c : Char) : '<' ∉ e.char c := by
  intro h
  obtain ⟨hc, hlt⟩ := eq_of_mem_char (by decide) h
  exact hlt hc.symm

theorem lineFeed_not_mem_char (e : Escaping) {c : Char} (hc : c ≠ '\n') : '\n' ∉ e.char c :=
  fun h => hc (eq_of_mem_char (by decide) h).1.symm

end Escaping

/-- text between tags -/
def escapeContent (t : Text) : Text := Escaping.content.text t

/-- text in any position -/
def escape (t : Text) : Text := Escaping.anywhere.text t

end Transclude.Markup
