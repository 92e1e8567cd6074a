/-
What markup shows: the text that is left when its tags are taken out and its references are replaced.

`untag` takes tags out without reading them, so what it says of a markup text is said of every reader that knows at least where
tags are. `Displays` says what a part of a markup text adds to the tags and to the text, whatever follows it, so parts can be put
one behind the other.

- `unescapes_escaped`: escaped text is unescaped to itself, in front of any other text, whatever is done with quotation marks.
- `Displays.append`, `Displays.tag`, `Displays.escaped`: the parts that blocks are made of.
- `Displays.untag_eq`: a text shows what its parts show.
-/
import Mathlib.Tactic
import Transclude.Markup.Escape
import Transclude.Markup.Reference
import Transclude.Proofs.Text.Cutting

namespace Transclude.Markup

/-- the tags of a markup text, and the text between them; a tag goes from `<` to the next `>` -/
def untag : Text → List Text × Text
  | [] => ([], [])
  | c :: t =>
    if c = '<' then
      match _h : Text.upTo? '>' t with
      | some (inner, rest) => (('<' :: (inner ++ ['>'])) :: (untag rest).1, (untag rest).2)
      | none => ((untag t).1, '<' :: (untag t).2)
    else ((untag t).1, c :: (untag t).2)
termination_by t => t.length
decreasing_by
  · have := Text.length_upTo?_lt _h
    simp only [List.length_cons]
    omega
  · simp
  · simp

theorem untag_tag {inner : Text} (h : '>' ∉ inner) (rest : Text) :
    untag ('<' :: (inner ++ ['>']) ++ rest) = (('<' :: (inner ++ ['>'])) :: (untag rest).1, (untag rest).2) := by
  have hcut : Text.upTo? '>' (inner ++ '>' :: rest) = some (inner, rest) := Text.upTo?_append rest h
  rw [List.cons_append, List.append_assoc, List.singleton_append, untag, if_pos rfl]
  split
  · rename_i inner' rest' hsome
    obtain ⟨rfl, rfl⟩ := Prod.mk.inj (Option.some.inj (hcut.symm.trans hsome))
    rfl
  · rename_i hnone
    rw [hcut] at hnone
    cases hnone

/-- text without `<` is between tags -/
theorem untag_append_of_not_mem {t : Text} (h : '<' ∉ t) (rest : Text) :
    untag (t ++ rest) = ((untag rest).1, t ++ (untag rest).2) := by
  induction t with
  | nil => rfl
  | cons c t ih =>
    rw [List.mem_cons, not_or] at h
    rw [List.cons_append, untag, if_neg (Ne.symm h.1), ih h.2]
    rfl

/-! ## Replacing references -/

/-- the text is unescaped to `shown`, in front of any other text -/
def Unescapes (t shown : Text) : Prop := ∀ rest, unescape (t ++ rest) = (unescape rest).map (shown ++ ·)

theorem map_append_map (x : Except DigitLimit Text) (s t : Text) :
    (x.map (t ++ ·)).map (s ++ ·) = x.map (s ++ t ++ ·) := by
  cases x with
  | error e => rfl
  | ok u => simp [Except.map]

namespace Unescapes

theorem nil : Unescapes [] [] := by
  intro rest
  rw [List.nil_append]
  cases unescape rest with
  | error e => rfl
  | ok u => rfl

theorem append {t u shown more : Text} (ht : Unescapes t shown) (hu : Unescapes u more) :
    Unescapes (t ++ u) (shown ++ more) := by
  intro rest
  rw [List.append_assoc, ht, hu, map_append_map]

theorem char {c : Char} (h : c ≠ '&') : Unescapes [c] [c] := by
  intro rest
  rw [List.singleton_append, unescape, unescapeFrom, if_neg h, ← unescape]
  cases unescape rest with
  | error e => rfl
  | ok u => rfl

/-- a reference that stands for a character whatever follows it -/
theorem reference {name : Text} {c : Char} (h : ∀ rest, reference? (name ++ rest) = .ok (some ([c], rest))) :
    Unescapes ('&' :: name) [c] := by
  intro rest
  have hskip : ∀ (skipped rest : Text), unescapeFrom skipped.length (skipped ++ rest) = unescapeFrom 0 rest := by
    intro skipped rest
    induction skipped with
    | nil => rfl
    | cons d skipped ih => exact ih
  have hlength : (name ++ rest).length - rest.length = name.length := by simp
  rw [List.cons_append, unescape, unescapeFrom, if_pos rfl]
  simp only [h, bind, Except.bind, hlength, hskip]
  rw [← unescape]
  cases unescape rest with
  | error e => rfl
  | ok u => rfl

theorem flatMap {f : Char → Text} (h : ∀ c, Unescapes (f c) [c]) (t : Text) : Unescapes (t.flatMap f) t := by
  induction t with
  | nil => exact nil
  | cons c t ih =>
    rw [List.flatMap_cons]
    exact (h c).append ih

end Unescapes

theorem unescapes_reference {name : String} {c : Char} (h : (name, c) ∈ Escaping.references) :
    Unescapes ('&' :: (name.toList ++ [';'])) [c] := by
  simp only [Escaping.references, List.mem_cons, Prod.mk.injEq, List.not_mem_nil, or_false] at h
  rcases h with ⟨rfl, rfl⟩ | ⟨rfl, rfl⟩ | ⟨rfl, rfl⟩ | ⟨rfl, rfl⟩ | ⟨rfl, rfl⟩ | ⟨rfl, rfl⟩ | ⟨rfl, rfl⟩ | ⟨rfl, rfl⟩ | ⟨rfl, rfl⟩ <;>
    exact .reference fun rest => rfl

theorem unescapes_escapedChar (e : Escaping) (c : Char) : Unescapes (e.char c) [c] := by
  rcases e.char_eq_or_exists_reference c with ⟨hamp, -, hchar⟩ | ⟨name, hname, hchar⟩
  · rw [hchar]
    exact .char hamp
  · rw [hchar]
    exact unescapes_reference hname

/-- **Escaped text is unescaped to itself.** -/
theorem unescapes_escaped (e : Escaping) (t : Text) : Unescapes (e.text t) t := .flatMap (unescapes_escapedChar e) t

/-- without an ampersand a text is unescaped to itself -/
theorem unescapes_of_not_mem {t : Text} (h : '&' ∉ t) : Unescapes t t := by
  induction t with
  | nil => exact .nil
  | cons c t ih =>
    rw [List.mem_cons, not_or] at h
    exact (Unescapes.char (Ne.symm h.1)).append (ih h.2)

/-! ## What is shown -/

/-- a part of a markup text has these tags and shows this text, whatever follows it -/
def Displays (markup : Text) (tags : List Text) (shown : Text) : Prop :=
  ∃ bare, Unescapes bare shown ∧ ∀ rest, untag (markup ++ rest) = (tags ++ (untag rest).1, bare ++ (untag rest).2)

namespace Displays

variable {markup shown : Text} {tags : List Text}

theorem nil : Displays [] [] [] := ⟨[], .nil, fun _ => rfl⟩

theorem append {markup' shown' : Text} {tags' : List Text} (h : Displays markup tags shown) (h' : Displays markup' tags' shown') :
    Displays (markup ++ markup') (tags ++ tags') (shown ++ shown') := by
  obtain ⟨bare, hbare, huntag⟩ := h
  obtain ⟨bare', hbare', huntag'⟩ := h'
  refine ⟨bare ++ bare', hbare.append hbare', fun rest => ?_⟩
  rw [List.append_assoc, huntag, huntag', List.append_assoc, List.append_assoc]

/-- a tag shows nothing -/
theorem tag {inner : Text} (h : '>' ∉ inner) : Displays ('<' :: (inner ++ ['>'])) ['<' :: (inner ++ ['>'])] [] :=
  ⟨[], .nil, fun rest => untag_tag h rest⟩

/-- text without `<` has no tags -/
theorem of_not_mem (h : '<' ∉ markup) (hshown : Unescapes markup shown) : Displays markup [] shown :=
  ⟨markup, hshown, fun rest => untag_append_of_not_mem h rest⟩

theorem escaped (e : Escaping) (t : Text) : Displays (e.text t) [] t := by
  refine of_not_mem (fun hmem => ?_) (unescapes_escaped e t)
  obtain ⟨c, -, hc⟩ := List.mem_flatMap.1 hmem
  exact e.lt_not_mem_char c hc

/-- **What a text shows** is what its parts show. -/
theorem untag_eq (h : Displays markup tags shown) : (untag markup).1 = tags ∧ unescape (untag markup).2 = .ok shown := by
  obtain ⟨bare, hbare, huntag⟩ := h
  have hall := huntag []
  have hend := hbare []
  rw [List.append_nil, untag, List.append_nil, List.append_nil] at hall
  rw [List.append_nil] at hend
  rw [hall]
  refine ⟨rfl, hend.trans ?_⟩
  show Except.ok (shown ++ []) = _
  rw [List.append_nil]

end Displays

end Transclude.Markup
