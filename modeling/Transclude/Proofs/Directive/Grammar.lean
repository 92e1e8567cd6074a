/-
The grammar of directives, told without the reader.

A directive opens with the keyword, blanks and a quoted path (`Opens`). What stands behind the closing quotation mark
decides how it ends (`Ends`): blanks and text in braces belong to it, anything else does not. `Enclosed` is the part that
both have in common, text between two characters behind blanks.

- `head?_eq_some_iff`: the reader finds a shape exactly where the grammar has one, and cuts it off where the grammar says.
- `Opens.unique`, `Ends.unique`: a text has one reading at most.
-/
import Transclude.Directive.Shape
import Transclude.Proofs.Text.Cutting

namespace Transclude.Directive

/-! ## Text between two characters -/

/-- `t` is a run of blanks, `inner` between the two characters, and `rest` -/
structure Enclosed (opening closing : Char) (t gap inner rest : Text) : Prop where
  eq : t = gap ++ opening :: (inner ++ closing :: rest)
  gap_ne_nil : gap ≠ []
  blank : ∀ c ∈ gap, Text.isBlank c = true
  unclosed : closing ∉ inner

theorem Shape.enclosed_of_enclosed? {opening closing : Char} {t gap inner rest : Text}
    (h : Shape.enclosed? opening closing t = some (gap, inner, rest)) : Enclosed opening closing t gap inner rest := by
  have heq := Shape.eq_append_of_enclosed? h
  unfold Shape.enclosed? at h
  split at h
  · rename_i b gap' c rest' hg _
    split at h
    · obtain ⟨⟨inner', rest''⟩, hu, he⟩ := Option.map_eq_some_iff.1 h
      simp only [Prod.mk.injEq] at he
      obtain ⟨rfl, rfl, rfl⟩ := he
      refine ⟨heq, List.cons_ne_nil _ _, fun a ha => ?_, (Text.upTo?_eq_some_iff.1 hu).2⟩
      rw [← hg] at ha
      exact List.mem_takeWhile_imp ha
    · simp at h
  · simp at h

theorem Enclosed.enclosed? {opening closing : Char} {t gap inner rest : Text}
    (h : Enclosed opening closing t gap inner rest) (ho : Text.isBlank opening = false) :
    Shape.enclosed? opening closing t = some (gap, inner, rest) := by
  obtain ⟨b, gap', rfl⟩ := List.exists_cons_of_ne_nil h.gap_ne_nil
  have hopening : ∀ c ∈ (opening :: (inner ++ closing :: rest)).head?, Text.isBlank c = false := by simp [ho]
  have ht : t.takeWhile Text.isBlank = b :: gap' := by rw [h.eq, Text.takeWhile_run h.blank hopening]
  have hd : t.dropWhile Text.isBlank = opening :: (inner ++ closing :: rest) := by
    rw [h.eq, Text.dropWhile_run h.blank hopening]
  simp only [Shape.enclosed?, ht, hd, if_true, Text.upTo?_append rest h.unclosed, Option.map_some]

theorem Enclosed.unique {opening closing : Char} {t gap inner rest gap' inner' rest' : Text}
    (ho : Text.isBlank opening = false) (h : Enclosed opening closing t gap inner rest)
    (h' : Enclosed opening closing t gap' inner' rest') : gap = gap' ∧ inner = inner' ∧ rest = rest' := by
  have he := (h.enclosed? ho).symm.trans (h'.enclosed? ho)
  simpa using he

/-! ## How a directive opens and ends -/

/-- `t` starts with the keyword, blanks and a quoted path that is not empty; `rest` is behind the closing quotation mark -/
structure Opens (t gap path rest : Text) : Prop where
  quoted : ∃ u, t = keyword ++ u ∧ Enclosed '"' '"' u gap path rest
  path_ne_nil : path ≠ []

/-- what stands behind the path: braces belong to the directive if they follow behind blanks and are closed again -/
inductive Ends (t : Text) : (options : Option (Text × Text)) → (rest : Text) → Prop
  | braces {gap interior rest : Text} (h : Enclosed '{' '}' t gap interior rest) : Ends t (some (gap, interior)) rest
  | bare (h : ∀ gap interior rest, ¬ Enclosed '{' '}' t gap interior rest) : Ends t none t

theorem blank_quote : Text.isBlank '"' = false := by decide

theorem blank_brace : Text.isBlank '{' = false := by decide

theorem Opens.unique {t gap path rest gap' path' rest' : Text} (h : Opens t gap path rest)
    (h' : Opens t gap' path' rest') : gap = gap' ∧ path = path' ∧ rest = rest' := by
  obtain ⟨u, hu, he⟩ := h.quoted
  obtain ⟨u', hu', he'⟩ := h'.quoted
  have huu : u = u' := List.append_cancel_left (hu.symm.trans hu')
  exact he.unique blank_quote (huu ▸ he')

theorem ends_options? (t : Text) : Ends t (Shape.options? t).1 (Shape.options? t).2 := by
  unfold Shape.options?
  split
  · rename_i gap interior rest h
    exact .braces (Shape.enclosed_of_enclosed? h)
  · rename_i h
    refine .bare fun gap interior rest he => ?_
    rw [he.enclosed? blank_brace] at h
    simp at h

theorem Ends.unique {t rest rest' : Text} {options options' : Option (Text × Text)} (h : Ends t options rest)
    (h' : Ends t options' rest') : options = options' ∧ rest = rest' := by
  cases h with
  | braces he =>
    cases h' with
    | braces he' => obtain ⟨rfl, rfl, rfl⟩ := he.unique blank_brace he'; exact ⟨rfl, rfl⟩
    | bare hn => exact absurd he (hn _ _ _)
  | bare hn =>
    cases h' with
    | braces he' => exact absurd he' (hn _ _ _)
    | bare _ => exact ⟨rfl, rfl⟩

/-! ## The reader follows the grammar -/

/-- **The reader and the grammar agree.** A shape is read exactly where a directive opens, with its path and its end. -/
theorem head?_eq_some_iff {t rest : Text} {s : Shape} :
    Shape.head? t = some (s, rest) ↔ ∃ behind, Opens t s.gap s.path behind ∧ Ends behind s.options rest := by
  constructor
  · intro h
    unfold Shape.head? at h
    split at h
    · rename_i gap p path behind hb
      obtain ⟨u, hu, he⟩ := Option.bind_eq_some_iff.1 hb
      simp only [Option.some.injEq, Prod.mk.injEq] at h
      obtain ⟨rfl, rfl⟩ := h
      exact ⟨behind, ⟨⟨u, Text.eq_append_of_after? hu, Shape.enclosed_of_enclosed? he⟩, List.cons_ne_nil _ _⟩,
        ends_options? behind⟩
    · simp at h
  · rintro ⟨behind, ⟨⟨u, hu, he⟩, hp⟩, hends⟩
    obtain ⟨gap, path, options⟩ := s
    obtain ⟨p, path, rfl⟩ := List.exists_cons_of_ne_nil hp
    have ho := (ends_options? behind).unique hends
    simp only [Shape.head?, Text.after?_eq_some_iff.2 hu, Option.bind_some, he.enclosed? blank_quote, ho.1, ho.2]

/-- where a directive opens, the reader finds a shape with its path -/
theorem Opens.exists_head? {t gap path behind : Text} (h : Opens t gap path behind) :
    ∃ s rest, Shape.head? t = some (s, rest) ∧ s.gap = gap ∧ s.path = path ∧ Ends behind s.options rest :=
  ⟨⟨gap, path, (Shape.options? behind).1⟩, (Shape.options? behind).2,
    head?_eq_some_iff.2 ⟨behind, h, ends_options? behind⟩, rfl, rfl, ends_options? behind⟩

end Transclude.Directive
