/-
Writing directives into prose, and finding them again.

A directive is written with any blanks between its parts, and with any assignments between its braces. `interleave` puts
directives and chunks of prose one behind the other; prose has neither the first character of the keyword nor an opening brace,
so no chunk starts a directive or goes on with one.

- `head?_append`: a written directive is read as it was written, whatever follows that is no opening brace behind blanks.
- `scan_interleave`: scanning undoes writing. The directives are found at their offsets, with their paths and their bounds.
-/
import Transclude.Proofs.Directive.Assigning
import Transclude.Proofs.Directive.Scanning

namespace Transclude.Directive

/-- a run of blanks that is not empty -/
abbrev Gap := { t : Text // t ≠ [] ∧ ∀ c ∈ t, Text.isBlank c = true }

/-- a path as it can stand between quotation marks -/
abbrev QuotedPath := { t : Text // t ≠ [] ∧ '"' ∉ t }

/-- text between directives -/
abbrev Prose := { t : Text // '@' ∉ t ∧ '{' ∉ t }

/-- a directive as it may be written: blanks, a path, and assignments behind further blanks -/
structure Written where
  gap : Gap
  path : QuotedPath
  options : Option (Gap × Assignments)

namespace Written

/-- the shape that a directive is written in -/
def shape (d : Written) : Shape where
  gap := d.gap.1
  path := d.path.1
  options := d.options.map fun (gap, as) => (gap.1, as.interior)

/-- a directive as it is written -/
def text (d : Written) : Text := d.shape.text

/-- the first value that is written for a bound -/
def first? (d : Written) (b : BoundKey) : Option Int := d.options.bind fun (_, as) => as.first? b

/-- the directive that is written -/
def directive (d : Written) : Directive where
  path := d.path.1
  lineBegin := d.first? .lineBegin
  lineEnd := d.first? .lineEnd
  raw := d.text

end Written

/-- prose, and directives with prose behind each -/
def interleave (chunk : Prose) (ds : List (Written × Prose)) : Text :=
  chunk.1 ++ ds.flatMap fun (d, chunk) => d.text ++ chunk.1

/-- the directives with their places, where the first one stands at `offset` -/
def places (offset : ℕ) : List (Written × Prose) → List Occurrence
  | [] => []
  | (d, chunk) :: ds =>
    { directive := d.directive, start := offset, stop := offset + d.text.length } ::
      places (offset + d.text.length + chunk.1.length) ds

/-! ## One directive -/

theorem not_mem_interior (as : Assignments) : '}' ∉ as.interior := by
  intro h
  have hblank : ∀ b : Blanks, '}' ∉ b.1 := fun b hb => absurd (b.2 _ hb) (by decide)
  rcases List.mem_append.1 h with h | h
  · obtain ⟨a, -, h⟩ := List.mem_flatMap.1 h
    simp only [Assignment.text, List.mem_append, List.mem_cons] at h
    rcases h with h | (h | h) | h | h | h
    · exact hblank _ h
    · exact absurd (a.entry.isKeyChar_of_mem_key _ h) (by decide)
    · exact hblank _ h
    · exact absurd h (by decide)
    · exact hblank _ h
    · exact (a.entry.mem_value _ h).2.2 rfl
  · exact hblank _ h

/-- a directive opens where it is written -/
theorem opens_append (d : Written) (rest : Text) :
    Opens (d.text ++ rest) d.gap.1 d.path.1 (Shape.optionsText d.shape.options ++ rest) := by
  refine ⟨⟨d.gap.1 ++ '"' :: (d.path.1 ++ '"' :: (Shape.optionsText d.shape.options ++ rest)), ?_,
    rfl, d.gap.2.1, d.gap.2.2, d.path.2.2⟩, d.path.2.1⟩
  simp [Written.text, Shape.text, Written.shape]

/-- and it ends where it does, if no brace follows that could belong to it -/
theorem ends_append (d : Written) {rest : Text} (h : ∀ gap interior more, ¬ Enclosed '{' '}' rest gap interior more) :
    Ends (Shape.optionsText d.shape.options ++ rest) d.shape.options rest := by
  unfold Written.shape
  cases d.options with
  | none => exact .bare h
  | some options =>
    obtain ⟨gap, as⟩ := options
    refine .braces ⟨?_, gap.2.1, gap.2.2, not_mem_interior as⟩
    simp [Shape.optionsText]

/-- **A written directive is read as it was written.** -/
theorem head?_append (d : Written) {rest : Text} (h : ∀ gap interior more, ¬ Enclosed '{' '}' rest gap interior more) :
    Shape.head? (d.text ++ rest) = some (d.shape, rest) :=
  head?_eq_some_iff.2 ⟨_, opens_append d rest, ends_append d h⟩

theorem read_interior (as : Assignments) :
    Bounds.read as.interior = .ok { lineBegin := as.first? .lineBegin, lineEnd := as.first? .lineEnd } := by
  rw [read_eq, bound?_interior, bound?_interior]
  rfl

theorem ofShape_written (d : Written) : Directive.ofShape d.shape = .ok d.directive := by
  obtain ⟨gap, path, options⟩ := d
  cases options with
  | none => rfl
  | some options =>
    obtain ⟨gap', as⟩ := options
    rw [Directive.ofShape]
    simp only [Written.shape, Option.map_some, read_interior]
    rfl

/-! ## Prose -/

/-- what follows a directive is prose and then nothing or another directive -/
theorem not_enclosed_interleave (chunk : Prose) (ds : List (Written × Prose)) (gap interior more : Text) :
    ¬ Enclosed '{' '}' (interleave chunk ds) gap interior more := by
  rintro ⟨heq, -, hblank, -⟩
  rcases List.append_eq_append_iff.1 heq with ⟨m, rfl, hm⟩ | ⟨m, hchunk, hm⟩
  · -- the blanks go on behind the prose, where nothing stands or the keyword
    cases ds with
    | nil =>
      obtain ⟨-, hbrace⟩ := List.append_eq_nil_iff.1 hm.symm
      cases hbrace
    | cons d ds =>
      have hat : ∃ u, (d :: ds).flatMap (fun (d, chunk) => d.text ++ chunk.1) = '@' :: u := ⟨_, rfl⟩
      obtain ⟨u, hu⟩ := hat
      rw [hu] at hm
      cases m with
      | nil => exact absurd (List.cons.inj hm).1 (by decide)
      | cons c m =>
        obtain rfl := (List.cons.inj hm).1
        exact absurd (hblank '@' (List.mem_append_right _ List.mem_cons_self)) (by decide)
  · cases m with
    | nil =>
      cases ds with
      | nil => cases hm
      | cons d ds => exact absurd (List.cons.inj hm).1 (by decide)
    | cons c m =>
      obtain rfl := (List.cons.inj hm).1
      exact chunk.2.2 (hchunk ▸ List.mem_append_right _ List.mem_cons_self)

/-- the characters of a directive that was found are passed -/
theorem shapesFrom_skip (offset : ℕ) (u rest : Text) :
    shapesFrom offset u.length (u ++ rest) = shapesFrom (offset + u.length) 0 rest := by
  induction u generalizing offset with
  | nil => rfl
  | cons c u ih =>
    rw [List.length_cons, List.cons_append, shapesFrom, ih]
    congr 1
    omega

/-- no directive starts in prose -/
theorem shapesFrom_prose (offset : ℕ) {u : Text} (hu : '@' ∉ u) (rest : Text) :
    shapesFrom offset 0 (u ++ rest) = shapesFrom (offset + u.length) 0 rest := by
  induction u generalizing offset with
  | nil => rfl
  | cons c u ih =>
    obtain ⟨hc, hu⟩ := not_or.1 (mt List.mem_cons.2 hu)
    have hnone : Shape.head? (c :: (u ++ rest)) = none := by
      simp [Shape.head?, keyword, Text.after?, hc]
    rw [List.cons_append, shapesFrom, hnone, List.length_cons]
    simp only [ih _ hu]
    congr 1
    omega

theorem shapesFrom_written (offset : ℕ) (d : Written) {rest : Text}
    (h : ∀ gap interior more, ¬ Enclosed '{' '}' rest gap interior more) :
    shapesFrom offset 0 (d.text ++ rest) = (offset, d.shape) :: shapesFrom (offset + d.text.length) 0 rest := by
  obtain ⟨c, u, hu⟩ := List.exists_cons_of_ne_nil d.shape.text_ne_nil
  have hhead := head?_append d h
  rw [Written.text, hu, List.cons_append] at hhead ⊢
  rw [shapesFrom, hhead]
  simp only [hu, List.length_cons, Nat.add_sub_cancel, shapesFrom_skip]
  congr 2
  omega

/-! ## All directives -/

/-- the shapes of the written directives, where the first one stands at `offset` -/
theorem forall₂_places (offset : ℕ) (ds : List (Written × Prose)) :
    List.Forall₂ (fun p o => Occurrence.ofShape p.1 p.2 = .ok o)
      (shapesFrom offset 0 (ds.flatMap fun (d, chunk) => d.text ++ chunk.1)) (places offset ds) := by
  induction ds generalizing offset with
  | nil => exact .nil
  | cons d ds ih =>
    obtain ⟨d, chunk⟩ := d
    have hshapes := shapesFrom_written offset d (not_enclosed_interleave chunk ds)
    unfold interleave at hshapes
    rw [List.flatMap_cons, List.append_assoc, hshapes, shapesFrom_prose _ chunk.2.1, places]
    refine .cons ?_ (ih _)
    rw [Occurrence.ofShape, ofShape_written]
    rfl

/-- **Scanning undoes writing.** However many directives stand in a text, with any prose in front of them, between them and
behind them, with any blanks between their parts, and with any assignments between their braces: each is found at its offset,
with its source, its path, and the first value that is written for each bound, and nothing else is found. -/
theorem scan_interleave (chunk : Prose) (ds : List (Written × Prose)) :
    scan (interleave chunk ds) = .ok (places chunk.1.length ds) := by
  rw [scan_eq_ok_iff, shapes, interleave, shapesFrom_prose 0 chunk.2.1, Nat.zero_add]
  exact forall₂_places _ ds

end Transclude.Directive
