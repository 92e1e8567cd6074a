/-
Cutting text. The functions that cut a text are told by equations between texts: what a cut gives is what the text was put
together from.

- `after?_eq_some_iff`: a text starts with a fragment exactly when it is the fragment and a rest.
- `takeWhile_run`, `dropWhile_run`: a run is cut off where a character is not of its class.
- `upTo?_eq_some_iff`: the text up to a closing character is the part without that character.
- `split_join`: the pieces of a joined text are the pieces it was joined from. With `join_split`, cutting and joining are
  inverse to each other on pieces without the separator.
- `join_map_join`: pieces may be joined in groups first.
-/
import Mathlib.Data.List.TakeWhile
import Mathlib.Tactic
import Transclude.Text.Basic

namespace Transclude.Text

/-! ## A fragment at the front -/

theorem after?_append (head rest : Text) : after? head (head ++ rest) = some rest := by
  induction head with
  | nil => rfl
  | cons c head ih => simp only [List.cons_append, after?, ite_true, ih]

theorem after?_eq_some_iff {head t rest : Text} : after? head t = some rest ↔ t = head ++ rest := by
  refine ⟨eq_append_of_after?, fun h => ?_⟩
  rw [h]
  exact after?_append head rest

/-- a fragment that the text starts with at some offset occurs in it -/
theorem occurs_of_drop {part t rest : Text} {i : ℕ} (h : t.drop i = part ++ rest) : occurs part t = true := by
  induction t generalizing i with
  | nil =>
    rw [List.drop_nil] at h
    have hp : part = [] := (List.append_eq_nil_iff.1 h.symm).1
    simp [occurs, hp]
  | cons c t ih =>
    cases i with
    | zero =>
      rw [List.drop_zero] at h
      have hs : startsWith part (c :: t) = true := by rw [startsWith, h, after?_append]; rfl
      simp [occurs, hs]
    | succ i =>
      rw [List.drop_succ_cons] at h
      simp [occurs, ih h]

/-! ## Runs at the front -/

/-- a run ends where a character is not of its class -/
theorem takeWhile_run {p : Char → Bool} {run rest : Text} (hrun : ∀ c ∈ run, p c = true)
    (hrest : ∀ c ∈ rest.head?, p c = false) : (run ++ rest).takeWhile p = run := by
  rw [List.takeWhile_append_of_pos hrun]
  cases rest with
  | nil => rw [List.takeWhile_nil, List.append_nil]
  | cons c rest => rw [List.takeWhile_cons_of_neg (by simp [hrest c rfl]), List.append_nil]

theorem dropWhile_run {p : Char → Bool} {run rest : Text} (hrun : ∀ c ∈ run, p c = true)
    (hrest : ∀ c ∈ rest.head?, p c = false) : (run ++ rest).dropWhile p = rest := by
  rw [List.dropWhile_append_of_pos hrun]
  cases rest with
  | nil => rfl
  | cons c rest => rw [List.dropWhile_cons_of_neg (by simp [hrest c rfl])]

/-- what stands behind a run does not go on with it -/
theorem head?_dropWhile_eq_false (p : Char → Bool) (t : Text) : ∀ c ∈ (t.dropWhile p).head?, p c = false := by
  intro c hc
  have hhead := List.head?_dropWhile_not p t
  rw [Option.mem_def] at hc
  rw [hc] at hhead
  simpa using hhead

/-! ## Trimming -/

/-- trimming stops in the back, unless all of it goes -/
theorem trimRight_append (p : Char → Bool) (a b : Text) :
    trimRight p (a ++ b) = if trimRight p b = [] then trimRight p a else a ++ trimRight p b := by
  unfold trimRight
  rw [List.reverse_append, List.dropWhile_append]
  by_cases h : b.reverse.dropWhile p = []
  · simp [h]
  · simp [h]

/-! ## Up to a closing character -/

theorem upTo?_append {close : Char} {inner : Text} (rest : Text) (h : close ∉ inner) :
    upTo? close (inner ++ close :: rest) = some (inner, rest) := by
  have hp : ∀ c ∈ inner, (c != close) = true := fun c hc => by
    simp only [bne_iff_ne, ne_eq]
    rintro rfl
    exact h hc
  have hclose : ∀ c ∈ (close :: rest).head?, (c != close) = false := by simp
  have hd : (inner ++ close :: rest).dropWhile (· != close) = close :: rest := dropWhile_run hp hclose
  have ht : (inner ++ close :: rest).takeWhile (· != close) = inner := takeWhile_run hp hclose
  simp only [upTo?, hd, ht]

theorem not_mem_of_upTo? {close : Char} {t inner rest : Text} (h : upTo? close t = some (inner, rest)) :
    close ∉ inner := by
  unfold upTo? at h
  split at h
  · simp at h
  · simp only [Option.some.injEq, Prod.mk.injEq] at h
    rw [← h.1]
    intro hc
    simpa using List.mem_takeWhile_imp hc

theorem upTo?_eq_some_iff {close : Char} {t inner rest : Text} :
    upTo? close t = some (inner, rest) ↔ t = inner ++ close :: rest ∧ close ∉ inner := by
  refine ⟨fun h => ⟨eq_append_of_upTo? h, not_mem_of_upTo? h⟩, fun ⟨ht, hc⟩ => ?_⟩
  rw [ht]
  exact upTo?_append rest hc

/-! ## Pieces -/

theorem split_of_not_mem {sep : Char} {t : Text} (h : sep ∉ t) : split sep t = [t] := by
  induction t with
  | nil => rfl
  | cons c t ih =>
    have hc : c ≠ sep := fun e => h (e ▸ List.mem_cons_self)
    have ht : sep ∉ t := fun hm => h (List.mem_cons_of_mem c hm)
    simp only [split, if_neg hc, ih ht]

/-- a text without a separator is the front of the first piece -/
theorem split_append_of_not_mem {sep : Char} {a : Text} (h : sep ∉ a) (b : Text) :
    split sep (a ++ b) = (split sep b).modifyHead (a ++ ·) := by
  induction a with
  | nil =>
    rw [List.nil_append]
    cases split sep b <;> rfl
  | cons c a ih =>
    obtain ⟨hc, ha⟩ := not_or.1 (mt List.mem_cons.2 h)
    obtain ⟨piece, pieces, hb⟩ := List.exists_cons_of_ne_nil (split_ne_nil sep b)
    rw [List.cons_append, split, if_neg (Ne.symm hc), ih ha, hb]
    rfl

/-- a separator ends a piece, whatever stands in front of it and behind it -/
theorem split_append (sep : Char) (a b : Text) : split sep (a ++ sep :: b) = split sep a ++ split sep b := by
  induction a with
  | nil => simp [split]
  | cons c a ih =>
    have hne := split_ne_nil sep a
    simp only [List.cons_append, split, ih]
    cases hs : split sep a with
    | nil => exact absurd hs hne
    | cons piece pieces =>
      by_cases hc : c = sep
      · simp [hc]
      · simp [hc]

theorem not_mem_of_mem_split {sep : Char} {t piece : Text} (h : piece ∈ split sep t) : sep ∉ piece := by
  induction t generalizing piece with
  | nil => simp [split] at h; simp [h]
  | cons c t ih =>
    have hne := split_ne_nil sep t
    cases hs : split sep t with
    | nil => exact absurd hs hne
    | cons first pieces =>
      rw [hs] at ih
      by_cases hc : c = sep
      · simp only [split, if_pos hc, List.mem_cons, hs] at h
        rcases h with rfl | h
        · simp
        · exact ih (List.mem_cons.2 h)
      · simp only [split, if_neg hc, hs, List.mem_cons] at h
        rcases h with rfl | h
        · have hf : sep ∉ first := ih List.mem_cons_self
          simp [Ne.symm hc, hf]
        · exact ih (List.mem_cons_of_mem first h)

theorem mem_of_mem_split {sep c : Char} {t piece : Text} (hc : c ∈ piece) (h : piece ∈ split sep t) : c ∈ t := by
  induction t generalizing piece with
  | nil =>
    rw [split, List.mem_singleton] at h
    rwa [h] at hc
  | cons d t ih =>
    obtain ⟨first, pieces, hs⟩ := List.exists_cons_of_ne_nil (split_ne_nil sep t)
    rw [split, hs] at h
    rw [hs] at ih
    split at h
    · rcases List.mem_cons.1 h with rfl | h
      · exact absurd hc List.not_mem_nil
      · exact List.mem_cons_of_mem d (ih hc h)
    · rcases List.mem_cons.1 h with rfl | h
      · rcases List.mem_cons.1 hc with rfl | hc
        · exact List.mem_cons_self
        · exact List.mem_cons_of_mem d (ih hc List.mem_cons_self)
      · exact List.mem_cons_of_mem d (ih hc (List.mem_cons_of_mem first h))

theorem join_cons (sep : Text) (piece : Text) {pieces : List Text} (h : pieces ≠ []) :
    join sep (piece :: pieces) = piece ++ sep ++ join sep pieces := by
  cases pieces with
  | nil => exact absurd rfl h
  | cons next pieces => rfl

/-- a character of a joined text comes from a piece, or from what stands between them -/
theorem mem_of_mem_join {sep : Text} {parts : List Text} {c : Char} (h : c ∈ join sep parts) :
    c ∈ sep ∨ ∃ part ∈ parts, c ∈ part := by
  induction parts with
  | nil => exact absurd h List.not_mem_nil
  | cons part parts ih =>
    cases parts with
    | nil => exact Or.inr ⟨part, List.mem_cons_self, h⟩
    | cons next parts =>
      rcases List.mem_append.1 h with h | h
      · rcases List.mem_append.1 h with h | h
        · exact Or.inr ⟨part, List.mem_cons_self, h⟩
        · exact Or.inl h
      · rcases ih h with h | ⟨part', hpart', h⟩
        · exact Or.inl h
        · exact Or.inr ⟨part', List.mem_cons_of_mem _ hpart', h⟩

/-- joining loses nothing when no piece holds the separator -/
theorem split_join {sep : Char} {pieces : List Text} (hne : pieces ≠ []) (h : ∀ p ∈ pieces, sep ∉ p) :
    split sep (join [sep] pieces) = pieces := by
  induction pieces with
  | nil => exact absurd rfl hne
  | cons piece pieces ih =>
    have hp : split sep piece = [piece] := split_of_not_mem (h piece List.mem_cons_self)
    by_cases he : pieces = []
    · rw [he]
      exact hp
    · rw [join_cons _ _ he, List.append_assoc, List.singleton_append, split_append, hp,
        ih he fun p hm => h p (List.mem_cons_of_mem piece hm), List.singleton_append]

theorem length_split (sep : Char) (t : Text) : (split sep t).length = t.count sep + 1 := by
  induction t with
  | nil => rfl
  | cons c t ih =>
    obtain ⟨piece, pieces, hs⟩ := List.exists_cons_of_ne_nil (split_ne_nil sep t)
    rw [hs] at ih
    by_cases hc : c = sep
    · rw [split, if_pos hc, hs, List.length_cons, ih, hc, List.count_cons_self]
    · rw [split, if_neg hc, hs, List.count_cons_of_ne hc, ← ih]
      rfl

theorem join_append (sep : Text) {front back : List Text} (hfront : front ≠ []) (hback : back ≠ []) :
    join sep (front ++ back) = join sep front ++ sep ++ join sep back := by
  induction front with
  | nil => exact absurd rfl hfront
  | cons piece front ih =>
    by_cases he : front = []
    · rw [he, List.singleton_append, join_cons sep piece hback]
      rfl
    · have hne : front ++ back ≠ [] := fun h => he (List.append_eq_nil_iff.1 h).1
      rw [List.cons_append, join_cons sep piece hne, join_cons sep piece he, ih he]
      simp only [List.append_assoc]

/-- groups of pieces are joined like the pieces, where no group is empty -/
theorem join_map_join (sep : Text) {groups : List (List Text)} (h : ∀ g ∈ groups, g ≠ []) :
    join sep (groups.map (join sep)) = join sep groups.flatten := by
  induction groups with
  | nil => rfl
  | cons g groups ih =>
    have hg : g ≠ [] := h g List.mem_cons_self
    have hgroups : ∀ g ∈ groups, g ≠ [] := fun x hx => h x (List.mem_cons_of_mem g hx)
    by_cases he : groups = []
    · simp [he, join]
    · have hrest : groups.flatten ≠ [] := by
        intro hnil
        obtain ⟨g', hg'⟩ := List.exists_mem_of_ne_nil groups he
        exact hgroups g' hg' (List.flatten_eq_nil_iff.1 hnil g' hg')
      have hmap : groups.map (join sep) ≠ [] := fun h => he (List.map_eq_nil_iff.1 h)
      rw [List.map_cons, join_cons sep _ hmap, ih hgroups, List.flatten_cons, join_append sep hg hrest]

end Transclude.Text
