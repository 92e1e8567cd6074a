/-
The normal form of a path, by its segments.

Merging slashes and trimming them leaves the segments that are not empty, with one slash between neighbours, and the composed
normal form is taken segment by segment, because a slash cuts it. So the normal form of a path is known from its segments:

- `trim_mergeSlashes`, `composed_join`: the two stages on segments.
- `split_normalize`: the segments of the normal form are those of the path that are not empty, each in its own normal form,
  unless there is none; then the normal form is the root.
- `canonical_normalize_iff`: the normal form folds no dots, so it is canonical exactly when no segment of the path, cut at
  slashes and at backslashes, is made of one or two dots.
-/
import Mathlib.Data.List.DropRight
import Transclude.Proofs.Text.Composed
import Transclude.Proofs.VaultPath.Folding

namespace Transclude.VaultPath

open Text (split join trim trimLeft trimRight)

/-- the root, or a path on which every segment is a name -/
def Canonical (path : Text) : Prop := path = ['/'] ∨ ∀ s ∈ split '/' path, IsName s

/-- the segments that are not empty -/
def parts (t : Text) : List Text := (split '/' t).filter (· ≠ [])

/-! ## Merging and trimming slashes -/

theorem mergeSlashes_append {w : Text} (h : '/' ∉ w) (t : Text) : mergeSlashes (w ++ t) = w ++ mergeSlashes t := by
  induction w with
  | nil => rfl
  | cons c w ih =>
    rw [List.mem_cons, not_or] at h
    rw [List.cons_append, mergeSlashes, ih h.2, List.cons_append]
    rintro rest hc -
    exact h.1 hc.symm

/-- a slash stands for all the slashes behind it -/
theorem mergeSlashes_slash (t : Text) : mergeSlashes ('/' :: t) = '/' :: trimLeft (· == '/') (mergeSlashes t) := by
  induction t with
  | nil => rfl
  | cons c t ih =>
    by_cases hc : c = '/'
    · subst hc
      rw [mergeSlashes, ih, trimLeft, trimLeft, List.dropWhile_cons_of_pos (by rfl), List.dropWhile_idempotent]
    · have hstay : trimLeft (· == '/') (mergeSlashes (c :: t)) = mergeSlashes (c :: t) := by
        have hmerge := mergeSlashes_append (w := [c]) (by simpa using Ne.symm hc) t
        rw [List.singleton_append] at hmerge
        rw [hmerge, trimLeft, List.singleton_append, List.dropWhile_cons_of_neg (by simpa using hc)]
      rw [hstay, mergeSlashes]
      rintro rest - hrest
      exact hc (List.cons.inj hrest).1

theorem trimLeft_of_not_slash {w : Text} (hw : w ≠ []) (h : '/' ∉ w) (t : Text) :
    trimLeft (· == '/') (w ++ t) = w ++ t := by
  obtain ⟨c, w, rfl⟩ := List.exists_cons_of_ne_nil hw
  rw [List.mem_cons, not_or] at h
  rw [trimLeft, List.cons_append, List.dropWhile_cons_of_neg (by simpa using Ne.symm h.1)]

theorem trimRight_of_not_slash {w : Text} (h : '/' ∉ w) : trimRight (· == '/') w = w := by
  have hall : w.reverse.dropWhile (· == '/') = w.reverse := by
    cases hw : w.reverse with
    | nil => rfl
    | cons c back =>
      have hc : c ∈ w := List.mem_reverse.1 (hw ▸ List.mem_cons_self)
      rw [List.dropWhile_cons_of_neg]
      simp only [beq_iff_eq]
      rintro rfl
      exact h hc
  rw [trimRight, hall, List.reverse_reverse]

theorem join_eq_nil_iff {ps : List Text} (h : ∀ p ∈ ps, p ≠ []) : join ['/'] ps = [] ↔ ps = [] := by
  cases ps with
  | nil => simp [join]
  | cons p ps =>
    have hp := h p List.mem_cons_self
    cases ps with
    | nil => simp [join, hp]
    | cons q ps => simp [join, hp]

theorem mem_parts_ne_nil {t p : Text} (h : p ∈ parts t) : p ≠ [] := by
  simpa using (List.mem_filter.1 h).2

/-- a path of one segment -/
theorem trim_mergeSlashes_of_not_slash {w : Text} (h : '/' ∉ w) : trim (· == '/') (mergeSlashes w) = w := by
  have hmerge : mergeSlashes w = w := by simpa [mergeSlashes] using mergeSlashes_append h []
  rw [hmerge, trim]
  by_cases hw : w = []
  · rw [hw]
    rfl
  · have hleft := trimLeft_of_not_slash hw h []
    rw [List.append_nil] at hleft
    rw [hleft, trimRight_of_not_slash h]

/-- one more segment in front of a path -/
theorem trim_mergeSlashes_cons {w : Text} (h : '/' ∉ w) (t : Text) :
    trim (· == '/') (mergeSlashes (w ++ '/' :: t)) =
      if w = [] then trim (· == '/') (mergeSlashes t)
      else if trim (· == '/') (mergeSlashes t) = [] then w
      else w ++ '/' :: trim (· == '/') (mergeSlashes t) := by
  rw [mergeSlashes_append h, mergeSlashes_slash]
  by_cases hw : w = []
  · rw [if_pos hw, hw, List.nil_append, trim, trimLeft, List.dropWhile_cons_of_pos (by rfl), trimLeft,
      List.dropWhile_idempotent]
    rfl
  · have hslash : trimRight (· == '/') ('/' :: trimLeft (· == '/') (mergeSlashes t)) =
        if trim (· == '/') (mergeSlashes t) = [] then [] else '/' :: trim (· == '/') (mergeSlashes t) :=
      Text.trimRight_append (· == '/') ['/'] _
    rw [if_neg hw, trim, trimLeft_of_not_slash hw h, Text.trimRight_append, hslash]
    by_cases ht : trim (· == '/') (mergeSlashes t) = []
    · rw [if_pos ht, if_pos rfl, if_pos ht, trimRight_of_not_slash h]
    · rw [if_neg ht, if_neg (List.cons_ne_nil _ _), if_neg ht]

/-- a path of any segments -/
theorem trim_mergeSlashes_join {ps : List Text} (h : ∀ p ∈ ps, '/' ∉ p) :
    trim (· == '/') (mergeSlashes (join ['/'] ps)) = join ['/'] (ps.filter (· ≠ [])) := by
  induction ps with
  | nil => rfl
  | cons w ps ih =>
    have hw := h w List.mem_cons_self
    have hrest := ih fun p hp => h p (List.mem_cons_of_mem w hp)
    have hnames : ∀ p ∈ ps.filter (· ≠ []), p ≠ [] := fun p hp => by simpa using (List.mem_filter.1 hp).2
    by_cases hps : ps = []
    · rw [hps, join, trim_mergeSlashes_of_not_slash hw]
      by_cases hnil : w = []
      · rw [hnil]
        rfl
      · rw [List.filter_cons_of_pos (by simpa using hnil)]
        rfl
    · rw [Text.join_cons _ _ hps, List.append_assoc, List.singleton_append, trim_mergeSlashes_cons hw, hrest]
      by_cases hnil : w = []
      · rw [if_pos hnil, List.filter_cons_of_neg (by simp [hnil])]
      · rw [if_neg hnil, List.filter_cons_of_pos (by simp [hnil])]
        by_cases hempty : ps.filter (· ≠ []) = []
        · rw [hempty]
          rfl
        · rw [if_neg fun hj => hempty ((join_eq_nil_iff hnames).1 hj), Text.join_cons _ _ hempty, List.append_assoc,
            List.singleton_append]

/-- **Merged and trimmed**, a path has its segments that are not empty, with one slash between neighbours. -/
theorem trim_mergeSlashes (t : Text) : trim (· == '/') (mergeSlashes t) = join ['/'] (parts t) := by
  have hjoined : trim (· == '/') (mergeSlashes (join ['/'] (split '/' t))) = join ['/'] (parts t) :=
    trim_mergeSlashes_join fun _ hp => Text.not_mem_of_mem_split hp
  rwa [Text.join_split] at hjoined

/-! ## The normal form of characters -/

theorem inert_slash : Text.Inert '/'.toNat := Text.inert_of_lt (by decide) (by decide)

theorem inert_dot : Text.Inert '.'.toNat := Text.inert_of_lt (by decide) (by decide)

theorem composed_join (ps : List Text) : Text.composed (join ['/'] ps) = join ['/'] (ps.map Text.composed) := by
  induction ps with
  | nil => rfl
  | cons p ps ih =>
    by_cases hps : ps = []
    · rw [hps]
      rfl
    · have hmap : ps.map Text.composed ≠ [] := fun h => hps (List.map_eq_nil_iff.1 h)
      rw [List.map_cons, Text.join_cons _ _ hps, Text.join_cons _ _ hmap, List.append_assoc, List.append_assoc,
        List.singleton_append, List.singleton_append, Text.composed_append inert_slash, ih]

/-! ## Segments of the normal form -/

/-- the segments of the normal form of a path; the root has none -/
def normalParts (path : Text) : List Text := (parts (path.map plainChar)).map Text.composed

theorem mem_normalParts {path s : Text} (h : s ∈ normalParts path) : s ≠ [] ∧ '/' ∉ s := by
  obtain ⟨p, hp, rfl⟩ := List.mem_map.1 h
  refine ⟨fun hnil => mem_parts_ne_nil hp (Text.composed_eq_nil_iff.1 hnil), fun hslash => ?_⟩
  exact Text.not_mem_of_mem_split (List.mem_filter.1 hp).1 (Text.mem_of_mem_composed inert_slash.toUnmade hslash)

/-- **The normal form by its segments.** -/
theorem normalize_eq (path : Text) :
    normalize path = if normalParts path = [] then ['/'] else join ['/'] (normalParts path) := by
  have hjoin : Text.composed (trim (· == '/') (mergeSlashes (path.map plainChar))) = join ['/'] (normalParts path) := by
    rw [trim_mergeSlashes, composed_join]
    rfl
  rw [normalize, normalizeWith, hjoin]
  by_cases hnil : normalParts path = []
  · rw [if_pos hnil, hnil]
    rfl
  · rw [if_neg hnil]
    split
    · rename_i hempty
      exact absurd ((join_eq_nil_iff fun s hs => (mem_normalParts hs).1).1 hempty) hnil
    · rfl

theorem split_normalize {path : Text} (h : normalParts path ≠ []) : split '/' (normalize path) = normalParts path := by
  rw [normalize_eq, if_neg h]
  exact Text.split_join h fun s hs => (mem_normalParts hs).2

/-- the normal form of a path is the root, or its segments are not empty -/
theorem normalize_segments (path : Text) : normalize path = ['/'] ∨ ∀ s ∈ split '/' (normalize path), s ≠ [] := by
  by_cases h : normalParts path = []
  · exact Or.inl (by rw [normalize_eq, if_pos h])
  · refine Or.inr fun s hs => ?_
    rw [split_normalize h] at hs
    exact (mem_normalParts hs).1

/-! ## Dots -/

/-- the segments of a path, cut at slashes and at backslashes -/
def pieces (path : Text) : List Text := (split '/' path).flatMap (split '\\')

/-- where both kinds of slashes are written as slashes, they cut alike -/
theorem split_map_of_slash {f : Char → Char} (hf : ∀ c, f c = '/' ↔ c = '/' ∨ c = '\\') (t : Text) :
    split '/' (t.map f) = (pieces t).map (List.map f) := by
  induction t with
  | nil => rfl
  | cons c t ih =>
    obtain ⟨p, ps, hp⟩ := List.exists_cons_of_ne_nil (Text.split_ne_nil '/' t)
    obtain ⟨q, qs, hq⟩ := List.exists_cons_of_ne_nil (Text.split_ne_nil '\\' p)
    unfold pieces at ih ⊢
    rw [hp, List.flatMap_cons, hq] at ih
    by_cases hslash : c = '/'
    · subst hslash
      have hc : f '/' = '/' := (hf '/').2 (Or.inl rfl)
      simp [split, hc, hp, hq, ih]
    · by_cases hback : c = '\\'
      · subst hback
        have hc : f '\\' = '/' := (hf '\\').2 (Or.inr rfl)
        simp [split, hc, hp, hq, ih]
      · have hc : f c ≠ '/' := fun h => ((hf c).1 h).elim hslash hback
        simp [split, hc, hslash, hback, hp, hq, ih]

theorem plainChar_eq_slash_iff (c : Char) : plainChar c = '/' ↔ c = '/' ∨ c = '\\' := by
  unfold plainChar
  split
  · rename_i hback
    simp [hback]
  · rename_i hback
    split
    · rename_i hspace
      rcases hspace with rfl | rfl <;> decide
    · simp [hback]

/-- the normal form cuts at both kinds of slashes -/
theorem split_map_plainChar (t : Text) : split '/' (t.map plainChar) = (pieces t).map (List.map plainChar) :=
  split_map_of_slash plainChar_eq_slash_iff t

theorem plainChar_eq_dot_iff {c : Char} : plainChar c = '.' ↔ c = '.' := by
  refine ⟨fun h => ?_, fun h => by rw [h]; rfl⟩
  unfold plainChar at h
  split at h
  · exact absurd h (by decide)
  · split at h
    · exact absurd h (by decide)
    · exact h

theorem isDots_map_plainChar {s : Text} : IsDots (s.map plainChar) ↔ IsDots s := by
  simp [IsDots, List.map_eq_cons_iff, plainChar_eq_dot_iff]

theorem isDots_composed {s : Text} : IsDots (Text.composed s) ↔ IsDots s := by
  have hdot : ∀ c ∈ (['.', '.'] : Text), Text.Inert c.toNat := by simpa using inert_dot
  have hone : Text.composed s = ['.'] ↔ s = ['.'] := Text.composed_eq_iff fun c hc => hdot c (List.mem_cons_of_mem _ hc)
  have htwo : Text.composed s = ['.', '.'] ↔ s = ['.', '.'] := Text.composed_eq_iff hdot
  rw [IsDots, IsDots, hone, htwo]

/-- dots neither come nor go on the way to the normal form -/
theorem dots_normalParts_iff (path : Text) :
    (∀ s ∈ normalParts path, ¬ IsDots s) ↔ ∀ s ∈ pieces path, ¬ IsDots s := by
  constructor
  · intro h s hs hdots
    have hmapped : s.map plainChar ∈ parts (path.map plainChar) := by
      refine List.mem_filter.2 ⟨?_, by simpa using hdots.ne_nil⟩
      rw [split_map_plainChar]
      exact List.mem_map_of_mem hs
    exact h _ (List.mem_map_of_mem hmapped) (isDots_composed.2 (isDots_map_plainChar.2 hdots))
  · intro h s hs hdots
    obtain ⟨p, hp, rfl⟩ := List.mem_map.1 hs
    have hsplit := (List.mem_filter.1 hp).1
    rw [split_map_plainChar] at hsplit
    obtain ⟨q, hq, rfl⟩ := List.mem_map.1 hsplit
    exact h q hq (isDots_map_plainChar.1 (isDots_composed.1 hdots))

/-- **The normal form folds no dots.** It is canonical exactly when there are none to fold. -/
theorem canonical_normalize_iff (path : Text) : Canonical (normalize path) ↔ ∀ s ∈ pieces path, ¬ IsDots s := by
  rw [← dots_normalParts_iff]
  by_cases h : normalParts path = []
  · rw [h]
    exact ⟨fun _ s hs => absurd hs List.not_mem_nil, fun _ => Or.inl (by rw [normalize_eq, if_pos h])⟩
  · constructor
    · rintro (hroot | hnames)
      · -- the segments of the root are empty, those of a normal form are not
        have hsplit := split_normalize h
        rw [hroot] at hsplit
        have hmem : [] ∈ normalParts path := hsplit ▸ List.mem_cons_self
        exact absurd rfl (mem_normalParts hmem).1
      · exact fun s hs => (hnames s (split_normalize h ▸ hs)).2
    · intro hdots
      refine Or.inr fun s hs => ?_
      rw [split_normalize h] at hs
      exact ⟨(mem_normalParts hs).1, hdots s hs⟩

end Transclude.VaultPath
