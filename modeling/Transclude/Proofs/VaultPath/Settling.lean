/-
The normal form of a path is its own normal form.

Each stage that makes the normal form leaves something out of it: backslashes and spaces that do not break, empty segments, and
characters that could be composed. No later stage brings any of it back, because composing makes none of these characters and joins
nothing over a slash. So the segments of a normal form are settled, and normal forms are what settled segments are joined to.

- `settled_of_mem_normalParts`, `normalParts_join`: the segments of normal forms are the settled ones.
- `normalize_normalize`: a normal form is its own normal form.
- `tidy_normalize`: a normal form is the root, or it is tidy.
- `normalize_stable`: the two together, and that the path which an address means is an address of itself.
-/
import Transclude.Proofs.Text.Recomposing
import Transclude.Proofs.VaultPath.Resolving

namespace Transclude.VaultPath

open Text (split join)

/-! ## Characters -/

/-- text without backslashes and without spaces that do not break -/
structure Plain (t : Text) : Prop where
  no_backslash : '\\' ∉ t
  no_wide_space : '\u00a0' ∉ t
  no_narrow_space : '\u202f' ∉ t

instance (t : Text) : Decidable (Plain t) :=
  decidable_of_iff ('\\' ∉ t ∧ '\u00a0' ∉ t ∧ '\u202f' ∉ t)
    ⟨fun ⟨hback, hwide, hnarrow⟩ => ⟨hback, hwide, hnarrow⟩, fun h => ⟨h.no_backslash, h.no_wide_space, h.no_narrow_space⟩⟩

theorem plainChar_eq_self {c : Char} (hback : c ≠ '\\') (hwide : c ≠ '\u00a0') (hnarrow : c ≠ '\u202f') : plainChar c = c := by
  rw [plainChar, if_neg hback, if_neg (not_or.2 ⟨hwide, hnarrow⟩)]

theorem Plain.map_plainChar {t : Text} (h : Plain t) : t.map plainChar = t := by
  have hself : ∀ c ∈ t, plainChar c = id c := by
    intro c hc
    apply plainChar_eq_self
    · exact fun he => h.no_backslash (he ▸ hc)
    · exact fun he => h.no_wide_space (he ▸ hc)
    · exact fun he => h.no_narrow_space (he ▸ hc)
  rw [List.map_congr_left hself, List.map_id]

theorem plain_map_plainChar (t : Text) : Plain (t.map plainChar) := by
  have hnever : ∀ c, plainChar c ≠ '\\' ∧ plainChar c ≠ '\u00a0' ∧ plainChar c ≠ '\u202f' := by
    intro c
    unfold plainChar
    split
    · decide
    · rename_i hback
      split
      · decide
      · rename_i hspace
        exact ⟨hback, not_or.1 hspace⟩
  have hnot : ∀ x, (∀ c, plainChar c ≠ x) → x ∉ t.map plainChar := by
    intro x hx hmem
    obtain ⟨c, -, hc⟩ := List.mem_map.1 hmem
    exact hx c hc
  exact ⟨hnot _ fun c => (hnever c).1, hnot _ fun c => (hnever c).2.1, hnot _ fun c => (hnever c).2.2⟩

/-- the tables make no backslash and no space that does not break -/
theorem unmade_of_unplain : ∀ n ∈ ['\\'.toNat, '\u00a0'.toNat, '\u202f'.toNat], Text.Unmade n := by
  have hcomposed : ∀ n ∈ ['\\'.toNat, '\u00a0'.toNat, '\u202f'.toNat],
      ∀ r ∈ Text.composedPairs, r.1 ≠ n ∧ r.2.1 ≠ n ∧ r.2.2 ≠ n := by decide +kernel
  have hreplaced : ∀ n ∈ ['\\'.toNat, '\u00a0'.toNat, '\u202f'.toNat], ∀ r ∈ Text.replacedSingles, r.2 ≠ n := by
    decide +kernel
  have hdecomposed : ∀ n ∈ ['\\'.toNat, '\u00a0'.toNat, '\u202f'.toNat],
      ∀ r ∈ Text.decomposedPairs, r.2.1 ≠ n ∧ r.2.2 ≠ n := by decide +kernel
  have hrange : ∀ n ∈ ['\\'.toNat, '\u00a0'.toNat, '\u202f'.toNat],
      0 < n ∧ (n < 0x1100 ∨ 0x11FF < n) ∧ (n < Text.syllableBase ∨ Text.syllableBase + 11172 ≤ n) := by decide
  intro n hn
  obtain ⟨hpos, hletter, hsyllable⟩ := hrange n hn
  exact ⟨hpos, hletter, hsyllable, hcomposed n hn, hreplaced n hn, hdecomposed n hn⟩

theorem Plain.composed {t : Text} (h : Plain t) : Plain (Text.composed t) := by
  have hnot : ∀ c : Char, c.toNat ∈ ['\\'.toNat, '\u00a0'.toNat, '\u202f'.toNat] → c ∉ t → c ∉ Text.composed t :=
    fun c hc hct hmem => hct (Text.mem_of_mem_composed (unmade_of_unplain _ hc) hmem)
  exact ⟨hnot _ (by decide) h.no_backslash, hnot _ (by decide) h.no_wide_space, hnot _ (by decide) h.no_narrow_space⟩

/-! ## Segments -/

/-- a segment that the normal form leaves as it is -/
structure Settled (s : Text) : Prop where
  ne_nil : s ≠ []
  no_slash : '/' ∉ s
  plain : Plain s
  composed : Text.composed s = s

instance (s : Text) : Decidable (Settled s) :=
  decidable_of_iff (s ≠ [] ∧ '/' ∉ s ∧ Plain s ∧ Text.composed s = s)
    ⟨fun ⟨hne, hslash, hplain, hcomposed⟩ => ⟨hne, hslash, hplain, hcomposed⟩,
      fun h => ⟨h.ne_nil, h.no_slash, h.plain, h.composed⟩⟩

/-- **The segments of a normal form are settled.** -/
theorem settled_of_mem_normalParts {path s : Text} (h : s ∈ normalParts path) : Settled s := by
  obtain ⟨hne, hslash⟩ := mem_normalParts h
  obtain ⟨p, hp, rfl⟩ := List.mem_map.1 h
  have hsegment : p ∈ split '/' (path.map plainChar) := (List.mem_filter.1 hp).1
  have hplain : Plain p :=
    ⟨fun hc => (plain_map_plainChar path).no_backslash (Text.mem_of_mem_split hc hsegment),
      fun hc => (plain_map_plainChar path).no_wide_space (Text.mem_of_mem_split hc hsegment),
      fun hc => (plain_map_plainChar path).no_narrow_space (Text.mem_of_mem_split hc hsegment)⟩
  exact ⟨hne, hslash, hplain.composed, Text.composed_composed p⟩

theorem Plain.join {ss : List Text} (h : ∀ s ∈ ss, Plain s) : Plain (join ['/'] ss) := by
  have hnot : ∀ c, c ≠ '/' → (∀ s ∈ ss, c ∉ s) → c ∉ Text.join ['/'] ss := by
    intro c hc hnone hmem
    rcases Text.mem_of_mem_join hmem with hsep | ⟨s, hs, hcs⟩
    · exact hc (List.mem_singleton.1 hsep)
    · exact hnone s hs hcs
  exact ⟨hnot _ (by decide) fun s hs => (h s hs).no_backslash, hnot _ (by decide) fun s hs => (h s hs).no_wide_space,
    hnot _ (by decide) fun s hs => (h s hs).no_narrow_space⟩

/-- **Settled segments are the segments of a normal form.** -/
theorem normalParts_join {ss : List Text} (h : ∀ s ∈ ss, Settled s) : normalParts (join ['/'] ss) = ss := by
  have hplain : (join ['/'] ss).map plainChar = join ['/'] ss := (Plain.join fun s hs => (h s hs).plain).map_plainChar
  have hparts : parts (join ['/'] ss) = ss := by
    by_cases hnil : ss = []
    · rw [hnil]
      rfl
    · rw [parts, Text.split_join hnil fun s hs => (h s hs).no_slash, List.filter_eq_self]
      intro s hs
      simpa using (h s hs).ne_nil
  have hcomposed : ∀ s ∈ ss, Text.composed s = id s := fun s hs => (h s hs).composed
  rw [normalParts, hplain, hparts, List.map_congr_left hcomposed, List.map_id]

theorem normalize_join {ss : List Text} (hne : ss ≠ []) (h : ∀ s ∈ ss, Settled s) :
    normalize (join ['/'] ss) = join ['/'] ss := by
  rw [normalize_eq, normalParts_join h, if_neg hne]

/-- **A normal form is its own normal form.** -/
theorem normalize_normalize (path : Text) : normalize (normalize path) = normalize path := by
  by_cases h : normalParts path = []
  · have hroot : normalize path = ['/'] := by rw [normalize_eq, if_pos h]
    rw [hroot]
    rfl
  · have hjoin : normalize path = join ['/'] (normalParts path) := by rw [normalize_eq, if_neg h]
    rw [hjoin]
    exact normalize_join h fun s hs => settled_of_mem_normalParts hs

/-! ## The form of a normal form -/

/-- a path without backslashes and spaces that do not break, and with slashes only one by one between other characters -/
structure Tidy (path : Text) : Prop extends Plain path where
  ne_nil : path ≠ []
  no_double : ¬ ['/', '/'] <:+: path
  no_leading : path.head? ≠ some '/'
  no_trailing : path.getLast? ≠ some '/'

/-- slashes stand one by one where no segment is empty -/
theorem tidy_of_segments {path : Text} (hplain : Plain path) (h : ∀ s ∈ split '/' path, s ≠ []) : Tidy path := by
  refine ⟨hplain, ?_, ?_, ?_, ?_⟩
  · rintro rfl
    exact h [] List.mem_cons_self rfl
  · rintro ⟨front, back, rfl⟩
    have hcut : split '/' (front ++ ['/', '/'] ++ back) = split '/' front ++ [] :: split '/' back := by
      rw [List.append_assoc]
      exact Text.split_append '/' front ('/' :: back)
    exact h [] (hcut ▸ List.mem_append_right _ List.mem_cons_self) rfl
  · intro hhead
    obtain ⟨rest, rfl⟩ := List.head?_eq_some_iff.1 hhead
    have hcut : split '/' ('/' :: rest) = [] :: split '/' rest := Text.split_append '/' [] rest
    exact h [] (hcut ▸ List.mem_cons_self) rfl
  · intro hlast
    obtain ⟨front, rfl⟩ := List.getLast?_eq_some_iff.1 hlast
    have hcut : split '/' (front ++ ['/']) = split '/' front ++ [[]] := Text.split_append '/' front []
    exact h [] (hcut ▸ List.mem_append_right _ List.mem_cons_self) rfl

theorem tidy_normalize (path : Text) : normalize path = ['/'] ∨ Tidy (normalize path) := by
  by_cases h : normalParts path = []
  · exact Or.inl (by rw [normalize_eq, if_pos h])
  · right
    have hplain : Plain (normalize path) := by
      rw [normalize_eq, if_neg h]
      exact Plain.join fun s hs => (settled_of_mem_normalParts hs).plain
    apply tidy_of_segments hplain
    intro s hs
    rw [split_normalize h] at hs
    exact (mem_normalParts hs).1

/-! ## Resolved paths -/

/-- **Resolved paths are stable.** The normal form of a normal form is itself, and it is the root or tidy. So the path that an
address means in one document is meant in every document by that path with a slash in front. -/
theorem normalize_stable :
    (∀ path, normalize (normalize path) = normalize path) ∧
    (∀ path, normalize path = ['/'] ∨ Tidy (normalize path)) ∧
    (∀ target document document' : Text,
      resolve normalize ('/' :: resolve normalize target document) document' = resolve normalize target document) := by
  refine ⟨normalize_normalize, tidy_normalize, ?_⟩
  intro target document document'
  calc resolve normalize ('/' :: resolve normalize target document) document'
      = normalize (resolve normalize target document) := rfl
    _ = normalize (normalize (folded target document)) := by rw [resolve_eq]
    _ = resolve normalize target document := by rw [normalize_normalize, resolve_eq]

end Transclude.VaultPath
