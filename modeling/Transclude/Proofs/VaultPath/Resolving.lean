/-
Which addresses resolve to canonical paths.

Dots are folded at slashes, in relative addresses only, and backslashes count as slashes only afterwards. So dots come through
in an absolute address, and next to a backslash in a relative one. `reached` collects the segments that no folding follows.

- `canonical_resolve_iff`: a resolved path is the root or has no empty segment, and it is canonical exactly when no segment
  that is reached unfolded is made of dots.
-/
import Transclude.Proofs.VaultPath.NormalForm

namespace Transclude.VaultPath

open Text (split)

/-- a relative address behind the folder of the document -/
def combined (target document : Text) : Text :=
  if folder document = [] then target else folder document ++ '/' :: target

/-- the path that an address is in front of the normal form: an absolute one as it is, a relative one with its dots folded -/
def folded (target document : Text) : Text :=
  match target with
  | '/' :: rest => rest
  | _ => collapse (combined target document)

theorem resolve_eq (normal : Text → Text) (target document : Text) :
    resolve normal target document = normal (folded target document) := by
  unfold resolve
  split
  · rfl
  · rw [folded]
    · rfl
    · assumption

/-- the segments of an address that no folding follows, cut at slashes and at backslashes -/
def reached (target document : Text) : List Text :=
  match target with
  | '/' :: rest => pieces rest
  | _ => (collapsed (combined target document)).flatMap (split '\\')

/-- folding leaves the dots that backslashes cut out of the remaining segments, and no others -/
theorem dots_collapse_iff (path : Text) :
    (∀ s ∈ pieces (collapse path), ¬ IsDots s) ↔ ∀ s ∈ (collapsed path).flatMap (split '\\'), ¬ IsDots s := by
  by_cases h : collapsed path = []
  · have hempty : pieces (collapse path) = [[]] := by
      rw [collapse, h]
      rfl
    rw [hempty, h]
    exact ⟨fun _ s hs => absurd hs List.not_mem_nil, fun _ s hs hdots => hdots.ne_nil (List.mem_singleton.1 hs)⟩
  · rw [pieces, split_collapse h]

theorem dots_folded_iff (target document : Text) :
    (∀ s ∈ pieces (folded target document), ¬ IsDots s) ↔ ∀ s ∈ reached target document, ¬ IsDots s := by
  unfold folded reached
  split
  · exact Iff.rfl
  · exact dots_collapse_iff _

theorem not_mem_combined {c : Char} {target document : Text} (hc : c ≠ '/') (hfolder : c ∉ folder document)
    (htarget : c ∉ target) : c ∉ combined target document := by
  unfold combined
  split
  · exact htarget
  · simp [hc, hfolder, htarget]

/-- **Which addresses resolve to canonical paths.** A resolved path is the root or has no empty segment. It is canonical exactly
when none of the segments that the normal form gets is made of dots; so it always is for a relative address without
backslashes, in a folder without backslashes, however often it climbs. -/
theorem canonical_resolve_iff (target document : Text) :
    (resolve normalize target document = ['/'] ∨ ∀ s ∈ split '/' (resolve normalize target document), s ≠ []) ∧
    (Canonical (resolve normalize target document) ↔ ∀ s ∈ reached target document, ¬ IsDots s) ∧
    (target.head? ≠ some '/' → '\\' ∉ folder document → '\\' ∉ target →
      Canonical (resolve normalize target document)) := by
  rw [resolve_eq]
  have hiff : Canonical (normalize (folded target document)) ↔ ∀ s ∈ reached target document, ¬ IsDots s :=
    (canonical_normalize_iff _).trans (dots_folded_iff target document)
  refine ⟨normalize_segments _, hiff, fun hrelative hfolder htarget => hiff.2 fun s hs => ?_⟩
  have hreached : reached target document = (collapsed (combined target document)).flatMap (split '\\') := by
    unfold reached
    split
    · exact absurd rfl hrelative
    · rfl
  rw [hreached] at hs
  obtain ⟨segment, hsegment, hcut⟩ := List.mem_flatMap.1 hs
  have hnone : '\\' ∉ segment := fun hm =>
    not_mem_combined (by decide) hfolder htarget (Text.mem_of_mem_split hm (mem_split_of_mem_collapsed hsegment))
  rw [Text.split_of_not_mem hnone, List.mem_singleton] at hcut
  exact hcut ▸ (isName_of_mem_collapsed hsegment).2

/-- an absolute address keeps its dots, and so it can point above the root -/
example : resolve normalize "/../a.txt".toList "b/c.md".toList = "../a.txt".toList := by decide +kernel

/-- a relative address keeps the dots next to its backslashes -/
example : resolve normalize "..\\..\\a.txt".toList "c.md".toList = "../../a.txt".toList := by decide +kernel

end Transclude.VaultPath
