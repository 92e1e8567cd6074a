/-
Folding the dots of a path.

The stack of segments holds names only, because a segment that is empty or made of dots is never put on it: `isName_of_push` is
the step, and `isName_of_mem_collapsed` what it comes to for a whole path. The segments that remain are segments of the path.
-/
import Mathlib.Tactic
import Transclude.Proofs.Text.Cutting
import Transclude.VaultPath

namespace Transclude.VaultPath

open Text (split join)

/-- a segment that means a place and names nothing: the folder itself, or the folder above -/
def IsDots (s : Text) : Prop := s = ['.'] ∨ s = ['.', '.']

/-- a segment that names a file or a folder -/
def IsName (s : Text) : Prop := s ≠ [] ∧ ¬ IsDots s

instance (s : Text) : Decidable (IsDots s) := inferInstanceAs (Decidable (_ ∨ _))

instance (s : Text) : Decidable (IsName s) := inferInstanceAs (Decidable (_ ∧ _))

theorem IsDots.ne_nil {s : Text} (h : IsDots s) : s ≠ [] := by
  rintro rfl
  rcases h with h | h <;> cases h

/-- what one segment can do to the stack: nothing, take the last name back, or be one more name -/
theorem push_cases (stack : List Text) (s : Text) :
    push stack s = stack ∨ push stack s = stack.tail ∨ (IsName s ∧ push stack s = s :: stack) := by
  unfold push
  by_cases hnone : s = [] ∨ s = ['.']
  · exact Or.inl (if_pos hnone)
  · rw [if_neg hnone]
    by_cases habove : s = ['.', '.']
    · exact Or.inr (Or.inl (if_pos habove))
    · rw [if_neg habove]
      rw [not_or] at hnone
      refine Or.inr (Or.inr ⟨⟨hnone.1, ?_⟩, rfl⟩)
      rintro (h | h)
      · exact hnone.2 h
      · exact habove h

/-- **The stack holds names.** -/
theorem isName_of_push {stack : List Text} (h : ∀ s ∈ stack, IsName s) (s : Text) : ∀ x ∈ push stack s, IsName x := by
  rcases push_cases stack s with hp | hp | ⟨hs, hp⟩
  · rw [hp]
    exact h
  · rw [hp]
    exact fun x hx => h x (List.mem_of_mem_tail hx)
  · rw [hp]
    intro x hx
    rcases List.mem_cons.1 hx with rfl | hx
    · exact hs
    · exact h x hx

theorem mem_of_mem_push {stack : List Text} {s x : Text} (hx : x ∈ push stack s) : x = s ∨ x ∈ stack := by
  rcases push_cases stack s with hp | hp | ⟨-, hp⟩
  · exact Or.inr (hp ▸ hx)
  · rw [hp] at hx
    exact Or.inr (List.mem_of_mem_tail hx)
  · rw [hp] at hx
    exact List.mem_cons.1 hx

theorem foldl_push_isName (segments : List Text) {stack : List Text} (h : ∀ s ∈ stack, IsName s) :
    ∀ x ∈ segments.foldl push stack, IsName x := by
  induction segments generalizing stack with
  | nil => exact h
  | cons s segments ih => exact ih (isName_of_push h s)

theorem mem_of_mem_foldl_push {segments stack : List Text} {x : Text} (hx : x ∈ segments.foldl push stack) :
    x ∈ segments ∨ x ∈ stack := by
  induction segments generalizing stack with
  | nil => exact Or.inr hx
  | cons s segments ih =>
    rcases ih hx with hx | hx
    · exact Or.inl (List.mem_cons_of_mem s hx)
    · rcases mem_of_mem_push hx with rfl | hx
      · exact Or.inl List.mem_cons_self
      · exact Or.inr hx

/-- **Only names remain of a path.** -/
theorem isName_of_mem_collapsed {path s : Text} (h : s ∈ collapsed path) : IsName s :=
  foldl_push_isName _ (fun _ hx => absurd hx List.not_mem_nil) s (List.mem_reverse.1 h)

theorem mem_split_of_mem_collapsed {path s : Text} (h : s ∈ collapsed path) : s ∈ split '/' path := by
  rcases mem_of_mem_foldl_push (List.mem_reverse.1 h) with hs | hs
  · exact hs
  · exact absurd hs List.not_mem_nil

theorem split_collapse {path : Text} (h : collapsed path ≠ []) : split '/' (collapse path) = collapsed path :=
  Text.split_join h fun _ hs => Text.not_mem_of_mem_split (mem_split_of_mem_collapsed hs)

end Transclude.VaultPath
