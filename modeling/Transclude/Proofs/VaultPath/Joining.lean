/-
Folding a path that was joined from two.

The stack is all that the segments of a path leave behind, and names only ever add to it. So the front of a path can be folded
before the rest is written behind it, and a name is taken back by the `..` behind it whatever stands in front.

- `foldl_push_names`: names stay on the stack, in their order.
- `collapsed_append`: the front of a path matters for the rest only by the stack it leaves.
- `collapsed_collapse`: a folded path folds to itself.
- `collapse_canonical`: folding gives a canonical form, and that form is all that a relative address gets from the folder of its
  document.
-/
import Transclude.Proofs.VaultPath.Resolving

namespace Transclude.VaultPath

open Text (split join)

/-! ## Names on the stack -/

theorem push_name {s : Text} (h : IsName s) (stack : List Text) : push stack s = s :: stack := by
  obtain ⟨hne, hdots⟩ := h
  rw [IsDots, not_or] at hdots
  rw [push, if_neg (not_or.2 ⟨hne, hdots.1⟩), if_neg hdots.2]

theorem foldl_push_names {names : List Text} (h : ∀ s ∈ names, IsName s) (stack : List Text) :
    names.foldl push stack = names.reverse ++ stack := by
  induction names generalizing stack with
  | nil => rfl
  | cons s names ih =>
    have hs : IsName s := h s List.mem_cons_self
    have hnames : ∀ x ∈ names, IsName x := fun x hx => h x (List.mem_cons_of_mem s hx)
    rw [List.foldl_cons, push_name hs, ih hnames, List.reverse_cons, List.append_assoc, List.singleton_append]

/-! ## Joined paths -/

/-- the rest of a path is folded onto what remains of its front -/
theorem collapsed_append (a b : Text) :
    collapsed (a ++ '/' :: b) = ((split '/' b).foldl push (collapsed a).reverse).reverse := by
  simp only [collapsed, Text.split_append, List.foldl_append, List.reverse_reverse]

/-- fronts of which the same remains can stand for each other -/
theorem collapse_append_congr {a a' : Text} (h : collapsed a = collapsed a') (b : Text) :
    collapse (a ++ '/' :: b) = collapse (a' ++ '/' :: b) := by
  rw [collapse, collapse, collapsed_append, collapsed_append, h]

/-- a slash in front of a path adds an empty segment only -/
theorem collapse_slash (path : Text) : collapse ('/' :: path) = collapse path := rfl

/-- **A folded path has nothing left to fold.** -/
theorem collapsed_collapse (path : Text) : collapsed (collapse path) = collapsed path := by
  by_cases h : collapsed path = []
  · rw [collapse, h]
    rfl
  · have hnames : ∀ s ∈ collapsed path, IsName s := fun s hs => isName_of_mem_collapsed hs
    calc collapsed (collapse path)
        = ((split '/' (collapse path)).foldl push []).reverse := rfl
      _ = ((collapsed path).foldl push []).reverse := by rw [split_collapse h]
      _ = collapsed path := by rw [foldl_push_names hnames, List.append_nil, List.reverse_reverse]

/-- what folding leaves is empty, or every segment of it is a name -/
theorem collapse_segments (path : Text) : collapse path = [] ∨ ∀ s ∈ split '/' (collapse path), IsName s := by
  by_cases h : collapsed path = []
  · left
    rw [collapse, h]
    rfl
  · right
    intro s hs
    rw [split_collapse h] at hs
    exact isName_of_mem_collapsed hs

/-- **A name is taken back by the `..` behind it**, whatever remains of the path in front of it. -/
theorem collapsed_cancel (a : Text) {x : Text} (hslash : '/' ∉ x) (hx : IsName x) (b : Text) :
    collapsed (a ++ '/' :: (x ++ "/../".toList ++ b)) = collapsed (a ++ '/' :: b) := by
  have hcut : split '/' (x ++ "/../".toList ++ b) = x :: ['.', '.'] :: split '/' b := by
    have hjoined : x ++ "/../".toList ++ b = x ++ '/' :: (['.', '.'] ++ '/' :: b) := by simp
    rw [hjoined, Text.split_append, Text.split_append, Text.split_of_not_mem hslash]
    rfl
  have hback : ∀ stack : List Text, push (x :: stack) ['.', '.'] = stack := fun _ => rfl
  rw [collapsed_append, collapsed_append, hcut, List.foldl_cons, List.foldl_cons, push_name hx, hback]

/-! ## Relative addresses -/

/-- a relative address is folded onto the folded folder of the document, at the root of the vault as well -/
theorem collapse_combined (target document : Text) :
    collapse (combined target document) = collapse (collapse (folder document) ++ '/' :: target) := by
  rw [collapse_append_congr (collapsed_collapse (folder document)), combined]
  by_cases h : folder document = []
  · rw [if_pos h, h, List.nil_append, collapse_slash]
  · rw [if_neg h]

theorem resolve_relative (normal : Text → Text) {target : Text} (h : target.head? ≠ some '/') (document : Text) :
    resolve normal target document = normal (collapse (collapse (folder document) ++ '/' :: target)) := by
  rw [resolve_eq, ← collapse_combined, folded]
  rintro rest rfl
  exact h rfl

/-- **Folding gives a canonical form that goes with joining.** What remains of a path is empty or has only names for segments,
and it is its own canonical form. The front of a path may be folded first, and a name goes with the `..` behind it, wherever in a
path they stand. So a relative address gets nothing from its document but the canonical form of the folder. -/
theorem collapse_canonical :
    (∀ path, collapse path = [] ∨ ∀ s ∈ split '/' (collapse path), IsName s) ∧
    (∀ path, collapse (collapse path) = collapse path) ∧
    (∀ a b, collapse (a ++ '/' :: b) = collapse (collapse a ++ '/' :: b)) ∧
    (∀ a b x, '/' ∉ x → IsName x → collapse (a ++ '/' :: (x ++ "/../".toList ++ b)) = collapse (a ++ '/' :: b)) ∧
    (∀ (normal : Text → Text) (target document document' : Text), target.head? ≠ some '/' →
      collapse (folder document) = collapse (folder document') →
        resolve normal target document = resolve normal target document') := by
  refine ⟨collapse_segments, ?_, ?_, ?_, ?_⟩
  · intro path
    rw [collapse, collapsed_collapse, collapse]
  · intro a b
    exact collapse_append_congr (collapsed_collapse a).symm b
  · intro a b x hslash hx
    rw [collapse, collapsed_cancel a hslash hx, collapse]
  · intro normal target document document' hrelative hfolder
    rw [resolve_relative normal hrelative, resolve_relative normal hrelative, hfolder]

/-- three dots are a name, and a climb above the root leaves nothing of the folder -/
theorem collapse_canonical_climbing :
    '/' ∉ "...".toList ∧ IsName "...".toList ∧
    collapse ("../a/..".toList ++ '/' :: ("...".toList ++ "/../".toList ++ "./b//".toList)) =
      collapse ("../a/..".toList ++ '/' :: "./b//".toList) ∧
    "../c.txt".toList.head? ≠ some '/' ∧
    collapse (folder "x/../../y/z/d.md".toList) = collapse (folder "./y//z/e.md".toList) ∧
    resolve normalize "../c.txt".toList "x/../../y/z/d.md".toList = resolve normalize "../c.txt".toList "./y//z/e.md".toList := by
  obtain ⟨-, -, -, hcancel, hfolder⟩ := collapse_canonical
  have hslash : '/' ∉ "...".toList := by decide
  have hname : IsName "...".toList := ⟨by decide, by rintro (h | h) <;> exact absurd h (by decide)⟩
  have hrelative : "../c.txt".toList.head? ≠ some '/' := by decide
  have hsame : collapse (folder "x/../../y/z/d.md".toList) = collapse (folder "./y//z/e.md".toList) := by decide
  exact ⟨hslash, hname, hcancel _ _ _ hslash hname, hrelative, hsame, hfolder normalize _ _ _ hrelative hsame⟩

end Transclude.VaultPath
