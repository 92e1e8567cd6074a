/-
Addresses that climb.

Every `..` in front of an address takes one name off the folder of the document, and at the root there is none left to take. So a
file is reached from a document by climbing any number of levels and naming what is left of the way, and from the root by naming
all of the way. The two ways end at the same file once the climb has gone past the root.

- `foldl_push_climb`: climbing takes names off the stack.
- `collapsed_climb`: what remains of a climb from a folder.
- `resolve_climb`: relative and absolute addresses reach every file.
-/
import Transclude.Proofs.VaultPath.Joining
import Transclude.Proofs.VaultPath.Settling

namespace Transclude.VaultPath

open Text (split join)

/-- `..` and a slash, `k` times -/
def climb (k : ℕ) : Text := (List.replicate k "../".toList).flatten

theorem climb_succ (k : ℕ) (rest : Text) : climb (k + 1) ++ rest = ['.', '.'] ++ '/' :: (climb k ++ rest) := by
  rw [climb, List.replicate_succ, List.flatten_cons, ← climb, List.append_assoc]
  rfl

theorem split_climb (k : ℕ) (rest : Text) : split '/' (climb k ++ rest) = List.replicate k ['.', '.'] ++ split '/' rest := by
  induction k with
  | zero => rfl
  | succ k ih =>
    rw [climb_succ, Text.split_append, ih, List.replicate_succ, List.cons_append]
    rfl

/-- **Climbing takes names off the stack**, as many as there are. -/
theorem foldl_push_climb (k : ℕ) (stack : List Text) : (List.replicate k ['.', '.']).foldl push stack = stack.drop k := by
  induction k generalizing stack with
  | zero => rfl
  | succ k ih =>
    have habove : push stack ['.', '.'] = stack.tail := rfl
    rw [List.replicate_succ, List.foldl_cons, habove, ih, ← List.drop_one, List.drop_drop, Nat.add_comm]

theorem collapsed_join {names : List Text} (hnames : ∀ s ∈ names, IsName s) (hslash : ∀ s ∈ names, '/' ∉ s) :
    collapsed (join ['/'] names) = names := by
  by_cases hnil : names = []
  · rw [hnil]
    rfl
  · rw [collapsed, Text.split_join hnil hslash, foldl_push_names hnames, List.append_nil, List.reverse_reverse]

/-- **What remains of a climb**: the names of the folder that it leaves, and the names behind it. -/
theorem collapsed_climb {dir : Text} {target : List Text} (hne : target ≠ []) (hnames : ∀ s ∈ target, IsName s)
    (hslash : ∀ s ∈ target, '/' ∉ s) (k : ℕ) :
    collapsed (dir ++ '/' :: (climb k ++ join ['/'] target)) =
      (collapsed dir).take ((collapsed dir).length - k) ++ target := by
  calc collapsed (dir ++ '/' :: (climb k ++ join ['/'] target))
      = ((List.replicate k ['.', '.'] ++ target).foldl push (collapsed dir).reverse).reverse := by
        rw [collapsed_append, split_climb, Text.split_join hne hslash]
    _ = (target.reverse ++ (collapsed dir).reverse.drop k).reverse := by
        rw [List.foldl_append, foldl_push_climb, foldl_push_names hnames]
    _ = (collapsed dir).take ((collapsed dir).length - k) ++ target := by
        rw [List.reverse_append, List.reverse_reverse, List.drop_reverse, List.reverse_reverse]

/-- an address that climbs, or begins with a name, is relative -/
theorem head?_climb_ne (k : ℕ) {target : List Text} (h : ∀ s ∈ target, Settled s) :
    (climb k ++ join ['/'] target).head? ≠ some '/' := by
  cases k with
  | succ k =>
    rw [climb_succ]
    simp
  | zero =>
    cases target with
    | nil => decide
    | cons s target =>
      obtain ⟨c, s, rfl⟩ := List.exists_cons_of_ne_nil (h s List.mem_cons_self).ne_nil
      have hslash := (h _ List.mem_cons_self).no_slash
      intro hhead
      have hc : c = '/' := by
        cases target <;> exact Option.some.inj hhead
      exact hslash (hc ▸ List.mem_cons_self)

/-- **Relative and absolute addresses reach every file.** In a document whose folder has the names `dirs`, an address that climbs
`k` levels and then names `target` means the file below what the climb leaves of the folder; at the root a climb stays at the root.
With a slash in front, `target` means the file below the root. So once a climb has left all of the folder, both addresses mean
the same file. -/
theorem resolve_climb {document : Text} {dirs target : List Text} (hfolder : folder document = join ['/'] dirs)
    (hdirs : ∀ s ∈ dirs, IsName s ∧ Settled s) (hne : target ≠ []) (htarget : ∀ s ∈ target, IsName s ∧ Settled s) (k : ℕ) :
    resolve normalize (climb k ++ join ['/'] target) document = join ['/'] (dirs.take (dirs.length - k) ++ target) ∧
    resolve normalize ('/' :: join ['/'] target) document = join ['/'] target ∧
    (dirs.length ≤ k → resolve normalize (climb k ++ join ['/'] target) document =
      resolve normalize ('/' :: join ['/'] target) document) := by
  have habsolute : resolve normalize ('/' :: join ['/'] target) document = join ['/'] target :=
    normalize_join hne fun s hs => (htarget s hs).2
  have hdir : collapsed (folder document) = dirs := by
    rw [hfolder]
    exact collapsed_join (fun s hs => (hdirs s hs).1) fun s hs => (hdirs s hs).2.no_slash
  have hrelative : resolve normalize (climb k ++ join ['/'] target) document =
      join ['/'] (dirs.take (dirs.length - k) ++ target) := by
    have hleft : collapsed (collapse (folder document) ++ '/' :: (climb k ++ join ['/'] target)) =
        dirs.take (dirs.length - k) ++ target := by
      rw [collapsed_climb hne (fun s hs => (htarget s hs).1) (fun s hs => (htarget s hs).2.no_slash), collapsed_collapse, hdir]
    have hsettled : ∀ s ∈ dirs.take (dirs.length - k) ++ target, Settled s := by
      intro s hs
      rcases List.mem_append.1 hs with hs | hs
      · exact (hdirs s (List.mem_of_mem_take hs)).2
      · exact (htarget s hs).2
    rw [resolve_relative normalize (head?_climb_ne k fun s hs => (htarget s hs).2), collapse, hleft]
    exact normalize_join (List.append_ne_nil_of_right_ne_nil _ hne) hsettled
  refine ⟨hrelative, habsolute, ?_⟩
  intro hk
  rw [hrelative, habsolute, Nat.sub_eq_zero_of_le hk, List.take_zero, List.nil_append]

/-- from two folders down: a climb that leaves one of them, and a climb past the root -/
theorem resolve_climb_notes :
    folder "notes/größe/index.md".toList = join ['/'] ["notes".toList, "größe".toList] ∧
    (∀ s ∈ ["notes".toList, "größe".toList], IsName s ∧ Settled s) ∧
    (∀ s ∈ ["src".toList, "a..b".toList], IsName s ∧ Settled s) ∧
    resolve normalize "../src/a..b".toList "notes/größe/index.md".toList = "notes/src/a..b".toList ∧
    ["notes".toList, "größe".toList].length ≤ 3 ∧
    resolve normalize "../../../src/a..b".toList "notes/größe/index.md".toList =
      resolve normalize "/src/a..b".toList "notes/größe/index.md".toList := by
  have hfolder : folder "notes/größe/index.md".toList = join ['/'] ["notes".toList, "größe".toList] := by decide
  have hdirs : ∀ s ∈ ["notes".toList, "größe".toList], IsName s ∧ Settled s := by decide +kernel
  have htarget : ∀ s ∈ ["src".toList, "a..b".toList], IsName s ∧ Settled s := by decide +kernel
  have hne : ["src".toList, "a..b".toList] ≠ [] := List.cons_ne_nil _ _
  obtain ⟨hone, -, -⟩ := resolve_climb hfolder hdirs hne htarget 1
  obtain ⟨-, -, hpast⟩ := resolve_climb hfolder hdirs hne htarget 3
  have hlength : ["notes".toList, "größe".toList].length ≤ 3 := by decide
  exact ⟨hfolder, hdirs, htarget, hone, hlength, hpast hlength⟩

end Transclude.VaultPath
