/-
Computations that may fail, one after another along a list.

- `mapM_eq_ok_iff`: all of them succeed exactly where each of them does, with the results in the same order.
- `exists_of_filterM_eq_ok`: what is kept was accepted.
-/
import Mathlib.Data.List.Forall2
import Mathlib.Tactic.Common

namespace Transclude

theorem bind_eq_ok_iff {ε α β : Type} {x : Except ε α} {f : α → Except ε β} {b : β} :
    (x >>= f) = .ok b ↔ ∃ a, x = .ok a ∧ f a = .ok b := by
  cases x with
  | error e => simp [bind, Except.bind]
  | ok a => simp [bind, Except.bind]

/-- mapping with failures succeeds exactly where it succeeds element by element -/
theorem mapM_eq_ok_iff {ε α β : Type} {f : α → Except ε β} {xs : List α} {ys : List β} :
    xs.mapM f = .ok ys ↔ List.Forall₂ (fun x y => f x = .ok y) xs ys := by
  induction xs generalizing ys with
  | nil => cases ys <;> simp [pure, Except.pure]
  | cons x xs ih =>
    rw [List.mapM_cons]
    cases hx : f x with
    | error e => cases ys <;> simp [bind, Except.bind, hx]
    | ok y =>
      cases hxs : xs.mapM f with
      | error e => cases ys <;> simp [bind, Except.bind, ← ih, hxs, hx]
      | ok rest => cases ys <;> simp [bind, Except.bind, pure, Except.pure, ← ih, hxs, hx]

theorem exists_left_of_forall₂ {α β : Type} {R : α → β → Prop} {xs : List α} {ys : List β} {y : β}
    (h : List.Forall₂ R xs ys) (hy : y ∈ ys) : ∃ x ∈ xs, R x y := by
  induction h with
  | nil => simp at hy
  | @cons x y' xs ys hr _ ih =>
    rcases List.mem_cons.1 hy with rfl | hy
    · exact ⟨x, List.mem_cons_self, hr⟩
    · obtain ⟨x', hx', hr'⟩ := ih hy
      exact ⟨x', List.mem_cons_of_mem x hx', hr'⟩

theorem exists_map_eq_ok_iff {ε α β : Type} {f : α → β} {x : Except ε α} :
    (∃ b, x.map f = .ok b) ↔ ∃ a, x = .ok a := by
  cases x with
  | error e => simp [Except.map]
  | ok a => exact ⟨fun _ => ⟨a, rfl⟩, fun _ => ⟨f a, rfl⟩⟩

theorem map_eq_error_iff {ε α β : Type} {f : α → β} {x : Except ε α} {e : ε} : x.map f = .error e ↔ x = .error e := by
  cases x with
  | error e' => simp [Except.map]
  | ok a => simp [Except.map]

theorem mapError_eq_ok_iff {ε ε' α : Type} {f : ε → ε'} {x : Except ε α} {a : α} : x.mapError f = .ok a ↔ x = .ok a := by
  cases x with
  | error e => simp [Except.mapError]
  | ok b => simp [Except.mapError]

theorem mapError_eq_error_iff {ε ε' α : Type} {f : ε → ε'} {x : Except ε α} {e' : ε'} :
    x.mapError f = .error e' ↔ ∃ e, x = .error e ∧ f e = e' := by
  cases x with
  | error e => simp [Except.mapError]
  | ok b => simp [Except.mapError]

/-- a sequence of computations succeeds when each of them does -/
theorem exists_mapM_eq_ok_iff {ε α β : Type} {f : α → Except ε β} {xs : List α} :
    (∃ ys, xs.mapM f = .ok ys) ↔ ∀ x ∈ xs, ∃ y, f x = .ok y := by
  constructor
  · rintro ⟨ys, hys⟩ x hx
    obtain ⟨y, -, hy⟩ := exists_left_of_forall₂ (List.Forall₂.flip (mapM_eq_ok_iff.1 hys)) hx
    exact ⟨y, hy⟩
  · intro h
    induction xs with
    | nil => exact ⟨[], rfl⟩
    | cons x xs ih =>
      obtain ⟨hx, hxs⟩ := List.forall_mem_cons.1 h
      obtain ⟨y, hy⟩ := hx
      obtain ⟨ys, hys⟩ := ih hxs
      exact ⟨y :: ys, mapM_eq_ok_iff.2 (.cons hy (mapM_eq_ok_iff.1 hys))⟩

/-- a filter that succeeds keeps some of a list, and what it keeps was accepted -/
theorem exists_of_filterM_eq_ok {ε α : Type} {f : α → Except ε Bool} {xs kept : List α} (h : xs.filterM f = .ok kept) :
    kept.Sublist xs ∧ ∀ x ∈ kept, f x = .ok true := by
  have collected : ∀ (xs acc kept : List α), List.filterAuxM f xs acc = .ok kept →
      ∃ new : List α, kept = new.reverse ++ acc ∧ new.Sublist xs ∧ ∀ x ∈ new, f x = .ok true := by
    intro xs
    induction xs with
    | nil =>
      intro acc kept h
      exact ⟨[], (Except.ok.inj h).symm, .slnil, by simp⟩
    | cons x xs ih =>
      intro acc kept h
      rw [List.filterAuxM] at h
      cases hx : f x with
      | error e =>
        rw [hx] at h
        cases h
      | ok accepted =>
        rw [hx] at h
        obtain ⟨new, rfl, hsub, hall⟩ := ih _ _ h
        cases accepted with
        | false => exact ⟨new, rfl, hsub.cons x, hall⟩
        | true => exact ⟨x :: new, by simp, hsub.cons_cons x, List.forall_mem_cons.2 ⟨hx, hall⟩⟩
  rw [List.filterM] at h
  cases hall : List.filterAuxM f xs [] with
  | error e =>
    rw [hall] at h
    cases h
  | ok found =>
    rw [hall] at h
    obtain ⟨new, rfl, hsub, haccepted⟩ := collected xs [] found hall
    obtain rfl : new = kept := by simpa using Except.ok.inj h
    exact ⟨hsub, haccepted⟩

end Transclude
