/-
Dialogues that take turns.

Something may be known of a host whatever its dialogues have asked so far (`common`), and something of each dialogue together with
the host (`own`). A request must keep what is known of the host and of the dialogue that makes it, and of every other dialogue,
which has not moved in the meantime (`Kept`). Then it is known in every order of the turns, and in the end of every result.

- `Kept.turns`: turns at any positions keep what is known.
- `Kept.runTogether`: so does a run of dialogues side by side, whether or not one of them fails.
-/
import Transclude.Dialogue.Turns
import Mathlib.Data.List.Basic
import Mathlib.Tactic.Common

namespace Transclude.Dialogue

variable {σ Q A E ε α : Type}

/-! ## On the way -/

/-- a dialogue goes on, request by request, and its host with it -/
inductive Goes (host : σ → Q → Run σ E A) : σ → Dialogue Q A E α → σ → Dialogue Q A E α → Prop where
  | stay (s : σ) (d : Dialogue Q A E α) : Goes host s d s d
  | tell {s s' : σ} {e : E} {rest d : Dialogue Q A E α} (h : Goes host s rest s' d) : Goes host s (.tell e rest) s' d
  | ask {s s' : σ} {q : Q} {next : A → Dialogue Q A E α} {d : Dialogue Q A E α}
      (h : Goes host (host s q).state (next (host s q).result) s' d) : Goes host s (.ask q next) s' d

variable {host : σ → Q → Run σ E A}

theorem goes_settled (s : σ) (d : Dialogue Q A E α) : Goes host s d s d.settled := by
  induction d with
  | done a => exact .stay s _
  | ask q next _ => exact .stay s _
  | tell e rest ih => exact .tell ih

theorem goes_turn (s : σ) (d : Dialogue Q A E α) : Goes host s d (d.turn host s).state (d.turn host s).result := by
  induction d with
  | done a => exact .stay s _
  | ask q next _ => exact .ask (goes_settled _ _)
  | tell e rest ih => exact .tell ih

theorem goes_run (s : σ) (d : Dialogue Q A E α) : Goes host s d (d.run host s).state (.done (d.run host s).result) := by
  induction d generalizing s with
  | done a => exact .stay s _
  | ask q next ih => exact .ask (ih _ _)
  | tell e rest ih => exact .tell (ih s)

/-! ## What is kept -/

/-- what is known of a host and of the dialogues at their positions is kept by every request -/
structure Kept (host : σ → Q → Run σ E A) (common : σ → Prop) (own : ℕ → σ → Dialogue Q A E (Except ε α) → Prop) : Prop where
  tell : ∀ {i s e rest}, own i s (.tell e rest) → own i s rest
  base : ∀ {i s q next}, common s → own i s (.ask q next) → common (host s q).state
  asked : ∀ {i s q next}, common s → own i s (.ask q next) → own i (host s q).state (next (host s q).result)
  other : ∀ {i j s q next d}, common s → own i s (.ask q next) → j ≠ i → own j s d → own j (host s q).state d

variable {common : σ → Prop} {own : ℕ → σ → Dialogue Q A E (Except ε α) → Prop}

/-- what is known is kept as one dialogue goes on -/
theorem Kept.goes (h : Kept host common own) {i : ℕ} {s s' : σ} {d d' : Dialogue Q A E (Except ε α)} (hgoes : Goes host s d s' d')
    (hs : common s) (hd : own i s d) :
    common s' ∧ own i s' d' ∧ ∀ j other, j ≠ i → own j s other → own j s' other := by
  induction hgoes with
  | stay s d => exact ⟨hs, hd, fun _ _ _ hother => hother⟩
  | tell _ ih => exact ih hs (h.tell hd)
  | ask _ ih =>
    obtain ⟨hs', hd', hothers⟩ := ih (h.base hs hd) (h.asked hs hd)
    exact ⟨hs', hd', fun j other hne hother => hothers j other hne (h.other hs hd hne hother)⟩

theorem length_turns (order : List ℕ) (s : σ) (ds : List (Dialogue Q A E (Except ε α))) :
    (turns host order s ds).result.length = ds.length := by
  induction order generalizing s ds with
  | nil => rfl
  | cons i order ih =>
    rw [turns]
    split
    · rfl
    · exact ih s ds
    · exact (ih _ _).trans List.length_set

/-- **Turns at any positions keep what is known.** -/
theorem Kept.turns (h : Kept host common own) (order : List ℕ) {s : σ} {ds : List (Dialogue Q A E (Except ε α))} (hs : common s)
    (hds : ∀ i d, ds[i]? = some d → own i s d) :
    common (turns host order s ds).state ∧
      ∀ i d, (turns host order s ds).result[i]? = some d → own i (turns host order s ds).state d := by
  induction order generalizing s ds with
  | nil => exact ⟨hs, hds⟩
  | cons i order ih =>
    rw [Dialogue.turns]
    split
    · exact ⟨hs, hds⟩
    · exact ih hs hds
    · next d _ hd =>
      obtain ⟨hs', hd', hothers⟩ := h.goes (goes_turn s d) hs (hds i d hd)
      refine ih hs' fun j other hother => ?_
      by_cases e : j = i
      · subst e
        obtain ⟨hlt, -⟩ := List.getElem?_eq_some_iff.1 hd
        rw [List.getElem?_set_self hlt] at hother
        exact Option.some.inj hother ▸ hd'
      · rw [List.getElem?_set_ne fun e' => e e'.symm] at hother
        exact hothers j other e (hds j other hother)

/-- running what is left in order keeps what is known, and what has come of the dialogues in front -/
theorem Kept.runAll (h : Kept host common own) (front : List α) {s : σ} {ds : List (Dialogue Q A E (Except ε α))} (hs : common s)
    (hfront : ∀ i a, front[i]? = some a → own i s (.done (.ok a))) (hds : ∀ i d, ds[i]? = some d → own (front.length + i) s d) :
    common (runAll host s ds).state ∧ ∀ results, (runAll host s ds).result = .ok results → results.length = ds.length ∧
      ∀ i a, (front ++ results)[i]? = some a → own i (runAll host s ds).state (.done (.ok a)) := by
  induction ds generalizing s front with
  | nil =>
    refine ⟨hs, fun results hresults => ?_⟩
    obtain rfl := Except.ok.inj hresults
    refine ⟨rfl, fun i a ha => hfront i a ?_⟩
    rwa [List.append_nil] at ha
  | cons d ds ih =>
    obtain ⟨hs', hd', hothers⟩ := h.goes (goes_run s d) hs (hds 0 d rfl)
    rw [Dialogue.runAll]
    cases hresult : (d.run host s).result with
    | error e => exact ⟨hs', fun results hresults => nomatch hresults⟩
    | ok a =>
      rw [hresult] at hd'
      -- the result joins the ones in front, and nobody else has moved
      have hfront' : ∀ i b, (front ++ [a])[i]? = some b → own i (d.run host s).state (.done (.ok b)) := by
        intro i b hb
        rcases Nat.lt_trichotomy i front.length with hlt | rfl | hgt
        · rw [List.getElem?_append_left hlt] at hb
          exact hothers i _ (by omega) (hfront i b hb)
        · rw [List.getElem?_concat_length] at hb
          exact Option.some.inj hb ▸ hd'
        · rw [List.getElem?_eq_none (by simp; omega)] at hb
          cases hb
      have hds' : ∀ i other, ds[i]? = some other → own ((front ++ [a]).length + i) (d.run host s).state other := by
        intro i other hother
        have hplace : (front ++ [a]).length + i = front.length + (i + 1) := by
          rw [List.length_append, List.length_singleton, Nat.add_assoc, Nat.add_comm 1 i]
        rw [hplace]
        exact hothers _ _ (by omega) (hds (i + 1) other hother)
      obtain ⟨hend, hresults⟩ := ih (front ++ [a]) hs' hfront' hds'
      refine ⟨hend, fun results hall => ?_⟩
      dsimp only at hall
      cases hrest : (Dialogue.runAll host (d.run host s).state ds).result with
      | error e =>
        rw [hrest] at hall
        cases hall
      | ok rest =>
        rw [hrest] at hall
        obtain rfl := Except.ok.inj hall
        obtain ⟨hlength, hrests⟩ := hresults rest hrest
        refine ⟨congrArg (· + 1) hlength, fun i b hb => hrests i b ?_⟩
        rwa [← List.append_cons]

/-- **Running dialogues side by side keeps what is known**, in every order and whether or not one fails. -/
theorem Kept.runTogether (h : Kept host common own) (order : List ℕ) {s : σ} {ds : List (Dialogue Q A E (Except ε α))}
    (hs : common s) (hds : ∀ i d, ds[i]? = some d → own i s d) :
    common (runTogether host order s ds).state ∧ ∀ results, (runTogether host order s ds).result = .ok results →
      results.length = ds.length ∧ ∀ i a, results[i]? = some a → own i (runTogether host order s ds).state (.done (.ok a)) := by
  obtain ⟨hs', hds'⟩ := h.turns order hs hds
  unfold Dialogue.runTogether
  cases hfailed : (Dialogue.turns host order s ds).result.findSome? failure? with
  | some e =>
    simp only [hfailed]
    exact ⟨hs', fun results hresults => nomatch hresults⟩
  | none =>
    simp only [hfailed]
    obtain ⟨hend, hall⟩ := h.runAll [] hs' (by simp) (fun i d hd => by simpa using hds' i d hd)
    refine ⟨hend, fun results hresults => ?_⟩
    obtain ⟨hlength, hown⟩ := hall results hresults
    exact ⟨hlength.trans (length_turns order s ds), hown⟩

end Transclude.Dialogue
