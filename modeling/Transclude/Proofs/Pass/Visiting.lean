/-
Visiting the texts of a region.

`Visited` says once what visiting a text can do: nothing where no directive is found; otherwise the segments of its splice are
handed to the region, which takes them or says that the text is gone. `visitAll_invariant` is the induction over all texts: what
every visit keeps holds after the pass, and if the pass stops early, after the visits in front of the stop.
-/
import Transclude.Proofs.Pass.Blocks

namespace Transclude.Resolver

variable {τ ℓ σ : Type} (r : Resolver) (region : Region τ ℓ) (host : σ → Text → Dialogue.Run σ Event FileAnswer)
  (document : Text)

/-- the splice of a text with the directives found in it, by the answers that a host gives from a state on -/
def spliceRun (s : σ) (content : Text) (found : List Directive.Occurrence) :
    Dialogue.Run σ Event (Except DigitLimit (List Segment)) :=
  (r.splice document content (found.map Placement.ofOccurrence)).run host s

/-- what a visit that goes well does, from a state of the host on -/
inductive Visited (s : σ) (p : Progress τ) (leaf : ℓ) : Progress τ → Prop
  /-- no directive is in the text -/
  | plain (hs : Directive.scan (region.content leaf) = .ok []) :
      Visited s p leaf { p with report := p.report.scanned }
  /-- the text is not there any more -/
  | detached {found : List Directive.Occurrence} {segments : List Segment} {tree : τ}
      (hs : Directive.scan (region.content leaf) = .ok found) (hne : found ≠ [])
      (hsplice : (r.spliceRun host document s (region.content leaf) found).result = .ok segments)
      (hreplace : region.replace p.tree leaf segments = .ok (false, tree)) :
      Visited s p leaf { p with report := p.report.scanned }
  /-- the segments take the place of the text -/
  | replaced {found : List Directive.Occurrence} {segments : List Segment} {tree : τ}
      (hs : Directive.scan (region.content leaf) = .ok found) (hne : found ≠ [])
      (hsplice : (r.spliceRun host document s (region.content leaf) found).result = .ok segments)
      (hreplace : region.replace p.tree leaf segments = .ok (true, tree)) :
      Visited s p leaf { tree, report := p.report.scanned.replaced segments }

variable {r region host document}

theorem visited_of_visit {s : σ} {p p' : Progress τ} {leaf : ℓ}
    (h : ((r.visit region document p leaf).run host s).result = .ok p') :
    Visited r region host document s p leaf p' := by
  unfold visit at h
  split at h
  · rw [Dialogue.run_pure] at h
    cases h
  · rename_i hs
    rw [Dialogue.run_pure] at h
    cases h
    exact .plain hs
  · rename_i found hne hs
    simp only [Dialogue.result_andThen, state_log] at h
    cases hsplice : ((r.splice document (region.content leaf) (found.map Placement.ofOccurrence)).run host s).result with
    | error e => rw [hsplice] at h; cases h
    | ok segments =>
      simp only [hsplice] at h
      cases hreplace : region.replace p.tree leaf segments with
      | error e => rw [hreplace] at h; cases h
      | ok answer =>
        obtain ⟨there, tree⟩ := answer
        cases there with
        | false =>
          simp only [hreplace, Dialogue.result_andThen] at h
          cases h
          exact .detached hs (by simpa using hne) hsplice hreplace
        | true =>
          simp only [hreplace] at h
          cases h
          exact .replaced hs (by simpa using hne) hsplice hreplace

/-- **A visit goes well in these ways and no other.** -/
theorem result_visit_eq_ok_iff {s : σ} {p p' : Progress τ} {leaf : ℓ} :
    ((r.visit region document p leaf).run host s).result = .ok p' ↔ Visited r region host document s p leaf p' := by
  refine ⟨visited_of_visit, fun h => ?_⟩
  cases h with
  | plain hs => rw [visit, hs, Dialogue.run_pure]
  | detached hs hne hsplice hreplace =>
    obtain ⟨o, found, rfl⟩ := List.exists_cons_of_ne_nil hne
    unfold spliceRun at hsplice
    simp only [visit, hs, Dialogue.result_andThen, state_log, hsplice, hreplace, Dialogue.run_pure]
  | replaced hs hne hsplice hreplace =>
    obtain ⟨o, found, rfl⟩ := List.exists_cons_of_ne_nil hne
    unfold spliceRun at hsplice
    simp only [visit, hs, Dialogue.result_andThen, state_log, hsplice, hreplace, Dialogue.run_pure]

/-- **What every visit keeps, a pass keeps.** The pass visits texts in order, all of them unless it stops early. -/
theorem visitAll_invariant {all : List ℓ} (Inv : List ℓ → τ → Prop)
    (step : ∀ done leaf rest s (p p' : Progress τ), all = done ++ leaf :: rest → Inv done p.tree →
      Visited r region host document s p leaf p' → Inv (done ++ [leaf]) p'.tree)
    {done leaves : List ℓ} {s : σ} {p : Progress τ} (hall : all = done ++ leaves) (hp : Inv done p.tree) :
    ∃ visited rest, leaves = visited ++ rest ∧
      Inv (done ++ visited) ((r.visitAll region document leaves p).run host s).result.tree ∧
      (((r.visitAll region document leaves p).run host s).result.stop = none → rest = []) := by
  induction leaves generalizing done s p with
  | nil => exact ⟨[], [], rfl, by simpa [visitAll] using hp, fun _ => rfl⟩
  | cons leaf leaves ih =>
    simp only [visitAll, Dialogue.result_andThen]
    cases hv : ((r.visit region document p leaf).run host s).result with
    | error stop => exact ⟨[], leaf :: leaves, rfl, by simpa using hp, fun h => by cases h⟩
    | ok p' =>
      have hp' := step done leaf leaves s p p' hall hp (result_visit_eq_ok_iff.1 hv)
      obtain ⟨visited, rest, hsplit, hinv, hstop⟩ :=
        ih (s := ((r.visit region document p leaf).run host s).state) (by simpa using hall) hp'
      refine ⟨leaf :: visited, rest, by rw [hsplit, List.cons_append], ?_, hstop⟩
      simpa using hinv

theorem result_process (s : σ) (tree : τ) :
    ((r.process region document tree).run host s).result =
      ((r.visitAll region document (region.candidates tree) { tree }).run host s).result := by
  simp only [process, Dialogue.result_andThen, state_log]

end Transclude.Resolver
