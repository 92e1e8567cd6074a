/-
The course of a pass: what becomes of each text, one after the other.

A text that a pass goes through meets one of three fates. It holds no directive and stays; or its segments are ready, and they
take its place, or the text turns out to be gone. A pass that stops early halts at a text that meets none of them. `Meets` and
`Halts` say what each of these takes, from a state of the host and a tree on, and a `Course` is a row of fates.

- `result_visit_eq_error_iff`: a visit fails where its text halts the pass, and nowhere else.
- `exists_course_visitAll`: a pass is a course over texts at the front, and either these are all texts or the next one halts it.
- `run_visitAll_of_course`: a course is a pass that completes.
- `Course.spliced_eq`: what is spliced for the texts does not hang on the tree.
-/
import Transclude.Proofs.Pass.Visiting

namespace Transclude

/-- what becomes of a text that a pass goes through -/
inductive Fate where
  /-- no directive is in the text, so it stays -/
  | plain
  /-- the segments were ready, but the text was gone -/
  | detached (segments : List Segment)
  /-- the segments took the place of the text -/
  | replaced (segments : List Segment)
deriving DecidableEq, Repr

/-- the segments that were made of the text -/
def Fate.spliced? : Fate → Option (List Segment)
  | .plain => none
  | .detached segments => some segments
  | .replaced segments => some segments

/-- the report after one more text -/
def Report.record (report : Report) : Fate → Report
  | .plain => report.scanned
  | .detached _ => report.scanned
  | .replaced segments => report.scanned.replaced segments

namespace Resolver

variable {τ ℓ σ : Type} (r : Resolver) (region : Region τ ℓ) (host : σ → Text → Dialogue.Run σ Event FileAnswer)
  (document : Text)

/-- what it takes for a text to meet a fate, from a state of the host and a tree on, and the state and the tree after it -/
inductive Meets (s : σ) (tree : τ) (leaf : ℓ) : Fate → σ → τ → Prop
  | plain (hs : Directive.scan (region.content leaf) = .ok []) : Meets s tree leaf .plain s tree
  | detached {found : List Directive.Occurrence} {segments : List Segment} {tree' : τ}
      (hs : Directive.scan (region.content leaf) = .ok found) (hne : found ≠ [])
      (hsplice : (r.spliceRun host document s (region.content leaf) found).result = .ok segments)
      (hreplace : region.replace tree leaf segments = .ok (false, tree')) :
      Meets s tree leaf (.detached segments) (r.spliceRun host document s (region.content leaf) found).state tree
  | replaced {found : List Directive.Occurrence} {segments : List Segment} {tree' : τ}
      (hs : Directive.scan (region.content leaf) = .ok found) (hne : found ≠ [])
      (hsplice : (r.spliceRun host document s (region.content leaf) found).result = .ok segments)
      (hreplace : region.replace tree leaf segments = .ok (true, tree')) :
      Meets s tree leaf (.replaced segments) (r.spliceRun host document s (region.content leaf) found).state tree'

/-- what it takes for a text to halt a pass -/
inductive Halts (s : σ) (tree : τ) (leaf : ℓ) : Stop → Prop
  /-- a bound cannot be read -/
  | scan {limit : DigitLimit} (hs : Directive.scan (region.content leaf) = .error limit) : Halts s tree leaf (.digits limit)
  /-- the block of a directive cannot be written, after any number of blocks of the same text -/
  | splice {found : List Directive.Occurrence} {limit : DigitLimit}
      (hs : Directive.scan (region.content leaf) = .ok found)
      (hsplice : (r.spliceRun host document s (region.content leaf) found).result = .error limit) :
      Halts s tree leaf (.digits limit)
  /-- the region refuses the segments -/
  | replace {found : List Directive.Occurrence} {segments : List Segment} {refusal : Document.Refusal}
      (hs : Directive.scan (region.content leaf) = .ok found) (hne : found ≠ [])
      (hsplice : (r.spliceRun host document s (region.content leaf) found).result = .ok segments)
      (hreplace : region.replace tree leaf segments = .error refusal) : Halts s tree leaf (.refused refusal)

/-- texts in a row meet their fates, each from the state and the tree that the ones before it left -/
inductive Course : σ → τ → List ℓ → List Fate → σ → τ → Prop
  | nil (s : σ) (tree : τ) : Course s tree [] [] s tree
  | cons {s s' s'' : σ} {tree tree' tree'' : τ} {leaf : ℓ} {leaves : List ℓ} {fate : Fate} {fates : List Fate}
      (here : Meets r region host document s tree leaf fate s' tree') (rest : Course s' tree' leaves fates s'' tree'') :
      Course s tree (leaf :: leaves) (fate :: fates) s'' tree''

variable {r region host document}

/-! ## One text -/

/-- a splice of nothing does not fail -/
theorem spliceRun_nil_ne_error {s : σ} {t : Text} {limit : DigitLimit} :
    (r.spliceRun host document s t []).result ≠ .error limit := by
  intro h
  cases h

/-- **A text that meets a fate is visited**, with this fate in the report. -/
theorem run_visit_of_meets {s s' : σ} {p : Progress τ} {tree' : τ} {leaf : ℓ} {fate : Fate}
    (h : Meets r region host document s p.tree leaf fate s' tree') :
    ((r.visit region document p leaf).run host s).result = .ok { tree := tree', report := p.report.record fate } ∧
      ((r.visit region document p leaf).run host s).state = s' := by
  cases h with
  | plain hs =>
    rw [visit, hs]
    exact ⟨rfl, rfl⟩
  | detached hs hne hsplice hreplace =>
    obtain ⟨o, found, rfl⟩ := List.exists_cons_of_ne_nil hne
    unfold spliceRun at hsplice
    simp only [visit, hs, Dialogue.result_andThen, Dialogue.state_andThen, state_log, hsplice, hreplace]
    exact ⟨rfl, rfl⟩
  | replaced hs hne hsplice hreplace =>
    obtain ⟨o, found, rfl⟩ := List.exists_cons_of_ne_nil hne
    unfold spliceRun at hsplice
    simp only [visit, hs, Dialogue.result_andThen, Dialogue.state_andThen, state_log, hsplice, hreplace]
    exact ⟨rfl, rfl⟩

/-- a visit that goes well is one of a text that meets a fate -/
theorem exists_meets_of_visited {s : σ} {p p' : Progress τ} {leaf : ℓ} (h : Visited r region host document s p leaf p') :
    ∃ fate s', Meets r region host document s p.tree leaf fate s' p'.tree := by
  cases h with
  | plain hs => exact ⟨_, _, .plain hs⟩
  | detached hs hne hsplice hreplace => exact ⟨_, _, .detached hs hne hsplice hreplace⟩
  | replaced hs hne hsplice hreplace => exact ⟨_, _, .replaced hs hne hsplice hreplace⟩

/-- **A visit fails where its text halts the pass, and nowhere else.** -/
theorem result_visit_eq_error_iff {s : σ} {p : Progress τ} {leaf : ℓ} {stop : Stop} :
    ((r.visit region document p leaf).run host s).result = .error stop ↔ Halts r region host document s p.tree leaf stop := by
  constructor
  · intro h
    unfold visit at h
    split at h
    · rename_i limit hs
      rw [Dialogue.run_pure] at h
      cases h
      exact .scan hs
    · cases h
    · rename_i found hne hs
      simp only [Dialogue.result_andThen, state_log] at h
      cases hsplice : ((r.splice document (region.content leaf) (found.map Placement.ofOccurrence)).run host s).result with
      | error limit =>
        rw [hsplice] at h
        cases h
        exact .splice hs hsplice
      | ok segments =>
        simp only [hsplice] at h
        cases hreplace : region.replace p.tree leaf segments with
        | error refusal =>
          rw [hreplace] at h
          cases h
          exact .replace hs (by simpa using hne) hsplice hreplace
        | ok answer =>
          obtain ⟨there, tree⟩ := answer
          cases there with
          | false =>
            simp only [hreplace, Dialogue.result_andThen] at h
            cases h
          | true =>
            simp only [hreplace] at h
            cases h
  · intro h
    cases h with
    | scan hs => rw [visit, hs, Dialogue.run_pure]
    | @splice found limit hs hsplice =>
      have hne : found ≠ [] := by
        rintro rfl
        exact spliceRun_nil_ne_error hsplice
      obtain ⟨o, found, rfl⟩ := List.exists_cons_of_ne_nil hne
      unfold spliceRun at hsplice
      simp only [visit, hs, Dialogue.result_andThen, state_log, hsplice, Dialogue.run_pure]
    | replace hs hne hsplice hreplace =>
      obtain ⟨o, found, rfl⟩ := List.exists_cons_of_ne_nil hne
      unfold spliceRun at hsplice
      simp only [visit, hs, Dialogue.result_andThen, state_log, hsplice, hreplace, Dialogue.run_pure]

variable (r region host document) in
/-- a text is visited with a fate, or it halts the pass -/
theorem meets_or_halts (s : σ) (tree : τ) (leaf : ℓ) :
    (∃ fate s' tree', Meets r region host document s tree leaf fate s' tree') ∨
      ∃ stop, Halts r region host document s tree leaf stop := by
  cases hv : ((r.visit region document { tree } leaf).run host s).result with
  | error stop => exact Or.inr ⟨stop, result_visit_eq_error_iff.1 hv⟩
  | ok p' =>
    obtain ⟨fate, s', hmeets⟩ := exists_meets_of_visited (result_visit_eq_ok_iff.1 hv)
    exact Or.inl ⟨fate, s', p'.tree, hmeets⟩

/-! ## All texts -/

variable (r region host document) in
/-- **A pass is a course, and either it has gone through all texts or the next one halts it.** -/
theorem exists_course_visitAll (leaves : List ℓ) (p : Progress τ) (s : σ) :
    ∃ done rest fates s', leaves = done ++ rest ∧
      Course r region host document s p.tree done fates s' ((r.visitAll region document leaves p).run host s).result.tree ∧
      ((r.visitAll region document leaves p).run host s).result.report = fates.foldl Report.record p.report ∧
      match ((r.visitAll region document leaves p).run host s).result.stop with
      | none => rest = []
      | some stop => ∃ leaf later, rest = leaf :: later ∧
          Halts r region host document s' ((r.visitAll region document leaves p).run host s).result.tree leaf stop := by
  induction leaves generalizing p s with
  | nil => exact ⟨[], [], [], s, rfl, .nil s p.tree, rfl, rfl⟩
  | cons leaf leaves ih =>
    rcases meets_or_halts r region host document s p.tree leaf with
      ⟨fate, s', tree', hmeets⟩ | ⟨stop, hhalts⟩
    · obtain ⟨hresult, hstate⟩ := run_visit_of_meets hmeets
      obtain ⟨done, rest, fates, s'', hsplit, hcourse, hreport, hstop⟩ :=
        ih { tree := tree', report := p.report.record fate } s'
      simp only [visitAll, Dialogue.result_andThen, hresult, hstate]
      exact ⟨leaf :: done, rest, fate :: fates, s'', congrArg (leaf :: ·) hsplit, .cons hmeets hcourse, hreport, hstop⟩
    · have hresult := result_visit_eq_error_iff.2 hhalts
      simp only [visitAll, Dialogue.result_andThen, hresult]
      exact ⟨[], leaf :: leaves, [], s, rfl, .nil s p.tree, rfl, leaf, leaves, rfl, hhalts⟩

/-- **A course is a pass that completes.** -/
theorem run_visitAll_of_course {leaves : List ℓ} {fates : List Fate} {s s' : σ} {tree tree' : τ}
    (h : Course r region host document s tree leaves fates s' tree') (report : Report) :
    ((r.visitAll region document leaves { tree, report }).run host s).result =
        { tree := tree', report := fates.foldl Report.record report } ∧
      ((r.visitAll region document leaves { tree, report }).run host s).state = s' := by
  induction h generalizing report with
  | nil s tree => exact ⟨rfl, rfl⟩
  | @cons s s₁ s₂ tree tree₁ tree₂ leaf leaves fate fates here rest ih =>
    obtain ⟨hresult, hstate⟩ := run_visit_of_meets (p := { tree, report }) here
    simp only [visitAll, Dialogue.result_andThen, Dialogue.state_andThen, hresult, hstate]
    exact ih (report.record fate)

/-- a course and a text that halts the pass behind it are a pass that stops early -/
theorem result_visitAll_of_halts {done : List ℓ} (later : List ℓ) {leaf : ℓ} {fates : List Fate} {s s' : σ} {tree tree' : τ}
    {stop : Stop} (h : Course r region host document s tree done fates s' tree')
    (hhalts : Halts r region host document s' tree' leaf stop) (report : Report) :
    ((r.visitAll region document (done ++ leaf :: later) { tree, report }).run host s).result =
      { tree := tree', report := fates.foldl Report.record report, stop := some stop } := by
  induction h generalizing report with
  | nil s tree =>
    have hresult := result_visit_eq_error_iff (p := { tree, report }).2 hhalts
    simp only [List.nil_append, visitAll, Dialogue.result_andThen, hresult]
    rfl
  | @cons s s₁ s₂ tree tree₁ tree₂ first leaves fate fates here rest ih =>
    obtain ⟨hresult, hstate⟩ := run_visit_of_meets (p := { tree, report }) here
    simp only [List.cons_append, visitAll, Dialogue.result_andThen, hresult, hstate]
    exact ih hhalts (report.record fate)

theorem Course.length_eq {leaves : List ℓ} {fates : List Fate} {s s' : σ} {tree tree' : τ}
    (h : Course r region host document s tree leaves fates s' tree') : leaves.length = fates.length := by
  induction h with
  | nil s tree => rfl
  | cons _ _ ih => rw [List.length_cons, List.length_cons, ih]

/-- a course over texts and then others is a course over each -/
theorem Course.of_append {leaves more : List ℓ} {fates : List Fate} {s s'' : σ} {tree tree'' : τ}
    (h : Course r region host document s tree (leaves ++ more) fates s'' tree'') :
    ∃ front back s' tree', fates = front ++ back ∧ Course r region host document s tree leaves front s' tree' ∧
      Course r region host document s' tree' more back s'' tree'' := by
  induction leaves generalizing s tree fates with
  | nil => exact ⟨[], fates, s, tree, rfl, .nil s tree, h⟩
  | cons leaf leaves ih =>
    cases h with
    | cons here rest =>
      obtain ⟨front, back, s', tree', rfl, hfront, hback⟩ := ih rest
      exact ⟨_, back, s', tree', rfl, .cons here hfront, hback⟩

/-! ## What does not hang on the tree -/

/-- a fate is told by what is found in the text and by its splice -/
theorem Meets.exists_found {s s' : σ} {tree tree' : τ} {leaf : ℓ} {fate : Fate}
    (h : Meets r region host document s tree leaf fate s' tree') :
    ∃ found, Directive.scan (region.content leaf) = .ok found ∧
      ((found = [] ∧ fate.spliced? = none ∧ s' = s) ∨
        (found ≠ [] ∧ ∃ segments, (r.spliceRun host document s (region.content leaf) found).result = .ok segments ∧
          fate.spliced? = some segments ∧ s' = (r.spliceRun host document s (region.content leaf) found).state)) := by
  cases h with
  | plain hs => exact ⟨[], hs, Or.inl ⟨rfl, rfl, rfl⟩⟩
  | detached hs hne hsplice hreplace => exact ⟨_, hs, Or.inr ⟨hne, _, hsplice, rfl, rfl⟩⟩
  | replaced hs hne hsplice hreplace => exact ⟨_, hs, Or.inr ⟨hne, _, hsplice, rfl, rfl⟩⟩

/-- what is spliced for a text, and the state of the host after it, do not hang on the tree -/
theorem Meets.spliced_eq {leaf : ℓ} {fate₁ fate₂ : Fate} {s s₁ s₂ : σ} {tree₁ tree₂ after₁ after₂ : τ}
    (h₁ : Meets r region host document s tree₁ leaf fate₁ s₁ after₁)
    (h₂ : Meets r region host document s tree₂ leaf fate₂ s₂ after₂) :
    fate₁.spliced? = fate₂.spliced? ∧ s₁ = s₂ := by
  obtain ⟨found, hs, hfate⟩ := h₁.exists_found
  obtain ⟨found', hs', hfate'⟩ := h₂.exists_found
  obtain rfl := Except.ok.inj (hs.symm.trans hs')
  rcases hfate with ⟨rfl, hnone, rfl⟩ | ⟨hne, segments, hsplice, hsome, rfl⟩
  · rcases hfate' with ⟨-, hnone', rfl⟩ | ⟨hne, -⟩
    · exact ⟨hnone.trans hnone'.symm, rfl⟩
    · exact absurd rfl hne
  · rcases hfate' with ⟨hnil, -⟩ | ⟨-, segments', hsplice', hsome', rfl⟩
    · exact absurd hnil hne
    · obtain rfl := Except.ok.inj (hsplice.symm.trans hsplice')
      exact ⟨hsome.trans hsome'.symm, rfl⟩

/-- **What is spliced for the texts of a course does not hang on the tree.** -/
theorem Course.spliced_eq {leaves : List ℓ} {fates₁ fates₂ : List Fate} {s s₁ s₂ : σ} {tree₁ tree₂ after₁ after₂ : τ}
    (h₁ : Course r region host document s tree₁ leaves fates₁ s₁ after₁)
    (h₂ : Course r region host document s tree₂ leaves fates₂ s₂ after₂) :
    fates₁.map Fate.spliced? = fates₂.map Fate.spliced? ∧ s₁ = s₂ := by
  induction h₁ generalizing tree₂ fates₂ with
  | nil s tree =>
    cases h₂ with
    | nil => exact ⟨rfl, rfl⟩
  | cons here rest ih =>
    cases h₂ with
    | cons here' rest' =>
      obtain ⟨hspliced, rfl⟩ := here.spliced_eq here'
      obtain ⟨hrest, hstate⟩ := ih rest'
      exact ⟨congrArg₂ List.cons hspliced hrest, hstate⟩

end Resolver

end Transclude
