/-
What a pass reports.

Blocks are made and warned of when a text is spliced, and counted when the text is replaced. All three go along the same course:
`Report.ofFates` counts what became of some texts, and it takes lists behind each other to merged reports, so the report of a pass
is the count of its course.

- `warns_visitAll`: the warnings of a pass are those of the blocks that it made, in order.
- `Report.Merging.eq_ofFates`: reports that are merged, in whatever groups, are the count of all of their texts in order.
- `process_accounts`: what the report of a pass says of the texts, of their directives, of the blocks and of the warnings.
-/
import Transclude.DocumentJob
import Transclude.Proofs.Pass.Course
import Transclude.Proofs.Pass.Segments
import Transclude.Proofs.Pass.Serving

namespace Transclude

/-! ## Counting -/

/-- the blocks that were made of a text -/
def Fate.made (fate : Fate) : List BlockSegment :=
  match fate.spliced? with
  | some segments => segments.filterMap Segment.block?
  | none => []

/-- the text was replaced -/
def Fate.isReplaced : Fate → Bool
  | .replaced _ => true
  | _ => false

/-- the blocks that were put into the place of a text -/
def Fate.inserted (fate : Fate) : List BlockSegment := if fate.isReplaced then fate.made else []

/-- the block reports what went wrong -/
def BlockSegment.isError (b : BlockSegment) : Bool := b.kind == .error

/-- what is warned of when the block is made -/
def BlockSegment.warning (b : BlockSegment) : Text := b.failure ++ " (".toList ++ b.directive.raw ++ [')']

namespace Report

/-- the blocks of each kind, and what went wrong -/
def ofBlocks (bs : List BlockSegment) : Report where
  blocks := (bs.filter fun b => !b.isError).length
  errors := (bs.filter BlockSegment.isError).length
  failures := (bs.filter BlockSegment.isError).map BlockSegment.failure

/-- the report of texts with these fates, by counting -/
def ofFates (fates : List Fate) : Report :=
  { ofBlocks (fates.flatMap Fate.inserted) with
    leavesScanned := fates.length
    leavesReplaced := (fates.filter Fate.isReplaced).length }

theorem empty_merge (r : Report) : merge {} r = r := by simp [merge]

theorem merge_assoc (a b c : Report) : (a.merge b).merge c = a.merge (b.merge c) := by
  simp [merge, Int.add_assoc, List.append_assoc]

theorem ofBlocks_append (bs more : List BlockSegment) : ofBlocks (bs ++ more) = (ofBlocks bs).merge (ofBlocks more) := by
  simp [ofBlocks, merge]

theorem ofFates_append (fates more : List Fate) : ofFates (fates ++ more) = (ofFates fates).merge (ofFates more) := by
  simp [ofFates, ofBlocks, merge]

/-- putting blocks in is counting them -/
theorem foldl_add (report : Report) (bs : List BlockSegment) : bs.foldl add report = report.merge (ofBlocks bs) := by
  induction bs generalizing report with
  | nil => simp [ofBlocks, merge]
  | cons b bs ih =>
    have hadd : report.add b = report.merge (ofBlocks [b]) := by
      unfold add
      split
      · rename_i hkind
        simp [ofBlocks, BlockSegment.isError, hkind, merge]
      · rename_i hkind
        simp [ofBlocks, BlockSegment.isError, hkind, merge]
    rw [List.foldl_cons, ih, hadd, merge_assoc, ← ofBlocks_append, List.singleton_append]

theorem record_eq (report : Report) (fate : Fate) : report.record fate = report.merge (ofFates [fate]) := by
  cases fate with
  | plain => simp [record, scanned, ofFates, ofBlocks, merge, Fate.inserted, Fate.isReplaced]
  | detached segments => simp [record, scanned, ofFates, ofBlocks, merge, Fate.inserted, Fate.isReplaced]
  | replaced segments =>
    simp [record, scanned, replaced, foldl_add, ofFates, ofBlocks, merge, Fate.inserted, Fate.isReplaced, Fate.made,
      Fate.spliced?, List.filter_cons]

/-- going through texts is counting them -/
theorem foldl_record (report : Report) (fates : List Fate) :
    fates.foldl record report = report.merge (ofFates fates) := by
  induction fates generalizing report with
  | nil => simp [ofFates, ofBlocks, merge]
  | cons fate fates ih => rw [List.foldl_cons, ih, record_eq, merge_assoc, ← ofFates_append, List.singleton_append]

/-- some reports are merged in order, in whatever groups, beginning with empty reports -/
inductive Merging : List Report → Report → Prop
  | empty : Merging [] {}
  | report (r : Report) : Merging [r] r
  | merge {rs ss : List Report} {a b : Report} (ha : Merging rs a) (hb : Merging ss b) : Merging (rs ++ ss) (a.merge b)

/-- **Merged reports are the count of all texts in order.** -/
theorem Merging.eq_ofFates {reports : List Report} {total : Report} (h : Merging reports total) {counted : List (List Fate)}
    (hcounted : reports = counted.map ofFates) : total = ofFates counted.flatten := by
  induction h generalizing counted with
  | empty =>
    obtain rfl := List.map_eq_nil_iff.1 hcounted.symm
    rfl
  | report r =>
    obtain ⟨fates, rfl, rfl⟩ := List.map_eq_singleton_iff.1 hcounted.symm
    rw [List.flatten_cons, List.flatten_nil, List.append_nil]
  | merge _ _ iha ihb =>
    obtain ⟨front, back, rfl, hfront, hback⟩ := List.map_eq_append_iff.1 hcounted.symm
    rw [iha hfront.symm, ihb hback.symm, List.flatten_append, ofFates_append]

end Report

/-! ## Warnings -/

/-- what a record warns of -/
def LogRecord.warning? (record : LogRecord) : Option Text :=
  match record.level with
  | .warning => some record.message
  | .debug => none

/-- what an event warns of -/
def Event.warning? : Event → Option Text
  | .record entry => entry.warning?
  | _ => none

theorem Log.warning?_debug (verbosity threshold : Int) (message : Text) :
    (Log.debug verbosity threshold message).filterMap LogRecord.warning? = [] := by
  unfold Log.debug
  split <;> rfl

theorem Log.warning?_warning {verbosity : Int} (h : 1 ≤ verbosity) (message : Text) :
    (Log.warning verbosity message).filterMap LogRecord.warning? = [message] := by
  rw [Log.warning, Log.warningThreshold, if_pos h]
  rfl

namespace Resolver

variable {τ ℓ σ α β : Type} {r : Resolver} {region : Region τ ℓ} {host : σ → Text → Dialogue.Run σ Event FileAnswer}
  {document : Text}

/-- the host and the renderer warn of nothing themselves -/
structure Unwarned (r : Resolver) (host : σ → Text → Dialogue.Run σ Event FileAnswer) : Prop where
  host : ∀ s path, (host s path).events.filterMap Event.warning? = []
  render : ∀ language text, (r.render language text).records.filterMap LogRecord.warning? = []

/-- from a state of the host on, a part of a pass warns of this in order, and where everyone else is quiet, of nothing else -/
structure Warns (quiet : Prop) (host : σ → Text → Dialogue.Run σ Event FileAnswer) (s : σ) (warnings : List Text)
    (pass : Pass α) : Prop where
  sublist : warnings.Sublist ((pass.run host s).events.filterMap Event.warning?)
  eq : quiet → (pass.run host s).events.filterMap Event.warning? = warnings

variable {quiet : Prop}

/-- a part all of whose warnings are its own -/
theorem Warns.of_eq {s : σ} {warnings : List Text} {pass : Pass α}
    (h : (pass.run host s).events.filterMap Event.warning? = warnings) : Warns quiet host s warnings pass :=
  ⟨by rw [h], fun _ => h⟩

theorem warns_pure (s : σ) (a : α) : Warns quiet host s [] (pure a : Pass α) := .of_eq rfl

theorem Warns.andThen {s : σ} {warnings more : List Text} {pass : Pass α} {next : α → Pass β}
    (h : Warns quiet host s warnings pass)
    (h' : Warns quiet host (pass.run host s).state more (next (pass.run host s).result)) :
    Warns quiet host s (warnings ++ more) (pass >>= next) := by
  have hevents : ((pass >>= next).run host s).events.filterMap Event.warning? =
      (pass.run host s).events.filterMap Event.warning? ++
        ((next (pass.run host s).result).run host (pass.run host s).state).events.filterMap Event.warning? := by
    rw [Dialogue.run_andThen, List.filterMap_append]
  constructor
  · rw [hevents]
    exact h.sublist.append h'.sublist
  · intro hquiet
    rw [hevents, h.eq hquiet, h'.eq hquiet]

/-- a part without warnings can stand in front -/
theorem Warns.after {s : σ} {warnings : List Text} {pass : Pass α} {next : α → Pass β} (h : Warns quiet host s [] pass)
    (h' : Warns quiet host (pass.run host s).state warnings (next (pass.run host s).result)) :
    Warns quiet host s warnings (pass >>= next) :=
  h.andThen h'

/-- what is done with the result of a part is not warned of -/
theorem Warns.map {s : σ} {ws : List Text} {pass : Pass α} (h : Warns quiet host s ws pass) (f : α → β) :
    Warns quiet host s ws (pass >>= fun a => pure (f a)) := by
  have hboth : Warns quiet host s (ws ++ []) (pass >>= fun a => pure (f a)) := h.andThen (warns_pure _ _)
  rwa [List.append_nil] at hboth

variable (host) in
theorem warnings_emit (s : σ) (records : List LogRecord) :
    ((emit records).run host s).events.filterMap Event.warning? = records.filterMap LogRecord.warning? := by
  rw [emit, Dialogue.run_tellAll, List.filterMap_map]
  rfl

theorem warns_log (s : σ) (threshold : Int) (message : Text) : Warns quiet host s [] (r.log threshold message) := by
  have h := warnings_emit host s (Log.debug r.verbosity threshold message)
  rw [Log.warning?_debug] at h
  exact .of_eq h

/-- an error that is reported is warned of -/
theorem warns_reportError (hverbosity : 1 ≤ r.verbosity) (s : σ) (message : Text) (d : Directive) :
    Warns quiet host s [message ++ " (".toList ++ d.raw ++ [')']] (r.reportError message d) := by
  have h := warnings_emit host s (Log.warning r.verbosity (message ++ " (".toList ++ d.raw ++ [')']))
  rw [Log.warning?_warning hverbosity] at h
  exact (Warns.of_eq h).map _

theorem warns_request (hu : quiet → Unwarned r host) (s : σ) (path : Text) :
    Warns quiet host s [] (Dialogue.request path : Pass FileAnswer) := by
  have hevents : ((Dialogue.request path : Pass FileAnswer).run host s).events = (host s path).events ++ [] := rfl
  refine ⟨List.nil_sublist _, fun hquiet => ?_⟩
  rw [hevents, List.append_nil]
  exact (hu hquiet).host s path

theorem warns_rendering (hu : quiet → Unwarned r host) (s : σ) (language text : Text) :
    Warns quiet host s [] (emit (r.render language text).records) := by
  refine ⟨List.nil_sublist _, fun hquiet => ?_⟩
  rw [warnings_emit]
  exact (hu hquiet).render language text

/-! ## One directive -/

/-- what is warned of when blocks are made -/
def warnings (bs : List BlockSegment) : List Text := (bs.filter BlockSegment.isError).map BlockSegment.warning

theorem warnings_append (bs more : List BlockSegment) : warnings (bs ++ more) = warnings bs ++ warnings more := by
  simp [warnings]

/-- a block that reports what went wrong has a message, which is told in the report of the pass; a block of code has none -/
structure Explained (b : BlockSegment) : Prop where
  error : b.isError = true → b.message = some b.failure
  code : b.isError = false → b.message = none

theorem failure_errorBlock {message : Text} (h : message ≠ []) (d : Directive) : (r.errorBlock message d).failure = message := by
  obtain ⟨c, message, rfl⟩ := List.exists_cons_of_ne_nil h
  rfl

theorem explained_errorBlock {message : Text} (h : message ≠ []) (d : Directive) : Explained (r.errorBlock message d) := by
  refine ⟨fun _ => ?_, fun herror => ?_⟩
  · rw [failure_errorBlock h]
    rfl
  · cases herror

/-- **Every block explains itself.** -/
theorem explained_of_blockFor {d : Directive} {answer : FileAnswer} {b : BlockSegment} (h : r.blockFor d answer = .ok b) :
    Explained b := by
  unfold blockFor at h
  split at h
  · cases h
    exact explained_errorBlock (List.cons_ne_nil _ _) d
  · cases h
    exact explained_errorBlock (List.cons_ne_nil _ _) d
  · split at h
    · cases h
      exact explained_errorBlock (List.cons_ne_nil _ _) d
    · obtain ⟨markup, -, rfl⟩ := Markup.Token.eq_of_map_eq_ok h
      refine ⟨fun herror => ?_, fun _ => rfl⟩
      cases herror

/-- a report of what went wrong, and the warning that goes with it -/
theorem warns_errorBlock (hverbosity : 1 ≤ r.verbosity) (s : σ) {message : Text} (h : message ≠ []) (d : Directive) :
    Warns quiet host s (warnings [r.errorBlock message d]) (r.reportError message d) := by
  have hwarning : warnings [r.errorBlock message d] = [message ++ " (".toList ++ d.raw ++ [')']] := by
    have hfailure := failure_errorBlock (r := r) h d
    have herror : (r.errorBlock message d).isError = true := rfl
    have hraw : (r.errorBlock message d).directive.raw = d.raw := rfl
    simp [warnings, herror, BlockSegment.warning, hfailure, hraw]
  rw [hwarning]
  exact warns_reportError hverbosity s message d

theorem warns_resolveContent (hu : quiet → Unwarned r host) (hverbosity : 1 ≤ r.verbosity) {s : σ} {d : Directive} {path content : Text}
    {b : BlockSegment} (h : r.blockFor d (.ok (some content)) = .ok b) :
    Warns quiet host s (warnings [b]) (r.resolveContent d path content) := by
  refine Warns.after (.of_eq rfl) ((warns_rendering hu _ _ _).after ?_)
  simp only [blockFor] at h
  cases hhtml : (r.render (Language.ofPath d.path) (excerpt d content)).html with
  | error reason =>
    simp only [hhtml] at h
    cases h
    exact (warns_errorBlock hverbosity _ (List.cons_ne_nil _ _) d).map _
  | ok html =>
    simp only [hhtml] at h
    obtain ⟨markup, -, rfl⟩ := Markup.Token.eq_of_map_eq_ok h
    exact (warns_log _ _ _).map _

/-- **A directive is warned of when it becomes a report.** -/
theorem warns_resolve (hu : quiet → Unwarned r host) (hverbosity : 1 ≤ r.verbosity) {s : σ} {d : Directive} {b : BlockSegment}
    (h : ((r.resolve d document).run host s).result = .ok b) : Warns quiet host s (warnings [b]) (r.resolve d document) := by
  rw [result_resolve] at h
  refine (warns_log s _ _).after (Warns.after (.of_eq rfl) ((warns_request hu _ _).after ?_))
  simp only [state_log, Dialogue.state_tellAll, Dialogue.result_request]
  cases hanswer : (host s (r.target d document)).result with
  | error reason =>
    rw [hanswer] at h
    cases h
    exact (warns_errorBlock hverbosity _ (List.cons_ne_nil _ _) d).map _
  | ok content =>
    cases content with
    | none =>
      rw [hanswer] at h
      cases h
      exact (warns_log _ _ _).after ((warns_errorBlock hverbosity _ (List.cons_ne_nil _ _) d).map _)
    | some content =>
      rw [hanswer] at h
      exact warns_resolveContent hu hverbosity h

/-! ## One text -/

/-- a splice warns of its blocks, from left to right -/
theorem warns_spliceFrom (hu : quiet → Unwarned r host) (hverbosity : 1 ≤ r.verbosity) {t : Text} {cursor : Int} {ps : List Placement}
    {s : σ} {bs : List BlockSegment} (h : Resolved r host document s ps bs) :
    Warns quiet host s (warnings bs) (r.spliceFrom document t cursor ps) := by
  induction h generalizing cursor with
  | nil s => exact warns_pure s _
  | @cons s p ps b bs here rest ih =>
    have hhere := warns_resolve hu hverbosity here
    rw [← List.singleton_append, warnings_append]
    refine hhere.andThen ?_
    rw [here]
    exact ih.map _

/-- **The blocks that are made of a text** are those of the directives in it, one for each. -/
theorem Meets.exists_made {s s' : σ} {tree tree' : τ} {leaf : ℓ} {fate : Fate}
    (h : Meets r region host document s tree leaf fate s' tree') :
    ∃ found, Directive.scan (region.content leaf) = .ok found ∧
      Resolved r host document s (found.map Placement.ofOccurrence) fate.made := by
  obtain ⟨found, hs, hfate⟩ := h.exists_found
  refine ⟨found, hs, ?_⟩
  rcases hfate with ⟨rfl, hnone, -⟩ | ⟨-, segments, hsplice, hsome, -⟩
  · rw [Fate.made, hnone]
    exact .nil s
  · obtain ⟨bs, hbs, rfl⟩ := exists_weave_of_spliceFrom hsplice
    simp only [Fate.made, hsome, blocks_weave _ 0 hbs.length_eq]
    exact hbs

theorem Meets.length_made {s s' : σ} {tree tree' : τ} {leaf : ℓ} {fate : Fate}
    (h : Meets r region host document s tree leaf fate s' tree') :
    fate.made.length = (directivesIn (region.content leaf)).length := by
  obtain ⟨found, hs, hresolved⟩ := h.exists_made
  rw [← hresolved.length_eq, directivesIn, hs, List.length_map, List.length_map]

theorem Meets.explained {s s' : σ} {tree tree' : τ} {leaf : ℓ} {fate : Fate}
    (h : Meets r region host document s tree leaf fate s' tree') : ∀ b ∈ fate.made, Explained b := by
  intro b hb
  obtain ⟨found, -, hresolved⟩ := h.exists_made
  obtain ⟨p, -, s', hblock⟩ := exists_left_of_forall₂ (forall₂_blockFor_of_resolved hresolved) hb
  exact explained_of_blockFor hblock

/-- a visit warns of the blocks that it makes -/
theorem warns_visit (hu : quiet → Unwarned r host) (hverbosity : 1 ≤ r.verbosity) {s s' : σ} {p : Progress τ} {tree' : τ} {leaf : ℓ}
    {fate : Fate} (h : Meets r region host document s p.tree leaf fate s' tree') :
    Warns quiet host s (warnings fate.made) (r.visit region document p leaf) := by
  obtain ⟨found, hs, hresolved⟩ := h.exists_made
  have hsplice : Warns quiet host s (warnings fate.made)
      (r.splice document (region.content leaf) (found.map Placement.ofOccurrence)) :=
    warns_spliceFrom hu hverbosity hresolved
  cases h with
  | plain hs =>
    rw [visit, hs]
    exact warns_pure s _
  | detached hs' hne hresult hreplace =>
    obtain rfl := Except.ok.inj (hs.symm.trans hs')
    obtain ⟨o, found, rfl⟩ := List.exists_cons_of_ne_nil hne
    unfold spliceRun at hresult
    simp only [visit, hs]
    refine (warns_log s _ _).after ?_
    rw [state_log, ← List.append_nil (warnings _)]
    refine hsplice.andThen ?_
    simp only [hresult, hreplace]
    exact (warns_log _ _ _).map _
  | replaced hs' hne hresult hreplace =>
    obtain rfl := Except.ok.inj (hs.symm.trans hs')
    obtain ⟨o, found, rfl⟩ := List.exists_cons_of_ne_nil hne
    unfold spliceRun at hresult
    simp only [visit, hs]
    refine (warns_log s _ _).after ?_
    rw [state_log, ← List.append_nil (warnings _)]
    refine hsplice.andThen ?_
    simp only [hresult, hreplace]
    exact warns_pure _ _

/-! ## All texts -/

/-- **A pass warns of the blocks that it makes**, text by text. -/
theorem warns_visitAll (hu : quiet → Unwarned r host) (hverbosity : 1 ≤ r.verbosity) {leaves : List ℓ} {fates : List Fate} {s s' : σ}
    {tree tree' : τ} (h : Course r region host document s tree leaves fates s' tree') (report : Report) :
    Warns quiet host s (warnings (fates.flatMap Fate.made)) (r.visitAll region document leaves { tree, report }) := by
  induction h generalizing report with
  | nil s tree => exact warns_pure s _
  | @cons s s₁ s₂ tree tree₁ tree₂ leaf leaves fate fates here rest ih =>
    obtain ⟨hresult, hstate⟩ := run_visit_of_meets (p := { tree, report }) here
    have hvisit : Warns quiet host s (warnings fate.made) (r.visit region document { tree, report } leaf) :=
      warns_visit hu hverbosity here
    rw [List.flatMap_cons, warnings_append]
    refine hvisit.andThen ?_
    rw [hresult, hstate]
    exact ih _

/-- the blocks that were put into the texts of a course explain themselves -/
theorem Course.explained {leaves : List ℓ} {fates : List Fate} {s s' : σ} {tree tree' : τ}
    (h : Course r region host document s tree leaves fates s' tree') : ∀ b ∈ fates.flatMap Fate.inserted, Explained b := by
  induction h with
  | nil s tree => exact List.forall_mem_nil _
  | @cons s s₁ s₂ tree tree₁ tree₂ leaf leaves fate fates here rest ih =>
    rw [List.flatMap_cons]
    refine List.forall_mem_append.2 ⟨fun b hb => ?_, ih⟩
    rw [Fate.inserted] at hb
    split at hb
    · exact here.explained b hb
    · exact absurd hb List.not_mem_nil

/-- the number of directives in a text that was replaced -/
def directivesReplaced (region : Region τ ℓ) (leaf : ℓ) (fate : Fate) : ℕ :=
  if fate.isReplaced then (directivesIn (region.content leaf)).length else 0

/-- **One block for each directive** of the texts that are replaced. -/
theorem Course.length_inserted {leaves : List ℓ} {fates : List Fate} {s s' : σ} {tree tree' : τ}
    (h : Course r region host document s tree leaves fates s' tree') :
    (fates.flatMap Fate.inserted).length = (List.zipWith (directivesReplaced region) leaves fates).sum := by
  induction h with
  | nil s tree => rfl
  | @cons s s₁ s₂ tree tree₁ tree₂ leaf leaves fate fates here rest ih =>
    have hhere : fate.inserted.length = directivesReplaced region leaf fate := by
      rw [Fate.inserted, directivesReplaced]
      split
      · exact here.length_made
      · rfl
    calc
      ((fate :: fates).flatMap Fate.inserted).length = fate.inserted.length + (fates.flatMap Fate.inserted).length := by
        rw [List.flatMap_cons, List.length_append]
      _ = directivesReplaced region leaf fate + (List.zipWith (directivesReplaced region) leaves fates).sum := by
        rw [hhere, ih]
      _ = (List.zipWith (directivesReplaced region) (leaf :: leaves) (fate :: fates)).sum := by
        rw [List.zipWith_cons_cons, List.sum_cons]

/-- every block is one of code or a report -/
theorem blocks_add_errors (fates : List Fate) :
    (Report.ofFates fates).blocks + (Report.ofFates fates).errors = (fates.flatMap Fate.inserted).length := by
  have hsplit := List.length_eq_length_filter_add (l := fates.flatMap Fate.inserted) BlockSegment.isError
  simp only [Report.ofFates, Report.ofBlocks]
  omega

/-- the host of jobs, as a pass sees it -/
def vaultHost (vault : Vault) (verbosity : Int) (tree : FileTree) (path : Text) : Dialogue.Run FileTree Event FileAnswer :=
  { DocumentJob.serve vault verbosity tree (.readVault path) with
    result := DocumentJob.passAnswer (DocumentJob.serve vault verbosity tree (.readVault path)).result }

/-- a highlighter warns of nothing, and neither does a vault -/
theorem unwarned_vault {h : Highlighter} {style : Text} {wrap : Bool} {verbosity : Int}
    (hrender : r.render = h.render style wrap verbosity) (vault : Vault) : Unwarned r (vaultHost vault verbosity) := by
  refine ⟨fun tree path => ?_, fun language text => ?_⟩
  · simp only [vaultHost, DocumentJob.serve]
    split
    · rw [Vault.absenceRecords, List.filterMap_map]
      exact Log.warning?_debug _ _ _
    · rfl
  · rw [hrender, Highlighter.render]
    split
    · rfl
    · split
      · rfl
      · rfl
      · exact Log.warning?_debug _ _ _

/-- **The report accounts for the texts of a region.** A pass that does not stop early is a course over all candidates, and its
report is the count of the course: the texts that were looked at, those that had directives and were replaced, the blocks put into
these, one for each of their directives, and what went wrong, which is told by the messages of the reports among these blocks, in
order. If no text was gone and warnings are emitted at all, these are warned of in order, with the sources of the directives, and
there are no other warnings but those of the host and the renderer, which have none of their own in a vault (`unwarned_vault`).
Reports that are merged in any groups are the count of all texts in order. -/
theorem process_accounts (r : Resolver) (region : Region τ ℓ) (document : Text) :
    (∀ {σ : Type} (host : σ → Text → Dialogue.Run σ Event FileAnswer) (s : σ) (tree : τ),
      ((r.process region document tree).run host s).result.stop = none → ∃ fates s',
        let run := (r.process region document tree).run host s
        let report := run.result.report
        let errors := (fates.flatMap Fate.inserted).filter BlockSegment.isError
        Course r region host document s tree (region.candidates tree) fates s' run.result.tree ∧
        report = Report.ofFates fates ∧
        report.leavesScanned = (region.candidates tree).length ∧
        report.leavesReplaced = (fates.filter Fate.isReplaced).length ∧
        report.blocks + report.errors = (List.zipWith (directivesReplaced region) (region.candidates tree) fates).sum ∧
        report.errors = report.failures.length ∧
        report.failures.map some = errors.map BlockSegment.message ∧
        (1 ≤ r.verbosity → (∀ segments, Fate.detached segments ∉ fates) →
          let warnings := errors.map fun b => b.failure ++ " (".toList ++ b.directive.raw ++ [')']
          warnings.Sublist (run.events.filterMap Event.warning?) ∧
          (Unwarned r host → run.events.filterMap Event.warning? = warnings))) ∧
    ∀ (passes : List (List Fate)) (total : Report), Report.Merging (passes.map Report.ofFates) total →
      total = Report.ofFates passes.flatten := by
  refine ⟨fun host s tree h => ?_, fun passes total h => h.eq_ofFates rfl⟩
  obtain ⟨done, rest, fates, s', hsplit, hcourse, hreport, hend⟩ :=
    exists_course_visitAll r region host document (region.candidates tree) { tree } s
  rw [← result_process] at hcourse hreport hend
  simp only [h] at hend
  rw [hend, List.append_nil] at hsplit
  subst hsplit
  have hcount : ((r.process region document tree).run host s).result.report = Report.ofFates fates := by
    rw [hreport, Report.foldl_record, Report.empty_merge]
  refine ⟨fates, s', hcourse, hcount, ?_, ?_, ?_, ?_, ?_, fun hverbosity hthere => ?_⟩
  · rw [hcount, hcourse.length_eq]
    rfl
  · rw [hcount]
    rfl
  · rw [hcount, blocks_add_errors, hcourse.length_inserted]
  · rw [hcount]
    simp [Report.ofFates, Report.ofBlocks]
  · rw [hcount, Report.ofFates, Report.ofBlocks, List.map_map]
    refine List.map_congr_left fun b hb => ?_
    obtain ⟨hinserted, herror⟩ := List.mem_filter.1 hb
    exact ((hcourse.explained b hinserted).error herror).symm
  · -- where no text is gone, the blocks that were made are those that were put in
    have hmade : fates.flatMap Fate.made = fates.flatMap Fate.inserted := by
      refine List.flatMap_congr fun fate hfate => ?_
      cases fate with
      | plain => rfl
      | detached segments => exact absurd hfate (hthere segments)
      | replaced segments => rfl
    have hwarns : Warns (Unwarned r host) host s (warnings (fates.flatMap Fate.made)) (r.process region document tree) := by
      refine (warns_log s _ _).after ?_
      rw [state_log]
      exact warns_visitAll id hverbosity hcourse {}
    rw [hmade] at hwarns
    exact ⟨hwarns.sublist, hwarns.eq⟩

/-- where no text of a sequence is gone, none turns out to be -/
theorem Course.not_mem_detached_of_leaves {leaves leaves' : Leaves} {done : List (ℕ × Text)} {fates : List Fate} {s s' : σ}
    (h : Course r Leaves.region host document s leaves done fates s' leaves') (hnil : leaves.detached = [])
    (segments : List Segment) : Fate.detached segments ∉ fates := by
  induction h with
  | nil s tree => exact List.not_mem_nil
  | cons here rest ih =>
    intro hmem
    cases here with
    | plain hs =>
      rcases List.mem_cons.1 hmem with heq | hmem
      · cases heq
      · exact ih hnil hmem
    | detached hs hne hsplice hreplace =>
      simp [Leaves.region, hnil] at hreplace
    | replaced hs hne hsplice hreplace =>
      simp only [Leaves.region, hnil, List.contains_nil, Bool.false_eq_true, if_false] at hreplace
      obtain ⟨-, rfl⟩ := Prod.mk.inj (Except.ok.inj hreplace)
      rcases List.mem_cons.1 hmem with heq | hmem
      · cases heq
      · exact ih rfl hmem

/-- a text with a file that is there and one that is missing, a text without directives, and a file that cannot be read -/
def reportedLeaves : Leaves where
  contents := ["@import \"a\" @import \"c\"".toList, "@import".toList, "@import \"b\"".toList]

/-- excerpts as they are, where warnings are emitted -/
def warningResolver : Resolver := { plainResolver with verbosity := 1 }

theorem process_accounts_mixed :
    let run := (warningResolver.process Leaves.region [] reportedLeaves).run (Dialogue.answering someFiles) ()
    run.result.stop = none ∧ run.result.report.leavesScanned = 3 ∧
      run.result.report.errors = run.result.report.failures.length ∧
      (∃ errors : List BlockSegment, run.result.report.failures.map some = errors.map BlockSegment.message ∧
        run.events.filterMap Event.warning? = errors.map fun b => b.failure ++ " (".toList ++ b.directive.raw ++ [')']) ∧
      ∀ total, Report.Merging [run.result.report, run.result.report] total → total.leavesScanned = 6 := by
  intro run
  have hstop : run.result.stop = none := by decide +kernel
  have hu : Unwarned warningResolver (Dialogue.answering someFiles) := ⟨fun _ _ => rfl, fun _ _ => rfl⟩
  obtain ⟨hpass, hmerge⟩ := process_accounts warningResolver Leaves.region []
  obtain ⟨fates, s', hcourse, hreport, hscanned, -, -, herrors, hfailures, hwarns⟩ :=
    hpass (Dialogue.answering someFiles) () reportedLeaves hstop
  have hcandidates : (Leaves.region.candidates reportedLeaves).length = 3 := by decide
  rw [hcandidates] at hscanned
  refine ⟨hstop, hscanned, herrors, ⟨_, hfailures, (hwarns le_rfl (hcourse.not_mem_detached_of_leaves rfl)).2 hu⟩,
    fun total htotal => ?_⟩
  have htwice : total = Report.ofFates [fates, fates].flatten := by
    refine hmerge [fates, fates] total ?_
    rw [List.map_cons, List.map_cons, List.map_nil, ← hreport]
    exact htotal
  rw [htwice, List.flatten_cons, List.flatten_cons, List.flatten_nil, List.append_nil, Report.ofFates_append, Report.merge,
    ← hreport]
  simp only
  rw [hscanned]
  rfl

end Resolver

end Transclude
