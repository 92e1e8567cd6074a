/-
A run renders every document as if it was the only one.

The documents that a pattern selects are rendered by jobs that take turns in any order. Where their targets lead to files of their
own, outside of the vault and none of them a document, no job comes in the way of another one: it reads what was there in the
beginning, and what it writes nobody else writes. The results are put together in the order of the documents, whichever job is
through first.

- `renderInOrder_independent`: what is written, what is left alone, and what is reported.
- `renders_crossed`: where targets are links to each other or to documents, or a document imports what is behind a link that leads
  back to itself, one document shows in another one.
-/
import Mathlib
import Transclude.Proofs.DocumentJob.Together
import Transclude.Proofs.Glob.Selecting

namespace Transclude

/-! ## Sessions -/

namespace Session

variable {α β : Type} (w : World)

/-- what comes of a session in a world -/
def outcome (s : Session α) (w : World) : Except Halt α × World := (ExceptT.run s).run w

theorem outcome_andThen (s : Session α) (f : α → Session β) :
    (s >>= f).outcome w = match s.outcome w with
      | (.ok a, w) => (f a).outcome w
      | (.error e, w) => (.error e, w) := by
  simp only [outcome, ExceptT.run_bind, StateT.run_bind]
  rcases (ExceptT.run s).run w with ⟨_ | _, _⟩ <;> rfl

theorem outcome_pure (a : α) : (pure a : Session α).outcome w = (.ok a, w) := rfl

theorem outcome_log (verbosity threshold : Int) (message : Text) : (log verbosity threshold message).outcome w =
    (.ok (), { w with records := w.records ++ Log.debug verbosity threshold message }) := rfl

theorem outcome_look (question : FileTree → Except FileFault α) :
    (look question).outcome w = ((question w.tree).mapError Halt.fault, w) := by
  have hget : (get : Session World).outcome w = (.ok w, w) := rfl
  rw [look, outcome_andThen, hget]
  dsimp only
  cases question w.tree <;> rfl

theorem outcome_answer (talk : FileTree → Dialogue.Run FileTree Event α) : (answer talk).outcome w =
    (.ok (talk w.tree).result, { tree := (talk w.tree).state, records := w.records ++ recordsOf (talk w.tree).events }) := rfl

end Session

namespace Stage

open DocumentJob (Apart)
open FileTree (Grows IsName)

variable {h : Highlighter} {settings : Settings} {state : RunState} {input output : FilePath} {tree : FileTree} {vault : Vault}

/-! ## The stages -/

theorem outcome_jobs (houtput : state.outputFolder = some output) (w : World) :
    (jobs state input).outcome w = (.ok (state.documents.map (job input output)), w) := by
  unfold jobs
  rw [houtput]
  cases hdocuments : state.documents with
  | nil => rfl
  | cons document documents => rfl

theorem exists_findDocuments (hinput : state.inputFolder = some input) {parts : List Glob.Part} {documents : List FilePath}
    (hpattern : Glob.parts state.pattern = .ok parts) {w : World} (hfiles : Glob.files w.tree input parts = .ok documents) :
    ∃ records, (findDocuments state).outcome w = (.ok { state with documents }, { tree := w.tree, records }) := by
  unfold findDocuments
  rw [hinput, folder, hpattern]
  apply Exists.intro
  rw [Session.outcome_andThen, Session.outcome_pure]
  dsimp only
  rw [Session.outcome_andThen, Session.outcome_look, hfiles]
  rfl

/-- what comes of rendering: what comes of the jobs -/
theorem exists_renderInOrder (h : Highlighter) (settings : Settings) (hinput : state.inputFolder = some input)
    (houtput : state.outputFolder = some output) {w : World} (hvault : Vault.at? w.tree input .utf8 = .ok vault)
    (order : List ℕ) :
    ∃ records, (renderInOrder h order settings state).outcome w =
      (((renderAll settings (resolver h settings state) vault order (state.documents.map (job input output)) w.tree).result.mapError
          haltOf).map fun reports =>
        { state with report := some (reports.foldl Report.merge {}), written := state.documents.map output.join },
      { tree := (renderAll settings (resolver h settings state) vault order (state.documents.map (job input output)) w.tree).state,
        records }) := by
  unfold renderInOrder
  rw [hinput, folder]
  apply Exists.intro
  rw [Session.outcome_andThen, Session.outcome_log]
  dsimp only
  rw [Session.outcome_andThen, Session.outcome_pure]
  dsimp only
  rw [Session.outcome_andThen, Session.outcome_look, hvault]
  dsimp only [Except.mapError]
  rw [Session.outcome_andThen, outcome_jobs houtput]
  dsimp only
  rw [Session.outcome_andThen, Session.outcome_answer]
  dsimp only
  cases (renderAll settings (resolver h settings state) vault order (state.documents.map (job input output)) w.tree).result with
  | error e => rfl
  | ok reports => rw [List.map_map]; rfl

/-- what comes of finding documents and then rendering them -/
theorem exists_start (h : Highlighter) (settings : Settings) (hinput : state.inputFolder = some input)
    (houtput : state.outputFolder = some output) (hvault : Vault.at? tree input .utf8 = .ok vault) {parts : List Glob.Part}
    (hpattern : Glob.parts state.pattern = .ok parts) {documents : List FilePath}
    (hfiles : Glob.files tree input parts = .ok documents) (order : List ℕ) :
    ∃ records, (findDocuments state >>= renderInOrder h order settings).start tree =
      (((renderAll settings (resolver h settings state) vault order (documents.map (job input output)) tree).result.mapError
          haltOf).map fun reports =>
        { state with documents, report := some (reports.foldl Report.merge {}), written := documents.map output.join },
      { tree := (renderAll settings (resolver h settings state) vault order (documents.map (job input output)) tree).state,
        records }) := by
  obtain ⟨before, hfound⟩ := exists_findDocuments hinput hpattern (w := { tree }) hfiles
  have hinput' : ({ state with documents } : RunState).inputFolder = some input := hinput
  obtain ⟨after, hrendered⟩ := exists_renderInOrder h settings hinput' houtput (w := { tree, records := before }) hvault order
  refine ⟨after, (Session.outcome_andThen _ _ _).trans ?_⟩
  rw [hfound]
  exact hrendered

/-! ## Documents by themselves -/

/-- the root of a vault is a folder if there is a document in it -/
theorem node?_root (hvault : Vault.at? tree input .utf8 = .ok vault) {parts : List Glob.Part} {documents : List FilePath}
    (hfiles : Glob.files tree input parts = .ok documents) (hne : documents ≠ []) : tree.node? vault.root = some .folder := by
  obtain ⟨loc, hfind⟩ := Glob.exists_folder_of_files hfiles hne
  obtain ⟨hlocate, hfolder⟩ := FileTree.find_eq_ok_iff.1 hfind
  rw [Vault.at?, (FileTree.resolve_of_locate hlocate).2] at hvault
  obtain rfl := Except.ok.inj hvault
  exact hfolder

/-- the job of a selected document is ready -/
theorem ready_job (hground : tree.Grounded output) {document : FilePath} (hchosen : Glob.Chosen tree input document)
    (hinput : ∃ loc, tree.find input = .ok (loc, .folder)) : (job input output document).Ready tree := by
  obtain ⟨hslashes, hnames, loc, content, hfile⟩ := hchosen
  refine ⟨⟨loc, content, hfile⟩, ?_⟩
  rcases List.eq_nil_or_concat document.parts with hnil | ⟨front, name, hparts⟩
  · -- the folder itself is no document
    obtain ⟨place, hfolder⟩ := hinput
    rw [FilePath.join, if_pos hslashes, hnil, List.append_nil, hfolder] at hfile
    cases hfile
  · rw [List.concat_eq_append] at hparts
    rw [hparts] at hnames
    obtain ⟨hfront, hlast⟩ := List.forall_mem_append.1 hnames
    refine ⟨output.join { parts := front }, name, hground.names hfront, hlast name List.mem_cons_self, ?_⟩
    simp only [job, FilePath.join, FilePath.child, if_pos hslashes, if_true, hparts, List.append_assoc]

/-- **A run renders every document as if it was the only one**, in whatever order the jobs get their turns, and with any
highlighter. The documents are in strictly ascending order. Whether or not the run comes to its end, nothing changes in the vault,
and wherever something has changed there is a new folder, or what a document comes to by itself. If it does come to its end, each
document is found at its target as it comes to by itself, the targets are listed in the order of the documents, and the reports
are merged in that order.

The targets must lead to files of their own, outside of the vault and none of them a document, and the directives must not lead
into a link that leads back to itself (`Apart`). -/
theorem renderInOrder_independent (h : Highlighter) (hinput : state.inputFolder = some input)
    (houtput : state.outputFolder = some output) (hwf : tree.WellFormed) (hground : tree.Grounded output)
    (hvault : Vault.at? tree input .utf8 = .ok vault) {parts : List Glob.Part} (hpattern : Glob.parts state.pattern = .ok parts)
    (hdots : ['.', '.'] ∉ (FilePath.ofText state.pattern).parts) {documents : List FilePath}
    (hfiles : Glob.files tree input parts = .ok documents)
    (hapart : Apart settings (resolver h settings state) vault tree (documents.map (job input output))) (order : List ℕ) :
    let run := (findDocuments state >>= renderInOrder h order settings).start tree
    documents.Pairwise (fun p q => FilePath.le p q = true ∧ FilePath.le q p = false) ∧
    (∀ loc, vault.root <+: loc → run.2.tree.node? loc = tree.node? loc) ∧
    (∀ loc, run.2.tree.node? loc = tree.node? loc ∨
      (tree.node? loc = none ∧ run.2.tree.node? loc = some .folder) ∨
      ∃ document ∈ documents, ∃ text report,
        (job input output document).alone settings (resolver h settings state) vault tree = .ok (text, report) ∧
        tree.LeadsTo (output.join document) loc ∧ run.2.tree.node? loc = some (.file (.ok (Encoding.encodeText text)))) ∧
    ∀ rendered, run.1 = .ok rendered →
      rendered.documents = documents ∧ rendered.written = documents.map output.join ∧
      ∃ reports, rendered.report = some (reports.foldl Report.merge {}) ∧
        List.Forall₂ (fun document report =>
            (job input output document).Renders settings (resolver h settings state) vault tree run.2.tree report)
          documents reports := by
  intro run
  have hchosen := Glob.chosen_of_files hwf hpattern hdots hfiles
  have hready : ∀ each ∈ documents.map (job input output), each.Ready tree := by
    intro each heach
    obtain ⟨document, hdocument, rfl⟩ := List.mem_map.1 heach
    exact ready_job hground (hchosen document hdocument) (Glob.exists_folder_of_files hfiles (List.ne_nil_of_mem hdocument))
  have hroot : documents.map (job input output) ≠ [] → tree.node? vault.root = some .folder :=
    fun hne => node?_root hvault hfiles fun e => hne (by rw [e]; rfl)
  obtain ⟨hgrows, hall⟩ := DocumentJob.renderAll_independent hwf hroot hready hapart order
  obtain ⟨records, hrun⟩ := exists_start h settings hinput houtput hvault hpattern hfiles order
  change run = _ at hrun
  rw [hrun]
  refine ⟨Glob.files_ascending hwf hfiles, fun loc hbelow => ?_, fun loc => ?_, fun rendered hrendered => ?_⟩
  · rcases hgrows.node loc with hsame | ⟨node, -, -, hbrings⟩
    · exact hsame
    · exact absurd hbelow (hapart.not_below hbrings)
  · rcases hgrows.node loc with hsame | ⟨node, hnode, hfills, each, heach, ⟨rfl, -⟩ | ⟨text, report, halone, hleads, rfl⟩⟩
    · exact .inl hsame
    · refine .inr (.inl ⟨?_, hnode⟩)
      cases hold : tree.node? loc with
      | none => rfl
      | some old =>
        rw [hold] at hfills
        cases old <;> exact hfills.elim
    · obtain ⟨document, hdocument, rfl⟩ := List.mem_map.1 heach
      exact .inr (.inr ⟨document, hdocument, text, report, halone, hleads, hnode⟩)
  · obtain ⟨reports, hreports, rfl⟩ := Markup.Token.eq_of_map_eq_ok hrendered
    refine ⟨rfl, rfl, reports, rfl, List.forall₂_map_left_iff.1 (hall reports ?_)⟩
    cases hresult : (renderAll settings (resolver h settings state) vault order (documents.map (job input output)) tree).result with
    | error e =>
      rw [hresult] at hreports
      cases hreports
    | ok reports' =>
      rw [hresult] at hreports
      rw [Except.ok.inj hreports]

/-! ## Links -/

def inFolder : FilePath := { slashes := 1, parts := [['i']] }

def outFolder : FilePath := { slashes := 1, parts := [['o']] }

def wholeRun : RunState := { inputFolder := some inFolder, outputFolder := some outFolder, pattern := "**/*".toList }

/-- a document, another one further down, and a link to the first one -/
def linkedDocuments : FileTree where
  nodes := [([['i']], .folder), ([['i'], ['a']], .file (.ok [65])), ([['i'], ['d']], .folder),
    ([['i'], ['d'], ['c']], .file (.ok [67])), ([['i'], ['l']], .link ['a']), ([['o']], .folder)]

def linkedSelection : List FilePath := [{ parts := [['a']] }, { parts := [['d'], ['c']] }, { parts := [['l']] }]

/-- where the documents and their targets are -/
theorem leadsTo_linkedDocuments {document : FilePath} (h : document ∈ linkedSelection) :
    linkedDocuments.LeadsTo (outFolder.join document) (['o'] :: document.parts) ∧
      ∃ rest, linkedDocuments.LeadsTo (inFolder.join document) (['i'] :: rest) := by
  unfold FileTree.LeadsTo
  simp only [linkedSelection, List.mem_cons, List.not_mem_nil, or_false] at h
  rcases h with rfl | rfl | rfl
  · exact ⟨by cbv, [['a']], by cbv⟩
  · exact ⟨by cbv, [['d'], ['c']], by cbv⟩
  · exact ⟨by cbv, [['a']], by cbv⟩

theorem apart_linkedDocuments : Apart {} (resolver .uncoloured {} wholeRun) { root := [['i']] } linkedDocuments
    (linkedSelection.map (job inFolder outFolder)) := by
  have hlinks : ∀ p, linkedDocuments.Follows p := by
    refine FileTree.follows_of_links fun place target h => ?_
    simp only [linkedDocuments, List.mem_cons, List.not_mem_nil, Prod.mk.injEq, FileNode.link.injEq, reduceCtorEq, and_false,
      or_false, false_or] at h
    obtain ⟨rfl, rfl⟩ := h
    exact ⟨[['i'], ['a']], by cbv⟩
  have htarget : ∀ document ∈ linkedSelection, ∀ loc, linkedDocuments.LeadsTo (outFolder.join document) loc →
      loc = ['o'] :: document.parts :=
    fun document hdocument loc hleads => hleads.unique (leadsTo_linkedDocuments hdocument).1
  refine ⟨?_, ?_, ?_, fun _ _ path _ => hlinks _⟩
  · intro each heach loc hleads hbelow
    obtain ⟨document, hdocument, rfl⟩ := List.mem_map.1 heach
    rw [htarget document hdocument loc hleads] at hbelow
    exact absurd (List.cons_prefix_cons.1 hbelow).1 (by decide)
  · rw [List.pairwise_map]
    refine List.Pairwise.imp_of_mem (fun {p q} hp hq hne loc hleads hleads' => hne ?_)
      (show linkedSelection.Pairwise fun p q => p.parts ≠ q.parts by decide)
    exact List.tail_eq_of_cons_eq ((htarget p hp loc hleads).symm.trans (htarget q hq loc hleads'))
  · intro each heach other hother loc hleads hleads'
    obtain ⟨document, hdocument, rfl⟩ := List.mem_map.1 heach
    obtain ⟨source, hsource, rfl⟩ := List.mem_map.1 hother
    obtain ⟨rest, hrest⟩ := (leadsTo_linkedDocuments hsource).2
    have hsame := (htarget document hdocument loc hleads).symm.trans (hleads'.unique hrest)
    exact absurd (List.head_eq_of_cons_eq hsame) (by decide)

/-- a run in an order in which the jobs get in between each other -/
def linkedRun : Except Halt RunState × World :=
  (findDocuments wholeRun >>= renderInOrder .uncoloured [2, 0, 0, 1] {}).start linkedDocuments

section

-- the evaluations below are many times slower where this test may be opened early
attribute [local irreducible] Markup.printsRaw

/-- a run with links that keep apart -/
theorem renderInOrder_independent_linked :
    ∃ rendered reports, linkedRun.1 = .ok rendered ∧ rendered.written.length = 3 ∧
      rendered.report = some (reports.foldl Report.merge {}) ∧
      List.Forall₂ (fun document report => (job inFolder outFolder document).Renders {} (resolver .uncoloured {} wholeRun)
        { root := [['i']] } linkedDocuments linkedRun.2.tree report) linkedSelection reports := by
  have hwf : linkedDocuments.WellFormed := ⟨by decide, by decide, by decide, by decide⟩
  have hthere : linkedDocuments.find outFolder = .ok ([['o']], .folder) := by cbv
  have hground : linkedDocuments.Grounded outFolder := FileTree.grounded_of_find (by decide) hthere
  have hpattern : Glob.parts wholeRun.pattern = .ok [.folders, .names [.run]] := by cbv
  have hfiles : Glob.files linkedDocuments inFolder [.folders, .names [.run]] = .ok linkedSelection := by cbv
  have hvault : Vault.at? linkedDocuments inFolder .utf8 = .ok { root := [['i']] } := by cbv
  have hdots : ['.', '.'] ∉ (FilePath.ofText wholeRun.pattern).parts := by decide
  have hdone : linkedRun.1.map (fun rendered => rendered.written.length) = .ok 3 := by cbv
  have hinput : wholeRun.inputFolder = some inFolder := rfl
  have houtput : wholeRun.outputFolder = some outFolder := rfl
  obtain ⟨-, -, -, hresults⟩ := renderInOrder_independent .uncoloured hinput houtput hwf hground hvault hpattern hdots hfiles
    apart_linkedDocuments [2, 0, 0, 1]
  obtain ⟨rendered, hrendered, hlength⟩ := Markup.Token.eq_of_map_eq_ok hdone
  obtain ⟨-, -, reports, hreport, hrenders⟩ := hresults rendered hrendered
  exact ⟨rendered, reports, hrendered, hlength, hreport, hrenders⟩

/-- the target of `b` is a link to the target of `a`, and the document `c` is another one -/
def crossedTree : FileTree where
  nodes := [([['i']], .folder), ([['i'], ['a']], .file (.ok [65])), ([['i'], ['b']], .file (.ok [66])),
    ([['i'], ['c']], .link "../o/a".toList), ([['o']], .folder), ([['o'], ['a']], .file (.ok [67])),
    ([['o'], ['b']], .link ['a'])]

/-- behind a link that leads back to itself, a document imports a link that leads through the folder for another document -/
def loopingTree : FileTree where
  nodes := [([['i']], .folder), ([['i'], ['d']], .folder), ([['i'], ['d'], ['c']], .file (.ok [65])),
    ([['i'], ['d'], ['p']], .file (.ok (Encoding.encodeText "@import \"/r/../l\"".toList))), ([['i'], ['r']], .link ['r']),
    ([['i'], ['l']], .link "../o/d/../../i/s".toList), ([['i'], ['s']], .file (.ok [66])), ([['o']], .folder)]

def folderRun : RunState := { wholeRun with pattern := "d/*".toList }

def folderSelection : List FilePath := [{ parts := [['d'], ['c']] }, { parts := [['d'], ['p']] }]

def folderResolver : Resolver := resolver .uncoloured {} folderRun

def plainJob : DocumentJob := job inFolder outFolder { parts := [['d'], ['c']] }

def importingJob : DocumentJob := job inFolder outFolder { parts := [['d'], ['p']] }

/-- the tree when the first document has been written -/
def begunTree : FileTree where
  nodes := loopingTree.nodes ++ [([['o'], ['d']], .folder), ([['o'], ['d'], ['c']], .file (.ok [65]))]

/-- the text of the document that imports -/
def importingLeaf : Markup.Leaf :=
  { id := 0, around := ["[document]".toList], content := "@import \"/r/../l\"".toList }

def importingOccurrence : Directive.Occurrence :=
  { directive := { path := "/r/../l".toList, raw := importingLeaf.content }, start := 0, stop := 17 }

/-- what becomes of the import is decided by what the vault says -/
theorem exists_alone_importingJob (tree : FileTree) (content : Option Text)
    (hcandidates : (importingJob.document {} tree).map Document.candidates = .ok [importingLeaf])
    (hread : Vault.read { root := [['i']] } tree "r/../l".toList = .ok content) :
    ∃ text, importingJob.alone {} folderResolver { root := [['i']] } tree =
      .ok (text, Report.ofFates [folderResolver.fateOf (fun _ => .ok content) importingJob.path importingLeaf]) := by
  obtain ⟨document, hdocument, hleaves⟩ := Markup.Token.eq_of_map_eq_ok hcandidates
  have hscan : Directive.scan importingLeaf.content = .ok [importingOccurrence] := rfl
  have htarget : folderResolver.target importingOccurrence.directive importingJob.path = "r/../l".toList := by decide +kernel
  have hrender : folderResolver.render = Highlighter.uncoloured.render (chosenStyle {} folderRun) false 1 := rfl
  have hshows : folderResolver.Shows importingOccurrence.directive :=
    Resolver.shows_of_render hrender (Highlighter.colours_uncoloured _) fun _ => by decide
  have hclear : ∀ leaf ∈ document.candidates, folderResolver.Clear leaf.content := by
    rw [hleaves]
    exact List.forall_mem_singleton.2 (Resolver.clear_of_scan hscan (List.forall_mem_singleton.2 hshows))
  have hfate : folderResolver.fateOf (DocumentJob.reader { root := [['i']] } tree) importingJob.path importingLeaf =
      folderResolver.fateOf (fun _ => .ok content) importingJob.path importingLeaf := by
    refine Resolver.fateOf_congr _ _ hscan (List.forall_mem_singleton.2 ?_)
    rw [htarget, DocumentJob.reader, hread]
    rfl
  rw [← hfate, ← List.map_singleton (f := folderResolver.fateOf _ _), ← hleaves]
  exact DocumentJob.exists_alone importingJob {} folderResolver { root := [['i']] } tree hdocument hclear

/-- as long as the folder for the other document is not there, nothing is found behind the link -/
theorem errors_alone_importingJob :
    (importingJob.alone {} folderResolver { root := [['i']] } loopingTree).map (fun result => result.2.errors) = .ok 1 := by
  obtain ⟨text, halone⟩ := exists_alone_importingJob loopingTree none (by cbv) (by cbv)
  have herrors : (Report.ofFates [folderResolver.fateOf (fun _ => .ok none) importingJob.path importingLeaf]).errors = 1 := by
    decide +kernel
  rw [halone, ← herrors]
  rfl

/-- once it is there, a file is -/
theorem errors_run_importingJob :
    ((importingJob.run {} folderResolver).run (DocumentJob.serve { root := [['i']] } 1) begunTree).result.map Report.errors =
      .ok 0 := by
  have hmake : begunTree.makeFolders importingJob.target.parent = (begunTree, none) := by cbv
  have hlocate : begunTree.locate importingJob.target = .ok [['o'], ['d'], ['p']] := by cbv
  have hwrite : ∀ text, ∃ last, begunTree.writeText importingJob.target text = .ok last := by
    intro text
    rw [FileTree.writeText, hlocate]
    exact ⟨_, rfl⟩
  obtain ⟨text, halone⟩ := exists_alone_importingJob begunTree (some ['B']) (by cbv) (by cbv)
  have herrors : (Report.ofFates [folderResolver.fateOf (fun _ => .ok (some ['B'])) importingJob.path importingLeaf]).errors = 0 := by
    decide +kernel
  rw [DocumentJob.result_run importingJob {} _ { root := [['i']] } begunTree 1 hmake hwrite, halone, ← herrors]
  rfl

/-- what comes of two jobs, one after the other -/
theorem result_renderAll_pair {r : Resolver} {one other : DocumentJob} {first second : Report}
    (hfirst : ((one.run settings r).run (DocumentJob.serve vault r.verbosity) tree).result = .ok first)
    (hsecond : ((other.run settings r).run (DocumentJob.serve vault r.verbosity)
      ((one.run settings r).run (DocumentJob.serve vault r.verbosity) tree).state).result = .ok second) :
    (renderAll settings r vault [] [one, other] tree).result = .ok [first, second] := by
  have hrunning : [one.run settings r, other.run settings r].findSome? Dialogue.failure? = none := rfl
  simp only [renderAll, Dialogue.runTogether, Dialogue.turns, List.map_cons, List.map_nil, hrunning, Dialogue.runAll, hfirst,
    hsecond, Except.map]

/-- the run has no error: the folder is made before the document that imports is read -/
theorem errors_loopingRun :
    ((findDocuments folderRun >>= renderInOrder .uncoloured [] {}).start loopingTree).1.map
      (fun rendered => (rendered.documents, rendered.report.map Report.errors)) = .ok (folderSelection, some 0) := by
  have hpattern : Glob.parts folderRun.pattern = .ok [.name ['d'], .names [.run]] := by cbv
  have hfiles : Glob.files loopingTree inFolder [.name ['d'], .names [.run]] = .ok folderSelection := by cbv
  have hvault : Vault.at? loopingTree inFolder .utf8 = .ok { root := [['i']] } := by cbv
  have hinput : folderRun.inputFolder = some inFolder := rfl
  have houtput : folderRun.outputFolder = some outFolder := rfl
  obtain ⟨records, hrun⟩ := exists_start .uncoloured {} hinput houtput hvault hpattern hfiles []
  have hbegun : ((plainJob.run {} folderResolver).run (DocumentJob.serve { root := [['i']] } 1) loopingTree).state = begunTree := by
    cbv
  have hplain : ((plainJob.run {} folderResolver).run (DocumentJob.serve { root := [['i']] } 1) loopingTree).result.map
      Report.errors = .ok 0 := by cbv
  obtain ⟨first, hfirst, hfirst'⟩ := Markup.Token.eq_of_map_eq_ok hplain
  obtain ⟨second, hsecond, hsecond'⟩ := Markup.Token.eq_of_map_eq_ok errors_run_importingJob
  rw [← hbegun] at hsecond
  have herrors : ([first, second].foldl Report.merge {}).errors = 0 := by
    rw [List.foldl_cons, List.foldl_cons, List.foldl_nil, Report.merge, Report.merge, hfirst', hsecond']
    rfl
  have hreports : (renderAll {} (resolver .uncoloured {} folderRun) { root := [['i']] } []
      (folderSelection.map (job inFolder outFolder)) loopingTree).result = .ok [first, second] :=
    result_renderAll_pair hfirst hsecond
  rw [hrun, hreports]
  exact congrArg (fun n => Except.ok (folderSelection, some n)) herrors

/-- With links the documents of a run can come in each other's way, although no target is in the vault. Where two targets are one
file, or a document is the target of another one, a target does not hold what its document comes to by itself. Behind a link that
leads back to itself, a file is read as soon as a folder for another document is there: the document that imports it has an error
by itself, and the run has none. -/
theorem renders_crossed :
    let run := (findDocuments wholeRun >>= renderInOrder .uncoloured [0, 0, 0] {}).start crossedTree
    let alone := fun document =>
      ((job inFolder outFolder document).alone {} (resolver .uncoloured {} wholeRun) { root := [['i']] } crossedTree).map Prod.fst
    let looped := (findDocuments folderRun >>= renderInOrder .uncoloured [] {}).start loopingTree
    let errors := fun document =>
      ((job inFolder outFolder document).alone {} (resolver .uncoloured {} folderRun) { root := [['i']] } loopingTree).map
        fun result => result.2.errors
    let vault : Vault := { root := [['i']] }
    (run.1.map (fun rendered => rendered.written.length) = .ok 3 ∧
      alone { parts := [['a']] } = .ok ['A'] ∧ run.2.tree.readText .utf8 (outFolder.child ['a']) = .ok ['B'] ∧
      alone { parts := [['c']] } = .ok ['C'] ∧ run.2.tree.readText .utf8 (outFolder.child ['c']) = .ok ['B']) ∧
    vault.read loopingTree "r/../l".toList = .ok none ∧
    vault.read (loopingTree.makeFolders (outFolder.child ['d'])).1 "r/../l".toList = .ok (some ['B']) ∧
    errors { parts := [['d'], ['c']] } = .ok 0 ∧ errors { parts := [['d'], ['p']] } = .ok 1 ∧
    looped.1.map (fun rendered => (rendered.documents, rendered.report.map Report.errors)) = .ok (folderSelection, some 0) := by
  refine ⟨⟨?_, ?_, ?_, ?_, ?_⟩, ?_, ?_, ?_, errors_alone_importingJob, errors_loopingRun⟩ <;> cbv

end

end Stage

end Transclude
