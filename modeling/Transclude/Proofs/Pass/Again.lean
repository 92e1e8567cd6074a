/-
A second pass finds nothing to do.

What a pass puts into a document comes from files, from paths, from explanations of what went wrong and from the directives
themselves, and all of these may spell directives. None of them is a candidate of a second pass: code and the sources of
directives stand in elements that are verbatim, paths and explanations hold no quotation mark, and the text that is left between
directives holds none by itself.

- `keepsText_of_contained`, `keepsText_of_render`: which renderers keep their text in preformatted elements.
- `quiet_blockFor`: the texts of a block are `Quiet`: verbatim, or without a quotation mark.
- `scan_candidates_after`: after a pass no directive is found in any candidate.
- `process_again`: a second pass asks for nothing, replaces nothing and leaves the document as it is.
-/
import Transclude.Proofs.Dialogue.Requests
import Transclude.Proofs.Pass.Stopping

namespace Transclude.Resolver

open Markup (Fitting Forest Leaf Tolerant parse)

/-! ## Quiet texts -/

/-- the text stands in an element that is verbatim, or no directive can open in it -/
def Quiet (names : List Text) (content : Text) : Prop :=
  ("pre".toList ∈ names ∨ "code".toList ∈ names) ∨ ∀ c ∈ content, c ≠ '"'

/-- the text stands in a preformatted element, or is blank -/
def Preformatted (names : List Text) (content : Text) : Prop :=
  "pre".toList ∈ names ∨ ∀ c ∈ content, Text.isBlank c = true

theorem tolerant_quiet : Tolerant Quiet := Markup.tolerant_or_forall (by decide) (by decide)

theorem tolerant_preformatted : Tolerant Preformatted := Markup.tolerant_or_forall (by decide) (by decide)

theorem quiet_of_not_mem {content : Text} (h : '"' ∉ content) (names : List Text) : Quiet names content :=
  Or.inr fun _ hc heq => h (heq ▸ hc)

theorem Preformatted.quiet {names : List Text} {content : Text} (h : Preformatted names content) : Quiet names content := by
  rcases h with h | h
  · exact Or.inl (Or.inl h)
  · refine quiet_of_not_mem (fun hmem => ?_) names
    exact absurd (h _ hmem) (by decide)

/-- no directive is found in a quiet text around which no element is verbatim -/
theorem Quiet.scan_eq_nil {names verbatim : List Text} {content : Text} (h : Quiet names content)
    (hcode : "code".toList ∈ verbatim) (hpre : "pre".toList ∈ verbatim) (hv : ∀ name ∈ names, name ∉ verbatim) :
    Directive.scan content = .ok [] := by
  rcases h with (h | h) | h
  · exact absurd hpre (hv _ h)
  · exact absurd hcode (hv _ h)
  · exact Directive.scan_eq_nil_of_not_mem fun hmem => h _ hmem rfl

/-! ## Renderers -/

variable {σ : Type} (r : Resolver) (host : σ → Text → Dialogue.Run σ Event FileAnswer) (document : Text)

/-- Whatever is rendered, all its text stands in a preformatted element, but for blanks. The rendered markup is read where it is
shown, inside of the elements of a block: markup that closes elements which it did not open is taken for what it is there. All
other markup can as well be read by itself (`keepsText_of_contained`). -/
def KeepsText : Prop :=
  ∀ language text html, (r.render language text).html = .ok html →
    ∀ d core first nodes next, Block.code d html (Block.plain r.presentation) = .ok core →
      parse first core = .ok (nodes, next) → ∀ p ∈ nodes.passages [], Preformatted p.around p.content

/-- nothing that the renderer says of what goes wrong holds a quotation mark -/
def PlainFailures : Prop := ∀ language text reason, (r.render language text).html = .error reason → '"' ∉ reason

/-- nothing that the host says of files that cannot be read holds a quotation mark -/
def PlainAnswers : Prop := ∀ s path reason, (host s path).result = .error reason → '"' ∉ reason

variable {r host document}

/-- **A renderer keeps its text if its markup does by itself**: markup that is complete in itself, all text of which stands in
preformatted elements, but for blanks, has it there in a block, too. -/
theorem keepsText_of_contained (h : ∀ language text html, (r.render language text).html = .ok html →
    Markup.Contained html ∧ ∀ first nodes next, parse first html = .ok (nodes, next) →
      ∀ p ∈ nodes.passages [], Preformatted p.around p.content) : r.KeepsText := by
  intro language text html hhtml d core first nodes next hcore hparse p hp
  obtain ⟨hcontained, hall⟩ := h language text html hhtml
  have hself : ∃ own, parse first html = .ok own := by
    obtain ⟨tokens, hbuilds, -⟩ := hcontained
    exact ⟨_, hbuilds.parse_eq first⟩
  obtain ⟨⟨own, next'⟩, hown⟩ := hself
  obtain ⟨q, hq, rfl⟩ := Block.exists_passage_of_contained hcontained hcore hparse hown p hp
  exact (hall first own next' hown q hq).imp_left (List.mem_append_left _)

/-- a renderer keeps its text in preformatted elements if its markup has it there, wherever it stands -/
theorem keepsText_of_fitting (h : ∀ language text html, (r.render language text).html = .ok html →
    Fitting Preformatted Block.codeSpot.names html) : r.KeepsText := by
  intro language text html hhtml d core first nodes next hcore hparse
  have hfitting := Block.fitting_code_plain tolerant_preformatted hcore (h language text html hhtml)
  obtain ⟨f, next', hparse', hall⟩ := hfitting.parse tolerant_preformatted first
  obtain ⟨rfl, -⟩ := Prod.mk.inj (Except.ok.inj (hparse.symm.trans hparse'))
  exact hall

/-- **A highlighter keeps its text in a preformatted element**, if its grammars with colours do. -/
theorem keepsText_of_render {h : Highlighter} {style : Text} {wrap : Bool} {verbosity : Int}
    (hrender : r.render = h.render style wrap verbosity)
    (hcolours : h.Colours (Fitting Preformatted Block.codeSpot.names)) : r.KeepsText := by
  refine keepsText_of_fitting fun language text html hhtml => ?_
  rw [hrender] at hhtml
  exact Highlighter.fitting_render tolerant_preformatted (fun _ _ hpre => Or.inl hpre)
    (fun _ => Or.inr (List.forall_mem_singleton.2 (by decide))) hcolours hhtml

/-! ## Blocks -/

/-- the texts of a report are quiet, if what it says is -/
theorem quiet_errorBlock {message : Text} (h : '"' ∉ message) (d : Directive) {first next : ℕ} {nodes : Forest}
    (hp : parse first (r.errorBlock message d).html = .ok (nodes, next)) :
    ∀ p ∈ nodes.passages [], Quiet p.around p.content := by
  have hfitting : Fitting Quiet [] (Block.error message d.raw none r.escaping) :=
    Block.fitting_error tolerant_quiet (fun _ _ hcode => Or.inl (Or.inr hcode))
      (quiet_of_not_mem (by decide)) (quiet_of_not_mem h) _ _
  obtain ⟨f, next', hp', hall⟩ := hfitting.parse tolerant_quiet first
  obtain ⟨rfl, -⟩ := Prod.mk.inj (Except.ok.inj (hp.symm.trans hp'))
  exact hall

/-- the texts of a block of code are quiet, if the renderer keeps its text in preformatted elements -/
theorem quiet_code (hkeeps : r.KeepsText) {t : Text} {found : List Directive.Occurrence} {o : Directive.Occurrence}
    (hs : Directive.scan t = .ok found) (ho : o ∈ found) {language text html markup : Text}
    (hhtml : (r.render language text).html = .ok html) (hmarkup : Block.code o.directive html r.presentation = .ok markup)
    {first next : ℕ} {nodes : Forest} (hp : parse first markup = .ok (nodes, next)) :
    ∀ p ∈ nodes.passages [], Quiet p.around p.content := by
  obtain ⟨core, hcore⟩ := Block.exists_code_plain o.directive html r.presentation
  obtain ⟨⟨inner, next'⟩, hinner⟩ := (Block.exists_parse_code_iff hmarkup hcore first first).1 ⟨_, hp⟩
  have hpath : ∀ names, Quiet names o.directive.path := quiet_of_not_mem (Directive.not_mem_path_of_scan hs ho)
  have hlabel : ∀ label, o.directive.rangeLabel = .ok label → ∀ names, Quiet names label := fun label hl =>
    quiet_of_not_mem (Directive.not_mem_rangeLabel hl (by decide) (by decide) (by decide))
  intro p hmem
  rcases Block.mem_passages_code tolerant_quiet hmarkup hcore hpath hlabel hp hinner p hmem with hquiet | hmem
  · exact hquiet
  · exact (hkeeps language text html hhtml _ core first inner next' hcore hinner p hmem).quiet

/-- **The texts of every block are quiet**, whatever the file, the path and the source of the directive spell. -/
theorem quiet_blockFor (hkeeps : r.KeepsText) (hfailures : r.PlainFailures) {t : Text} {found : List Directive.Occurrence}
    {o : Directive.Occurrence} (hs : Directive.scan t = .ok found) (ho : o ∈ found) {answer : FileAnswer}
    (hanswer : ∀ reason, answer = .error reason → '"' ∉ reason) {b : BlockSegment}
    (hb : r.blockFor o.directive answer = .ok b) {first next : ℕ} {nodes : Forest}
    (hp : parse first b.html = .ok (nodes, next)) : ∀ p ∈ nodes.passages [], Quiet p.around p.content := by
  cases answer with
  | error reason =>
    obtain rfl := Except.ok.inj hb
    exact quiet_errorBlock (List.not_mem_append (by decide) (hanswer reason rfl)) _ hp
  | ok content =>
    cases content with
    | none =>
      obtain rfl := Except.ok.inj hb
      exact quiet_errorBlock (List.not_mem_append (by decide) (Directive.not_mem_path_of_scan hs ho)) _ hp
    | some content =>
      simp only [blockFor] at hb
      cases hhtml : (r.render (Language.ofPath o.directive.path) (excerpt o.directive content)).html with
      | error reason =>
        rw [hhtml] at hb
        obtain rfl := Except.ok.inj hb
        exact quiet_errorBlock (List.not_mem_append (by decide) (hfailures _ _ reason hhtml)) _ hp
      | ok html =>
        simp only [hhtml] at hb
        obtain ⟨markup, hmarkup, rfl⟩ := Markup.Token.eq_of_map_eq_ok hb
        exact quiet_code hkeeps hs ho hhtml hmarkup hp

/-! ## The texts after a pass -/

/-- what takes the place of a text is quiet, or holds no directive by itself -/
theorem scan_of_segmentNodes (hkeeps : r.KeepsText) (hfailures : r.PlainFailures) (hanswers : PlainAnswers host)
    {content : Text} {first : ℕ} {nodes : Forest} (h : r.SegmentNodes host document content first nodes) {leaf : Leaf}
    (hl : leaf ∈ nodes.texts []) : Quiet leaf.around leaf.content ∨ Directive.scan leaf.content = .ok [] := by
  obtain ⟨found, s, segments, next, hs, hsplice, hput⟩ := h
  obtain ⟨bs, hresolved, rfl⟩ := exists_weave_of_spliceFrom hsplice
  obtain ⟨piece, hpiece, first', ⟨here, next'⟩, hhere, hleaf⟩ := Document.mem_texts_nodesOf hput hl
  obtain ⟨segment, hsegment, rfl⟩ := List.mem_map.1 hpiece
  cases segment with
  | text literal =>
    cases hhere
    obtain rfl := List.mem_singleton.1 hleaf
    exact Or.inr (scan_literal hs hresolved.length_eq hsegment)
  | block b =>
    have hb := (block_mem_weave_iff hresolved.length_eq).1 hsegment
    obtain ⟨q, hq, s', hblock⟩ := exists_left_of_forall₂ (forall₂_blockFor_of_resolved hresolved) hb
    obtain ⟨o, ho, rfl⟩ := List.mem_map.1 hq
    have hparse : parse first' b.html = .ok (here, next') := Document.nodes_markup_eq_ok_iff.1 hhere
    have hpassage : leaf.passage ∈ here.passages [] := List.mem_map_of_mem hleaf
    exact Or.inl (quiet_blockFor hkeeps hfailures hs ho (hanswers s' _) hblock hparse leaf.passage hpassage)

/-- where a text of the document after a pass comes from: it was there and was not replaced, or it is a text of what took the
place of a text that was visited -/
theorem Rewritten.mem_texts {d after : Document} {visited : List Leaf} {new : ℕ → Option Forest} (hd : d.WellNumbered)
    (hnew : Rewritten r host document d visited new after) (hsub : ∀ leaf ∈ visited, leaf ∈ d.texts) {leaf : Leaf}
    (hl : leaf ∈ after.texts) :
    (leaf ∈ d.texts ∧ new leaf.id = none) ∨
      ∃ old ∈ visited, ∃ first nodes, r.SegmentNodes host document old.content first nodes ∧
        ∃ inner ∈ nodes.texts [], leaf = { inner with around := inner.around ++ old.around } := by
  have htexts : after.texts = d.texts.flatMap (Forest.textsFor new) :=
    (congrArg Document.texts hnew.eq).trans (Document.texts_substitute_nodes hd hnew.fresh
      (fun id hid => hnew.others id fun leaf hl => hid leaf (hsub leaf hl)) after.next)
  rw [htexts] at hl
  obtain ⟨old, hold, hmem⟩ := List.mem_flatMap.1 hl
  cases hput : new old.id with
  | none =>
    rw [Forest.textsFor, hput] at hmem
    obtain rfl := List.mem_singleton.1 hmem
    exact Or.inl ⟨hold, hput⟩
  | some nodes =>
    rw [Forest.textsFor, hput] at hmem
    obtain ⟨inner, hinner, rfl⟩ := Forest.mem_texts_around hmem
    have hvisited : ∃ other ∈ visited, other.id = old.id := by
      by_contra hnone
      have hgone := hnew.others old.id fun other ho hid => hnone ⟨other, ho, hid⟩
      rw [hput] at hgone
      cases hgone
    obtain ⟨other, hother, hid⟩ := hvisited
    have hall : ∀ leaf ∈ d.texts, leaf ∈ d.allTexts := d.texts_sublist_allTexts.subset
    obtain rfl := hd.eq_of_id_eq (hall _ (hsub other hother)) (hall old hold) hid
    rcases hnew.visited other hother with ⟨-, hnone⟩ | ⟨-, first, nodes', -, hnodes, hsome⟩
    · rw [hput] at hnone
      cases hnone
    · obtain rfl := Option.some.inj (hput.symm.trans hsome)
      exact Or.inr ⟨other, hother, first, nodes, hnodes, inner, hinner, rfl⟩

/-- **After a pass no directive is found in any candidate.** -/
theorem scan_candidates_after {d : Document} (hd : d.WellNumbered) (hcode : "code".toList ∈ d.verbatim)
    (hpre : "pre".toList ∈ d.verbatim) (hkeeps : r.KeepsText) (hfailures : r.PlainFailures) (hanswers : PlainAnswers host)
    {s : σ} (h : ((r.process Document.region document d).run host s).result.stop = none) :
    ∀ leaf ∈ ((r.process Document.region document d).run host s).result.tree.candidates,
      Directive.scan leaf.content = .ok [] := by
  obtain ⟨visited, rest, new, hsplit, hnew, hstop⟩ := exists_rewritten_process hd s
  obtain rfl := hstop h
  rw [List.append_nil] at hsplit
  generalize ((r.process Document.region document d).run host s).result.tree = after at hnew
  intro leaf hleaf
  obtain ⟨htext, hne, htoken, hverbatim⟩ := Document.mem_candidates_iff.1 hleaf
  rw [hnew.eq] at htoken hverbatim
  have hsub : ∀ leaf ∈ visited, leaf ∈ d.texts := fun leaf hl => (Document.mem_candidates_iff.1 (hsplit ▸ hl)).1
  rcases hnew.mem_texts hd hsub htext with ⟨hold, hnone⟩ | ⟨old, hold, first, nodes, hnodes, inner, hinner, rfl⟩
  · -- the text was there in front of the pass, and so it was a candidate then
    have hc : leaf ∈ d.candidates := Document.mem_candidates_iff.2 ⟨hold, hne, htoken, hverbatim⟩
    rcases hnew.visited leaf (hsplit ▸ hc) with ⟨hs, -⟩ | ⟨-, first, nodes, -, -, hsome⟩
    · exact hs
    · rw [hnone] at hsome
      cases hsome
  · rcases scan_of_segmentNodes hkeeps hfailures hanswers hnodes hinner with hquiet | hs
    · exact hquiet.scan_eq_nil hcode hpre fun name hname => hverbatim name (List.mem_append_left _ hname)
    · exact hs

/-! ## The second pass -/

/-- a visit to texts without directives only counts them -/
theorem visitAll_of_scan_nil {τ ℓ : Type} {region : Region τ ℓ} {leaves : List ℓ}
    (h : ∀ leaf ∈ leaves, Directive.scan (region.content leaf) = .ok []) (p : Progress τ) :
    r.visitAll region document leaves p =
      pure { tree := p.tree, report := { p.report with leavesScanned := p.report.leavesScanned + leaves.length } } := by
  induction leaves generalizing p with
  | nil =>
    simp only [visitAll, List.length_nil, Nat.cast_zero, add_zero]
  | cons leaf leaves ih =>
    obtain ⟨hleaf, hleaves⟩ := List.forall_mem_cons.1 h
    have hvisit : r.visit region document p leaf = pure (.ok { p with report := p.report.scanned }) := by
      rw [visit, hleaf]
    have hcount : p.report.leavesScanned + 1 + (leaves.length : Int) = p.report.leavesScanned + (leaves.length + 1 : ℕ) := by
      push_cast
      ring
    rw [visitAll, hvisit]
    refine (ih hleaves _).trans ?_
    rw [List.length_cons, ← hcount]
    rfl

/-- **A second pass is a no-op.** Where a document is processed with `code` and `pre` among its verbatim elements, by a renderer
that keeps its text in preformatted elements, and where nothing that is said of failures holds a quotation mark: after a pass that
does not stop early, another one, with any renderer and any host, asks for no file, replaces no text and leaves the document as
it is. All it tells are records, and all it reports is how many texts it looked at. -/
theorem process_again {d : Document} (hd : d.WellNumbered) (hcode : "code".toList ∈ d.verbatim)
    (hpre : "pre".toList ∈ d.verbatim) (hkeeps : r.KeepsText) (hfailures : r.PlainFailures) (hanswers : PlainAnswers host)
    (s : σ) (h : ((r.process Document.region document d).run host s).result.stop = none) :
    ∃ after : Document, ((r.process Document.region document d).run host s).result.tree = after ∧
      ∀ (r' : Resolver) (document' : Text) (σ' : Type) (host' : σ' → Text → Dialogue.Run σ' Event FileAnswer) (s' : σ'),
        (r'.process Document.region document' after).requests host' s' = [] ∧
        ∃ records : List LogRecord, (r'.process Document.region document' after).run host' s' =
          { state := s'
            events := records.map Event.record
            result := { tree := after, report := { leavesScanned := after.candidates.length } } } := by
  refine ⟨_, rfl, fun r' document' σ' host' s' => ?_⟩
  have hscan := scan_candidates_after hd hcode hpre hkeeps hfailures hanswers h
  generalize ((r.process Document.region document d).run host s).result.tree = after at hscan
  have hvisits : r'.visitAll Document.region document' after.candidates { tree := after } =
      pure { tree := after, report := { leavesScanned := 0 + (after.candidates.length : Int) } } :=
    visitAll_of_scan_nil hscan { tree := after }
  have hcandidates : Document.region.candidates after = after.candidates := rfl
  rw [zero_add] at hvisits
  constructor
  · simp only [process, log, emit, hcandidates, hvisits, Dialogue.requests_andThen, Dialogue.requests_tellAll,
      Dialogue.requests_pure, List.append_nil]
  · refine ⟨Log.debug r'.verbosity 2 (Numeral.print after.candidates.length ++ " candidate text leaves in ".toList ++
      marked document'), ?_⟩
    simp only [process, log, emit, hcandidates, hvisits, Dialogue.run_andThen, Dialogue.run_tellAll, Dialogue.run_pure,
      List.append_nil]

/-- the page, where text in code is verbatim, too -/
def codePage : Document := { page with verbatim := ["code".toList, "pre".toList] }

/-- shows highlighted code under headers -/
def highlightingResolver : Resolver :=
  { normal := VaultPath.normalize, render := highlighter "default".toList {} 0, presentation := {} }

/-- what is imported is a directive itself -/
def importingFiles : Unit → Text → Dialogue.Run Unit Event FileAnswer := constantHost (.ok (some "@import \"a\"".toList))

theorem process_again_page :
    ((highlightingResolver.process Document.region [] codePage).run importingFiles ()).result.stop = none ∧
    ∃ after : Document, ((highlightingResolver.process Document.region [] codePage).run importingFiles ()).result.tree = after ∧
      (highlightingResolver.process Document.region [] after).requests importingFiles () = [] ∧
      ((highlightingResolver.process Document.region [] after).run importingFiles ()).result.tree = after ∧
      ((highlightingResolver.process Document.region [] after).run importingFiles ()).result.report.leavesReplaced = 0 := by
  have hwell : codePage.WellNumbered := ⟨by decide, by decide, by decide⟩
  have hrender : highlightingResolver.render = Highlighter.uncoloured.render "default".toList false 0 := rfl
  have hcandidates : codePage.candidates = [pageLeaf] := rfl
  have hshows : highlightingResolver.Shows pageOccurrence.directive :=
    shows_of_render hrender (Highlighter.colours_uncoloured _) fun _ h => (nomatch h)
  have hclear : ∀ leaf ∈ codePage.candidates, highlightingResolver.Clear leaf.content := by
    rw [hcandidates]
    exact List.forall_mem_singleton.2 (clear_pageLeaf hshows)
  have hstop : ((highlightingResolver.process Document.region [] codePage).run importingFiles ()).result.stop = none :=
    stop_process hclear ()
  have hfailures : highlightingResolver.PlainFailures := by
    intro language text reason h
    rw [hrender, Highlighter.html_render_uncoloured] at h
    cases h
  have hanswers : PlainAnswers importingFiles := fun _ _ _ h => (nomatch h)
  obtain ⟨after, htree, hagain⟩ := process_again hwell (by decide) (by decide)
    (keepsText_of_render hrender (Highlighter.colours_uncoloured _)) hfailures hanswers () hstop
  obtain ⟨hrequests, records, hrun⟩ := hagain highlightingResolver [] Unit importingFiles ()
  exact ⟨hstop, after, htree, hrequests, by rw [hrun], by rw [hrun]⟩

end Transclude.Resolver
