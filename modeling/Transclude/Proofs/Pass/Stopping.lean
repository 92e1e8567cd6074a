/-
When a pass stops early.

A pass goes on when a file is missing, when it cannot be read and when its excerpt cannot be rendered: each of them becomes a
report, and a report is always markup. What stops a pass is said by `pass_completes_iff`, in terms of the document and of the
renderer: a bound with more digits than a numeral may have; the one first line whose label cannot be written; and rendered markup
that is no markup in a block.

- `exists_scan_iff` (in `Directive.Limits`): a text can be scanned exactly when its bounds can be read.
- `shows_of_render`: what a highlighter renders never stops a pass, if what its grammars with colours make of excerpts is markup.
- `exists_blockFor_iff`: every answer to a directive becomes a block that is markup exactly when the renderer `Shows` it.
- `pass_completes_iff`: a pass completes with every host exactly when the bounds of all candidates can be read and all directives
  in them are shown.
-/
import Transclude.Proofs.Block
import Transclude.Proofs.Highlight.Excerpt
import Transclude.Proofs.Pass.Rewriting
import Transclude.Proofs.Pass.Segments

namespace Transclude.Resolver

open Markup (Leaf parse)

variable {σ : Type} (r : Resolver) (host : σ → Text → Dialogue.Run σ Event FileAnswer) (document : Text)

/-! ## One directive -/

/-- whatever is read for the directive, its excerpt can be shown if it can be rendered: the range label can be written, and the
block without its header is markup -/
def Shows (d : Directive) : Prop :=
  ∀ content html, (r.render (Language.ofPath d.path) (excerpt d content)).html = .ok html →
    (r.presentation.showFileName = true → d.lineBegin ≠ some Directive.lastLine) ∧
    ∃ core tokens, Block.code d html (Block.plain r.presentation) = .ok core ∧ Markup.Token.ofText core = .ok tokens

variable {r host document}

/-- a header can be written unless it shows the last number that can be read -/
theorem exists_head_iff {t : Text} {found : List Directive.Occurrence} {o : Directive.Occurrence}
    (h : Directive.scan t = .ok found) (ho : o ∈ found) (p : Presentation) :
    (∃ front, Block.head o.directive p = .ok front) ↔
      (p.showFileName = true → o.directive.lineBegin ≠ some Directive.lastLine) := by
  have hlabel := Directive.exists_rangeLabel_iff h ho
  unfold Block.head
  split
  · rename_i hshow
    have hheader : (∃ front, Block.header o.directive = .ok front) ↔
        (o.directive.hasRange = true → ∃ label, o.directive.rangeLabel = .ok label) := by
      unfold Block.header
      cases o.directive.hasRange with
      | false => exact ⟨fun _ hrange => (nomatch hrange), fun _ => ⟨_, rfl⟩⟩
      | true =>
        cases o.directive.rangeLabel with
        | error e => exact ⟨fun ⟨_, hfront⟩ => (nomatch hfront), fun hrange => (nomatch hrange rfl)⟩
        | ok label => exact ⟨fun _ _ => ⟨label, rfl⟩, fun _ => ⟨_, rfl⟩⟩
    rw [hheader, hlabel]
    constructor
    · intro hrange _ hlast
      refine hrange ?_ hlast
      rw [Directive.hasRange, hlast]
      rfl
    · exact fun hlast _ => hlast hshow
  · rename_i hhide
    exact ⟨fun _ hshow => absurd hshow hhide, fun _ => ⟨_, rfl⟩⟩

/-- a report is markup -/
theorem exists_ofText_errorBlock (message : Text) (d : Directive) :
    ∃ tokens, Markup.Token.ofText (r.errorBlock message d).html = .ok tokens := by
  have hfitting : Markup.Fitting (fun _ _ => True) [] (Block.error message d.raw none r.escaping) :=
    Block.fitting_error Block.tolerant_true (fun _ _ _ => trivial) (fun _ => trivial) (fun _ => trivial) _ _
  obtain ⟨f, next, hparse, -⟩ := hfitting.parse Block.tolerant_true 0
  exact (Document.exists_parse_iff 0).1 ⟨_, hparse⟩

/-- **Every answer to a directive becomes a block that is markup exactly when the directive is shown.** -/
theorem exists_blockFor_iff {t : Text} {found : List Directive.Occurrence} {o : Directive.Occurrence}
    (h : Directive.scan t = .ok found) (ho : o ∈ found) :
    (∀ answer, ∃ b tokens, r.blockFor o.directive answer = .ok b ∧ Markup.Token.ofText b.html = .ok tokens) ↔
      r.Shows o.directive := by
  have hhead := exists_head_iff h ho r.presentation
  -- a block of code is there when its header is, and it is markup when it is without its header
  have hcode : ∀ html, (∃ markup tokens, Block.code o.directive html r.presentation = .ok markup ∧
        Markup.Token.ofText markup = .ok tokens) ↔
      (r.presentation.showFileName = true → o.directive.lineBegin ≠ some Directive.lastLine) ∧
      ∃ core tokens, Block.code o.directive html (Block.plain r.presentation) = .ok core ∧
        Markup.Token.ofText core = .ok tokens := by
    intro html
    obtain ⟨core, hcore⟩ := Block.exists_code_plain o.directive html r.presentation
    constructor
    · rintro ⟨markup, tokens, hmarkup, htokens⟩
      obtain ⟨front, hfront, -⟩ := Block.code_eq_ok_iff.1 hmarkup
      obtain ⟨parsed, hparsed⟩ := (Block.exists_parse_code_iff hmarkup hcore 0 0).1
        ((Document.exists_parse_iff 0).2 ⟨tokens, htokens⟩)
      obtain ⟨tokens', htokens'⟩ := (Document.exists_parse_iff 0).1 ⟨parsed, hparsed⟩
      exact ⟨hhead.1 ⟨front, hfront⟩, core, tokens', hcore, htokens'⟩
    · rintro ⟨hlast, core', tokens, hcore', htokens⟩
      obtain ⟨front, hfront⟩ := hhead.2 hlast
      have hmarkup : Block.code o.directive html r.presentation =
          .ok (Block.codeFront r.presentation ++ (front ++ (html ++ Block.codeBack))) :=
        Block.code_eq_ok_iff.2 ⟨front, hfront, rfl⟩
      obtain ⟨parsed, hparsed⟩ := (Block.exists_parse_code_iff hmarkup hcore' 0 0).2
        ((Document.exists_parse_iff 0).2 ⟨tokens, htokens⟩)
      obtain ⟨tokens', htokens'⟩ := (Document.exists_parse_iff 0).1 ⟨parsed, hparsed⟩
      exact ⟨_, tokens', hmarkup, htokens'⟩
  constructor
  · intro hall content html hhtml
    obtain ⟨b, tokens, hb, htokens⟩ := hall (.ok (some content))
    simp only [blockFor, hhtml] at hb
    obtain ⟨markup, hmarkup, rfl⟩ := Markup.Token.eq_of_map_eq_ok hb
    exact (hcode html).1 ⟨markup, tokens, hmarkup, htokens⟩
  · intro hshows answer
    cases answer with
    | error reason =>
      obtain ⟨tokens, htokens⟩ := exists_ofText_errorBlock ("Error reading file: ".toList ++ reason) o.directive
      exact ⟨_, tokens, rfl, htokens⟩
    | ok content =>
      cases content with
      | none =>
        obtain ⟨tokens, htokens⟩ := exists_ofText_errorBlock ("File not found: ".toList ++ o.directive.path) o.directive
        exact ⟨_, tokens, rfl, htokens⟩
      | some content =>
        simp only [blockFor]
        cases hhtml : (r.render (Language.ofPath o.directive.path) (excerpt o.directive content)).html with
        | error reason =>
          obtain ⟨tokens, htokens⟩ := exists_ofText_errorBlock ("Error rendering file: ".toList ++ reason) o.directive
          exact ⟨_, tokens, rfl, htokens⟩
        | ok html =>
          obtain ⟨markup, tokens, hmarkup, htokens⟩ := (hcode html).2 (hshows content html hhtml)
          refine ⟨{ kind := .code, html := markup, directive := o.directive }, tokens, ?_, htokens⟩
          show Except.map _ (Block.code o.directive html r.presentation) = _
          rw [hmarkup]
          rfl

/-- a renderer of markup that can stand anywhere shows all directives whose header can be written -/
theorem shows_of_fitting {d : Directive} (hlast : r.presentation.showFileName = true → d.lineBegin ≠ some Directive.lastLine)
    (h : ∀ language text html, (r.render language text).html = .ok html →
      Markup.Fitting (fun _ _ => True) Block.codeSpot.names html) : r.Shows d := by
  intro content html hhtml
  obtain ⟨core, hcore⟩ := Block.exists_code_plain d html r.presentation
  have hfitting := Block.fitting_code_plain Block.tolerant_true hcore (h _ _ html hhtml)
  obtain ⟨f, next, hparse, -⟩ := hfitting.parse Block.tolerant_true 0
  obtain ⟨tokens, htokens⟩ := (Document.exists_parse_iff 0).1 ⟨_, hparse⟩
  exact ⟨hlast, core, tokens, hcore, htokens⟩

/-- **What a highlighter renders can always be shown**, if what its grammars with colours make of excerpts can, and the header can
be written. -/
theorem shows_of_render {h : Highlighter} {style : Text} {wrap : Bool} {verbosity : Int} {d : Directive}
    (hrender : r.render = h.render style wrap verbosity)
    (hcolours : h.Colours (Markup.Fitting (fun _ _ => True) Block.codeSpot.names))
    (hlast : r.presentation.showFileName = true → d.lineBegin ≠ some Directive.lastLine) : r.Shows d := by
  refine shows_of_fitting hlast fun language text html hhtml => ?_
  rw [hrender] at hhtml
  exact Highlighter.fitting_render Block.tolerant_true (fun _ _ _ => trivial) (fun _ => trivial) hcolours hhtml

/-! ## One text -/

/-- a splice succeeds when every answer to its directives becomes a block -/
theorem exists_spliceFrom {t : Text} {ps : List Placement} (h : ∀ p ∈ ps, ∀ answer, ∃ b, r.blockFor p.directive answer = .ok b)
    (cursor : Int) (s : σ) : ∃ segments, ((r.spliceFrom document t cursor ps).run host s).result = .ok segments := by
  induction ps generalizing cursor s with
  | nil => exact ⟨_, rfl⟩
  | cons p ps ih =>
    obtain ⟨hp, hps⟩ := List.forall_mem_cons.1 h
    obtain ⟨b, hb⟩ := hp (host s (r.target p.directive document)).result
    obtain ⟨rest, hrest⟩ := ih hps p.stop ((r.resolve p.directive document).run host s).state
    simp only [spliceFrom, Dialogue.result_andThen, result_resolve, hb, hrest, Dialogue.run_pure]
    exact ⟨_, rfl⟩

/-- the directives of a text can be read, and all of them are shown -/
def Clear (r : Resolver) (t : Text) : Prop :=
  Directive.Legible t ∧ ∀ found, Directive.scan t = .ok found → ∀ o ∈ found, r.Shows o.directive

theorem clear_of_scan {t : Text} {found : List Directive.Occurrence} (hs : Directive.scan t = .ok found)
    (h : ∀ o ∈ found, r.Shows o.directive) : r.Clear t := by
  refine ⟨Directive.exists_scan_iff.1 ⟨_, hs⟩, fun found' hfound => ?_⟩
  obtain rfl := Except.ok.inj (hs.symm.trans hfound)
  exact h

/-- a visit to a text that is clear goes well, whatever the host answers -/
theorem exists_visited {p : Progress Document} {leaf : Leaf} (h : r.Clear leaf.content) (s : σ) :
    ∃ p', Visited r Document.region host document s p leaf p' := by
  obtain ⟨found, hs⟩ := Directive.exists_scan_iff.2 h.1
  have hshows := h.2 found hs
  by_cases hne : found = []
  · subst hne
    exact ⟨_, .plain hs⟩
  have hblocks : ∀ q ∈ found.map Placement.ofOccurrence, ∀ answer, ∃ b tokens,
      r.blockFor q.directive answer = .ok b ∧ Markup.Token.ofText b.html = .ok tokens := by
    intro q hq
    obtain ⟨o, ho, rfl⟩ := List.mem_map.1 hq
    exact (exists_blockFor_iff hs ho).2 (hshows o ho)
  have hsome : ∀ q ∈ found.map Placement.ofOccurrence, ∀ answer, ∃ b, r.blockFor q.directive answer = .ok b := by
    intro q hq answer
    obtain ⟨b, -, hb, -⟩ := hblocks q hq answer
    exact ⟨b, hb⟩
  have hsegments : ∃ segments, (r.spliceRun host document s leaf.content found).result = .ok segments :=
    exists_spliceFrom hsome 0 s
  obtain ⟨segments, hsplice⟩ := hsegments
  obtain ⟨bs, hresolved, rfl⟩ := exists_weave_of_spliceFrom hsplice
  -- every block of the splice is markup, so the document takes the segments
  have hmarkup : ∀ piece ∈ (weave leaf.content 0 ((found.map Placement.ofOccurrence).zip bs)).map Document.Piece.ofSegment,
      piece.IsMarkup := by
    intro piece hpiece
    obtain ⟨segment, hsegment, rfl⟩ := List.mem_map.1 hpiece
    cases segment with
    | text content => trivial
    | block b =>
      have hb := (block_mem_weave_iff hresolved.length_eq).1 hsegment
      obtain ⟨q, hq, s', hblock⟩ := exists_left_of_forall₂ (forall₂_blockFor_of_resolved hresolved) hb
      obtain ⟨b', tokens, hb', htokens⟩ := hblocks q hq (host s' (r.target q.directive document)).result
      obtain rfl := Except.ok.inj (hblock.symm.trans hb')
      exact ⟨tokens, htokens⟩
  have hreplace : ∃ answer, Document.region.replace p.tree leaf
      (weave leaf.content 0 ((found.map Placement.ofOccurrence).zip bs)) = .ok answer := by
    have hnodes : ∃ nodes, Document.nodesOf p.tree.next _ = .ok nodes := Document.exists_nodesOf_iff.2 hmarkup
    obtain ⟨nodes, hnodes⟩ := hnodes
    simp only [Document.region, Document.replace, hnodes]
    cases p.tree.find? leaf.id with
    | none => exact ⟨_, rfl⟩
    | some _ => exact ⟨_, rfl⟩
  obtain ⟨⟨there, tree⟩, hreplace⟩ := hreplace
  cases there with
  | false => exact ⟨_, .detached hs hne hsplice hreplace⟩
  | true => exact ⟨_, .replaced hs hne hsplice hreplace⟩

/-! ## All texts -/

theorem stop_visitAll {leaves : List Leaf} (h : ∀ leaf ∈ leaves, r.Clear leaf.content) (p : Progress Document) (s : σ) :
    ((r.visitAll Document.region document leaves p).run host s).result.stop = none := by
  induction leaves generalizing p s with
  | nil => rfl
  | cons leaf leaves ih =>
    obtain ⟨hleaf, hleaves⟩ := List.forall_mem_cons.1 h
    have hvisit : ∃ p', Visited r Document.region host document s p leaf p' := exists_visited hleaf s
    obtain ⟨p', hvisited⟩ := hvisit
    simp only [visitAll, Dialogue.result_andThen, result_visit_eq_ok_iff.2 hvisited]
    exact ih hleaves p' _

/-- a pass over texts that are clear completes -/
theorem stop_process {d : Document} (h : ∀ leaf ∈ d.candidates, r.Clear leaf.content) (s : σ) :
    ((r.process Document.region document d).run host s).result.stop = none := by
  rw [result_process]
  exact stop_visitAll h _ s

/-- where a pass with this host completes, the directives of every candidate became blocks that are markup -/
theorem exists_blocks_of_stop {d : Document} (hd : d.WellNumbered) {s : σ}
    (h : ((r.process Document.region document d).run host s).result.stop = none) {leaf : Leaf} (hl : leaf ∈ d.candidates) :
    ∃ found, Directive.scan leaf.content = .ok found ∧ ∀ o ∈ found, ∃ s' b tokens,
      r.blockFor o.directive (host s' (r.target o.directive document)).result = .ok b ∧
        Markup.Token.ofText b.html = .ok tokens := by
  obtain ⟨visited, rest, new, hsplit, hnew, hstop⟩ := exists_rewritten_process hd s
  obtain rfl := hstop h
  rw [List.append_nil] at hsplit
  rcases hnew.visited leaf (hsplit ▸ hl) with ⟨hs, -⟩ | ⟨-, first, nodes, -, hnodes, -⟩
  · exact ⟨[], hs, List.forall_mem_nil _⟩
  · obtain ⟨found, s', segments, next, hs, hsplice, hput⟩ := hnodes
    obtain ⟨bs, hresolved, rfl⟩ := exists_weave_of_spliceFrom hsplice
    refine ⟨found, hs, fun o ho => ?_⟩
    obtain ⟨b, hb, s'', hblock⟩ := exists_left_of_forall₂ (forall₂_blockFor_of_resolved hresolved).flip
      (List.mem_map_of_mem (f := Placement.ofOccurrence) ho)
    have hmem : Segment.block b ∈ weave leaf.content 0 ((found.map Placement.ofOccurrence).zip bs) :=
      (block_mem_weave_iff hresolved.length_eq).2 hb
    obtain ⟨tokens, htokens⟩ := Document.exists_nodesOf_iff.1 ⟨_, hput⟩ _ (List.mem_map_of_mem hmem)
    exact ⟨s'', b, tokens, hblock, htokens⟩

/-- the host that gives one answer to all requests -/
def constantHost (answer : FileAnswer) : Unit → Text → Dialogue.Run Unit Event FileAnswer := Dialogue.answering fun _ => answer

/-- **What stops a pass.** A text can be scanned exactly when no bound that would be read from its directives is written with
more digits than a numeral may have. A pass over a document completes, whatever the host says of the files, exactly when this
holds of every candidate, and every directive in it is shown: where its excerpt can be rendered, its first line is not the last
number that can be read if there is a header, and the block around the rendered markup is markup. -/
theorem pass_completes_iff (r : Resolver) (document : Text) :
    (∀ t, (∃ found, Directive.scan t = .ok found) ↔ Directive.Legible t) ∧
    ∀ d : Document, d.WellNumbered →
      ((∀ (σ : Type) (host : σ → Text → Dialogue.Run σ Event FileAnswer) (s : σ),
          ((r.process Document.region document d).run host s).result.stop = none) ↔
        ∀ leaf ∈ d.candidates, Directive.Legible leaf.content ∧
          ∀ found, Directive.scan leaf.content = .ok found → ∀ o ∈ found, r.Shows o.directive) := by
  refine ⟨fun t => Directive.exists_scan_iff, fun d hd => ⟨fun h leaf hl => ?_, fun h σ host s => stop_process h s⟩⟩
  have hblocks := fun answer => exists_blocks_of_stop hd (h Unit (constantHost answer) ()) hl
  obtain ⟨found, hs, -⟩ := hblocks (.ok none)
  refine ⟨Directive.exists_scan_iff.1 ⟨found, hs⟩, fun found' hs' o ho => ?_⟩
  refine (exists_blockFor_iff hs' ho).1 fun answer => ?_
  obtain ⟨found'', hs'', hall⟩ := hblocks answer
  obtain rfl := Except.ok.inj (hs'.symm.trans hs'')
  obtain ⟨s, b, tokens, hb, htokens⟩ := hall o ho
  exact ⟨b, tokens, hb, htokens⟩

/-- the directive on the page -/
def pageOccurrence : Directive.Occurrence :=
  { directive := { path := ['a'], raw := "@import \"a\"".toList }, start := 4, stop := 15 }

theorem clear_pageLeaf (h : r.Shows pageOccurrence.directive) : r.Clear pageLeaf.content := by
  have hscan : Directive.scan pageLeaf.content = .ok [pageOccurrence] := rfl
  exact clear_of_scan hscan (List.forall_mem_singleton.2 h)

theorem pass_completes_page :
    page.WellNumbered ∧ ∀ (σ : Type) (host : σ → Text → Dialogue.Run σ Event FileAnswer) (s : σ),
      ((bareResolver.process Document.region [] page).run host s).result.stop = none := by
  have hwell : page.WellNumbered := ⟨by decide, by decide, by decide⟩
  have hcandidates : page.candidates = [pageLeaf] := rfl
  obtain ⟨tokens, htokens⟩ := (Document.exists_parse_iff 5).1 ⟨_, parse_bareBlock⟩
  have hshows : bareResolver.Shows pageOccurrence.directive := by
    intro content html hhtml
    obtain rfl := Except.ok.inj hhtml
    exact ⟨fun hheader => absurd hheader (by decide), bareBlock, tokens, rfl, htokens⟩
  refine ⟨hwell, ((pass_completes_iff bareResolver []).2 page hwell).2 ?_⟩
  rw [hcandidates]
  exact List.forall_mem_singleton.2 (clear_pageLeaf hshows)

end Transclude.Resolver
