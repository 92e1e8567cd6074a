/-
What a pass makes of a document.

The texts are listed once, and the document changes under the pass while it goes through the list. `Rewritten` is the invariant
that carries it: the document is the first one with nodes substituted for texts that were visited, the nodes put in have
numbers that no text of the first document has, and so a text that is still to be visited is still there.

- `mem_candidates_of_scan`: a text with a directive holds the keyword, so looking for the keyword first misses none.
- `rewritten_visit`: a visit keeps the invariant.
- `process_rewrites`: a pass that does not stop early replaces every text of the region in which a directive is found and
  around which no element is verbatim, by the nodes of its segments; every other node stays as it is and where it is.
-/
import Transclude.Proofs.Directive.Scanning
import Transclude.Proofs.Document
import Transclude.Proofs.Markup.Lexing
import Transclude.Proofs.Pass.Visiting

namespace Transclude

open Markup (Forest Leaf IsSmall)
open Markup.Token (PlainName PlainValue reads_enclose)

/-- where a directive is found, the keyword occurs -/
theorem Directive.occurs_keyword_of_scan {t : Text} {found : List Occurrence} (h : scan t = .ok found)
    (hne : found ≠ []) : t ≠ [] ∧ Text.occurs keyword t = true := by
  obtain ⟨o, ho⟩ := List.exists_mem_of_ne_nil found hne
  obtain ⟨p, hp, -⟩ := exists_left_of_forall₂ (scan_eq_ok_iff.1 h) ho
  obtain ⟨-, rest, hread⟩ := (scanned_shapes t).reads p hp
  obtain ⟨behind, hopens, -⟩ := head?_eq_some_iff.1 hread
  obtain ⟨u, hu, -⟩ := hopens.quoted
  refine ⟨fun ht => ?_, Text.occurs_of_drop hu⟩
  rw [ht, List.drop_nil] at hu
  simp [keyword] at hu

namespace Document

/-- the text is prose of the region, with no verbatim element around it, and a directive is found in it -/
def HoldsDirective (d : Document) (leaf : Leaf) : Prop :=
  leaf ∈ d.texts ∧ (∀ name ∈ leaf.around, name ∉ d.verbatim) ∧
    ∃ found, Directive.scan leaf.content = .ok found ∧ found ≠ []

/-- **The keyword misses no directive.** -/
theorem mem_candidates_of_scan {d : Document} {leaf : Leaf} (ht : d.token = Directive.keyword)
    (h : d.HoldsDirective leaf) : leaf ∈ d.candidates := by
  obtain ⟨hl, hv, found, hs, hne⟩ := h
  obtain ⟨hc, ho⟩ := Directive.occurs_keyword_of_scan hs hne
  exact mem_candidates_iff.2 ⟨hl, hc, ht ▸ ho, hv⟩

end Document

namespace Resolver

variable {σ : Type} (r : Resolver) (host : σ → Text → Dialogue.Run σ Event FileAnswer) (document : Text)

/-- the nodes of the segments of a text: its directives are spliced, and the segments are parsed in order, numbered from
some number on -/
def SegmentNodes (content : Text) (first : ℕ) (nodes : Forest) : Prop :=
  ∃ found s segments next, Directive.scan content = .ok found ∧
    (r.spliceRun host document s content found).result = .ok segments ∧
    Document.nodesOf first (segments.map Document.Piece.ofSegment) = .ok (nodes, next)

/-- after the visits to `done`, the document `d₀` has become `d`, where `new` has the nodes that texts were replaced by -/
structure Rewritten (d₀ : Document) (done : List Leaf) (new : ℕ → Option Forest) (d : Document) : Prop where
  eq : d = { d₀ with nodes := d₀.nodes.substitute new, next := d.next }
  numbered : d.WellNumbered
  next_le : d₀.next ≤ d.next
  fresh : ∀ id nodes, new id = some nodes → ∀ n ∈ nodes.numbers, d₀.next ≤ n
  visited : ∀ leaf ∈ done, (Directive.scan leaf.content = .ok [] ∧ new leaf.id = none) ∨
    ((∃ found, Directive.scan leaf.content = .ok found ∧ found ≠ []) ∧ ∃ first nodes, d₀.next ≤ first ∧
      r.SegmentNodes host document leaf.content first nodes ∧ new leaf.id = some nodes)
  others : ∀ id, (∀ leaf ∈ done, leaf.id ≠ id) → new id = none

variable {r host document}

theorem rewritten_nil {d : Document} (hd : d.WellNumbered) : Rewritten r host document d [] (fun _ => none) d := by
  refine ⟨?_, hd, le_rfl, by simp, by simp, fun _ _ => rfl⟩
  rw [Forest.substitute_none]

/-- a text that was not visited yet is still there -/
theorem Rewritten.mem_allTexts {d₀ d : Document} {done : List Leaf} {new : ℕ → Option Forest} {leaf : Leaf}
    (h : Rewritten r host document d₀ done new d) (hl : leaf ∈ d₀.allTexts) (hnew : new leaf.id = none) :
    leaf ∈ d.allTexts := by
  rw [h.eq]
  exact Forest.mem_texts_substitute hl hnew

/-- **A visit keeps the invariant.** -/
theorem rewritten_visit {d₀ : Document} {done : List Leaf} {new : ℕ → Option Forest} {leaf : Leaf} {s : σ}
    {p p' : Progress Document} (hd : d₀.WellNumbered) (h : Rewritten r host document d₀ done new p.tree)
    (hl : leaf ∈ d₀.allTexts) (hnot : ∀ other ∈ done, other.id ≠ leaf.id)
    (hv : Visited r Document.region host document s p leaf p') :
    ∃ new', Rewritten r host document d₀ (done ++ [leaf]) new' p'.tree := by
  have hnew : new leaf.id = none := h.others leaf.id hnot
  have hmem := h.mem_allTexts hl hnew
  cases hv with
  | plain hs =>
    refine ⟨new, h.eq, h.numbered, h.next_le, h.fresh, fun other ho => ?_, fun id hid => ?_⟩
    · rcases List.mem_append.1 ho with ho | ho
      · exact h.visited other ho
      · rw [List.mem_singleton.1 ho]
        exact Or.inl ⟨hs, hnew⟩
    · exact h.others id fun other ho => hid other (List.mem_append_left _ ho)
  | detached _ _ _ hreplace =>
    obtain ⟨hthere, -⟩ := Document.replace_of_mem hmem hreplace
    cases hthere
  | @replaced found segments tree hs hne hsplice hreplace =>
    obtain ⟨-, nodes, hnodes, htree⟩ := Document.replace_of_mem hmem hreplace
    have hfresh := Document.fresh_nodesOf hnodes
    have hlt : leaf.id < d₀.next :=
      (hd.range leaf.id ((Forest.ids_sublist_numbers _ _).subset (List.mem_map_of_mem hl))).2
    refine ⟨Function.update new leaf.id (some nodes), ?_, h.numbered.replace hreplace,
      h.next_le.trans hfresh.le, fun id g hg n hn => ?_, fun other ho => ?_, fun id hid => ?_⟩
    · have hsub := Forest.replaceText_substitute nodes d₀.nodes hnew fun i g hg hm =>
        absurd (h.fresh i g hg leaf.id hm) (Nat.not_le.2 hlt)
      calc
        tree = { p.tree with nodes := Forest.replaceText leaf.id nodes p.tree.nodes, next := tree.next } := htree
        _ = { d₀ with nodes := Forest.replaceText leaf.id nodes (d₀.nodes.substitute new), next := tree.next } := by
          rw [h.eq]
        _ = { d₀ with nodes := d₀.nodes.substitute (Function.update new leaf.id (some nodes)), next := tree.next } := by
          rw [hsub]
    · by_cases hid : id = leaf.id
      · rw [hid, Function.update_self] at hg
        cases hg
        exact h.next_le.trans (hfresh.range n hn).1
      · rw [Function.update_of_ne hid] at hg
        exact h.fresh id g hg n hn
    · rcases List.mem_append.1 ho with ho | ho
      · rw [Function.update_of_ne (hnot other ho)]
        exact h.visited other ho
      · rw [List.mem_singleton.1 ho, Function.update_self]
        exact Or.inr ⟨⟨found, hs, hne⟩, p.tree.next, nodes, h.next_le, ⟨found, s, segments, _, hs, hsplice, hnodes⟩, rfl⟩
    · rw [Function.update_of_ne (hid leaf (List.mem_append_right _ (List.mem_singleton.2 rfl))).symm]
      exact h.others id fun other ho => hid other (List.mem_append_left _ ho)

/-- the candidates that a pass has visited, in front of those it has not -/
theorem exists_rewritten_process {d : Document} (hd : d.WellNumbered) (s : σ) :
    ∃ visited rest new, d.candidates = visited ++ rest ∧
      Rewritten r host document d visited new ((r.process Document.region document d).run host s).result.tree ∧
      (((r.process Document.region document d).run host s).result.stop = none → rest = []) := by
  let Inv (done : List Leaf) (d' : Document) : Prop := ∃ new, Rewritten r host document d done new d'
  have step : ∀ done leaf rest s (p p' : Progress Document), d.candidates = done ++ leaf :: rest →
      Inv done p.tree → Visited r Document.region host document s p leaf p' → Inv (done ++ [leaf]) p'.tree := by
    rintro done leaf rest s p p' hall ⟨new, hnew⟩ hv
    have hids : (d.candidates.map Leaf.id).Nodup := (d.candidates_sublist_allTexts.map Leaf.id).nodup hd.nodup_ids
    have hl : leaf ∈ d.candidates := hall ▸ List.mem_append_right _ List.mem_cons_self
    refine rewritten_visit hd hnew (d.candidates_sublist_allTexts.subset hl) (fun other ho hid => ?_) hv
    rw [hall, List.map_append, List.map_cons] at hids
    exact (List.nodup_append'.1 hids).2.2 (List.mem_map_of_mem ho) (hid ▸ List.mem_cons_self)
  have hstart : Inv [] d := ⟨_, rewritten_nil hd⟩
  obtain ⟨visited, rest, hsplit, ⟨new, hnew⟩, hstop⟩ :=
    visitAll_invariant Inv step (s := s) (p := { tree := d }) d.candidates.nil_append.symm hstart
  rw [result_process]
  exact ⟨visited, rest, new, hsplit, hnew, hstop⟩

/-- **What a pass makes of a document.** Where it does not stop early, every text of the region that holds a directive is
replaced in its place by the nodes of its segments, whose numbers are new; every other text and every other node stays. The
numbers of the nodes only tell them apart, as they do in all documents of markup (`wellNumbered_ofMarkup`). -/
theorem process_rewrites {d : Document} (hd : d.WellNumbered) (ht : d.token = Directive.keyword) (s : σ)
    (h : ((r.process Document.region document d).run host s).result.stop = none) :
    ∃ (new : ℕ → Option Forest) (after : Document),
      ((r.process Document.region document d).run host s).result.tree = after ∧ after.WellNumbered ∧
      after = { d with nodes := d.nodes.substitute new, next := after.next } ∧
      ∀ leaf ∈ d.allTexts,
        (d.HoldsDirective leaf → ∃ first nodes, d.next ≤ first ∧ r.SegmentNodes host document leaf.content first nodes ∧
          new leaf.id = some nodes) ∧
        (¬ d.HoldsDirective leaf → new leaf.id = none) := by
  obtain ⟨visited, rest, new, hsplit, hnew, hstop⟩ := exists_rewritten_process hd s
  obtain rfl := hstop h
  rw [List.append_nil] at hsplit
  refine ⟨new, _, rfl, hnew.numbered, hnew.eq, fun leaf hl => ⟨fun hh => ?_, fun hh => ?_⟩⟩
  · have hc := Document.mem_candidates_of_scan ht hh
    rcases hnew.visited leaf (hsplit ▸ hc) with ⟨hs, -⟩ | ⟨-, hnodes⟩
    · obtain ⟨-, -, found, hs', hne⟩ := hh
      rw [hs] at hs'
      cases hs'
      exact absurd rfl hne
    · exact hnodes
  · by_cases hc : leaf ∈ visited
    · rcases hnew.visited leaf hc with ⟨-, hnone⟩ | ⟨hfound, -⟩
      · exact hnone
      · obtain ⟨hl', -, -, hv⟩ := Document.mem_candidates_iff.1 (hsplit ▸ hc)
        exact absurd ⟨hl', hv, hfound⟩ hh
    · refine hnew.others leaf.id fun other ho hid => hc ?_
      have ho' := d.candidates_sublist_allTexts.subset (hsplit ▸ ho)
      exact hd.eq_of_id_eq ho' hl hid ▸ ho

/-! ## A page -/

/-- a paragraph with a directive behind a word, and in a verbatim element another one -/
def page : Document where
  nodes := .element 0 ['p'] [] (.text 1 "see @import \"a\"".toList
    (.element 2 "pre".toList [] (.text 3 "@import \"a\"".toList .nil) .nil)) .nil
  next := 4
  verbatim := ["pre".toList]
  token := Directive.keyword

/-- the text of the page that is replaced -/
def pageLeaf : Leaf := { id := 1, content := "see @import \"a\"".toList, around := [['p'], Document.rootName] }

/-- blocks with nothing in them -/
def bareResolver : Resolver :=
  { normal := id, render := fun _ _ => { html := .ok [] }, presentation := { showFileName := false } }

/-- the markup of a block with nothing in it -/
def bareBlock : Text := Block.enclose "div" "code-import-container" (Block.enclose "div" "code-import-block" [])

/-- the nodes of a block with nothing in it, where they are numbered from five on -/
def bareNodes : Forest :=
  .element 5 "div".toList [⟨"class".toList, "code-import-container".toList⟩]
    (.element 6 "div".toList [⟨"class".toList, "code-import-block".toList⟩] .nil .nil) .nil

theorem parse_bareBlock : Markup.parse 5 bareBlock = .ok (bareNodes, 7) := by
  have hdiv : PlainName "div".toList := ⟨by decide, by simp [IsSmall], rfl⟩
  have houter : PlainValue "code-import-container".toList := ⟨by decide, by decide⟩
  have hinner : PlainValue "code-import-block".toList := ⟨by decide, by decide⟩
  have hread := (reads_enclose hdiv houter (reads_enclose hdiv hinner .nil)).ofText
  rw [Markup.parse, bareBlock, hread]
  exact congrArg Except.ok (by decide +kernel)

/-- the text of the page is replaced in every document that numbers its nodes like the page -/
theorem replace_page {d : Document} {b : BlockSegment} (hfind : d.find? pageLeaf.id = some pageLeaf) (hnext : d.next = 4)
    (hb : b.html = bareBlock) :
    ∃ tree, Document.region.replace d pageLeaf [.text "see ".toList, .block b] = .ok (true, tree) := by
  have hnodes : Document.nodesOf d.next [.text "see ".toList, .markup bareBlock] =
      .ok (.text 4 "see ".toList bareNodes, 7) := by
    simp [Document.nodesOf, Document.Piece.nodes, hnext, parse_bareBlock, bind, Except.bind, pure, Except.pure,
      Except.mapError, Forest.append_nil]
  simp only [Document.region, Document.replace, hfind, List.map_cons, List.map_nil, Document.Piece.ofSegment, hb, hnodes]
  exact ⟨_, rfl⟩

/-- every file is there and empty -/
def emptyFiles : Unit → Text → Dialogue.Run Unit Event FileAnswer := Dialogue.answering fun _ => .ok (some [])

theorem stop_page : ((bareResolver.process Document.region [] page).run emptyFiles ()).result.stop = none := by
  let directive : Directive := { path := ['a'], raw := "@import \"a\"".toList }
  let found : List Directive.Occurrence := [{ directive, start := 4, stop := 15 }]
  let block : BlockSegment := { kind := .code, html := bareBlock, directive }
  have hcandidates : Document.region.candidates page = [pageLeaf] := rfl
  have hscan : Directive.scan pageLeaf.content = .ok found := rfl
  have hsplice : (bareResolver.spliceRun emptyFiles [] () pageLeaf.content found).result =
      .ok [.text "see ".toList, .block block] := rfl
  obtain ⟨tree, htree⟩ := replace_page (d := page) (b := block) rfl rfl rfl
  have hvisited : Visited bareResolver Document.region emptyFiles [] () { tree := page } pageLeaf _ :=
    .replaced hscan (List.cons_ne_nil _ _) hsplice htree
  rw [result_process, hcandidates]
  simp only [visitAll, Dialogue.result_andThen, result_visit_eq_ok_iff.2 hvisited]
  rfl

theorem process_rewrites_page :
    ∃ new after, ((bareResolver.process Document.region [] page).run emptyFiles ()).result.tree = after ∧
      after = { page with nodes := page.nodes.substitute new, next := after.next } ∧
      (new 1).isSome ∧ new 3 = none := by
  have hwell : page.WellNumbered := ⟨by decide, by decide, by decide⟩
  obtain ⟨new, after, htree, -, heq, hleaves⟩ := process_rewrites hwell rfl () stop_page
  have hmem : pageLeaf ∈ page.allTexts := List.mem_cons_self
  have hverbatim : { id := 3, content := "@import \"a\"".toList, around := ["pre".toList, ['p'], Document.rootName] } ∈
      page.allTexts := List.mem_cons_of_mem _ List.mem_cons_self
  have hthree : new 3 = none := (hleaves _ hverbatim).2 fun h => h.2.1 _ List.mem_cons_self List.mem_cons_self
  refine ⟨new, after, htree, heq, ?_, hthree⟩
  obtain ⟨-, nodes, -, -, hnew⟩ := (hleaves _ hmem).1 ⟨hmem, by decide, _, rfl, List.cons_ne_nil _ _⟩
  exact Option.isSome_iff_exists.2 ⟨nodes, hnew⟩

end Resolver

end Transclude
