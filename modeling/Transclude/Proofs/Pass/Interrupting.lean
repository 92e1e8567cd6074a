/-
What a pass leaves behind where it stops early.

A pass that stops has gone through some texts, and halts at the next one. Texts are replaced one at a time, each when all of its
segments are there, so nothing of the text that it halts at is put in, however many of its directives were resolved.

- `Course.replacedBy`: after a course, the texts that it went through are replaced by the nodes of all of their segments, and
  nothing else has changed.
- `Course.fates_eq`: a course does the same to its texts in every document that they are texts of.
- `process_halts`: a pass that stops early leaves what a pass over the texts in front leaves, which does not stop; and these
  texts look as they do after any pass that starts with them and does not stop.
-/
import Transclude.Proofs.Directive.Limits
import Transclude.Proofs.Pass.Course
import Transclude.Proofs.Pass.Rewriting

namespace Transclude

open Markup (Forest Leaf)

namespace Document

/-- the nodes that fates put into the places of their texts, in order, where the next node is numbered `first` -/
def placed : (first : ℕ) → List (Leaf × Fate) → ℕ → Option Forest
  | _, [] => fun _ => none
  | first, (leaf, .replaced segments) :: rows =>
    match nodesOf first (segments.map Piece.ofSegment) with
    | .ok (nodes, next) => Function.update (placed next rows) leaf.id (some nodes)
    | .error _ => placed first rows
  | first, (_, .plain) :: rows => placed first rows
  | first, (_, .detached _) :: rows => placed first rows

/-- nothing is put into the place of any other text -/
theorem placed_of_forall_ne {first id : ℕ} {rows : List (Leaf × Fate)} (h : ∀ row ∈ rows, row.1.id ≠ id) :
    placed first rows id = none := by
  induction rows generalizing first with
  | nil => rfl
  | cons row rows ih =>
    obtain ⟨leaf, fate⟩ := row
    obtain ⟨hleaf, hrows⟩ := List.forall_mem_cons.1 h
    cases fate with
    | plain => exact ih hrows
    | detached segments => exact ih hrows
    | replaced segments =>
      rw [placed]
      cases nodesOf first (segments.map Piece.ofSegment) with
      | error refusal => exact ih hrows
      | ok put => exact (Function.update_of_ne hleaf.symm _ _).trans (ih hrows)

/-- what is put into the place of a text does not hang on other texts that come later -/
theorem placed_append {first id : ℕ} {rows more : List (Leaf × Fate)} (h : ∀ row ∈ more, row.1.id ≠ id) :
    placed first (rows ++ more) id = placed first rows id := by
  induction rows generalizing first with
  | nil => exact placed_of_forall_ne h
  | cons row rows ih =>
    obtain ⟨leaf, fate⟩ := row
    cases fate with
    | plain => exact ih
    | detached segments => exact ih
    | replaced segments =>
      rw [List.cons_append, placed, placed]
      cases nodesOf first (segments.map Piece.ofSegment) with
      | error refusal => exact ih
      | ok put => simp only [Function.update_apply, ih]

/-- what stands in the place of a text: the text itself, or the nodes of all of its segments, with numbers that are new -/
def InPlace (d : Document) (new : ℕ → Option Forest) (leaf : Leaf) : Fate → Prop
  | .plain => new leaf.id = none
  | .detached _ => False
  | .replaced segments => ∃ first nodes next, d.next ≤ first ∧
      nodesOf first (segments.map Piece.ofSegment) = .ok (nodes, next) ∧ new leaf.id = some nodes

/-- the document `d` has become `after`: each text is replaced by the nodes of all of its segments, if it has a fate that says
so, and everything else stays as it is and where it is -/
structure ReplacedBy (d : Document) (leaves : List Leaf) (fates : List Fate) (after : Document) : Prop where
  eq : after = { d with nodes := d.nodes.substitute (placed d.next (leaves.zip fates)), next := after.next }
  inPlace : ∀ row ∈ leaves.zip fates, d.InPlace (placed d.next (leaves.zip fates)) row.1 row.2
  others : ∀ id, (∀ leaf ∈ leaves, leaf.id ≠ id) → placed d.next (leaves.zip fates) id = none

/-- a text that is not replaced is still there -/
theorem ReplacedBy.mem_allTexts {d after : Document} {leaves : List Leaf} {fates : List Fate} {leaf : Leaf}
    (h : d.ReplacedBy leaves fates after) (hl : leaf ∈ d.allTexts) (hnot : ∀ other ∈ leaves, other.id ≠ leaf.id) :
    leaf ∈ after.allTexts := by
  rw [h.eq]
  exact Forest.mem_texts_substitute hl (h.others leaf.id hnot)

end Document

namespace Resolver

open Document (placed ReplacedBy InPlace)

variable {σ : Type} {r : Resolver} {host : σ → Text → Dialogue.Run σ Event FileAnswer} {document : Text}

/-! ## Courses over documents -/

/-- the texts of a document, each of them once -/
structure Distinct (d : Document) (leaves : List Leaf) : Prop where
  mem : ∀ leaf ∈ leaves, leaf ∈ d.allTexts
  nodup : (leaves.map Leaf.id).Nodup

theorem distinct_candidates {d : Document} (hd : d.WellNumbered) : Distinct d d.candidates :=
  ⟨fun _ hl => d.candidates_sublist_allTexts.subset hl, (d.candidates_sublist_allTexts.map Leaf.id).nodup hd.nodup_ids⟩

theorem Distinct.of_append {d : Document} {leaves more : List Leaf} (h : Distinct d (leaves ++ more)) :
    Distinct d leaves ∧ ∀ leaf ∈ leaves, ∀ other ∈ more, other.id ≠ leaf.id := by
  have hnodup := h.nodup
  rw [List.map_append, List.nodup_append'] at hnodup
  obtain ⟨hfront, -, hapart⟩ := hnodup
  refine ⟨⟨fun leaf hl => h.mem leaf (List.mem_append_left _ hl), hfront⟩, fun leaf hl other ho hid => ?_⟩
  exact hapart (List.mem_map_of_mem hl) (hid ▸ List.mem_map_of_mem ho)

/-- after one of them was replaced, the others are still there -/
theorem Distinct.tail {d d' : Document} {leaf : Leaf} {leaves : List Leaf} {nodes : Forest}
    (h : Distinct d (leaf :: leaves)) (hd' : d'.nodes = Forest.replaceText leaf.id nodes d.nodes) : Distinct d' leaves := by
  obtain ⟨hleaf, hnodup⟩ := List.nodup_cons.1 h.nodup
  refine ⟨fun other ho => ?_, hnodup⟩
  have hne : other.id ≠ leaf.id := fun hid => hleaf (hid ▸ List.mem_map_of_mem ho)
  have hupdate : Function.update (fun _ => none) leaf.id (some nodes) other.id = none := Function.update_of_ne hne _ _
  have hsub : Forest.replaceText leaf.id nodes d.nodes =
      d.nodes.substitute (Function.update (fun _ => none) leaf.id (some nodes)) := by
    have hnever : ∀ (i : ℕ) (g : Forest), (fun _ => none : ℕ → Option Forest) i = some g → leaf.id ∉ g.numbers := by simp
    have hnone := Forest.replaceText_substitute nodes d.nodes rfl hnever
    rwa [Forest.substitute_none] at hnone
  rw [Document.allTexts, hd', hsub]
  exact Forest.mem_texts_substitute (h.mem other (List.mem_cons_of_mem leaf ho)) hupdate

/-- **What a course leaves.** -/
theorem Course.replacedBy {d after : Document} {leaves : List Leaf} {fates : List Fate} {s s' : σ}
    (h : Course r Document.region host document s d leaves fates s' after) (hd : d.WellNumbered) (hl : Distinct d leaves) :
    d.ReplacedBy leaves fates after := by
  have hothers : ∀ {first : ℕ} {leaves : List Leaf} {fates : List Fate} (id : ℕ), (∀ leaf ∈ leaves, leaf.id ≠ id) →
      placed first (leaves.zip fates) id = none := fun id hid =>
    Document.placed_of_forall_ne fun row hrow => hid row.1 (List.of_mem_zip hrow).1
  induction h with
  | nil s d => exact ⟨by simp [placed, Forest.substitute_none], by simp, fun id hid => hothers id hid⟩
  | @cons s s₁ s₂ d d₁ d₂ leaf leaves fate fates here rest ih =>
    obtain ⟨hleaf, -⟩ := List.nodup_cons.1 hl.nodup
    have hne : ∀ other ∈ leaves, other.id ≠ leaf.id := fun other ho hid => hleaf (hid ▸ List.mem_map_of_mem ho)
    have hmem := hl.mem leaf List.mem_cons_self
    cases here with
    | plain hs =>
      have hrest := ih hd ⟨fun other ho => hl.mem other (List.mem_cons_of_mem leaf ho), (List.nodup_cons.1 hl.nodup).2⟩
      refine ⟨hrest.eq, ?_, hothers⟩
      rw [List.zip_cons_cons]
      exact List.forall_mem_cons.2 ⟨hothers leaf.id hne, hrest.inPlace⟩
    | detached _ _ _ hreplace =>
      obtain ⟨hthere, -⟩ := Document.replace_of_mem hmem hreplace
      cases hthere
    | @replaced found segments tree hs hfound hsplice hreplace =>
      obtain ⟨-, nodes, hnodes, htree⟩ := Document.replace_of_mem hmem hreplace
      have hfresh := Document.fresh_nodesOf hnodes
      have hrest := ih (hd.replace hreplace) (hl.tail (congrArg Document.nodes htree))
      -- the numbers that are put in are new, so none of them is that of a text
      have hnot : ∀ n ∈ nodes.numbers, placed d₁.next (leaves.zip fates) n = none := by
        intro n hn
        refine hothers n fun other ho hid => ?_
        have hother := hl.mem other (List.mem_cons_of_mem leaf ho)
        have hlt := (hd.range other.id ((Forest.ids_sublist_numbers _ _).subset (List.mem_map_of_mem hother))).2
        exact absurd (hfresh.range n hn).1 (Nat.not_le.2 (hid ▸ hlt))
      have hplaced : placed d.next ((leaf :: leaves).zip (.replaced segments :: fates)) =
          Function.update (placed d₁.next (leaves.zip fates)) leaf.id (some nodes) := by
        rw [List.zip_cons_cons, placed, hnodes]
      refine ⟨?_, ?_, hothers⟩
      · calc
          d₂ = { d₁ with nodes := d₁.nodes.substitute (placed d₁.next (leaves.zip fates)), next := d₂.next } := hrest.eq
          _ = { d with nodes := (Forest.replaceText leaf.id nodes d.nodes).substitute (placed d₁.next (leaves.zip fates)),
                       next := d₂.next } := by rw [htree]
          _ = _ := by rw [Forest.substitute_replaceText leaf.id d.nodes hnot, hplaced]
      · rw [hplaced, List.zip_cons_cons]
        refine List.forall_mem_cons.2 ⟨⟨d.next, nodes, _, le_rfl, hnodes, Function.update_self _ _ _⟩, ?_⟩
        rintro ⟨other, fate⟩ hrow
        have hkeep : Function.update (placed d₁.next (leaves.zip fates)) leaf.id (some nodes) other.id =
            placed d₁.next (leaves.zip fates) other.id :=
          Function.update_of_ne (hne other (List.of_mem_zip hrow).1) _ _
        have hin := hrest.inPlace _ hrow
        cases fate with
        | plain => exact hkeep.trans hin
        | detached segments => exact hin
        | replaced segments =>
          obtain ⟨first, nodes', next, hle, hnodes', hnew⟩ := hin
          exact ⟨first, nodes', next, hfresh.le.trans hle, hnodes', hkeep.trans hnew⟩

/-- fates that say the same of what is spliced are the same where no text is gone -/
theorem eq_of_spliced_eq {fates₁ fates₂ : List Fate} (h : fates₁.map Fate.spliced? = fates₂.map Fate.spliced?)
    (h₁ : ∀ segments, Fate.detached segments ∉ fates₁) (h₂ : ∀ segments, Fate.detached segments ∉ fates₂) :
    fates₁ = fates₂ := by
  induction fates₁ generalizing fates₂ with
  | nil => exact (List.map_eq_nil_iff.1 h.symm).symm
  | cons a fates₁ ih =>
    cases fates₂ with
    | nil => cases h
    | cons b fates₂ =>
      obtain ⟨hab, hrest⟩ := List.cons.inj h
      have hhere : a = b := by
        cases a with
        | plain =>
          cases b with
          | plain => rfl
          | detached segments => exact absurd List.mem_cons_self (h₂ segments)
          | replaced segments => cases hab
        | detached segments => exact absurd List.mem_cons_self (h₁ segments)
        | replaced segments =>
          cases b with
          | plain => cases hab
          | detached segments => exact absurd List.mem_cons_self (h₂ segments)
          | replaced segments => exact congrArg Fate.replaced (Option.some.inj hab)
      rw [hhere, ih hrest (fun segments hm => h₁ segments (List.mem_cons_of_mem a hm))
        (fun segments hm => h₂ segments (List.mem_cons_of_mem b hm))]

/-- no text of a document is gone when its turn comes -/
theorem Course.not_mem_detached {d after : Document} {leaves : List Leaf} {fates : List Fate} {s s' : σ}
    (h : Course r Document.region host document s d leaves fates s' after) (hd : d.WellNumbered) (hl : Distinct d leaves)
    (segments : List Segment) : Fate.detached segments ∉ fates := by
  intro hmem
  obtain ⟨i, hi, hget⟩ := List.mem_iff_getElem.1 hmem
  have hlen := h.length_eq
  have hrow : (leaves[i], fates[i]) ∈ leaves.zip fates := by
    rw [← List.getElem_zip (h := by rw [List.length_zip]; omega)]
    exact List.getElem_mem _
  have hin := (h.replacedBy hd hl).inPlace _ hrow
  rw [hget] at hin
  exact hin

/-- **A course does the same to its texts in every document** that they are texts of. -/
theorem Course.fates_eq {d₁ d₂ after₁ after₂ : Document} {leaves : List Leaf} {fates₁ fates₂ : List Fate} {s s₁ s₂ : σ}
    (h₁ : Course r Document.region host document s d₁ leaves fates₁ s₁ after₁)
    (h₂ : Course r Document.region host document s d₂ leaves fates₂ s₂ after₂) (hd₁ : d₁.WellNumbered)
    (hd₂ : d₂.WellNumbered) (hl₁ : Distinct d₁ leaves) (hl₂ : Distinct d₂ leaves) : fates₁ = fates₂ := by
  obtain ⟨hspliced, -⟩ := h₁.spliced_eq h₂
  exact eq_of_spliced_eq hspliced (h₁.not_mem_detached hd₁ hl₁) (h₂.not_mem_detached hd₂ hl₂)

/-! ## Passes -/

/-- a pass that was to go over `tree` went through the texts `done`, with these fates, and halted at the text `leaf`; what it
left is what a pass over `done` leaves, which completes -/
structure HaltedAt {τ ℓ σ : Type} (r : Resolver) (region : Region τ ℓ) (host : σ → Text → Dialogue.Run σ Event FileAnswer)
    (document : Text) (s : σ) (tree : τ) (done : List ℓ) (fates : List Fate) (leaf : ℓ) (later : List ℓ) (o : Outcome τ) :
    Prop where
  candidates : region.candidates tree = done ++ leaf :: later
  course : ∃ s', Course r region host document s tree done fates s' o.tree ∧
    ∃ stop, o.stop = some stop ∧ Halts r region host document s' o.tree leaf stop
  front : ((r.visitAll region document done { tree }).run host s).result = { o with stop := none }

variable {τ ℓ : Type} {region : Region τ ℓ}

/-- a pass that stops early halts at one of the texts -/
theorem exists_haltedAt {s : σ} {tree : τ} (h : ((r.process region document tree).run host s).result.stop ≠ none) :
    ∃ done fates leaf later,
      HaltedAt r region host document s tree done fates leaf later ((r.process region document tree).run host s).result := by
  rw [result_process] at h ⊢
  obtain ⟨done, rest, fates, s', hsplit, hcourse, hreport, hend⟩ := exists_course_visitAll r region host document
    (region.candidates tree) { tree } s
  obtain ⟨stop, hstop⟩ := Option.ne_none_iff_exists'.1 h
  simp only [hstop] at hend
  obtain ⟨leaf, later, rfl, hhalts⟩ := hend
  refine ⟨done, fates, leaf, later, hsplit, ⟨s', hcourse, stop, hstop, hhalts⟩, ?_⟩
  rw [(run_visitAll_of_course hcourse {}).1, ← hreport]

/-- a pass that does not stop early is a course over all texts -/
theorem exists_course_process {s : σ} {tree : τ} {leaves : List ℓ} (hleaves : region.candidates tree = leaves)
    (h : ((r.process region document tree).run host s).result.stop = none) :
    ∃ fates s', Course r region host document s tree leaves fates s'
      ((r.process region document tree).run host s).result.tree := by
  rw [result_process, hleaves] at h ⊢
  obtain ⟨done, rest, fates, s', hsplit, hcourse, -, hend⟩ := exists_course_visitAll r region host document
    leaves { tree } s
  simp only [h] at hend
  rw [hend, List.append_nil] at hsplit
  exact ⟨fates, s', hsplit ▸ hcourse⟩

/-- a pass over another document that starts with the same texts and does the same to them puts the same nodes into their
places, if it does not stop early -/
theorem Course.placed_eq {d d₂ after₂ : Document} {done more : List Leaf} {fates : List Fate} {s s₁ : σ}
    (h : Course r Document.region host document s d₂ done fates s₁ after₂) (hd : d₂.WellNumbered)
    (hnext : d₂.next = d.next) (hcandidates : d₂.candidates = done ++ more)
    (hstop : ((r.process Document.region document d₂).run host s).result.stop = none) :
    ∃ rest, d₂.ReplacedBy (done ++ more) (fates ++ rest) ((r.process Document.region document d₂).run host s).result.tree ∧
      ∀ other ∈ done, placed d₂.next ((done ++ more).zip (fates ++ rest)) other.id =
        placed d.next (done.zip fates) other.id := by
  have hl : Distinct d₂ (done ++ more) := hcandidates ▸ distinct_candidates hd
  obtain ⟨hfront, hapart⟩ := hl.of_append
  obtain ⟨fates₂, s', hall⟩ := exists_course_process hcandidates hstop
  obtain ⟨front, rest, s₂, after, rfl, hcourse₁, -⟩ := hall.of_append
  obtain rfl := h.fates_eq hcourse₁ hd hd hfront hfront
  refine ⟨rest, hall.replacedBy hd hl, fun other ho => ?_⟩
  rw [List.zip_append h.length_eq, hnext]
  exact Document.placed_append fun row hrow => hapart other ho row.1 (List.of_mem_zip hrow).1

/-- **A pass that fails is all or nothing for each text.** In a region of any kind, a pass that stops early has gone through the
texts in front of one that halts it, and leaves what a pass over these texts leaves, which completes. In a document, the texts
that it went through are replaced by the nodes of all of their segments, if directives are in them; the text that halts it, the
texts after it and everything else are as they were. The texts that it went through look as they do after a pass that does not
stop early, over any document that starts with these texts: by the same collaborators, which do the same to them there, or by
others that do. -/
theorem process_halts (r : Resolver) (document : Text) :
    (∀ {τ ℓ σ : Type} (region : Region τ ℓ) (host : σ → Text → Dialogue.Run σ Event FileAnswer) (s : σ) (tree : τ),
      ((r.process region document tree).run host s).result.stop ≠ none → ∃ done fates leaf later,
        HaltedAt r region host document s tree done fates leaf later ((r.process region document tree).run host s).result) ∧
    ∀ {σ : Type} (host : σ → Text → Dialogue.Run σ Event FileAnswer) (s : σ) (d : Document) (o : Outcome Document) done fates leaf
      later, d.WellNumbered → HaltedAt r Document.region host document s d done fates leaf later o →
        d.ReplacedBy done fates o.tree ∧
        (∀ other ∈ leaf :: later, (∀ leaf' ∈ done, leaf'.id ≠ other.id) ∧ other ∈ o.tree.allTexts) ∧
        (∀ (d₂ : Document) more, d₂.WellNumbered → d₂.candidates = done ++ more →
          ((r.process Document.region document d₂).run host s).result.stop = none →
            ∃ s₁ after, Course r Document.region host document s d₂ done fates s₁ after) ∧
        ∀ {σ₂ : Type} (r₂ : Resolver) (host₂ : σ₂ → Text → Dialogue.Run σ₂ Event FileAnswer) (document₂ : Text) (s₂ s₁ : σ₂)
          (d₂ after : Document) more, d₂.WellNumbered → d₂.next = d.next → d₂.candidates = done ++ more →
            Course r₂ Document.region host₂ document₂ s₂ d₂ done fates s₁ after →
            ((r₂.process Document.region document₂ d₂).run host₂ s₂).result.stop = none →
              ∃ rest, d₂.ReplacedBy (done ++ more) (fates ++ rest)
                  ((r₂.process Document.region document₂ d₂).run host₂ s₂).result.tree ∧
                ∀ other ∈ done, placed d₂.next ((done ++ more).zip (fates ++ rest)) other.id =
                  placed d.next (done.zip fates) other.id := by
  refine ⟨fun region host s tree h => exists_haltedAt h, fun {σ} host s d o done fates leaf later hd h => ?_⟩
  obtain ⟨s', hcourse, -⟩ := h.course
  have hcandidates : d.candidates = done ++ leaf :: later := h.candidates
  have hl : Distinct d (done ++ leaf :: later) := hcandidates ▸ distinct_candidates hd
  obtain ⟨hfront, hapart⟩ := hl.of_append
  have hreplaced := hcourse.replacedBy hd hfront
  have hothers : ∀ other ∈ leaf :: later, ∀ leaf' ∈ done, leaf'.id ≠ other.id :=
    fun other ho leaf' hl' => (hapart leaf' hl' other ho).symm
  refine ⟨hreplaced, fun other ho => ⟨hothers other ho, ?_⟩, fun d₂ more hd₂ hcandidates₂ hstop => ?_,
    fun r₂ host₂ document₂ s₂ s₁ d₂ after more hd₂ hnext hcandidates₂ hcourse₂ hstop =>
      hcourse₂.placed_eq hd₂ hnext hcandidates₂ hstop⟩
  · exact hreplaced.mem_allTexts (hl.mem other (List.mem_append_right _ ho)) (hothers other ho)
  · obtain ⟨fates₂, s₂, hall⟩ := exists_course_process hcandidates₂ hstop
    have hl₂ : Distinct d₂ (done ++ more) := hcandidates₂ ▸ distinct_candidates hd₂
    obtain ⟨front, rest, s₁, after, -, hcourse₁, -⟩ := hall.of_append
    obtain rfl := hcourse.fates_eq hcourse₁ hd hd₂ hfront hl₂.of_append.1
    exact ⟨s₁, after, hcourse₁⟩

/-! ## A page -/

/-- a directive with more digits than a numeral may have -/
def longLeaf : Leaf where
  id := 3
  content := "@import \"a\" \x7bline_begin=".toList ++ List.replicate (Numeral.maxDigits + 1) '1' ++ ['}']
  around := [['p'], Document.rootName]

/-- a text with a directive, and another one that cannot be scanned -/
def longPage : Document :=
  { page with nodes := .element 0 ['p'] [] (.text 1 pageLeaf.content (.text 3 longLeaf.content .nil)) .nil }

theorem exists_scan_longLeaf : ∃ limit, Directive.scan longLeaf.content = .error limit := by
  have hlegible : ¬ Directive.Legible longLeaf.content := by
    refine Directive.not_legible_of_long (fun c hc => ?_) ?_
    · rw [List.eq_of_mem_replicate hc]
      decide
    · rw [List.length_replicate]
      exact Nat.lt_succ_self _
  cases hs : Directive.scan longLeaf.content with
  | error limit => exact ⟨limit, rfl⟩
  | ok found => exact absurd (Directive.exists_scan_iff.1 ⟨found, hs⟩) hlegible

/-- on the page the first text is replaced as it is on the page without the second one, which is still there -/
theorem process_halts_page :
    ∃ fate, longPage.WellNumbered ∧
      ((bareResolver.process Document.region [] longPage).run emptyFiles ()).result.stop ≠ none ∧
      (∃ done fates leaf later, HaltedAt bareResolver Document.region emptyFiles [] () longPage done fates leaf later
        ((bareResolver.process Document.region [] longPage).run emptyFiles ()).result) ∧
      longPage.ReplacedBy [pageLeaf] [fate]
        ((bareResolver.process Document.region [] longPage).run emptyFiles ()).result.tree ∧
      longLeaf ∈ ((bareResolver.process Document.region [] longPage).run emptyFiles ()).result.tree.allTexts ∧
      ((bareResolver.process Document.region [] page).run emptyFiles ()).result.stop = none ∧
      ∃ rest, placed page.next ([pageLeaf].zip (fate :: rest)) 1 = placed longPage.next ([pageLeaf].zip [fate]) 1 := by
  have hwell : longPage.WellNumbered := ⟨by decide, by decide, by decide⟩
  have hcandidates : longPage.candidates = [pageLeaf, longLeaf] := rfl
  have hscan : Directive.scan pageLeaf.content =
      .ok [{ directive := { path := ['a'], raw := "@import \"a\"".toList }, start := 4, stop := 15 }] := rfl
  let block : BlockSegment :=
    { kind := .code, html := bareBlock, directive := { path := ['a'], raw := "@import \"a\"".toList } }
  obtain ⟨tree, htree⟩ := replace_page (d := longPage) (b := block) rfl rfl rfl
  have hcourse : Course bareResolver Document.region emptyFiles [] () longPage [pageLeaf]
      [.replaced [.text "see ".toList, .block block]] () tree :=
    .cons (.replaced hscan (List.cons_ne_nil _ _) rfl htree) (.nil () tree)
  obtain ⟨limit, hlimit⟩ := exists_scan_longLeaf
  have hhalts : Halts bareResolver Document.region emptyFiles [] () tree longLeaf (.digits limit) := .scan hlimit
  have hresult : ((bareResolver.process Document.region [] longPage).run emptyFiles ()).result = _ :=
    (result_process () longPage).trans (result_visitAll_of_halts [] hcourse hhalts {})
  have hstop : ((bareResolver.process Document.region [] longPage).run emptyFiles ()).result.stop ≠ none := by
    rw [hresult]
    exact Option.some_ne_none _
  have hhalted : HaltedAt bareResolver Document.region emptyFiles [] () longPage [pageLeaf]
      [.replaced [.text "see ".toList, .block block]] longLeaf []
      ((bareResolver.process Document.region [] longPage).run emptyFiles ()).result := by
    rw [hresult]
    exact ⟨hcandidates, ⟨(), hcourse, _, rfl, hhalts⟩, (run_visitAll_of_course hcourse {}).1⟩
  obtain ⟨hany, hdocument⟩ := process_halts bareResolver []
  obtain ⟨hreplaced, huntouched, hsame, hplaced⟩ := hdocument emptyFiles () longPage _ _ _ _ _ hwell hhalted
  have hpage : page.WellNumbered := ⟨by decide, by decide, by decide⟩
  obtain ⟨s₁, after, hfront⟩ := hsame page [] hpage rfl stop_page
  obtain ⟨rest, -, hnodes⟩ := hplaced bareResolver emptyFiles [] () s₁ page after [] hpage rfl rfl hfront stop_page
  exact ⟨_, hwell, hstop, hany Document.region emptyFiles () longPage hstop, hreplaced,
    (huntouched longLeaf List.mem_cons_self).2, stop_page, rest, hnodes pageLeaf List.mem_cons_self⟩

end Resolver

end Transclude
