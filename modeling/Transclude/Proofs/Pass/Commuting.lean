/-
Passes over parts of one document.

A pass over an element replaces texts inside of it and nothing else, so what it finds in another element that is neither around it
nor inside of it is what was there before. With a reader that always gives the same answer, a text has one fate, whenever its turn
comes (`fateOf`). So what two passes leave is told by the texts of both elements, and only the numbers of the nodes that they put in
tell which one was first.

- `Forest.texts_append_sublist`: in an element around two others, their texts stand behind each other.
- `candidates_part`: a pass over one element leaves the candidates of the other one.
- `process_commutes`: passes over two such elements commute, and they do what one pass around both does.
-/
import Transclude.Proofs.Markup.Renumbering
import Transclude.Proofs.Pass.Interrupting
import Transclude.Proofs.Pass.Reporting
import Transclude.Proofs.Pass.Stopping

namespace Transclude

open Markup (Forest Leaf)

/-! ## Elements apart -/

namespace Markup.Forest

/-- two elements, neither inside of the other -/
structure Place.Apart (a b : Place) : Prop where
  ne : a.id ≠ b.id
  outside : b.id ∉ a.children.numbers
  outside' : a.id ∉ b.children.numbers

theorem Place.Apart.symm {a b : Place} (h : a.Apart b) : b.Apart a := ⟨h.ne.symm, h.outside', h.outside⟩

/-- an element and what is inside of it is part of the forest -/
theorem numbers_sublist_of_mem_elements {around : List Text} {f : Forest} {e : Place} (h : e ∈ f.elements around) :
    (e.id :: e.children.numbers).Sublist f.numbers := by
  induction f generalizing around with
  | nil => exact absurd h List.not_mem_nil
  | text id content next ih => exact (ih h).cons id
  | special id kind content next ih => exact (ih h).cons id
  | element id name attributes children next ihc ih =>
    rcases List.mem_cons.1 h with rfl | h
    · exact (List.sublist_append_left _ _).cons_cons id
    · rcases List.mem_append.1 h with h | h
      · exact ((ihc h).trans (List.sublist_append_left _ _)).cons id
      · exact ((ih h).trans (List.sublist_append_right _ _)).cons id

/-- what is inside of elements that are apart has different numbers -/
theorem disjoint_of_apart {around : List Text} {f : Forest} {a b : Place} (hf : f.numbers.Nodup) (ha : a ∈ f.elements around)
    (hb : b ∈ f.elements around) (h : a.Apart b) : a.children.numbers.Disjoint b.children.numbers := by
  induction f generalizing around with
  | nil => exact absurd ha List.not_mem_nil
  | text id content next ih => exact ih (List.nodup_cons.1 hf).2 ha hb
  | special id kind content next ih => exact ih (List.nodup_cons.1 hf).2 ha hb
  | element id name attributes children next ihc ih =>
    obtain ⟨-, hboth⟩ := List.nodup_cons.1 hf
    obtain ⟨hchildren, hnext, hapart⟩ := List.nodup_append'.1 hboth
    have inside : ∀ {around : List Text} {f : Forest} {e : Place}, e ∈ f.elements around → ∀ n ∈ e.children.numbers,
        n ∈ f.numbers := fun he n hn => (numbers_sublist_of_mem_elements he).subset (List.mem_cons_of_mem _ hn)
    rcases List.mem_cons.1 ha with rfl | ha
    · rcases List.mem_cons.1 hb with rfl | hb
      · exact absurd rfl h.ne
      · rcases List.mem_append.1 hb with hb | hb
        · exact absurd (mem_numbers_of_mem_elements hb) h.outside
        · exact fun n hna hnb => hapart hna (inside hb n hnb)
    · rcases List.mem_cons.1 hb with rfl | hb
      · rcases List.mem_append.1 ha with ha | ha
        · exact absurd (mem_numbers_of_mem_elements ha) h.outside'
        · exact fun n hna hnb => hapart hnb (inside ha n hna)
      · rcases List.mem_append.1 ha with ha | ha
        · rcases List.mem_append.1 hb with hb | hb
          · exact ihc hchildren ha hb
          · exact fun n hna hnb => hapart (inside ha n hna) (inside hb n hnb)
        · rcases List.mem_append.1 hb with hb | hb
          · exact fun n hna hnb => hapart (inside hb n hnb) (inside ha n hna)
          · exact ih hnext ha hb

/-- **The texts of elements that are apart stand behind each other**, in the order of the elements. -/
theorem texts_append_sublist {around : List Text} {f : Forest} {a b : Place} (h : a.Apart b)
    (hab : [a, b].Sublist (f.elements around)) : (a.texts ++ b.texts).Sublist (f.texts around) := by
  induction f generalizing around with
  | nil => exact absurd hab.length_le (by simp [elements])
  | text id content next ih => exact (ih hab).cons _
  | special id kind content next ih => exact ih hab
  | element id name attributes children next ihc ih =>
    rw [elements] at hab
    rw [texts]
    cases hab with
    | cons_cons _ hb =>
      -- the first one is this element, and so the second one is behind it
      rcases List.mem_append.1 (List.singleton_sublist.1 hb) with hb | hb
      · exact absurd (mem_numbers_of_mem_elements hb) h.outside
      · exact (List.Sublist.refl _).append (texts_children_sublist hb)
    | cons _ hab =>
      obtain ⟨front, back, heq, hfront, hback⟩ := List.sublist_append_iff.1 hab
      rcases front with - | ⟨first, rest⟩
      · exact (ih (heq ▸ hback)).trans (List.sublist_append_right _ _)
      · rw [List.cons_append, List.cons.injEq] at heq
        obtain ⟨rfl, heq⟩ := heq
        rcases List.singleton_eq_append_iff.1 heq with ⟨rfl, rfl⟩ | ⟨rfl, -⟩
        · exact (texts_children_sublist (List.singleton_sublist.1 hfront)).append
            (texts_children_sublist (List.singleton_sublist.1 hback))
        · exact (ihc hfront).trans (List.sublist_append_left _ _)

end Markup.Forest

/-! ## Parts of a document -/

namespace Document

/-- the elements inside of what a document is made of -/
def elementsIn (d : Document) : List Forest.Place :=
  match d.root with
  | none => d.nodes.elements [rootName]
  | some _ =>
    match d.place? with
    | some e => e.children.elements (e.name :: e.around)
    | none => []

/-- the texts of two elements inside of a document stand behind each other in it -/
theorem texts_append_sublist {d : Document} {a b : Forest.Place} (h : a.Apart b) (hab : [a, b].Sublist d.elementsIn) :
    (a.texts ++ b.texts).Sublist d.texts := by
  unfold elementsIn at hab
  split at hab
  · rename_i hroot
    simp only [texts, hroot]
    exact Forest.texts_append_sublist h hab
  · rename_i hroot
    split at hab
    · rename_i hplace
      simp only [texts, hroot, hplace]
      exact Forest.texts_append_sublist h hab
    · exact absurd hab.length_le (by simp)

/-- the numbers of the candidates inside of an element are numbers of nodes inside of it -/
theorem id_mem_of_mem_candidates {d : Document} (hd : d.WellNumbered) {e : Forest.Place}
    (he : e ∈ d.nodes.elements [rootName]) {leaf : Leaf} (hl : leaf ∈ (d.part e.id).candidates) :
    leaf.id ∈ e.children.numbers := by
  have htext := (mem_candidates_iff.1 hl).1
  rw [texts_part hd he] at htext
  exact (Forest.ids_sublist_numbers _ _).subset (List.mem_map_of_mem htext)

/-! ## What is put in -/

theorem next_le_replace {d d' : Document} {id : ℕ} {pieces : List Piece} {done : Bool}
    (h : d.replace id pieces = .ok (done, d')) : d.next ≤ d'.next := by
  unfold Document.replace at h
  split at h
  · cases h
    exact le_rfl
  · obtain ⟨⟨nodes, next⟩, hnodes, heq⟩ := Markup.Token.eq_of_map_eq_ok h
    cases heq
    exact (fresh_nodesOf hnodes).le

/-- what is put in is numbered from the next number on -/
theorem le_of_placed {first id : ℕ} {rows : List (Leaf × Fate)} {nodes : Forest} (h : placed first rows id = some nodes) :
    ∀ n ∈ nodes.numbers, first ≤ n := by
  induction rows generalizing first with
  | nil => cases h
  | cons row rows ih =>
    obtain ⟨leaf, fate⟩ := row
    cases fate with
    | plain => exact ih h
    | detached segments => exact ih h
    | replaced segments =>
      rw [placed] at h
      cases hput : nodesOf first (segments.map Piece.ofSegment) with
      | error refusal =>
        rw [hput] at h
        exact ih h
      | ok put =>
        have hfresh := fresh_nodesOf hput
        simp only [hput, Function.update_apply] at h
        split at h
        · obtain rfl := Option.some.inj h
          exact fun n hn => (hfresh.range n hn).1
        · exact fun n hn => hfresh.le.trans (ih h n hn)

/-- the nodes that a fate puts into the place of its text -/
def nodesFor (first : ℕ) : Fate → Option Forest
  | .replaced segments => (nodesOf first (segments.map Piece.ofSegment)).toOption.map Prod.fst
  | _ => none

/-- the nodes that are put into the places of some texts, each of them numbered from `first` on -/
def laid (first : ℕ) (fate : Leaf → Fate) (leaves : List Leaf) (id : ℕ) : Option Forest :=
  (leaves.find? fun leaf => leaf.id == id).bind fun leaf => nodesFor first (fate leaf)

theorem laid_of_forall_ne {first id : ℕ} {fate : Leaf → Fate} {leaves : List Leaf} (h : ∀ leaf ∈ leaves, leaf.id ≠ id) :
    laid first fate leaves id = none := by
  rw [laid, List.find?_eq_none.2 fun leaf hl => by simpa using h leaf hl]
  rfl

theorem laid_of_mem {first : ℕ} {fate : Leaf → Fate} {leaves : List Leaf} (hnodup : (leaves.map Leaf.id).Nodup) {leaf : Leaf}
    (hl : leaf ∈ leaves) : laid first fate leaves leaf.id = nodesFor first (fate leaf) := by
  unfold laid
  cases hfind : leaves.find? fun other => other.id == leaf.id with
  | none =>
    have := List.find?_eq_none.1 hfind leaf hl
    simp at this
  | some other =>
    have hid : other.id = leaf.id := by simpa using List.find?_some hfind
    rw [List.inj_on_of_nodup_map hnodup (List.mem_of_find?_eq_some hfind) hl hid, Option.bind_some]

/-- **But for numbers, what is put in does not hang on what was put in before.** -/
theorem placed_alike {next first : ℕ} (hle : next ≤ first) {leaves : List Leaf} (hnodup : (leaves.map Leaf.id).Nodup)
    (fate : Leaf → Fate) (id : ℕ) :
    (placed first (leaves.zip (leaves.map fate)) id).map (Forest.renumber (min next)) =
      (laid next fate leaves id).map (Forest.renumber (min next)) := by
  induction leaves generalizing first with
  | nil => rfl
  | cons leaf leaves ih =>
    obtain ⟨hleaf, hrest⟩ := List.nodup_cons.1 hnodup
    -- a text that nothing is put in for is one to be passed over
    have hskip : leaf.id = id → placed first (leaves.zip (leaves.map fate)) id = none := fun hid =>
      placed_of_forall_ne fun row hrow => hid ▸ fun e => hleaf (e ▸ List.mem_map_of_mem (List.of_mem_zip hrow).1)
    have hpass : placed first ((leaf :: leaves).zip ((leaf :: leaves).map fate)) id =
          placed first (leaves.zip (leaves.map fate)) id → nodesFor next (fate leaf) = none →
        (placed first ((leaf :: leaves).zip ((leaf :: leaves).map fate)) id).map (Forest.renumber (min next)) =
          (laid next fate (leaf :: leaves) id).map (Forest.renumber (min next)) := fun hsame hnone => by
      rw [hsame]
      by_cases hid : leaf.id = id
      · rw [hskip hid, laid, List.find?_cons_of_pos (by simpa using hid), Option.bind_some, hnone]
      · rw [ih hle hrest, laid, laid, List.find?_cons_of_neg (by simpa using hid)]
    cases hfate : fate leaf with
    | plain => exact hpass (by rw [List.map_cons, List.zip_cons_cons, hfate, placed]) (by rw [hfate]; rfl)
    | detached segments => exact hpass (by rw [List.map_cons, List.zip_cons_cons, hfate, placed]) (by rw [hfate]; rfl)
    | replaced segments =>
      obtain ⟨k, rfl⟩ := Nat.exists_eq_add_of_le hle
      have hshift := nodesOf_add next k (segments.map Piece.ofSegment)
      cases hput : nodesOf next (segments.map Piece.ofSegment) with
      | error refusal =>
        rw [hput] at hshift
        refine hpass ?_ ?_
        · rw [List.map_cons, List.zip_cons_cons, hfate, placed, hshift]
          rfl
        · rw [hfate, nodesFor, hput]
          rfl
      | ok put =>
        rw [hput] at hshift
        have hlater := fresh_nodesOf hshift
        have halike := alike_nodesOf hle le_rfl hshift hput
        rw [List.map_cons, List.zip_cons_cons, hfate, placed, hshift]
        by_cases hid : leaf.id = id
        · rw [laid, List.find?_cons_of_pos (by simpa using hid), Option.bind_some, hfate, nodesFor, hput]
          subst hid
          simp only [Except.map, Function.update_self]
          exact congrArg some halike
        · rw [laid, List.find?_cons_of_neg (by simpa using hid), ← laid]
          simp only [Except.map, Function.update_apply, if_neg (Ne.symm hid)]
          exact ih (hle.trans hlater.le) hrest

end Document

/-! ## Fates -/

/-- nothing was made of the text -/
def Fate.isPlain : Fate → Bool
  | .plain => true
  | _ => false

/-- texts of which nothing is made do not count, but for their number -/
theorem Report.ofFates_filter (fates : List Fate) :
    Report.ofFates (fates.filter (!·.isPlain)) =
      { Report.ofFates fates with leavesScanned := ((fates.filter (!·.isPlain)).length : ℕ) } := by
  have hinserted : (fates.filter (!·.isPlain)).flatMap Fate.inserted = fates.flatMap Fate.inserted := by
    induction fates with
    | nil => rfl
    | cons fate fates ih =>
      rw [List.filter_cons, List.flatMap_cons, ← ih]
      cases fate <;> rfl
  have hreplaced : (fates.filter (!·.isPlain)).filter Fate.isReplaced = fates.filter Fate.isReplaced := by
    rw [List.filter_filter]
    refine List.filter_congr fun fate _ => ?_
    cases fate <;> rfl
  simp only [Report.ofFates, hinserted, hreplaced]

namespace Resolver

open Document (placed ReplacedBy)

variable (r : Resolver) (read : Text → FileAnswer) (document : Text)

/-- what becomes of a text that is there, where the reader always gives the same answers -/
def fateOf (leaf : Leaf) : Fate :=
  match Directive.scan leaf.content with
  | .ok (o :: found) =>
    match (r.spliceRun (Dialogue.answering read) document () leaf.content (o :: found)).result with
    | .ok segments => .replaced segments
    | .error _ => .plain
  | _ => .plain

theorem fateOf_of_scan_nil {leaf : Leaf} (h : Directive.scan leaf.content = .ok []) : r.fateOf read document leaf = .plain := by
  rw [fateOf, h]

/-- a splice is decided by the answers for the files of its directives -/
theorem result_spliceFrom_congr {read read' : Text → FileAnswer} {ps : List Placement}
    (h : ∀ p ∈ ps, read (r.target p.directive document) = read' (r.target p.directive document)) (t : Text) (cursor : Int) :
    ((r.spliceFrom document t cursor ps).run (Dialogue.answering read) ()).result =
      ((r.spliceFrom document t cursor ps).run (Dialogue.answering read') ()).result := by
  induction ps generalizing cursor with
  | nil => rfl
  | cons p ps ih =>
    obtain ⟨hhere, hrest⟩ := List.forall_mem_cons.1 h
    simp only [spliceFrom, Dialogue.result_andThen, result_resolve, Dialogue.answering, hhere]
    cases r.blockFor p.directive (read' (r.target p.directive document)) with
    | error limit => rfl
    | ok b =>
      simp only [Dialogue.result_andThen]
      exact congrArg (Except.map _) (ih hrest p.stop)

/-- **The fate of a text is decided by the answers for the files of its directives.** -/
theorem fateOf_congr {read read' : Text → FileAnswer} {leaf : Leaf} {found : List Directive.Occurrence}
    (hs : Directive.scan leaf.content = .ok found)
    (h : ∀ o ∈ found, read (r.target o.directive document) = read' (r.target o.directive document)) :
    r.fateOf read document leaf = r.fateOf read' document leaf := by
  have hplacements : ∀ p ∈ found.map Placement.ofOccurrence,
      read (r.target p.directive document) = read' (r.target p.directive document) := by
    intro p hp
    obtain ⟨o, ho, rfl⟩ := List.mem_map.1 hp
    exact h o ho
  rw [fateOf, fateOf, hs]
  cases found with
  | nil => rfl
  | cons o found =>
    have hsplice := result_spliceFrom_congr r document hplacements leaf.content 0
    simp only [spliceRun, splice, hsplice]

/-- a pass with a reader that always gives the same answers -/
def passOver (d : Document) : Outcome Document := ((r.process Document.region document d).run (Dialogue.answering read) ()).result

variable {r read document}

theorem Meets.spliced_fateOf {d d' : Document} {leaf : Leaf} {fate : Fate} {s s' : Unit}
    (h : Meets r Document.region (Dialogue.answering read) document s d leaf fate s' d') :
    fate.spliced? = (r.fateOf read document leaf).spliced? := by
  obtain ⟨found, hs, hfate⟩ := h.exists_found
  have hs : Directive.scan leaf.content = .ok found := hs
  rcases hfate with ⟨rfl, hnone, -⟩ | ⟨hne, segments, hsplice, hsome, -⟩
  · rw [hnone, fateOf_of_scan_nil r read document hs]
    rfl
  · obtain ⟨o, found, rfl⟩ := List.exists_cons_of_ne_nil hne
    have hsplice : (r.spliceRun (Dialogue.answering read) document () leaf.content (o :: found)).result = .ok segments := hsplice
    rw [hsome, fateOf, hs]
    simp only [hsplice]
    rfl

theorem Course.spliced_fateOf {d after : Document} {leaves : List Leaf} {fates : List Fate} {s s' : Unit}
    (h : Course r Document.region (Dialogue.answering read) document s d leaves fates s' after) :
    fates.map Fate.spliced? = (leaves.map (r.fateOf read document)).map Fate.spliced? := by
  induction h with
  | nil s d => rfl
  | cons here rest ih =>
    rw [List.map_cons, List.map_cons, List.map_cons, here.spliced_fateOf, ih]

/-- **Every text of a course has a fate of its own.** -/
theorem Course.eq_map_fateOf {d after : Document} {leaves : List Leaf} {fates : List Fate} {s s' : Unit}
    (h : Course r Document.region (Dialogue.answering read) document s d leaves fates s' after) (hd : d.WellNumbered)
    (hl : Distinct d leaves) : fates = leaves.map (r.fateOf read document) := by
  refine eq_of_spliced_eq h.spliced_fateOf (h.not_mem_detached hd hl) fun segments hm => ?_
  obtain ⟨leaf, -, hleaf⟩ := List.mem_map.1 hm
  unfold fateOf at hleaf
  split at hleaf
  · split at hleaf <;> cases hleaf
  · cases hleaf

/-- a course keeps a document well numbered -/
theorem Course.wellNumbered {σ : Type} {host : σ → Text → Dialogue.Run σ Event FileAnswer} {d after : Document}
    {leaves : List Leaf} {fates : List Fate} {s s' : σ}
    (h : Course r Document.region host document s d leaves fates s' after) (hd : d.WellNumbered) :
    after.WellNumbered ∧ d.next ≤ after.next := by
  induction h with
  | nil s d => exact ⟨hd, le_rfl⟩
  | cons here rest ih =>
    cases here with
    | plain => exact ih hd
    | detached => exact ih hd
    | replaced _ _ _ hreplace =>
      obtain ⟨hafter, hle⟩ := ih (hd.replace hreplace)
      exact ⟨hafter, (Document.next_le_replace hreplace).trans hle⟩

/-- what a pass has done to a document: every candidate has its own fate, and its nodes are in its place -/
structure Passed (r : Resolver) (read : Text → FileAnswer) (document : Text) (d : Document) (o : Outcome Document) : Prop where
  report : o.report = Report.ofFates (d.candidates.map (r.fateOf read document))
  replaced : ReplacedBy d d.candidates (d.candidates.map (r.fateOf read document)) o.tree
  wellNumbered : o.tree.WellNumbered
  next_le : d.next ≤ o.tree.next

theorem passed_passOver {d : Document} (hd : d.WellNumbered) (h : (r.passOver read document d).stop = none) :
    Passed r read document d (r.passOver read document d) := by
  have hcandidates : Document.region.candidates d = d.candidates := rfl
  obtain ⟨fates, s', hcourse⟩ := exists_course_process hcandidates h
  have hl := distinct_candidates hd
  obtain rfl := hcourse.eq_map_fateOf hd hl
  obtain ⟨hwell, hle⟩ := hcourse.wellNumbered hd
  have hreport := congrArg Outcome.report (run_visitAll_of_course hcourse {}).1
  rw [Report.foldl_record, Report.empty_merge] at hreport
  refine ⟨?_, hcourse.replacedBy hd hl, hwell, hle⟩
  rw [passOver, result_process]
  exact hreport

/-- the nodes that a pass leaves are those of the fates in the places of the texts, but for their numbers -/
theorem Passed.alike {d : Document} {o : Outcome Document} (h : Passed r read document d o) (hd : d.WellNumbered) :
    Forest.Alike d.next o.tree.nodes
      (d.nodes.substitute (Document.laid d.next (r.fateOf read document) d.candidates)) := by
  rw [congrArg Document.nodes h.replaced.eq]
  exact Forest.substitute_alike (fun n hn => (hd.range n hn).2)
    (Document.placed_alike le_rfl (distinct_candidates hd).nodup (r.fateOf read document))

/-! ## Two passes -/

variable {d : Document} {a b : Forest.Place}

/-- nothing is put into the place of anything but a candidate -/
theorem placed_part_eq_none (hd : d.WellNumbered) (ha : a ∈ d.nodes.elements [Document.rootName]) (first : ℕ)
    (fates : List Fate) {id : ℕ} (hid : id ∉ a.children.numbers) :
    placed first ((d.part a.id).candidates.zip fates) id = none :=
  Document.placed_of_forall_ne fun _ hrow e => hid (e ▸ Document.id_mem_of_mem_candidates hd ha (List.of_mem_zip hrow).1)

/-- **A pass over one element leaves the candidates of the other one.** -/
theorem candidates_part (hd : d.WellNumbered) (ha : a ∈ d.nodes.elements [Document.rootName])
    (hb : b ∈ d.nodes.elements [Document.rootName]) (hapart : a.Apart b) {fates : List Fate} {after : Document}
    (h : ReplacedBy (d.part a.id) (d.part a.id).candidates fates after) :
    (after.part b.id).candidates = (d.part b.id).candidates := by
  have hnodes : after.nodes = d.nodes.substitute (placed d.next ((d.part a.id).candidates.zip fates)) :=
    congrArg Document.nodes h.eq
  have hverbatim : after.verbatim = d.verbatim := by
    rw [h.eq]
    rfl
  have htoken : after.token = d.token := by
    rw [h.eq]
    rfl
  -- what was put in has new numbers, and it was put in elsewhere
  have hnew : ∀ i g, placed d.next ((d.part a.id).candidates.zip fates) i = some g → b.id ∉ g.numbers := fun i g hg hmem =>
    absurd (Document.le_of_placed hg _ hmem) (Nat.not_le.2 (hd.range _ (Forest.mem_numbers_of_mem_elements hb)).2)
  have hinside : b.children.substitute (placed d.next ((d.part a.id).candidates.zip fates)) = b.children :=
    Forest.substitute_of_forall fun n hn =>
      placed_part_eq_none hd ha d.next fates fun hna => Forest.disjoint_of_apart hd.nodup ha hb hapart hna hn
  have hplace : (after.part b.id).place? = some b := by
    show (after.nodes.elements [Document.rootName]).find? _ = _
    rw [hnodes, Forest.find?_elements_substitute hnew, Forest.find?_elements hd.nodup hb, Option.map_some, hinside]
  have htexts : (after.part b.id).texts = (d.part b.id).texts := by
    have hroot : (after.part b.id).root = some b.id := rfl
    rw [Document.texts_part hd hb]
    simp only [Document.texts, hroot, hplace]
    rfl
  have hverbatim' : ∀ leaf, (after.part b.id).isVerbatim leaf = (d.part b.id).isVerbatim leaf := fun leaf => by
    show leaf.around.any after.verbatim.contains = leaf.around.any d.verbatim.contains
    rw [hverbatim]
  have htoken' : (after.part b.id).token = (d.part b.id).token := htoken
  simp only [Document.candidates, htexts, htoken', hverbatim']

/-- what two passes have done: each text of both elements has its own fate, and but for numbers its nodes are in its place -/
structure Twice (r : Resolver) (read : Text → FileAnswer) (document : Text) (d : Document) (a b : Forest.Place)
    (first second : Outcome Document) : Prop where
  report : first.report = Report.ofFates ((d.part a.id).candidates.map (r.fateOf read document))
  report' : second.report = Report.ofFates ((d.part b.id).candidates.map (r.fateOf read document))
  nodes : Forest.Alike d.next second.tree.nodes (d.nodes.substitute fun id =>
    (Document.laid d.next (r.fateOf read document) (d.part a.id).candidates id).or
      (Document.laid d.next (r.fateOf read document) (d.part b.id).candidates id))

/-- **A pass over one element and then one over the other.** -/
theorem twice_passOver (hd : d.WellNumbered) (ha : a ∈ d.nodes.elements [Document.rootName])
    (hb : b ∈ d.nodes.elements [Document.rootName]) (hapart : a.Apart b)
    (h : (r.passOver read document (d.part a.id)).stop = none)
    (h' : (r.passOver read document ((r.passOver read document (d.part a.id)).tree.part b.id)).stop = none) :
    Twice r read document d a b (r.passOver read document (d.part a.id))
      (r.passOver read document ((r.passOver read document (d.part a.id)).tree.part b.id)) := by
  have hda : (d.part a.id).WellNumbered := hd
  have hdb : (d.part b.id).WellNumbered := hd
  have hfirst := passed_passOver hda h
  have hwell : ((r.passOver read document (d.part a.id)).tree.part b.id).WellNumbered := hfirst.wellNumbered
  have hsecond := passed_passOver hwell h'
  have hcandidates := candidates_part hd ha hb hapart hfirst.replaced
  refine ⟨hfirst.report, hcandidates ▸ hsecond.report, ?_⟩
  -- the nodes after both passes, as one substitution after another
  have hmid : (r.passOver read document (d.part a.id)).tree.nodes = d.nodes.substitute (placed d.next
      ((d.part a.id).candidates.zip ((d.part a.id).candidates.map (r.fateOf read document)))) :=
    congrArg Document.nodes hfirst.replaced.eq
  have hnodes := congrArg Document.nodes hsecond.replaced.eq
  rw [hcandidates] at hnodes
  rw [hnodes]
  show Forest.Alike _ (Forest.substitute _ (r.passOver read document (d.part a.id)).tree.nodes) _
  rw [hmid]
  -- what the first pass puts in is not for the second pass to replace
  rw [Forest.substitute_substitute fun id nodes hput n hn => placed_part_eq_none hd hb _ _ fun hmem => ?_]
  · refine Forest.substitute_alike (fun n hn => (hd.range n hn).2) fun id => ?_
    have hle : d.next ≤ (r.passOver read document (d.part a.id)).tree.next := hfirst.next_le
    have hone := Document.placed_alike (le_refl d.next) (distinct_candidates hda).nodup (r.fateOf read document) id
    have htwo := Document.placed_alike hle (distinct_candidates hdb).nodup (r.fateOf read document) id
    rw [Option.map_or, Option.map_or]
    exact congrArg₂ Option.or hone htwo
  · have hlt := (hd.range n ((Forest.numbers_sublist_of_mem_elements hb).subset (List.mem_cons_of_mem _ hmem))).2
    exact absurd (Document.le_of_placed hput n hn) (Nat.not_le.2 hlt)

theorem laid_part_eq_none (hd : d.WellNumbered) (ha : a ∈ d.nodes.elements [Document.rootName]) {first id : ℕ}
    {fate : Leaf → Fate} (hid : id ∉ a.children.numbers) : Document.laid first fate (d.part a.id).candidates id = none :=
  Document.laid_of_forall_ne fun _ hl e => hid (e ▸ Document.id_mem_of_mem_candidates hd ha hl)

/-- the candidates of two elements inside of a document are candidates of it, behind each other -/
theorem candidates_append_sublist (hd : d.WellNumbered) (ha : a ∈ d.nodes.elements [Document.rootName])
    (hb : b ∈ d.nodes.elements [Document.rootName]) (hapart : a.Apart b) {c : Option ℕ}
    (hab : [a, b].Sublist (Document.elementsIn { d with root := c })) :
    ((d.part a.id).candidates ++ (d.part b.id).candidates).Sublist (Document.candidates { d with root := c }) := by
  have htexts := Document.texts_append_sublist hapart hab
  rw [← Document.texts_part hd ha, ← Document.texts_part hd hb] at htexts
  have hfilter := htexts.filter fun leaf => !leaf.content.isEmpty && Text.occurs d.token leaf.content && !d.isVerbatim leaf
  rw [List.filter_append] at hfilter
  exact hfilter

/-- texts that stand behind each other, and the only ones of which something is made -/
structure Covers (r : Resolver) (read : Text → FileAnswer) (document : Text) (front back all : List Leaf) : Prop where
  sublist : (front ++ back).Sublist all
  nodup : (all.map Leaf.id).Nodup
  only : ∀ leaf ∈ all, r.fateOf read document leaf ≠ .plain → leaf ∈ front ∨ leaf ∈ back

/-- what is put in for the texts of both is what is put in for all -/
theorem Covers.laid_eq {front back all : List Leaf} (h : Covers r read document front back all) (first id : ℕ) :
    (Document.laid first (r.fateOf read document) front id).or (Document.laid first (r.fateOf read document) back id) =
      Document.laid first (r.fateOf read document) all id := by
  have hnodup := (h.sublist.map Leaf.id).nodup h.nodup
  rw [List.map_append, List.nodup_append'] at hnodup
  obtain ⟨hfront, hback, hdisjoint⟩ := hnodup
  have hall : ∀ leaf, leaf ∈ front ∨ leaf ∈ back → leaf ∈ all := fun leaf hl => h.sublist.subset (List.mem_append.2 hl)
  by_cases hthere : ∃ leaf ∈ all, leaf.id = id
  · obtain ⟨leaf, hl, rfl⟩ := hthere
    rw [Document.laid_of_mem h.nodup hl]
    by_cases hinfront : leaf ∈ front
    · have hnot : ∀ other ∈ back, other.id ≠ leaf.id := fun other ho e =>
        hdisjoint (List.mem_map_of_mem hinfront) (e ▸ List.mem_map_of_mem ho)
      rw [Document.laid_of_mem hfront hinfront, Document.laid_of_forall_ne hnot, Option.or_none]
    · have hnot : ∀ other ∈ front, other.id ≠ leaf.id := fun other ho e =>
        hinfront (List.inj_on_of_nodup_map h.nodup (hall other (.inl ho)) hl e ▸ ho)
      rw [Document.laid_of_forall_ne hnot, Option.none_or]
      by_cases hinback : leaf ∈ back
      · exact Document.laid_of_mem hback hinback
      · have hnot' : ∀ other ∈ back, other.id ≠ leaf.id := fun other ho e =>
          hinback (List.inj_on_of_nodup_map h.nodup (hall other (.inr ho)) hl e ▸ ho)
        have hplain : r.fateOf read document leaf = .plain := by
          by_contra hsome
          exact (h.only leaf hl hsome).elim hinfront hinback
        rw [Document.laid_of_forall_ne hnot', hplain]
        rfl
  · have hnot : ∀ leaf ∈ all, leaf.id ≠ id := fun leaf hl e => hthere ⟨leaf, hl, e⟩
    rw [Document.laid_of_forall_ne fun leaf hl => hnot leaf (hall leaf (.inl hl)),
      Document.laid_of_forall_ne fun leaf hl => hnot leaf (hall leaf (.inr hl)), Document.laid_of_forall_ne hnot]
    rfl

/-- the texts of which something is made are the same ones, in the same order -/
theorem Covers.filter_eq {front back all : List Leaf} (h : Covers r read document front back all) :
    ((front ++ back).map (r.fateOf read document)).filter (!·.isPlain) =
      (all.map (r.fateOf read document)).filter (!·.isPlain) := by
  rw [List.filter_map, List.filter_map]
  refine congrArg _ ((h.sublist.filter _).eq_of_length_le (List.Subperm.length_le ?_))
  refine List.subperm_of_subset ((List.Nodup.of_map _ h.nodup).filter _) fun leaf hl => ?_
  obtain ⟨hall, hmade⟩ := List.mem_filter.1 hl
  refine List.mem_filter.2 ⟨List.mem_append.2 (h.only leaf hall fun hplain => ?_), hmade⟩
  rw [Function.comp_apply, hplain] at hmade
  cases hmade

/-- two lists of fates count the same where the same is made of their texts -/
theorem ofFates_eq_of_filter_eq {fates fates' : List Fate} (h : fates.filter (!·.isPlain) = fates'.filter (!·.isPlain)) :
    (Report.ofFates fates).blocks = (Report.ofFates fates').blocks ∧
    (Report.ofFates fates).errors = (Report.ofFates fates').errors ∧
    (Report.ofFates fates).leavesReplaced = (Report.ofFates fates').leavesReplaced ∧
    (Report.ofFates fates).failures = (Report.ofFates fates').failures := by
  have heq := congrArg Report.ofFates h
  rw [Report.ofFates_filter, Report.ofFates_filter] at heq
  obtain ⟨-, hreplaced, hblocks, herrors, hfailures⟩ := Report.mk.inj heq
  exact ⟨hblocks, herrors, hreplaced, hfailures⟩

/-- **Passes over parts that are apart commute.** Take two elements of a document, neither inside of the other, and a reader that
always gives the same answers. A pass over one and then one over the other, where all of them go through, leave the same nodes as
in the other order, but for the numbers of the nodes that were put in, and they give the same two reports. Where both elements
are inside of a third one or of the whole document, in this order, and every candidate with a directive is in one of the two, one
pass over all of it leaves the same nodes too, and what it reports but for the number of texts is what the two reports come to
when they are merged. -/
theorem process_commutes (r : Resolver) (read : Text → FileAnswer) (document : Text) (hd : d.WellNumbered)
    (ha : a ∈ d.nodes.elements [Document.rootName]) (hb : b ∈ d.nodes.elements [Document.rootName]) (hapart : a.Apart b) :
    let pass := r.passOver read document
    let first := pass (d.part a.id)
    let second := pass (first.tree.part b.id)
    first.stop = none → second.stop = none →
      (let first' := pass (d.part b.id)
        let second' := pass (first'.tree.part a.id)
        first'.stop = none → second'.stop = none →
          Forest.Alike d.next second.tree.nodes second'.tree.nodes ∧ second.tree.printAll = second'.tree.printAll ∧
          first.report = second'.report ∧ second.report = first'.report) ∧
      ∀ c : Option ℕ, [a, b].Sublist (Document.elementsIn { d with root := c }) →
        (∀ leaf ∈ Document.candidates { d with root := c }, Directive.scan leaf.content ≠ .ok [] →
          leaf ∈ (d.part a.id).texts ∨ leaf ∈ (d.part b.id).texts) →
        let whole := pass { d with root := c }
        whole.stop = none →
          Forest.Alike d.next second.tree.nodes whole.tree.nodes ∧ second.tree.printAll = whole.tree.printAll ∧
          let merged := first.report.merge second.report
          whole.report.blocks = merged.blocks ∧ whole.report.errors = merged.errors ∧
          whole.report.leavesReplaced = merged.leavesReplaced ∧ whole.report.failures = merged.failures := by
  intro pass first second hfirst hsecond
  have htwice : Twice r read document d a b first second := twice_passOver hd ha hb hapart hfirst hsecond
  refine ⟨?_, ?_⟩
  · intro first' second' hfirst' hsecond'
    have htwice' := twice_passOver hd hb ha hapart.symm hfirst' hsecond'
    have halike : Forest.Alike d.next second.tree.nodes second'.tree.nodes := by
      refine htwice.nodes.trans (Eq.trans ?_ htwice'.nodes.symm)
      refine congrArg (fun new => (d.nodes.substitute new).renumber (min d.next)) (funext fun id => ?_)
      -- no text is in both elements
      by_cases hid : id ∈ a.children.numbers
      · rw [laid_part_eq_none hd hb fun hmem => Forest.disjoint_of_apart hd.nodup ha hb hapart hid hmem, Option.or_none,
          Option.none_or]
      · rw [laid_part_eq_none hd ha hid, Option.or_none, Option.none_or]
    exact ⟨halike, halike.print_eq _, htwice.report.trans htwice'.report'.symm, htwice.report'.trans htwice'.report.symm⟩
  · intro c hab honly whole hwhole
    have hc : Document.WellNumbered { d with root := c } := hd
    have hpassed := passed_passOver hc hwhole
    have hcovers : Covers r read document (d.part a.id).candidates (d.part b.id).candidates
        (Document.candidates { d with root := c }) := by
      refine ⟨candidates_append_sublist hd ha hb hapart hab, (distinct_candidates hc).nodup, fun leaf hl hmade => ?_⟩
      have hscan : Directive.scan leaf.content ≠ .ok [] := fun hnil => hmade (fateOf_of_scan_nil r read document hnil)
      exact (honly leaf hl hscan).imp (fun htext => List.mem_filter.2 ⟨htext, (List.mem_filter.1 hl).2⟩)
        fun htext => List.mem_filter.2 ⟨htext, (List.mem_filter.1 hl).2⟩
    have halike : Forest.Alike d.next second.tree.nodes whole.tree.nodes := by
      refine htwice.nodes.trans (Eq.trans ?_ (hpassed.alike hc).symm)
      exact congrArg (fun new => (d.nodes.substitute new).renumber (min d.next)) (funext (hcovers.laid_eq d.next))
    refine ⟨halike, halike.print_eq _, ?_⟩
    have hreport := ofFates_eq_of_filter_eq hcovers.filter_eq.symm
    rwa [List.map_append, Report.ofFates_append, ← htwice.report, ← htwice.report', ← hpassed.report] at hreport

/-- two paragraphs with a directive each -/
def pageOfTwo : Document :=
  { page with
    nodes := .element 0 "div".toList [] (.element 1 ['p'] [] (.text 2 pageLeaf.content .nil)
      (.element 3 ['p'] [] (.text 4 pageLeaf.content .nil) .nil)) .nil
    next := 5 }

/-- a paragraph of it -/
def paragraph (id : ℕ) : Forest.Place :=
  { id, name := ['p'], attributes := [], children := .text (id + 1) pageLeaf.content .nil,
    around := ["div".toList, Document.rootName] }

/-- a pass over texts like the one on the page completes -/
theorem stop_of_pageLeaf {d : Document} (h : ∀ leaf ∈ d.candidates, leaf.content = pageLeaf.content) (read : Text → FileAnswer) :
    (bareResolver.passOver read [] d).stop = none := by
  have hclear : bareResolver.Clear pageLeaf.content := by
    refine clear_pageLeaf (shows_of_fitting (by decide) fun language text html hhtml => ?_)
    obtain rfl := Except.ok.inj hhtml
    exact Markup.Fitting.nil
  exact stop_process (fun leaf hl => h leaf hl ▸ hclear) ()

/-- both orders and the pass over both paragraphs come to the same -/
theorem process_commutes_paragraphs :
    let pass := bareResolver.passOver (fun _ => .ok (some ['x'])) []
    let first := pass (pageOfTwo.part 1)
    let second := pass (first.tree.part 3)
    let second' := pass ((pass (pageOfTwo.part 3)).tree.part 1)
    second.tree.printAll = second'.tree.printAll ∧ first.report = second'.report ∧
      second.tree.printAll = (pass pageOfTwo).tree.printAll ∧
      (pass pageOfTwo).report.failures = (first.report.merge second.report).failures := by
  intro pass first second second'
  have hwell : pageOfTwo.WellNumbered := ⟨by decide, by decide, by decide⟩
  have hwell₁ : (pageOfTwo.part 1).WellNumbered := hwell
  have hwell₃ : (pageOfTwo.part 3).WellNumbered := hwell
  have hone : paragraph 1 ∈ pageOfTwo.nodes.elements [Document.rootName] := by decide
  have hthree : paragraph 3 ∈ pageOfTwo.nodes.elements [Document.rootName] := by decide
  have hapart : (paragraph 1).Apart (paragraph 3) := ⟨by decide, by decide, by decide⟩
  have hfirst : first.stop = none := stop_of_pageLeaf (by decide) _
  have hfirst' : (pass (pageOfTwo.part 3)).stop = none := stop_of_pageLeaf (by decide) _
  have hsecond : second.stop = none := by
    have hcandidates : (first.tree.part 3).candidates = (pageOfTwo.part 3).candidates :=
      candidates_part hwell hone hthree hapart (passed_passOver hwell₁ hfirst).replaced
    exact stop_of_pageLeaf (hcandidates ▸ by decide) _
  have hsecond' : second'.stop = none := by
    have hcandidates : ((pass (pageOfTwo.part 3)).tree.part 1).candidates = (pageOfTwo.part 1).candidates :=
      candidates_part hwell hthree hone hapart.symm (passed_passOver hwell₃ hfirst').replaced
    exact stop_of_pageLeaf (hcandidates ▸ by decide) _
  obtain ⟨hswap, hwhole⟩ := process_commutes bareResolver _ [] hwell hone hthree hapart hfirst hsecond
  obtain ⟨-, hprint, hreport, -⟩ := hswap hfirst' hsecond'
  obtain ⟨-, hprint', -, -, -, hfailures⟩ := hwhole none (by decide) (by decide) (stop_of_pageLeaf (by decide) _)
  exact ⟨hprint, hreport, hprint', hfailures⟩

end Resolver

end Transclude
