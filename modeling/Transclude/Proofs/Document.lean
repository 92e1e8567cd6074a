/-
Documents whose nodes are numbered, and their texts.

A document is well numbered when its nodes have distinct numbers below the next one. Every document is: one that is read
from markup is (`wellNumbered_ofMarkup`), and taking a part of it, replacing a text and removing one keep it so.

- `replace_of_mem`: a text that is in the document is replaced by the nodes of the pieces, which have new numbers.
- `exists_nodesOf_iff`, `mem_texts_nodesOf`: pieces can be put into a document when each of them can, and what is put in has the
  texts of the pieces.
- `texts_sublist_allTexts`: the texts of a part are texts of the whole, in the same order and with all elements around them.
- `texts_substitute_nodes`: after a substitution for texts of the document, its texts are those that were not replaced and those
  that were put in, also where the document is a part of the markup.
-/
import Transclude.Document
import Transclude.Proofs.Failing
import Transclude.Proofs.Markup.Numbering

namespace Transclude

open Markup (Forest Leaf Fresh)

/-! ## Texts of a part -/

/-- the texts of an element are texts of the forest, with the same elements around them -/
theorem Markup.Forest.texts_children_sublist {around : List Text} {f : Forest} {e : Forest.Place}
    (h : e ∈ f.elements around) : (e.children.texts (e.name :: e.around)).Sublist (f.texts around) := by
  induction f generalizing around with
  | nil => simp [Forest.elements] at h
  | text id content next ih => exact (ih h).cons _
  | special id kind content next ih => exact ih h
  | element id name attributes children next ihc ih =>
    rcases List.mem_cons.1 h with rfl | h
    · exact List.sublist_append_left _ _
    · rcases List.mem_append.1 h with h | h
      · exact (ihc h).trans (List.sublist_append_left _ _)
      · exact (ih h).trans (List.sublist_append_right _ _)

/-- the texts inside of an element -/
def Markup.Forest.Place.texts (e : Forest.Place) : List Leaf := e.children.texts (e.name :: e.around)

/-- the numbers of texts are numbers of nodes -/
theorem Markup.Forest.ids_sublist_numbers (around : List Text) (f : Forest) :
    ((f.texts around).map Leaf.id).Sublist f.numbers := by
  induction f generalizing around with
  | nil => exact .slnil
  | text id content next ih => exact (ih around).cons_cons id
  | special id kind content next ih => exact (ih around).cons id
  | element id name attributes children next ihc ih =>
    rw [Forest.texts, List.map_append]
    exact ((ihc _).append (ih around)).cons id

namespace Document

theorem texts_sublist_allTexts (d : Document) : d.texts.Sublist d.allTexts := by
  unfold texts
  split
  · exact .refl _
  · split
    · rename_i id hid e he
      obtain ⟨_, -, hfind⟩ := Option.bind_eq_some_iff.1 he
      exact Forest.texts_children_sublist (List.mem_of_find?_eq_some hfind)
    · exact List.nil_sublist _

theorem candidates_sublist_allTexts (d : Document) : d.candidates.Sublist d.allTexts :=
  List.filter_sublist.trans d.texts_sublist_allTexts

theorem mem_candidates_iff {d : Document} {leaf : Leaf} :
    leaf ∈ d.candidates ↔ leaf ∈ d.texts ∧ leaf.content ≠ [] ∧ Text.occurs d.token leaf.content = true ∧
      ∀ name ∈ leaf.around, name ∉ d.verbatim := by
  simp only [candidates, List.mem_filter, Bool.and_eq_true, Bool.not_eq_true', List.isEmpty_eq_false_iff, isVerbatim,
    List.any_eq_false, List.contains_eq_mem, decide_eq_true_eq, and_assoc]

/-! ## Numbers -/

/-- the nodes have distinct numbers below the next one -/
def WellNumbered (d : Document) : Prop := Fresh 0 d.next d.nodes.numbers

/-- in a well numbered document a text is told by its number -/
theorem WellNumbered.nodup_ids {d : Document} (h : d.WellNumbered) : (d.allTexts.map Leaf.id).Nodup :=
  (Forest.ids_sublist_numbers _ d.nodes).nodup h.nodup

theorem WellNumbered.eq_of_id_eq {d : Document} (h : d.WellNumbered) {leaf leaf' : Leaf} (hl : leaf ∈ d.allTexts)
    (hl' : leaf' ∈ d.allTexts) (hid : leaf.id = leaf'.id) : leaf = leaf' :=
  List.inj_on_of_nodup_map h.nodup_ids hl hl' hid

theorem wellNumbered_ofMarkup {source : Text} {tags : List Text} {token : Text} {d : Document}
    (h : ofMarkup source tags token = .ok d) : d.WellNumbered := by
  obtain ⟨⟨nodes, next⟩, hp, rfl⟩ := Markup.Token.eq_of_map_eq_ok h
  exact Markup.fresh_parse hp

theorem WellNumbered.within? {d part : Document} {name : Text} (h : d.WellNumbered) (hp : d.within? name = some part) :
    part.WellNumbered := by
  obtain ⟨e, -, rfl⟩ := Option.map_eq_some_iff.1 hp
  exact h

theorem WellNumbered.remove {d : Document} (h : d.WellNumbered) (id : ℕ) : (d.remove id).WellNumbered := by
  refine ⟨h.le, Forest.nodup_replaceText id h.nodup .nil (by simp [Forest.numbers]), fun n hn => ?_⟩
  rcases Forest.mem_numbers_replaceText hn with hn | hn
  · exact h.range n hn
  · simp [Forest.numbers] at hn

theorem nodes_markup_eq_ok_iff {first : ℕ} {source : Text} {here : Forest × ℕ} :
    (Piece.markup source).nodes first = .ok here ↔ Markup.parse first source = .ok here := by
  rw [Piece.nodes, mapError_eq_ok_iff]

theorem nodesOf_cons_eq_ok_iff {first : ℕ} {p : Piece} {pieces : List Piece} {all : Forest × ℕ} :
    nodesOf first (p :: pieces) = .ok all ↔ ∃ here rest, p.nodes first = .ok here ∧ nodesOf here.2 pieces = .ok rest ∧
      all = (here.1 ++ rest.1, rest.2) := by
  rw [nodesOf]
  constructor
  · intro h
    cases hhere : p.nodes first with
    | error e =>
      rw [hhere] at h
      cases h
    | ok here =>
      cases hrest : nodesOf here.2 pieces with
      | error e =>
        simp only [hhere, bind, Except.bind, hrest] at h
        cases h
      | ok rest =>
        simp only [hhere, bind, Except.bind, hrest] at h
        exact ⟨here, rest, rfl, hrest, (Except.ok.inj h).symm⟩
  · rintro ⟨here, rest, hhere, hrest, rfl⟩
    simp only [hhere, bind, Except.bind, hrest]
    rfl

/-- the nodes of a piece have new numbers -/
theorem fresh_nodes {first next : ℕ} {p : Piece} {f : Forest} (h : p.nodes first = .ok (f, next)) :
    Fresh first next f.numbers := by
  cases p with
  | text content =>
    cases h
    exact (Fresh.nil _).cons
  | markup source => exact Markup.fresh_parse (nodes_markup_eq_ok_iff.1 h)
  | foreign typeName => cases h

theorem fresh_nodesOf {first next : ℕ} {pieces : List Piece} {f : Forest} (h : nodesOf first pieces = .ok (f, next)) :
    Fresh first next f.numbers := by
  induction pieces generalizing first f next with
  | nil =>
    cases h
    exact Fresh.nil _
  | cons p pieces ih =>
    obtain ⟨here, rest, hhere, hrest, heq⟩ := nodesOf_cons_eq_ok_iff.1 h
    obtain ⟨rfl, rfl⟩ := Prod.mk.inj heq
    rw [Forest.numbers_append]
    exact (fresh_nodes hhere).append (ih hrest)

/-! ## Which pieces have nodes -/

/-- a piece is markup if it is a markup text at all -/
def Piece.IsMarkup : Piece → Prop
  | .text _ => True
  | .markup source => ∃ tokens, Markup.Token.ofText source = .ok tokens
  | .foreign _ => False

theorem exists_parse_iff (first : ℕ) {t : Text} :
    (∃ parsed, Markup.parse first t = .ok parsed) ↔ ∃ tokens, Markup.Token.ofText t = .ok tokens := by
  rw [Markup.parse, exists_map_eq_ok_iff]

theorem exists_nodes_iff (first : ℕ) {p : Piece} : (∃ nodes, p.nodes first = .ok nodes) ↔ p.IsMarkup := by
  cases p with
  | text content =>
    constructor
    · intro _
      trivial
    · intro _
      exact ⟨_, rfl⟩
  | markup source =>
    rw [Piece.IsMarkup, ← exists_parse_iff first]
    exact exists_congr fun _ => nodes_markup_eq_ok_iff
  | foreign typeName =>
    constructor
    · rintro ⟨nodes, h⟩
      cases h
    · intro h
      exact h.elim

/-- pieces can be put into a document when each of them can -/
theorem exists_nodesOf_iff {first : ℕ} {pieces : List Piece} :
    (∃ nodes, nodesOf first pieces = .ok nodes) ↔ ∀ p ∈ pieces, p.IsMarkup := by
  induction pieces generalizing first with
  | nil => exact ⟨fun _ => List.forall_mem_nil _, fun _ => ⟨_, rfl⟩⟩
  | cons p pieces ih =>
    rw [List.forall_mem_cons]
    constructor
    · rintro ⟨all, h⟩
      obtain ⟨here, rest, hhere, hrest, -⟩ := nodesOf_cons_eq_ok_iff.1 h
      exact ⟨(exists_nodes_iff first).1 ⟨here, hhere⟩, ih.1 ⟨rest, hrest⟩⟩
    · rintro ⟨hp, hpieces⟩
      obtain ⟨here, hhere⟩ := (exists_nodes_iff first).2 hp
      have hmore : ∃ rest, nodesOf here.2 pieces = .ok rest := ih.2 hpieces
      obtain ⟨rest, hrest⟩ := hmore
      exact ⟨_, nodesOf_cons_eq_ok_iff.2 ⟨here, rest, hhere, hrest, rfl⟩⟩

/-- the texts of what is put in are the texts of its pieces -/
theorem mem_texts_nodesOf {first : ℕ} {pieces : List Piece} {all : Forest × ℕ} {around : List Text} {leaf : Leaf}
    (h : nodesOf first pieces = .ok all) (hl : leaf ∈ all.1.texts around) :
    ∃ p ∈ pieces, ∃ first' here, p.nodes first' = .ok here ∧ leaf ∈ here.1.texts around := by
  induction pieces generalizing first all with
  | nil =>
    cases h
    exact absurd hl List.not_mem_nil
  | cons p pieces ih =>
    obtain ⟨here, rest, hhere, hrest, rfl⟩ := nodesOf_cons_eq_ok_iff.1 h
    rw [Forest.texts_append] at hl
    rcases List.mem_append.1 hl with hl | hl
    · exact ⟨p, List.mem_cons_self, first, here, hhere, hl⟩
    · obtain ⟨p', hp', hnodes⟩ := ih hrest hl
      exact ⟨p', List.mem_cons_of_mem p hp', hnodes⟩

/-! ## Parts -/

/-- the document that is made of one element -/
def part (d : Document) (id : ℕ) : Document := { d with root := some id }

theorem place?_part {d : Document} (hd : d.WellNumbered) {e : Forest.Place} (he : e ∈ d.nodes.elements [rootName]) :
    (d.part e.id).place? = some e :=
  Forest.find?_elements hd.nodup he

theorem texts_part {d : Document} (hd : d.WellNumbered) {e : Forest.Place} (he : e ∈ d.nodes.elements [rootName]) :
    (d.part e.id).texts = e.texts := by
  have hroot : (d.part e.id).root = some e.id := rfl
  simp only [texts, hroot, place?_part hd he]
  rfl

/-! ## Replacing a text -/

theorem find?_isSome_of_mem {d : Document} {leaf : Leaf} (h : leaf ∈ d.allTexts) : (d.find? leaf.id).isSome = true :=
  List.find?_isSome.2 ⟨leaf, h, beq_self_eq_true leaf.id⟩

/-- **A text that is there is replaced** by the nodes of the pieces, and only the next number changes besides. -/
theorem replace_of_mem {d d' : Document} {leaf : Leaf} {pieces : List Piece} {done : Bool} (hl : leaf ∈ d.allTexts)
    (h : d.replace leaf.id pieces = .ok (done, d')) :
    done = true ∧ ∃ nodes, nodesOf d.next pieces = .ok (nodes, d'.next) ∧
      d' = { d with nodes := Forest.replaceText leaf.id nodes d.nodes, next := d'.next } := by
  obtain ⟨found, hf⟩ := Option.isSome_iff_exists.1 (find?_isSome_of_mem hl)
  simp only [replace, hf] at h
  obtain ⟨⟨nodes, next⟩, hn, he⟩ := Markup.Token.eq_of_map_eq_ok h
  cases he
  exact ⟨rfl, nodes, hn, rfl⟩

/-- replacing keeps a document well numbered -/
theorem WellNumbered.replaceText {d : Document} (h : d.WellNumbered) (id : ℕ) {next : ℕ} {nodes : Forest}
    (hn : Fresh d.next next nodes.numbers) :
    WellNumbered { d with nodes := Forest.replaceText id nodes d.nodes, next } := by
  refine ⟨Nat.zero_le next, Forest.nodup_replaceText id h.nodup hn.nodup fun n ho hm => ?_, fun n hm => ?_⟩
  · have := h.range n ho
    have := hn.range n hm
    omega
  · refine ⟨Nat.zero_le n, ?_⟩
    rcases Forest.mem_numbers_replaceText hm with hm | hm
    · exact (h.range n hm).2.trans_le hn.le
    · exact (hn.range n hm).2

theorem WellNumbered.replace {d d' : Document} {id : ℕ} {pieces : List Piece} {done : Bool} (h : d.WellNumbered)
    (hr : d.replace id pieces = .ok (done, d')) : d'.WellNumbered := by
  unfold Document.replace at hr
  split at hr
  · cases hr
    exact h
  · obtain ⟨⟨nodes, next⟩, hn, he⟩ := Markup.Token.eq_of_map_eq_ok hr
    cases he
    exact h.replaceText id (fresh_nodesOf hn)

/-! ## Replacing many texts -/

/-- the element that a document is made of has a number of the document -/
theorem WellNumbered.lt_of_place? {d : Document} (h : d.WellNumbered) {id : ℕ} (hroot : d.root = some id) {e : Forest.Place}
    (he : d.place? = some e) : id < d.next := by
  obtain ⟨id', hid, hfind⟩ := Option.bind_eq_some_iff.1 he
  obtain rfl := Option.some.inj (hroot.symm.trans hid)
  have hmem := Forest.mem_numbers_of_mem_elements (List.mem_of_find?_eq_some hfind)
  have hnumber := List.find?_some hfind
  rw [beq_iff_eq] at hnumber
  exact (h.range id (hnumber ▸ hmem)).2

/-- **The texts after a substitution.** Where nodes with new numbers take the place of some texts of a document, its texts are
those that are not replaced and those that were put in, in place. -/
theorem texts_substitute_nodes {d : Document} (h : d.WellNumbered) {new : ℕ → Option Forest}
    (hfresh : ∀ id nodes, new id = some nodes → ∀ n ∈ nodes.numbers, d.next ≤ n)
    (honly : ∀ id, (∀ leaf ∈ d.texts, leaf.id ≠ id) → new id = none) (next : ℕ) :
    texts { d with nodes := d.nodes.substitute new, next } = d.texts.flatMap (Forest.textsFor new) := by
  rcases Option.eq_none_or_eq_some d.root with hroot | ⟨id, hroot⟩
  · simp only [texts, hroot]
    exact Forest.texts_substitute new _ d.nodes
  rcases Option.eq_none_or_eq_some d.place? with hplace | ⟨e, hplace⟩
  · -- a part that is not there has no texts, so nothing is put in
    have hnil : d.texts = [] := by simp only [texts, hroot, hplace]
    have hnone : new = fun _ => none := funext fun i => honly i fun leaf hl => absurd (hnil ▸ hl) List.not_mem_nil
    rw [hnone, Forest.substitute_none, hnil, List.flatMap_nil]
    exact hnil
  · have hid := h.lt_of_place? hroot hplace
    have hold : ∀ i g, new i = some g → id ∉ g.numbers := fun i g hg hn => absurd (hfresh i g hg id hn) (Nat.not_le.2 hid)
    have htexts : d.texts = e.children.texts (e.name :: e.around) := by simp only [texts, hroot, hplace]
    have hfind : (d.nodes.elements [rootName]).find? (fun e => e.id == id) = some e := by
      rw [place?, hroot] at hplace
      exact hplace
    have hthere := Forest.find?_elements_substitute hold [rootName] d.nodes
    rw [hfind] at hthere
    rw [htexts]
    simp only [texts, hroot, place?, Option.bind_some, hthere, Option.map_some]
    exact Forest.texts_substitute new _ e.children

end Document

end Transclude
