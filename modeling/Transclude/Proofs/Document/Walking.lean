/-
The candidates of a document, told by a walk.

A document asks every text of its root for the names of all elements around it, up to the whole markup. A walk goes the other way,
from the root down, and does not enter an element that it could keep nothing of. The names around a text are those on the way down
to it, so both find the same texts, unless an element around the root is verbatim: the walk does not see that one.

- `Forest.filter_texts`: below elements that are not verbatim, the test from below keeps what the walk keeps.
- `candidates_walk`: the candidates of every root of a document are the texts that the walk keeps, in document order and each once,
  and there are none when the root or an element around it is verbatim.
- `not_candidates_walk`: the walk has to leave out texts with nothing in them, which hold every token that is empty.
-/
import Transclude.Proofs.Document

namespace Transclude

open Markup (Forest Leaf)

/-! ## Walks -/

namespace Markup.Forest

/-- the texts that a walk comes to, in document order: it keeps those with a content that it likes, and enters no element with one
of the names in `closed` -/
def walk (closed : List Text) (likes : Text → Bool) (around : List Text) : Forest → List Leaf
  | nil => []
  | text id content next =>
    if likes content then { id, content, around } :: next.walk closed likes around else next.walk closed likes around
  | special _ _ _ next => next.walk closed likes around
  | element _ name _ children next =>
    if name ∈ closed then next.walk closed likes around
    else children.walk closed likes (name :: around) ++ next.walk closed likes around

/-- the elements around a forest are around each of its texts -/
theorem suffix_of_mem_texts {around : List Text} {f : Forest} {leaf : Leaf} (h : leaf ∈ f.texts around) :
    around <:+ leaf.around := by
  induction f generalizing around with
  | nil => exact absurd h List.not_mem_nil
  | text id content next ih =>
    rcases List.mem_cons.1 h with rfl | h
    · exact List.suffix_rfl
    · exact ih h
  | special id kind content next ih => exact ih h
  | element id name attributes children next ihc ih =>
    rcases List.mem_append.1 h with h | h
    · exact (List.suffix_cons name around).trans (ihc h)
    · exact ih h

variable {closed : List Text} {likes : Text → Bool}

/-- inside of a closed element nothing is kept -/
theorem filter_texts_of_mem {around : List Text} {name : Text} (hname : name ∈ around) (hclosed : name ∈ closed) (f : Forest) :
    (f.texts around).filter (fun leaf => likes leaf.content && !leaf.around.any closed.contains) = [] := by
  refine List.filter_eq_nil_iff.2 fun leaf hleaf hkept => ?_
  have hany : leaf.around.any closed.contains = true :=
    List.any_eq_true.2 ⟨name, (suffix_of_mem_texts hleaf).subset hname, List.contains_iff_mem.2 hclosed⟩
  simp [hany] at hkept

/-- **Asking from below and walking from above keep the same texts**, where no element around the forest is closed. -/
theorem filter_texts {around : List Text} (haround : ∀ name ∈ around, name ∉ closed) (f : Forest) :
    (f.texts around).filter (fun leaf => likes leaf.content && !leaf.around.any closed.contains) =
      f.walk closed likes around := by
  induction f generalizing around with
  | nil => rfl
  | text id content next ih =>
    have hopen : around.any closed.contains = false :=
      List.any_eq_false.2 fun name hname => by simpa using haround name hname
    rw [texts, walk, List.filter_cons, ih haround]
    simp [hopen]
  | special id kind content next ih => exact ih haround
  | element id name attributes children next ihc ih =>
    rw [texts, walk, List.filter_append, ih haround]
    split
    · rename_i hclosed
      rw [filter_texts_of_mem List.mem_cons_self hclosed, List.nil_append]
    · rename_i hopen
      rw [ihc (List.forall_mem_cons.2 ⟨hopen, haround⟩)]

end Markup.Forest

namespace Document

/-! ## Roots -/

/-- what a document is made of, seen from inside: its name, the names of the elements around it, and the nodes in it -/
inductive Rooted (d : Document) : (name : Text) → (around : List Text) → (nodes : Forest) → Prop
  | whole (h : d.root = none) : Rooted d rootName [] d.nodes
  | element {e : Forest.Place} (h : d.root = some e.id) (he : e ∈ d.nodes.elements [rootName]) :
    Rooted d e.name e.around e.children

theorem Rooted.texts_eq {d : Document} {name : Text} {around : List Text} {nodes : Forest} (hd : d.WellNumbered)
    (h : d.Rooted name around nodes) : d.texts = nodes.texts (name :: around) := by
  cases h with
  | whole h => simp only [texts, h, allTexts]
  | @element e h he =>
    have hpart : d = d.part e.id := by rw [part, ← h]
    rw [hpart]
    exact texts_part (d := d) hd he

/-- the content may hold a directive: it holds something, and the token -/
def likes (d : Document) (content : Text) : Bool := !content.isEmpty && Text.occurs d.token content

/-- **The candidates of a document are the texts that a walk keeps**, from its root on, where the walk enters no element whose text is
never prose and none of the verbatim ones, in lower case, and keeps the texts that are not empty and hold the token. They are in
document order and no text is among them twice. When the root itself or an element around it is one of those, there are none. -/
theorem candidates_walk {d : Document} {tags : List Text} (hd : d.WellNumbered)
    (htags : d.verbatim = tags.map Text.lower ++ nonText) {name : Text} {around : List Text} {nodes : Forest}
    (h : d.Rooted name around nodes) :
    ((∀ n ∈ name :: around, n ∉ tags.map Text.lower ++ nonText) →
      d.candidates = nodes.walk (tags.map Text.lower ++ nonText) d.likes (name :: around)) ∧
    ((∃ n ∈ name :: around, n ∈ tags.map Text.lower ++ nonText) → d.candidates = []) ∧
    d.candidates.Sublist d.allTexts ∧ (d.candidates.map Leaf.id).Nodup := by
  have hcandidates : d.candidates = (nodes.texts (name :: around)).filter fun leaf =>
      d.likes leaf.content && !leaf.around.any (tags.map Text.lower ++ nonText).contains := by
    rw [candidates, h.texts_eq hd, ← htags]
    rfl
  have hsub := d.candidates_sublist_allTexts
  refine ⟨fun hopen => ?_, ?_, hsub, (hsub.map Leaf.id).nodup hd.nodup_ids⟩
  · rw [hcandidates, Forest.filter_texts hopen]
  · rintro ⟨n, hn, hclosed⟩
    rw [hcandidates, Forest.filter_texts_of_mem hn hclosed]

/-- the token in prose, in an emphasis inside of a verbatim element, in a comment, and in a paragraph -/
def nestedNodes : Forest :=
  .text 1 "@import".toList
    (.element 2 "pre".toList [] (.element 3 "em".toList [] (.text 4 "@import".toList .nil) .nil)
      (.special 5 .comment "@import".toList
        (.element 6 "p".toList [] (.text 7 "see @import".toList .nil) .nil)))

/-- a division with these nodes in it -/
def nested : Document where
  nodes := .element 0 "div".toList [] nestedNodes .nil
  root := some 0
  next := 8
  verbatim := "pre".toList :: nonText
  token := Directive.keyword

/-- from the division the walk keeps two texts; from the emphasis it would keep one, but the verbatim element is around that -/
theorem candidates_walk_nested :
    nested.candidates = nestedNodes.walk ("pre".toList :: nonText) nested.likes ["div".toList, rootName] ∧
    nested.candidates.map Leaf.id = [1, 7] ∧ (nested.part 3).candidates = [] := by
  let division : Forest.Place := ⟨0, "div".toList, [], nestedNodes, [rootName]⟩
  let emphasis : Forest.Place := ⟨3, "em".toList, [], .text 4 "@import".toList .nil, ["pre".toList, "div".toList, rootName]⟩
  have hnumbered : nested.WellNumbered := ⟨by decide, by decide, by decide⟩
  have htags : nested.verbatim = ["pre".toList].map Text.lower ++ nonText := by decide +kernel
  have hdivision : nested.Rooted _ _ _ := .element (e := division) rfl (by decide +kernel)
  have hemphasis : (nested.part 3).Rooted _ _ _ := .element (e := emphasis) rfl (by decide +kernel)
  have hwalk := (candidates_walk hnumbered htags hdivision).1 (by decide +kernel)
  have hnone := (candidates_walk (d := nested.part 3) hnumbered htags hemphasis).2.1 ⟨"pre".toList, by decide +kernel⟩
  rw [← htags] at hwalk
  exact ⟨hwalk, by decide +kernel, hnone⟩

/-- a paragraph with an empty text in it, where the token is empty -/
def hollow : Document where
  nodes := .element 0 ['p'] [] (.text 1 [] .nil) .nil
  next := 2
  verbatim := nonText
  token := []

/-- **An empty text is no candidate**, though it holds the empty token: a walk that keeps every text with the token keeps more. -/
theorem not_candidates_walk :
    ¬ ∀ (d : Document) (tags : List Text) (name : Text) (around : List Text) (nodes : Forest), d.WellNumbered →
      d.verbatim = tags.map Text.lower ++ nonText → d.Rooted name around nodes →
      (∀ n ∈ name :: around, n ∉ tags.map Text.lower ++ nonText) →
      d.candidates = nodes.walk (tags.map Text.lower ++ nonText) (Text.occurs d.token) (name :: around) := by
  intro h
  have hnumbered : hollow.WellNumbered := ⟨by decide, by decide, by decide⟩
  have hwalk := h hollow [] rootName [] hollow.nodes hnumbered rfl (.whole rfl) (by decide)
  have hnone : hollow.candidates = [] := rfl
  have hone : hollow.nodes.walk ([].map Text.lower ++ nonText) (Text.occurs hollow.token) [rootName] =
      [{ id := 1, content := [], around := [['p'], rootName] }] := by decide
  rw [hnone, hone] at hwalk
  cases hwalk

end Document

end Transclude
