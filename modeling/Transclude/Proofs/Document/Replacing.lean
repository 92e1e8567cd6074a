/-
Replacing a text in place.

`replace` makes a new document at once. Where a document is changed in place, a replacement is a course of steps: to look where the
text is, to make the nodes of all pieces, to take the text out, and to put the new nodes in one by one, each at an index among the
children of the same element. A step that refuses leaves behind whatever the steps before it have done, and an index only means the
right place as long as everything in front of it is where it was.

- `replaceInPlace_eq`: the course ends like `replace`, and where it refuses nothing has been done yet.
- `replaceInPlace_atomic`: the three ends of the course. The new nodes fill the gap that the text leaves, in the order of the pieces,
  and nothing else is touched.
-/
import Transclude.Proofs.Document
import Transclude.Proofs.Markup.Gap
import Transclude.Proofs.Markup.Lexing

namespace Transclude.Document

open Markup (Forest Fresh Gap)

/-! ## The course -/

/-- puts nodes in one after another, the first one at an index among the children of `parent` -/
def putIn (parent : Option ℕ) (index : ℕ) : List Forest → StateM Document Unit
  | [] => pure ()
  | node :: nodes => do
    modify fun d => { d with nodes := Forest.insertIn parent index node none d.nodes }
    putIn parent (index + 1) nodes

/-- replaces the text `id` by the nodes of some pieces, step by step -/
def replaceInPlace (id : ℕ) (pieces : List Piece) : ExceptT Refusal (StateM Document) Bool := do
  let d ← get
  match d.nodes.position? id none 0 with
  | none => return false
  | some (parent, index) =>
    let (nodes, next) ← ofExcept (nodesOf d.next pieces)
    modify fun d => { d.remove id with next }
    putIn parent index nodes.siblings
    return true

/-- the answer to a replacement that is done in place, and the document that is left behind -/
def inPlace (d : Document) (id : ℕ) (pieces : List Piece) : Except Refusal Bool × Document :=
  (replaceInPlace id pieces).run.run d

/-- the answer to a replacement, and the new document or, if it is refused, the old one -/
def settle (d : Document) : Except Refusal (Bool × Document) → Except Refusal Bool × Document
  | .ok (done, d') => (.ok done, d')
  | .error refusal => (.error refusal, d)

/-- **Nodes that are put in one by one** end up in the gap, behind what was in it. -/
theorem run_putIn {d : Document} {gap : Gap} {f : Forest} {nodes : List Forest} (hgap : gap.numbers.Nodup)
    (hnodes : ∀ node ∈ nodes, node.size = 1) (hd : d.nodes = gap.fill f) :
    (putIn (gap.parent none) (gap.index + f.size) nodes).run d =
      ((), { d with nodes := gap.fill (f ++ Forest.concat nodes) }) := by
  induction nodes generalizing d f with
  | nil =>
    rw [Forest.concat, Forest.append_nil, ← hd]
    rfl
  | cons node nodes ih =>
    obtain ⟨hnode, hrest⟩ := List.forall_mem_cons.1 hnodes
    have hinsert : Forest.insertIn (gap.parent none) (gap.index + f.size) node none d.nodes = gap.fill (f ++ node) := by
      rw [hd]
      exact Gap.insertIn_fill f node hgap fun i _ => Option.some_ne_none i
    have hindex : gap.index + f.size + 1 = gap.index + (f ++ node).size := by rw [Forest.size_append, hnode, Nat.add_assoc]
    have hstep : (putIn (gap.parent none) (gap.index + f.size) (node :: nodes)).run d =
        (putIn (gap.parent none) (gap.index + (f ++ node).size) nodes).run { d with nodes := gap.fill (f ++ node) } := by
      rw [← hindex, ← hinsert]
      rfl
    rw [hstep, ih hrest rfl, Forest.concat, Forest.append_assoc]

/-! ## What the course leaves behind -/

/-- a text that is found fills a gap of the document, and nothing else in the document has its number -/
theorem exists_gap_of_find? {d : Document} {id : ℕ} {leaf : Markup.Leaf} (hd : d.WellNumbered) (h : d.find? id = some leaf) :
    ∃ gap : Gap, d.nodes = gap.fill (.text id leaf.content .nil) ∧ gap.around [rootName] = leaf.around ∧
      gap.numbers.Nodup ∧ id ∉ gap.numbers := by
  have hid : leaf.id = id := by simpa using List.find?_some h
  obtain ⟨gap, hgap, haround⟩ := Gap.exists_gap_of_mem_texts (List.mem_of_find?_eq_some h)
  have hnodup := hd.nodup
  rw [hgap, (gap.numbers_fill _).nodup_iff, Forest.numbers, Forest.numbers, List.singleton_append, List.nodup_cons, hid] at hnodup
  exact ⟨gap, hid ▸ hgap, haround, hnodup.2, hnodup.1⟩

theorem position?_of_find?_eq_none {d : Document} {id : ℕ} (h : d.find? id = none) : d.nodes.position? id none 0 = none := by
  have habsent : ∀ leaf ∈ d.nodes.texts [rootName], leaf.id ≠ id := by
    intro leaf hleaf hid
    have hne := List.find?_eq_none.1 h leaf hleaf
    simp [hid] at hne
  exact Forest.position?_eq_none habsent none 0

/-- the steps, taken from a document -/
theorem inPlace_eq (d : Document) (id : ℕ) (pieces : List Piece) :
    d.inPlace id pieces = match d.nodes.position? id none 0 with
      | none => (.ok false, d)
      | some (parent, index) =>
        match nodesOf d.next pieces with
        | .error refusal => (.error refusal, d)
        | .ok (nodes, next) => (.ok true, ((putIn parent index nodes.siblings).run { d.remove id with next }).2) := by
  have hget : (get : ExceptT Refusal (StateM Document) Document).run.run d = (.ok d, d) := rfl
  rw [inPlace, replaceInPlace, ExceptT.run_bind, StateT.run_bind, hget]
  dsimp only [bind]
  cases d.nodes.position? id none 0 with
  | none => rfl
  | some place =>
    cases nodesOf d.next pieces with
    | error refusal => rfl
    | ok made => rfl

/-- **In place or at once.** The steps give the same answer as `replace`, and they leave its document behind or, where they refuse,
the one that they began with. -/
theorem replaceInPlace_eq {d : Document} (hd : d.WellNumbered) (id : ℕ) (pieces : List Piece) :
    d.inPlace id pieces = d.settle (d.replace id pieces) := by
  rw [inPlace_eq, replace]
  cases hfind : d.find? id with
  | none =>
    rw [position?_of_find?_eq_none hfind]
    rfl
  | some leaf =>
    obtain ⟨gap, hgap, -, hnodup, hid⟩ := exists_gap_of_find? hd hfind
    have hposition : d.nodes.position? id none 0 = some (gap.parent none, gap.index) := by
      rw [hgap]
      exact Gap.position?_fill none hid
    rw [hposition]
    cases nodesOf d.next pieces with
    | error refusal => rfl
    | ok made =>
      have hempty : Forest.replaceText id .nil d.nodes = gap.fill .nil := by
        rw [hgap]
        exact Gap.replaceText_fill .nil hid
      have hfull : Forest.replaceText id made.1 d.nodes = gap.fill made.1 := by
        rw [hgap]
        exact Gap.replaceText_fill made.1 hid
      have hsizes : ∀ node ∈ made.1.siblings, node.size = 1 := fun node => Forest.size_of_mem_siblings
      have hput := run_putIn (d := { d.remove id with next := made.2 }) hnodup hsizes hempty
      rw [Forest.size, Nat.add_zero, Forest.nil_append, Forest.concat_siblings] at hput
      simp only [hput, hfull, settle, Except.map]
      rfl

/-! ## The nodes of the pieces -/

/-- the nodes that a piece stands for, however they are numbered: one text with exactly its content, or all nodes of its markup -/
inductive Piece.Gives : Piece → Forest → Prop where
  | text (id : ℕ) (content : Text) : Gives (.text content) (.text id content .nil)
  | markup {first next : ℕ} {source : Text} {nodes : Forest} (h : Markup.parse first source = .ok (nodes, next)) :
    Gives (.markup source) nodes

theorem gives_of_nodes {first : ℕ} {p : Piece} {made : Forest × ℕ} (h : p.nodes first = .ok made) : p.Gives made.1 := by
  cases p with
  | text content =>
    cases h
    exact .text first content
  | markup source => exact .markup (nodes_markup_eq_ok_iff.1 h)
  | foreign typeName => cases h

/-- the nodes of pieces are those of each piece, in order -/
theorem exists_gives_of_nodesOf {first : ℕ} {pieces : List Piece} {made : Forest × ℕ} (h : nodesOf first pieces = .ok made) :
    ∃ parts, List.Forall₂ Piece.Gives pieces parts ∧ made.1 = Forest.concat parts := by
  induction pieces generalizing first made with
  | nil =>
    cases h
    exact ⟨[], .nil, rfl⟩
  | cons p pieces ih =>
    obtain ⟨here, rest, hhere, hrest, rfl⟩ := nodesOf_cons_eq_ok_iff.1 h
    obtain ⟨parts, hparts, hconcat⟩ := ih hrest
    exact ⟨here.1 :: parts, .cons (gives_of_nodes hhere) hparts, by rw [Forest.concat, ← hconcat]⟩

/-- pieces are refused for the first one that no document takes, however many can be taken in front of it -/
theorem nodesOf_foreign {first : ℕ} {front back : List Piece} {typeName : Text} (h : ∀ p ∈ front, p.IsMarkup) :
    nodesOf first (front ++ .foreign typeName :: back) = .error (.foreign typeName) := by
  induction front generalizing first with
  | nil => rfl
  | cons p front ih =>
    obtain ⟨hp, hfront⟩ := List.forall_mem_cons.1 h
    obtain ⟨here, hhere⟩ := (exists_nodes_iff first).2 hp
    simp only [List.cons_append, nodesOf, hhere, bind, Except.bind, ih hfront]

/-- the markup among some pieces is markup that can be read -/
def Readable (pieces : List Piece) : Prop := ∀ source, .markup source ∈ pieces → ∃ nodes, Markup.parse 0 source = .ok nodes

theorem Readable.isMarkup {pieces : List Piece} (h : Readable pieces) (hforeign : ∀ typeName, .foreign typeName ∉ pieces) :
    ∀ p ∈ pieces, p.IsMarkup := by
  intro p hp
  cases p with
  | text content => trivial
  | markup source => exact (exists_parse_iff 0).1 (h source hp)
  | foreign typeName => exact hforeign typeName hp

/-! ## The three ends -/

/-- **Replacing is atomic and local.** Done step by step, it comes to what `replace` makes at once. For a text that is not in the
document the answer is `false`, whatever the pieces are. Otherwise, with markup that can be read, the first thing among the pieces
that is none is refused; in both cases the document is the one that it was. Without such a thing the answer is `true`, and the gap
that the text was in holds the nodes of the pieces in their order, which are new; all else in the document is what it was. -/
theorem replaceInPlace_atomic {d : Document} (hd : d.WellNumbered) (id : ℕ) (pieces : List Piece) :
    d.inPlace id pieces = d.settle (d.replace id pieces) ∧
    (d.find? id = none → d.inPlace id pieces = (.ok false, d)) ∧
    ∀ leaf, d.find? id = some leaf → Readable pieces →
      (∀ front typeName back, pieces = front ++ .foreign typeName :: back → (∀ name, .foreign name ∉ front) →
        d.inPlace id pieces = (.error (.foreign typeName), d)) ∧
      ((∀ name, .foreign name ∉ pieces) → ∃ (gap : Gap) (parts : List Forest) (next : ℕ),
        d.nodes = gap.fill (.text id leaf.content .nil) ∧ gap.around [rootName] = leaf.around ∧
        List.Forall₂ Piece.Gives pieces parts ∧ Fresh d.next next (Forest.concat parts).numbers ∧
        d.inPlace id pieces = (.ok true, { d with nodes := gap.fill (Forest.concat parts), next })) := by
  have heq := replaceInPlace_eq hd id pieces
  refine ⟨heq, fun hfind => ?_, fun leaf hfind hreadable => ⟨fun front typeName back hpieces hfront => ?_, fun hforeign => ?_⟩⟩
  · rw [heq, replace, hfind]
    rfl
  · have hmarkup : ∀ p ∈ front, p.IsMarkup :=
      Readable.isMarkup (fun source hs => hreadable source (hpieces ▸ List.mem_append_left _ hs)) hfront
    rw [heq, replace, hfind, hpieces, nodesOf_foreign hmarkup]
    rfl
  · have hnodes : ∃ made, nodesOf d.next pieces = .ok made := exists_nodesOf_iff.2 (hreadable.isMarkup hforeign)
    obtain ⟨made, hmade⟩ := hnodes
    obtain ⟨parts, hparts, hconcat⟩ := exists_gives_of_nodesOf hmade
    obtain ⟨gap, hgap, haround, -, hid⟩ := exists_gap_of_find? hd hfind
    refine ⟨gap, parts, made.2, hgap, haround, hparts, hconcat ▸ fresh_nodesOf hmade, ?_⟩
    have hfilled : Forest.replaceText id made.1 d.nodes = gap.fill (Forest.concat parts) := by
      rw [hgap, ← hconcat]
      exact Gap.replaceText_fill made.1 hid
    rw [heq, replace, hfind, hmade, ← hfilled]
    rfl

/-- a paragraph of three texts, the second one in an element of its own -/
def sentence : Document where
  nodes := .element 0 "p".toList []
    (.text 1 "a".toList (.element 2 "b".toList [] (.text 3 "x".toList .nil) (.text 4 "c".toList .nil))) .nil
  next := 5
  verbatim := nonText
  token := Directive.keyword

/-- what is put in for the second text -/
def insertion : List Piece := [.text "k".toList, .markup (Block.enclose "i" "mark" []), .text []]

/-- a text that is not there, a thing that is no piece, and three pieces, one of them empty -/
theorem replaceInPlace_atomic_sentence :
    sentence.inPlace 7 [.foreign "int".toList] = (.ok false, sentence) ∧
    sentence.inPlace 3 [.text "k".toList, .foreign "int".toList, .foreign "str".toList] =
      (.error (.foreign "int".toList), sentence) ∧
    ∃ (gap : Gap) (parts : List Forest) (next : ℕ),
      sentence.nodes = gap.fill (.text 3 "x".toList .nil) ∧ gap.around [rootName] = ["b".toList, "p".toList, rootName] ∧
      List.Forall₂ Piece.Gives insertion parts ∧ Fresh 5 next (Forest.concat parts).numbers ∧
      sentence.inPlace 3 insertion = (.ok true, { sentence with nodes := gap.fill (Forest.concat parts), next }) := by
  have hd : sentence.WellNumbered := ⟨by decide, by decide, by decide⟩
  have hplain : Readable [.text "k".toList, .foreign "int".toList, .foreign "str".toList] := by simp [Readable]
  have hmark : Readable insertion := by
    intro source hsource
    obtain rfl : source = Block.enclose "i" "mark" [] := by simpa [insertion] using hsource
    have hname : Markup.Token.PlainName "i".toList := ⟨by decide, by simp [Markup.IsSmall], rfl⟩
    exact (exists_parse_iff 0).2 ⟨_, (Markup.Token.reads_enclose hname ⟨by decide, by decide⟩ .nil).ofText⟩
  refine ⟨(replaceInPlace_atomic hd 7 _).2.1 rfl, ?_, ?_⟩
  · exact ((replaceInPlace_atomic hd 3 _).2.2 _ rfl hplain).1 [.text "k".toList] _ _ rfl (by simp)
  · exact ((replaceInPlace_atomic hd 3 insertion).2.2 _ rfl hmark).2 (by simp [insertion])

end Transclude.Document
