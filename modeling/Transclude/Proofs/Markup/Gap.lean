/-
Forests with a gap.

A gap is a place between nodes of a forest, at any depth, together with everything else of the forest: what is in front of it and
behind it among its siblings, and the elements around it with their own siblings. Filling it says where nodes are put and, because
the gap stays the same, that nothing besides is touched.

Nodes can also be put in one by one, at an index among the children of an element that is told by its number. `insertIn` does that;
the index counts the siblings in front, which `position?` finds out for a text.

- `exists_gap_of_mem_texts`: every text of a forest fills a gap of it.
- `replaceText_fill`: replacing the text fills the same gap with other nodes.
- `position?_fill`, `insertIn_fill`: the index of a text is that of its gap, and a node that is put in there goes behind what is in
  the gap already.
-/
import Transclude.Proofs.Markup.Forest

namespace Transclude.Markup

/-! ## Siblings -/

namespace Forest

/-- the number of nodes, without those inside of elements -/
def size : Forest → ℕ
  | nil => 0
  | text _ _ next => next.size + 1
  | special _ _ _ next => next.size + 1
  | element _ _ _ _ next => next.size + 1

/-- the nodes of a forest, each by itself -/
def siblings : Forest → List Forest
  | nil => []
  | text id content next => text id content nil :: next.siblings
  | special id kind content next => special id kind content nil :: next.siblings
  | element id name attributes children next => element id name attributes children nil :: next.siblings

/-- some forests behind each other -/
def concat : List Forest → Forest
  | [] => nil
  | f :: fs => f ++ concat fs

/-- the forest with a node in front of the one at an index, or at the end -/
def insertAt (node : Forest) : (index : ℕ) → Forest → Forest
  | 0, f => node ++ f
  | _ + 1, nil => node
  | n + 1, text id content next => text id content (insertAt node n next)
  | n + 1, special id kind content next => special id kind content (insertAt node n next)
  | n + 1, element id name attributes children next => element id name attributes children (insertAt node n next)

/-- the forest with a node at an index among the children of the element `target`, where these are the children of `parent` -/
def insertIn (target : Option ℕ) (index : ℕ) (node : Forest) (parent : Option ℕ) (f : Forest) : Forest :=
  if parent = target then insertAt node index f
  else match f with
    | nil => nil
    | text id content next => text id content (insertIn target index node parent next)
    | special id kind content next => special id kind content (insertIn target index node parent next)
    | element id name attributes children next =>
      element id name attributes (insertIn target index node (some id) children) (insertIn target index node parent next)

/-- where the text `id` is: the element that it is a child of and its index there, where these are the children of `parent` from
`index` on -/
def position? (id : ℕ) (parent : Option ℕ) (index : ℕ) : Forest → Option (Option ℕ × ℕ)
  | nil => none
  | text i _ next => if i = id then some (parent, index) else next.position? id parent (index + 1)
  | special _ _ _ next => next.position? id parent (index + 1)
  | element i _ _ children next => (children.position? id (some i) 0).or (next.position? id parent (index + 1))

theorem concat_siblings (f : Forest) : concat f.siblings = f := by
  induction f with
  | nil => rfl
  | text id content next ih => simp [siblings, concat, ih]
  | special id kind content next ih => simp [siblings, concat, ih]
  | element id name attributes children next _ ih => simp [siblings, concat, ih]

theorem size_of_mem_siblings {f node : Forest} (h : node ∈ f.siblings) : node.size = 1 := by
  induction f with
  | nil => exact absurd h List.not_mem_nil
  | text id content next ih =>
    rcases List.mem_cons.1 h with rfl | h
    · rfl
    · exact ih h
  | special id kind content next ih =>
    rcases List.mem_cons.1 h with rfl | h
    · rfl
    · exact ih h
  | element id name attributes children next _ ih =>
    rcases List.mem_cons.1 h with rfl | h
    · rfl
    · exact ih h

theorem size_append (f g : Forest) : (f ++ g).size = f.size + g.size := by
  induction f with
  | nil => simp [size]
  | text id content next ih => simp only [text_append, size, ih]; omega
  | special id kind content next ih => simp only [special_append, size, ih]; omega
  | element id name attributes children next _ ih => simp only [element_append, size, ih]; omega

/-- an index behind some nodes is an index among what follows them -/
theorem insertAt_append (node f g : Forest) (n : ℕ) : insertAt node (f.size + n) (f ++ g) = f ++ insertAt node n g := by
  induction f with
  | nil => rw [size, Nat.zero_add, nil_append, nil_append]
  | text id content next ih => rw [size, Nat.add_right_comm, text_append, insertAt, ih, text_append]
  | special id kind content next ih => rw [size, Nat.add_right_comm, special_append, insertAt, ih, special_append]
  | element id name attributes children next _ ih =>
    rw [size, Nat.add_right_comm, element_append, insertAt, ih, element_append]

section Inserting

variable {target parent : Option ℕ} {index : ℕ} {node : Forest}

theorem insertIn_self (f : Forest) : insertIn target index node target f = insertAt node index f := by
  rw [insertIn.eq_def, if_pos rfl]

theorem insertIn_append (h : parent ≠ target) (f g : Forest) :
    insertIn target index node parent (f ++ g) = insertIn target index node parent f ++ insertIn target index node parent g := by
  induction f with
  | nil => rw [nil_append, insertIn.eq_def _ _ _ _ nil, if_neg h, nil_append]
  | text id content next ih =>
    rw [text_append, insertIn, if_neg h, insertIn.eq_def _ _ _ _ (text id content next), if_neg h, ih, text_append]
  | special id kind content next ih =>
    rw [special_append, insertIn, if_neg h, insertIn.eq_def _ _ _ _ (special id kind content next), if_neg h, ih, special_append]
  | element id name attributes children next _ ih =>
    rw [element_append, insertIn, if_neg h, insertIn.eq_def _ _ _ _ (element id name attributes children next), if_neg h, ih,
      element_append]

/-- an element that is not there gets no children -/
theorem insertIn_of_not_mem (h : parent ≠ target) {f : Forest} (hf : ∀ i ∈ f.numbers, some i ≠ target) :
    insertIn target index node parent f = f := by
  induction f generalizing parent with
  | nil => rw [insertIn, if_neg h]
  | text id content next ih => rw [insertIn, if_neg h, ih h (List.forall_mem_cons.1 hf).2]
  | special id kind content next ih => rw [insertIn, if_neg h, ih h (List.forall_mem_cons.1 hf).2]
  | element id name attributes children next ihc ih =>
    obtain ⟨hid, hboth⟩ := List.forall_mem_cons.1 hf
    obtain ⟨hchildren, hnext⟩ := List.forall_mem_append.1 hboth
    rw [insertIn, if_neg h, ihc hid hchildren, ih h hnext]

end Inserting

/-! ## Positions of texts -/

theorem position?_append (id : ℕ) (parent : Option ℕ) (index : ℕ) (f g : Forest) :
    (f ++ g).position? id parent index = (f.position? id parent index).or (g.position? id parent (index + f.size)) := by
  induction f generalizing index with
  | nil => rfl
  | text i content next ih =>
    rw [text_append, position?, position?, ih, size, Nat.add_right_comm, Nat.add_assoc]
    split
    · rfl
    · rfl
  | special i kind content next ih =>
    rw [special_append, position?, position?, ih, size, Nat.add_right_comm, Nat.add_assoc]
  | element i name attributes children next _ ih =>
    rw [element_append, position?, position?, ih, size, Nat.add_right_comm, Nat.add_assoc, Option.or_assoc]

theorem position?_eq_none {id : ℕ} {around : List Text} {f : Forest} (h : ∀ leaf ∈ f.texts around, leaf.id ≠ id)
    (parent : Option ℕ) (index : ℕ) : f.position? id parent index = none := by
  induction f generalizing around parent index with
  | nil => rfl
  | text i content next ih =>
    obtain ⟨hi, hnext⟩ := List.forall_mem_cons.1 h
    rw [position?, if_neg hi, ih hnext]
  | special i kind content next ih => exact ih h _ _
  | element i name attributes children next ihc ih =>
    obtain ⟨hchildren, hnext⟩ := List.forall_mem_append.1 h
    rw [position?, ihc hchildren, ih hnext, Option.none_or]

theorem position?_of_not_mem {id : ℕ} {f : Forest} (h : id ∉ f.numbers) (parent : Option ℕ) (index : ℕ) :
    f.position? id parent index = none := by
  induction f generalizing parent index with
  | nil => rfl
  | text i content next ih =>
    obtain ⟨hi, hnext⟩ := not_or.1 (mt List.mem_cons.2 h)
    rw [position?, if_neg (Ne.symm hi), ih hnext]
  | special i kind content next ih => exact ih (mt (List.mem_cons_of_mem i) h) _ _
  | element i name attributes children next ihc ih =>
    have hboth := mt (List.mem_cons_of_mem i) h
    rw [List.mem_append, not_or] at hboth
    rw [position?, ihc hboth.1, ih hboth.2, Option.none_or]

end Forest

/-! ## Gaps -/

open Forest (nil text element insertAt insertIn position? replaceText)

/-- a place between nodes of a forest, and all of the forest -/
inductive Gap where
  /-- between two nodes of the forest itself -/
  | here (before after : Forest)
  /-- inside of an element -/
  | inside (before : Forest) (id : ℕ) (name : Text) (attributes : List Attribute) (children : Gap) (after : Forest)

namespace Gap

/-- the forest with some nodes in the gap -/
def fill (f : Forest) : Gap → Forest
  | here before after => before ++ (f ++ after)
  | inside before id name attributes children after => before ++ element id name attributes (children.fill f) after

/-- the names of the elements around the gap, innermost first -/
def around (names : List Text) : Gap → List Text
  | here _ _ => names
  | inside _ _ name _ children _ => children.around (name :: names)

/-- the numbers of all nodes that are there -/
def numbers : Gap → List ℕ
  | here before after => before.numbers ++ after.numbers
  | inside before id _ _ children after => before.numbers ++ id :: (children.numbers ++ after.numbers)

/-- the element that the gap is directly in, where the forest is what `outer` holds -/
def parent (outer : Option ℕ) : Gap → Option ℕ
  | here _ _ => outer
  | inside _ id _ _ children _ => children.parent (some id)

/-- how many siblings are in front of the gap -/
def index : Gap → ℕ
  | here before _ => before.size
  | inside _ _ _ _ children _ => children.index

/-- the gap with some more nodes in front of everything -/
def behind (front : Forest) : Gap → Gap
  | here before after => here (front ++ before) after
  | inside before id name attributes children after => inside (front ++ before) id name attributes children after

theorem fill_behind (front f : Forest) (gap : Gap) : (gap.behind front).fill f = front ++ gap.fill f := by
  cases gap with
  | here before after => exact Forest.append_assoc front before _
  | inside before id name attributes children after => exact Forest.append_assoc front before _

theorem around_behind (front : Forest) (names : List Text) (gap : Gap) : (gap.behind front).around names = gap.around names := by
  cases gap with
  | here before after => rfl
  | inside before id name attributes children after => rfl

/-- **Every text of a forest fills a gap of it**, with the same elements around it. -/
theorem exists_gap_of_mem_texts {names : List Text} {f : Forest} {leaf : Leaf} (h : leaf ∈ f.texts names) :
    ∃ gap : Gap, f = gap.fill (text leaf.id leaf.content nil) ∧ gap.around names = leaf.around := by
  induction f generalizing names with
  | nil => exact absurd h List.not_mem_nil
  | text id content next ih =>
    rcases List.mem_cons.1 h with rfl | h
    · exact ⟨here nil next, rfl, rfl⟩
    · obtain ⟨gap, hgap, haround⟩ := ih h
      refine ⟨gap.behind (text id content nil), ?_, (around_behind _ _ _).trans haround⟩
      rw [fill_behind, ← hgap]
      rfl
  | special id kind content next ih =>
    obtain ⟨gap, hgap, haround⟩ := ih h
    refine ⟨gap.behind (.special id kind content nil), ?_, (around_behind _ _ _).trans haround⟩
    rw [fill_behind, ← hgap]
    rfl
  | element id name attributes children next ihc ih =>
    rcases List.mem_append.1 h with h | h
    · obtain ⟨gap, hgap, haround⟩ := ihc h
      exact ⟨inside nil id name attributes gap next, by rw [fill, ← hgap]; rfl, haround⟩
    · obtain ⟨gap, hgap, haround⟩ := ih h
      refine ⟨gap.behind (element id name attributes children nil), ?_, (around_behind _ _ _).trans haround⟩
      rw [fill_behind, ← hgap]
      rfl

theorem numbers_fill (f : Forest) (gap : Gap) : (gap.fill f).numbers.Perm (f.numbers ++ gap.numbers) := by
  induction gap with
  | here before after =>
    simp only [fill, numbers, Forest.numbers_append, ← List.append_assoc]
    exact List.perm_append_comm.append_right _
  | inside before id name attributes children after ih =>
    simp only [fill, numbers, Forest.numbers_append, Forest.numbers]
    -- the new numbers come forward past the children, the element and what is in front of it
    have hchildren : ((children.fill f).numbers ++ after.numbers).Perm (f.numbers ++ (children.numbers ++ after.numbers)) := by
      rw [← List.append_assoc]
      exact ih.append_right _
    have helement := (hchildren.cons id).trans List.perm_middle.symm
    refine (helement.append_left _).trans ?_
    rw [← List.append_assoc, ← List.append_assoc]
    exact List.perm_append_comm.append_right _

variable {id : ℕ} {content : Text}

/-- **Replacing the text that fills a gap** fills the gap with other nodes. -/
theorem replaceText_fill (new : Forest) {gap : Gap} (h : id ∉ gap.numbers) :
    replaceText id new (gap.fill (text id content nil)) = gap.fill new := by
  induction gap with
  | here before after =>
    rw [numbers, List.mem_append, not_or] at h
    rw [fill, fill, Forest.replaceText_append, Forest.replaceText_of_not_mem new h.1, Forest.text_append, Forest.nil_append,
      replaceText, if_pos rfl, Forest.replaceText_of_not_mem new h.2]
  | inside before i name attributes children after ih =>
    simp only [numbers, List.mem_append, List.mem_cons, not_or] at h
    obtain ⟨hbefore, -, hchildren, hafter⟩ := h
    rw [fill, fill, Forest.replaceText_append, Forest.replaceText_of_not_mem new hbefore, replaceText, ih hchildren,
      Forest.replaceText_of_not_mem new hafter]

/-- **The text that fills a gap is where the gap is.** -/
theorem position?_fill (outer : Option ℕ) {gap : Gap} (h : id ∉ gap.numbers) :
    (gap.fill (text id content nil)).position? id outer 0 = some (gap.parent outer, gap.index) := by
  induction gap generalizing outer with
  | here before after =>
    rw [numbers, List.mem_append, not_or] at h
    rw [fill, Forest.position?_append, Forest.position?_of_not_mem h.1, Option.none_or, Forest.text_append, position?, if_pos rfl,
      Nat.zero_add]
    rfl
  | inside before i name attributes children after ih =>
    simp only [numbers, List.mem_append, List.mem_cons, not_or] at h
    obtain ⟨hbefore, -, hchildren, -⟩ := h
    rw [fill, Forest.position?_append, Forest.position?_of_not_mem hbefore, Option.none_or, position?, ih (some i) hchildren]
    rfl

/-- the gap is directly in what holds the forest, or in an element of the forest -/
theorem parent_eq_or (outer : Option ℕ) (gap : Gap) :
    gap.parent outer = outer ∨ ∃ i ∈ gap.numbers, gap.parent outer = some i := by
  induction gap generalizing outer with
  | here before after => exact Or.inl rfl
  | inside before i name attributes children after ih =>
    simp only [numbers, List.mem_append, List.mem_cons]
    refine Or.inr ?_
    rcases ih (some i) with h | ⟨j, hj, h⟩
    · exact ⟨i, Or.inr (Or.inl rfl), h⟩
    · exact ⟨j, Or.inr (Or.inr (Or.inl hj)), h⟩

/-- **A node that is put in behind the nodes of a gap** is in the gap, too. Numbers are distinct, so no other element is taken for
the one around the gap. -/
theorem insertIn_fill (f node : Forest) {outer : Option ℕ} {gap : Gap} (hgap : gap.numbers.Nodup)
    (houter : ∀ i ∈ gap.numbers, some i ≠ outer) :
    insertIn (gap.parent outer) (gap.index + f.size) node outer (gap.fill f) = gap.fill (f ++ node) := by
  induction gap generalizing outer with
  | here before after =>
    have hinsert := Forest.insertAt_append node f after 0
    rw [Nat.add_zero, insertAt] at hinsert
    rw [parent, Forest.insertIn_self, index, fill, Forest.insertAt_append, hinsert, fill, Forest.append_assoc]
  | inside before i name attributes children after ih =>
    simp only [numbers, List.forall_mem_append, List.forall_mem_cons] at houter
    obtain ⟨hbefore, hi, hchildren, hafter⟩ := houter
    obtain ⟨hfront, hrest, hfrontrest⟩ := List.nodup_append'.1 hgap
    obtain ⟨hinew, hboth⟩ := List.nodup_cons.1 hrest
    obtain ⟨hc, ha, hca⟩ := List.nodup_append'.1 hboth
    rw [List.mem_append, not_or] at hinew
    have hinside : ∀ j ∈ children.numbers, some j ≠ some i := fun j hj he => hinew.1 (Option.some.inj he ▸ hj)
    -- the target is this element or one inside of it, so it is neither what holds the forest nor beside this element
    have htarget : ∃ t ∈ i :: children.numbers, children.parent (some i) = some t := by
      rcases parent_eq_or (some i) children with h | ⟨j, hj, h⟩
      · exact ⟨i, List.mem_cons_self, h⟩
      · exact ⟨j, List.mem_cons_of_mem i hj, h⟩
    obtain ⟨t, ht, htarget⟩ := htarget
    have hne : outer ≠ children.parent (some i) := by
      rw [htarget]
      rcases List.mem_cons.1 ht with rfl | ht
      · exact hi.symm
      · exact (hchildren t ht).symm
    have hbeside : ∀ j ∈ before.numbers, some j ≠ children.parent (some i) := by
      intro j hj he
      rw [htarget] at he
      obtain rfl := Option.some.inj he
      refine hfrontrest hj ?_
      rw [List.mem_cons] at ht ⊢
      exact ht.imp_right (List.mem_append_left _)
    have hbehind : ∀ j ∈ after.numbers, some j ≠ children.parent (some i) := by
      intro j hj he
      rw [htarget] at he
      obtain rfl := Option.some.inj he
      rcases List.mem_cons.1 ht with rfl | ht
      · exact hinew.2 hj
      · exact hca ht hj
    rw [parent, index, fill, fill, Forest.insertIn_append hne, Forest.insertIn_of_not_mem hne hbeside, insertIn, if_neg hne,
      ih hc hinside, Forest.insertIn_of_not_mem hne hbehind]

end Gap

end Transclude.Markup
