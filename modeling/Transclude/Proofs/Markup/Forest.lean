/-
Forests whose nodes are numbered.

`numbers` lists the numbers of a forest, and `substitute` puts nodes into the place of many texts at once, without looking
into what it puts in.

- `replaceText_of_not_mem`: a number that no node has replaces nothing.
- `replaceText_substitute`: replacing one more text after a substitution is a larger substitution, as long as what was put
  in does not have the number of that text.
- `substitute_replaceText`: so is replacing one text before it.
- `mem_texts_substitute`: a text that is not replaced is still there, with the same elements around it.
- `texts_substitute`, `find?_elements_substitute`: the texts of a substitution are those that are not replaced and those that
  were put in, in place; its elements are the ones that were there and those that were put in.
-/
import Mathlib.Tactic
import Transclude.Markup.Forest

namespace Transclude.Markup.Forest

/-- the numbers of all nodes, in document order -/
def numbers : Forest → List ℕ
  | nil => []
  | text id _ next => id :: next.numbers
  | special id _ _ next => id :: next.numbers
  | element id _ _ children next => id :: (children.numbers ++ next.numbers)

/-- the forest with nodes in the place of every text that `new` has nodes for -/
def substitute (new : ℕ → Option Forest) : Forest → Forest
  | nil => nil
  | text id content next =>
    match new id with
    | some nodes => nodes ++ next.substitute new
    | none => text id content (next.substitute new)
  | special id kind content next => special id kind content (next.substitute new)
  | element id name attributes children next =>
    element id name attributes (children.substitute new) (next.substitute new)

/-! ## One forest after another -/

@[simp]
theorem nil_append (g : Forest) : nil ++ g = g := rfl

@[simp]
theorem text_append (id : ℕ) (content : Text) (next g : Forest) :
    text id content next ++ g = text id content (next ++ g) := rfl

@[simp]
theorem special_append (id : ℕ) (kind : SpecialKind) (content : Text) (next g : Forest) :
    special id kind content next ++ g = special id kind content (next ++ g) := rfl

@[simp]
theorem element_append (id : ℕ) (name : Text) (attributes : List Attribute) (children next g : Forest) :
    element id name attributes children next ++ g = element id name attributes children (next ++ g) := rfl

theorem append_assoc (f g h : Forest) : f ++ g ++ h = f ++ (g ++ h) := by
  induction f with
  | nil => rfl
  | text id content next ih => simp [ih]
  | special id kind content next ih => simp [ih]
  | element id name attributes children next _ ih => simp [ih]

@[simp]
theorem append_nil (f : Forest) : f ++ nil = f := by
  induction f with
  | nil => rfl
  | text id content next ih => simp [ih]
  | special id kind content next ih => simp [ih]
  | element id name attributes children next _ ih => simp [ih]

@[simp]
theorem numbers_append (f g : Forest) : (f ++ g).numbers = f.numbers ++ g.numbers := by
  induction f with
  | nil => rfl
  | text id content next ih => simp [numbers, ih]
  | special id kind content next ih => simp [numbers, ih]
  | element id name attributes children next _ ih => simp [numbers, ih]

theorem texts_append (around : List Text) (f g : Forest) :
    (f ++ g).texts around = f.texts around ++ g.texts around := by
  induction f with
  | nil => rfl
  | text id content next ih => simp [texts, ih]
  | special id kind content next ih => simp [texts, ih]
  | element id name attributes children next _ ih => simp [texts, ih]

theorem numbers_reverseAppend (f g : Forest) : (f.reverseAppend g).numbers.Perm (f.numbers ++ g.numbers) := by
  induction f generalizing g with
  | nil => exact .refl _
  | text id content next ih => exact (ih _).trans List.perm_middle
  | special id kind content next ih => exact (ih _).trans List.perm_middle
  | element id name attributes children next _ ih =>
    refine (ih _).trans ?_
    simp only [numbers, List.cons_append]
    refine List.perm_middle.trans (.cons id ?_)
    rw [← List.append_assoc]
    exact List.perm_append_comm.append_right g.numbers

/-- turning a forest around keeps its numbers -/
theorem numbers_reverse (f : Forest) : f.reverse.numbers.Perm f.numbers := by
  have h := numbers_reverseAppend f nil
  rwa [numbers, List.append_nil] at h

/-! ## Replacing one text -/

theorem replaceText_of_not_mem {id : ℕ} {f : Forest} (new : Forest) (h : id ∉ f.numbers) : replaceText id new f = f := by
  induction f with
  | nil => rfl
  | text i content next ih =>
    obtain ⟨hi, hn⟩ := not_or.1 (mt List.mem_cons.2 h)
    rw [replaceText, if_neg (Ne.symm hi), ih hn]
  | special i kind content next ih => rw [replaceText, ih (mt (List.mem_cons_of_mem i) h)]
  | element i name attributes children next ihc ih =>
    have hn := mt (List.mem_cons_of_mem i) h
    rw [List.mem_append, not_or] at hn
    rw [replaceText, ihc hn.1, ih hn.2]

theorem replaceText_append (id : ℕ) (new f g : Forest) :
    replaceText id new (f ++ g) = replaceText id new f ++ replaceText id new g := by
  induction f with
  | nil => rfl
  | text i content next ih =>
    rw [text_append, replaceText, replaceText, ih]
    split
    · rw [append_assoc]
    · rfl
  | special i kind content next ih => rw [special_append, replaceText, replaceText, ih, special_append]
  | element i name attributes children next _ ih => rw [element_append, replaceText, replaceText, ih, element_append]

theorem mem_numbers_replaceText {id n : ℕ} {new f : Forest} (h : n ∈ (replaceText id new f).numbers) :
    n ∈ f.numbers ∨ n ∈ new.numbers := by
  induction f with
  | nil => exact Or.inl h
  | text i content next ih =>
    rw [replaceText] at h
    split at h
    · rw [numbers_append, List.mem_append] at h
      rcases h with h | h
      · exact Or.inr h
      · exact (ih h).imp_left (List.mem_cons_of_mem i)
    · rcases List.mem_cons.1 h with rfl | h
      · exact Or.inl List.mem_cons_self
      · exact (ih h).imp_left (List.mem_cons_of_mem i)
  | special i kind content next ih =>
    rcases List.mem_cons.1 h with rfl | h
    · exact Or.inl List.mem_cons_self
    · exact (ih h).imp_left (List.mem_cons_of_mem i)
  | element i name attributes children next ihc ih =>
    rcases List.mem_cons.1 h with rfl | h
    · exact Or.inl List.mem_cons_self
    · rcases List.mem_append.1 h with h | h
      · exact (ihc h).imp_left fun hm => List.mem_cons_of_mem i (List.mem_append_left _ hm)
      · exact (ih h).imp_left fun hm => List.mem_cons_of_mem i (List.mem_append_right _ hm)

/-- distinct numbers stay distinct when the new nodes have other ones -/
theorem nodup_replaceText (id : ℕ) {new f : Forest} (hf : f.numbers.Nodup) (hnew : new.numbers.Nodup)
    (hd : f.numbers.Disjoint new.numbers) : (replaceText id new f).numbers.Nodup := by
  induction f with
  | nil => exact hf
  | text i content next ih =>
    obtain ⟨hi, hnext⟩ := List.nodup_cons.1 hf
    obtain ⟨hinew, hdnext⟩ := List.disjoint_cons_left.1 hd
    rw [replaceText]
    split
    · rename_i heq
      subst heq
      rw [replaceText_of_not_mem new hi, numbers_append]
      exact hnew.append hnext hdnext.symm
    · refine List.nodup_cons.2 ⟨fun hm => ?_, ih hnext hdnext⟩
      exact (mem_numbers_replaceText hm).elim hi hinew
  | special i kind content next ih =>
    obtain ⟨hi, hnext⟩ := List.nodup_cons.1 hf
    obtain ⟨hinew, hdnext⟩ := List.disjoint_cons_left.1 hd
    refine List.nodup_cons.2 ⟨fun hm => ?_, ih hnext hdnext⟩
    exact (mem_numbers_replaceText hm).elim hi hinew
  | element i name attributes children next ihc ih =>
    obtain ⟨hi, hboth⟩ := List.nodup_cons.1 hf
    obtain ⟨hinew, hdboth⟩ := List.disjoint_cons_left.1 hd
    obtain ⟨hdc, hdn⟩ := List.disjoint_append_left.1 hdboth
    obtain ⟨hc, hn, hcn⟩ := List.nodup_append'.1 hboth
    rw [List.mem_append, not_or] at hi
    have hnotin : i ∉ (replaceText id new children).numbers ++ (replaceText id new next).numbers := by
      rw [List.mem_append, not_or]
      exact ⟨fun hm => (mem_numbers_replaceText hm).elim hi.1 hinew, fun hm => (mem_numbers_replaceText hm).elim hi.2 hinew⟩
    refine List.nodup_cons.2 ⟨hnotin, (ihc hc hdc).append (ih hn hdn) fun n hnc hnn => ?_⟩
    -- the text is among the children or behind them, so only one of the two sides gets new nodes
    by_cases hid : id ∈ children.numbers
    · rw [replaceText_of_not_mem new (hcn hid)] at hnn
      exact (mem_numbers_replaceText hnc).elim (fun h => hcn h hnn) (hdn hnn)
    · rw [replaceText_of_not_mem new hid] at hnc
      exact (mem_numbers_replaceText hnn).elim (hcn hnc) (hdc hnc)

/-! ## Replacing many texts -/

theorem substitute_none (f : Forest) : f.substitute (fun _ => none) = f := by
  induction f with
  | nil => rfl
  | text id content next ih => simp [substitute, ih]
  | special id kind content next ih => simp [substitute, ih]
  | element id name attributes children next ihc ih => simp [substitute, ihc, ih]

/-- **One more text.** What was put in before does not have the number of the text, so only the text itself is replaced. -/
theorem replaceText_substitute {new : ℕ → Option Forest} {id : ℕ} (nodes f : Forest) (hid : new id = none)
    (hnew : ∀ i g, new i = some g → id ∉ g.numbers) :
    replaceText id nodes (f.substitute new) = f.substitute (Function.update new id (some nodes)) := by
  induction f with
  | nil => rfl
  | text i content next ih =>
    by_cases hi : i = id
    · subst hi
      simp [substitute, hid, replaceText, ih]
    · have hu : Function.update new id (some nodes) i = new i := Function.update_of_ne hi _ _
      rw [substitute, substitute, hu]
      cases hn : new i with
      | some g => simp only [replaceText_append, replaceText_of_not_mem nodes (hnew i g hn), ih]
      | none => simp only [replaceText, if_neg hi, ih]
  | special i kind content next ih => simp [substitute, replaceText, ih]
  | element i name attributes children next ihc ih => simp [substitute, replaceText, ihc, ih]

theorem substitute_append (new : ℕ → Option Forest) (f g : Forest) :
    (f ++ g).substitute new = f.substitute new ++ g.substitute new := by
  induction f with
  | nil => rfl
  | text id content next ih =>
    rw [text_append, substitute, substitute, ih]
    cases new id with
    | some nodes => exact (append_assoc nodes _ _).symm
    | none => rfl
  | special id kind content next ih => simp [substitute, ih]
  | element id name attributes children next _ ih => simp [substitute, ih]

/-- where no text is to be replaced, nothing changes -/
theorem substitute_of_forall {new : ℕ → Option Forest} {f : Forest} (h : ∀ n ∈ f.numbers, new n = none) :
    f.substitute new = f := by
  induction f with
  | nil => rfl
  | text id content next ih =>
    obtain ⟨hid, hnext⟩ := List.forall_mem_cons.1 h
    simp only [substitute, hid, ih hnext]
  | special id kind content next ih => rw [substitute, ih (List.forall_mem_cons.1 h).2]
  | element id name attributes children next ihc ih =>
    obtain ⟨hchildren, hnext⟩ := List.forall_mem_append.1 (List.forall_mem_cons.1 h).2
    rw [substitute, ihc hchildren, ih hnext]

/-- **One text before the others.** What is put in first is not replaced itself, so the text is one more to be replaced. -/
theorem substitute_replaceText {new : ℕ → Option Forest} (id : ℕ) {nodes : Forest} (f : Forest)
    (h : ∀ n ∈ nodes.numbers, new n = none) :
    (replaceText id nodes f).substitute new = f.substitute (Function.update new id (some nodes)) := by
  induction f with
  | nil => rfl
  | text i content next ih =>
    by_cases hi : i = id
    · subst hi
      simp [substitute, replaceText, substitute_append, substitute_of_forall h, ih]
    · have hu : Function.update new id (some nodes) i = new i := Function.update_of_ne hi _ _
      rw [replaceText, if_neg hi, substitute, substitute, hu, ih]
  | special i kind content next ih => simp [substitute, replaceText, ih]
  | element i name attributes children next ihc ih => simp [substitute, replaceText, ihc, ih]

/-- what becomes of a text: the texts of what is put into its place, or the text itself -/
def textsFor (new : ℕ → Option Forest) (leaf : Leaf) : List Leaf :=
  match new leaf.id with
  | some nodes => nodes.texts leaf.around
  | none => [leaf]

/-- **The texts of a substitution**, in place: those that are not replaced, and those that were put in. -/
theorem texts_substitute (new : ℕ → Option Forest) (around : List Text) (f : Forest) :
    (f.substitute new).texts around = (f.texts around).flatMap (textsFor new) := by
  induction f generalizing around with
  | nil => rfl
  | text id content next ih =>
    rw [substitute, texts, List.flatMap_cons, textsFor, ← ih]
    cases new id with
    | some nodes => exact texts_append around nodes _
    | none => rfl
  | special id kind content next ih => exact ih around
  | element id name attributes children next ihc ih =>
    rw [substitute, texts, texts, List.flatMap_append, ihc, ih]

theorem mem_texts_substitute {new : ℕ → Option Forest} {around : List Text} {f : Forest} {leaf : Leaf}
    (h : leaf ∈ f.texts around) (hleaf : new leaf.id = none) : leaf ∈ (f.substitute new).texts around := by
  rw [texts_substitute]
  refine List.mem_flatMap.2 ⟨leaf, h, ?_⟩
  rw [textsFor, hleaf]
  exact List.mem_cons_self

theorem elements_append (around : List Text) (f g : Forest) :
    (f ++ g).elements around = f.elements around ++ g.elements around := by
  induction f with
  | nil => rfl
  | text id content next ih => exact ih
  | special id kind content next ih => exact ih
  | element id name attributes children next _ ih => simp [elements, ih]

/-- the numbers of elements are numbers of nodes -/
theorem mem_numbers_of_mem_elements {around : List Text} {f : Forest} {e : Place} (h : e ∈ f.elements around) :
    e.id ∈ f.numbers := by
  induction f generalizing around with
  | nil => exact absurd h List.not_mem_nil
  | text id content next ih => exact List.mem_cons_of_mem _ (ih h)
  | special id kind content next ih => exact List.mem_cons_of_mem _ (ih h)
  | element id name attributes children next ihc ih =>
    rcases List.mem_cons.1 h with rfl | h
    · exact List.mem_cons_self
    · rcases List.mem_append.1 h with h | h
      · exact List.mem_cons_of_mem _ (List.mem_append_left _ (ihc h))
      · exact List.mem_cons_of_mem _ (List.mem_append_right _ (ih h))

theorem ids_elements_sublist (around : List Text) (f : Forest) : ((f.elements around).map Place.id).Sublist f.numbers := by
  induction f generalizing around with
  | nil => exact .slnil
  | text id content next ih => exact (ih around).cons id
  | special id kind content next ih => exact (ih around).cons id
  | element id name attributes children next ihc ih =>
    rw [elements, List.map_cons, List.map_append]
    exact ((ihc _).append (ih around)).cons_cons id

/-- an element is found by its number -/
theorem find?_elements {around : List Text} {f : Forest} {e : Place} (hf : f.numbers.Nodup) (h : e ∈ f.elements around) :
    (f.elements around).find? (fun other => other.id == e.id) = some e := by
  cases hfind : (f.elements around).find? fun other => other.id == e.id with
  | none =>
    have := List.find?_eq_none.1 hfind e h
    simp at this
  | some other =>
    have hid : other.id = e.id := by simpa using List.find?_some hfind
    have hnodup := (ids_elements_sublist around f).nodup hf
    rw [List.inj_on_of_nodup_map hnodup (List.mem_of_find?_eq_some hfind) h hid]

/-- **An element that was there is still there**, and what is in it is substituted. -/
theorem find?_elements_substitute {new : ℕ → Option Forest} {id : ℕ} (hnew : ∀ i g, new i = some g → id ∉ g.numbers)
    (around : List Text) (f : Forest) :
    ((f.substitute new).elements around).find? (fun e => e.id == id) =
      ((f.elements around).find? fun e => e.id == id).map fun e => { e with children := e.children.substitute new } := by
  induction f generalizing around with
  | nil => rfl
  | text i content next ih =>
    rw [substitute]
    cases hi : new i with
    | some g =>
      have hnone : (g.elements around).find? (fun e => e.id == id) = none := by
        refine List.find?_eq_none.2 fun e he heq => hnew i g hi ?_
        exact beq_iff_eq.1 heq ▸ mem_numbers_of_mem_elements he
      simp only [elements_append, List.find?_append, hnone, Option.none_or]
      exact ih around
    | none => exact ih around
  | special i kind content next ih => exact ih around
  | element i name attributes children next ihc ih =>
    rw [substitute, elements, elements, List.find?_cons, List.find?_cons]
    cases i == id with
    | true => rfl
    | false => simp only [List.find?_append, ihc, ih, Option.map_or]

end Transclude.Markup.Forest
