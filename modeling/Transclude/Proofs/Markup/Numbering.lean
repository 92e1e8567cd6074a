/-
The numbers of parsed markup. The builder gives every new node the next number, and closing an element moves nodes without
numbering them again.

- `numbered_step`: a token keeps the invariant that the numbers in use are distinct and below the next one.
- `fresh_parse`: the nodes of a markup text have distinct numbers, from the one it was given up to the one it returns.
-/
import Transclude.Markup.Builder
import Transclude.Proofs.Markup.Forest

namespace Transclude.Markup

/-- distinct numbers from `first` on up to `next` -/
structure Fresh (first next : ℕ) (ns : List ℕ) : Prop where
  le : first ≤ next
  nodup : ns.Nodup
  range : ∀ n ∈ ns, first ≤ n ∧ n < next

theorem Fresh.nil (first : ℕ) : Fresh first first [] := ⟨le_rfl, .nil, by simp⟩

theorem Fresh.perm {first next : ℕ} {ns ns' : List ℕ} (h : Fresh first next ns) (hp : ns'.Perm ns) :
    Fresh first next ns' :=
  ⟨h.le, hp.nodup_iff.2 h.nodup, fun n hn => h.range n (hp.subset hn)⟩

theorem Fresh.sublist {first next : ℕ} {ns ns' : List ℕ} (h : Fresh first next ns) (hs : ns'.Sublist ns) :
    Fresh first next ns' :=
  ⟨h.le, hs.nodup h.nodup, fun n hn => h.range n (hs.subset hn)⟩

/-- the next number is a new one -/
theorem Fresh.cons {first next : ℕ} {ns : List ℕ} (h : Fresh first next ns) : Fresh first (next + 1) (next :: ns) := by
  refine ⟨h.le.trans (Nat.le_succ next), List.nodup_cons.2 ⟨fun hm => ?_, h.nodup⟩, fun n hn => ?_⟩
  · exact lt_irrefl next (h.range next hm).2
  · rcases List.mem_cons.1 hn with rfl | hn
    · exact ⟨h.le, Nat.lt_succ_self n⟩
    · have := h.range n hn
      omega

/-- numbers and later numbers -/
theorem Fresh.append {a b c : ℕ} {ns ms : List ℕ} (h : Fresh a b ns) (h' : Fresh b c ms) : Fresh a c (ns ++ ms) := by
  have hle := h.le
  have hle' := h'.le
  refine ⟨hle.trans hle', h.nodup.append h'.nodup fun n hn hm => ?_, fun n hn => ?_⟩
  · have := h.range n hn
    have := h'.range n hm
    omega
  · rcases List.mem_append.1 hn with hn | hn
    · have := h.range n hn
      omega
    · have := h'.range n hn
      omega

namespace Builder

/-! ## The invariant of the builder -/

/-- the numbers of all nodes so far, in open elements and outside of them -/
def numbers (b : Builder) : List ℕ := b.frames.flatMap (fun f => f.id :: f.children.numbers) ++ b.top.numbers

/-- the numbers so far are distinct, and below the next one -/
def Numbered (first : ℕ) (b : Builder) : Prop := Fresh first b.next b.numbers

theorem numbers_add (b : Builder) (node : Forest → Forest) (ns : List ℕ)
    (h : ∀ g, (node g).numbers.Perm (ns ++ g.numbers)) : (b.add node).numbers.Perm (ns ++ b.numbers) := by
  unfold add numbers
  split
  · rename_i hf
    simpa [hf] using h b.top
  · rename_i frame frames hf
    simp only [hf, List.flatMap_cons, List.cons_append, List.append_assoc]
    refine .trans (.cons frame.id ?_) List.perm_middle.symm
    rw [← List.append_assoc ns]
    exact (h frame.children).append_right _

theorem next_add (b : Builder) (node : Forest → Forest) : (b.add node).next = b.next := by
  unfold add
  split <;> rfl

theorem numbered_flush {first : ℕ} {b : Builder} (h : b.Numbered first) : b.flush.Numbered first := by
  unfold flush
  split
  · exact h
  · rename_i t _
    have hp := b.numbers_add (.text b.next (tidy b.keeps t)) [b.next] fun g => .refl _
    exact (Fresh.cons h).perm hp

theorem numbers_pop (b : Builder) : b.pop.numbers.Perm b.numbers := by
  unfold pop
  split
  · exact .refl _
  · rename_i frame frames hf
    have hp := Builder.numbers_add { b with frames }
      (.element frame.id frame.name frame.attributes frame.children.reverse)
      (frame.id :: frame.children.reverse.numbers) fun g => .refl _
    refine hp.trans ?_
    simp only [numbers, hf, List.flatMap_cons, List.cons_append, List.append_assoc]
    exact .cons _ (frame.children.numbers_reverse.append_right _)

theorem next_pop (b : Builder) : b.pop.next = b.next := by
  unfold pop
  split
  · rfl
  · rw [next_add]

theorem numbered_pop {first : ℕ} {b : Builder} (h : b.Numbered first) : b.pop.Numbered first := by
  unfold Numbered
  rw [next_pop]
  exact Fresh.perm h (numbers_pop b)

theorem numbered_repeat_pop {first : ℕ} (n : ℕ) {b : Builder} (h : b.Numbered first) : (n.repeat pop b).Numbered first := by
  induction n with
  | zero => exact h
  | succ n ih => exact numbered_pop ih

theorem numbered_close {first : ℕ} {b : Builder} (name : Text) (h : b.Numbered first) : (b.close name).Numbered first := by
  unfold close closeTo
  split
  · exact numbered_repeat_pop _ (numbered_flush h)
  · exact numbered_flush h

theorem numbered_opening {first : ℕ} {b : Builder} (name : Text) (attributes : List Attribute) (h : b.Numbered first) :
    (b.opening name attributes).Numbered first :=
  Fresh.cons (numbered_flush h)

/-- **A token keeps the invariant.** -/
theorem numbered_step {first : ℕ} {b : Builder} (token : Token) (h : b.Numbered first) : (b.step token).Numbered first := by
  cases token with
  | text t => exact h
  | special kind content =>
    have hf := numbered_flush h
    have hp := b.flush.numbers_add (.special b.flush.next kind (tidy b.flush.keeps content)) [b.flush.next]
      fun g => .refl _
    exact (Fresh.cons hf).perm hp
  | opening name attributes =>
    have ho := numbered_opening name attributes h
    simp only [step]
    split
    · exact numbered_close name ho
    · exact ho
  | closed name attributes => exact numbered_close name (numbered_opening name attributes h)
  | closing name =>
    simp only [step, closeTag]
    split
    · exact h
    · exact numbered_close name h

theorem numbered_foldl_step {first : ℕ} (tokens : List Token) {b : Builder} (h : b.Numbered first) :
    (tokens.foldl step b).Numbered first := by
  induction tokens generalizing b with
  | nil => exact h
  | cons token tokens ih => exact ih (numbered_step token h)

theorem fresh_finish {first : ℕ} {b : Builder} (h : b.Numbered first) : Fresh first b.finish.2 b.finish.1.numbers := by
  have hf := numbered_repeat_pop b.flush.frames.length (numbered_flush h)
  exact (Fresh.sublist hf (List.sublist_append_right _ _)).perm (Forest.numbers_reverse _)

end Builder

/-- **Parsed nodes have new numbers**, distinct and in a range of their own. -/
theorem fresh_parse {first next : ℕ} {t : Text} {f : Forest} (h : parse first t = .ok (f, next)) :
    Fresh first next f.numbers := by
  obtain ⟨tokens, -, hp⟩ := Token.eq_of_map_eq_ok h
  have hstart : Builder.Numbered first { next := first } := Fresh.nil first
  have hf := Builder.fresh_finish (Builder.numbered_foldl_step tokens hstart)
  rwa [hp] at hf

end Transclude.Markup
