/-
The composed normal form is its own normal form.

Composing joins letters with marks that stand behind them, perhaps with other marks in between. A mark that is joined has a higher
class than the marks it passes, so taking the result apart and ordering its marks brings it back to where it was. `Follows` carries
this along the run: what has been composed so far still comes apart to what has been read.

- `ordered_orderMarks`: ordering brings marks in order.
- `orderMarks_takenApart`: whole characters in order are what comes of taking apart what they are composed to.
- `composed_composed`: composing a composed text changes nothing.
-/
import Transclude.Proofs.Text.TakingApart

namespace Transclude.Text

/-! ## Marks in order -/

/-- two neighbours that no ordering of marks would exchange -/
def InOrder (a b : ℕ) : Prop := combiningClass b = 0 ∨ combiningClass a ≤ combiningClass b

/-- code points with their marks in order -/
def Ordered (ns : List ℕ) : Prop := ns.IsChain InOrder

/-- a mark is put where it belongs -/
theorem placeMark_of_inOrder {done : List ℕ} {n : ℕ} (h : ∀ last ∈ done.head?, InOrder last n) : placeMark done n = n :: done := by
  unfold placeMark
  split
  · rfl
  · rename_i hn
    cases done with
    | nil => rfl
    | cons last before =>
      have hle : combiningClass last ≤ combiningClass n := (h last rfl).resolve_left hn
      rw [insertMark, if_neg (by omega)]

theorem foldl_placeMark_of_ordered {done ns : List ℕ} (h : Ordered (done.reverse ++ ns)) :
    ns.foldl placeMark done = ns.reverse ++ done := by
  induction ns generalizing done with
  | nil => rfl
  | cons n ns ih =>
    have hplace : placeMark done n = n :: done := by
      apply placeMark_of_inOrder
      intro last hlast
      obtain ⟨-, -, hmeet⟩ := List.isChain_append.1 h
      exact hmeet last (by rwa [List.getLast?_reverse]) n rfl
    have hrest : Ordered ((n :: done).reverse ++ ns) := by
      rwa [List.reverse_cons, List.append_assoc, List.singleton_append]
    rw [List.foldl_cons, hplace, ih hrest, List.reverse_cons, List.append_assoc, List.singleton_append]

theorem head?_insertMark {n m : ℕ} {ns : List ℕ} (h : m ∈ (insertMark n ns).head?) : m = n ∨ m ∈ ns.head? := by
  cases ns with
  | nil => exact Or.inl (Option.some.inj h).symm
  | cons last before =>
    unfold insertMark at h
    split at h
    · exact Or.inr h
    · exact Or.inl (Option.some.inj h).symm

theorem isChain_insertMark (n : ℕ) {ns : List ℕ} (h : ns.IsChain fun a b => InOrder b a) :
    (insertMark n ns).IsChain fun a b => InOrder b a := by
  induction ns with
  | nil => exact .singleton n
  | cons last before ih =>
    obtain ⟨hhead, hbefore⟩ := List.isChain_cons.1 h
    unfold insertMark
    split
    · rename_i hlt
      refine List.isChain_cons.2 ⟨?_, ih hbefore⟩
      intro m hm
      rcases head?_insertMark hm with rfl | hm
      · exact Or.inr hlt.le
      · exact hhead m hm
    · rename_i hle
      refine List.isChain_cons.2 ⟨?_, h⟩
      intro m hm
      obtain rfl := Option.some.inj hm
      exact Or.inr (not_lt.1 hle)

theorem isChain_foldl_placeMark (ns : List ℕ) {done : List ℕ} (h : done.IsChain fun a b => InOrder b a) :
    (ns.foldl placeMark done).IsChain fun a b => InOrder b a := by
  induction ns generalizing done with
  | nil => exact h
  | cons n ns ih =>
    apply ih
    unfold placeMark
    split
    · rename_i hn
      exact List.isChain_cons.2 ⟨fun _ _ => Or.inl hn, h⟩
    · exact isChain_insertMark n h

/-- **Ordering brings marks in order.** -/
theorem ordered_orderMarks (ns : List ℕ) : Ordered (orderMarks ns) := by
  rw [orderMarks_eq, Ordered, List.isChain_reverse]
  exact isChain_foldl_placeMark ns .nil

/-- marks of different classes may be inserted one before the other -/
theorem insertMark_comm {a b : ℕ} (h : combiningClass a < combiningClass b) (ns : List ℕ) :
    insertMark a (insertMark b ns) = insertMark b (insertMark a ns) := by
  induction ns with
  | nil => simp [insertMark, h, not_lt.2 h.le]
  | cons last before ih =>
    by_cases hb : combiningClass b < combiningClass last
    · have ha : combiningClass a < combiningClass last := h.trans hb
      simp only [insertMark, if_pos hb, if_pos ha, ih]
    · by_cases ha : combiningClass a < combiningClass last
      · simp only [insertMark, if_neg hb, if_pos ha, if_pos h]
      · simp only [insertMark, if_neg hb, if_neg ha, if_pos h, if_neg (not_lt.2 h.le)]

/-- a mark may be placed in front of marks of lower classes -/
theorem foldl_placeMark_comm {ms : List ℕ} {n : ℕ} (h : ∀ m ∈ ms, combiningClass m ≠ 0 ∧ combiningClass m < combiningClass n)
    (done : List ℕ) : ms.foldl placeMark (placeMark done n) = placeMark (ms.foldl placeMark done) n := by
  induction ms generalizing done with
  | nil => rfl
  | cons m ms ih =>
    obtain ⟨⟨hm, hlt⟩, hms⟩ := List.forall_mem_cons.1 h
    have hn : combiningClass n ≠ 0 := by omega
    have hcomm : placeMark (placeMark done n) m = placeMark (placeMark done m) n := by
      simp only [placeMark, if_neg hm, if_neg hn, insertMark_comm hlt]
    rw [List.foldl_cons, List.foldl_cons, hcomm, ih hms]

/-! ## Composing and taking apart -/

/-- what some characters are taken apart to -/
def takenApart (ns : List ℕ) : List ℕ := ns.flatMap (decomposeChar 4)

theorem takenApart_append (ns ms : List ℕ) : takenApart (ns ++ ms) = takenApart ns ++ takenApart ms := List.flatMap_append

theorem takenApart_of_whole {ns : List ℕ} (h : ∀ n ∈ ns, Whole n) : takenApart ns = ns := by
  induction ns with
  | nil => rfl
  | cons n ns ih =>
    obtain ⟨hn, hns⟩ := List.forall_mem_cons.1 h
    have hcons : takenApart (n :: ns) = decomposeChar 4 n ++ takenApart ns := rfl
    rw [hcons, hn.decomposeChar, ih hns, List.singleton_append]

namespace Composing

variable {s : Composing} {n : ℕ} {ns : List ℕ}

/-- a mark joins the letter past marks of lower classes only -/
theorem lt_of_joined? {marks : List ℕ} {letter joined : ℕ} (h : joined? marks letter n = some joined) :
    joinPair? letter n = some joined ∧ ∀ m ∈ marks.head?, combiningClass m < combiningClass n := by
  obtain ⟨hfree, hjoin⟩ := Option.ite_none_left_eq_some.1 h
  refine ⟨hjoin, ?_⟩
  intro m hm
  cases marks with
  | nil => cases hm
  | cons last marks =>
    obtain rfl := Option.some.inj hm
    simpa using hfree

/-- composing has read `ns`, and what it has made of them comes apart to them again -/
structure Follows (ns : List ℕ) (s : Composing) : Prop where
  recovers : (takenApart s.result).foldl placeMark [] = ns.reverse
  wellFormed : s.WellFormed
  whole : ∀ m ∈ s.marks, Whole m ∧ combiningClass m ≠ 0
  sorted : s.marks.Pairwise fun a b => combiningClass b ≤ combiningClass a
  bounded : ∀ m ∈ s.marks, ∃ last ∈ ns.getLast?, combiningClass m ≤ combiningClass last

/-- without marks behind the letter there is nothing to keep but the text itself -/
theorem Follows.of_marks_eq_nil (hrecovers : (takenApart s.result).foldl placeMark [] = ns.reverse) (hmarks : s.marks = []) :
    Follows ns s := by
  refine ⟨hrecovers, fun _ => hmarks, ?_, ?_, ?_⟩
  all_goals simp [hmarks]

/-- a mark that joins the letter is of a higher class than all the marks that it passes -/
theorem Follows.lt_of_joined? (h : Follows ns s) {letter joined : ℕ} (hj : joined? s.marks letter n = some joined) :
    ∀ m ∈ s.marks, combiningClass m < combiningClass n := by
  intro m hm
  have hhead := (Composing.lt_of_joined? hj).2
  have hsorted := h.sorted
  cases hmarks : s.marks with
  | nil => exact absurd (hmarks ▸ hm) List.not_mem_nil
  | cons top marks =>
    rw [hmarks] at hm hhead hsorted
    have htop : combiningClass top < combiningClass n := hhead top rfl
    rcases List.mem_cons.1 hm with rfl | hm
    · exact htop
    · exact lt_of_le_of_lt ((List.pairwise_cons.1 hsorted).1 m hm) htop

theorem placeMark_reverse (hordered : Ordered (ns ++ [n])) : placeMark ns.reverse n = (ns ++ [n]).reverse := by
  have hbehind : Ordered (ns.reverse.reverse ++ [n]) := by rwa [List.reverse_reverse]
  rw [List.reverse_append]
  exact foldl_placeMark_of_ordered hbehind

/-- a code point that is only added comes apart behind the others -/
theorem Follows.recovers_added (h : Follows ns s) (hn : Whole n) (hordered : Ordered (ns ++ [n])) :
    (takenApart (s.result ++ [n])).foldl placeMark [] = (ns ++ [n]).reverse := by
  calc (takenApart (s.result ++ [n])).foldl placeMark []
      = (takenApart s.result ++ [n]).foldl placeMark [] := by
        rw [takenApart_append, takenApart_of_whole (List.forall_mem_singleton.2 hn)]
    _ = placeMark ns.reverse n := by rw [List.foldl_concat, h.recovers]
    _ = (ns ++ [n]).reverse := placeMark_reverse hordered

/-- a code point that joins the letter comes apart in front of the marks that it passed, and goes back behind them -/
theorem Follows.recovers_joined (h : Follows ns s) (hn : Whole n) (hordered : Ordered (ns ++ [n])) {letter joined : ℕ}
    (hl : s.letter = some letter) (hj : joined? s.marks letter n = some joined) :
    (takenApart { s with letter := some joined }.result).foldl placeMark [] = (ns ++ [n]).reverse := by
  have hresult : ∀ l, { s with letter := some l }.result = s.done.reverse ++ ([l] ++ s.marks.reverse) := by
    simp [result]
  have hsame : { s with letter := some letter } = s := by rw [← hl]
  have hmarks : takenApart s.marks.reverse = s.marks.reverse :=
    takenApart_of_whole fun m hm => (h.whole m (List.mem_reverse.1 hm)).1
  have hpassed : ∀ m ∈ s.marks.reverse, combiningClass m ≠ 0 ∧ combiningClass m < combiningClass n := by
    intro m hm
    rw [List.mem_reverse] at hm
    exact ⟨(h.whole m hm).2, h.lt_of_joined? hj m hm⟩
  have hparts : takenApart [joined] = takenApart [letter] ++ [n] := by
    simp [takenApart, decomposeChar_of_joinPair? (Composing.lt_of_joined? hj).1, hn.decomposeChar]
  -- the run over what has been composed so far, cut in front of the marks
  have hbefore : s.marks.reverse.foldl placeMark ((takenApart s.done.reverse ++ takenApart [letter]).foldl placeMark []) =
      ns.reverse := by
    rw [← h.recovers, ← hsame, hresult, takenApart_append, takenApart_append, hmarks]
    simp only [List.foldl_append]
  calc (takenApart { s with letter := some joined }.result).foldl placeMark []
      = (takenApart s.done.reverse ++ (takenApart [letter] ++ [n] ++ s.marks.reverse)).foldl placeMark [] := by
        rw [hresult, takenApart_append, takenApart_append, hmarks, hparts]
    _ = s.marks.reverse.foldl placeMark
          (placeMark ((takenApart s.done.reverse ++ takenApart [letter]).foldl placeMark []) n) := by
        simp only [List.foldl_append, List.foldl_cons, List.foldl_nil]
    _ = placeMark ns.reverse n := by rw [foldl_placeMark_comm hpassed, hbefore]
    _ = (ns ++ [n]).reverse := placeMark_reverse hordered

/-- **What has been composed comes apart to what has been read**, one step further. -/
theorem Follows.step (h : Follows ns s) (hn : Whole n) (hordered : Ordered (ns ++ [n])) : Follows (ns ++ [n]) (s.step n) := by
  have hadded := h.recovers_added hn hordered
  cases hl : s.letter with
  | none =>
    have hnone : s.marks = [] := h.wellFormed hl
    have hresult : s.result = s.done.reverse := by simp [result, hnone, hl]
    rw [hresult] at hadded
    rw [step_of_none hl]
    split
    · exact .of_marks_eq_nil (by simpa [result, hnone] using hadded) hnone
    · exact .of_marks_eq_nil (by simpa [result, hnone, hl] using hadded) hnone
  | some letter =>
    have hlast : n ∈ (ns ++ [n]).getLast? := List.getLast?_concat
    rw [step_of_letter hl]
    cases hj : joined? s.marks letter n with
    | some joined =>
      refine ⟨h.recovers_joined hn hordered hl hj, ?_, h.whole, h.sorted, ?_⟩
      · intro hnone
        cases hnone
      · intro m hm
        exact ⟨n, hlast, (h.lt_of_joined? hj m hm).le⟩
    | none =>
      have hresult : s.result ++ [n] = s.done.reverse ++ letter :: (s.marks.reverse ++ [n]) := by simp [result, hl]
      rw [hresult] at hadded
      dsimp only
      split
      · exact .of_marks_eq_nil (by simpa [result] using hadded) rfl
      · rename_i hmark
        have hbelow : ∀ m ∈ s.marks, combiningClass m ≤ combiningClass n := by
          intro m hm
          obtain ⟨last, hread, hle⟩ := h.bounded m hm
          obtain ⟨-, -, hmeet⟩ := List.isChain_append.1 hordered
          exact hle.trans ((hmeet last hread n rfl).resolve_left hmark)
        refine ⟨by simpa [result, hl] using hadded, fun hnone => ?_, ?_, ?_, ?_⟩
        · rw [hl] at hnone
          cases hnone
        · exact List.forall_mem_cons.2 ⟨⟨hn, hmark⟩, h.whole⟩
        · exact List.pairwise_cons.2 ⟨hbelow, h.sorted⟩
        · exact List.forall_mem_cons.2 ⟨⟨n, hlast, le_rfl⟩, fun m hm => ⟨n, hlast, hbelow m hm⟩⟩

theorem Follows.run {rest : List ℕ} (h : Follows ns s) (hwhole : ∀ n ∈ rest, Whole n) (hordered : Ordered (ns ++ rest)) :
    Follows (ns ++ rest) (rest.foldl Composing.step s) := by
  induction rest generalizing ns s with
  | nil =>
    rw [List.append_nil]
    exact h
  | cons n rest ih =>
    obtain ⟨hn, hrest⟩ := List.forall_mem_cons.1 hwhole
    have hcut : ns ++ n :: rest = ns ++ [n] ++ rest := by simp
    rw [hcut] at hordered ⊢
    exact ih (h.step hn (List.isChain_append.1 hordered).1) hrest hordered

/-- **Composing loses nothing.** Whole characters in order are what comes of taking apart what they are composed to. -/
theorem orderMarks_takenApart (hwhole : ∀ n ∈ ns, Whole n) (hordered : Ordered ns) :
    orderMarks (takenApart (ns.foldl Composing.step {}).result) = ns := by
  have hstart : Follows [] {} := .of_marks_eq_nil rfl rfl
  have hrun : Follows ns (ns.foldl Composing.step {}) := hstart.run hwhole hordered
  rw [orderMarks_eq, hrun.recovers, List.reverse_reverse]

end Composing

/-! ## The normal form -/

theorem isValidChar_of_mem_composedCodes {t : Text} {n : ℕ} (h : n ∈ composedCodes t) : n.isValidChar := by
  rcases Composing.mem_result_foldl h with hns | hnil | ⟨a, b, hj⟩
  · obtain ⟨c, -, hc⟩ := List.mem_flatMap.1 ((orderMarks_perm _).mem_iff.1 hns)
    exact isValidChar_of_mem_decomposeChar c.valid hc
  · exact absurd hnil List.not_mem_nil
  · exact isValidChar_of_joinPair? hj

/-- the normal form is taken apart like its code points -/
theorem takenApart_composed (t : Text) :
    ((composed t).flatMap fun c => decomposeChar 4 c.toNat) = takenApart (composedCodes t) := by
  rw [composed_eq, List.flatMap_map, takenApart]
  apply List.flatMap_congr
  intro n hn
  have hchar : Char.ofNat n = Char.ofNatAux n (isValidChar_of_mem_composedCodes hn) := dif_pos _
  rw [hchar]
  rfl

/-- **The composed normal form is its own normal form.** -/
theorem composed_composed (t : Text) : composed (composed t) = composed t := by
  let apart := orderMarks (t.flatMap fun c => decomposeChar 4 c.toNat)
  have hwhole : ∀ n ∈ apart, Whole n := by
    intro n hn
    obtain ⟨c, -, hc⟩ := List.mem_flatMap.1 ((orderMarks_perm _).mem_iff.1 hn)
    exact whole_of_mem_decomposeChar hc
  have hagain : orderMarks (takenApart (composedCodes t)) = apart :=
    Composing.orderMarks_takenApart hwhole (ordered_orderMarks _)
  have hcodes : composedCodes (composed t) = composedCodes t := by
    rw [composedCodes, takenApart_composed, hagain]
    rfl
  rw [composed_eq (composed t), hcodes, ← composed_eq]

end Transclude.Text
