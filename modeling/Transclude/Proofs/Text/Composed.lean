/-
How the composed normal form treats characters that no table changes.

A code point is `Unmade` when nothing is composed or taken apart to it, and `Inert` when besides nothing is composed with it and
it is no mark. The three passes of the normal form are followed one after the other: taking apart, ordering, composing.

- `mem_of_mem_composed`: an unmade character of the normal form stands in the text.
- `composed_append`: an inert character cuts the normal form in two; what stands on its one side has no effect on the other.
- `composed_eq_iff`: a text of inert characters is the normal form of itself and of nothing else.
-/
import Mathlib.Tactic
import Transclude.Text.Composed

namespace Transclude.Text

/-- no composition and no decomposition makes this code point -/
structure Unmade (n : ℕ) : Prop where
  pos : 0 < n
  not_letter : n < 0x1100 ∨ 0x11FF < n
  not_syllable : n < syllableBase ∨ syllableBase + 11172 ≤ n
  composed : ∀ r ∈ composedPairs, r.1 ≠ n ∧ r.2.1 ≠ n ∧ r.2.2 ≠ n
  replaced : ∀ r ∈ replacedSingles, r.2 ≠ n
  decomposed : ∀ r ∈ decomposedPairs, r.2.1 ≠ n ∧ r.2.2 ≠ n

/-- an unmade code point in front of all marks and all characters that are taken apart -/
structure Inert (n : ℕ) : Prop extends Unmade n where
  low : n < 0xC0

/-- the tables name no code point below the semicolon -/
theorem inert_of_lt {n : ℕ} (hpos : 0 < n) (h : n < 0x3B) : Inert n := by
  have hcomposed : ∀ r ∈ composedPairs, 0x3B ≤ r.1 ∧ 0x3B ≤ r.2.1 ∧ 0x3B ≤ r.2.2 := by decide +kernel
  have hreplaced : ∀ r ∈ replacedSingles, 0x3B ≤ r.2 := by decide +kernel
  have hdecomposed : ∀ r ∈ decomposedPairs, 0x3B ≤ r.2.1 ∧ 0x3B ≤ r.2.2 := by decide +kernel
  refine ⟨⟨hpos, Or.inl (by omega), Or.inl (by unfold syllableBase; omega), fun r hr => ?_, fun r hr => ?_,
    fun r hr => ?_⟩, by omega⟩
  · obtain ⟨h1, h2, h3⟩ := hcomposed r hr
    omega
  · have h1 := hreplaced r hr
    omega
  · obtain ⟨h1, h2⟩ := hdecomposed r hr
    omega

/-! ## Taking apart -/

/-- a syllable is taken apart to letters of its alphabet -/
theorem letters_of_splitSyllable? {m : ℕ} {letters : List ℕ} (h : splitSyllable? m = some letters) :
    letters ≠ [] ∧ ∀ n ∈ letters, 0x1100 ≤ n ∧ n ≤ 0x11FF := by
  unfold splitSyllable? at h
  split at h
  · rename_i hm
    obtain rfl := Option.some.inj h
    unfold syllableBase leadBase vowelBase trailBase at *
    split
    · refine ⟨List.cons_ne_nil _ _, fun n hn => ?_⟩
      simp only [List.mem_cons, List.not_mem_nil, or_false] at hn
      omega
    · refine ⟨List.append_ne_nil_of_left_ne_nil (List.cons_ne_nil _ _) _, fun n hn => ?_⟩
      simp only [List.mem_append, List.mem_cons, List.not_mem_nil, or_false] at hn
      omega
  · cases h

/-- what the tables take a character apart to -/
theorem splitOnce?_cases {m : ℕ} {parts : List ℕ} (h : splitOnce? m = some parts) :
    (∃ r ∈ composedPairs, parts = [r.2.1, r.2.2]) ∨ (∃ r ∈ replacedSingles, parts = [r.2]) ∨
      ∃ r ∈ decomposedPairs, parts = [r.2.1, r.2.2] := by
  unfold splitOnce? at h
  split at h
  · cases h
  · split at h
    · rename_i r hr
      exact Or.inl ⟨r, List.mem_of_find?_eq_some hr, (Option.some.inj h).symm⟩
    · split at h
      · rename_i r hr
        exact Or.inr (Or.inl ⟨r, List.mem_of_find?_eq_some hr, (Option.some.inj h).symm⟩)
      · obtain ⟨r, hr, rfl⟩ := Option.map_eq_some_iff.1 h
        exact Or.inr (Or.inr ⟨r, List.mem_of_find?_eq_some hr, rfl⟩)

theorem Inert.decomposeChar {n : ℕ} (h : Inert n) (depth : ℕ) : decomposeChar depth n = [n] := by
  cases depth with
  | zero => rfl
  | succ depth =>
    have hn := h.low
    have hsyllable : splitSyllable? n = none := by
      rw [splitSyllable?, if_neg]
      unfold syllableBase
      omega
    have hsplit : splitOnce? n = none := by rw [splitOnce?, if_pos hn]
    simp only [Text.decomposeChar, hsyllable, hsplit]

theorem Unmade.not_mem_splitOnce? {n m : ℕ} {parts : List ℕ} (h : Unmade n) (hs : splitOnce? m = some parts) :
    n ∉ parts := by
  rcases splitOnce?_cases hs with ⟨r, hr, rfl⟩ | ⟨r, hr, rfl⟩ | ⟨r, hr, rfl⟩
  · obtain ⟨-, h1, h2⟩ := h.composed r hr
    simp [Ne.symm h1, Ne.symm h2]
  · simp [Ne.symm (h.replaced r hr)]
  · obtain ⟨h1, h2⟩ := h.decomposed r hr
    simp [Ne.symm h1, Ne.symm h2]

/-- an unmade code point comes from itself -/
theorem Unmade.eq_of_mem_decomposeChar {n : ℕ} (h : Unmade n) {depth m : ℕ} (hn : n ∈ decomposeChar depth m) : m = n := by
  induction depth generalizing m with
  | zero => exact (List.mem_singleton.1 hn).symm
  | succ depth ih =>
    unfold Text.decomposeChar at hn
    split at hn
    · rename_i letters hs
      have hletter := (letters_of_splitSyllable? hs).2 n hn
      have hnot := h.not_letter
      omega
    · split at hn
      · rename_i parts hs
        obtain ⟨part, hpart, hmem⟩ := List.mem_flatMap.1 hn
        exact absurd (ih hmem ▸ hpart) (h.not_mem_splitOnce? hs)
      · exact (List.mem_singleton.1 hn).symm

theorem decomposeChar_ne_nil (depth n : ℕ) : decomposeChar depth n ≠ [] := by
  induction depth generalizing n with
  | zero => exact List.cons_ne_nil _ _
  | succ depth ih =>
    unfold decomposeChar
    split
    · rename_i letters hs
      exact (letters_of_splitSyllable? hs).1
    · split
      · rename_i parts hs
        obtain ⟨part, hpart⟩ : ∃ part, part ∈ parts := by
          rcases splitOnce?_cases hs with ⟨r, -, rfl⟩ | ⟨r, -, rfl⟩ | ⟨r, -, rfl⟩ <;> exact ⟨_, List.mem_cons_self⟩
        intro hnil
        exact ih part (List.flatMap_eq_nil_iff.1 hnil part hpart)
      · exact List.cons_ne_nil _ _

/-! ## Ordering marks -/

theorem Inert.combiningClass {n : ℕ} (h : Inert n) : combiningClass n = 0 := by
  have hn := h.low
  rw [Text.combiningClass, if_pos (by omega)]

/-- what one more code point does to the reversed text -/
def placeMark (done : List ℕ) (n : ℕ) : List ℕ := if combiningClass n = 0 then n :: done else insertMark n done

theorem orderMarks_eq (ns : List ℕ) : orderMarks ns = (ns.foldl placeMark []).reverse := rfl

theorem insertMark_perm (n : ℕ) (ns : List ℕ) : (insertMark n ns).Perm (n :: ns) := by
  induction ns with
  | nil => exact .refl _
  | cons last before ih =>
    unfold insertMark
    split
    · exact (ih.cons last).trans (.swap n last before)
    · exact .refl _

theorem orderMarks_perm (ns : List ℕ) : (orderMarks ns).Perm ns := by
  have hfold : ∀ done, (ns.foldl placeMark done).Perm (ns ++ done) := by
    induction ns with
    | nil => exact fun done => .refl _
    | cons n ns ih =>
      intro done
      rw [List.foldl_cons]
      refine (ih _).trans (.trans (.append_left ns ?_) List.perm_middle)
      unfold placeMark
      split
      · exact .refl _
      · exact insertMark_perm n done
  rw [orderMarks_eq]
  exact (List.reverse_perm _).trans (by simpa using hfold [])

/-- no mark goes past an inert code point -/
theorem insertMark_append {n : ℕ} (h : Inert n) (m : ℕ) (ns base : List ℕ) :
    insertMark m (ns ++ n :: base) = insertMark m ns ++ n :: base := by
  induction ns with
  | nil => simp [insertMark, h.combiningClass]
  | cons last before ih =>
    simp only [List.cons_append, insertMark, ih]
    split <;> rfl

theorem orderMarks_append {n : ℕ} (h : Inert n) (ns ms : List ℕ) :
    orderMarks (ns ++ n :: ms) = orderMarks ns ++ n :: orderMarks ms := by
  have hfold : ∀ done base, ms.foldl placeMark (done ++ n :: base) = ms.foldl placeMark done ++ n :: base := by
    induction ms with
    | nil => exact fun _ _ => rfl
    | cons m ms ih =>
      intro done base
      have hplace : placeMark (done ++ n :: base) m = placeMark done m ++ n :: base := by
        unfold placeMark
        split
        · rfl
        · exact insertMark_append h m done base
      rw [List.foldl_cons, List.foldl_cons, hplace, ih]
  have hplace : placeMark (ns.foldl placeMark []) n = n :: ns.foldl placeMark [] := if_pos h.combiningClass
  rw [orderMarks_eq, orderMarks_eq, orderMarks_eq, List.foldl_append, List.foldl_cons, hplace]
  have hms := hfold [] (ns.foldl placeMark [])
  rw [List.nil_append] at hms
  rw [hms, List.reverse_append, List.reverse_cons, List.append_assoc, List.singleton_append]

/-! ## Composing -/

/-- an inert code point joins with nothing, on either side -/
theorem Inert.joinPair? {n a b : ℕ} (h : Inert n) (hab : a = n ∨ b = n) : joinPair? a b = none := by
  have hn := h.low
  have hsyllable : joinSyllable? a b = none := by
    unfold joinSyllable? leadBase vowelBase syllableBase trailBase
    rw [if_neg (by omega), if_neg (by omega)]
  have hpair : (composedPairs.find? fun r => r.2.1 == a && r.2.2 == b) = none := by
    rw [List.find?_eq_none]
    intro r hr hboth
    obtain ⟨-, h1, h2⟩ := h.composed r hr
    rw [Bool.and_eq_true, beq_iff_eq, beq_iff_eq] at hboth
    rcases hab with rfl | rfl
    · exact h1 hboth.1
    · exact h2 hboth.2
  rw [Text.joinPair?, hsyllable, hpair]
  rfl

theorem Unmade.ne_of_joinPair? {n a b m : ℕ} (h : Unmade n) (hj : joinPair? a b = some m) : m ≠ n := by
  have hn := h.not_syllable
  unfold joinPair? at hj
  split at hj
  · rename_i syllable hs
    obtain rfl := Option.some.inj hj
    unfold joinSyllable? at hs
    unfold syllableBase leadBase vowelBase trailBase at *
    split at hs
    · have hs := Option.some.inj hs
      omega
    · split at hs
      · have hs := Option.some.inj hs
        omega
      · cases hs
  · obtain ⟨r, hr, rfl⟩ := Option.map_eq_some_iff.1 hj
    exact (h.composed r (List.mem_of_find?_eq_some hr)).1

namespace Composing

variable {s : Composing} {n : ℕ}

/-! ### What one step can do -/

/-- in front of the first letter -/
theorem step_of_none (h : s.letter = none) :
    s.step n = if combiningClass n = 0 then { s with letter := some n } else { s with done := n :: s.done } := by
  simp only [step, h]

/-- what a code point makes of a letter with marks behind it, if it joins the letter -/
def joined? (marks : List ℕ) (letter n : ℕ) : Option ℕ :=
  let blocked := match marks with
    | [] => false
    | m :: _ => combiningClass n ≤ combiningClass m
  if blocked then none else joinPair? letter n

theorem step_of_letter {letter : ℕ} (h : s.letter = some letter) :
    s.step n = match joined? s.marks letter n with
      | some joined => { s with letter := some joined }
      | none => if combiningClass n = 0 then { done := s.marks ++ letter :: s.done, letter := some n, marks := [] }
        else { s with marks := n :: s.marks } := by
  simp only [step, h]
  rfl

/-- behind a letter: the letter is joined, or it is finished, or the code point is one more mark of it -/
theorem step_cases {letter : ℕ} (h : s.letter = some letter) :
    (∃ joined, joinPair? letter n = some joined ∧ s.step n = { s with letter := some joined }) ∨
    (combiningClass n = 0 ∧ s.step n = { done := s.marks ++ letter :: s.done, letter := some n, marks := [] }) ∨
    (combiningClass n ≠ 0 ∧ s.step n = { s with marks := n :: s.marks }) := by
  rw [step_of_letter h]
  cases hj : joined? s.marks letter n with
  | some joined => exact Or.inl ⟨joined, (Option.ite_none_left_eq_some.1 hj).2, rfl⟩
  | none =>
    by_cases hn : combiningClass n = 0
    · exact Or.inr (Or.inl ⟨hn, if_pos hn⟩)
    · exact Or.inr (Or.inr ⟨hn, if_neg hn⟩)

/-- what was finished before stays at the end of what is finished -/
theorem step_done {letter : ℕ} (h : s.letter = some letter) (base : List ℕ) :
    step { s with done := s.done ++ base } n = { s.step n with done := (s.step n).done ++ base } := by
  rw [step_of_letter h, step_of_letter (s := { s with done := s.done ++ base }) h]
  cases joined? s.marks letter n with
  | some joined => rfl
  | none =>
    dsimp only
    split
    · simp
    · rfl

theorem letter_step {letter : ℕ} (h : s.letter = some letter) : ∃ letter', (s.step n).letter = some letter' := by
  rcases step_cases (n := n) h with ⟨joined, -, hs⟩ | ⟨-, hs⟩ | ⟨-, hs⟩
  · exact ⟨joined, by rw [hs]⟩
  · exact ⟨n, by rw [hs]⟩
  · exact ⟨letter, by rw [hs]; exact h⟩

/-- marks stay behind a letter only -/
def WellFormed (s : Composing) : Prop := s.letter = none → s.marks = []

theorem wellFormed_step (h : s.WellFormed) : (s.step n).WellFormed := by
  cases hl : s.letter with
  | none =>
    rw [step_of_none hl]
    split
    · intro hnone
      cases hnone
    · exact fun _ => h hl
  | some letter =>
    obtain ⟨letter', hl'⟩ := letter_step (n := n) hl
    intro hnone
    rw [hl'] at hnone
    cases hnone

theorem wellFormed_foldl (h : s.WellFormed) (ns : List ℕ) : (ns.foldl step s).WellFormed := by
  induction ns generalizing s with
  | nil => exact h
  | cons n ns ih => exact ih (wellFormed_step h)

/-- a code point is never lost altogether -/
theorem result_step_ne_nil : (s.step n).result ≠ [] := by
  cases hl : s.letter with
  | none =>
    rw [step_of_none hl]
    split <;> simp [result]
  | some letter =>
    obtain ⟨letter', hl'⟩ := letter_step (n := n) hl
    simp [result, hl']

theorem mem_result_iff {m : ℕ} : m ∈ s.result ↔ m ∈ s.marks ∨ s.letter = some m ∨ m ∈ s.done := by
  rw [result, List.mem_reverse, List.mem_append, List.mem_append, Option.mem_toList]

/-- a step adds its code point, and it can make a composed one -/
theorem mem_result_step {m : ℕ} (h : m ∈ (s.step n).result) : m = n ∨ m ∈ s.result ∨ ∃ a b, joinPair? a b = some m := by
  rw [mem_result_iff] at h ⊢
  cases hl : s.letter with
  | none =>
    rw [step_of_none hl] at h
    split at h
    · rcases h with h | h | h
      · exact Or.inr (Or.inl (Or.inl h))
      · exact Or.inl (Option.some.inj h).symm
      · exact Or.inr (Or.inl (Or.inr (Or.inr h)))
    · rcases h with h | h | h
      · exact Or.inr (Or.inl (Or.inl h))
      · exact Or.inr (Or.inl (Or.inr (Or.inl (hl ▸ h))))
      · rcases List.mem_cons.1 h with h | h
        · exact Or.inl h
        · exact Or.inr (Or.inl (Or.inr (Or.inr h)))
  | some letter =>
    rcases step_cases (n := n) hl with ⟨joined, hj, hs⟩ | ⟨-, hs⟩ | ⟨-, hs⟩
    · rw [hs] at h
      rcases h with h | h | h
      · exact Or.inr (Or.inl (Or.inl h))
      · exact Or.inr (Or.inr ⟨letter, n, Option.some.inj h ▸ hj⟩)
      · exact Or.inr (Or.inl (Or.inr (Or.inr h)))
    · rw [hs] at h
      rcases h with h | h | h
      · exact absurd h List.not_mem_nil
      · exact Or.inl (Option.some.inj h).symm
      · rcases List.mem_append.1 h with h | h
        · exact Or.inr (Or.inl (Or.inl h))
        · rcases List.mem_cons.1 h with rfl | h
          · exact Or.inr (Or.inl (Or.inr (Or.inl rfl)))
          · exact Or.inr (Or.inl (Or.inr (Or.inr h)))
    · rw [hs] at h
      rcases h with h | h | h
      · rcases List.mem_cons.1 h with h | h
        · exact Or.inl h
        · exact Or.inr (Or.inl (Or.inl h))
      · exact Or.inr (Or.inl (Or.inr (Or.inl (hl ▸ h))))
      · exact Or.inr (Or.inl (Or.inr (Or.inr h)))

theorem mem_result_foldl {m : ℕ} {ns : List ℕ} (h : m ∈ (ns.foldl step s).result) :
    m ∈ ns ∨ m ∈ s.result ∨ ∃ a b, joinPair? a b = some m := by
  induction ns generalizing s with
  | nil => exact Or.inr (Or.inl h)
  | cons n ns ih =>
    rcases ih h with hns | hs | hmade
    · exact Or.inl (List.mem_cons_of_mem n hns)
    · rcases mem_result_step hs with rfl | hs
      · exact Or.inl List.mem_cons_self
      · exact Or.inr hs
    · exact Or.inr (Or.inr hmade)

/-- no unmade code point is made -/
theorem mem_of_mem_result_foldl {m : ℕ} (hm : Unmade m) {ns : List ℕ} (h : m ∈ (ns.foldl step s).result) :
    m ∈ ns ∨ m ∈ s.result := by
  rcases mem_result_foldl h with hns | hs | ⟨a, b, hj⟩
  · exact Or.inl hns
  · exact Or.inr hs
  · exact absurd rfl (hm.ne_of_joinPair? hj)

/-! ### Behind an inert code point -/

/-- an inert code point finishes the letter in front of it and takes its place -/
theorem step_of_inert (h : s.WellFormed) (hn : Inert n) :
    s.step n = { done := s.result.reverse, letter := some n, marks := [] } := by
  cases hl : s.letter with
  | none => simp [step_of_none hl, hn.combiningClass, result, hl, h hl]
  | some letter =>
    rcases step_cases (n := n) hl with ⟨joined, hj, -⟩ | ⟨-, hs⟩ | ⟨hne, -⟩
    · rw [hn.joinPair? (Or.inr rfl)] at hj
      cases hj
    · simp [hs, result, hl]
    · exact absurd hn.combiningClass hne

/-- composing that started behind an inert code point `n`, next to composing that started from nothing: before the next
letter the marks stay behind `n`, and from then on only what is finished differs -/
inductive Behind (n : ℕ) (base : List ℕ) : Composing → Composing → Prop
  | marks (done : List ℕ) : Behind n base { done := base, letter := some n, marks := done } { done }
  | letter (done marks : List ℕ) (letter : ℕ) :
      Behind n base { done := done ++ n :: base, letter := some letter, marks } { done, letter := some letter, marks }

theorem behind_step {base : List ℕ} {s' : Composing} (hn : Inert n) (h : Behind n base s s') (m : ℕ) :
    Behind n base (s.step m) (s'.step m) := by
  cases h with
  | marks done =>
    rw [step_of_none (s := { done }) rfl]
    rcases step_cases (n := m) (s := { done := base, letter := some n, marks := done }) rfl with
      ⟨joined, hj, -⟩ | ⟨hm, hs⟩ | ⟨hm, hs⟩
    · rw [hn.joinPair? (Or.inl rfl)] at hj
      cases hj
    · rw [hs, if_pos hm]
      exact .letter done [] m
    · rw [hs, if_neg hm]
      exact .marks (m :: done)
  | letter done marks letter =>
    rw [step_done (s := { done, letter := some letter, marks }) rfl]
    obtain ⟨letter', hl⟩ := letter_step (n := m) (s := { done, letter := some letter, marks }) rfl
    generalize step { done, letter := some letter, marks } m = next at hl
    obtain ⟨done', found, marks'⟩ := next
    obtain rfl := hl
    exact .letter done' marks' letter'

theorem behind_foldl {base : List ℕ} {s' : Composing} (hn : Inert n) (h : Behind n base s s') (ms : List ℕ) :
    Behind n base (ms.foldl step s) (ms.foldl step s') := by
  induction ms generalizing s s' with
  | nil => exact h
  | cons m ms ih => exact ih (behind_step hn h m)

theorem result_of_behind {base : List ℕ} {s' : Composing} (h : Behind n base s s') :
    s.result = base.reverse ++ n :: s'.result := by
  cases h with
  | marks done => simp [result]
  | letter done marks letter => simp [result]

theorem result_foldl_append (hn : Inert n) (ns ms : List ℕ) :
    ((ns ++ n :: ms).foldl step {}).result = (ns.foldl step {}).result ++ n :: (ms.foldl step {}).result := by
  have hwell : (ns.foldl step {}).WellFormed := wellFormed_foldl (fun _ => rfl) ns
  rw [List.foldl_append, List.foldl_cons, step_of_inert hwell hn, result_of_behind (behind_foldl hn (.marks []) ms),
    List.reverse_reverse]

end Composing

/-! ## The normal form -/

/-- the code points of the normal form -/
def composedCodes (t : Text) : List ℕ :=
  ((orderMarks (t.flatMap fun c => decomposeChar 4 c.toNat)).foldl Composing.step {}).result

theorem composed_eq (t : Text) : composed t = (composedCodes t).map Char.ofNat := rfl

/-- **An inert character cuts the normal form in two.** -/
theorem composed_append {c : Char} (h : Inert c.toNat) (a b : Text) :
    composed (a ++ c :: b) = composed a ++ c :: composed b := by
  have hcodes : composedCodes (a ++ c :: b) = composedCodes a ++ c.toNat :: composedCodes b := by
    unfold composedCodes
    rw [List.flatMap_append, List.flatMap_cons, h.decomposeChar, List.singleton_append, orderMarks_append h,
      Composing.result_foldl_append h]
  rw [composed_eq, hcodes, List.map_append, List.map_cons, Char.ofNat_toNat]
  rfl

theorem composed_nil : composed [] = [] := rfl

/-- **Nothing is lost altogether.** -/
theorem composed_eq_nil_iff {t : Text} : composed t = [] ↔ t = [] := by
  refine ⟨fun h => ?_, fun h => by rw [h, composed_nil]⟩
  rw [composed_eq, List.map_eq_nil_iff, composedCodes] at h
  have hcodes : orderMarks (t.flatMap fun c => decomposeChar 4 c.toNat) = [] := by
    rcases List.eq_nil_or_concat (orderMarks (t.flatMap fun c => decomposeChar 4 c.toNat)) with hnil | ⟨ns, n, hns⟩
    · exact hnil
    · rw [hns, List.concat_eq_append, List.foldl_concat] at h
      exact absurd h Composing.result_step_ne_nil
  have hnil := (hcodes ▸ orderMarks_perm _).symm.eq_nil
  cases t with
  | nil => rfl
  | cons c t => exact absurd (List.flatMap_eq_nil_iff.1 hnil c List.mem_cons_self) (decomposeChar_ne_nil 4 c.toNat)

/-- **Unmade characters are not made.** -/
theorem mem_of_mem_composed {c : Char} (h : Unmade c.toNat) {t : Text} (hc : c ∈ composed t) : c ∈ t := by
  rw [composed_eq] at hc
  obtain ⟨n, hn, hnc⟩ := List.mem_map.1 hc
  have hcode : n = c.toNat := by
    by_cases hv : n.isValidChar
    · have hchar : Char.ofNat n = Char.ofNatAux n hv := dif_pos hv
      rw [← hnc, hchar]
      rfl
    -- a number that is no character counts as the character zero, which is not unmade
    · have hzero : Char.ofNat n = '\x00' := dif_neg hv
      rw [← hnc, hzero] at h
      exact absurd h.pos (lt_irrefl 0)
  subst hcode
  rcases Composing.mem_of_mem_result_foldl h hn with hmem | hmem
  · obtain ⟨d, hd, hdc⟩ := List.mem_flatMap.1 ((orderMarks_perm _).mem_iff.1 hmem)
    exact Char.toNat_inj.1 (h.eq_of_mem_decomposeChar hdc) ▸ hd
  · exact absurd hmem List.not_mem_nil

/-- **Inert texts have no other text as their normal form.** -/
theorem composed_eq_iff {w t : Text} (hw : ∀ c ∈ w, Inert c.toNat) : composed t = w ↔ t = w := by
  induction w generalizing t with
  | nil => exact composed_eq_nil_iff
  | cons c w ih =>
    have hc := hw c List.mem_cons_self
    have hrest : ∀ t, composed t = w ↔ t = w := fun t => ih fun d hd => hw d (List.mem_cons_of_mem c hd)
    constructor
    · intro h
      have hmem : c ∈ t := mem_of_mem_composed hc.toUnmade (h ▸ List.mem_cons_self)
      obtain ⟨a, b, rfl, ha⟩ := List.eq_append_cons_of_mem hmem
      rw [composed_append hc] at h
      -- the first character of the normal form is `c`, and it comes from no character in front of the first `c`
      have hnil : composed a = [] := by
        cases hca : composed a with
        | nil => rfl
        | cons d front =>
          rw [hca, List.cons_append, List.cons.injEq] at h
          exact absurd (mem_of_mem_composed hc.toUnmade (hca ▸ h.1 ▸ List.mem_cons_self)) ha
      rw [hnil, List.nil_append, List.cons.injEq] at h
      rw [composed_eq_nil_iff.1 hnil, (hrest b).1 h.2, List.nil_append]
    · rintro rfl
      have h := composed_append hc [] w
      rwa [List.nil_append, composed_nil, List.nil_append, (hrest w).2 rfl] at h

end Transclude.Text
