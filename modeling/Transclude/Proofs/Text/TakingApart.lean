/-
Characters are taken apart as far as they go.

The tables take a character apart one level deep, and what they give can stand in the tables again. `nested` collects the code
points that go on for some levels, and at three levels there is none. So the normal form, which goes four levels deep, takes every
character apart to characters that are whole.

- `whole_of_mem_decomposeChar`: what a character is taken apart to is not taken apart.
- `decomposeChar_of_joinPair?`: a character that is composed of two is taken apart to what the two are taken apart to.
- `isValidChar_of_mem_decomposeChar`, `isValidChar_of_joinPair?`: no table leads out of the code points.
-/
import Transclude.Proofs.Text.Composed

namespace Transclude.Text

/-! ## The tables -/

/-- the rows of the tables: a code point, and what it is taken apart to -/
def rows : List (ℕ × List ℕ) :=
  composedPairs.map (fun r => (r.1, [r.2.1, r.2.2])) ++ replacedSingles.map (fun r => (r.1, [r.2])) ++
    decomposedPairs.map fun r => (r.1, [r.2.1, r.2.2])

/-- a set of code points as the bits of a number, so that looking for a member is one step -/
def bits (ns : List ℕ) : ℕ := ns.foldr (fun n set => set ||| 1 <<< n) 0

/-- the code points of the tables that are nested more than `d` levels deep -/
def nested : ℕ → List ℕ
  | 0 => rows.map (·.1)
  | d + 1 => (rows.filter fun r => r.2.any (bits (nested d)).testBit).map (·.1)

theorem testBit_bits {ns : List ℕ} {n : ℕ} : (bits ns).testBit n = true ↔ n ∈ ns := by
  induction ns with
  | nil => simp [bits]
  | cons m ns ih =>
    have hcons : bits (m :: ns) = bits ns ||| 1 <<< m := rfl
    rw [hcons, Nat.testBit_or, Bool.or_eq_true, ih, Nat.one_shiftLeft, Nat.testBit_two_pow, decide_eq_true_iff, List.mem_cons,
      eq_comm, or_comm]

/-- **No character is nested more than three levels deep.** -/
theorem nested_three : nested 3 = [] := by decide +kernel

theorem mem_nested_succ {d n p : ℕ} {parts : List ℕ} (h : (n, parts) ∈ rows) (hp : p ∈ parts) (hnested : p ∈ nested d) :
    n ∈ nested (d + 1) :=
  List.mem_map.2 ⟨(n, parts), List.mem_filter.2 ⟨h, List.any_eq_true.2 ⟨p, hp, testBit_bits.2 hnested⟩⟩, rfl⟩

/-- a code point of the tables is no letter and no syllable of the Korean alphabet, nor is what it is taken apart to a syllable,
and all of them are characters -/
theorem rows_bounds : ∀ r ∈ rows, 0xC0 ≤ r.1 ∧ (r.1 < 0x1100 ∨ 0x11FF < r.1) ∧
    ∀ n ∈ r.1 :: r.2, n.isValidChar ∧ (n < syllableBase ∨ syllableBase + 11172 ≤ n) := by
  decide +kernel

theorem mem_rows_of_splitOnce? {n : ℕ} {parts : List ℕ} (h : splitOnce? n = some parts) : (n, parts) ∈ rows := by
  have hkey : ∀ {α : Type} {table : List (ℕ × α)} {r : ℕ × α}, table.find? (fun r => r.1 == n) = some r → r ∈ table ∧ r.1 = n :=
    fun hr => ⟨List.mem_of_find?_eq_some hr, by simpa using List.find?_some hr⟩
  unfold splitOnce? at h
  unfold rows
  simp only [List.mem_append, List.mem_map]
  split at h
  · cases h
  · split at h
    · rename_i r hr
      obtain ⟨hmem, rfl⟩ := hkey hr
      obtain rfl := Option.some.inj h
      exact Or.inl (Or.inl ⟨r, hmem, rfl⟩)
    · split at h
      · rename_i r hr
        obtain ⟨hmem, rfl⟩ := hkey hr
        obtain rfl := Option.some.inj h
        exact Or.inl (Or.inr ⟨r, hmem, rfl⟩)
      · obtain ⟨r, hr, rfl⟩ := Option.map_eq_some_iff.1 h
        obtain ⟨hmem, rfl⟩ := hkey hr
        exact Or.inr ⟨r, hmem, rfl⟩

theorem splitSyllable?_eq_none {n : ℕ} (h : n < syllableBase ∨ syllableBase + 11172 ≤ n) : splitSyllable? n = none := by
  rw [splitSyllable?, if_neg]
  omega

/-! ## Whole characters -/

/-- a code point that is not taken apart -/
def Whole (n : ℕ) : Prop := splitSyllable? n = none ∧ splitOnce? n = none

theorem Whole.decomposeChar {n : ℕ} (h : Whole n) (depth : ℕ) : decomposeChar depth n = [n] := by
  cases depth with
  | zero => rfl
  | succ depth => simp only [Text.decomposeChar, h.1, h.2]

theorem whole_of_letter {n : ℕ} (hfirst : 0x1100 ≤ n) (hlast : n ≤ 0x11FF) : Whole n := by
  refine ⟨splitSyllable?_eq_none (Or.inl (by unfold syllableBase; omega)), ?_⟩
  cases h : splitOnce? n with
  | none => rfl
  | some parts =>
    obtain ⟨-, houtside, -⟩ := rows_bounds _ (mem_rows_of_splitOnce? h)
    dsimp only at houtside
    omega

theorem decomposeChar_of_syllable {n : ℕ} {letters : List ℕ} (h : splitSyllable? n = some letters) (depth : ℕ) :
    decomposeChar (depth + 1) n = letters := by
  simp only [decomposeChar, h]

theorem decomposeChar_of_parts {n : ℕ} {parts : List ℕ} (hsyllable : splitSyllable? n = none) (h : splitOnce? n = some parts)
    (depth : ℕ) : decomposeChar (depth + 1) n = parts.flatMap (decomposeChar depth) := by
  simp only [decomposeChar, hsyllable, h]

/-- at a depth that a character does not go beyond, it is taken apart to whole characters, and going deeper adds nothing -/
theorem whole_of_not_mem_nested {d n : ℕ} (hsyllable : splitSyllable? n = none) (h : n ∉ nested d) :
    (∀ m ∈ decomposeChar d n, Whole m) ∧ decomposeChar (d + 1) n = decomposeChar d n := by
  induction d generalizing n with
  | zero =>
    have hwhole : Whole n := by
      refine ⟨hsyllable, ?_⟩
      cases hs : splitOnce? n with
      | none => rfl
      | some parts => exact absurd (List.mem_map_of_mem (mem_rows_of_splitOnce? hs)) h
    rw [hwhole.decomposeChar, hwhole.decomposeChar]
    exact ⟨List.forall_mem_singleton.2 hwhole, rfl⟩
  | succ d ih =>
    cases hs : splitOnce? n with
    | none =>
      have hwhole : Whole n := ⟨hsyllable, hs⟩
      rw [hwhole.decomposeChar, hwhole.decomposeChar]
      exact ⟨List.forall_mem_singleton.2 hwhole, rfl⟩
    | some parts =>
      have hrow := mem_rows_of_splitOnce? hs
      have hparts : ∀ p ∈ parts, (∀ m ∈ decomposeChar d p, Whole m) ∧ decomposeChar (d + 1) p = decomposeChar d p := by
        intro p hp
        have hbounds := (rows_bounds _ hrow).2.2 p (List.mem_cons_of_mem n hp)
        exact ih (splitSyllable?_eq_none hbounds.2) fun hnested => h (mem_nested_succ hrow hp hnested)
      rw [decomposeChar_of_parts hsyllable hs, decomposeChar_of_parts hsyllable hs]
      refine ⟨fun m hm => ?_, List.flatMap_congr fun p hp => (hparts p hp).2⟩
      obtain ⟨p, hp, hmp⟩ := List.mem_flatMap.1 hm
      exact (hparts p hp).1 m hmp

/-- no character goes beyond the third level -/
theorem decomposeChar_three (n : ℕ) : (∀ m ∈ decomposeChar 3 n, Whole m) ∧ decomposeChar 4 n = decomposeChar 3 n := by
  cases hs : splitSyllable? n with
  | none => exact whole_of_not_mem_nested hs (nested_three ▸ List.not_mem_nil)
  | some letters =>
    rw [decomposeChar_of_syllable hs, decomposeChar_of_syllable hs]
    exact ⟨fun m hm => whole_of_letter ((letters_of_splitSyllable? hs).2 m hm).1 ((letters_of_splitSyllable? hs).2 m hm).2, rfl⟩

/-- **What a character is taken apart to is whole.** -/
theorem whole_of_mem_decomposeChar {n m : ℕ} (h : m ∈ decomposeChar 4 n) : Whole m := by
  obtain ⟨hwhole, hdeep⟩ := decomposeChar_three n
  exact hwhole m (hdeep ▸ h)

/-! ## Composed characters -/

theorem mem_rows_of_mem_composedPairs {r : ℕ × ℕ × ℕ} (h : r ∈ composedPairs) : (r.1, [r.2.1, r.2.2]) ∈ rows :=
  List.mem_append_left _ (List.mem_append_left _ (List.mem_map_of_mem h))

theorem splitOnce?_of_mem_composedPairs {r : ℕ × ℕ × ℕ} (h : r ∈ composedPairs) : splitOnce? r.1 = some [r.2.1, r.2.2] := by
  have hchain : composedPairs.IsChain fun a b => a.1 < b.1 := by decide +kernel
  have hsorted : composedPairs.Pairwise fun a b => a.1 < b.1 := List.isChain_iff_pairwise.1 hchain
  obtain ⟨hlow, -, -⟩ := rows_bounds _ (mem_rows_of_mem_composedPairs h)
  dsimp only at hlow
  have hfind : composedPairs.find? (fun r' => r'.1 == r.1) = some r := by
    obtain ⟨front, back, hcut⟩ := List.append_of_mem h
    rw [hcut, List.pairwise_append] at hsorted
    rw [List.find?_eq_some_iff_append]
    refine ⟨by simp, front, back, hcut, fun r' hr' => ?_⟩
    have hlt := hsorted.2.2 r' hr' r List.mem_cons_self
    simpa using hlt.ne
  rw [splitOnce?, if_neg (by omega), hfind]

/-- an open syllable comes apart to its leading consonant and its vowel -/
theorem splitSyllable?_open {a b : ℕ} (ha : leadBase ≤ a ∧ a < leadBase + 19) (hb : vowelBase ≤ b ∧ b < vowelBase + 21) :
    splitSyllable? (syllableBase + ((a - leadBase) * 21 + (b - vowelBase)) * 28) = some [a, b] := by
  unfold leadBase vowelBase at *
  rw [splitSyllable?, if_pos (by omega)]
  simp only [Option.some.injEq]
  rw [if_pos (by omega)]
  unfold leadBase vowelBase
  simp only [List.cons.injEq, and_true]
  omega

/-- a closed syllable comes apart to what the open one comes apart to, and its trailing consonant -/
theorem splitSyllable?_closed {a b : ℕ} (ha : syllableBase ≤ a ∧ a < syllableBase + 11172) (hopen : (a - syllableBase) % 28 = 0)
    (hb : trailBase < b ∧ b < trailBase + 28) :
    ∃ letters, splitSyllable? a = some letters ∧ splitSyllable? (a + (b - trailBase)) = some (letters ++ [b]) := by
  have htrail : (a + (b - trailBase) - syllableBase) % 28 = b - trailBase := by omega
  have hlead : (a + (b - trailBase) - syllableBase) / 588 = (a - syllableBase) / 588 := by omega
  have hvowel : (a + (b - trailBase) - syllableBase) % 588 / 28 = (a - syllableBase) % 588 / 28 := by omega
  have hlast : trailBase + (b - trailBase) = b := by omega
  refine ⟨[leadBase + (a - syllableBase) / 588, vowelBase + (a - syllableBase) % 588 / 28], ?_, ?_⟩
  · rw [splitSyllable?, if_pos ha]
    simp only [Option.some.injEq]
    rw [if_pos hopen]
  · rw [splitSyllable?, if_pos (by omega)]
    simp only [Option.some.injEq]
    rw [htrail, if_neg (by omega), hlead, hvowel, hlast]

theorem decomposeChar_of_joinSyllable? {a b n : ℕ} (h : joinSyllable? a b = some n) :
    decomposeChar 4 n = decomposeChar 4 a ++ decomposeChar 4 b := by
  unfold joinSyllable? at h
  split at h
  · rename_i hletters
    obtain rfl := Option.some.inj h
    have ha : Whole a := whole_of_letter (by unfold leadBase at hletters; omega) (by unfold leadBase at hletters; omega)
    have hb : Whole b := whole_of_letter (by unfold vowelBase at hletters; omega) (by unfold vowelBase at hletters; omega)
    obtain ⟨hlead, hlead', hvowel, hvowel'⟩ := hletters
    rw [decomposeChar_of_syllable (splitSyllable?_open ⟨hlead, hlead'⟩ ⟨hvowel, hvowel'⟩), ha.decomposeChar, hb.decomposeChar]
    rfl
  · split at h
    · rename_i hletters
      obtain rfl := Option.some.inj h
      have hb : Whole b := whole_of_letter (by unfold trailBase at hletters; omega) (by unfold trailBase at hletters; omega)
      obtain ⟨hfirst, hlast, hopen, htrail⟩ := hletters
      obtain ⟨letters, hletters, hclosed⟩ := splitSyllable?_closed ⟨hfirst, hlast⟩ hopen htrail
      rw [decomposeChar_of_syllable hclosed, decomposeChar_of_syllable hletters, hb.decomposeChar]
    · cases h

/-- **Composing is taken back by taking apart.** -/
theorem decomposeChar_of_joinPair? {a b n : ℕ} (h : joinPair? a b = some n) :
    decomposeChar 4 n = decomposeChar 4 a ++ decomposeChar 4 b := by
  unfold joinPair? at h
  split at h
  · rename_i syllable hs
    exact Option.some.inj h ▸ decomposeChar_of_joinSyllable? hs
  · obtain ⟨r, hr, rfl⟩ := Option.map_eq_some_iff.1 h
    have hmem := List.mem_of_find?_eq_some hr
    have hkeys : r.2.1 = a ∧ r.2.2 = b := by simpa using List.find?_some hr
    have hsyllable := splitSyllable?_eq_none ((rows_bounds _ (mem_rows_of_mem_composedPairs hmem)).2.2 r.1 List.mem_cons_self).2
    rw [decomposeChar_of_parts hsyllable (splitOnce?_of_mem_composedPairs hmem), hkeys.1, hkeys.2, (decomposeChar_three a).2,
      (decomposeChar_three b).2]
    simp

/-! ## Code points -/

theorem isValidChar_of_mem_decomposeChar {depth n m : ℕ} (hn : n.isValidChar) (h : m ∈ decomposeChar depth n) :
    m.isValidChar := by
  induction depth generalizing n with
  | zero => exact List.mem_singleton.1 h ▸ hn
  | succ depth ih =>
    unfold decomposeChar at h
    split at h
    · rename_i letters hs
      have hletter := (letters_of_splitSyllable? hs).2 m h
      exact Or.inl (by omega)
    · split at h
      · rename_i parts hs
        obtain ⟨p, hp, hmp⟩ := List.mem_flatMap.1 h
        exact ih ((rows_bounds _ (mem_rows_of_splitOnce? hs)).2.2 p (List.mem_cons_of_mem n hp)).1 hmp
      · exact List.mem_singleton.1 h ▸ hn

theorem isValidChar_of_joinPair? {a b n : ℕ} (h : joinPair? a b = some n) : n.isValidChar := by
  unfold joinPair? at h
  split at h
  · rename_i syllable hs
    obtain rfl := Option.some.inj h
    unfold joinSyllable? syllableBase leadBase vowelBase trailBase at hs
    left
    split at hs
    · have hs := Option.some.inj hs
      omega
    · split at hs
      · have hs := Option.some.inj hs
        omega
      · cases hs
  · obtain ⟨r, hr, rfl⟩ := Option.map_eq_some_iff.1 h
    have hrow := mem_rows_of_mem_composedPairs (List.mem_of_find?_eq_some hr)
    exact ((rows_bounds _ hrow).2.2 r.1 List.mem_cons_self).1

end Transclude.Text
