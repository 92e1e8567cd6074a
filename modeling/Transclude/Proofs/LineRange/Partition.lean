/-
Files cut into ranges of lines.

Ranges between neighbouring cuts have every line of a file once. None of them is empty, and so their texts are joined by line feeds
into the file again: an empty range and a range of one empty line would look alike, but only the second one stands for a line.

- `flatten_slices`: the slices between ascending cuts hold what lies between the first cut and the last one.
- `limit_neg`: an end that counts back is the end that counts the other lines, or the front of the file.
- `join_extract_cuts`: the ranges between cuts through the whole file give the file, and so do the two sides of an end that counts
  back.
-/
import Transclude.Proofs.LineRange.Windows

namespace Transclude.LineRange

/-! ## Slices between cuts -/

/-- the parts of a list between neighbouring cuts -/
def slices {α : Type} (xs : List α) (cuts : List ℕ) : List (List α) :=
  List.zipWith (fun a b => (xs.take b).drop a) cuts cuts.tail

theorem slices_cons {α : Type} (xs : List α) (a b : ℕ) (cuts : List ℕ) :
    slices xs (a :: b :: cuts) = (xs.take b).drop a :: slices xs (b :: cuts) := rfl

theorem drop_take_append {α : Type} (xs : List α) {a b c : ℕ} (hab : a ≤ b) (hbc : b ≤ c) :
    (xs.take b).drop a ++ (xs.take c).drop b = (xs.take c).drop a := by
  have hsteps : c - a = (b - a) + (c - b) := by omega
  have hmiddle : a + (b - a) = b := by omega
  rw [List.drop_take, List.drop_take, List.drop_take, hsteps, List.take_add, List.drop_drop, hmiddle]

/-- the last of some ascending cuts is not in front of the first one -/
theorem le_of_getLast? {a c : ℕ} {cuts : List ℕ} (hcuts : (a :: cuts).Pairwise (· < ·))
    (hlast : (a :: cuts).getLast? = some c) : a ≤ c := by
  rcases List.mem_cons.1 (List.mem_of_getLast? hlast) with rfl | hc
  · exact le_refl c
  · exact le_of_lt (List.rel_of_pairwise_cons hcuts hc)

/-- **Slices lose and repeat nothing** of what lies between the first cut and the last one. -/
theorem flatten_slices {α : Type} (xs : List α) {a c : ℕ} {cuts : List ℕ} (hcuts : (a :: cuts).Pairwise (· < ·))
    (hlast : (a :: cuts).getLast? = some c) : (slices xs (a :: cuts)).flatten = (xs.take c).drop a := by
  induction cuts generalizing a with
  | nil =>
    obtain rfl : a = c := by simpa using hlast
    simp [slices, List.drop_take]
  | cons b cuts ih =>
    have hab : a < b := List.rel_of_pairwise_cons hcuts List.mem_cons_self
    have hrest : (b :: cuts).Pairwise (· < ·) := hcuts.of_cons
    have hlast : (b :: cuts).getLast? = some c := by rwa [List.getLast?_cons_cons] at hlast
    rw [slices_cons, List.flatten_cons, ih hrest hlast, drop_take_append xs hab.le (le_of_getLast? hrest hlast)]

/-- no slice is empty -/
theorem slices_ne_nil {α : Type} {xs : List α} {a : ℕ} {cuts : List ℕ} (hcuts : (a :: cuts).Pairwise (· < ·))
    (hlast : (a :: cuts).getLast? = some xs.length) : ∀ ys ∈ slices xs (a :: cuts), ys ≠ [] := by
  induction cuts generalizing a with
  | nil => simp [slices]
  | cons b cuts ih =>
    have hab : a < b := List.rel_of_pairwise_cons hcuts List.mem_cons_self
    have hrest : (b :: cuts).Pairwise (· < ·) := hcuts.of_cons
    have hlast : (b :: cuts).getLast? = some xs.length := by rwa [List.getLast?_cons_cons] at hlast
    have hle : b ≤ xs.length := le_of_getLast? hrest hlast
    intro ys hys
    rcases List.mem_cons.1 hys with rfl | hys
    · apply List.ne_nil_of_length_pos
      rw [List.length_drop, List.length_take]
      omega
    · exact ih hrest hlast ys hys

/-! ## Ranges with the same bounds -/

theorem extract_congr {r r' : LineRange} {t : Text} (hskipped : r.skipped = r'.skipped)
    (hlimit : r.limit (lines t).length = r'.limit (lines t).length) : r.extract t = r'.extract t := by
  rw [extract, extract, select, select, hskipped, hlimit]

/-- the lines between two cuts -/
def between (t : Text) (a b : ℕ) : Text := extract { first := some a, stop := some b } t

theorem between_eq (t : Text) (a b : ℕ) : between t a b = Text.join ['\n'] (((lines t).take b).drop a) := by
  have hlimit : limit { first := some (a : ℤ), stop := some (b : ℤ) } (lines t).length = min (lines t).length b := by
    simp only [limit]
    omega
  rw [between, extract, select, hlimit, min_comm, ← List.take_take, List.take_length, skipped]
  rfl

/-- **An end that counts back** is the end that counts the lines in front of it, and there are none where it counts back too far. -/
theorem limit_neg {k : ℕ} (hk : 1 ≤ k) (first : Option ℤ) (n : ℕ) :
    limit { first, stop := some (-(k : ℤ)) } n = limit { first, stop := some (max 0 ((n : ℤ) - k)) } n := by
  simp only [limit]
  omega

/-! ## Files in pieces -/

theorem join_between {t : Text} {cuts : List ℕ} (hcuts : cuts.Pairwise (· < ·)) (hfirst : cuts.head? = some 0)
    (hlast : cuts.getLast? = some (lines t).length) :
    Text.join ['\n'] (List.zipWith (between t) cuts cuts.tail) = t := by
  obtain ⟨rest, rfl⟩ : ∃ rest, cuts = 0 :: rest := List.head?_eq_some_iff.1 hfirst
  have hpieces : List.zipWith (between t) (0 :: rest) rest = (slices (lines t) (0 :: rest)).map (Text.join ['\n']) := by
    have hbetween : between t = fun a b => Text.join ['\n'] (((lines t).take b).drop a) := funext₂ (between_eq t)
    rw [slices, List.map_zipWith, hbetween]
    rfl
  calc Text.join ['\n'] (List.zipWith (between t) (0 :: rest) rest)
      = Text.join ['\n'] (slices (lines t) (0 :: rest)).flatten := by
        rw [hpieces, Text.join_map_join _ (slices_ne_nil hcuts hlast)]
    _ = Text.join ['\n'] (lines t) := by rw [flatten_slices _ hcuts hlast, List.drop_zero, List.take_length]
    _ = t := join_lines t

/-- **Ranges between cuts make up the file.** A file has one line more than it has line feeds. Cut anywhere between its lines, and
joined by line feeds again, it is the same file. An end that counts back selects what the other count of the same line selects; so
the lines in front of it and the lines from it on are the file, too. -/
theorem join_extract_cuts (t : Text) :
    (lines t).length = t.count '\n' + 1 ∧
    (∀ cuts : List ℕ, cuts.Pairwise (· < ·) → cuts.head? = some 0 → cuts.getLast? = some (lines t).length →
      Text.join ['\n'] (List.zipWith (fun a b : ℕ => extract { first := some (a : ℤ), stop := some (b : ℤ) } t) cuts cuts.tail) = t) ∧
    (∀ k : ℕ, 1 ≤ k → ∀ first : Option ℤ, extract { first, stop := some (-(k : ℤ)) } t =
      extract { first, stop := some (max 0 (((lines t).length : ℤ) - k)) } t) ∧
    (∀ k : ℕ, 1 ≤ k → k < (lines t).length → extract { stop := some (-(k : ℤ)) } t ++ '\n' ::
      extract { first := some (((lines t).length : ℤ) - k) } t = t) := by
  refine ⟨Text.length_split '\n' t, fun cuts hcuts hfirst hlast => join_between hcuts hfirst hlast, ?_, ?_⟩
  · intro k hk first
    exact extract_congr rfl (limit_neg hk first _)
  · intro k hk hlt
    obtain ⟨m, hm⟩ : ∃ m : ℕ, (lines t).length = m + k := ⟨(lines t).length - k, by omega⟩
    have hfront : extract { stop := some (-(k : ℤ)) } t = between t 0 m := by
      refine extract_congr rfl ?_
      rw [limit_neg hk, hm]
      simp only [limit]
      omega
    have hback : extract { first := some (((lines t).length : ℤ) - k) } t = between t m (lines t).length := by
      have hcount : ((lines t).length : ℤ) - k = m := by omega
      rw [hcount]
      refine extract_congr rfl ?_
      simp only [limit]
      omega
    have hcuts : [0, m, (lines t).length].Pairwise (· < ·) := by
      simp
      omega
    have hjoined := join_between hcuts rfl rfl
    rw [hfront, hback]
    simpa [Text.join] using hjoined

/-- a file with blank lines, also at its end, in three pieces and in two -/
theorem join_extract_cuts_blank :
    let t : Text := "a\n\nb\n".toList
    let cuts : List ℕ := [0, 1, 3, 4]
    cuts.Pairwise (· < ·) ∧ cuts.head? = some 0 ∧ cuts.getLast? = some (lines t).length ∧
    Text.join ['\n'] (List.zipWith (fun a b : ℕ => extract { first := some (a : ℤ), stop := some (b : ℤ) } t) cuts cuts.tail) = t ∧
    extract { first := some 1, stop := some (-((9 : ℕ) : ℤ)) } t =
      extract { first := some 1, stop := some (max 0 (((lines t).length : ℤ) - (9 : ℕ))) } t ∧
    3 < (lines t).length ∧
    extract { stop := some (-((3 : ℕ) : ℤ)) } t ++ '\n' :: extract { first := some (((lines t).length : ℤ) - (3 : ℕ)) } t = t := by
  intro t cuts
  obtain ⟨-, hpieces, hneg, htwo⟩ := join_extract_cuts t
  have hcuts : cuts.Pairwise (· < ·) := by decide
  have hlast : cuts.getLast? = some (lines t).length := by decide
  have hlt : 3 < (lines t).length := by decide
  exact ⟨hcuts, rfl, hlast, hpieces cuts hcuts rfl hlast, hneg 9 (by decide) (some 1), hlt, htwo 3 (by decide) hlt⟩

end Transclude.LineRange
