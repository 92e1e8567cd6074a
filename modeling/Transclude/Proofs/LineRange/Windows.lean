/-
Ranges taken from ranges.

What a range selects is a text again, and the next range counts the lines of that text. They come out as they went in, because no
line holds a line feed. Only an empty range leaves a line that it did not select, the one of the empty text, and that text stays
empty. So a chain of ranges moves a window over the lines of the first text (`Window.narrow`), and the window is all there is to it.

- `lines_join`: the lines of joined lines are those lines.
- `select_slice`: what a range selects of the lines in a window are the lines in a narrower one.
- `extract_slice`, the step: a range of the text in a window is the text in the narrower window, or empty.
- `foldl_extract`, the run: any chain of ranges leaves the text in one window, or nothing.
-/
import Transclude.LineRange
import Transclude.Proofs.Text.Cutting

namespace Transclude.LineRange

/-! ## Lines -/

theorem lines_ne_nil (t : Text) : lines t ≠ [] := Text.split_ne_nil '\n' t

theorem length_lines_pos (t : Text) : 0 < (lines t).length := List.length_pos_iff.2 (lines_ne_nil t)

/-- a text is its lines with line feeds between them -/
theorem join_lines (t : Text) : Text.join ['\n'] (lines t) = t := Text.join_split '\n' t

/-- **Joined lines come apart as they were.** -/
theorem lines_join {ls : List Text} (hne : ls ≠ []) (h : ∀ l ∈ ls, '\n' ∉ l) : lines (Text.join ['\n'] ls) = ls :=
  Text.split_join hne h

/-- the empty text has one empty line, and it is empty with that line and without it -/
theorem extract_nil (r : LineRange) : r.extract [] = [] := by
  have hsub : (r.select (lines [])).Sublist [[]] := (List.drop_sublist _ _).trans (List.take_sublist _ _)
  rcases List.sublist_singleton.1 hsub with h | h
  · rw [extract, h]
    rfl
  · rw [extract, h]
    rfl

/-! ## The bounds of a range -/

/-- the line that a range begins with, counted from the first one of the text -/
def begins (r : LineRange) : ℤ := max 0 (r.first.getD 0)

/-- the line that a range ends in front of, among `m` lines; it may lie in front of them all -/
def ends (r : LineRange) (m : ℤ) : ℤ :=
  match r.stop with
  | none => m
  | some stop => min m (if stop < 0 then m + stop else stop)

theorem begins_nonneg (r : LineRange) : 0 ≤ r.begins := le_max_left _ _

theorem ends_le (r : LineRange) (m : ℤ) : r.ends m ≤ m := by
  rw [ends]
  split
  · exact le_refl m
  · exact min_le_left _ _

theorem skipped_eq (r : LineRange) : r.skipped = r.begins.toNat := by
  simp only [skipped, begins]
  omega

theorem limit_eq (r : LineRange) (n : ℕ) : r.limit n = (r.ends n).toNat := by
  unfold limit ends
  cases r.stop with
  | none => rfl
  | some stop =>
    simp only
    omega

/-! ## Windows -/

/-- neighbouring lines among `n` lines: those from `start` on, up to the one in front of `stop` -/
structure Window (n : ℕ) where
  start : ℤ
  stop : ℤ
  nonneg : 0 ≤ start
  lt : start < stop
  le : stop ≤ n

namespace Window

variable {n : ℕ}

/-- the number of lines in a window -/
def size (w : Window n) : ℤ := w.stop - w.start

/-- the lines in a window -/
def slice (w : Window n) {α : Type} (xs : List α) : List α := (xs.take w.stop.toNat).drop w.start.toNat

/-- all lines of a text -/
def whole (t : Text) : Window (lines t).length where
  start := 0
  stop := (lines t).length
  nonneg := le_refl 0
  lt := by exact_mod_cast length_lines_pos t
  le := le_refl _

/-- what a range leaves of a window, unless it is empty -/
def narrow (w : Window n) (r : LineRange) : Option (Window n) :=
  if h : r.begins < r.ends w.size then
    some {
      start := w.start + r.begins
      stop := w.start + r.ends w.size
      nonneg := add_nonneg w.nonneg r.begins_nonneg
      lt := add_lt_add_right h _
      le := by
        have hsize := r.ends_le w.size
        have hle := w.le
        unfold size at hsize ⊢
        omega }
  else none

theorem slice_whole (t : Text) : (whole t).slice (lines t) = lines t := by
  simp [slice, whole]

theorem length_slice (w : Window n) {α : Type} {xs : List α} (h : xs.length = n) :
    ((w.slice xs).length : ℤ) = w.size := by
  have hnonneg := w.nonneg
  have hlt := w.lt
  have hle := w.le
  simp only [slice, size, List.length_drop, List.length_take]
  omega

theorem slice_ne_nil (w : Window n) {α : Type} {xs : List α} (h : xs.length = n) : w.slice xs ≠ [] := by
  intro hnil
  have hlength := w.length_slice h
  have hlt := w.lt
  rw [hnil] at hlength
  simp only [size, List.length_nil] at hlength
  omega

theorem mem_of_mem_slice {w : Window n} {α : Type} {xs : List α} {x : α} (h : x ∈ w.slice xs) : x ∈ xs :=
  List.mem_of_mem_take (List.mem_of_mem_drop h)

theorem size_whole (t : Text) : (whole t).size = (lines t).length := Int.sub_zero _

theorem size_of_narrow {w w' : Window n} {r : LineRange} (h : w.narrow r = some w') :
    w'.size = r.ends w.size - r.begins := by
  unfold narrow at h
  split at h
  · cases h
    exact add_sub_add_left_eq_sub _ _ _
  · cases h

/-- a range that goes from the first line to the last one leaves the window as it is -/
theorem narrow_eq_self (w : Window n) {r : LineRange} (hbegins : r.begins = 0) (hends : r.ends w.size = w.size) :
    w.narrow r = some w := by
  have hlt := w.lt
  unfold narrow
  rw [dif_pos (by rw [hbegins, hends, size]; omega)]
  cases w with
  | mk start stop nonneg lt le =>
    simp only [size] at hends
    simp only [Option.some.injEq, mk.injEq, hbegins, size, hends]
    omega

/-! ## A range of a window -/

/-- what a range selects of the lines in a window are the lines in the narrower window -/
theorem select_slice (w : Window n) (r : LineRange) {α : Type} {xs : List α} (h : xs.length = n) :
    r.select (w.slice xs) = ((w.narrow r).map fun w' => w'.slice xs).getD [] := by
  have hsize : r.limit (w.slice xs).length = (r.ends w.size).toNat := by rw [limit_eq, length_slice w h]
  have hbegins := r.begins_nonneg
  have hends := r.ends_le w.size
  have hnonneg := w.nonneg
  rw [select, hsize, skipped_eq]
  unfold narrow
  split
  · rename_i hproper
    have hstart : w.start.toNat + r.begins.toNat = (w.start + r.begins).toNat := by omega
    have hstop : w.start.toNat + (r.ends w.size).toNat = (w.start + r.ends w.size).toNat := by omega
    have hfits : (w.start + r.ends w.size).toNat ≤ w.stop.toNat := by
      unfold size at hends ⊢
      omega
    calc ((w.slice xs).take (r.ends w.size).toNat).drop r.begins.toNat
        = (((xs.take w.stop.toNat).take (w.start.toNat + (r.ends w.size).toNat)).drop w.start.toNat).drop
            r.begins.toNat := by rw [slice, List.take_drop]
      _ = (xs.take (w.start + r.ends w.size).toNat).drop (w.start + r.begins).toNat := by
          rw [List.drop_drop, List.take_take, hstart, hstop, min_eq_left hfits]
  · rename_i hempty
    apply List.drop_eq_nil_of_le
    rw [List.length_take]
    omega

end Window

/-- the text in a window, and the empty text where no window is left -/
def shown {n : ℕ} (ls : List Text) (w : Option (Window n)) : Text :=
  Text.join ['\n'] ((w.map fun w => w.slice ls).getD [])

/-- **One range.** Of the text in a window, a range leaves the text in the narrower window. -/
theorem extract_slice {n : ℕ} (w : Window n) (r : LineRange) {ls : List Text} (h : ls.length = n)
    (hlines : ∀ l ∈ ls, '\n' ∉ l) : r.extract (shown ls (some w)) = shown ls (w.narrow r) := by
  have hback : lines (shown ls (some w)) = w.slice ls :=
    lines_join (w.slice_ne_nil h) fun l hl => hlines l (Window.mem_of_mem_slice hl)
  rw [extract, hback, w.select_slice r h, shown]

theorem shown_whole (t : Text) : shown (lines t) (some (Window.whole t)) = t := by
  rw [shown, Option.map_some, Option.getD_some, Window.slice_whole, join_lines]

theorem extract_eq (r : LineRange) (t : Text) : r.extract t = shown (lines t) ((Window.whole t).narrow r) := by
  have hlines : ∀ l ∈ lines t, '\n' ∉ l := fun l hl => Text.not_mem_of_mem_split hl
  rw [← extract_slice (Window.whole t) r rfl hlines, shown_whole]

/-! ## Chains of ranges -/

theorem foldl_extract_nil (chain : List LineRange) : chain.foldl (fun t r => r.extract t) [] = [] := by
  induction chain with
  | nil => rfl
  | cons r chain ih => rw [List.foldl_cons, extract_nil, ih]

/-- a chain of ranges narrows a window step by step -/
theorem foldl_extract_shown {n : ℕ} (w : Window n) (chain : List LineRange) {ls : List Text} (h : ls.length = n)
    (hlines : ∀ l ∈ ls, '\n' ∉ l) :
    chain.foldl (fun t r => r.extract t) (shown ls (some w)) = shown ls (chain.foldlM Window.narrow w) := by
  induction chain generalizing w with
  | nil => rfl
  | cons r chain ih =>
    rw [List.foldl_cons, extract_slice w r h hlines, List.foldlM_cons]
    cases w.narrow r with
    | none => exact foldl_extract_nil chain
    | some w' => exact ih w'

/-- **A chain of ranges is one slice.** Taken one after the other, ranges leave the lines in one window of the text's own lines:
each range narrows the window that is left by its bounds, the end counted among the lines that are left, and from the first range
on that is empty nothing is left. So a range without bounds changes nothing, and neither does counting out once more the lines that
a range has selected. -/
theorem foldl_extract (t : Text) (chain : List LineRange) :
    (chain.foldl (fun t r => r.extract t) t =
      match chain.foldlM Window.narrow (Window.whole t) with
      | some w => Text.join ['\n'] (w.slice (lines t))
      | none => []) ∧
    extract {} t = t ∧
    ∀ r : LineRange, extract { first := some 0, stop := some (r.ends (lines t).length - r.begins) } (r.extract t) =
      r.extract t := by
  have hlines : ∀ l ∈ lines t, '\n' ∉ l := fun l hl => Text.not_mem_of_mem_split hl
  refine ⟨?_, ?_, ?_⟩
  · have hrun := foldl_extract_shown (Window.whole t) chain rfl hlines
    rw [shown_whole] at hrun
    rw [hrun]
    cases chain.foldlM Window.narrow (Window.whole t) with
    | none => rfl
    | some w => rfl
  · rw [extract_eq, Window.narrow_eq_self (Window.whole t) rfl rfl, shown_whole]
  · intro r
    rw [extract_eq r t]
    cases hw : (Window.whole t).narrow r with
    | none => exact extract_nil _
    | some w =>
      have hsize : w.size = r.ends (lines t).length - r.begins := by rw [Window.size_of_narrow hw, Window.size_whole]
      have hpos : 0 < w.size := sub_pos.2 w.lt
      have hends : ends { first := some 0, stop := some w.size } w.size = w.size := by
        simp only [ends, if_neg hpos.not_gt, min_self]
      rw [← hsize, extract_slice w _ rfl hlines, Window.narrow_eq_self w rfl hends]

/-- an end that counts back counts among the lines that are left -/
example : [{ first := some 1 }, { stop := some (-2) }, { first := some (-7), stop := some (-1) }].foldl
    (fun t (r : LineRange) => r.extract t) "a\nb\nc\n\nd\ne".toList = "b\nc".toList := by decide

end Transclude.LineRange
