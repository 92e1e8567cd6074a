/-
What a range label says about the lines under it.

The label of a directive is written from its bounds alone, and so is the range of lines that is taken from a file. A label can be
read back: its numbers are told apart (`print_append_inj`), and so is how many there are (`labelText_injective`). What it does not
say is which bound a single number stands for: the lines from the fifth on and the first five lines are both `L5`.

- `bounds_of_rangeLabel`: two directives with one label have the same bounds, or they are `Crossed`: one has only a first line, the
  other one only an end, and both labels show the same number.
- `extract_eq_iff_of_rangeLabel`: so one label means the same lines of every file exactly when the directives are not crossed.
- `not_extract_of_rangeLabel`: a label alone does not name the lines.
-/
import Transclude.LineRange
import Transclude.Proofs.Directive.Limits

namespace Transclude

/-! ## Numerals -/

namespace Numeral

/-- the digits of a number end where no digit follows -/
theorem toDigits_append_inj {n m : ℕ} {u v : Text} (hu : ∀ c ∈ u.head?, c.isDigit = false)
    (hv : ∀ c ∈ v.head?, c.isDigit = false) (h : Nat.toDigits 10 n ++ u = Nat.toDigits 10 m ++ v) : n = m ∧ u = v := by
  have hdigits : ∀ k : ℕ, ∀ c ∈ Nat.toDigits 10 k, c.isDigit = true := fun k c hc =>
    Nat.isDigit_of_mem_toDigits (by decide) (by decide) hc
  have hfront : ∀ (k : ℕ) {w : Text}, (∀ c ∈ w.head?, c.isDigit = false) →
      (Nat.toDigits 10 k ++ w).takeWhile Char.isDigit = Nat.toDigits 10 k := by
    intro k w hw
    exact Text.takeWhile_run (hdigits k) hw
  have hsame : Nat.toDigits 10 n = Nat.toDigits 10 m := by rw [← hfront n hu, h, hfront m hv]
  rw [hsame] at h
  have hvalue := congrArg (Nat.ofDigitChars 10 · 0) hsame
  simp only [Nat.ofDigitChars_ten_toDigits] at hvalue
  exact ⟨hvalue, List.append_cancel_left h⟩

/-- a number that is not negative is written without a sign in front -/
theorem toDigits_ne_minus (n : ℕ) (u v : Text) : Nat.toDigits 10 n ++ u ≠ '-' :: v := by
  intro h
  obtain ⟨c, digits, hc⟩ := List.exists_cons_of_ne_nil (Nat.toDigits_ne_nil (n := n) (b := 10))
  have hdigit : c.isDigit = true := Nat.isDigit_of_mem_toDigits (by decide) (by decide) (hc ▸ List.mem_cons_self)
  rw [hc, List.cons_append] at h
  rw [(List.cons.inj h).1] at hdigit
  exact absurd hdigit (by decide)

/-- **A number in front of something else can be read back**, and so can what follows it. -/
theorem print_append_inj {n m : Int} {u v : Text} (hu : ∀ c ∈ u.head?, c.isDigit = false)
    (hv : ∀ c ∈ v.head?, c.isDigit = false) (h : print n ++ u = print m ++ v) : n = m ∧ u = v := by
  unfold print at h
  by_cases hn : n < 0
  · by_cases hm : m < 0
    · simp only [if_pos hn, if_pos hm, List.cons_append, List.nil_append, List.cons.injEq, true_and] at h
      obtain ⟨habs, huv⟩ := toDigits_append_inj hu hv h
      exact ⟨by omega, huv⟩
    · simp only [if_pos hn, if_neg hm, List.cons_append, List.nil_append] at h
      exact absurd h.symm (toDigits_ne_minus _ _ _)
  · by_cases hm : m < 0
    · simp only [if_neg hn, if_pos hm, List.cons_append, List.nil_append] at h
      exact absurd h (toDigits_ne_minus _ _ _)
    · simp only [if_neg hn, if_neg hm, List.nil_append] at h
      obtain ⟨habs, huv⟩ := toDigits_append_inj hu hv h
      exact ⟨by omega, huv⟩

end Numeral

namespace Directive

/-! ## Reading a label back -/

/-- the label that shows these numbers -/
def labelText (ns : List Int) : Text := Text.join ['-'] (ns.map fun n => 'L' :: Numeral.print n)

/-- what stands in a label behind a number -/
def labelRest : List Int → Text
  | [] => []
  | ns => '-' :: labelText ns

theorem labelText_cons (n : Int) (ns : List Int) : labelText (n :: ns) = 'L' :: (Numeral.print n ++ labelRest ns) := by
  cases ns with
  | nil => simp [labelText, labelRest, Text.join]
  | cons m ns => simp [labelText, labelRest, Text.join]

/-- behind a number no digit follows -/
theorem isDigit_head_labelRest (ns : List Int) : ∀ c ∈ (labelRest ns).head?, c.isDigit = false := by
  cases ns with
  | nil => simp [labelRest]
  | cons n ns => simp [labelRest]

theorem labelText_injective {ns ms : List Int} (h : labelText ns = labelText ms) : ns = ms := by
  induction ns generalizing ms with
  | nil =>
    cases ms with
    | nil => rfl
    | cons m ms =>
      rw [labelText_cons] at h
      cases h
  | cons n ns ih =>
    cases ms with
    | nil =>
      rw [labelText_cons] at h
      cases h
    | cons m ms =>
      rw [labelText_cons, labelText_cons, List.cons.injEq] at h
      obtain ⟨rfl, hrest⟩ :=
        Numeral.print_append_inj (isDigit_head_labelRest ns) (isDigit_head_labelRest ms) h.2
      cases ns with
      | nil =>
        cases ms with
        | nil => rfl
        | cons k ms => cases hrest
      | cons k ns =>
        cases ms with
        | nil => cases hrest
        | cons l ms => rw [ih (List.cons.inj hrest).2]

theorem eq_labelText_of_rangeLabel {d : Directive} {label : Text} (h : d.rangeLabel = .ok label) :
    label = labelText d.labelNumbers := by
  obtain ⟨parts, hparts, rfl⟩ := Markup.Token.eq_of_map_eq_ok h
  have hwritten : List.Forall₂ (fun part n => part = 'L' :: Numeral.print n) parts d.labelNumbers := by
    refine (mapM_eq_ok_iff.1 hparts).flip.imp fun part n hn => ?_
    obtain ⟨t, ht, rfl⟩ := Markup.Token.eq_of_map_eq_ok hn
    unfold Numeral.write at ht
    split at ht
    · rw [Except.ok.inj ht]
    · cases ht
  have hparts : parts = d.labelNumbers.map fun n => 'L' :: Numeral.print n := by
    rw [← List.forall₂_eq_eq_eq, List.forall₂_map_right_iff]
    exact hwritten
  rw [hparts, labelText]

/-! ## Bounds with one label -/

/-- the first directive asks for the lines from a number on, and the second one for the lines up to the same number -/
def Crossed (d d' : Directive) : Prop :=
  ∃ n, (d.lineBegin = some (n - 1) ∧ d.lineEnd = none) ∧ d'.lineBegin = none ∧ d'.lineEnd = some n

/-- where only the first directive has a first line, its number is the end of the second one -/
theorem crossed_of_labelNumbers {d d' : Directive} (h : d.labelNumbers = d'.labelNumbers) {n : Int}
    (hbegin : d.lineBegin = some n) (hbegin' : d'.lineBegin = none) : Crossed d d' := by
  simp only [labelNumbers, hbegin, hbegin', Option.map_some, Option.map_none, Option.toList_some, Option.toList_none,
    List.nil_append, List.singleton_append] at h
  cases hend' : d'.lineEnd with
  | none =>
    rw [hend'] at h
    cases h
  | some m =>
    rw [hend', Option.toList_some, List.cons.injEq] at h
    obtain ⟨hn, hend⟩ := h
    refine ⟨m, ⟨?_, Option.toList_eq_nil_iff.1 hend⟩, hbegin', hend'⟩
    rw [hbegin, ← hn, Int.add_sub_cancel]

/-- **Bounds with one label.** They are the same, or a single number stands for different bounds. -/
theorem bounds_of_rangeLabel {d d' : Directive} {label : Text} (h : d.rangeLabel = .ok label)
    (h' : d'.rangeLabel = .ok label) :
    (d.lineBegin = d'.lineBegin ∧ d.lineEnd = d'.lineEnd) ∨ Crossed d d' ∨ Crossed d' d := by
  have hnumbers : d.labelNumbers = d'.labelNumbers :=
    labelText_injective ((eq_labelText_of_rangeLabel h).symm.trans (eq_labelText_of_rangeLabel h'))
  have hend : d.lineEnd.toList = d'.lineEnd.toList → d.lineEnd = d'.lineEnd := by
    intro hlist
    have hhead := congrArg List.head? hlist
    rwa [Option.head?_toList, Option.head?_toList] at hhead
  cases hbegin : d.lineBegin with
  | none =>
    cases hbegin' : d'.lineBegin with
    | none =>
      simp only [labelNumbers, hbegin, hbegin', Option.map_none, Option.toList_none, List.nil_append] at hnumbers
      exact Or.inl ⟨rfl, hend hnumbers⟩
    | some n => exact Or.inr (Or.inr (crossed_of_labelNumbers hnumbers.symm hbegin' hbegin))
  | some n =>
    cases hbegin' : d'.lineBegin with
    | none => exact Or.inr (Or.inl (crossed_of_labelNumbers hnumbers hbegin hbegin'))
    | some m =>
      simp only [labelNumbers, hbegin, hbegin', Option.map_some, Option.toList_some, List.singleton_append,
        List.cons.injEq] at hnumbers
      exact Or.inl ⟨congrArg some (add_right_cancel hnumbers.1), hend hnumbers.2⟩

/-- crossed directives show different lines of some file -/
theorem Crossed.exists_extract_ne {d d' : Directive} (h : Crossed d d') :
    ∃ content, LineRange.extract { first := d.lineBegin, stop := d.lineEnd } content ≠
      LineRange.extract { first := d'.lineBegin, stop := d'.lineEnd } content := by
  obtain ⟨n, ⟨hbegin, hend⟩, hbegin', hend'⟩ := h
  rw [hbegin, hend, hbegin', hend']
  have hline : ∀ r : LineRange, r.extract ['x'] = Text.join ['\n'] (([['x']].take (r.limit 1)).drop r.skipped) := fun _ => rfl
  -- a single line is in one of the two ranges only; for the number one it is in both, and a second line tells them apart
  rcases lt_trichotomy n 1 with hn | rfl | hn
  · have hskipped : LineRange.skipped { first := some (n - 1) } = 0 := Int.toNat_eq_zero.2 (by simp; omega)
    have hlimit : LineRange.limit { stop := some n } 1 = 0 := by
      simp only [LineRange.limit]
      split <;> omega
    refine ⟨['x'], ?_⟩
    rw [hline, hline, hskipped, hlimit]
    simp [LineRange.limit, Text.join]
  · exact ⟨['x', '\n', 'y'], by decide⟩
  · have hskipped : LineRange.skipped { first := some (n - 1) } = (n - 1).toNat := rfl
    have hlimit : LineRange.limit { stop := some n } 1 = 1 := by
      simp only [LineRange.limit]
      split <;> omega
    have hnone : LineRange.skipped { stop := some n } = 0 := rfl
    refine ⟨['x'], ?_⟩
    rw [hline, hline, hskipped, hlimit, hnone, List.drop_eq_nil_of_le (by simp [LineRange.limit]; omega)]
    simp [Text.join]

/-- **What a label names.** Two directives with one label show the same lines of every file, unless one of them has only a first
line, the other one only an end, and the label is the number of both. -/
theorem extract_eq_iff_of_rangeLabel {d d' : Directive} {label : Text} (h : d.rangeLabel = .ok label)
    (h' : d'.rangeLabel = .ok label) :
    (∀ content, LineRange.extract { first := d.lineBegin, stop := d.lineEnd } content =
      LineRange.extract { first := d'.lineBegin, stop := d'.lineEnd } content) ↔ ¬ Crossed d d' ∧ ¬ Crossed d' d := by
  constructor
  · intro hsame
    refine ⟨fun hcrossed => ?_, fun hcrossed => ?_⟩
    · obtain ⟨content, hne⟩ := hcrossed.exists_extract_ne
      exact hne (hsame content)
    · obtain ⟨content, hne⟩ := hcrossed.exists_extract_ne
      exact hne (hsame content).symm
  · rintro ⟨hnot, hnot'⟩ content
    rcases bounds_of_rangeLabel h h' with ⟨hbegin, hend⟩ | hcrossed | hcrossed
    · rw [hbegin, hend]
    · exact absurd hcrossed hnot
    · exact absurd hcrossed hnot'

/-- the lines from the fifth on without the last two, of two files -/
theorem extract_eq_of_rangeLabel_both :
    let d : Directive := { path := ['a'], lineBegin := some 4, lineEnd := some (-2) }
    let d' : Directive := { path := ['b'], lineBegin := some 4, lineEnd := some (-2) }
    d.rangeLabel = .ok "L5-L-2".toList ∧ d'.rangeLabel = .ok "L5-L-2".toList ∧
      ∀ content, LineRange.extract { first := d.lineBegin, stop := d.lineEnd } content =
        LineRange.extract { first := d'.lineBegin, stop := d'.lineEnd } content := by
  intro d d'
  have h : d.rangeLabel = .ok "L5-L-2".toList := by decide +kernel
  have h' : d'.rangeLabel = .ok "L5-L-2".toList := by decide +kernel
  refine ⟨h, h', (extract_eq_iff_of_rangeLabel h h').2 ⟨?_, ?_⟩⟩
  · rintro ⟨n, ⟨-, hend⟩, -⟩
    cases hend
  · rintro ⟨n, ⟨-, hend⟩, -⟩
    cases hend

/-- **A label alone does not name the lines.** From the first line on, and up to the first line, are both `L1`. -/
theorem not_extract_of_rangeLabel :
    ¬ ∀ (d d' : Directive) (label content : Text), d.hasRange = true → d'.hasRange = true → d.rangeLabel = .ok label →
      d'.rangeLabel = .ok label → LineRange.extract { first := d.lineBegin, stop := d.lineEnd } content =
        LineRange.extract { first := d'.lineBegin, stop := d'.lineEnd } content := by
  intro hall
  have hsame := hall { path := ['a'], lineBegin := some 0 } { path := ['a'], lineEnd := some 1 } ['L', '1'] ['x', '\n', 'y']
    rfl rfl (by decide +kernel) (by decide +kernel)
  exact absurd hsame (by decide)

end Directive

end Transclude
