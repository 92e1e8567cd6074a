/-
Where the limit on numerals shows in directives: a bound that is written with too many digits cannot be read, and a range label
cannot show a number that needs too many.

- `exists_scan_iff`: a text can be scanned exactly when it is `Legible`: no bound that would be read from it has too many digits.
- `not_legible_of_long`: so there are texts with a directive, one for each run of too many digits, that cannot be scanned.
- `exists_rangeLabel_iff`: of the directives that a scan finds, those have a range label whose first line, counted from one, can
  be written; there is one number only for which it cannot.
-/
import Transclude.Markup.Token.Lexer
import Transclude.Proofs.Directive.Assigning
import Transclude.Proofs.Directive.Scanning

namespace Transclude

open Markup.Token (eq_of_map_eq_ok)

/-! ## Numerals -/

namespace Numeral

/-- a numeral without its minus sign -/
def unsigned : Text → Text
  | '-' :: digits => digits
  | digits => digits

theorem value_lt (digits : Text) : value digits < 10 ^ digits.length := by
  have hdigit : ∀ c : Char, (Text.digitValue? c).getD 0 < 10 := by
    intro c
    cases hc : Text.digitValue? c with
    | none => decide
    | some n =>
      obtain ⟨z, hz, rfl⟩ := Option.map_eq_some_iff.1 hc
      have hin := List.find?_some hz
      rw [Bool.and_eq_true, decide_eq_true_eq, decide_eq_true_eq] at hin
      simp only [Option.getD_some]
      omega
  have hdigits : ∀ n ∈ digits.reverse.map fun c => (Text.digitValue? c).getD 0, n < 10 := by
    intro n hn
    obtain ⟨c, -, rfl⟩ := List.mem_map.1 hn
    exact hdigit c
  have hlt := Nat.ofDigits_lt_base_pow_length (by decide) hdigits
  rwa [← Directive.value_eq_ofDigits, List.length_map, List.length_reverse] at hlt

theorem exists_readDigits_iff {digits : Text} : (∃ n, readDigits digits = .ok n) ↔ digits.length ≤ maxDigits := by
  unfold readDigits
  split
  · rename_i h
    exact ⟨fun _ => h, fun _ => ⟨_, rfl⟩⟩
  · rename_i h
    exact ⟨fun ⟨n, hn⟩ => (nomatch hn), fun hle => absurd hle h⟩

theorem unsigned_of_ne {t : Text} (h : ∀ digits, t ≠ '-' :: digits) : unsigned t = t := by
  rw [unsigned.eq_def]
  split
  · exact absurd rfl (h _)
  · rfl

theorem read_eq (t : Text) : ∃ sign : ℕ → Int, (∀ n, (sign n).natAbs = n) ∧ read t = (readDigits (unsigned t)).map sign := by
  rw [read.eq_def]
  split
  · rename_i digits
    have hunsigned : unsigned ('-' :: digits) = digits := rfl
    refine ⟨fun n => -(n : Int), fun n => by simp, ?_⟩
    rw [hunsigned]
    cases readDigits digits <;> rfl
  · rename_i hne
    refine ⟨fun n => (n : Int), fun n => by simp, ?_⟩
    rw [unsigned_of_ne hne]
    cases readDigits t <;> rfl

/-- a numeral is read unless it has too many digits -/
theorem exists_read_iff {t : Text} : (∃ n, read t = .ok n) ↔ (unsigned t).length ≤ maxDigits := by
  obtain ⟨sign, -, hread⟩ := read_eq t
  rw [hread, exists_map_eq_ok_iff, exists_readDigits_iff]

/-- a number that was read can be written -/
theorem natAbs_lt_of_read {t : Text} {n : Int} (h : read t = .ok n) : n.natAbs < 10 ^ maxDigits := by
  obtain ⟨sign, hsign, hread⟩ := read_eq t
  rw [hread] at h
  obtain ⟨m, hm, rfl⟩ := eq_of_map_eq_ok h
  have hlength := exists_readDigits_iff.1 ⟨m, hm⟩
  rw [readDigits, if_pos hlength] at hm
  obtain rfl := Except.ok.inj hm
  rw [hsign]
  exact (value_lt _).trans_le (Nat.pow_le_pow_right (by decide) hlength)

theorem exists_write_iff {n : Int} : (∃ t, write n = .ok t) ↔ n.natAbs < 10 ^ maxDigits := by
  rw [write, Nat.pow_eq]
  generalize 10 ^ maxDigits = limit
  split
  · rename_i h
    exact ⟨fun _ => h, fun _ => ⟨_, rfl⟩⟩
  · rename_i h
    exact ⟨fun ⟨t, ht⟩ => (nomatch ht), fun hlt => absurd hlt h⟩

end Numeral

namespace Directive

/-! ## Reading bounds -/

/-- what is assigned to a bound between braces can be read -/
def Bounds.Legible (interior : Text) : Prop :=
  ∀ (b : BoundKey) numeral, Bounds.find? b.name true interior = some numeral →
    (Numeral.unsigned numeral).length ≤ Numeral.maxDigits

/-- the bounds of every directive can be read: none of them is written with too many digits -/
def Legible (t : Text) : Prop :=
  ∀ p ∈ shapes t, ∀ gap interior, p.2.options = some (gap, interior) → Bounds.Legible interior

theorem exists_bound?_iff {key interior : Text} :
    (∃ b, Bounds.bound? key interior = .ok b) ↔
      ∀ numeral, Bounds.find? key true interior = some numeral → (Numeral.unsigned numeral).length ≤ Numeral.maxDigits := by
  unfold Bounds.bound?
  cases Bounds.find? key true interior with
  | none => exact ⟨fun _ _ h => (nomatch h), fun _ => ⟨none, rfl⟩⟩
  | some numeral =>
    simp only [exists_map_eq_ok_iff, Numeral.exists_read_iff]
    constructor
    · rintro h _ heq
      exact Option.some.inj heq ▸ h
    · exact fun h => h numeral rfl

theorem read_eq_ok_iff {interior : Text} {bounds : Bounds} :
    Bounds.read interior = .ok bounds ↔ Bounds.bound? BoundKey.lineBegin.name interior = .ok bounds.lineBegin ∧
      Bounds.bound? BoundKey.lineEnd.name interior = .ok bounds.lineEnd := by
  obtain ⟨lineBegin, lineEnd⟩ := bounds
  rw [read_eq]
  cases Bounds.bound? BoundKey.lineBegin.name interior with
  | error e => simp [bind, Except.bind]
  | ok b =>
    cases Bounds.bound? BoundKey.lineEnd.name interior with
    | error e => simp [bind, Except.bind]
    | ok e => simp [bind, Except.bind, pure, Except.pure]

theorem exists_read_iff {interior : Text} : (∃ bounds, Bounds.read interior = .ok bounds) ↔ Bounds.Legible interior := by
  constructor
  · rintro ⟨bounds, h⟩ b
    obtain ⟨hbegin, hend⟩ := read_eq_ok_iff.1 h
    cases b with
    | lineBegin => exact exists_bound?_iff.1 ⟨_, hbegin⟩
    | lineEnd => exact exists_bound?_iff.1 ⟨_, hend⟩
  · intro h
    obtain ⟨lineBegin, hbegin⟩ := exists_bound?_iff.2 (h .lineBegin)
    obtain ⟨lineEnd, hend⟩ := exists_bound?_iff.2 (h .lineEnd)
    exact ⟨{ lineBegin, lineEnd }, read_eq_ok_iff.2 ⟨hbegin, hend⟩⟩

theorem exists_ofShape_iff {offset : ℕ} {s : Shape} :
    (∃ o, Occurrence.ofShape offset s = .ok o) ↔
      ∀ gap interior, s.options = some (gap, interior) → Bounds.Legible interior := by
  rw [Occurrence.ofShape, exists_map_eq_ok_iff, Directive.ofShape]
  cases s.options with
  | none => exact ⟨fun _ _ _ h => (nomatch h), fun _ => ⟨_, rfl⟩⟩
  | some options =>
    have hread : (∃ bounds, Bounds.read options.2 = .ok bounds) ↔
        ∀ gap interior, some options = some (gap, interior) → Bounds.Legible interior := by
      rw [exists_read_iff]
      constructor
      · rintro h gap interior heq
        obtain rfl := Option.some.inj heq
        exact h
      · exact fun h => h options.1 options.2 rfl
    rw [← hread]
    exact exists_map_eq_ok_iff (x := Bounds.read options.2)

/-- **A text can be scanned exactly when its bounds can be read.** -/
theorem exists_scan_iff {t : Text} : (∃ found, scan t = .ok found) ↔ Legible t := by
  rw [scan, exists_mapM_eq_ok_iff]
  exact forall₂_congr fun p _ => exists_ofShape_iff

/-- digits that are all of an assignment are read as one integer -/
theorem assigned?_digits (key : Text) {digits : Text} (hne : digits ≠ []) (h : ∀ c ∈ digits, Text.isDigit c = true) :
    Bounds.assigned? key (key ++ '=' :: digits) = some digits := by
  let gap : Blanks := ⟨[], fun _ hc => absurd hc List.not_mem_nil⟩
  have hwritten : key ++ '=' :: digits = key ++ (gap.1 ++ '=' :: (gap.1 ++ (digits ++ []))) := by simp [gap]
  exact Bounds.assigned?_eq_some_iff.2 ⟨⟨digits, hne, h, Or.inl rfl⟩, gap, gap, [], hwritten, by simp⟩

/-- **A bound with too many digits cannot be read**, whatever its digits are, though everything else in the text is in order. -/
theorem not_legible_of_long {digits : Text} (h : ∀ c ∈ digits, Text.isDigit c = true)
    (hlong : Numeral.maxDigits < digits.length) :
    ¬ Legible ("@import \"a\" \x7bline_begin=".toList ++ digits ++ ['}']) := by
  let interior : Text := BoundKey.lineBegin.name ++ '=' :: digits
  let s : Shape := { gap := [' '], path := ['a'], options := some ([' '], interior) }
  have hne : digits ≠ [] := by
    rintro rfl
    exact absurd hlong (Nat.not_lt_zero _)
  have hbrace : '}' ∉ interior := by
    intro hmem
    rcases List.mem_append.1 hmem with hmem | hmem
    · exact absurd hmem (by decide)
    · rcases List.mem_cons.1 hmem with hmem | hmem
      · exact absurd hmem (by decide)
      · exact absurd (h _ hmem) (by decide)
  -- the text is one directive, and all digits are assigned to its bound
  have htext : "@import \"a\" \x7bline_begin=".toList ++ digits ++ ['}'] = s.text := by
    have hname : interior = "line_begin".toList ++ '=' :: digits := rfl
    have hkeyword : keyword = "@import".toList := rfl
    have hgap : s.gap = [' '] := rfl
    have hpath : s.path = ['a'] := rfl
    rw [Shape.text, Shape.optionsText, hkeyword, hname, hgap, hpath]
    simp
  have hblank : ∀ c ∈ [' '], Text.isBlank c = true := List.forall_mem_singleton.2 (by decide)
  have hquote : '"' ∉ ['a'] := by decide
  have hmem : (0, s) ∈ shapes s.text := by
    have hopens : Opens s.text s.gap s.path (Shape.optionsText s.options) :=
      ⟨⟨_, List.append_assoc _ _ _, rfl, List.cons_ne_nil _ _, hblank, hquote⟩, List.cons_ne_nil _ _⟩
    have hends : Ends (Shape.optionsText s.options) s.options [] :=
      .braces ⟨rfl, List.cons_ne_nil _ _, hblank, hbrace⟩
    have hhead : Shape.head? s.text = some (s, []) := head?_eq_some_iff.2 ⟨_, hopens, hends⟩
    obtain ⟨c, u, hu⟩ := List.exists_cons_of_ne_nil s.text_ne_nil
    rw [shapes, hu, shapesFrom, ← hu, hhead]
    exact List.mem_cons_self
  have hfind : Bounds.find? BoundKey.lineBegin.name true interior = some digits := by
    have hassigned : Bounds.assigned? BoundKey.lineBegin.name interior = some digits := assigned?_digits _ hne h
    rw [show interior = 'l' :: ("ine_begin".toList ++ '=' :: digits) from rfl] at hassigned ⊢
    rw [Bounds.find?, if_pos rfl, hassigned]
  have hle := fun hlegible : Legible s.text => hlegible _ hmem _ _ rfl .lineBegin digits hfind
  have hunsigned : Numeral.unsigned digits = digits := by
    refine Numeral.unsigned_of_ne fun rest heq => ?_
    exact absurd (h '-' (heq ▸ List.mem_cons_self)) (by decide)
  rw [hunsigned] at hle
  rw [htext]
  exact fun hlegible => absurd (hle hlegible) (Nat.not_le.2 hlong)

/-- bounds that were read can be written -/
theorem natAbs_lt_of_bound? {key interior : Text} {n : Int} (h : Bounds.bound? key interior = .ok (some n)) :
    n.natAbs < 10 ^ Numeral.maxDigits := by
  unfold Bounds.bound? at h
  split at h
  · obtain ⟨m, hm, hmn⟩ := eq_of_map_eq_ok h
    obtain rfl := Option.some.inj hmn
    exact Numeral.natAbs_lt_of_read hm
  · cases h

/-- the bounds of a directive that was found can be written -/
theorem natAbs_lt_of_scan {t : Text} {found : List Occurrence} {o : Occurrence} (h : scan t = .ok found) (ho : o ∈ found) :
    ∀ n, o.directive.lineBegin = some n ∨ o.directive.lineEnd = some n → n.natAbs < 10 ^ Numeral.maxDigits := by
  obtain ⟨p, -, hp⟩ := exists_left_of_forall₂ (scan_eq_ok_iff.1 h) ho
  unfold Occurrence.ofShape Directive.ofShape at hp
  obtain ⟨d, hd, rfl⟩ := eq_of_map_eq_ok hp
  intro n hn
  cases hoptions : p.2.options with
  | none =>
    rw [hoptions] at hd
    cases hd
    simp at hn
  | some options =>
    simp only [hoptions] at hd
    cases hbounds : Bounds.read options.2 with
    | error e => rw [hbounds] at hd; cases hd
    | ok bounds =>
      rw [hbounds] at hd
      cases hd
      obtain ⟨hbegin, hend⟩ := read_eq_ok_iff.1 hbounds
      rcases hn with hn | hn
      · exact natAbs_lt_of_bound? (hbegin.trans (congrArg Except.ok hn))
      · exact natAbs_lt_of_bound? (hend.trans (congrArg Except.ok hn))

/-! ## Writing the range label -/

/-- the last number that can be read -/
def lastLine : Int := ((10 ^ Numeral.maxDigits : ℕ) : Int) - 1

theorem exists_rangeLabel_iff_of_labelNumbers {d : Directive} :
    (∃ label, d.rangeLabel = .ok label) ↔ ∀ n ∈ d.labelNumbers, n.natAbs < 10 ^ Numeral.maxDigits := by
  rw [rangeLabel, exists_map_eq_ok_iff, exists_mapM_eq_ok_iff]
  refine forall₂_congr fun n _ => ?_
  rw [exists_map_eq_ok_iff, Numeral.exists_write_iff]

/-- **The one number that no range label shows.** A directive that was found has a range label unless its first line is the
last number that can be read: counted from one, it has a digit too many. -/
theorem exists_rangeLabel_iff {t : Text} {found : List Occurrence} {o : Occurrence} (h : scan t = .ok found) (ho : o ∈ found) :
    (∃ label, o.directive.rangeLabel = .ok label) ↔ o.directive.lineBegin ≠ some lastLine := by
  have hbounds := natAbs_lt_of_scan h ho
  rw [exists_rangeLabel_iff_of_labelNumbers]
  unfold labelNumbers lastLine
  generalize 10 ^ Numeral.maxDigits = limit at hbounds
  cases hbegin : o.directive.lineBegin with
  | none =>
    simp only [Option.map_none, Option.toList_none, List.nil_append, Option.mem_toList, ne_eq, reduceCtorEq, not_false_eq_true,
      iff_true]
    exact fun n hn => hbounds n (Or.inr hn)
  | some n =>
    have hn := hbounds n (Or.inl hbegin)
    simp only [Option.map_some, Option.toList_some, List.singleton_append, List.forall_mem_cons, Option.mem_toList, ne_eq,
      Option.some.injEq]
    constructor
    · rintro ⟨hfirst, -⟩
      omega
    · intro hne
      exact ⟨by omega, fun m hm => hbounds m (Or.inr hm)⟩

end Directive

end Transclude
