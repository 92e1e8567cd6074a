/-
Where the search for a bound stops, told without the search.

A text assigns an integer to a key at a place if the key stands there, then an equals sign with blanks around it, then the integer
(`Assigns`). What stands next to an assignment is another matter. The search passes a place behind a key character, and reads the
digits to their end (`Open`); it does not ask for blanks on either side, as a whole assignment has them (`Whole`). So it can stop
inside of the value of another key, and it can read the front of a value that is no integer.

- `find?_eq_some_iff`, `find?_eq_none_iff`: the search stops at the first open assignment to its key, and nowhere else.
- `read_eq_ok_iff_first`: the bounds that are read are the values of the first open assignments. Where those are whole, they are the
  first whole ones, too.
-/
import Transclude.Proofs.Directive.Limits

namespace Transclude.Directive.Bounds

/-! ## Assignments at a place -/

/-- between `before` and `after`, a text assigns the integer `numeral` to a key -/
structure Assigns (key t before numeral after : Text) : Prop where
  integer : IsInteger numeral
  written : ∃ gap gap' : Blanks, t = before ++ (key ++ (gap.1 ++ '=' :: (gap'.1 ++ (numeral ++ after))))

/-- no key character stands in front, and no digit behind -/
def Open (before after : Text) : Prop :=
  (∀ c ∈ before.getLast?, isKeyChar c = false) ∧ ∀ c ∈ after.head?, Text.isDigit c = false

/-- blanks stand in front and behind, or nothing does -/
def Whole (before after : Text) : Prop :=
  (∀ c ∈ before.getLast?, Text.isBlank c = true) ∧ ∀ c ∈ after.head?, Text.isBlank c = true

theorem Whole.open {before after : Text} (h : Whole before after) : Open before after :=
  ⟨fun c hc => not_isKeyChar_of_isBlank (h.1 c hc), fun c hc => Text.not_isDigit_of_isBlank (h.2 c hc)⟩

/-- the first assignment to a key that stands between such neighbours -/
structure First (Near : Text → Text → Prop) (key t before numeral after : Text) : Prop where
  assigns : Assigns key t before numeral after
  near : Near before after
  least : ∀ before' numeral' after', Assigns key t before' numeral' after' → Near before' after' →
    before.length ≤ before'.length

variable {key t before numeral after : Text}

/-! ## The place of the search -/

/-- the text in front leaves the search free to stop, where `free` says so of what stands in front of that text -/
def Clear (free : Bool) (before : Text) : Prop := (before.getLast?.map fun c => !isKeyChar c).getD free = true

theorem clear_true_iff : Clear true before ↔ ∀ c ∈ before.getLast?, isKeyChar c = false := by
  unfold Clear
  cases before.getLast? with
  | none => simp
  | some c => simp

theorem clear_cons (free : Bool) (c : Char) (before : Text) : Clear free (c :: before) ↔ Clear (!isKeyChar c) before := by
  unfold Clear
  rw [List.getLast?_cons]
  cases before.getLast? with
  | none => rfl
  | some d => rfl

/-- an assignment at which the search can stop -/
structure Hit (key : Text) (free : Bool) (t before numeral after : Text) : Prop where
  assigns : Assigns key t before numeral after
  clear : Clear free before
  ends : ∀ c ∈ after.head?, Text.isDigit c = false

theorem hit_true_iff : Hit key true t before numeral after ↔ Assigns key t before numeral after ∧ Open before after := by
  constructor
  · intro h
    exact ⟨h.assigns, clear_true_iff.1 h.clear, h.ends⟩
  · rintro ⟨hassigns, hclear, hends⟩
    exact ⟨hassigns, clear_true_iff.2 hclear, hends⟩

theorem not_hit_nil (free : Bool) : ¬ Hit key free [] before numeral after := by
  rintro ⟨⟨-, gap, gap', hwritten⟩, -, -⟩
  simp at hwritten

/-- at the front of a text, a hit is what the search reads there -/
theorem exists_hit_nil_iff {free : Bool} :
    (∃ after, Hit key free t [] numeral after) ↔ free = true ∧ assigned? key t = some numeral := by
  rw [assigned?_eq_some_iff]
  constructor
  · rintro ⟨after, ⟨hinteger, gap, gap', hwritten⟩, hclear, hends⟩
    exact ⟨hclear, hinteger, gap, gap', after, hwritten, hends⟩
  · rintro ⟨rfl, hinteger, gap, gap', after, hwritten, hends⟩
    exact ⟨after, ⟨hinteger, gap, gap', hwritten⟩, rfl, hends⟩

/-- a hit further on is a hit of the search that has passed one character -/
theorem hit_cons_iff {free : Bool} {c d : Char} :
    Hit key free (c :: t) (d :: before) numeral after ↔ c = d ∧ Hit key (!isKeyChar c) t before numeral after := by
  constructor
  · rintro ⟨⟨hinteger, gap, gap', hwritten⟩, hclear, hends⟩
    rw [List.cons_append, List.cons.injEq] at hwritten
    obtain ⟨rfl, hwritten⟩ := hwritten
    exact ⟨rfl, ⟨hinteger, gap, gap', hwritten⟩, (clear_cons free c before).1 hclear, hends⟩
  · rintro ⟨rfl, ⟨hinteger, gap, gap', hwritten⟩, hclear, hends⟩
    refine ⟨⟨hinteger, gap, gap', ?_⟩, (clear_cons free c before).2 hclear, hends⟩
    rw [hwritten, List.cons_append]

/-- what the search does at one character: it stops at a hit, and goes on where there is none -/
theorem find?_cons (key : Text) (free : Bool) (c : Char) (t : Text) :
    (∃ numeral after, Hit key free (c :: t) [] numeral after ∧ find? key free (c :: t) = some numeral) ∨
      ((∀ numeral after, ¬ Hit key free (c :: t) [] numeral after) ∧
        find? key free (c :: t) = find? key (!isKeyChar c) t) := by
  cases hhere : (if free then assigned? key (c :: t) else none) with
  | some numeral =>
    left
    have hfree : free = true ∧ assigned? key (c :: t) = some numeral := by
      cases free with
      | false => cases hhere
      | true => exact ⟨rfl, hhere⟩
    obtain ⟨after, hhit⟩ := exists_hit_nil_iff.2 hfree
    exact ⟨numeral, after, hhit, by rw [find?, hhere]⟩
  | none =>
    right
    refine ⟨fun numeral after hhit => ?_, by rw [find?, hhere]⟩
    obtain ⟨rfl, hassigned⟩ := exists_hit_nil_iff.1 ⟨after, hhit⟩
    rw [if_pos rfl, hassigned] at hhere
    cases hhere

theorem not_hit_of_find?_eq_none {free : Bool} (h : find? key free t = none) :
    ¬ Hit key free t before numeral after := by
  induction t generalizing free before with
  | nil => exact not_hit_nil free
  | cons c t ih =>
    rcases find?_cons key free c t with ⟨numeral', after', -, hfound⟩ | ⟨hnone, hnext⟩
    · rw [h] at hfound
      cases hfound
    · cases before with
      | nil => exact hnone numeral after
      | cons d before =>
        intro hhit
        exact ih (hnext.symm.trans h) (hit_cons_iff.1 hhit).2

theorem exists_hit_of_find? {free : Bool} (h : find? key free t = some numeral) :
    ∃ before after, Hit key free t before numeral after ∧
      ∀ before' numeral' after', Hit key free t before' numeral' after' → before.length ≤ before'.length := by
  induction t generalizing free with
  | nil => cases h
  | cons c t ih =>
    rcases find?_cons key free c t with ⟨numeral', after, hhit, hfound⟩ | ⟨hnone, hnext⟩
    · obtain rfl := Option.some.inj (h.symm.trans hfound)
      exact ⟨[], after, hhit, fun before' _ _ _ => Nat.zero_le before'.length⟩
    · obtain ⟨before, after, hhit, hleast⟩ := ih (hnext.symm.trans h)
      refine ⟨c :: before, after, hit_cons_iff.2 ⟨rfl, hhit⟩, ?_⟩
      intro before' numeral' after' hhit'
      cases before' with
      | nil => exact absurd hhit' (hnone numeral' after')
      | cons d before' => exact Nat.succ_le_succ (hleast before' numeral' after' (hit_cons_iff.1 hhit').2)

/-! ## The first assignment -/

theorem Hit.assigned? {free : Bool} (h : Hit key free t before numeral after) :
    assigned? key (t.drop before.length) = some numeral := by
  obtain ⟨hinteger, gap, gap', hwritten⟩ := h.assigns
  exact assigned?_eq_some_iff.2 ⟨hinteger, gap, gap', after, by rw [hwritten, List.drop_left], h.ends⟩

/-- what stands behind an assignment is what the key, the blanks, the equals sign and the integer leave -/
theorem Assigns.after_eq (h : Assigns key t before numeral after) :
    after = (((((t.drop before.length).drop key.length).dropWhile Text.isBlank).tail).dropWhile Text.isBlank).drop
      numeral.length := by
  obtain ⟨hinteger, gap, gap', rfl⟩ := h
  have hequals : (gap.1 ++ '=' :: (gap'.1 ++ (numeral ++ after))).dropWhile Text.isBlank =
      '=' :: (gap'.1 ++ (numeral ++ after)) :=
    Text.dropWhile_run gap.2 (by simp; decide)
  have hvalue : (gap'.1 ++ (numeral ++ after)).dropWhile Text.isBlank = numeral ++ after :=
    Text.dropWhile_run gap'.2 (hinteger.not_isBlank_head after)
  rw [List.drop_left, List.drop_left, hequals, List.tail_cons, hvalue, List.drop_left]

/-- there is one first open assignment at most -/
theorem First.unique {before' numeral' after' : Text} (h : First Open key t before numeral after)
    (h' : First Open key t before' numeral' after') : before = before' ∧ numeral = numeral' ∧ after = after' := by
  have hlength : before.length = before'.length :=
    le_antisymm (h.least _ _ _ h'.assigns h'.near) (h'.least _ _ _ h.assigns h.near)
  have hbefore : before = before' := by
    obtain ⟨gap, gap', hwritten⟩ := h.assigns.written
    obtain ⟨gap₁, gap₁', hwritten'⟩ := h'.assigns.written
    exact (List.append_inj (hwritten.symm.trans hwritten') hlength).1
  have hnumeral : numeral = numeral' := by
    have hread := (hit_true_iff.2 ⟨h.assigns, h.near⟩).assigned?
    rw [hlength, (hit_true_iff.2 ⟨h'.assigns, h'.near⟩).assigned?] at hread
    exact (Option.some.inj hread).symm
  refine ⟨hbefore, hnumeral, ?_⟩
  rw [h.assigns.after_eq, h'.assigns.after_eq, hbefore, hnumeral]

/-- **The search stops nowhere** where nothing is assigned to its key in the open. -/
theorem find?_eq_none_iff :
    find? key true t = none ↔ ∀ before numeral after, Assigns key t before numeral after → ¬ Open before after := by
  constructor
  · intro h before numeral after hassigns hopen
    exact not_hit_of_find?_eq_none h (hit_true_iff.2 ⟨hassigns, hopen⟩)
  · intro h
    cases hfound : find? key true t with
    | none => rfl
    | some numeral =>
      obtain ⟨before, after, hhit, -⟩ := exists_hit_of_find? hfound
      obtain ⟨hassigns, hopen⟩ := hit_true_iff.1 hhit
      exact absurd hopen (h _ _ _ hassigns)

/-- **The search stops at the first open assignment** to its key. -/
theorem find?_eq_some_iff : find? key true t = some numeral ↔ ∃ before after, First Open key t before numeral after := by
  have hfirst : ∀ numeral, find? key true t = some numeral → ∃ before after, First Open key t before numeral after := by
    intro numeral h
    obtain ⟨before, after, hhit, hleast⟩ := exists_hit_of_find? h
    obtain ⟨hassigns, hopen⟩ := hit_true_iff.1 hhit
    refine ⟨before, after, hassigns, hopen, ?_⟩
    intro before' numeral' after' hassigns' hopen'
    exact hleast before' numeral' after' (hit_true_iff.2 ⟨hassigns', hopen'⟩)
  constructor
  · exact hfirst numeral
  · rintro ⟨before, after, h⟩
    cases hfound : find? key true t with
    | none => exact absurd h.near (find?_eq_none_iff.1 hfound _ _ _ h.assigns)
    | some numeral' =>
      obtain ⟨before', after', h'⟩ := hfirst numeral' hfound
      rw [(h.unique h').2.1]

/-- where something is assigned in the open, there is a first place of it -/
theorem exists_first (hassigns : Assigns key t before numeral after) (hopen : Open before after) :
    ∃ before' numeral' after', First Open key t before' numeral' after' := by
  cases hfound : find? key true t with
  | none => exact absurd hopen (find?_eq_none_iff.1 hfound _ _ _ hassigns)
  | some numeral' =>
    obtain ⟨before', after', h⟩ := find?_eq_some_iff.1 hfound
    exact ⟨before', numeral', after', h⟩

/-! ## The bounds that are read -/

/-- the bound that was read for a key -/
def get (bounds : Bounds) : BoundKey → Option Int
  | .lineBegin => bounds.lineBegin
  | .lineEnd => bounds.lineEnd

/-- the value of the first assignment to a key between such neighbours, if there is one; an integer with too many digits has none -/
def Reads (Near : Text → Text → Prop) (key t : Text) (bound : Option Int) : Prop :=
  (∃ before n after, First Near key t before (WrittenInteger.text n) after ∧ bound = some n.value) ∨
    ((∀ before numeral after, Assigns key t before numeral after → ¬ Near before after) ∧ bound = none)

/-- the integers that can be read are the written ones -/
theorem read_eq_ok_iff_written (h : IsInteger numeral) {v : Int} :
    Numeral.read numeral = .ok v ↔ ∃ n : WrittenInteger, n.text = numeral ∧ n.value = v := by
  constructor
  · intro hread
    have hlength := Numeral.exists_read_iff.1 ⟨v, hread⟩
    obtain ⟨n, hn⟩ : ∃ n : WrittenInteger, n.text = numeral := by
      obtain ⟨digits, hne, hdigits, rfl | rfl⟩ := h
      · have hunsigned : Numeral.unsigned numeral = numeral := by
          apply Numeral.unsigned_of_ne
          rintro rest rfl
          exact absurd (hdigits '-' List.mem_cons_self) (by decide)
        rw [hunsigned] at hlength
        exact ⟨⟨false, numeral, hne, hdigits, hlength⟩, rfl⟩
      · exact ⟨⟨true, digits, hne, hdigits, hlength⟩, rfl⟩
    rw [← hn, read_written] at hread
    exact ⟨n, hn, Except.ok.inj hread⟩
  · rintro ⟨n, rfl, rfl⟩
    exact read_written n

theorem bound?_eq_ok_iff {bound : Option Int} : bound? key t = .ok bound ↔ Reads Open key t bound := by
  unfold bound?
  cases hfound : find? key true t with
  | none =>
    have hnone := find?_eq_none_iff.1 hfound
    constructor
    · intro h
      exact Or.inr ⟨hnone, (Except.ok.inj h).symm⟩
    · rintro (⟨before, n, after, hfirst, -⟩ | ⟨-, rfl⟩)
      · exact absurd hfirst.near (hnone _ _ _ hfirst.assigns)
      · rfl
  | some numeral =>
    obtain ⟨before, after, hfirst⟩ := find?_eq_some_iff.1 hfound
    have hinteger := hfirst.assigns.integer
    constructor
    · intro h
      obtain ⟨v, hv, rfl⟩ := Markup.Token.eq_of_map_eq_ok h
      obtain ⟨n, rfl, rfl⟩ := (read_eq_ok_iff_written hinteger).1 hv
      exact Or.inl ⟨before, n, after, hfirst, rfl⟩
    · rintro (⟨before', n, after', hfirst', rfl⟩ | ⟨hnone, -⟩)
      · obtain ⟨-, rfl, -⟩ := hfirst.unique hfirst'
        simp only [read_written]
        rfl
      · exact absurd hfirst.near (hnone _ _ _ hfirst.assigns)

/-- where the first open assignment is whole, it is the first whole one -/
theorem first_whole_iff (h : ∀ before numeral after, First Open key t before numeral after → Whole before after) :
    First Whole key t before numeral after ↔ First Open key t before numeral after := by
  constructor
  · intro hwhole
    refine ⟨hwhole.assigns, hwhole.near.open, ?_⟩
    intro before' numeral' after' hassigns hopen
    obtain ⟨before₀, numeral₀, after₀, hfirst⟩ := exists_first hassigns hopen
    calc before.length
        ≤ before₀.length := hwhole.least _ _ _ hfirst.assigns (h _ _ _ hfirst)
      _ ≤ before'.length := hfirst.least _ _ _ hassigns hopen
  · intro hopen
    refine ⟨hopen.assigns, h _ _ _ hopen, ?_⟩
    intro before' numeral' after' hassigns hwhole
    exact hopen.least _ _ _ hassigns hwhole.open

/-- **Which bounds are read.** For each key the value of its first open assignment is read, and nothing where there is none; nothing
at all is read where such a value has too many digits. The first open assignment need not be whole: the key can stand inside of the
value of another one, and the integer can be the front of a longer value. Where it is whole, what is read is the value of the first
whole assignment. -/
theorem read_eq_ok_iff_first (interior : Text) (bounds : Bounds) :
    (Bounds.read interior = .ok bounds ↔ ∀ b : BoundKey, Reads Open b.name interior (bounds.get b)) ∧
    ∀ b : BoundKey, (∀ before numeral after, First Open b.name interior before numeral after → Whole before after) →
      ∀ bound, Reads Whole b.name interior bound ↔ Reads Open b.name interior bound := by
  constructor
  · rw [read_eq_ok_iff, bound?_eq_ok_iff, bound?_eq_ok_iff]
    constructor
    · rintro ⟨hbegin, hend⟩ b
      cases b with
      | lineBegin => exact hbegin
      | lineEnd => exact hend
    · intro h
      exact ⟨h .lineBegin, h .lineEnd⟩
  · intro b hwhole bound
    have hnone : (∀ before numeral after, Assigns b.name interior before numeral after → ¬ Whole before after) ↔
        ∀ before numeral after, Assigns b.name interior before numeral after → ¬ Open before after := by
      constructor
      · intro h before numeral after hassigns hopen
        obtain ⟨before', numeral', after', hfirst⟩ := exists_first hassigns hopen
        exact h _ _ _ hfirst.assigns (hwhole _ _ _ hfirst)
      · intro h before numeral after hassigns hnear
        exact h _ _ _ hassigns hnear.open
    simp only [Reads, first_whole_iff hwhole, hnone]

/-- a whole assignment with a sign and a zero in front, before others to keys that end in the name of the bound or are that name -/
theorem read_eq_ok_iff_first_spaced :
    Bounds.read "line_end = -07 x-line_end=1 line_end=2".toList = .ok { lineEnd := some (-7) } ∧
    (∀ before numeral after,
      First Open BoundKey.lineEnd.name "line_end = -07 x-line_end=1 line_end=2".toList before numeral after →
        Whole before after) ∧
    Reads Whole BoundKey.lineEnd.name "line_end = -07 x-line_end=1 line_end=2".toList (some (-7)) := by
  have hread : Bounds.read "line_end = -07 x-line_end=1 line_end=2".toList = .ok { lineEnd := some (-7) } := by
    decide +kernel
  have hdigits : "07".toList.all Text.isDigit = true := by decide
  have hinteger : IsInteger "-07".toList := ⟨"07".toList, by decide, List.all_eq_true.1 hdigits, Or.inr rfl⟩
  have hblank : [' '].all Text.isBlank = true := by decide
  let gap : Blanks := ⟨[' '], List.all_eq_true.1 hblank⟩
  have hfront : First Open BoundKey.lineEnd.name "line_end = -07 x-line_end=1 line_end=2".toList [] "-07".toList
      " x-line_end=1 line_end=2".toList :=
    ⟨⟨hinteger, gap, gap, rfl⟩, ⟨by simp, by simp; decide⟩, fun before' _ _ _ _ => Nat.zero_le before'.length⟩
  have hwhole : ∀ before numeral after,
      First Open BoundKey.lineEnd.name "line_end = -07 x-line_end=1 line_end=2".toList before numeral after →
        Whole before after := by
    intro before numeral after hfirst
    obtain ⟨rfl, -, rfl⟩ := hfront.unique hfirst
    exact ⟨by simp, by simp; decide⟩
  obtain ⟨hiff, hsame⟩ :=
    read_eq_ok_iff_first "line_end = -07 x-line_end=1 line_end=2".toList { lineEnd := some (-7) }
  exact ⟨hread, hwhole, (hsame .lineEnd hwhole (some (-7))).2 (hiff.1 hread .lineEnd)⟩

/-- an integer is read off the front of a value that is none -/
example : Bounds.read "line_begin=4.5".toList = .ok { lineBegin := some 4 } := by decide +kernel

/-- the name of a bound is found inside of the value of another key -/
example : Bounds.read "title=line_begin=3".toList = .ok { lineBegin := some 3 } := by decide +kernel

end Transclude.Directive.Bounds
