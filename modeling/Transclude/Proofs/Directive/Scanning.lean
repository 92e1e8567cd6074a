/-
Scanning a text for directives.

`Scanned` tells a scan by its steps: from an offset on, nothing opens up to the first directive, and the scan goes on behind
its end. The scanner walks the text a character at a time and counts down what belongs to a directive already found; that
it does what `Scanned` says is the invariant of the walk (`scanned_shapesFrom`).

- `Scanned.unique`: the steps leave no choice.
- `scan_leftmost`: what is found are the leftmost directives that do not overlap, and all of them. Each stands in the text
  where it says, with the path and the end of the grammar, and a directive that is not listed opens inside of one that is.
-/
import Transclude.Directive.Occurrence
import Transclude.Proofs.Directive.Grammar
import Transclude.Proofs.Failing

namespace Transclude

namespace Directive

/-! ## The steps of a scan -/

/-- from offset `n` on, the text holds these shapes: each is the first one behind the end of the one before -/
inductive Scanned (t : Text) : (n : ℕ) → List (ℕ × Shape) → Prop
  | stop {n : ℕ} (h : ∀ k, n ≤ k → Shape.head? (t.drop k) = none) : Scanned t n []
  | found {n i : ℕ} {s : Shape} {rest : Text} {more : List (ℕ × Shape)} (hn : n ≤ i)
      (first : ∀ k, n ≤ k → k < i → Shape.head? (t.drop k) = none)
      (here : Shape.head? (t.drop i) = some (s, rest)) (behind : Scanned t (i + s.text.length) more) :
      Scanned t n ((i, s) :: more)

/-- an offset at which nothing opens can be passed -/
theorem Scanned.pass {t : Text} {n : ℕ} {found : List (ℕ × Shape)} (hn : Shape.head? (t.drop n) = none)
    (h : Scanned t (n + 1) found) : Scanned t n found := by
  have extend : ∀ k, n ≤ k → (n + 1 ≤ k → Shape.head? (t.drop k) = none) → Shape.head? (t.drop k) = none := by
    intro k hk hnext
    rcases Nat.eq_or_lt_of_le hk with rfl | hlt
    · exact hn
    · exact hnext hlt
  cases h with
  | stop hs => exact .stop fun k hk => extend k hk (hs k)
  | found hi first here behind => exact .found (by omega) (fun k hk hki => extend k hk fun h => first k h hki) here behind

/-- **The walk keeps to the steps.** `skip` characters of the text at `n` belong to an earlier directive. -/
theorem scanned_shapesFrom (t : Text) {u : Text} {n : ℕ} (skip : ℕ) (hu : t.drop n = u) :
    Scanned t (n + skip) (shapesFrom n skip u) := by
  induction u generalizing n skip with
  | nil =>
    have hstop : ∀ k, n + skip ≤ k → Shape.head? (t.drop k) = none := by
      intro k hk
      have hk' : t.drop k = [] := by
        rw [show k = n + (k - n) by omega, ← List.drop_drop, hu, List.drop_nil]
      rw [hk']
      rfl
    cases skip <;> exact .stop hstop
  | cons c rest ih =>
    have hrest : t.drop (n + 1) = rest := by rw [← List.drop_drop, hu, List.drop_succ_cons, List.drop_zero]
    cases skip with
    | succ skip =>
      have h := ih skip hrest
      rwa [show n + 1 + skip = n + (skip + 1) by omega] at h
    | zero =>
      simp only [shapesFrom]
      split
      · rename_i s behind hs
        have hpos : 0 < s.text.length := List.length_pos_iff.2 s.text_ne_nil
        have h := ih (s.text.length - 1) hrest
        rw [show n + 1 + (s.text.length - 1) = n + s.text.length by omega] at h
        exact .found le_rfl (fun k hk hkn => absurd hkn (by omega)) (hu ▸ hs) h
      · rename_i hs
        exact Scanned.pass (hu ▸ hs) (ih 0 hrest)

theorem scanned_shapes (t : Text) : Scanned t 0 (shapes t) := scanned_shapesFrom t 0 List.drop_zero

/-- the steps leave no choice -/
theorem Scanned.unique {t : Text} {n : ℕ} {found found' : List (ℕ × Shape)} (h : Scanned t n found)
    (h' : Scanned t n found') : found = found' := by
  induction h generalizing found' with
  | stop hs =>
    cases h' with
    | stop _ => rfl
    | found hn _ here _ => rw [hs _ hn] at here; simp at here
  | @found n i s rest more hn first here _ ih =>
    cases h' with
    | stop hs => rw [hs _ hn] at here; simp at here
    | @found _ i' s' rest' more' hn' first' here' behind' =>
      have hi : i = i' := by
        rcases lt_trichotomy i i' with hlt | heq | hgt
        · rw [first' _ hn hlt] at here; simp at here
        · exact heq
        · rw [first _ hn' hgt] at here'; simp at here'
      subst hi
      rw [here] at here'
      obtain ⟨rfl, rfl⟩ := Prod.mk.inj (Option.some.inj here')
      rw [ih behind']

/-- every listed shape is read at its offset, which is not in front of the scan -/
theorem Scanned.reads {t : Text} {n : ℕ} {found : List (ℕ × Shape)} (h : Scanned t n found) :
    ∀ p ∈ found, n ≤ p.1 ∧ ∃ rest, Shape.head? (t.drop p.1) = some (p.2, rest) := by
  induction h with
  | stop _ => simp
  | found hn _ here _ ih =>
    intro p hp
    rcases List.mem_cons.1 hp with rfl | hp
    · exact ⟨hn, _, here⟩
    · obtain ⟨hle, hread⟩ := ih p hp
      exact ⟨by omega, hread⟩

/-- a shape ends before the next one starts -/
theorem Scanned.ordered {t : Text} {n : ℕ} {found : List (ℕ × Shape)} (h : Scanned t n found) :
    found.Pairwise fun p q => p.1 + p.2.text.length ≤ q.1 := by
  induction h with
  | stop _ => exact .nil
  | found _ _ _ behind ih => exact .cons (fun q hq => (behind.reads q hq).1) ih

/-- whatever opens behind the start of the scan opens inside of a listed shape -/
theorem Scanned.covers {t : Text} {n k : ℕ} {found : List (ℕ × Shape)} (h : Scanned t n found) (hk : n ≤ k)
    (hread : Shape.head? (t.drop k) ≠ none) : ∃ p ∈ found, p.1 ≤ k ∧ k < p.1 + p.2.text.length := by
  induction h with
  | stop hs => exact absurd (hs k hk) hread
  | @found n i s rest more hn first _ _ ih =>
    by_cases hki : k < i
    · exact absurd (first k hk hki) hread
    · by_cases hin : k < i + s.text.length
      · exact ⟨(i, s), List.mem_cons_self, by omega, hin⟩
      · obtain ⟨p, hp, hpk⟩ := ih (by omega)
        exact ⟨p, List.mem_cons_of_mem _ hp, hpk⟩

/-! ## Occurrences -/

/-- the occurrence of a shape repeats its path and its text, at its offset -/
theorem Occurrence.eq_of_ofShape {offset : ℕ} {s : Shape} {o : Occurrence} (h : Occurrence.ofShape offset s = .ok o) :
    o.start = offset ∧ o.stop = offset + s.text.length ∧ o.directive.path = s.path ∧ o.directive.raw = s.text := by
  unfold Occurrence.ofShape at h
  cases hd : Directive.ofShape s with
  | error e => rw [hd] at h; cases h
  | ok d =>
    rw [hd] at h
    cases h
    refine ⟨rfl, rfl, ?_⟩
    unfold Directive.ofShape at hd
    cases ho : s.options with
    | none => rw [ho] at hd; cases hd; exact ⟨rfl, rfl⟩
    | some options =>
      rw [ho] at hd
      cases hb : Bounds.read options.2 with
      | error e => simp only [hb] at hd; cases hd
      | ok bounds => simp only [hb] at hd; cases hd; exact ⟨rfl, rfl⟩

/-- what is found are the shapes of the text, each as an occurrence -/
theorem scan_eq_ok_iff {t : Text} {found : List Occurrence} :
    scan t = .ok found ↔ List.Forall₂ (fun p o => Occurrence.ofShape p.1 p.2 = .ok o) (shapes t) found :=
  mapM_eq_ok_iff

/-- the occurrence stands in the text where it says: its source is the text between its offsets, and there a directive
opens with its path and ends where the grammar has it end -/
structure Occurrence.StandsIn (t : Text) (o : Occurrence) : Prop where
  start_lt : o.start < o.stop
  stop_le : o.stop ≤ t.length
  source : (t.take o.stop).drop o.start = o.directive.raw
  reading : ∃ gap behind options, Opens (t.drop o.start) gap o.directive.path behind ∧
    Ends behind options (t.drop o.stop)

/-- from offset `n` on, these are the leftmost directives of the text that do not overlap, and all of them -/
structure Leftmost (t : Text) (n : ℕ) (found : List Occurrence) : Prop where
  stands : ∀ o ∈ found, o.StandsIn t
  inside : ∀ o ∈ found, n ≤ o.start
  ordered : found.Pairwise fun a b => a.stop ≤ b.start
  covers : ∀ i gap path behind, n ≤ i → Opens (t.drop i) gap path behind →
    ∃ o ∈ found, i = o.start ∨ o.start < i ∧ i < o.stop

/-- a shape that is read at an offset stands there -/
theorem Occurrence.standsIn_of_head? {t rest : Text} {s : Shape} {o : Occurrence}
    (ho : Occurrence.ofShape o.start s = .ok o) (hs : Shape.head? (t.drop o.start) = some (s, rest)) :
    o.StandsIn t := by
  obtain ⟨-, hstop, hpath, hraw⟩ := Occurrence.eq_of_ofShape ho
  have heq := Shape.head?_eq_append hs
  have hpos : 0 < s.text.length := List.length_pos_iff.2 s.text_ne_nil
  have hlen : t.length - o.start = s.text.length + rest.length := by
    rw [← List.length_drop, heq, List.length_append]
  have hrest : t.drop o.stop = rest := by rw [hstop, ← List.drop_drop, heq, List.drop_left]
  obtain ⟨behind, hopens, hends⟩ := head?_eq_some_iff.1 hs
  refine ⟨by omega, by omega, ?_, s.gap, behind, s.options, hpath ▸ hopens, hrest ▸ hends⟩
  rw [List.drop_take, heq, hstop, Nat.add_sub_cancel_left, List.take_left, hraw]

/-- shapes that were scanned, made occurrences, are the leftmost directives -/
theorem Scanned.leftmost {t : Text} {n : ℕ} {shapes : List (ℕ × Shape)} {found : List Occurrence}
    (h : Scanned t n shapes) (hf : List.Forall₂ (fun p o => Occurrence.ofShape p.1 p.2 = .ok o) shapes found) :
    Leftmost t n found := by
  have hspan : shapes.map (fun p => (p.1, p.1 + p.2.text.length)) = found.map fun o => (o.start, o.stop) := by
    rw [← List.forall₂_eq_eq_eq, List.forall₂_map_left_iff, List.forall₂_map_right_iff]
    exact hf.imp fun p o ho => by obtain ⟨hstart, hstop, -⟩ := Occurrence.eq_of_ofShape ho; rw [hstart, hstop]
  refine ⟨fun o ho => ?_, fun o ho => ?_, ?_, fun i gap path behind hi hopens => ?_⟩
  · obtain ⟨p, hp, hpo⟩ := exists_left_of_forall₂ hf ho
    obtain ⟨-, rest, hread⟩ := h.reads p hp
    obtain ⟨hstart, -⟩ := Occurrence.eq_of_ofShape hpo
    rw [← hstart] at hread hpo
    exact Occurrence.standsIn_of_head? hpo hread
  · obtain ⟨p, hp, hpo⟩ := exists_left_of_forall₂ hf ho
    rw [(Occurrence.eq_of_ofShape hpo).1]
    exact (h.reads p hp).1
  · have hordered := h.ordered
    rw [← List.pairwise_map (f := fun p : ℕ × Shape => (p.1, p.1 + p.2.text.length)) (R := fun a b => a.2 ≤ b.1), hspan,
      List.pairwise_map] at hordered
    exact hordered
  · obtain ⟨s, rest, hs, -⟩ := hopens.exists_head?
    obtain ⟨p, hp, hle, hlt⟩ := h.covers hi (by rw [hs]; simp)
    have hmem := List.mem_map_of_mem (f := fun p : ℕ × Shape => (p.1, p.1 + p.2.text.length)) hp
    rw [hspan, List.mem_map] at hmem
    obtain ⟨o, ho, heq⟩ := hmem
    obtain ⟨hstart, hstop⟩ := Prod.mk.inj heq
    exact ⟨o, ho, by omega⟩

/-- what a scan finds are the leftmost directives -/
theorem leftmost_of_scan {t : Text} {found : List Occurrence} (h : scan t = .ok found) : Leftmost t 0 found :=
  (scanned_shapes t).leftmost (scan_eq_ok_iff.1 h)

/-! ## There is one such list -/

/-- what stands at one place of a text ends at one place -/
theorem Occurrence.StandsIn.stop_eq {t : Text} {a b : Occurrence} (ha : a.StandsIn t) (hb : b.StandsIn t)
    (h : a.start = b.start) : a.stop = b.stop := by
  obtain ⟨gap, behind, options, hopens, hends⟩ := ha.reading
  obtain ⟨gap', behind', options', hopens', hends'⟩ := hb.reading
  rw [h] at hopens
  obtain ⟨-, -, rfl⟩ := hopens.unique hopens'
  have hlen := congrArg List.length (hends.unique hends').2
  rw [List.length_drop, List.length_drop] at hlen
  have := ha.stop_le
  have := hb.stop_le
  omega

/-- what is listed opens, so another list covers its place -/
theorem Leftmost.covers_start {t : Text} {n : ℕ} {found found' : List Occurrence} (h : Leftmost t n found)
    (h' : Leftmost t n found') : ∀ a ∈ found', ∃ o ∈ found, a.start = o.start ∨ o.start < a.start ∧ a.start < o.stop := by
  intro a ha
  obtain ⟨gap, behind, _, hopens, -⟩ := (h'.stands a ha).reading
  exact h.covers _ gap _ behind (h'.inside a ha) hopens

/-- the first occurrence of a list starts no later than any place that the list covers -/
theorem Leftmost.start_le {t : Text} {n i : ℕ} {a : Occurrence} {found : List Occurrence} (h : Leftmost t n (a :: found))
    (hi : ∃ o ∈ a :: found, i = o.start ∨ o.start < i ∧ i < o.stop) : a.start ≤ i := by
  obtain ⟨o, hm, hoi⟩ := hi
  rcases List.mem_cons.1 hm with rfl | hm
  · omega
  · have hlt := (h.stands a List.mem_cons_self).start_lt
    have hle := (List.pairwise_cons.1 h.ordered).1 o hm
    omega

/-- behind the first occurrence, the others are the leftmost ones -/
theorem Leftmost.tail {t : Text} {n : ℕ} {a : Occurrence} {found : List Occurrence} (h : Leftmost t n (a :: found)) :
    Leftmost t a.stop found := by
  obtain ⟨hfirst, hordered⟩ := List.pairwise_cons.1 h.ordered
  refine ⟨fun o ho => h.stands o (List.mem_cons_of_mem a ho), hfirst, hordered, fun i gap path behind hi hopens => ?_⟩
  have hlt := (h.stands a List.mem_cons_self).start_lt
  have hle := h.inside a List.mem_cons_self
  obtain ⟨o, hm, hoi⟩ := h.covers i gap path behind (by omega) hopens
  rcases List.mem_cons.1 hm with rfl | hm
  · omega
  · exact ⟨o, hm, hoi⟩

/-- the leftmost directives of a text are at places that the text determines -/
theorem Leftmost.places_eq {t : Text} {n : ℕ} {found found' : List Occurrence} (h : Leftmost t n found)
    (h' : Leftmost t n found') : found.map (fun o => (o.start, o.stop)) = found'.map fun o => (o.start, o.stop) := by
  induction found generalizing n found' with
  | nil =>
    cases found' with
    | nil => rfl
    | cons b found' =>
      obtain ⟨o, ho, -⟩ := h.covers_start h' b List.mem_cons_self
      simp at ho
  | cons a found ih =>
    cases found' with
    | nil =>
      obtain ⟨o, ho, -⟩ := h'.covers_start h a List.mem_cons_self
      simp at ho
    | cons b found' =>
      have hstart : a.start = b.start := le_antisymm (h.start_le (h.covers_start h' b List.mem_cons_self))
        (h'.start_le (h'.covers_start h a List.mem_cons_self))
      have hstop := (h.stands a List.mem_cons_self).stop_eq (h'.stands b List.mem_cons_self) hstart
      rw [List.map_cons, List.map_cons, hstart, hstop, ih h.tail (hstop ▸ h'.tail)]

/-- **A scan finds the leftmost directives.** They stand in the text where they say, in order and without overlap; every
place where a directive opens is the start of one of them or lies inside of one; and there is no other such list. -/
theorem scan_leftmost {t : Text} {found : List Occurrence} (h : scan t = .ok found) :
    Leftmost t 0 found ∧ ∀ found', Leftmost t 0 found' →
      found'.map (fun o => (o.start, o.stop)) = found.map fun o => (o.start, o.stop) := by
  have hl : Leftmost t 0 found := leftmost_of_scan h
  exact ⟨hl, fun _ h' => h'.places_eq hl⟩

/-- a directive in the braces of another one, two that touch, and braces that are never closed -/
def crowded : Text := "@import \"a\" \x7b@import \"b\"\x7d@import \"c\"@import \"d\" \x7bx".toList

/-- the directives of `crowded`: the one in the braces is not among them -/
def crowdedFound : List Occurrence :=
  [⟨⟨['a'], none, none, "@import \"a\" \x7b@import \"b\"\x7d".toList⟩, 0, 25⟩,
   ⟨⟨['c'], none, none, "@import \"c\"".toList⟩, 25, 36⟩, ⟨⟨['d'], none, none, "@import \"d\"".toList⟩, 36, 47⟩]

theorem scan_leftmost_crowded : scan crowded = .ok crowdedFound ∧ Leftmost crowded 0 crowdedFound :=
  ⟨rfl, (scan_leftmost rfl).1⟩

end Directive

end Transclude
