/-
Scanning is local: the parts of a text that a scan tells apart, each cut out by itself, hold what they hold in the text.

Whether a directive opens at a place hangs on what stands behind the place alone, and the path of a directive ends inside of its
own source. So a cut at the end of a directive hides nothing behind it, and a cut in front of one shows nothing that was not there.

- `scan_raw`: the source of a directive is that directive and nothing else.
- `scan_drop`: behind a directive, the rest of the text holds the directives that follow it.
- `scan_eq_nil_of_gap`: no directive is found in text between the directives of a text.
- `scan_local`: all three of every scan that gives a result.
-/
import Transclude.Markup.Token.Lexer
import Transclude.Proofs.Directive.Scanning

namespace Transclude.Directive

open Markup.Token (eq_of_map_eq_ok)

/-! ## Text without directives -/

/-- where nothing opens, nothing is found -/
theorem scan_eq_nil_of_head? {t : Text} (h : ∀ k, Shape.head? (t.drop k) = none) : scan t = .ok [] := by
  have hshapes : shapes t = [] := (scanned_shapes t).unique (.stop fun k _ => h k)
  rw [scan, hshapes]
  rfl

/-- without a quotation mark there is no directive -/
theorem scan_eq_nil_of_not_mem {t : Text} (h : '"' ∉ t) : scan t = .ok [] := by
  refine scan_eq_nil_of_head? fun k => ?_
  rw [Option.eq_none_iff_forall_ne_some]
  rintro ⟨s, rest⟩ hs
  obtain ⟨behind, ⟨⟨u, hu, henclosed⟩, -⟩, -⟩ := head?_eq_some_iff.1 hs
  have hmem : '"' ∈ t.drop k := by
    rw [hu, henclosed.eq]
    simp
  exact h (List.mem_of_mem_drop hmem)

/-- a directive that opens in front of a text opens there, whatever follows -/
theorem Opens.append {t gap path rest : Text} (h : Opens t gap path rest) (more : Text) :
    Opens (t ++ more) gap path (rest ++ more) := by
  obtain ⟨⟨u, rfl, henclosed⟩, hpath⟩ := h
  refine ⟨⟨u ++ more, List.append_assoc _ _ _, ?_, henclosed.gap_ne_nil, henclosed.blank, henclosed.unclosed⟩, hpath⟩
  rw [henclosed.eq]
  simp only [List.append_assoc, List.cons_append]

/-- **Nothing is found between directives.** The text between two offsets, cut out by itself, holds no directive when none of
those that were found reaches into it. -/
theorem scan_eq_nil_of_gap {t : Text} {found : List Occurrence} {a b : ℕ} (h : scan t = .ok found) (hb : b ≤ t.length)
    (hgap : ∀ o ∈ found, o.stop ≤ a ∨ b ≤ o.start) : scan ((t.take b).drop a) = .ok [] := by
  refine scan_eq_nil_of_head? fun k => ?_
  rw [Option.eq_none_iff_forall_ne_some]
  rintro ⟨s, rest⟩ hs
  obtain ⟨behind, hopens, -⟩ := head?_eq_some_iff.1 hs
  have hinside : a + k < b := by
    by_contra hout
    have hnil : ((t.take b).drop a).drop k = [] := by
      rw [List.drop_drop, List.drop_eq_nil_iff, List.length_take]
      omega
    rw [hnil] at hs
    cases hs
  -- what opens in the gap opens at the same place of the whole text
  have hwhole : t.drop (a + k) = ((t.take b).drop a).drop k ++ t.drop b := by
    rw [List.drop_drop]
    conv_lhs => rw [← List.take_append_drop b t]
    rw [List.drop_append_of_le_length (by rw [List.length_take]; omega)]
  have hfound := leftmost_of_scan h
  have hopened := hopens.append (t.drop b)
  rw [← hwhole] at hopened
  obtain ⟨o, ho, hplace⟩ := hfound.covers (a + k) _ _ _ (Nat.zero_le _) hopened
  have hlt := (hfound.stands o ho).start_lt
  rcases hgap o ho with hbefore | hbehind <;> omega

/-- the path of a directive that was found holds no quotation mark -/
theorem not_mem_path_of_scan {t : Text} {found : List Occurrence} {o : Occurrence} (h : scan t = .ok found) (ho : o ∈ found) :
    '"' ∉ o.directive.path := by
  obtain ⟨gap, behind, options, ⟨⟨u, -, henclosed⟩, -⟩, -⟩ := ((leftmost_of_scan h).stands o ho).reading
  exact henclosed.unclosed

/-! ## The source of a directive -/

/-- a shape is read from its own text, and nothing is left behind it -/
theorem head?_text {t rest : Text} {s : Shape} (h : Shape.head? t = some (s, rest)) : Shape.head? s.text = some (s, []) := by
  obtain ⟨behind, ⟨⟨u, hu, henclosed⟩, hpath⟩, hends⟩ := head?_eq_some_iff.1 h
  have hopens : Opens s.text s.gap s.path (Shape.optionsText s.options) :=
    ⟨⟨_, List.append_assoc _ _ _, rfl, henclosed.gap_ne_nil, henclosed.blank, henclosed.unclosed⟩, hpath⟩
  refine head?_eq_some_iff.2 ⟨_, hopens, ?_⟩
  obtain ⟨gap, path, options⟩ := s
  cases hends with
  | braces hbraces => exact .braces ⟨rfl, hbraces.gap_ne_nil, hbraces.blank, hbraces.unclosed⟩
  | bare _ => exact .bare fun gap interior rest hbraces => absurd hbraces.eq (by simp [Shape.optionsText])

/-- the only shape in the text of a shape is the shape itself -/
theorem shapes_text {t rest : Text} {s : Shape} (h : Shape.head? t = some (s, rest)) : shapes s.text = [(0, s)] := by
  refine (scanned_shapes s.text).unique (.found le_rfl (fun k _ hk => absurd hk (Nat.not_lt_zero k)) (head?_text h) ?_)
  refine .stop fun k hk => ?_
  rw [List.drop_eq_nil_of_le (by omega)]
  rfl

/-- **The source of a directive holds that directive alone.** -/
theorem scan_raw {t : Text} {found : List Occurrence} {o : Occurrence} (h : scan t = .ok found) (ho : o ∈ found) :
    scan o.directive.raw = .ok [{ directive := o.directive, start := 0, stop := o.directive.raw.length }] := by
  obtain ⟨⟨i, s⟩, hp, hshape⟩ := exists_left_of_forall₂ (scan_eq_ok_iff.1 h) ho
  obtain ⟨-, rest, hread⟩ := (scanned_shapes t).reads _ hp
  obtain ⟨-, -, -, hraw⟩ := Occurrence.eq_of_ofShape hshape
  obtain ⟨d, hd, rfl⟩ := eq_of_map_eq_ok hshape
  rw [hraw, scan_eq_ok_iff, shapes_text hread]
  refine .cons ?_ .nil
  rw [Occurrence.ofShape, hd, Except.map, Nat.zero_add]

/-! ## The rest of a text -/

/-- the occurrence in a text that has `n` characters more in front -/
def Occurrence.later (n : ℕ) (o : Occurrence) : Occurrence := { o with start := o.start + n, stop := o.stop + n }

theorem Occurrence.ofShape_add (offset n : ℕ) (s : Shape) :
    Occurrence.ofShape (offset + n) s = (Occurrence.ofShape offset s).map (Occurrence.later n) := by
  unfold Occurrence.ofShape
  cases Directive.ofShape s with
  | error e => rfl
  | ok d =>
    simp only [Except.map, Occurrence.later]
    congr 2
    omega

/-- the scan goes on behind the end of every shape that it lists -/
theorem Scanned.behind {t : Text} {n : ℕ} {front behind : List (ℕ × Shape)} {p : ℕ × Shape}
    (h : Scanned t n (front ++ p :: behind)) : Scanned t (p.1 + p.2.text.length) behind := by
  induction front generalizing n with
  | nil =>
    cases h with
    | found _ _ _ hbehind => exact hbehind
  | cons q front ih =>
    cases h with
    | found _ _ _ hbehind => exact ih hbehind

/-- a scan of a text from `n` on is a scan of the text that is left there, with its offsets counted from there -/
theorem Scanned.drop {t : Text} {n m : ℕ} {found : List (ℕ × Shape)} (h : Scanned (t.drop n) m found) :
    Scanned t (m + n) (found.map fun p => (p.1 + n, p.2)) := by
  have hplace : ∀ k, n ≤ k → (t.drop n).drop (k - n) = t.drop k := by
    intro k hk
    rw [List.drop_drop, Nat.add_sub_cancel' hk]
  induction h with
  | stop hs =>
    refine .stop fun k hk => ?_
    rw [← hplace k (by omega)]
    exact hs _ (by omega)
  | @found m i s rest more hm first here _ ih =>
    have hhere : Shape.head? (t.drop (i + n)) = some (s, rest) := by
      rw [← hplace (i + n) (by omega), Nat.add_sub_cancel]
      exact here
    refine .found (by omega) (fun k hk hki => ?_) hhere ?_
    · rw [← hplace k (by omega)]
      exact first _ (by omega) (by omega)
    · rwa [Nat.add_right_comm]

/-- behind a shape, the shapes of a text are those of the rest of it -/
theorem shapes_drop {t : Text} {front behind : List (ℕ × Shape)} {p : ℕ × Shape} {n : ℕ}
    (h : shapes t = front ++ p :: behind) (hn : p.1 + p.2.text.length = n) :
    behind = (shapes (t.drop n)).map fun q => (q.1 + n, q.2) := by
  have hwhole := scanned_shapes t
  rw [h] at hwhole
  have hrest := (scanned_shapes (t.drop n)).drop
  rw [Nat.zero_add, ← hn] at hrest
  rw [← hn]
  exact hwhole.behind.unique hrest

/-- what is read of shapes does not hang on their offsets -/
theorem exists_later_of_forall₂ {n : ℕ} {ps : List (ℕ × Shape)} {os : List Occurrence}
    (h : List.Forall₂ (fun p o => Occurrence.ofShape (p.1 + n) p.2 = .ok o) ps os) :
    ∃ rest, List.Forall₂ (fun p o => Occurrence.ofShape p.1 p.2 = .ok o) ps rest ∧ os = rest.map (Occurrence.later n) := by
  induction h with
  | nil => exact ⟨[], .nil, rfl⟩
  | cons hp _ ih =>
    rw [Occurrence.ofShape_add] at hp
    obtain ⟨o, ho, rfl⟩ := eq_of_map_eq_ok hp
    obtain ⟨rest, hrest, rfl⟩ := ih
    exact ⟨o :: rest, .cons ho hrest, rfl⟩

/-- **Behind a directive, the rest of a text holds the directives that follow it.** -/
theorem scan_drop {t : Text} {front behind : List Occurrence} {o : Occurrence} (h : scan t = .ok (front ++ o :: behind)) :
    ∃ rest, scan (t.drop o.stop) = .ok rest ∧ behind = rest.map (Occurrence.later o.stop) := by
  have hshapes := List.forall₂_drop_append _ _ _ (scan_eq_ok_iff.1 h)
  obtain ⟨p, ps, hp, hps, hsplit⟩ := List.forall₂_cons_right_iff.1 hshapes
  obtain ⟨-, hstop, -⟩ := Occurrence.eq_of_ofShape hp
  have hwhole : shapes t = (shapes t).take front.length ++ p :: ps := by rw [← hsplit, List.take_append_drop]
  rw [shapes_drop hwhole hstop.symm, List.forall₂_map_left_iff] at hps
  obtain ⟨rest, hrest, rfl⟩ := exists_later_of_forall₂ hps
  exact ⟨rest, scan_eq_ok_iff.2 hrest, rfl⟩

/-! ## All parts of a text -/

/-- **Scanning is local.** Of a text that can be scanned, the source of each directive holds that directive alone, the text behind
its end holds the directives that follow it at the same places, and no text that no directive reaches into, between two of them, in
front of the first one or behind the last one, holds any. -/
theorem scan_local {t : Text} {found : List Occurrence} (h : scan t = .ok found) :
    (∀ o ∈ found,
      scan o.directive.raw = .ok [{ directive := o.directive, start := 0, stop := o.directive.raw.length }]) ∧
    (∀ front o behind, found = front ++ o :: behind →
      ∃ rest, scan (t.drop o.stop) = .ok rest ∧ behind = rest.map (Occurrence.later o.stop)) ∧
    (∀ a b, b ≤ t.length → (∀ o ∈ found, o.stop ≤ a ∨ b ≤ o.start) → scan ((t.take b).drop a) = .ok []) := by
  refine ⟨fun o ho => scan_raw h ho, fun front o behind hsplit => ?_, fun a b hb hgap => scan_eq_nil_of_gap h hb hgap⟩
  subst hsplit
  exact scan_drop h

/-- of the crowded text, the braces that are never closed are no directive by themselves, and the two directives that touch are
found again behind the first one, also the one in front of those braces -/
theorem scan_local_crowded :
    scan crowded = .ok crowdedFound ∧
    (∀ o ∈ crowdedFound,
      scan o.directive.raw = .ok [{ directive := o.directive, start := 0, stop := o.directive.raw.length }]) ∧
    (∃ rest, scan (crowded.drop 25) = .ok rest ∧ crowdedFound.tail = rest.map (Occurrence.later 25)) ∧
    scan ((crowded.take 50).drop 47) = .ok [] := by
  have hscan : scan crowded = .ok crowdedFound := rfl
  obtain ⟨hraw, hrest, hgap⟩ := scan_local hscan
  exact ⟨hscan, hraw, hrest [] _ _ rfl, hgap 47 50 (by decide) (by decide)⟩

end Transclude.Directive
