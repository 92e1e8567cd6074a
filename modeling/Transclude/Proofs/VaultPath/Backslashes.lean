/-
Backslashes in addresses.

The normal form reads a backslash as a slash, but folding comes before it and does not: to the stack, `a\b` is one segment. So an
address with backslashes is folded by whole segments and cut afterwards, and with slashes it is cut first. The two stacks stay
related, one being the other cut at its backslashes, as long as nothing between backslashes is made of dots and every `..` takes
back a segment that is one name.

- `runs_apart`: the two stacks along a whole address.
- `resolve_slashed`: where backslashes mean what slashes mean.
- `not_resolve_slashed`: where they do not.
-/
import Transclude.Proofs.VaultPath.Joining

namespace Transclude.VaultPath

open Text (split join)

/-! ## Cutting segments -/

/-- every backslash as a slash -/
def slashed (t : Text) : Text := t.map fun c => if c = '\\' then '/' else c

/-- the names that backslashes cut a segment into -/
def cutNames (s : Text) : List Text := (split '\\' s).filter (· ≠ [])

theorem split_slashed (t : Text) : split '/' (slashed t) = (split '/' t).flatMap (split '\\') := by
  have hkeep : ∀ s ∈ pieces t, List.map (fun c => if c = '\\' then '/' else c) s = id s := by
    intro s hs
    obtain ⟨segment, -, hcut⟩ := List.mem_flatMap.1 hs
    have hself : ∀ c ∈ s, (if c = '\\' then '/' else c) = id c := by
      intro c hc
      have hne : c ≠ '\\' := by
        rintro rfl
        exact Text.not_mem_of_mem_split hcut hc
      exact if_neg hne
    rw [List.map_congr_left hself, List.map_id, id]
  rw [slashed, split_map_of_slash, List.map_congr_left hkeep, List.map_id, pieces]
  intro c
  split
  · rename_i hback
    simp [hback]
  · rename_i hback
    simp [hback]

theorem map_plainChar_slashed (t : Text) : (slashed t).map plainChar = t.map plainChar := by
  rw [slashed, List.map_map]
  apply List.map_congr_left
  intro c _
  by_cases hback : c = '\\'
  · rw [hback]
    rfl
  · simp only [Function.comp_apply, if_neg hback]

/-- the normal form does not tell backslashes from slashes -/
theorem normalize_slashed (t : Text) : normalize (slashed t) = normalize t := by
  rw [normalize, normalizeWith, map_plainChar_slashed, normalize, normalizeWith]

theorem cutNames_of_mem_cutNames {s name : Text} (h : name ∈ cutNames s) : cutNames name = [name] := by
  obtain ⟨hcut, hkept⟩ := List.mem_filter.1 h
  have hne : name ≠ [] := by simpa using hkept
  rw [cutNames, Text.split_of_not_mem (Text.not_mem_of_mem_split hcut)]
  simp [hne]

/-- cutting once is enough -/
theorem flatMap_cutNames (ss : List Text) : (ss.flatMap cutNames).flatMap cutNames = ss.flatMap cutNames := by
  rw [List.flatMap_assoc]
  apply List.flatMap_congr
  intro s _
  have hself : ∀ name ∈ cutNames s, cutNames name = [name] := fun _ => cutNames_of_mem_cutNames
  rw [List.flatMap_congr hself, List.flatMap_singleton']

/-- the segments of a normal form, by the segments of the path -/
theorem normalParts_eq (path : Text) :
    normalParts path = ((split '/' path).flatMap cutNames).map fun s => Text.composed (s.map plainChar) := by
  have hfilter : (split '/' path).flatMap cutNames = (pieces path).filter (· ≠ []) := by
    rw [pieces, List.filter_flatMap]
    rfl
  rw [normalParts, parts, split_map_plainChar, List.filter_map, List.map_map, hfilter]
  congr 1
  apply List.filter_congr
  intro s _
  simp

theorem flatMap_split_collapse (path : Text) : (split '/' (collapse path)).flatMap cutNames = (collapsed path).flatMap cutNames := by
  by_cases h : collapsed path = []
  · rw [collapse, h]
    rfl
  · rw [split_collapse h]

/-- folded paths have one normal form if the same names remain of them, once they are cut -/
theorem normalize_collapse_congr {path path' : Text} (h : (collapsed path).flatMap cutNames = (collapsed path').flatMap cutNames) :
    normalize (collapse path) = normalize (collapse path') := by
  have hparts : normalParts (collapse path) = normalParts (collapse path') := by
    rw [normalParts_eq, normalParts_eq, flatMap_split_collapse, flatMap_split_collapse, h]
  rw [normalize_eq, normalize_eq, hparts]

/-! ## Two stacks -/

/-- what the `..` among some segments take back, on the stack of these segments alone -/
def takenBack (own : List Text) : List Text → List Text
  | [] => []
  | s :: segments => (if s = ['.', '.'] then own.head?.toList else []) ++ takenBack (push own s) segments

/-- nothing between the backslashes of a segment is made of dots -/
def NoDotsInside (s : Text) : Prop := IsDots s ∨ ∀ piece ∈ split '\\' s, ¬ IsDots piece

instance (s : Text) : Decidable (NoDotsInside s) := inferInstanceAs (Decidable (_ ∨ _))

/-- the backslashes of an address separate names and nothing else: no dots stand next to them, and what a `..` of the address
takes back of it is one name -/
structure SeparatesNames (target : Text) : Prop where
  no_dots : ∀ s ∈ split '/' target, NoDotsInside s
  one_name : ∀ s ∈ takenBack [] (split '/' target), (cutNames s).length = 1

instance (target : Text) : Decidable (SeparatesNames target) :=
  decidable_of_iff ((∀ s ∈ split '/' target, NoDotsInside s) ∧ ∀ s ∈ takenBack [] (split '/' target), (cutNames s).length = 1)
    ⟨fun ⟨hdots, hname⟩ => ⟨hdots, hname⟩, fun h => ⟨h.no_dots, h.one_name⟩⟩

/-- a stack with its segments cut -/
def cutStack (stack : List Text) : List Text := stack.flatMap fun s => (cutNames s).reverse

theorem cutStack_cons (s : Text) (stack : List Text) : cutStack (s :: stack) = (cutNames s).reverse ++ cutStack stack := by
  rw [cutStack, List.flatMap_cons, ← cutStack]

theorem reverse_cutStack (stack : List Text) : (cutStack stack).reverse = stack.reverse.flatMap cutNames := by
  rw [cutStack, List.reverse_flatMap]
  simp only [Function.comp_def, List.reverse_reverse]

/-- segments that are not made of dots are put on the stack, if they are not empty -/
theorem foldl_push_of_not_isDots {segments : List Text} (h : ∀ s ∈ segments, ¬ IsDots s) (stack : List Text) :
    segments.foldl push stack = (segments.filter (· ≠ [])).reverse ++ stack := by
  induction segments generalizing stack with
  | nil => rfl
  | cons s segments ih =>
    obtain ⟨hs, hsegments⟩ := List.forall_mem_cons.1 h
    by_cases hne : s = []
    · have hpush : push stack s = stack := if_pos (Or.inl hne)
      rw [List.foldl_cons, hpush, ih hsegments, List.filter_cons_of_neg (by simp [hne])]
    · rw [List.foldl_cons, push_name ⟨hne, hs⟩, ih hsegments, List.filter_cons_of_pos (by simp [hne]), List.reverse_cons,
        List.append_assoc, List.singleton_append]

/-- **One segment, whole and cut.** It does to the two stacks the same, over a part that they share. -/
theorem push_apart {own : List Text} {s : Text} (hdots : NoDotsInside s)
    (hback : s = ['.', '.'] → ∀ top ∈ own.head?, (cutNames top).length = 1) (base : List Text) :
    ∃ base', push (own ++ base) s = push own s ++ base' ∧
      (split '\\' s).foldl push (cutStack own ++ base) = cutStack (push own s) ++ base' := by
  by_cases hs : IsDots s
  · rcases hs with rfl | rfl
    · exact ⟨base, rfl, rfl⟩
    · have hcut : split '\\' ['.', '.'] = [['.', '.']] := rfl
      have htake : ∀ stack : List Text, push stack ['.', '.'] = stack.tail := fun _ => rfl
      rw [hcut, List.foldl_cons, List.foldl_nil, htake, htake, htake]
      -- with nothing of the address on the stack, the shared part loses the same name in both
      cases own with
      | nil => exact ⟨base.tail, rfl, rfl⟩
      | cons top own =>
        obtain ⟨name, hname⟩ := List.length_eq_one_iff.1 (hback rfl top rfl)
        have hstack : cutStack (top :: own) = name :: cutStack own := by
          rw [cutStack_cons, hname, List.reverse_singleton, List.singleton_append]
        rw [hstack]
        exact ⟨base, rfl, rfl⟩
  · have hpieces := hdots.resolve_left hs
    by_cases hne : s = []
    · rw [hne]
      exact ⟨base, rfl, rfl⟩
    · rw [push_name ⟨hne, hs⟩, push_name ⟨hne, hs⟩, foldl_push_of_not_isDots hpieces]
      refine ⟨base, rfl, ?_⟩
      rw [cutStack_cons, List.append_assoc]
      rfl

/-- **A whole address, whole and cut.** -/
theorem runs_apart {segments own : List Text} (hdots : ∀ s ∈ segments, NoDotsInside s)
    (hback : ∀ s ∈ takenBack own segments, (cutNames s).length = 1) (base : List Text) :
    ∃ base', segments.foldl push (own ++ base) = segments.foldl push own ++ base' ∧
      (segments.flatMap (split '\\')).foldl push (cutStack own ++ base) = cutStack (segments.foldl push own) ++ base' := by
  -- both stacks of the address and the shared part below them change along the way
  induction segments generalizing own base with
  | nil => exact ⟨base, rfl, rfl⟩
  | cons s segments ih =>
    obtain ⟨hs, hsegments⟩ := List.forall_mem_cons.1 hdots
    have htop : s = ['.', '.'] → ∀ top ∈ own.head?, (cutNames top).length = 1 := by
      intro habove top htop
      apply hback
      rw [takenBack, if_pos habove]
      exact List.mem_append_left _ (Option.mem_toList.2 htop)
    obtain ⟨next, hwhole, hcut⟩ := push_apart hs htop base
    have hrest : ∀ x ∈ takenBack (push own s) segments, (cutNames x).length = 1 :=
      fun x hx => hback x (List.mem_append_right _ hx)
    obtain ⟨base', hrun, hcutRun⟩ := ih hsegments hrest next
    refine ⟨base', ?_, ?_⟩
    · rw [List.foldl_cons, List.foldl_cons, hwhole, hrun]
    · rw [List.flatMap_cons, List.foldl_append, hcut, hcutRun, List.foldl_cons]

/-- below a folder, the names that remain are the same whether backslashes are cut before folding or afterwards -/
theorem flatMap_collapsed_slashed {target : Text} (h : SeparatesNames target) (dir : Text) :
    (collapsed (dir ++ '/' :: slashed target)).flatMap cutNames = (collapsed (dir ++ '/' :: target)).flatMap cutNames := by
  obtain ⟨base, hwhole, hcut⟩ := runs_apart h.no_dots h.one_name (collapsed dir).reverse
  rw [List.nil_append] at hwhole
  have hnone : cutStack [] ++ (collapsed dir).reverse = (collapsed dir).reverse := rfl
  rw [hnone] at hcut
  rw [collapsed_append, collapsed_append, split_slashed, hwhole, hcut, List.reverse_append, List.reverse_append,
    List.flatMap_append, List.flatMap_append, reverse_cutStack, flatMap_cutNames]

/-! ## Addresses -/

/-- slashes in front of a path below a folder add empty segments only -/
theorem collapse_dropSlashes (dir t : Text) : collapse (dir ++ '/' :: t.dropWhile (· == '/')) = collapse (dir ++ '/' :: t) := by
  induction t with
  | nil => rfl
  | cons c t ih =>
    by_cases hc : c = '/'
    · subst hc
      have hempty : collapsed (dir ++ '/' :: '/' :: t) = collapsed (dir ++ '/' :: t) := by
        rw [collapsed_append, collapsed_append]
        rfl
      rw [List.dropWhile_cons_of_pos (by rfl), ih, collapse, collapse, hempty]
    · rw [List.dropWhile_cons_of_neg (by simpa using hc)]

theorem resolve_dropSlashes {target : Text} (hrelative : target.head? ≠ some '/') (h : SeparatesNames target) (document : Text) :
    resolve normalize ((slashed target).dropWhile (· == '/')) document = resolve normalize target document := by
  have hdropped : ((slashed target).dropWhile (· == '/')).head? ≠ some '/' := by
    intro hhead
    have hnot := Text.head?_dropWhile_eq_false (· == '/') (slashed target) '/' hhead
    cases hnot
  rw [resolve_relative normalize hdropped, resolve_relative normalize hrelative, collapse_dropSlashes]
  exact normalize_collapse_congr (flatMap_collapsed_slashed h _)

theorem dropSlashes_slashed {target : Text} (hslash : target.head? ≠ some '/') (hback : target.head? ≠ some '\\') :
    (slashed target).dropWhile (· == '/') = slashed target := by
  cases target with
  | nil => rfl
  | cons c target =>
    have hc : c ≠ '/' := fun he => hslash (he ▸ rfl)
    have hc' : c ≠ '\\' := fun he => hback (he ▸ rfl)
    have hkeep : (if c = '\\' then '/' else c) = c := if_neg hc'
    rw [slashed, List.map_cons, hkeep, List.dropWhile_cons_of_neg (by simpa using hc)]

/-- **Where backslashes mean what slashes mean.** In an address with a slash in front they always do. In any other one they do if
they separate names and nothing else; only that a backslash in front does not make an address absolute, so that the slashes that
it turns into have to go. -/
theorem resolve_slashed (target document : Text) :
    (target.head? = some '/' → resolve normalize (slashed target) document = resolve normalize target document) ∧
    (target.head? ≠ some '\\' → SeparatesNames target →
      resolve normalize (slashed target) document = resolve normalize target document) ∧
    (target.head? ≠ some '/' → SeparatesNames target →
      resolve normalize ((slashed target).dropWhile (· == '/')) document = resolve normalize target document) := by
  have habsolute : target.head? = some '/' →
      resolve normalize (slashed target) document = resolve normalize target document := by
    intro hhead
    obtain ⟨rest, rfl⟩ := List.head?_eq_some_iff.1 hhead
    exact normalize_slashed rest
  refine ⟨habsolute, ?_, fun hrelative h => resolve_dropSlashes hrelative h document⟩
  intro hback h
  by_cases hslash : target.head? = some '/'
  · exact habsolute hslash
  · rw [← resolve_dropSlashes hslash h, dropSlashes_slashed hslash hback]

/-- climbing first, and then backslashes doubled, mixed with slashes, and taken back one name at a time -/
theorem resolve_slashed_mixed :
    "../x\\\\y/z\\/../..b\\c".toList.head? ≠ some '\\' ∧ SeparatesNames "../x\\\\y/z\\/../..b\\c".toList ∧
    resolve normalize "../x//y/z//../..b/c".toList "p\\q/r.md".toList =
      resolve normalize "../x\\\\y/z\\/../..b\\c".toList "p\\q/r.md".toList ∧
    resolve normalize "/x/..".toList "r.md".toList = resolve normalize "/x\\..".toList "r.md".toList ∧
    resolve normalize "x/y".toList "p/r.md".toList = resolve normalize "\\x\\y".toList "p/r.md".toList := by
  have hhead : "../x\\\\y/z\\/../..b\\c".toList.head? ≠ some '\\' := by decide
  have hnames : SeparatesNames "../x\\\\y/z\\/../..b\\c".toList := by decide
  obtain ⟨-, hmixed, -⟩ := resolve_slashed "../x\\\\y/z\\/../..b\\c".toList "p\\q/r.md".toList
  obtain ⟨habsolute, -, -⟩ := resolve_slashed "/x\\..".toList "r.md".toList
  obtain ⟨-, -, hleading⟩ := resolve_slashed "\\x\\y".toList "p/r.md".toList
  exact ⟨hhead, hnames, hmixed hhead hnames, habsolute (by decide), hleading (by decide) (by decide)⟩

/-- a backslash in front makes no address absolute, one next to dots keeps them from being folded, and a `..` takes back all that
backslashes join -/
theorem not_resolve_slashed :
    (resolve normalize (slashed "\\a.txt".toList) "b/c.md".toList = "a.txt".toList ∧
      resolve normalize "\\a.txt".toList "b/c.md".toList = "b/a.txt".toList) ∧
    (resolve normalize (slashed "..\\a.txt".toList) "b/c.md".toList = "a.txt".toList ∧
      resolve normalize "..\\a.txt".toList "b/c.md".toList = "b/../a.txt".toList) ∧
    (resolve normalize (slashed "x\\y/../a.txt".toList) "b/c.md".toList = "b/x/a.txt".toList ∧
      resolve normalize "x\\y/../a.txt".toList "b/c.md".toList = "b/a.txt".toList) := by
  decide +kernel

end Transclude.VaultPath
