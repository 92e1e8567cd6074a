/-
Patterns of text, and what they take from the front of a text.

A pattern is a row of parts. A part that repeats a class of characters takes as many as it can, and gives some of them back when the
parts behind it find nothing otherwise. `ways` lists all that a pattern can take, in the order in which this is tried, so what a
pattern takes is the first of its ways. `groupWays` does the same for a pattern that is cut into groups, and keeps the groups apart.

A part need not give anything back when nothing behind it can begin with a character of its class (`flatMap_ways_any`,
`flatMap_ways_atLeastOne`): then there is one way to go on, from the end of the run.
-/
import Mathlib.Tactic
import Transclude.Text.Classes

namespace Transclude.Pattern

/-- one part of a pattern -/
inductive Part where
  /-- a character of a class -/
  | one (p : Char → Bool)
  /-- a character of a class, or else nothing -/
  | atMostOne (p : Char → Bool)
  /-- characters of a class, the more the better -/
  | any (p : Char → Bool)
  /-- characters of a class, the more the better, but one of them in any case -/
  | atLeastOne (p : Char → Bool)
  /-- nothing, at a place with a word character on one side only -/
  | edge

/-- the parts that take a word -/
def literal (word : Text) : List Part := word.map fun k => .one (· == k)

/-- the character in front of what follows `taken`, if `before` is the one in front of `taken` -/
def lastOf (before : Option Char) (taken : Text) : Option Char := taken.getLast?.or before

/-- the runs of a class at the front of a text, the longest first, each with what follows it -/
def fronts (p : Char → Bool) : Text → List (Text × Text)
  | [] => [([], [])]
  | c :: t => (if p c then (fronts p t).map fun w => (c :: w.1, w.2) else []) ++ [([], c :: t)]

/-- a word character on one side only -/
def isEdge (before : Option Char) (t : Text) : Bool := before.any Text.isWord != t.head?.any Text.isWord

/-- all that a part can take from the front of a text, each with what follows it, in the order in which it is tried -/
def Part.ways (before : Option Char) : Part → Text → List (Text × Text)
  | .one p, c :: t => if p c then [([c], t)] else []
  | .one _, [] => []
  | .atMostOne p, c :: t => (if p c then [([c], t)] else []) ++ [([], c :: t)]
  | .atMostOne _, [] => [([], [])]
  | .any p, t => fronts p t
  | .atLeastOne p, c :: t => if p c then (fronts p t).map fun w => (c :: w.1, w.2) else []
  | .atLeastOne _, [] => []
  | .edge, t => if isEdge before t then [([], t)] else []

/-- all that a row of parts can take, in the order in which it is tried -/
def ways : List Part → Option Char → Text → List (Text × Text)
  | [], _, t => [([], t)]
  | part :: parts, before, t =>
    (part.ways before t).flatMap fun w => (ways parts (lastOf before w.1) w.2).map fun v => (w.1 ++ v.1, v.2)

/-- all that a row of groups can take, group by group, in the order in which it is tried -/
def groupWays : List (List Part) → Option Char → Text → List (List Text × Text)
  | [], _, t => [([], t)]
  | group :: groups, before, t =>
    (ways group before t).flatMap fun w => (groupWays groups (lastOf before w.1) w.2).map fun v => (w.1 :: v.1, v.2)

/-- the first way to take a row of parts -/
def first? (parts : List Part) (before : Option Char) (t : Text) : Option (Text × Text) := (ways parts before t).head?

/-- the first way to take a row of groups -/
def firstGroups? (groups : List (List Part)) (before : Option Char) (t : Text) : Option (List Text × Text) :=
  (groupWays groups before t).head?

variable {α : Type} {p : Char → Bool} {before : Option Char}

@[simp] theorem lastOf_nil (before : Option Char) : lastOf before [] = before := rfl

@[simp] theorem lastOf_append (before : Option Char) (taken more : Text) :
    lastOf before (taken ++ more) = lastOf (lastOf before taken) more := by
  rw [lastOf, lastOf, lastOf, List.getLast?_append, Option.or_assoc]

/-- behind a text that is not empty stands one of its characters -/
theorem exists_lastOf (before : Option Char) {taken : Text} (h : taken ≠ []) : ∃ c ∈ taken, lastOf before taken = some c := by
  refine ⟨taken.getLast h, List.getLast_mem h, ?_⟩
  rw [lastOf, List.getLast?_eq_some_getLast h, Option.some_or]

/-! ## Runs -/

theorem head?_fronts (p : Char → Bool) (t : Text) : (fronts p t).head? = some (t.takeWhile p, t.dropWhile p) := by
  induction t with
  | nil => rfl
  | cons c t ih =>
    by_cases hc : p c
    · simp [fronts, hc, ih]
    · simp [fronts, hc]

/-- what cannot go on with a character of the class goes on behind the longest run -/
theorem flatMap_fronts {f : Text × Text → List α}
    (h : ∀ w c t, (∀ d ∈ w, p d = true) → p c = true → f (w, c :: t) = []) (t : Text) :
    (fronts p t).flatMap f = f (t.takeWhile p, t.dropWhile p) := by
  induction t generalizing f with
  | nil => simp [fronts]
  | cons c t ih =>
    by_cases hc : p c = true
    · have hrest := ih (f := fun w => f (c :: w.1, w.2)) fun w d u hw hd =>
        h (c :: w) d u (List.forall_mem_cons.2 ⟨hc, hw⟩) hd
      have hnone : f ([], c :: t) = [] := h [] c t (List.forall_mem_nil _) hc
      simp only [fronts, if_pos hc, List.flatMap_append, List.flatMap_map, List.flatMap_cons, List.flatMap_nil, hrest, hnone,
        List.append_nil, List.takeWhile_cons_of_pos hc, List.dropWhile_cons_of_pos hc]
    · simp [fronts, hc]

theorem flatMap_ways_any {f : Text × Text → List α}
    (h : ∀ w c t, (∀ d ∈ w, p d = true) → p c = true → f (w, c :: t) = []) (t : Text) :
    ((Part.any p).ways before t).flatMap f = f (t.takeWhile p, t.dropWhile p) := flatMap_fronts h t

theorem flatMap_ways_atLeastOne {f : Text × Text → List α}
    (h : ∀ d w c t, (∀ e ∈ d :: w, p e = true) → p c = true → f (d :: w, c :: t) = []) (c : Char) (t : Text) :
    ((Part.atLeastOne p).ways before (c :: t)).flatMap f = if p c then f (c :: t.takeWhile p, t.dropWhile p) else [] := by
  simp only [Part.ways]
  split
  · rename_i hc
    rw [List.flatMap_map]
    exact flatMap_fronts (f := fun w => f (c :: w.1, w.2))
      (fun w d u hw hd => h c w d u (List.forall_mem_cons.2 ⟨hc, hw⟩) hd) t
  · rfl

/-! ## Rows -/

/-- one part alone -/
@[simp] theorem ways_singleton (part : Part) (before : Option Char) (t : Text) : ways [part] before t = part.ways before t := by
  simp [ways]

/-- a group of one part -/
theorem groupWays_singleton (part : Part) (groups : List (List Part)) (before : Option Char) (t : Text) :
    groupWays ([part] :: groups) before t = (part.ways before t).flatMap fun w =>
      (groupWays groups (lastOf before w.1) w.2).map fun v => (w.1 :: v.1, v.2) := by
  rw [groupWays, ways_singleton]

theorem ways_one_cons (parts : List Part) (before : Option Char) (c : Char) (t : Text) :
    ways (.one p :: parts) before (c :: t) = if p c then (ways parts (some c) t).map fun v => (c :: v.1, v.2) else [] := by
  by_cases hc : p c <;> simp [ways, Part.ways, hc, lastOf]

/-- behind a word character, an edge is where no other one follows -/
theorem ways_edge {c : Char} (h : Text.isWord c = true) (t : Text) :
    ways [.edge] (some c) t = if Text.boundaryBefore t then [([], t)] else [] := by
  have hedge : isEdge (some c) t = Text.boundaryBefore t := by
    cases t with
    | nil => simp [isEdge, Text.boundaryBefore, h]
    | cons d t => simp [isEdge, Text.boundaryBefore, h]
  rw [ways_singleton, Part.ways, hedge]

/-- a word in front of a row of parts -/
theorem ways_literal (word : Text) (parts : List Part) (before : Option Char) (t : Text) :
    ways (literal word ++ parts) before t =
      match Text.after? word t with
      | some rest => (ways parts (lastOf before word) rest).map fun v => (word ++ v.1, v.2)
      | none => [] := by
  induction word generalizing before t with
  | nil => simp [literal, Text.after?]
  | cons k word ih =>
    cases t with
    | nil => rfl
    | cons c t =>
      have hrow : literal (k :: word) ++ parts = .one (· == k) :: (literal word ++ parts) := rfl
      rw [hrow, ways_one_cons, Text.after?]
      by_cases hk : k = c
      · subst hk
        rw [if_pos (beq_self_eq_true k), if_pos rfl, ih]
        have hlast : lastOf (some k) word = lastOf before (k :: word) := (lastOf_append before [k] word).symm
        cases Text.after? word t with
        | none => rfl
        | some rest => simp [hlast]
      · rw [if_neg (by simpa using Ne.symm hk), if_neg hk]

/-! ## The first way -/

theorem first?_one_cons (before : Option Char) (c : Char) (t : Text) :
    first? [.one p] before (c :: t) = if p c then some ([c], t) else none := by
  by_cases hc : p c <;> simp [first?, Part.ways, hc]

theorem first?_atLeastOne_cons (before : Option Char) (c : Char) (t : Text) :
    first? [.atLeastOne p] before (c :: t) = if p c then some (c :: t.takeWhile p, t.dropWhile p) else none := by
  by_cases hc : p c <;> simp [first?, Part.ways, hc, head?_fronts]

end Transclude.Pattern
