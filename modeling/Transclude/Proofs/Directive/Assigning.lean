/-
The assignments between the braces of a directive, as they may be written, and the search for a bound among them.

An assignment has a key, an equals sign with blanks around it, and a value. The two bounds are assigned integers, and any other
key is assigned any value; a key can have the name of a bound at its front or its end, and a value can be the name of a bound.
Assignments have blanks between them.

- `assigned?_eq_some_iff`: what is read at a key is an integer behind an equals sign, whatever stands behind it.
- `find?_pass`: the search passes an assignment to another key, whatever the key and the value are made of.
- `find?_match`: it stops at an assignment to its own key.
- `bound?_interior`: what is read for a bound is the value of the first assignment to it.
-/
import Mathlib.Data.Nat.Digits.Defs
import Mathlib.Tactic
import Transclude.Directive.Bounds
import Transclude.Proofs.Text.Cutting

namespace Transclude

/-! ## Blank characters -/

namespace Text

/-- all blank characters -/
def blanks : List Char := (blankRanges.flatMap fun r => List.range' r.1 (r.2 + 1 - r.1)).map Char.ofNat

theorem mem_blanks_of_isBlank {c : Char} (h : isBlank c = true) : c ∈ blanks := by
  obtain ⟨r, hr, hin⟩ := List.any_eq_true.1 h
  rw [Bool.and_eq_true, decide_eq_true_eq, decide_eq_true_eq] at hin
  have hmem : c.toNat ∈ List.range' r.1 (r.2 + 1 - r.1) := List.mem_range'_1.2 (by omega)
  exact List.mem_map.2 ⟨c.toNat, List.mem_flatMap.2 ⟨r, hr, hmem⟩, Char.ofNat_toNat c⟩

theorem not_isDigit_of_isBlank {c : Char} (h : isBlank c = true) : isDigit c = false := by
  have hall : (blanks.all fun c => !isDigit c) = true := by decide +kernel
  simpa using List.all_eq_true.1 hall c (mem_blanks_of_isBlank h)

end Text

namespace Directive

namespace Bounds

theorem not_isKeyChar_of_isBlank {c : Char} (h : Text.isBlank c = true) : isKeyChar c = false := by
  have hall : (Text.blanks.all fun c => !isKeyChar c) = true := by decide +kernel
  simpa using List.all_eq_true.1 hall c (Text.mem_blanks_of_isBlank h)

theorem not_isBlank_of_isKeyChar {c : Char} (h : isKeyChar c = true) : Text.isBlank c = false := by
  by_contra hb
  rw [Bool.not_eq_false] at hb
  rw [not_isKeyChar_of_isBlank hb] at h
  cases h

theorem ne_equals_of_isKeyChar {c : Char} (h : isKeyChar c = true) : c ≠ '=' := by
  rintro rfl
  revert h
  decide

end Bounds

/-! ## Writing assignments -/

/-- one of the two bounds -/
inductive BoundKey where
  | lineBegin
  | lineEnd
deriving DecidableEq, Repr

/-- the name of a bound -/
def BoundKey.name : BoundKey → Text
  | .lineBegin => "line_begin".toList
  | .lineEnd => "line_end".toList

/-- digits of any script behind an optional minus sign, no more than a numeral may have -/
structure WrittenInteger where
  negative : Bool
  digits : Text
  ne_nil : digits ≠ []
  all_digits : ∀ c ∈ digits, Text.isDigit c = true
  length_le : digits.length ≤ Numeral.maxDigits

/-- an integer as it is written -/
def WrittenInteger.text (n : WrittenInteger) : Text := if n.negative then '-' :: n.digits else n.digits

/-- the number that is written: its digits in base ten -/
def WrittenInteger.value (n : WrittenInteger) : Int :=
  let size : ℕ := Nat.ofDigits 10 (n.digits.reverse.map fun c => (Text.digitValue? c).getD 0)
  if n.negative then -(size : Int) else size

/-- a key that is not the name of a bound, and its value -/
structure OtherEntry where
  key : Text
  value : Text
  key_ne_nil : key ≠ []
  all_key : ∀ c ∈ key, Bounds.isKeyChar c = true
  unknown : ∀ b : BoundKey, key ≠ b.name
  value_ne_nil : value ≠ []
  all_value : ∀ c ∈ value, Text.isBlank c = false ∧ c ≠ '=' ∧ c ≠ '}'

/-- what is assigned to what -/
inductive Entry where
  | bound (key : BoundKey) (value : WrittenInteger)
  | other (entry : OtherEntry)

namespace Entry

def key : Entry → Text
  | bound key _ => key.name
  | other entry => entry.key

def value : Entry → Text
  | bound _ value => value.text
  | other entry => entry.value

/-- the value of this bound, if that is what is assigned -/
def valueOf? (b : BoundKey) : Entry → Option Int
  | bound key value => if key = b then some value.value else none
  | other _ => none

end Entry

/-- a run of blanks, which may be empty -/
abbrev Blanks := { t : Text // ∀ c ∈ t, Text.isBlank c = true }

/-- an entry with the blanks in front of it and around its equals sign -/
structure Assignment where
  lead : Blanks
  entry : Entry
  before : Blanks
  after : Blanks

namespace Assignment

/-- an assignment as it is written, without the blanks in front of it -/
def text (a : Assignment) : Text := a.entry.key ++ a.before.1 ++ '=' :: (a.after.1 ++ a.entry.value)

end Assignment

/-- assignments with blanks between neighbours, and the blanks behind the last one -/
structure Assignments where
  list : List Assignment
  trail : Blanks
  separated : ∀ a ∈ list.tail, a.lead.1 ≠ []

namespace Assignments

/-- assignments as they are written between braces -/
def interior (as : Assignments) : Text := as.list.flatMap (fun a => a.lead.1 ++ a.text) ++ as.trail.1

/-- the first value that is written for a bound -/
def first? (as : Assignments) (b : BoundKey) : Option Int := as.list.findSome? fun a => a.entry.valueOf? b

end Assignments

/-! ## The characters of entries -/

theorem isKeyChar_of_mem_name (b : BoundKey) : ∀ c ∈ b.name, Bounds.isKeyChar c = true := by
  have hall : b.name.all Bounds.isKeyChar = true := by cases b <;> decide
  exact List.all_eq_true.1 hall

theorem name_ne_nil (b : BoundKey) : b.name ≠ [] := by cases b <;> decide

theorem BoundKey.name_injective {b b' : BoundKey} (h : b.name = b'.name) : b = b' := by
  cases b <;> cases b' <;> first | rfl | exact absurd h (by decide)

theorem isDigit_facts {c : Char} (h : Text.isDigit c = true) :
    Text.isBlank c = false ∧ c ≠ '=' ∧ c ≠ '}' ∧ c ≠ '-' := by
  refine ⟨?_, ?_, ?_, ?_⟩
  · by_contra hb
    rw [Bool.not_eq_false] at hb
    rw [Text.not_isDigit_of_isBlank hb] at h
    cases h
  all_goals
    rintro rfl
    revert h
    decide

namespace WrittenInteger

theorem mem_text {n : WrittenInteger} {c : Char} (h : c ∈ n.text) : c = '-' ∨ Text.isDigit c = true := by
  unfold text at h
  split at h
  · exact (List.mem_cons.1 h).imp_right (n.all_digits c)
  · exact Or.inr (n.all_digits c h)

end WrittenInteger

namespace Entry

theorem key_ne_nil (e : Entry) : e.key ≠ [] := by
  cases e with
  | bound key value => exact name_ne_nil key
  | other entry => exact entry.key_ne_nil

theorem isKeyChar_of_mem_key (e : Entry) : ∀ c ∈ e.key, Bounds.isKeyChar c = true := by
  cases e with
  | bound key value => exact isKeyChar_of_mem_name key
  | other entry => exact entry.all_key

theorem mem_value (e : Entry) : ∀ c ∈ e.value, Text.isBlank c = false ∧ c ≠ '=' ∧ c ≠ '}' := by
  cases e with
  | bound key value =>
    intro c hc
    rcases WrittenInteger.mem_text hc with rfl | hd
    · decide
    · obtain ⟨hb, he, hr, -⟩ := isDigit_facts hd
      exact ⟨hb, he, hr⟩
  | other entry => exact entry.all_value

end Entry

/-! ## Reading an assignment -/

namespace Bounds

/-- an integer as it is written: digits behind an optional minus sign, however many they are -/
def IsInteger (t : Text) : Prop :=
  ∃ digits : Text, digits ≠ [] ∧ (∀ c ∈ digits, Text.isDigit c = true) ∧ (t = digits ∨ t = '-' :: digits)

/-- no integer starts with a blank -/
theorem IsInteger.not_isBlank_head {t : Text} (h : IsInteger t) (rest : Text) :
    ∀ c ∈ (t ++ rest).head?, Text.isBlank c = false := by
  intro c hc
  obtain ⟨digits, hne, hdigits, rfl | rfl⟩ := h
  · obtain ⟨d, digits, rfl⟩ := List.exists_cons_of_ne_nil hne
    obtain rfl : d = c := by simpa using hc
    exact (isDigit_facts (hdigits d List.mem_cons_self)).1
  · obtain rfl : '-' = c := by simpa using hc
    decide

/-- **An integer is read as far as its digits go.** -/
theorem integer?_eq_some_iff {t numeral : Text} :
    integer? t = some numeral ↔
      IsInteger numeral ∧ ∃ rest, t = numeral ++ rest ∧ ∀ c ∈ rest.head?, Text.isDigit c = false := by
  constructor
  · intro h
    have hrun : ∀ u : Text, ∀ c ∈ u.takeWhile Text.isDigit, Text.isDigit c = true := fun u c hc =>
      List.mem_takeWhile_imp hc
    have hbehind := Text.head?_dropWhile_eq_false Text.isDigit
    unfold integer? at h
    split at h
    · rename_i u
      split at h
      · cases h
      · rename_i hne
        cases h
        refine ⟨⟨_, fun hnil => hne hnil, hrun u, Or.inr rfl⟩, u.dropWhile Text.isDigit, ?_, hbehind u⟩
        rw [List.cons_append, List.takeWhile_append_dropWhile]
    · split at h
      · cases h
      · rename_i hne
        cases h
        refine ⟨⟨_, fun hnil => hne hnil, hrun t, Or.inl rfl⟩, t.dropWhile Text.isDigit, ?_, hbehind t⟩
        rw [List.takeWhile_append_dropWhile]
  · rintro ⟨⟨digits, hne, hdigits, hnumeral⟩, rest, rfl, hrest⟩
    have hrun : (digits ++ rest).takeWhile Text.isDigit = digits := Text.takeWhile_run hdigits hrest
    obtain ⟨d, digits, rfl⟩ := List.exists_cons_of_ne_nil hne
    have hminus : d ≠ '-' := (isDigit_facts (hdigits d List.mem_cons_self)).2.2.2
    rcases hnumeral with rfl | rfl
    · rw [List.cons_append] at hrun ⊢
      rw [integer?.eq_def]
      split
      · rename_i u hu
        exact absurd (List.cons.inj hu).1 hminus
      · rw [hrun]
    · rw [List.cons_append, integer?, hrun]

/-- **What is assigned to a key at the front of a text.** Nothing is asked of what stands behind the integer, but that its digits
do not go on. -/
theorem assigned?_eq_some_iff {key t numeral : Text} :
    assigned? key t = some numeral ↔ IsInteger numeral ∧ ∃ (gap gap' : Blanks) (rest : Text),
      t = key ++ (gap.1 ++ '=' :: (gap'.1 ++ (numeral ++ rest))) ∧ ∀ c ∈ rest.head?, Text.isDigit c = false := by
  have hblanks : ∀ u : Text, ∀ c ∈ u.takeWhile Text.isBlank, Text.isBlank c = true := fun u c hc =>
    List.mem_takeWhile_imp hc
  constructor
  · intro h
    unfold assigned? at h
    split at h
    · rename_i value hvalue
      obtain ⟨w, hw, hequals⟩ := Option.map_eq_some_iff.1 hvalue
      obtain ⟨hinteger, rest, hrest, hends⟩ := integer?_eq_some_iff.1 h
      refine ⟨hinteger, ⟨w.takeWhile Text.isBlank, hblanks w⟩, ⟨value.takeWhile Text.isBlank, hblanks value⟩, rest, ?_, hends⟩
      rw [← hrest, List.takeWhile_append_dropWhile, ← hequals, List.takeWhile_append_dropWhile]
      exact Text.eq_append_of_after? hw
    · cases h
  · rintro ⟨hinteger, gap, gap', rest, rfl, hends⟩
    have hequals : (gap.1 ++ '=' :: (gap'.1 ++ (numeral ++ rest))).dropWhile Text.isBlank =
        '=' :: (gap'.1 ++ (numeral ++ rest)) :=
      Text.dropWhile_run gap.2 (by simp; decide)
    have hvalue : (gap'.1 ++ (numeral ++ rest)).dropWhile Text.isBlank = numeral ++ rest :=
      Text.dropWhile_run gap'.2 (hinteger.not_isBlank_head rest)
    rw [assigned?, Text.after?_append, Option.map_some, hequals]
    simp only [hvalue]
    exact integer?_eq_some_iff.2 ⟨hinteger, rest, rfl, hends⟩

end Bounds

theorem WrittenInteger.isInteger (n : WrittenInteger) : Bounds.IsInteger n.text := by
  refine ⟨n.digits, n.ne_nil, n.all_digits, ?_⟩
  unfold text
  split
  · exact Or.inr rfl
  · exact Or.inl rfl

/-! ## Passing text -/

namespace Bounds

/-- the text ends, or goes on with a blank, and no equals sign comes behind the blanks -/
structure Breaks (t : Text) : Prop where
  head : ∀ c ∈ t.head?, Text.isBlank c = true
  behind : (t.dropWhile Text.isBlank).head? ≠ some '='

variable {key : Text}

theorem assigned?_eq_none {t : Text} (h : ∀ w, t = key ++ w → (w.dropWhile Text.isBlank).head? ≠ some '=') :
    assigned? key t = none := by
  unfold assigned?
  cases hw : Text.after? key t with
  | none => rfl
  | some w =>
    have hne := h w (Text.eq_append_of_after? hw)
    simp only [Option.map_some]
    split
    · rename_i value heq
      rw [Option.some.injEq] at heq
      rw [heq] at hne
      exact absurd rfl hne
    · rfl

/-- a character that is no key character starts no assignment, and the next one may -/
theorem find?_cons_of_not_key (hkey : ∀ c ∈ key, isKeyChar c = true) (hne : key ≠ []) {c : Char}
    (hc : isKeyChar c = false) (free : Bool) (t : Text) : find? key free (c :: t) = find? key true t := by
  have hnone : assigned? key (c :: t) = none := assigned?_eq_none fun w hw => by
    obtain ⟨k, key, rfl⟩ := List.exists_cons_of_ne_nil hne
    rw [List.cons_append, List.cons.injEq] at hw
    rw [hw.1, hkey k List.mem_cons_self] at hc
    cases hc
  rw [find?, hnone, hc]
  cases free <;> rfl

/-- inside of a key no assignment starts -/
theorem find?_inside {u : Text} (hu : ∀ c ∈ u, isKeyChar c = true) (t : Text) :
    find? key false (u ++ t) = find? key false t := by
  induction u with
  | nil => rfl
  | cons c u ih =>
    rw [List.cons_append, find?, hu c List.mem_cons_self]
    exact ih fun d hd => hu d (List.mem_cons_of_mem c hd)

theorem find?_blanks (hkey : ∀ c ∈ key, isKeyChar c = true) (hne : key ≠ []) {u : Text}
    (hu : ∀ c ∈ u, Text.isBlank c = true) (t : Text) : find? key true (u ++ t) = find? key true t := by
  induction u with
  | nil => rfl
  | cons c u ih =>
    rw [List.cons_append, find?_cons_of_not_key hkey hne (not_isKeyChar_of_isBlank (hu c List.mem_cons_self))]
    exact ih fun d hd => hu d (List.mem_cons_of_mem c hd)

/-- up to an equals sign behind blanks nothing starts -/
theorem find?_equals (hkey : ∀ c ∈ key, isKeyChar c = true) (hne : key ≠ []) {u : Text}
    (hu : ∀ c ∈ u, Text.isBlank c = true) (free : Bool) (t : Text) :
    find? key free (u ++ '=' :: t) = find? key true t := by
  cases u with
  | nil => exact find?_cons_of_not_key hkey hne (by decide) free t
  | cons c u =>
    rw [List.cons_append, find?_cons_of_not_key hkey hne (not_isKeyChar_of_isBlank (hu c List.mem_cons_self)),
      find?_blanks hkey hne fun d hd => hu d (List.mem_cons_of_mem c hd)]
    exact find?_cons_of_not_key hkey hne (by decide) true t

theorem find?_breaks (hkey : ∀ c ∈ key, isKeyChar c = true) (hne : key ≠ []) {t : Text} (ht : Breaks t) (free : Bool) :
    find? key free t = find? key true t := by
  cases t with
  | nil => cases free <;> rfl
  | cons c t =>
    have hc := not_isKeyChar_of_isBlank (ht.head c rfl)
    rw [find?_cons_of_not_key hkey hne hc, find?_cons_of_not_key hkey hne hc]

/-- a value is no key with an equals sign behind it -/
theorem assigned?_value (hkey : ∀ c ∈ key, isKeyChar c = true) {v t : Text}
    (hv : ∀ c ∈ v, Text.isBlank c = false ∧ c ≠ '=') (ht : Breaks t) : assigned? key (v ++ t) = none := by
  refine assigned?_eq_none fun w hw => ?_
  rcases List.append_eq_append_iff.1 hw with ⟨m, hkeq, rfl⟩ | ⟨m, rfl, rfl⟩
  · -- the key goes on behind the value, where a blank stands
    cases m with
    | nil => exact ht.behind
    | cons c m =>
      have hblank := ht.head c rfl
      rw [not_isBlank_of_isKeyChar (hkey c (hkeq ▸ List.mem_append_right v List.mem_cons_self))] at hblank
      cases hblank
  · cases m with
    | nil => exact ht.behind
    | cons c m =>
      obtain ⟨hblank, hequals⟩ := hv c (List.mem_append_right key List.mem_cons_self)
      rw [List.cons_append, List.dropWhile_cons_of_neg (by simp [hblank])]
      simpa using hequals

theorem find?_value (hkey : ∀ c ∈ key, isKeyChar c = true) (hne : key ≠ []) {v t : Text}
    (hv : ∀ c ∈ v, Text.isBlank c = false ∧ c ≠ '=') (ht : Breaks t) (free : Bool) :
    find? key free (v ++ t) = find? key true t := by
  induction v generalizing free with
  | nil => exact find?_breaks hkey hne ht free
  | cons c v ih =>
    have hnone : assigned? key (c :: v ++ t) = none := assigned?_value hkey hv ht
    rw [List.cons_append] at hnone ⊢
    rw [find?, hnone]
    cases free <;> exact ih (fun d hd => hv d (List.mem_cons_of_mem c hd)) _

/-- another key is not the searched one with an equals sign behind it -/
theorem assigned?_other (hkey : ∀ c ∈ key, isKeyChar c = true) {k t : Text} (hk : ∀ c ∈ k, isKeyChar c = true)
    (hdiff : k ≠ key) (ht : ∀ c ∈ t.head?, isKeyChar c = false) : assigned? key (k ++ t) = none := by
  refine assigned?_eq_none fun w hw => ?_
  rcases List.append_eq_append_iff.1 hw with ⟨m, hkeq, rfl⟩ | ⟨m, rfl, rfl⟩
  · cases m with
    | nil => exact absurd (by simpa using hkeq.symm) hdiff
    | cons c m =>
      have hc := ht c rfl
      rw [hkey c (hkeq ▸ List.mem_append_right k List.mem_cons_self)] at hc
      cases hc
  · cases m with
    | nil => exact absurd (List.append_nil key) hdiff
    | cons c m =>
      have hc := hk c (List.mem_append_right key List.mem_cons_self)
      rw [List.cons_append, List.dropWhile_cons_of_neg (by simp [not_isBlank_of_isKeyChar hc])]
      simpa using ne_equals_of_isKeyChar hc

/-! ## Assignments in the search -/

/-- **Another assignment is passed**, whatever its key and its value are made of. -/
theorem find?_pass (hkey : ∀ c ∈ key, isKeyChar c = true) (hne : key ≠ []) (a : Assignment) (hdiff : a.entry.key ≠ key)
    {t : Text} (ht : Breaks t) : find? key true (a.text ++ t) = find? key true t := by
  obtain ⟨c, k, hk⟩ := List.exists_cons_of_ne_nil a.entry.key_ne_nil
  have hall := a.entry.isKeyChar_of_mem_key
  have htext : a.text ++ t = c :: (k ++ (a.before.1 ++ '=' :: (a.after.1 ++ (a.entry.value ++ t)))) := by
    simp [Assignment.text, hk]
  have hhead : ∀ d ∈ (a.before.1 ++ '=' :: (a.after.1 ++ (a.entry.value ++ t))).head?, isKeyChar d = false := by
    intro d hd
    cases hb : a.before.1 with
    | nil =>
      rw [hb] at hd
      cases hd
      decide
    | cons b blanks =>
      rw [hb] at hd
      obtain rfl : b = d := by simpa using hd
      exact not_isKeyChar_of_isBlank (a.before.2 b (hb ▸ List.mem_cons_self))
  have hnone := assigned?_other hkey hall hdiff hhead
  rw [hk, List.cons_append] at hnone
  rw [hk] at hall
  calc find? key true (a.text ++ t)
      = find? key false (k ++ (a.before.1 ++ '=' :: (a.after.1 ++ (a.entry.value ++ t)))) := by
        rw [htext, find?, if_pos rfl, hnone, hall c List.mem_cons_self]
        rfl
    _ = find? key false (a.before.1 ++ '=' :: (a.after.1 ++ (a.entry.value ++ t))) :=
        find?_inside (fun d hd => hall d (List.mem_cons_of_mem c hd)) _
    _ = find? key true (a.after.1 ++ (a.entry.value ++ t)) := find?_equals hkey hne a.before.2 false _
    _ = find? key true (a.entry.value ++ t) := find?_blanks hkey hne a.after.2 _
    _ = find? key true t :=
        find?_value hkey hne (fun d hd => ⟨(a.entry.mem_value d hd).1, (a.entry.mem_value d hd).2.1⟩) ht true

/-- **The search stops at its own key.** -/
theorem find?_match (a : Assignment) {b : BoundKey} {n : WrittenInteger} (he : a.entry = .bound b n) {t : Text}
    (ht : Breaks t) : find? b.name true (a.text ++ t) = some n.text := by
  have htext : a.text ++ t = b.name ++ (a.before.1 ++ '=' :: (a.after.1 ++ (n.text ++ t))) := by
    simp [Assignment.text, he, Entry.key, Entry.value]
  have hends : ∀ c ∈ t.head?, Text.isDigit c = false := fun c hc => Text.not_isDigit_of_isBlank (ht.head c hc)
  have hassigned : assigned? b.name (a.text ++ t) = some n.text :=
    assigned?_eq_some_iff.2 ⟨n.isInteger, a.before, a.after, t, htext, hends⟩
  obtain ⟨c, u, hu⟩ := List.exists_cons_of_ne_nil (show a.text ++ t ≠ [] by simp [Assignment.text])
  rw [hu] at hassigned ⊢
  rw [find?, if_pos rfl, hassigned]

/-- what follows an assignment breaks it off -/
theorem breaks_rest {list : List Assignment} (trail : Blanks) (h : ∀ a ∈ list, a.lead.1 ≠ []) :
    Breaks (list.flatMap (fun a => a.lead.1 ++ a.text) ++ trail.1) := by
  cases list with
  | nil =>
    have hgone : trail.1.dropWhile Text.isBlank = [] := List.dropWhile_eq_nil_iff.2 trail.2
    exact ⟨fun c hc => trail.2 c (List.mem_of_mem_head? hc), by simp [hgone]⟩
  | cons a list =>
    obtain ⟨c, lead, hl⟩ := List.exists_cons_of_ne_nil (h a List.mem_cons_self)
    obtain ⟨k, key, hk⟩ := List.exists_cons_of_ne_nil a.entry.key_ne_nil
    have hblank := a.lead.2
    have hkey := a.entry.isKeyChar_of_mem_key k (hk ▸ List.mem_cons_self)
    refine ⟨fun d hd => ?_, ?_⟩
    · rw [List.flatMap_cons, hl] at hd
      obtain rfl : c = d := by simpa using hd
      exact hblank c (hl ▸ List.mem_cons_self)
    · rw [List.flatMap_cons, List.append_assoc, List.append_assoc, List.dropWhile_append_of_pos hblank, Assignment.text, hk]
      simp only [List.cons_append]
      rw [List.dropWhile_cons_of_neg (by simp [not_isBlank_of_isKeyChar hkey])]
      simpa using ne_equals_of_isKeyChar hkey

/-- the search finds the value of the first assignment to its key -/
theorem find?_list (b : BoundKey) (list : List Assignment) (trail : Blanks) (h : ∀ a ∈ list.tail, a.lead.1 ≠ []) :
    find? b.name true (list.flatMap (fun a => a.lead.1 ++ a.text) ++ trail.1) =
      (list.find? fun a => a.entry.key == b.name).map fun a => a.entry.value := by
  have hkey := isKeyChar_of_mem_name b
  have hne := name_ne_nil b
  induction list with
  | nil => rw [List.flatMap_nil, List.nil_append, ← List.append_nil trail.1, find?_blanks hkey hne trail.2]; rfl
  | cons a list ih =>
    have hrest : Breaks (list.flatMap (fun a => a.lead.1 ++ a.text) ++ trail.1) := breaks_rest trail h
    have htail : ∀ a ∈ list.tail, a.lead.1 ≠ [] := fun x hx => h x (List.mem_of_mem_tail hx)
    rw [List.flatMap_cons, List.append_assoc, List.append_assoc, find?_blanks hkey hne a.lead.2]
    by_cases hk : a.entry.key = b.name
    · rw [List.find?_cons_of_pos (by simp [hk]), Option.map_some]
      cases he : a.entry with
      | bound key n =>
        rw [he] at hk
        obtain rfl := BoundKey.name_injective hk
        exact find?_match a he hrest
      | other entry =>
        rw [he] at hk
        exact absurd hk (entry.unknown b)
    · rw [List.find?_cons_of_neg (by simp [hk]), find?_pass hkey hne a hk hrest, ih htail]

end Bounds

/-! ## Reading bounds -/

/-- the value of a run of digits is the number they are in base ten -/
theorem value_eq_ofDigits (digits : Text) :
    Numeral.value digits = Nat.ofDigits 10 (digits.reverse.map fun c => (Text.digitValue? c).getD 0) := by
  rw [Nat.ofDigits_eq_foldr, List.map_reverse, List.foldr_reverse, List.foldl_map, Numeral.value]
  simp only [Nat.cast_id, add_comm]

theorem read_written (n : WrittenInteger) : Numeral.read n.text = .ok n.value := by
  have hdigits : Numeral.readDigits n.digits = .ok (Numeral.value n.digits) := if_pos n.length_le
  simp only [WrittenInteger.text, WrittenInteger.value, ← value_eq_ofDigits]
  obtain ⟨d, digits, hd⟩ := List.exists_cons_of_ne_nil n.ne_nil
  have hminus : d ≠ '-' := (isDigit_facts (n.all_digits d (hd ▸ List.mem_cons_self))).2.2.2
  cases n.negative with
  | true => simp only [if_true, Numeral.read, hdigits]; rfl
  | false =>
    simp only [Bool.false_eq_true, if_false]
    rw [hd] at hdigits ⊢
    rw [Numeral.read.eq_def]
    split
    · rename_i u hu
      exact absurd (List.cons.inj hu).1 hminus
    · rw [hdigits]; rfl

/-- the bounds that are read are the two bounds -/
theorem read_eq (interior : Text) : Bounds.read interior = (do
    let lineBegin ← Bounds.bound? BoundKey.lineBegin.name interior
    let lineEnd ← Bounds.bound? BoundKey.lineEnd.name interior
    return { lineBegin, lineEnd }) := by
  unfold Bounds.read BoundKey.name
  rfl

/-- **A bound is the first value written for it.** -/
theorem bound?_interior (as : Assignments) (b : BoundKey) : Bounds.bound? b.name as.interior = .ok (as.first? b) := by
  unfold Bounds.bound? Assignments.interior Assignments.first?
  rw [Bounds.find?_list b as.list as.trail as.separated]
  induction as.list with
  | nil => rfl
  | cons a list ih =>
    rw [List.findSome?_cons]
    cases he : a.entry with
    | bound key n =>
      by_cases hk : key = b
      · rw [List.find?_cons_of_pos (by simp [he, hk, Entry.key])]
        simp [he, hk, Entry.value, Entry.valueOf?, read_written, Except.map]
      · rw [List.find?_cons_of_neg (by simpa [he, Entry.key] using fun h => hk (BoundKey.name_injective h))]
        simpa [Entry.valueOf?, hk] using ih
    | other entry =>
      rw [List.find?_cons_of_neg (by simpa [he, Entry.key] using entry.unknown b)]
      simpa [Entry.valueOf?] using ih

end Directive

end Transclude
