/-
Conditions on the texts of markup.

A condition says of a text, and of the names of the elements around it, whether it fits. `Stays` is what carries it through
markup: read in some elements, tokens leave the reading in them, and all texts that they finish fit.

- `Stays.append`, `Stays.element`: tokens that stay do so behind each other, and between the tags of an element.
- `Stays.styled`: text with spans stays inside of its element, whether the spans are closed in it or not.
- `Fitting.parse`: markup that is put together from such tokens is markup, and all texts of it fit.
- `Contained`: markup of any kind that is read inside of other elements as it is by itself.
-/
import Transclude.Proofs.Markup.Passages

namespace Transclude.Markup

open Token (PlainName PlainValue PlainAttribute startTag endTag)

/-! ## Conditions on texts -/

/-- a condition on texts and the names around them that holds of texts that are joined or tidied, too -/
structure Tolerant (fits : List Text → Text → Prop) : Prop where
  append : ∀ {names t u}, fits names t → fits names u → fits names (t ++ u)
  tidy : ∀ {names t} keep, fits names t → fits names (tidy keep t)

theorem mem_tidy {keep : Bool} {t : Text} {c : Char} (h : c ∈ tidy keep t) : c ∈ t ∨ c = '\n' ∨ c = ' ' := by
  unfold tidy at h
  split at h
  · split at h
    · exact Or.inr (Or.inl (List.mem_singleton.1 h))
    · exact Or.inr (Or.inr (List.mem_singleton.1 h))
  · exact Or.inl h

/-- texts in certain elements, and texts of certain characters -/
theorem tolerant_or_forall {inside : List Text → Prop} {fine : Char → Prop} (hline : fine '\n') (hspace : fine ' ') :
    Tolerant fun names t => inside names ∨ ∀ c ∈ t, fine c where
  append := by
    rintro names t u (h | ht) hu
    · exact Or.inl h
    · rcases hu with h | hu
      · exact Or.inl h
      · refine Or.inr fun c hc => ?_
        exact (List.mem_append.1 hc).elim (ht c) (hu c)
  tidy := by
    rintro names t keep (h | ht)
    · exact Or.inl h
    · refine Or.inr fun c hc => ?_
      rcases mem_tidy hc with hc | rfl | rfl
      · exact ht c hc
      · exact hline
      · exact hspace

/-- the reading stands in these elements, no end tag is to be passed over, and the text that is being read fits -/
structure Spot.At (fits : List Text → Text → Prop) (names : List Text) (s : Spot) : Prop where
  names_eq : s.names = names
  voids_eq : s.voids = []
  pending_fits : ∀ t, s.pending = some t → fits names t

theorem Spot.At.flushed {fits : List Text → Text → Prop} (hfits : Tolerant fits) {names : List Text} {s : Spot}
    (h : s.At fits names) : ∀ p ∈ s.flushed, fits p.around p.content := by
  intro p hp
  obtain ⟨t, ht, rfl⟩ := List.mem_map.1 hp
  have htext := h.pending_fits t (Option.mem_toList.1 ht)
  rw [← h.names_eq] at htext
  exact hfits.tidy _ htext

/-- read in these elements, the tokens leave the reading in them, and all texts fit -/
def Stays (fits : List Text → Text → Prop) (names : List Text) (tokens : List Token) : Prop :=
  ∀ s : Spot, s.At fits names → (s.run tokens).At fits names ∧ ∀ p ∈ s.tells tokens, fits p.around p.content

namespace Stays

variable {fits : List Text → Text → Prop} {names : List Text}

theorem nil : Stays fits names [] := by
  intro s hs
  exact ⟨hs, fun p hp => absurd hp List.not_mem_nil⟩

theorem append {tokens more : List Token} (h : Stays fits names tokens) (h' : Stays fits names more) :
    Stays fits names (tokens ++ more) := by
  intro s hs
  obtain ⟨hrun, htold⟩ := h s hs
  obtain ⟨hrun', htold'⟩ := h' _ hrun
  rw [Spot.run_append, Spot.tells_append]
  refine ⟨hrun', fun p hp => ?_⟩
  rcases List.mem_append.1 hp with hp | hp
  · exact htold p hp
  · exact htold' p hp

theorem text (hfits : Tolerant fits) {t : Text} (ht : fits names t) : Stays fits names [.text t] := by
  intro s hs
  refine ⟨⟨hs.names_eq, hs.voids_eq, fun u hu => ?_⟩, fun p hp => absurd hp List.not_mem_nil⟩
  have hu' : s.pending.getD [] ++ t = u := Option.some.inj hu
  cases hpending : s.pending with
  | none =>
    rw [hpending] at hu'
    exact hu' ▸ ht
  | some before =>
    rw [hpending] at hu'
    exact hu' ▸ hfits.append (hs.pending_fits before hpending) ht

theorem pieces (hfits : Tolerant fits) {t : Text} (ht : fits names t) : Stays fits names (Token.pieces t) := by
  unfold Token.pieces
  split
  · exact nil
  · exact text hfits ht

/-- the spot inside of an element -/
theorem at_opening {name : Text} {s : Spot} (attributes : List Attribute) (hvoid : isVoid name = false)
    (hs : s.At fits names) : (s.step (.opening name attributes)).At fits (name :: names) := by
  simp only [Spot.step, hvoid, Bool.false_eq_true, if_false]
  refine ⟨by rw [hs.names_eq], hs.voids_eq, ?_⟩
  intro t ht
  cases ht

/-- behind an element no text is being read -/
theorem run_element {name : Text} {attributes : List Attribute} {tokens : List Token} (hvoid : isVoid name = false)
    (h : Stays fits (name :: names) tokens) {s : Spot} (hs : s.At fits names) :
    s.run (.opening name attributes :: tokens ++ [.closing name]) = { names } := by
  have hinner := (h _ (at_opening attributes hvoid hs)).1
  rw [Spot.run_append, Spot.run, List.foldl_cons]
  refine (Spot.step_closing name hinner.voids_eq).trans ?_
  rw [hinner.names_eq, Spot.closeTo_cons]

/-- **Tokens stay between the tags of an element.** -/
theorem element (hfits : Tolerant fits) {name : Text} {attributes : List Attribute} {tokens : List Token}
    (hvoid : isVoid name = false) (h : Stays fits (name :: names) tokens) :
    Stays fits names (.opening name attributes :: tokens ++ [.closing name]) := by
  intro s hs
  obtain ⟨hinner, htold⟩ := h _ (at_opening attributes hvoid hs)
  refine ⟨?_, fun p hp => ?_⟩
  · rw [run_element hvoid h hs]
    exact ⟨rfl, rfl, fun t ht => nomatch ht⟩
  · rw [List.cons_append, Spot.tells, Spot.tells_append, Spot.tells, Spot.told_closing name hinner.voids_eq] at hp
    rcases List.mem_append.1 hp with hp | hp
    · exact hs.flushed hfits p hp
    · rcases List.mem_append.1 hp with hp | hp
      · exact htold p hp
      · exact hinner.flushed hfits p (by simpa [Spot.tells] using hp)

end Stays

/-! ## Spans -/

/-- a token of styled text: text, or a tag of a span -/
inductive Styling : Token → Prop
  | text (t : Text) : Styling (.text t)
  | opening (attributes : List Attribute) : Styling (.opening "span".toList attributes)
  | closing : Styling (.closing "span".toList)

/-- spans are all that is open inside of these elements -/
structure Spot.InSpans (names : List Text) (s : Spot) : Prop where
  names_eq : ∃ spans, (∀ n ∈ spans, n = "span".toList) ∧ s.names = spans ++ names
  voids_eq : s.voids = []

theorem Spot.InSpans.step {names : List Text} (hspan : "span".toList ∉ names) {s : Spot} (h : s.InSpans names)
    {token : Token} (htoken : Styling token) : (s.step token).InSpans names := by
  obtain ⟨⟨spans, hspans, hnames⟩, hvoids⟩ := h
  cases htoken with
  | text t => exact ⟨⟨spans, hspans, hnames⟩, hvoids⟩
  | opening attributes =>
    refine ⟨⟨"span".toList :: spans, List.forall_mem_cons.2 ⟨rfl, hspans⟩, ?_⟩, hvoids⟩
    rw [List.cons_append, ← hnames]
    rfl
  | closing =>
    rw [Spot.step_closing _ hvoids, hnames]
    cases spans with
    | nil =>
      -- nothing of that name is open, and the end tag means nothing
      refine ⟨⟨[], List.forall_mem_nil _, ?_⟩, rfl⟩
      rw [List.nil_append, Spot.closeTo, if_neg (by simpa using hspan)]
    | cons n spans =>
      obtain ⟨rfl, hrest⟩ := List.forall_mem_cons.1 hspans
      rw [List.cons_append, Spot.closeTo_cons]
      exact ⟨⟨spans, hrest, rfl⟩, rfl⟩

theorem Spot.InSpans.run {names : List Text} (hspan : "span".toList ∉ names) {tokens : List Token}
    (htokens : ∀ token ∈ tokens, Styling token) {s : Spot} (h : s.InSpans names) : (s.run tokens).InSpans names := by
  induction tokens generalizing s with
  | nil => exact h
  | cons token tokens ih =>
    obtain ⟨hfirst, hrest⟩ := List.forall_mem_cons.1 htokens
    exact ih hrest (h.step hspan hfirst)

/-- the texts of styled text have the elements around them that are around it -/
theorem Spot.InSpans.tells {names : List Text} (hspan : "span".toList ∉ names) {tokens : List Token}
    (htokens : ∀ token ∈ tokens, Styling token) {s : Spot} (h : s.InSpans names) :
    ∀ p ∈ s.tells tokens, ∃ spans, p.around = spans ++ names := by
  have hflushed : ∀ {s : Spot}, s.InSpans names → ∀ p ∈ s.flushed, ∃ spans, p.around = spans ++ names := by
    intro s h p hp
    obtain ⟨⟨spans, -, hnames⟩, -⟩ := h
    obtain ⟨t, -, rfl⟩ := List.mem_map.1 hp
    exact ⟨spans, hnames⟩
  induction tokens generalizing s with
  | nil => exact fun p hp => absurd hp List.not_mem_nil
  | cons token tokens ih =>
    obtain ⟨hfirst, hrest⟩ := List.forall_mem_cons.1 htokens
    intro p hp
    rcases List.mem_append.1 hp with hp | hp
    · cases hfirst with
      | text t => exact absurd hp List.not_mem_nil
      | opening attributes => exact hflushed h p hp
      | closing =>
        rw [Spot.told_closing _ h.voids_eq] at hp
        exact hflushed h p hp
    · exact ih hrest (h.step hspan hfirst) p hp

/-- **Styled text stays inside of its element**, whether its spans are closed in it or not. -/
theorem Stays.styled {fits : List Text → Text → Prop} {name : Text} {names : List Text} {attributes : List Attribute}
    {tokens : List Token} (hfits : Tolerant fits) (hinner : ∀ spans t, fits (spans ++ name :: names) t)
    (hvoid : isVoid name = false) (hspan : "span".toList ∉ name :: names) (htokens : ∀ token ∈ tokens, Styling token) :
    Stays fits names (.opening name attributes :: tokens ++ [.closing name]) := by
  intro s hs
  have hopened := Stays.at_opening attributes hvoid hs
  have hstart : (s.step (.opening name attributes)).InSpans (name :: names) :=
    ⟨⟨[], List.forall_mem_nil _, hopened.names_eq⟩, hopened.voids_eq⟩
  obtain ⟨⟨spans, hspans, hnames⟩, hvoids⟩ := hstart.run hspan htokens
  have hne : ∀ n ∈ spans, n ≠ name := by
    rintro n hn rfl
    exact hspan (hspans n hn ▸ List.mem_cons_self)
  refine ⟨?_, fun p hp => ?_⟩
  · rw [Spot.run_append, Spot.run, List.foldl_cons]
    have hclosed := Spot.step_closing name hvoids
    rw [hnames, Spot.closeTo_append names hne] at hclosed
    refine (congrArg (Spot.At fits names) hclosed).mpr ⟨rfl, rfl, fun t ht => nomatch ht⟩
  · rw [List.cons_append, Spot.tells, Spot.tells_append, Spot.tells, Spot.told_closing name hvoids] at hp
    rcases List.mem_append.1 hp with hp | hp
    · exact hs.flushed hfits p hp
    · rcases List.mem_append.1 hp with hp | hp
      · obtain ⟨inner, hinner'⟩ := hstart.tells hspan htokens p hp
        exact hinner' ▸ hinner inner p.content
      · obtain ⟨t, -, rfl⟩ := List.mem_map.1 (by simpa [Spot.tells] using hp : p ∈ Spot.flushed _)
        exact (congrArg (fits · _) hnames).mpr (hinner spans _)

/-! ## Markup that fits -/

/-- inside of these elements, the markup leaves the reading where it is, and all its texts fit -/
def Fitting (fits : List Text → Text → Prop) (names : List Text) (t : Text) : Prop :=
  ∃ tokens, Builds t tokens ∧ Stays fits names tokens

namespace Fitting

variable {fits : List Text → Text → Prop} {names : List Text} {t u : Text}

theorem nil : Fitting fits names [] := ⟨[], .nil, .nil⟩

theorem append (h : Fitting fits names t) (h' : Fitting fits names u) : Fitting fits names (t ++ u) := by
  obtain ⟨tokens, hb, hs⟩ := h
  obtain ⟨more, hb', hs'⟩ := h'
  exact ⟨tokens ++ more, hb.append hb', hs.append hs'⟩

theorem escaped (hfits : Tolerant fits) (e : Escaping) (ht : fits names t) : Fitting fits names (e.text t) :=
  ⟨_, builds_escaped e t, .pieces hfits ht⟩

theorem plain (hfits : Tolerant fits) (hplain : ∀ c ∈ t, isPlain c = true) (ht : fits names t) : Fitting fits names t :=
  ⟨_, builds_of_plain hplain, .pieces hfits ht⟩

theorem element (hfits : Tolerant fits) {name : Text} {attributes : List Attribute} (hn : PlainName name)
    (hvoid : isVoid name = false) (h : ∀ a ∈ attributes, PlainAttribute a) (hnames : (attributes.map Attribute.name).Nodup)
    (hc : Fitting fits (name :: names) t) : Fitting fits names (startTag name attributes ++ t ++ endTag name) := by
  obtain ⟨tokens, hb, hs⟩ := hc
  exact ⟨_, builds_element hn h hnames hb, .element hfits hvoid hs⟩

theorem enclose (hfits : Tolerant fits) {tag cssClass : String} (hn : PlainName tag.toList)
    (hvoid : isVoid tag.toList = false) (hv : PlainValue cssClass.toList) (h : Fitting fits (tag.toList :: names) t) :
    Fitting fits names (Block.enclose tag cssClass t) := by
  rw [Token.enclose_eq]
  exact element hfits hn hvoid (List.forall_mem_singleton.2 (Token.plainAttribute_class hv)) (List.nodup_singleton _) h

/-- **Markup that fits is markup**, and all its texts fit. -/
theorem parse (hfits : Tolerant fits) (h : Fitting fits [] t) (first : ℕ) :
    ∃ f next, parse first t = .ok (f, next) ∧ ∀ p ∈ f.passages [], fits p.around p.content := by
  obtain ⟨tokens, hb, hs⟩ := h
  obtain ⟨hrun, htold⟩ := hs {} ⟨rfl, rfl, fun t ht => nomatch ht⟩
  refine ⟨_, _, hb.parse_eq first, fun p hp => ?_⟩
  rw [passages_of_builds hb (hb.parse_eq first)] at hp
  rcases List.mem_append.1 hp with hp | hp
  · exact htold p hp
  · exact hrun.flushed hfits p hp

end Fitting

/-! ## Markup that is complete in itself -/

/-- wherever the markup stands it amounts to the same tokens, and its end tags close elements of its own -/
def Contained (t : Text) : Prop := ∃ tokens, Builds t tokens ∧ Spot.Closes {} tokens

end Transclude.Markup
