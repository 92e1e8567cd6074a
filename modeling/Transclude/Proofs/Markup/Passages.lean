/-
The texts of parsed markup, told from its tokens.

The builder keeps nodes. Which texts it makes of the tokens to come hangs only on the names of the open elements, on the void
elements whose end tags are still to be passed over, and on the text that is being read: its `Spot`. `Spot.step` moves the spot
by a token, and `Spot.told` are the texts that the token finishes.

- `Spot.tells_within`: markup that closes its own elements only is read inside of others as it is outside of them.
- `spot_step`, `passages_step`: what a token does to a builder is what it does to its spot, and the texts that it finishes come
  behind those that are there, in the order of the document.
- `passages_finish`: in the end no text is lost, whatever is still open.
- `passages_of_builds`: the texts of markup are told by its tokens.
-/
import Transclude.Proofs.Markup.Building
import Transclude.Proofs.Markup.Forest

namespace Transclude.Markup

/-- the content of a text, and the names of the elements around it, innermost first -/
structure Passage where
  content : Text
  around : List Text
deriving DecidableEq, Repr

/-- a text with more elements around it -/
def Passage.within (names : List Text) (p : Passage) : Passage := { p with around := p.around ++ names }

/-- a text without its number -/
def Leaf.passage (leaf : Leaf) : Passage := { content := leaf.content, around := leaf.around }

/-- the texts of a forest without their numbers -/
def Forest.passages (around : List Text) (f : Forest) : List Passage := (f.texts around).map Leaf.passage

/-! ## Spots -/

/-- where the reading of markup stands -/
structure Spot where
  /-- the names of the open elements, innermost first -/
  names : List Text := []
  /-- the names of void elements whose end tags are still to be passed over -/
  voids : List Text := []
  /-- the text that is being read -/
  pending : Option Text := none

namespace Spot

/-- the names that are left when elements are closed up to the nearest one of this name -/
def closeTo (names : List Text) (name : Text) : List Text :=
  if names.contains name then (names.dropWhile (· != name)).tail else names

/-- the text that is being read, as it becomes a node -/
def flushed (s : Spot) : List Passage :=
  s.pending.toList.map fun t => { content := tidy (s.names.any keepsBlanks) t, around := s.names }

/-- the spot behind a token -/
def step (s : Spot) : Token → Spot
  | .text t => { s with pending := some (s.pending.getD [] ++ t) }
  | .special _ _ => { s with pending := none }
  | .opening name _ =>
    if isVoid name then { s with voids := name :: s.voids, pending := none }
    else { s with names := name :: s.names, pending := none }
  | .closed _ _ => { s with pending := none }
  | .closing name =>
    if s.voids.contains name then { s with voids := s.voids.erase name }
    else { s with names := closeTo s.names name, pending := none }

/-- the texts that a token finishes -/
def told (s : Spot) : Token → List Passage
  | .text _ => []
  | .closing name => if s.voids.contains name then [] else s.flushed
  | _ => s.flushed

/-- the spot behind some tokens -/
def run (s : Spot) (tokens : List Token) : Spot := tokens.foldl step s

/-- the texts that some tokens finish -/
def tells (s : Spot) : List Token → List Passage
  | [] => []
  | token :: tokens => s.told token ++ (s.step token).tells tokens

theorem run_append (s : Spot) (tokens more : List Token) : s.run (tokens ++ more) = (s.run tokens).run more :=
  List.foldl_append

theorem tells_append (s : Spot) (tokens more : List Token) :
    s.tells (tokens ++ more) = s.tells tokens ++ (s.run tokens).tells more := by
  induction tokens generalizing s with
  | nil => rfl
  | cons token tokens ih =>
    rw [List.cons_append, tells, tells, ih, List.append_assoc]
    rfl

theorem closeTo_append {inner : List Text} {name : Text} (names : List Text) (h : ∀ n ∈ inner, n ≠ name) :
    closeTo (inner ++ name :: names) name = names := by
  have hpass : ∀ n ∈ inner, (n != name) = true := fun n hn => bne_iff_ne.2 (h n hn)
  have hmem : (inner ++ name :: names).contains name = true := by simp
  rw [closeTo, if_pos hmem, List.dropWhile_append_of_pos hpass, List.dropWhile_cons_of_neg (by simp), List.tail_cons]

theorem closeTo_cons (names : List Text) (name : Text) : closeTo (name :: names) name = names :=
  closeTo_append names (List.forall_mem_nil _)

theorem step_closing {s : Spot} (name : Text) (h : s.voids = []) :
    s.step (.closing name) = { names := closeTo s.names name, voids := [] } := by
  rw [step, h]
  rfl

theorem told_closing {s : Spot} (name : Text) (h : s.voids = []) : s.told (.closing name) = s.flushed := by
  rw [told, h]
  rfl

/-! ### Elements around -/

/-- every end tag among the tokens closes an element that is open by then, or is passed over -/
def Closes (s : Spot) : List Token → Prop
  | [] => True
  | token :: tokens => (∀ name, token = .closing name → name ∈ s.names ∨ name ∈ s.voids) ∧ (s.step token).Closes tokens

/-- the spot with more elements around it -/
def within (names : List Text) (s : Spot) : Spot := { s with names := s.names ++ names }

theorem closeTo_append_of_mem {inner : List Text} {name : Text} (names : List Text) (h : name ∈ inner) :
    closeTo (inner ++ names) name = closeTo inner name ++ names := by
  have hmem : (inner ++ names).contains name = true := by simp [h]
  have hinner : inner.contains name = true := by simp [h]
  have hne : inner.dropWhile (· != name) ≠ [] := by
    intro hnil
    have hall := List.dropWhile_eq_nil_iff.1 hnil name h
    simp at hall
  rw [closeTo, closeTo, if_pos hmem, if_pos hinner, List.dropWhile_append, if_neg (by simpa using hne),
    List.tail_append_of_ne_nil hne]

theorem step_within (names : List Text) {s : Spot} {token : Token}
    (h : ∀ name, token = .closing name → name ∈ s.names ∨ name ∈ s.voids) :
    (s.within names).step token = (s.step token).within names := by
  cases token with
  | text t => rfl
  | special kind content => rfl
  | opening name attributes =>
    simp only [step]
    split
    · rfl
    · rfl
  | closed name attributes => rfl
  | closing name =>
    have hvoids : (s.within names).voids = s.voids := rfl
    by_cases hvoid : s.voids.contains name = true
    · simp only [step, hvoids, if_pos hvoid]
      rfl
    · have hname : name ∈ s.names := (h name rfl).resolve_right (by simpa using hvoid)
      simp only [step, if_neg hvoid, within, closeTo_append_of_mem names hname]

/-- elements that do not keep blanks leave texts as they are -/
theorem flushed_within {names : List Text} (hnames : names.any keepsBlanks = false) (s : Spot) :
    (s.within names).flushed = s.flushed.map (Passage.within names) := by
  simp only [flushed, within, List.any_append, hnames, Bool.or_false, List.map_map]
  rfl

theorem told_within {names : List Text} (hnames : names.any keepsBlanks = false) (s : Spot) (token : Token) :
    (s.within names).told token = (s.told token).map (Passage.within names) := by
  cases token with
  | text t => rfl
  | special kind content => exact flushed_within hnames s
  | opening name attributes => exact flushed_within hnames s
  | closed name attributes => exact flushed_within hnames s
  | closing name =>
    have hvoids : (s.within names).voids = s.voids := rfl
    simp only [told, hvoids]
    split
    · rfl
    · exact flushed_within hnames s

/-- **Markup that closes its own elements only is read inside of others as it is outside of them.** -/
theorem tells_within {names : List Text} (hnames : names.any keepsBlanks = false) {s : Spot} {tokens : List Token}
    (h : s.Closes tokens) :
    (s.within names).tells tokens = (s.tells tokens).map (Passage.within names) ∧
      (s.within names).run tokens = (s.run tokens).within names := by
  induction tokens generalizing s with
  | nil => exact ⟨rfl, rfl⟩
  | cons token tokens ih =>
    obtain ⟨htoken, htokens⟩ := h
    obtain ⟨htells, hrun⟩ := ih htokens
    constructor
    · rw [tells, tells, told_within hnames, step_within names htoken, htells, List.map_append]
    · refine (congrArg (Spot.run · tokens) (step_within names htoken)).trans ?_
      exact hrun

/-- end tags finish the text that is being read, or leave it as it is -/
theorem mem_flushed_of_closing {s : Spot} (names : List Text) {p : Passage}
    (h : p ∈ s.tells (names.map Token.closing) ++ (s.run (names.map Token.closing)).flushed) : p ∈ s.flushed := by
  induction names generalizing s with
  | nil => exact h
  | cons name names ih =>
    have hstep : p ∈ s.told (.closing name) ∨ p ∈ (s.step (.closing name)).flushed := by
      rw [List.map_cons, tells, List.append_assoc] at h
      exact (List.mem_append.1 h).imp_right ih
    rw [told, step] at hstep
    split at hstep
    · exact hstep.resolve_left List.not_mem_nil
    · exact hstep.resolve_right List.not_mem_nil

end Spot

/-! ## Forests -/

theorem Forest.reverseAppend_eq (f g : Forest) : f.reverseAppend g = f.reverse ++ g := by
  have h : ∀ f g k : Forest, f.reverseAppend (g ++ k) = f.reverseAppend g ++ k := by
    intro f
    induction f with
    | nil => exact fun _ _ => rfl
    | text id content next ih => exact fun g k => ih (.text id content g) k
    | special id kind content next ih => exact fun g k => ih (.special id kind content g) k
    | element id name attributes children next _ ih => exact fun g k => ih (.element id name attributes children g) k
  exact h f .nil g

theorem Forest.passages_append (around : List Text) (f g : Forest) :
    (f ++ g).passages around = f.passages around ++ g.passages around := by
  rw [passages, texts_append, List.map_append]
  rfl

/-- the elements around a forest are around its texts -/
theorem Forest.mem_texts_around {around : List Text} {f : Forest} {leaf : Leaf} (h : leaf ∈ f.texts around) :
    ∃ inner ∈ f.texts [], leaf = { inner with around := inner.around ++ around } := by
  have hmap : ∀ (f : Forest) (inner : List Text),
      f.texts (inner ++ around) = (f.texts inner).map fun leaf => { leaf with around := leaf.around ++ around } := by
    intro f
    induction f with
    | nil => exact fun _ => rfl
    | text id content next ih => exact fun inner => congrArg (_ :: ·) (ih inner)
    | special id kind content next ih => exact ih
    | element id name attributes children next ihc ih =>
      intro inner
      rw [texts, texts, List.map_append, ih inner, ← List.cons_append, ihc (name :: inner)]
  rw [← List.nil_append around, hmap f []] at h
  obtain ⟨inner, hinner, rfl⟩ := List.mem_map.1 h
  exact ⟨inner, hinner, rfl⟩

namespace Builder

/-! ## The texts of a builder -/

/-- the spot of a builder -/
def spot (b : Builder) : Spot := { names := b.frames.map Frame.name, voids := b.voids, pending := b.pending }

/-- the texts in open elements, in the order of the document -/
def framePassages : List Frame → List Passage
  | [] => []
  | frame :: frames => framePassages frames ++ frame.children.reverse.passages (frame.name :: frames.map Frame.name)

/-- the texts so far, in the order of the document -/
def passages (b : Builder) : List Passage := b.top.reverse.passages [] ++ framePassages b.frames

/-- a new node comes behind all texts so far -/
theorem passages_add (b : Builder) (node : Forest → Forest) (new : Forest)
    (h : ∀ g, (node g).reverse = g.reverse ++ new) :
    (b.add node).passages = b.passages ++ new.passages b.spot.names := by
  unfold add passages spot
  cases b.frames with
  | nil => simp only [framePassages, h, Forest.passages_append, List.append_nil, List.map_nil]
  | cons frame frames =>
    simp only [framePassages, h, Forest.passages_append, List.append_assoc, List.map_cons]

theorem spot_add (b : Builder) (node : Forest → Forest) : (b.add node).spot = b.spot := by
  unfold add spot
  cases b.frames with
  | nil => rfl
  | cons frame frames => rfl

theorem reverse_text (id : ℕ) (content : Text) (g : Forest) :
    (Forest.text id content g).reverse = g.reverse ++ .text id content .nil := g.reverseAppend_eq _

theorem reverse_special (id : ℕ) (kind : SpecialKind) (content : Text) (g : Forest) :
    (Forest.special id kind content g).reverse = g.reverse ++ .special id kind content .nil := g.reverseAppend_eq _

theorem reverse_element (id : ℕ) (name : Text) (attributes : List Attribute) (children g : Forest) :
    (Forest.element id name attributes children g).reverse = g.reverse ++ .element id name attributes children .nil :=
  g.reverseAppend_eq _

theorem keeps_eq (b : Builder) : b.keeps = b.spot.names.any keepsBlanks := by
  rw [keeps, spot, List.any_map]
  rfl

theorem passages_flush (b : Builder) : b.flush.passages = b.passages ++ b.spot.flushed := by
  have hflushed : b.spot.flushed = b.pending.toList.map fun t => ⟨tidy b.keeps t, b.spot.names⟩ := by
    rw [keeps_eq]
    rfl
  rw [hflushed, flush]
  cases b.pending with
  | none => simp
  | some t => exact b.passages_add (.text b.next (tidy b.keeps t)) _ (reverse_text _ _)

theorem spot_flush (b : Builder) : b.flush.spot = { b.spot with pending := none } := by
  have hadd : ∀ content, (b.add (.text b.next content)).spot = b.spot := fun content => spot_add b _
  unfold flush
  cases h : b.pending with
  | none =>
    rw [spot, h]
  | some t =>
    have hnames := congrArg Spot.names (hadd (tidy b.keeps t))
    have hvoids := congrArg Spot.voids (hadd (tidy b.keeps t))
    simp only [spot] at hnames hvoids ⊢
    rw [hnames, hvoids]

/-- closing an element moves its texts and keeps their order -/
theorem passages_pop (b : Builder) : b.pop.passages = b.passages := by
  unfold pop
  cases h : b.frames with
  | nil => rfl
  | cons frame frames =>
    refine (passages_add { b with frames } _ _ (reverse_element _ _ _ _)).trans ?_
    simp [passages, spot, h, framePassages, Forest.passages, Forest.texts]

theorem spot_pop (b : Builder) : b.pop.spot = { b.spot with names := b.spot.names.tail } := by
  unfold pop
  cases h : b.frames with
  | nil => simp [spot, h]
  | cons frame frames =>
    refine (spot_add { b with frames } _).trans ?_
    simp [spot, h]

theorem passages_repeat_pop (n : ℕ) (b : Builder) : (n.repeat pop b).passages = b.passages := by
  induction n with
  | zero => rfl
  | succ n ih => exact (passages_pop _).trans ih

theorem spot_repeat_pop (n : ℕ) (b : Builder) :
    (n.repeat pop b).spot = { b.spot with names := b.spot.names.drop n } := by
  induction n with
  | zero => rfl
  | succ n ih =>
    refine (spot_pop _).trans ?_
    rw [ih, List.tail_drop]

theorem passages_closeTo (b : Builder) (name : Text) : (b.closeTo name).passages = b.passages := by
  unfold closeTo
  split
  · exact passages_repeat_pop _ b
  · rfl

theorem spot_closeTo (b : Builder) (name : Text) :
    (b.closeTo name).spot = { b.spot with names := Spot.closeTo b.spot.names name } := by
  have hany : b.frames.any (·.name == name) = b.spot.names.contains name := by
    rw [spot, List.contains_eq_any_beq, List.any_map]
    exact congrArg (b.frames.any ·) (funext fun frame => Bool.beq_comm)
  have hcount : (b.frames.takeWhile (·.name != name)).length = (b.spot.names.takeWhile (· != name)).length := by
    rw [spot, List.takeWhile_map, List.length_map]
    rfl
  have hleft : ∀ front behind : List Text, front ++ behind = b.spot.names → b.spot.names.drop front.length = behind := by
    rintro front behind h
    rw [← h, List.drop_left]
  have hdrop : b.spot.names.drop ((b.spot.names.takeWhile (· != name)).length + 1) =
      (b.spot.names.dropWhile (· != name)).tail := by
    rw [← List.drop_drop, List.drop_one, hleft _ _ List.takeWhile_append_dropWhile]
  unfold closeTo Spot.closeTo
  rw [hany, hcount]
  split
  · rw [spot_repeat_pop, hdrop]
  · rfl

theorem passages_opening (b : Builder) (name : Text) (attributes : List Attribute) :
    (b.opening name attributes).passages = b.passages ++ b.spot.flushed := by
  rw [← passages_flush]
  simp [opening, passages, framePassages, Forest.passages, Forest.reverse, Forest.reverseAppend, Forest.texts]

theorem spot_opening (b : Builder) (name : Text) (attributes : List Attribute) :
    (b.opening name attributes).spot = { b.spot with names := name :: b.spot.names, pending := none } := by
  have h := spot_flush b
  have hnames : b.flush.frames.map Frame.name = b.spot.names := congrArg Spot.names h
  have hvoids : b.flush.voids = b.spot.voids := congrArg Spot.voids h
  have hpending : b.flush.pending = none := congrArg Spot.pending h
  simp only [opening, spot, List.map_cons]
  rw [hnames, hvoids, hpending]
  rfl

theorem passages_close (b : Builder) (name : Text) : (b.close name).passages = b.passages ++ b.spot.flushed := by
  rw [close, passages_closeTo, passages_flush]

theorem spot_close (b : Builder) (name : Text) :
    (b.close name).spot = { b.spot with names := Spot.closeTo b.spot.names name, pending := none } := by
  rw [close, spot_closeTo, spot_flush]

/-! ## Tokens -/

/-- **A token moves the spot of a builder.** -/
theorem spot_step (b : Builder) (token : Token) : (b.step token).spot = b.spot.step token := by
  cases token with
  | text t => rfl
  | special kind content => exact (spot_add b.flush _).trans (spot_flush b)
  | opening name attributes =>
    simp only [step, Spot.step]
    split
    · have h := spot_close (b.opening name attributes) name
      rw [spot_opening, Spot.closeTo_cons] at h
      have hvoids : ((b.opening name attributes).close name).voids = b.spot.voids := congrArg Spot.voids h
      have hnames : ((b.opening name attributes).close name).frames.map Frame.name = b.spot.names := congrArg Spot.names h
      have hpending : ((b.opening name attributes).close name).pending = none := congrArg Spot.pending h
      rw [spot, hnames, hpending, hvoids]
    · exact spot_opening b name attributes
  | closed name attributes =>
    refine (spot_close (b.opening name attributes) name).trans ?_
    rw [spot_opening, Spot.closeTo_cons]
    rfl
  | closing name =>
    have hvoids : b.voids = b.spot.voids := rfl
    simp only [step, closeTag, Spot.step, hvoids]
    split
    · rfl
    · exact spot_close b name

/-- **The texts that a token finishes come behind those that are there.** -/
theorem passages_step (b : Builder) (token : Token) : (b.step token).passages = b.passages ++ b.spot.told token := by
  cases token with
  | text t => exact (List.append_nil _).symm
  | special kind content =>
    refine (passages_add b.flush _ (.special b.flush.next kind (tidy b.flush.keeps content) .nil)
      (reverse_special _ _ _)).trans ?_
    rw [passages_flush]
    exact List.append_nil _
  | opening name attributes =>
    have hopening := passages_opening b name attributes
    simp only [step, Spot.told]
    split
    · have hclose := passages_close (b.opening name attributes) name
      rw [hopening, spot_opening] at hclose
      exact hclose.trans (List.append_nil _)
    · exact hopening
  | closed name attributes =>
    have hclose := passages_close (b.opening name attributes) name
    rw [passages_opening, spot_opening] at hclose
    exact hclose.trans (List.append_nil _)
  | closing name =>
    have hvoids : b.voids = b.spot.voids := rfl
    simp only [step, closeTag, Spot.told, hvoids]
    split
    · exact (List.append_nil _).symm
    · exact passages_close b name

theorem spot_foldl (b : Builder) (tokens : List Token) : (tokens.foldl step b).spot = b.spot.run tokens := by
  induction tokens generalizing b with
  | nil => rfl
  | cons token tokens ih => rw [List.foldl_cons, ih, spot_step]; rfl

theorem passages_foldl (b : Builder) (tokens : List Token) :
    (tokens.foldl step b).passages = b.passages ++ b.spot.tells tokens := by
  induction tokens generalizing b with
  | nil => exact (List.append_nil _).symm
  | cons token tokens ih => rw [List.foldl_cons, ih, passages_step, spot_step, Spot.tells, List.append_assoc]

/-- **Nothing is lost in the end.** The texts of the finished nodes are the texts so far, and the one that was being read. -/
theorem passages_finish (b : Builder) : b.finish.1.passages [] = b.passages ++ b.spot.flushed := by
  have hframes : (b.flush.frames.length.repeat pop b.flush).frames.map Frame.name = [] := by
    have h := congrArg Spot.names (spot_repeat_pop b.flush.frames.length b.flush)
    have hlength : (b.flush.frames.map Frame.name).length = b.flush.frames.length := List.length_map _
    refine h.trans ?_
    rw [spot, ← hlength, List.drop_length]
  have hpassages := passages_repeat_pop b.flush.frames.length b.flush
  rw [passages, List.map_eq_nil_iff.1 hframes, framePassages, List.append_nil, passages_flush] at hpassages
  exact hpassages

/-- **What is built has the texts that its tokens tell**, in the order of the document, behind those that were there. -/
theorem passages_built (b : Builder) (tokens : List Token) :
    (tokens.foldl step b).finish.1.passages [] = b.passages ++ (b.spot.tells tokens ++ (b.spot.run tokens).flushed) := by
  rw [passages_finish, passages_foldl, spot_foldl, List.append_assoc]

end Builder

/-- **The texts of markup are told by its tokens.** -/
theorem passages_of_builds {t : Text} {tokens : List Token} (h : Builds t tokens) {first next : ℕ} {f : Forest}
    (hp : parse first t = .ok (f, next)) : f.passages [] = Spot.tells {} tokens ++ (Spot.run {} tokens).flushed := by
  let start : Builder := { next := first }
  have hbuilt : (tokens.foldl Builder.step start).finish = (f, next) := Except.ok.inj ((h.parse_eq first).symm.trans hp)
  have hall := start.passages_built tokens
  rw [hbuilt] at hall
  exact hall

end Transclude.Markup
