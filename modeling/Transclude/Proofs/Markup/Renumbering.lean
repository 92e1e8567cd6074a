/-
Markup without its numbers.

Numbers tell nodes apart, and nothing else hangs on them: markup that is read from a later number on is the same with later
numbers (`parse_add`), and it is printed the same (`print_renumber`). So forests are compared by `Alike`, which forgets the numbers
of nodes that came later.

- `nodesOf_add`: pieces become the same nodes from every number on.
- `substitute_alike`: forests are alike where what is put into the places of their texts is.
-/
import Transclude.Proofs.Document

namespace Transclude.Markup

namespace Forest

/-- the forest with other numbers -/
def renumber (g : ℕ → ℕ) : Forest → Forest
  | nil => nil
  | text id content next => text (g id) content (next.renumber g)
  | special id kind content next => special (g id) kind content (next.renumber g)
  | element id name attributes children next => element (g id) name attributes (children.renumber g) (next.renumber g)

variable {g h : ℕ → ℕ}

@[simp]
theorem renumber_append (g : ℕ → ℕ) (f f' : Forest) : (f ++ f').renumber g = f.renumber g ++ f'.renumber g := by
  induction f with
  | nil => rfl
  | text id content next ih => simp [renumber, ih]
  | special id kind content next ih => simp [renumber, ih]
  | element id name attributes children next _ ih => simp [renumber, ih]

theorem renumber_reverseAppend (g : ℕ → ℕ) (f f' : Forest) :
    (f.reverseAppend f').renumber g = (f.renumber g).reverseAppend (f'.renumber g) := by
  induction f generalizing f' with
  | nil => rfl
  | text id content next ih => exact ih _
  | special id kind content next ih => exact ih _
  | element id name attributes children next _ ih => exact ih _

theorem renumber_reverse (g : ℕ → ℕ) (f : Forest) : f.reverse.renumber g = (f.renumber g).reverse := renumber_reverseAppend g f nil

theorem renumber_renumber (g h : ℕ → ℕ) (f : Forest) : (f.renumber g).renumber h = f.renumber fun n => h (g n) := by
  induction f with
  | nil => rfl
  | text id content next ih => simp only [renumber, ih]
  | special id kind content next ih => simp only [renumber, ih]
  | element id name attributes children next ihc ih => simp only [renumber, ihc, ih]

theorem renumber_congr {f : Forest} (heq : ∀ n ∈ f.numbers, g n = h n) : f.renumber g = f.renumber h := by
  induction f with
  | nil => rfl
  | text id content next ih =>
    obtain ⟨hid, hnext⟩ := List.forall_mem_cons.1 heq
    rw [renumber, renumber, hid, ih hnext]
  | special id kind content next ih =>
    obtain ⟨hid, hnext⟩ := List.forall_mem_cons.1 heq
    rw [renumber, renumber, hid, ih hnext]
  | element id name attributes children next ihc ih =>
    obtain ⟨hid, hboth⟩ := List.forall_mem_cons.1 heq
    obtain ⟨hchildren, hnext⟩ := List.forall_mem_append.1 hboth
    rw [renumber, renumber, hid, ihc hchildren, ih hnext]

/-- numbers do not show in print -/
theorem print_renumber (g : ℕ → ℕ) (parent : Text) (f : Forest) : (f.renumber g).print parent = f.print parent := by
  induction f generalizing parent with
  | nil => rfl
  | text id content next ih => simp only [renumber, print, ih]
  | special id kind content next ih => simp only [renumber, print, ih]
  | element id name attributes children next ihc ih =>
    cases children with
    | nil => simp only [renumber, print, ih]
    | text id content more => simp only [renumber, print, ih] at ihc ⊢; rw [ihc]
    | special id kind content more => simp only [renumber, print, ih] at ihc ⊢; rw [ihc]
    | element id name attributes inside more => simp only [renumber, print, ih] at ihc ⊢; rw [ihc]

/-! ## Later nodes -/

/-- the same nodes, but for the numbers of those that came later -/
def Alike (next : ℕ) (f f' : Forest) : Prop := f.renumber (min next) = f'.renumber (min next)

theorem Alike.print_eq {next : ℕ} {f f' : Forest} (h : Alike next f f') (parent : Text) : f.print parent = f'.print parent := by
  rw [← print_renumber (min next), h, print_renumber]

/-- what is put in is renumbered where it is put in, if the forest around it keeps its numbers -/
theorem renumber_substitute {new : ℕ → Option Forest} {f : Forest} (hf : ∀ n ∈ f.numbers, g n = n) :
    (f.substitute new).renumber g = f.substitute fun id => (new id).map (renumber g) := by
  induction f with
  | nil => rfl
  | text id content next ih =>
    obtain ⟨hid, hnext⟩ := List.forall_mem_cons.1 hf
    rw [substitute, substitute]
    cases new id with
    | some nodes => simp only [Option.map_some, renumber_append, ih hnext]
    | none => simp only [Option.map_none, renumber, hid, ih hnext]
  | special id kind content next ih =>
    obtain ⟨hid, hnext⟩ := List.forall_mem_cons.1 hf
    rw [substitute, substitute, renumber, hid, ih hnext]
  | element id name attributes children next ihc ih =>
    obtain ⟨hid, hboth⟩ := List.forall_mem_cons.1 hf
    obtain ⟨hchildren, hnext⟩ := List.forall_mem_append.1 hboth
    rw [substitute, substitute, renumber, hid, ihc hchildren, ih hnext]

/-- **Forests are alike where what is put into the places of their texts is.** -/
theorem substitute_alike {new new' : ℕ → Option Forest} {next : ℕ} {f : Forest} (hf : ∀ n ∈ f.numbers, n < next)
    (hnew : ∀ id, (new id).map (renumber (min next)) = (new' id).map (renumber (min next))) :
    Alike next (f.substitute new) (f.substitute new') := by
  have hkeep : ∀ n ∈ f.numbers, min next n = n := fun n hn => min_eq_right (hf n hn).le
  rw [Alike, renumber_substitute hkeep, renumber_substitute hkeep]
  exact congrArg f.substitute (funext hnew)

/-- replacing texts and then others is replacing all of them, if no text that was put in is replaced -/
theorem substitute_substitute {new more : ℕ → Option Forest} {f : Forest}
    (h : ∀ id nodes, new id = some nodes → ∀ n ∈ nodes.numbers, more n = none) :
    (f.substitute new).substitute more = f.substitute fun id => (new id).or (more id) := by
  induction f with
  | nil => rfl
  | text id content next ih =>
    rw [substitute, substitute]
    cases hid : new id with
    | some nodes => simp only [substitute_append, substitute_of_forall (h id nodes hid), ih, Option.some_or]
    | none => simp only [substitute, ih, Option.none_or]
  | special id kind content next ih => rw [substitute, substitute, substitute, ih]
  | element id name attributes children next ihc ih => rw [substitute, substitute, substitute, ihc, ih]

end Forest

/-! ## Reading from a later number on -/

/-- an open element with later numbers -/
def Frame.later (k : ℕ) (f : Frame) : Frame := { f with id := f.id + k, children := f.children.renumber (· + k) }

namespace Builder

/-- the document under construction with later numbers -/
def later (k : ℕ) (b : Builder) : Builder :=
  { b with next := b.next + k, frames := b.frames.map (Frame.later k), top := b.top.renumber (· + k) }

variable (k : ℕ) (b : Builder)

theorem keeps_later : (b.later k).keeps = b.keeps := by
  simp only [keeps, later, List.any_map]
  rfl

theorem add_later (node node' : Forest → Forest) (h : ∀ f, node' (f.renumber (· + k)) = (node f).renumber (· + k)) :
    (b.later k).add node' = (b.add node).later k := by
  unfold add
  cases hf : b.frames with
  | nil => simp only [later, hf, List.map_nil, h]
  | cons frame frames => simp only [later, hf, List.map_cons, Frame.later, h]

theorem flush_later : (b.later k).flush = b.flush.later k := by
  unfold flush
  cases hp : b.pending with
  | none => simp only [later, hp]
  | some t =>
    have hadd := add_later k b (.text b.next (tidy b.keeps t)) (.text (b.next + k) (tidy b.keeps t)) fun _ => rfl
    have hpending : (b.later k).pending = some t := hp
    simp only [hpending, keeps_later]
    rw [show (b.later k).next = b.next + k from rfl, hadd]
    simp only [later, Nat.add_right_comm]

theorem pop_later : (b.later k).pop = b.pop.later k := by
  unfold pop
  cases hf : b.frames with
  | nil => simp only [later, hf, List.map_nil]
  | cons frame frames =>
    have hframes : (b.later k).frames = frame.later k :: frames.map (Frame.later k) := by rw [later, hf, List.map_cons]
    simp only [hframes]
    exact add_later k { b with frames } _ _ fun f => by
      simp only [Frame.later, Forest.renumber, Forest.renumber_reverse]

theorem repeat_pop_later (n : ℕ) : n.repeat pop (b.later k) = (n.repeat pop b).later k := by
  induction n with
  | zero => rfl
  | succ n ih => rw [Nat.repeat, Nat.repeat, ih, pop_later]

theorem close_later (name : Text) : (b.later k).close name = (b.close name).later k := by
  have hany : ∀ b : Builder, (b.later k).frames.any (·.name == name) = b.frames.any (·.name == name) := fun b => by
    simp only [later, List.any_map]
    rfl
  have hcount : ∀ b : Builder, ((b.later k).frames.takeWhile (·.name != name)).length =
      (b.frames.takeWhile (·.name != name)).length := fun b => by
    simp only [later, List.takeWhile_map, List.length_map]
    rfl
  rw [close, close, flush_later]
  simp only [closeTo, hany, hcount, repeat_pop_later]
  split <;> rfl

theorem closeTag_later (name : Text) : (b.later k).closeTag name = (b.closeTag name).later k := by
  unfold closeTag
  rw [show (b.later k).voids = b.voids from rfl]
  split
  · rfl
  · exact close_later k b name

theorem opening_later (name : Text) (attributes : List Attribute) :
    (b.later k).opening name attributes = (b.opening name attributes).later k := by
  simp only [opening, flush_later]
  simp only [later, List.map_cons, Frame.later, Forest.renumber, Nat.add_right_comm]

theorem step_later (token : Token) : (b.later k).step token = (b.step token).later k := by
  cases token with
  | text t => rfl
  | special kind content =>
    simp only [step, flush_later, keeps_later]
    have hadd := add_later k b.flush (.special b.flush.next kind (tidy b.flush.keeps content))
      (.special (b.flush.next + k) kind (tidy b.flush.keeps content)) fun _ => rfl
    rw [show (b.flush.later k).next = b.flush.next + k from rfl, hadd]
    simp only [later, Nat.add_right_comm]
  | opening name attributes =>
    simp only [step, opening_later]
    split
    · rw [close_later]
      rfl
    · rfl
  | closed name attributes => simp only [step, opening_later, close_later]
  | closing name => exact closeTag_later k b name

theorem foldl_step_later (tokens : List Token) : tokens.foldl step (b.later k) = (tokens.foldl step b).later k := by
  induction tokens generalizing b with
  | nil => rfl
  | cons token tokens ih => rw [List.foldl_cons, List.foldl_cons, step_later, ih]

theorem finish_later : (b.later k).finish = (b.finish.1.renumber (· + k), b.finish.2 + k) := by
  have hlen : (b.flush.later k).frames.length = b.flush.frames.length := List.length_map _
  simp only [finish, flush_later, hlen, repeat_pop_later]
  rw [Forest.renumber_reverse]
  rfl

end Builder

/-- nodes with later numbers, and the number of the node after them -/
def later (k : ℕ) (nodes : Forest × ℕ) : Forest × ℕ := (nodes.1.renumber (· + k), nodes.2 + k)

/-- **Markup that is read from a later number on is the same with later numbers.** -/
theorem parse_add (first k : ℕ) (t : Text) : parse (first + k) t = (parse first t).map (later k) := by
  unfold parse
  cases Token.ofText t with
  | error e => rfl
  | ok tokens =>
    have hstart : ({ next := first + k } : Builder) = Builder.later k { next := first } := rfl
    simp only [Except.map]
    rw [hstart, Builder.foldl_step_later, Builder.finish_later]
    rfl

end Transclude.Markup

namespace Transclude.Document

open Markup (Forest later)

theorem nodes_add (first k : ℕ) (p : Piece) : p.nodes (first + k) = (p.nodes first).map (later k) := by
  cases p with
  | text content => exact congrArg Except.ok (Prod.ext rfl (Nat.add_right_comm first k 1))
  | markup source =>
    rw [Piece.nodes, Piece.nodes, Markup.parse_add]
    cases Markup.parse first source <;> rfl
  | foreign typeName => rfl

/-- **Pieces become the same nodes from every number on.** -/
theorem nodesOf_add (first k : ℕ) (pieces : List Piece) : nodesOf (first + k) pieces = (nodesOf first pieces).map (later k) := by
  induction pieces generalizing first with
  | nil => rfl
  | cons p pieces ih =>
    rw [nodesOf, nodesOf, nodes_add]
    cases p.nodes first with
    | error refusal => rfl
    | ok here =>
      have hrest := ih here.2
      simp only [Except.map, bind, Except.bind, later, hrest]
      cases nodesOf here.2 pieces with
      | error refusal => rfl
      | ok rest => simp only [pure, Except.pure, Forest.renumber_append]

/-- nodes that came later are alike, whatever they were numbered from -/
theorem alike_nodesOf {first first' next : ℕ} {pieces : List Piece} {nodes nodes' : Forest × ℕ} (hle : next ≤ first)
    (hle' : next ≤ first') (h : nodesOf first pieces = .ok nodes) (h' : nodesOf first' pieces = .ok nodes') :
    Forest.Alike next nodes.1 nodes'.1 := by
  wlog hfirst : first ≤ first' generalizing first first' nodes nodes'
  · exact (this hle' hle h' h (Nat.le_of_not_le hfirst)).symm
  obtain ⟨k, rfl⟩ := Nat.exists_eq_add_of_le hfirst
  rw [nodesOf_add, h] at h'
  obtain rfl := Except.ok.inj h'
  have hfresh := fresh_nodesOf h
  rw [Forest.Alike, later, Forest.renumber_renumber]
  refine Forest.renumber_congr fun n hn => ?_
  have := (hfresh.range n hn).1
  omega

end Transclude.Document
