/-
What is built of markup that is put together from texts.

The lexer makes one token of plain characters in a row, so the tokens of two texts behind each other are not the tokens of each.
What is built of them is: texts that follow each other become one node in any case. `build` reads a text and builds on what is
there, and `Builds` says which tokens a text amounts to, wherever it stands.

- `builds_plain`: a plain character amounts to itself, whether the lexer cuts behind it or not.
- `builds_escaped`: escaped text amounts to the text.
- `builds_enclose`: the element around a text amounts to its tags, around what the text amounts to.
-/
import Transclude.Markup.Builder
import Transclude.Markup.Escape
import Transclude.Proofs.Markup.Lexing

namespace Transclude.Markup

open Token (Reads PlainName PlainValue PlainAttribute startTag endTag pieces)

/-- reads a text and builds on what is there -/
def build (last : Bool) (b : Builder) (t : Text) : Except Error Builder :=
  (Token.lexFrom last none t).map fun tokens => tokens.foldl Builder.step b

theorem parse_eq_build (first : ℕ) (t : Text) : parse first t = (build false { next := first } t).map Builder.finish := by
  rw [parse, build, Token.ofText]
  cases Token.lexFrom false none t with
  | error e => rfl
  | ok tokens => rfl

theorem build_nil (last : Bool) (b : Builder) : build last b [] = .ok b := by
  rw [build, Token.lexFrom_nil]
  rfl

/-- whatever is there and whatever follows, the text amounts to these tokens -/
def Builds (t : Text) (tokens : List Token) : Prop :=
  ∀ last b rest, build last b (t ++ rest) = build last (tokens.foldl Builder.step b) rest

namespace Builds

theorem nil : Builds [] [] := fun _ _ _ => rfl

theorem append {t u : Text} {tokens more : List Token} (ht : Builds t tokens) (hu : Builds u more) :
    Builds (t ++ u) (tokens ++ more) := by
  intro last b rest
  rw [List.append_assoc, ht, hu, List.foldl_append]

theorem of_reads {t : Text} {tokens : List Token} (h : ∀ last, Reads last t tokens) : Builds t tokens := by
  intro last b rest
  rw [build, h last rest, build]
  cases Token.lexFrom last none rest with
  | error e => rfl
  | ok more => simp only [Except.map, List.foldl_append]

/-- a text that is built on its own -/
theorem parse_eq {t : Text} {tokens : List Token} (h : Builds t tokens) (first : ℕ) :
    parse first t = .ok (tokens.foldl Builder.step { next := first }).finish := by
  have hread := h false { next := first } []
  rw [List.append_nil, build_nil] at hread
  rw [parse_eq_build, hread]
  rfl

end Builds

/-! ## Characters -/

/-- neighbouring texts are one text -/
theorem step_text_text (b : Builder) (t u : Text) : (b.step (.text t)).step (.text u) = b.step (.text (t ++ u)) := by
  simp [Builder.step]

/-- a character that starts no construct -/
def isPlain (c : Char) : Bool := !(c == '<' || c == '&')

theorem isPlain_iff {c : Char} : isPlain c = true ↔ c ≠ '<' ∧ c ≠ '&' := by simp [isPlain]

theorem read_plain {last : Bool} {c : Char} (t : Text) (hc : isPlain c = true) :
    Token.read last c t = .ok (.found [.text (c :: t.takeWhile isPlain)] none (t.dropWhile isPlain)) := by
  obtain ⟨hlt, hamp⟩ := isPlain_iff.1 hc
  rw [Token.read, if_neg hlt, if_neg hamp]
  rfl

/-- **A plain character amounts to itself**, also in front of others that are read in one token with it. -/
theorem builds_plain {c : Char} (hc : isPlain c = true) : Builds [c] [.text [c]] := by
  intro last b rest
  rw [List.singleton_append, build, Token.lexFrom_found (read_plain rest hc), build]
  cases rest with
  | nil => rw [List.takeWhile_nil, List.dropWhile_nil, Token.lexFrom_nil]; rfl
  | cons d rest =>
    by_cases hd : isPlain d = true
    · rw [Token.lexFrom_found (read_plain rest hd), List.takeWhile_cons_of_pos hd, List.dropWhile_cons_of_pos hd]
      cases Token.lexFrom last none (rest.dropWhile isPlain) with
      | error e => rfl
      | ok more =>
        simp only [Except.map, List.foldl_cons, List.foldl_nil, step_text_text, List.singleton_append]
    · rw [List.takeWhile_cons_of_neg hd, List.dropWhile_cons_of_neg hd]
      cases Token.lexFrom last none (d :: rest) with
      | error e => rfl
      | ok more => rfl

/-- a reference by name is read as the text of the name -/
theorem reads_named {last : Bool} (name : Text) {shown : Text} (hne : name ≠ []) (hsmall : ∀ x ∈ name, IsSmall x)
    (h : named? name = some shown) : Reads last ('&' :: (name ++ [';'])) [.text shown] := by
  refine .of_found fun rest => ?_
  obtain ⟨d, name, rfl⟩ := List.exists_cons_of_ne_nil hne
  have hall : ∀ x ∈ d :: name, Token.isReferenceChar x = true := fun x hx => by
    simp [Token.isReferenceChar, (hsmall x hx).isAsciiLetter]
  have hrun : ((d :: name) ++ ';' :: rest).takeWhile Token.isReferenceChar = d :: name := by
    rw [List.takeWhile_append_of_pos hall]
    simp [show Token.isReferenceChar ';' = false from rfl]
  have hname : Token.referenceName? ((d :: name) ++ ';' :: rest) = some (d :: name) := by
    rw [Token.referenceName?, hrun]
    simp
  have htext : d :: name ++ [';'] ++ rest = (d :: name) ++ ';' :: rest := by simp
  have hhash : d ≠ '#' := (hsmall d List.mem_cons_self).ne (by decide)
  rw [htext, Token.read, if_neg (by decide), if_pos rfl, List.cons_append, Token.readAmpersand.eq_def]
  split
  · rename_i heq
    exact absurd (List.cons.inj heq).1 hhash
  · rename_i heq
    obtain ⟨rfl, rfl⟩ := List.cons.inj heq
    rw [← List.cons_append, hname, if_pos (hsmall d List.mem_cons_self).isAsciiLetter]
    simp only [h, Option.getD_some, List.drop_left, skipSemicolon]
  · rename_i heq
    cases heq

theorem builds_reference {name : String} {c : Char} (h : (name, c) ∈ Escaping.references) :
    Builds ('&' :: (name.toList ++ [';'])) [.text [c]] := by
  have named (name : String) {c : Char} (hne : name.toList ≠ []) (hsmall : ∀ x ∈ name.toList, IsSmall x)
      (h : named? name.toList = some [c]) : Builds ('&' :: (name.toList ++ [';'])) [.text [c]] :=
    .of_reads fun _ => reads_named name.toList hne hsmall h
  simp only [Escaping.references, List.mem_cons, Prod.mk.injEq, List.not_mem_nil, or_false] at h
  rcases h with ⟨rfl, rfl⟩ | ⟨rfl, rfl⟩ | ⟨rfl, rfl⟩ | ⟨rfl, rfl⟩ | ⟨rfl, rfl⟩ | ⟨rfl, rfl⟩ | ⟨rfl, rfl⟩ | ⟨rfl, rfl⟩ | ⟨rfl, rfl⟩
  · exact named "amp" (by decide) (by simp [IsSmall]) (by decide +kernel)
  · exact named "lt" (by decide) (by simp [IsSmall]) (by decide +kernel)
  · exact named "gt" (by decide) (by simp [IsSmall]) (by decide +kernel)
  · exact named "quot" (by decide) (by simp [IsSmall]) (by decide +kernel)
  · exact .of_reads fun _ => .of_found fun _ => rfl
  · exact .of_reads fun _ => .of_found fun _ => rfl
  · exact named "apos" (by decide) (by simp [IsSmall]) (by decide +kernel)
  · exact .of_reads fun _ => .of_found fun _ => rfl
  · exact .of_reads fun _ => .of_found fun _ => rfl

theorem builds_escapedChar (e : Escaping) (c : Char) : Builds (e.char c) [.text [c]] := by
  rcases e.char_eq_or_exists_reference c with ⟨hamp, hlt, hchar⟩ | ⟨name, hname, hchar⟩
  · rw [hchar]
    exact builds_plain (isPlain_iff.2 ⟨hlt, hamp⟩)
  · rw [hchar]
    exact builds_reference hname

/-! ## Escaped text -/

theorem foldl_pieces_cons (b : Builder) (c : Char) (t : Text) :
    (pieces t).foldl Builder.step (b.step (.text [c])) = (pieces (c :: t)).foldl Builder.step b := by
  unfold pieces
  split
  · rename_i ht
    subst ht
    rfl
  · rw [if_neg (List.cons_ne_nil c t)]
    exact step_text_text b [c] t

/-- text that is written character by character amounts to the text -/
theorem builds_flatMap {f : Char → Text} {t : Text} (h : ∀ c ∈ t, Builds (f c) [.text [c]]) :
    Builds (t.flatMap f) (pieces t) := by
  induction t with
  | nil => exact .nil
  | cons c t ih =>
    intro last b rest
    have hrest := ih fun d hd => h d (List.mem_cons_of_mem c hd)
    rw [List.flatMap_cons, List.append_assoc, h c List.mem_cons_self, hrest, List.foldl_cons, List.foldl_nil,
      foldl_pieces_cons]

/-- plain text amounts to itself -/
theorem builds_of_plain {t : Text} (h : ∀ c ∈ t, isPlain c = true) : Builds t (pieces t) := by
  have hall := builds_flatMap fun c hc => builds_plain (h c hc)
  rwa [List.flatMap_singleton'] at hall

/-- **Escaped text amounts to the text**, whatever is done with quotation marks. -/
theorem builds_escaped (e : Escaping) (t : Text) : Builds (e.text t) (pieces t) :=
  builds_flatMap fun c _ => builds_escapedChar e c

/-! ## Elements -/

theorem builds_startTag {name : Text} {attributes : List Attribute} (hn : PlainName name)
    (h : ∀ a ∈ attributes, PlainAttribute a) (hnames : (attributes.map Attribute.name).Nodup) :
    Builds (startTag name attributes) [.opening name attributes] :=
  .of_reads fun _ => Token.reads_startTag hn h hnames

theorem builds_endTag {name : Text} (hn : PlainName name) : Builds (endTag name) [.closing name] :=
  .of_reads fun _ => Token.reads_endTag hn

/-- an element amounts to its tags, around what its content amounts to -/
theorem builds_element {name content : Text} {attributes : List Attribute} {tokens : List Token} (hn : PlainName name)
    (h : ∀ a ∈ attributes, PlainAttribute a) (hnames : (attributes.map Attribute.name).Nodup) (hc : Builds content tokens) :
    Builds (startTag name attributes ++ content ++ endTag name) (.opening name attributes :: tokens ++ [.closing name]) :=
  ((builds_startTag hn h hnames).append hc).append (builds_endTag hn)

theorem builds_enclose {tag cssClass : String} {content : Text} {tokens : List Token} (hn : PlainName tag.toList)
    (hv : PlainValue cssClass.toList) (h : Builds content tokens) :
    Builds (Block.enclose tag cssClass content)
      (.opening tag.toList [⟨"class".toList, cssClass.toList⟩] :: tokens ++ [.closing tag.toList]) := by
  rw [Token.enclose_eq]
  exact builds_element hn (by simpa using Token.plainAttribute_class hv) (by simp) h

end Transclude.Markup
