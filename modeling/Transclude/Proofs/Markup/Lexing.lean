/-
Reading the tags that blocks are made of.

`Reads` says that a text is read as some tokens whatever follows it, so that readings can be put one behind the other. The tags
of a block have names of small letters, and attributes with values in quotation marks and without references.

- `reads_startTag`, `reads_endTag`: such tags are read as they are written.
- `reads_enclose`: what the element around a text is read as.
-/
import Mathlib.Tactic
import Transclude.Block
import Transclude.Markup.Token.Lexer
import Transclude.Proofs.Text.Cutting

namespace Transclude.Markup

/-- a small letter of the Latin alphabet -/
def IsSmall (c : Char) : Prop := 97 ≤ c.toNat ∧ c.toNat ≤ 122

instance (c : Char) : Decidable (IsSmall c) := inferInstanceAs (Decidable (_ ∧ _))

namespace IsSmall

variable {c : Char}

theorem ne (h : IsSmall c) {d : Char} (hd : ¬ IsSmall d) : c ≠ d := fun hc => hd (hc ▸ h)

theorem isAsciiLetter (h : IsSmall c) : Text.isAsciiLetter c = true := by
  have hlow : 'a' ≤ c := Char.le_def.2 (UInt32.le_iff_toNat_le.2 h.1)
  have hhigh : c ≤ 'z' := Char.le_def.2 (UInt32.le_iff_toNat_le.2 h.2)
  simp [Text.isAsciiLetter, hlow, hhigh]

theorem not_isBlank (h : IsSmall c) : Text.isBlank c = false := by
  obtain ⟨hlow, hhigh⟩ := h
  simp only [Text.isBlank, Text.inRanges, Text.blankRanges, List.any_cons, List.any_nil, Bool.or_false, Bool.or_eq_false_iff,
    Bool.and_eq_false_iff, decide_eq_false_iff_not]
  omega

theorem isClosingChar (h : IsSmall c) : Token.isClosingChar c = true := by
  simp [Token.isClosingChar, h.isAsciiLetter]

theorem not_endsName (h : IsSmall c) : Tag.endsName c = false := by
  have hne : ∀ d : Char, ¬ IsSmall d → (c == d) = false := fun d hd => beq_eq_false_iff_ne.2 (h.ne hd)
  simp only [Tag.endsName, Bool.or_eq_false_iff]
  exact ⟨⟨⟨⟨⟨⟨⟨hne _ (by decide), hne _ (by decide)⟩, hne _ (by decide)⟩, hne _ (by decide)⟩, hne _ (by decide)⟩,
    hne _ (by decide)⟩, hne _ (by decide)⟩, hne _ (by decide)⟩

theorem not_endsAttribute (h : IsSmall c) : Tag.endsAttribute c = false := by
  have hne : ∀ d : Char, ¬ IsSmall d → (c == d) = false := fun d hd => beq_eq_false_iff_ne.2 (h.ne hd)
  simp only [Tag.endsAttribute, Bool.or_eq_false_iff]
  exact ⟨⟨⟨h.not_isBlank, hne _ (by decide)⟩, hne _ (by decide)⟩, hne _ (by decide)⟩

theorem toLower (h : IsSmall c) : c.toLower = c := by
  have hnot : ¬ (c.val ≥ 'A'.val ∧ c.val ≤ 'Z'.val) := by
    rintro ⟨-, hle⟩
    have hz : c.toNat ≤ 90 := UInt32.le_iff_toNat_le.1 hle
    have ha := h.1
    omega
  exact dif_neg hnot

end IsSmall

/-- a text of small letters is in lower case -/
theorem lower_of_small {t : Text} (h : ∀ c ∈ t, IsSmall c) : Text.lower t = t := by
  have hfrom : ∀ before, Text.lowerFrom before t = t := by
    induction t with
    | nil => exact fun _ => rfl
    | cons c t ih =>
      intro before
      have hc := h c List.mem_cons_self
      have hsmall : c.val < 0x80 := UInt32.lt_iff_toNat_lt.2 (lt_of_le_of_lt hc.2 (by decide))
      simp only [Text.lowerFrom, if_neg (hc.ne (by decide : ¬ IsSmall 'Σ')), if_neg (hc.ne (by decide : ¬ IsSmall 'İ')),
        if_pos hsmall, hc.toLower, ih (fun d hd => h d (List.mem_cons_of_mem _ hd)) (c :: before), List.singleton_append]
  exact hfrom []

/-- without an ampersand there is no reference to replace -/
theorem unescape_of_not_mem {t : Text} (h : '&' ∉ t) : unescape t = .ok t := by
  unfold unescape
  induction t with
  | nil => rfl
  | cons c t ih =>
    rw [List.mem_cons, not_or] at h
    rw [unescapeFrom, if_neg (Ne.symm h.1), ih h.2]
    rfl

namespace Token

/-! ## Putting readings together -/

variable {last : Bool}

theorem lexFrom_nil : lexFrom last none [] = .ok [] := by rw [lexFrom]

/-- reading goes on behind a construct -/
theorem lexFrom_found {c : Char} {t rest : Text} {tokens : List Token} {raw : Option Text}
    (h : read last c t = .ok (.found tokens raw rest)) :
    lexFrom last none (c :: t) = (lexFrom last raw rest).map fun more => tokens ++ more := by
  rw [lexFrom]
  split
  · rename_i e he
    rw [h] at he
    cases he
  · rename_i he
    rw [h] at he
    cases he
    rfl
  · rename_i he
    rw [h] at he
    cases he
  · rename_i he
    rw [h] at he
    cases he

/-- the text is read as these tokens, whatever follows it -/
def Reads (last : Bool) (t : Text) (tokens : List Token) : Prop :=
  ∀ rest, lexFrom last none (t ++ rest) = (lexFrom last none rest).map fun more => tokens ++ more

namespace Reads

theorem nil : Reads last [] [] := by
  intro rest
  cases h : lexFrom last none rest with
  | error e => rw [List.nil_append, h]; rfl
  | ok more => rw [List.nil_append, h]; rfl

theorem append {t u : Text} {tokens more : List Token} (ht : Reads last t tokens) (hu : Reads last u more) :
    Reads last (t ++ u) (tokens ++ more) := by
  intro rest
  rw [List.append_assoc, ht, hu]
  cases lexFrom last none rest with
  | error e => rfl
  | ok _ => simp [Except.map]

theorem of_found {c : Char} {t : Text} {tokens : List Token}
    (h : ∀ rest, read last c (t ++ rest) = .ok (.found tokens none rest)) : Reads last (c :: t) tokens := by
  intro rest
  rw [List.cons_append]
  exact lexFrom_found (h rest)

/-- a text that is read on its own -/
theorem ofText {t : Text} {tokens : List Token} (h : Reads false t tokens) : Token.ofText t = .ok tokens := by
  have hread := h []
  rw [List.append_nil, lexFrom_nil] at hread
  rw [Token.ofText, hread]
  simp [Except.map]

end Reads

/-! ## Plain tags -/

/-- a name that the tags of blocks have -/
structure PlainName (name : Text) : Prop where
  ne_nil : name ≠ []
  small : ∀ c ∈ name, IsSmall c
  not_raw : isRawElement name = false

/-- a value as it stands between quotation marks -/
structure PlainValue (value : Text) : Prop where
  not_quote : '"' ∉ value
  not_reference : '&' ∉ value

/-- an attribute as the tags of blocks have it -/
structure PlainAttribute (a : Attribute) : Prop where
  ne_nil : a.name ≠ []
  small : ∀ c ∈ a.name, IsSmall c
  value : PlainValue a.value

/-- an attribute as it is written, without the blank in front of it -/
def attributeText (a : Attribute) : Text := a.name ++ '=' :: '"' :: (a.value ++ ['"'])

/-- attributes as they are written behind the name of a tag -/
def attributesText (attributes : List Attribute) : Text := attributes.flatMap fun a => ' ' :: attributeText a

/-- a start tag as it is written -/
def startTag (name : Text) (attributes : List Attribute) : Text := '<' :: (name ++ attributesText attributes ++ ['>'])

/-- an end tag as it is written -/
def endTag (name : Text) : Text := '<' :: '/' :: (name ++ ['>'])

variable {name value rest : Text}

theorem name?_of_plain (h : PlainName name) {c : Char} (hc : Tag.endsName c = true) :
    Tag.name? (name ++ c :: rest) = some (name, c :: rest) := by
  obtain ⟨d, name, rfl⟩ := List.exists_cons_of_ne_nil h.ne_nil
  have hall : ∀ x ∈ name, (!Tag.endsName x) = true := fun x hx => by
    rw [(h.small x (List.mem_cons_of_mem _ hx)).not_endsName]
    rfl
  rw [List.cons_append, Tag.name?, if_pos (h.small d List.mem_cons_self).isAsciiLetter, List.takeWhile_append_of_pos hall,
    List.dropWhile_append_of_pos hall]
  simp [hc]

/-! ### Attributes -/

theorem value?_of_plain (h : PlainValue value) :
    Tag.value? ('=' :: '"' :: (value ++ '"' :: rest)) = some { text := value, open_ := true, rest } := by
  have hall : ∀ x ∈ value, (x != '"') = true := fun x hx => bne_iff_ne.2 fun hq => h.not_quote (hq ▸ hx)
  have hstart : ('=' :: '"' :: (value ++ '"' :: rest)).dropWhile Text.isBlank = '=' :: '"' :: (value ++ '"' :: rest) := rfl
  have hbehind : ('=' :: '"' :: (value ++ '"' :: rest)).dropWhile (· == '=') = '"' :: (value ++ '"' :: rest) := rfl
  have hinner : ('"' :: (value ++ '"' :: rest)).dropWhile Text.isBlank = '"' :: (value ++ '"' :: rest) := rfl
  simp only [Tag.value?, hstart, hbehind, hinner]
  simp [Tag.isQuote, List.takeWhile_append_of_pos hall, List.dropWhile_append_of_pos hall]

theorem attribute?_of_plain {a : Attribute} (h : PlainAttribute a) :
    Tag.attribute? (attributeText a ++ rest) = some (a.name, a.value, true, rest) := by
  obtain ⟨name, value⟩ := a
  obtain ⟨c, name, rfl⟩ := List.exists_cons_of_ne_nil h.ne_nil
  have hc := h.small c List.mem_cons_self
  have hfirst : (Text.isBlank c || c == '/' || c == '>') = false := by
    have hends := hc.not_endsAttribute
    simp only [Tag.endsAttribute, Bool.or_eq_false_iff] at hends
    simp only [hends.1.1.1, hends.1.1.2, hends.2, Bool.or_self]
  have hall : ∀ x ∈ name, (!Tag.endsAttribute x) = true := fun x hx => by
    rw [(h.small x (List.mem_cons_of_mem _ hx)).not_endsAttribute]
    rfl
  have hname : (name ++ '=' :: '"' :: (value ++ '"' :: rest)).takeWhile (!Tag.endsAttribute ·) = name := by
    rw [List.takeWhile_append_of_pos hall]
    simp [Tag.endsAttribute]
  have hrest : (name ++ '=' :: '"' :: (value ++ '"' :: rest)).dropWhile (!Tag.endsAttribute ·) =
      '=' :: '"' :: (value ++ '"' :: rest) := by
    rw [List.dropWhile_append_of_pos hall]
    simp [Tag.endsAttribute]
  have htext : attributeText ⟨c :: name, value⟩ ++ rest = c :: (name ++ '=' :: '"' :: (value ++ '"' :: rest)) := by
    simp [attributeText]
  rw [htext, Tag.attribute?]
  simp only [hfirst, Bool.false_eq_true, if_false, hname, hrest, value?_of_plain h.value]

/-- the first character of an attribute is no gap -/
theorem skipGap_attributeText {a : Attribute} (h : PlainAttribute a) :
    Tag.skipGap (attributeText a ++ rest) = attributeText a ++ rest := by
  obtain ⟨name, value⟩ := a
  obtain ⟨c, name, rfl⟩ := List.exists_cons_of_ne_nil h.ne_nil
  have hc := h.small c List.mem_cons_self
  have hgap : (Text.isBlank c || c == '/') = false := by
    rw [hc.not_isBlank, Bool.false_or]
    exact beq_eq_false_iff_ne.2 (hc.ne (by decide))
  rw [attributeText, List.append_assoc, List.cons_append, Tag.skipGap.eq_def]
  split
  · rename_i heq
    exact absurd (List.cons.inj heq).1 (hc.ne (by decide))
  · rename_i heq
    obtain ⟨rfl, rfl⟩ := List.cons.inj heq
    rw [hgap]
    rfl
  · rename_i heq
    cases heq

/-- attributes are read up to the end of their tag -/
theorem attributes_of_plain {attributes : List Attribute} {a : Attribute} (ha : PlainAttribute a)
    (h : ∀ a ∈ attributes, PlainAttribute a) :
    Tag.attributes true (attributeText a ++ (attributesText attributes ++ '>' :: rest)) =
      ((a :: attributes).map fun a => (a.name, a.value), '>' :: rest) := by
  induction attributes generalizing a with
  | nil =>
    have hend : Tag.attributes true ('>' :: rest) = ([], '>' :: rest) := by
      rw [Tag.attributes]
      rfl
    rw [Tag.attributes, if_pos rfl]
    split
    · rename_i _ _ _ _ hread
      rw [attribute?_of_plain ha] at hread
      cases hread
      have hgap : Tag.skipGap ('>' :: rest) = '>' :: rest := rfl
      simp only [attributesText, List.flatMap_nil, List.nil_append, hgap, Bool.true_or, hend, List.map_cons, List.map_nil]
    · rename_i hread
      rw [attribute?_of_plain ha] at hread
      cases hread
  | cons b attributes ih =>
    have hb := h b List.mem_cons_self
    have hmore := ih hb fun x hx => h x (List.mem_cons_of_mem _ hx)
    have htext : attributesText (b :: attributes) ++ '>' :: rest =
        ' ' :: (attributeText b ++ (attributesText attributes ++ '>' :: rest)) := by
      simp [attributesText]
    have hgap : Tag.skipGap (' ' :: (attributeText b ++ (attributesText attributes ++ '>' :: rest))) =
        attributeText b ++ (attributesText attributes ++ '>' :: rest) :=
      skipGap_attributeText hb
    rw [Tag.attributes, if_pos rfl]
    split
    · rename_i _ _ _ _ hread
      rw [attribute?_of_plain ha] at hread
      cases hread
      rw [htext, hgap]
      simp only [Bool.true_or, hmore, List.map_cons]
    · rename_i hread
      rw [attribute?_of_plain ha] at hread
      cases hread

/-- of attributes with different names each is kept -/
theorem settle_of_plain {attributes : List Attribute} (h : ∀ a ∈ attributes, PlainAttribute a)
    (hnames : (attributes.map Attribute.name).Nodup) :
    Tag.settle (attributes.map fun a => (a.name, a.value)) = .ok attributes := by
  let step (done : List Attribute) (written : Text × Text) : Except DigitLimit (List Attribute) := do
    let a : Attribute := { name := Text.lower written.1, value := ← unescape written.2 }
    return if done.any (·.name == a.name) then done.map fun b => if b.name = a.name then a else b else done ++ [a]
  have hstep : ∀ done, (∀ a ∈ attributes, ∀ b ∈ done, b.name ≠ a.name) →
      (attributes.map fun a => (a.name, a.value)).foldlM step done = .ok (done ++ attributes) := by
    induction attributes with
    | nil => exact fun done _ => by rw [List.append_nil]; rfl
    | cons a attributes ih =>
      intro done hdone
      obtain ⟨hfirst, hrest⟩ := List.nodup_cons.1 hnames
      have ha := h a List.mem_cons_self
      have hnew : done.any (·.name == a.name) = false :=
        List.any_eq_false.2 fun b hb => by simpa using hdone a List.mem_cons_self b hb
      have hone : step done (a.name, a.value) = .ok (done ++ [a]) := by
        simp only [step, unescape_of_not_mem ha.value.not_reference, lower_of_small ha.small, bind, Except.bind, pure,
          Except.pure, hnew, Bool.false_eq_true, if_false]
      rw [List.map_cons, List.foldlM_cons, hone]
      refine (ih (fun x hx => h x (List.mem_cons_of_mem _ hx)) hrest (done ++ [a]) fun x hx b hb => ?_).trans
        (by rw [List.append_assoc]; rfl)
      rcases List.mem_append.1 hb with hb | hb
      · exact hdone x (List.mem_cons_of_mem _ hx) b hb
      · rw [List.mem_singleton.1 hb]
        exact fun hn => hfirst (hn ▸ List.mem_map_of_mem hx)
  exact hstep [] fun _ _ _ hb => absurd hb List.not_mem_nil

/-! ### Whole tags -/

theorem readOpening_of_plain {attributes : List Attribute} (hn : PlainName name) (h : ∀ a ∈ attributes, PlainAttribute a)
    (hnames : (attributes.map Attribute.name).Nodup) :
    readOpening (name ++ (attributesText attributes ++ '>' :: rest)) =
      .ok (.found [.opening name attributes] none rest) := by
  have hsettle := settle_of_plain h hnames
  cases attributes with
  | nil =>
    have hname : Tag.name? (name ++ (attributesText [] ++ '>' :: rest)) = some (name, '>' :: rest) := name?_of_plain hn rfl
    have hgap : Tag.skipGap ('>' :: rest) = '>' :: rest := rfl
    have hquote : (name.getLast?.map Tag.isQuote).getD false = false := by
      cases hl : name.getLast? with
      | none => rfl
      | some c =>
        have hc := hn.small c (List.mem_of_getLast? hl)
        simp [Tag.isQuote, hc.ne (d := '\'') (by decide), hc.ne (d := '"') (by decide)]
    have hnone : Tag.attributes false ('>' :: rest) = ([], '>' :: rest) := by
      rw [Tag.attributes]
      rfl
    simp only [readOpening, hname, hgap, lt_irrefl, decide_false, hquote, Bool.or_self, hnone]
    rw [List.map_nil] at hsettle
    simp only [hsettle, lower_of_small hn.small, hn.not_raw, Bool.false_eq_true, if_false]
    rfl
  | cons a attributes =>
    have ha := h a List.mem_cons_self
    have hread : Tag.attributes true (attributeText a ++ (attributesText attributes ++ '>' :: rest)) = _ :=
      attributes_of_plain ha fun x hx => h x (List.mem_cons_of_mem _ hx)
    have htext : attributesText (a :: attributes) ++ '>' :: rest =
        ' ' :: (attributeText a ++ (attributesText attributes ++ '>' :: rest)) := by
      simp [attributesText]
    generalize hbehind : attributeText a ++ (attributesText attributes ++ '>' :: rest) = behind at htext hread
    have hname : Tag.name? (name ++ ' ' :: behind) = some (name, ' ' :: behind) := name?_of_plain hn rfl
    have hgap : Tag.skipGap (' ' :: behind) = behind := hbehind ▸ skipGap_attributeText ha
    have hshorter : behind.length < (' ' :: behind).length := Nat.lt_succ_self _
    rw [htext]
    simp only [readOpening, hname, hgap, hshorter, decide_true, Bool.true_or, hread, hsettle, lower_of_small hn.small,
      hn.not_raw, Bool.false_eq_true, if_false]
    rfl

/-- **A start tag is read as it is written.** -/
theorem reads_startTag {attributes : List Attribute} (hn : PlainName name) (h : ∀ a ∈ attributes, PlainAttribute a)
    (hnames : (attributes.map Attribute.name).Nodup) :
    Reads last (startTag name attributes) [.opening name attributes] := by
  refine .of_found fun rest => ?_
  have htext : name ++ attributesText attributes ++ ['>'] ++ rest = name ++ (attributesText attributes ++ '>' :: rest) := by
    simp
  -- a small letter behind the angle bracket starts a start tag and nothing else
  have hangle : ∀ u, readAngle (name ++ u) = readOpening (name ++ u) := fun u => by
    obtain ⟨c, name, rfl⟩ := List.exists_cons_of_ne_nil hn.ne_nil
    have hc := hn.small c List.mem_cons_self
    have hslash := hc.ne (d := '/') (by decide)
    have hbang := hc.ne (d := '!') (by decide)
    have hmark := hc.ne (d := '?') (by decide)
    rw [readAngle.eq_def]
    split <;> simp_all
  rw [read, if_pos rfl, htext, hangle, readOpening_of_plain hn h hnames]
  rfl

theorem plainClosing?_of_plain (hn : PlainName name) : plainClosing? (name ++ '>' :: rest) = some (name, rest) := by
  obtain ⟨c, name, rfl⟩ := List.exists_cons_of_ne_nil hn.ne_nil
  have hc := hn.small c List.mem_cons_self
  have hall : ∀ x ∈ name, isClosingChar x = true := fun x hx => (hn.small x (List.mem_cons_of_mem _ hx)).isClosingChar
  have hstart : (c :: (name ++ '>' :: rest)).dropWhile Text.isBlank = c :: (name ++ '>' :: rest) := by
    rw [List.dropWhile_cons_of_neg (by simp [hc.not_isBlank])]
  have hrest : ((name ++ '>' :: rest).dropWhile isClosingChar).dropWhile Text.isBlank = '>' :: rest := by
    rw [List.dropWhile_append_of_pos hall]
    rfl
  have hname : (name ++ '>' :: rest).takeWhile isClosingChar = name := by
    rw [List.takeWhile_append_of_pos hall]
    simp [show isClosingChar '>' = false from rfl]
  rw [List.cons_append, plainClosing?, hstart]
  simp only [hc.isAsciiLetter, if_true, hrest, hname]

/-- **An end tag is read as it is written.** -/
theorem reads_endTag (hn : PlainName name) : Reads last (endTag name) [.closing name] := by
  refine .of_found fun rest => ?_
  have hclosing : readClosing (name ++ '>' :: rest) = .found [.closing name] none rest := by
    have hnot : '>' ∉ name := fun hm => absurd (hn.small _ hm) (by decide)
    rw [readClosing, Text.upTo?_append rest hnot]
    simp only [plainClosing?_of_plain hn, lower_of_small hn.small]
  have htext : '/' :: (name ++ ['>']) ++ rest = '/' :: (name ++ '>' :: rest) := by simp
  rw [htext, read, if_pos rfl, readAngle, hclosing]
  rfl

theorem plainName_div : PlainName "div".toList := ⟨by decide, by simp [IsSmall], rfl⟩

theorem plainName_span : PlainName "span".toList := ⟨by decide, by simp [IsSmall], rfl⟩

theorem plainName_pre : PlainName "pre".toList := ⟨by decide, by simp [IsSmall], rfl⟩

theorem plainName_code : PlainName "code".toList := ⟨by decide, by simp [IsSmall], rfl⟩

/-- the element of a block is its tags around its content -/
theorem enclose_eq (tag cssClass : String) (content : Text) :
    Block.enclose tag cssClass content =
      startTag tag.toList [⟨"class".toList, cssClass.toList⟩] ++ content ++ endTag tag.toList := by
  simp [Block.enclose, startTag, attributesText, attributeText, endTag]

theorem plainAttribute_class (h : PlainValue value) : PlainAttribute ⟨"class".toList, value⟩ :=
  ⟨List.cons_ne_nil _ _, by simp [IsSmall], h⟩

/-- **The element around a text.** It is read as its tags, around what the text is read as. -/
theorem reads_enclose {tag cssClass : String} {content : Text} {tokens : List Token} (hn : PlainName tag.toList)
    (hv : PlainValue cssClass.toList) (h : Reads last content tokens) :
    Reads last (Block.enclose tag cssClass content)
      (.opening tag.toList [⟨"class".toList, cssClass.toList⟩] :: tokens ++ [.closing tag.toList]) := by
  have hopening : Reads last (startTag tag.toList [⟨"class".toList, cssClass.toList⟩])
      [.opening tag.toList [⟨"class".toList, cssClass.toList⟩]] :=
    reads_startTag hn (by simpa using plainAttribute_class hv) (by simp)
  rw [enclose_eq]
  exact (hopening.append h).append (reads_endTag hn)

end Token

end Transclude.Markup
