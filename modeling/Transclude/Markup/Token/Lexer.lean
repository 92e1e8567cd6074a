/-
Markup as a sequence of tokens.

The text is read from left to right, one construct at a time: text up to the next `<` or `&`, a tag, a comment or the like,
or a character reference. The content of a script or a style sheet is one text up to its end tag, and is lost without one.

A construct that is cut off by the end of the text makes reading start over at its place for a last time; there, what is
cut off counts as text. `Reading` tells these outcomes apart, and `read_length_le` is why reading ends.
-/
import Transclude.Markup.Token.Tag

namespace Transclude.Markup.Token

/-- what the construct at the front of a text comes to -/
inductive Reading where
  /-- tokens; the element whose raw content follows, if any; and what is left -/
  | found (tokens : List Token) (raw : Option Text) (rest : Text)
  /-- the text ends inside the construct -/
  | unfinished
  /-- reading does not go on here; what is left may be read once more -/
  | halted (tokens : List Token) (rest : Text)

/-! ## Raw content -/

/-- elements whose content is raw text -/
def isRawElement (name : Text) : Bool := name == "script".toList || name == "style".toList

/-- letters that count as the lower-case letter `letter` when case is ignored -/
def sameLetter (letter c : Char) : Bool :=
  c.toLower == letter || (letter == 'i' && (c == 'İ' || c == 'ı')) || (letter == 's' && c == 'ſ')

/-- what follows the name of an end tag, when case is ignored -/
def afterName? : Text → Text → Option Text
  | [], t => some t
  | _ :: _, [] => none
  | n :: name, c :: t => if sameLetter n c then afterName? name t else none

theorem length_afterName?_le {name t rest : Text} (h : afterName? name t = some rest) : rest.length ≤ t.length := by
  induction name generalizing t with
  | nil =>
    simp only [afterName?, Option.some.injEq] at h
    simp [h]
  | cons n name ih =>
    cases t with
    | nil => simp [afterName?] at h
    | cons c t =>
      simp only [afterName?] at h
      split at h
      · exact Nat.le_succ_of_le (ih h)
      · cases h

/-- the end tag of a raw element behind its slash: what it says, and what follows it -/
def rawClosing? (name t : Text) : Option (Text × Text) :=
  match (afterName? name (t.dropWhile Text.isBlank)).map (List.dropWhile Text.isBlank) with
  | some ('>' :: rest) => some (t.take (t.length - rest.length), rest)
  | _ => none

/-- the content of a raw element, its end tag behind the slash, and what follows -/
def rawContent? (name : Text) : Text → Option (Text × Text × Text)
  | [] => none
  | c :: t =>
    match (if c = '<' then Text.after? ['/'] t else none).bind (rawClosing? name) with
    | some (tag, rest) => some ([], tag, rest)
    | none => (rawContent? name t).map fun (content, tag, rest) => (c :: content, tag, rest)

/-- a text token, or none for the empty text -/
def pieces (t : Text) : List Token := if t = [] then [] else [.text t]

/-! ## Constructs behind `<` -/

/-- a start tag, where `t` is the text behind `<` -/
def readOpening (t : Text) : Except Error Reading :=
  match Tag.name? t with
  | none => .ok (.found [.text ['<']] none t)
  | some (name, after) =>
    let gap := Tag.skipGap after
    let free := gap.length < after.length || (name.getLast?.map Tag.isQuote).getD false
    let (written, rest) := Tag.attributes free gap
    let settled := (Tag.settle written).mapError Error.digits
    let lowered := Text.lower name
    match rest with
    | '>' :: rest => settled.map fun attributes =>
      .found [.opening lowered attributes] (if isRawElement lowered then some lowered else none) rest
    | '/' :: '>' :: rest => settled.map fun attributes => .found [.closed lowered attributes] none rest
    | [] => .ok .unfinished
    | c :: _ =>
      if Text.isAsciiLetter c || c == '=' then .ok .unfinished
      else settled.map fun _ => .found [.text ('<' :: t.take (t.length - rest.length))] none rest

/-- a character that the name of a plain end tag can have -/
def isClosingChar (c : Char) : Bool :=
  Text.isAsciiLetter c || Text.isAsciiDigit c || c == '-' || c == '.' || c == ':' || c == '_'

/-- the name of a plain end tag, and what follows it: a name between blanks -/
def plainClosing? (t : Text) : Option (Text × Text) :=
  match t.dropWhile Text.isBlank with
  | c :: t =>
    if Text.isAsciiLetter c then
      match (t.dropWhile isClosingChar).dropWhile Text.isBlank with
      | '>' :: rest => some (c :: t.takeWhile isClosingChar, rest)
      | _ => none
    else none
  | [] => none

/-- an end tag, where `t` is the text behind `</` -/
def readClosing (t : Text) : Reading :=
  match Text.upTo? '>' t with
  | none => .unfinished
  | some (inner, rest) =>
    match plainClosing? t with
    | some (name, rest) => .found [.closing (Text.lower name)] none rest
    | none =>
      match Tag.name? t with
      | some (name, _) => .found [.closing (Text.lower name)] none rest
      | none => .found (if inner = [] then [] else [.special .comment inner]) none rest

/-- the text in front of two hyphens, blanks and `>`, and what follows them -/
def commentEnd? : Text → Option (Text × Text)
  | [] => none
  | c :: t =>
    match (Text.after? ['-', '-'] (c :: t)).map (List.dropWhile Text.isBlank) with
    | some ('>' :: rest) => some ([], rest)
    | _ => (commentEnd? t).map fun (inner, rest) => (c :: inner, rest)

/-- the text in front of `brackets` closing brackets and `>`, with blanks between them, and what follows them -/
def sectionEnd? (brackets : Nat) : Text → Option (Text × Text)
  | [] => none
  | c :: t =>
    match closed brackets (c :: t) with
    | some rest => some ([], rest)
    | none => (sectionEnd? brackets t).map fun (inner, rest) => (c :: inner, rest)
where
  closed : Nat → Text → Option Text
    | 0, '>' :: rest => some rest
    | n + 1, ']' :: t => closed n (t.dropWhile Text.isBlank)
    | _, _ => none

/-- a character that the keyword of a marked section can have -/
def isKeywordChar (c : Char) : Bool :=
  Text.isAsciiLetter c || Text.isAsciiDigit c || c == '-' || c == '_' || c == '.'

/-- the number of brackets that close a marked section, by its keyword -/
def sectionBrackets? (keyword : Text) : Option Nat :=
  if ["temp", "cdata", "ignore", "include", "rcdata"].any (·.toList == keyword) then some 2
  else if ["if", "else", "endif"].any (·.toList == keyword) then some 1
  else none

/-- the token of a marked section -/
def ofSection (content : Text) : Token :=
  if (content.take 6).map Char.toUpper = "CDATA[".toList then .special .cdata (content.drop 6)
  else .special .declaration content

/-- a marked section, where `t` is the text behind `<![` -/
def readSection (t : Text) : Except Error Reading :=
  match t with
  | [] => .ok .unfinished
  | c :: _ =>
    if Text.isAsciiLetter c then
      let keyword := t.takeWhile isKeywordChar
      let behind := t.dropWhile isKeywordChar
      if behind.dropWhile Text.isBlank = [] then .ok .unfinished
      else match sectionBrackets? (Text.lower keyword) with
        | none => .error (.unknownSection (keyword ++ behind.takeWhile Text.isBlank))
        | some brackets =>
          match sectionEnd? brackets t with
          | some (content, rest) => .ok (.found [ofSection content] none rest)
          | none => .ok .unfinished
    else .error (.missingKeyword (("<![".toList ++ t).take 20))

/-- a declaration, where `t` is the text behind `<!` -/
def readDeclaration (t : Text) : Reading :=
  if Text.lower (t.take 7) = "doctype".toList then
    match Text.upTo? '>' (t.drop 7) with
    | some (content, rest) => .found [.special .doctype (content.drop 1)] none rest
    | none => .unfinished
  else
    match Text.upTo? '>' t with
    | some (content, rest) => .found [.special .comment content] none rest
    | none => .unfinished

/-- the construct behind `<` -/
def readAngle (t : Text) : Except Error Reading :=
  match t with
  | '/' :: t => .ok (readClosing t)
  | '!' :: '-' :: '-' :: t =>
    match commentEnd? t with
    | some (content, rest) => .ok (.found [.special .comment content] none rest)
    | none => .ok .unfinished
  | '?' :: t =>
    match Text.upTo? '>' t with
    | some (content, rest) => .ok (.found [.special .instruction content] none rest)
    | none => .ok .unfinished
  | '!' :: '[' :: t => readSection t
  | '!' :: t => .ok (readDeclaration t)
  | [] => .ok (.halted [] ['<'])
  | t => readOpening t

/-- what is cut off by the end of the text: up to `>`, or else up to `<`, or else the first character -/
def cutOff (t : Text) : Text × Text :=
  match Text.upTo? '>' t with
  | some (inner, rest) => ('<' :: (inner ++ ['>']), rest)
  | none => if t.contains '<' then ('<' :: t.takeWhile (· != '<'), t.dropWhile (· != '<')) else (['<'], t)

/-! ## Constructs behind `&` -/

/-- a character that a name behind `&` can have -/
def isReferenceChar (c : Char) : Bool := Text.isAsciiLetter c || Text.isAsciiDigit c || c == '-' || c == '.'

/-- the name behind `&` that another character follows, where the first one is a letter -/
def referenceName? (t : Text) : Option Text :=
  let run := t.takeWhile isReferenceChar
  if run.length < t.length then some run
  else
    let shorter := run.reverse.dropWhile fun c => !(c == '-' || c == '.')
    match shorter with
    | _ :: name => if name = [] then none else some name.reverse
    | [] => none

/-- the number behind `&#`, and what follows it, where another character that is no digit must follow -/
def referenceNumber? (t : Text) : Except DigitLimit (Option (Nat × Text)) :=
  let isHex (c : Char) : Bool := (hexValue? c).isSome
  match t with
  | x :: digits =>
    if x = 'x' ∨ x = 'X' then
      let run := digits.takeWhile isHex
      let rest := digits.dropWhile isHex
      .ok (if run = [] ∨ rest = [] then none else some (hexNumber run, rest))
    else
      let run := t.takeWhile Text.isAsciiDigit
      match t.dropWhile Text.isAsciiDigit with
      | c :: rest =>
        if run = [] ∨ isHex c then .ok none
        else (Numeral.readDigits run).map fun n => some (n, c :: rest)
      | [] => .ok none
  | [] => .ok none

/-- the construct behind `&`; `last` says that nothing more is read after a halt -/
def readAmpersand (last : Bool) (t : Text) : Except Error Reading :=
  match t with
  | '#' :: t =>
    match referenceNumber? t with
    | .error e => .error (.digits e)
    | .ok (some (n, rest)) => .ok (.found [.text [numbered n]] none (skipSemicolon rest))
    | .ok none => .ok (if t.contains ';' then .halted [.text ['&', '#']] t else .halted [] ('&' :: '#' :: t))
  | c :: rest =>
    if Text.isAsciiLetter c then
      match referenceName? t with
      | some name =>
        let content := (named? name).getD ('&' :: name)
        .ok (.found [.text content] none (skipSemicolon (t.drop name.length)))
      | none => .ok (.halted [] (if last ∧ rest = [] then t else '&' :: t))
    else .ok (.found [.text ['&']] none t)
  | [] => .ok (.halted [] ['&'])

/-! ## What is left is shorter -/

/-- what is left after a construct is not longer than `n`, and what is left after a halt by at most one character -/
def Reading.Within (n : Nat) : Reading → Prop
  | .found _ _ rest => rest.length ≤ n
  | .unfinished => True
  | .halted _ rest => rest.length ≤ n + 1

theorem length_skipSemicolon_le (t : Text) : (skipSemicolon t).length ≤ t.length := by
  unfold skipSemicolon
  split <;> simp

theorem length_dropWhile_of_cons {p : Char → Bool} {t rest : Text} {c : Char} (h : t.dropWhile p = c :: rest) :
    rest.length < t.length := by
  have := Tag.length_dropWhile_le p t
  rw [h, List.length_cons] at this
  omega

theorem length_commentEnd?_lt {t inner rest : Text} (h : commentEnd? t = some (inner, rest)) :
    rest.length < t.length := by
  induction t generalizing inner rest with
  | nil => simp [commentEnd?] at h
  | cons c t ih =>
    simp only [commentEnd?] at h
    split at h
    · next r hr =>
      obtain ⟨u, hu, hd⟩ := Option.map_eq_some_iff.1 hr
      have h1 := Text.length_after?_le hu
      have h2 := length_dropWhile_of_cons hd
      simp only [Option.some.injEq, Prod.mk.injEq] at h
      rw [← h.2]
      omega
    · obtain ⟨⟨i, r⟩, hi, he⟩ := Option.map_eq_some_iff.1 h
      simp only [Prod.mk.injEq] at he
      have := ih hi
      rw [← he.2, List.length_cons]
      omega

theorem length_closed_lt {n : Nat} {t rest : Text} (h : sectionEnd?.closed n t = some rest) :
    rest.length < t.length := by
  fun_induction sectionEnd?.closed n t with
  | case1 r =>
    simp only [Option.some.injEq] at h
    simp [h]
  | case2 n t ih =>
    have h1 := ih h
    have h2 := Tag.length_dropWhile_le Text.isBlank t
    simp only [List.length_cons]
    omega
  | case3 => simp at h

theorem length_sectionEnd?_lt {n : Nat} {t inner rest : Text} (h : sectionEnd? n t = some (inner, rest)) :
    rest.length < t.length := by
  induction t generalizing inner rest with
  | nil => simp [sectionEnd?] at h
  | cons c t ih =>
    simp only [sectionEnd?] at h
    split at h
    · next r hr =>
      simp only [Option.some.injEq, Prod.mk.injEq] at h
      rw [← h.2]
      exact length_closed_lt hr
    · obtain ⟨⟨i, r⟩, hi, he⟩ := Option.map_eq_some_iff.1 h
      simp only [Prod.mk.injEq] at he
      have := ih hi
      rw [← he.2, List.length_cons]
      omega

theorem length_plainClosing?_lt {t name rest : Text} (h : plainClosing? t = some (name, rest)) :
    rest.length < t.length := by
  unfold plainClosing? at h
  split at h
  · next c u hu =>
    split at h
    · split at h
      · next r hr =>
        have h1 := length_dropWhile_of_cons hu
        have h2 := Tag.length_dropWhile_le isClosingChar u
        have h3 := length_dropWhile_of_cons hr
        simp only [Option.some.injEq, Prod.mk.injEq] at h
        rw [← h.2]
        omega
      · simp at h
    · simp at h
  · simp at h

theorem readClosing_within (t : Text) : (readClosing t).Within t.length := by
  unfold readClosing
  split
  · trivial
  · next inner rest h =>
    have := Text.length_upTo?_lt h
    split
    · next h => exact Nat.le_of_lt (length_plainClosing?_lt h)
    · split <;> exact Nat.le_of_lt this

theorem readDeclaration_within (t : Text) : (readDeclaration t).Within t.length := by
  unfold readDeclaration
  split
  · split
    · next h =>
      have h1 := Text.length_upTo?_lt h
      have h2 := List.length_drop (l := t) (i := 7)
      simp only [Reading.Within]
      omega
    · trivial
  · split
    · next h => exact Nat.le_of_lt (Text.length_upTo?_lt h)
    · trivial

theorem readSection_within {t : Text} {r : Reading} (h : readSection t = .ok r) : r.Within t.length := by
  unfold readSection at h
  split at h
  · cases h; trivial
  · split at h
    · dsimp only at h
      split at h
      · cases h; trivial
      · split at h
        · cases h
        · split at h
          · next hs => cases h; exact Nat.le_of_lt (length_sectionEnd?_lt hs)
          · cases h; trivial
    · cases h

theorem eq_of_map_eq_ok {ε α β : Type} {f : α → β} {x : Except ε α} {b : β} (h : x.map f = .ok b) :
    ∃ a, x = .ok a ∧ f a = b := by
  cases x with
  | error e => simp [Except.map] at h
  | ok a => exact ⟨a, rfl, by simpa [Except.map] using h⟩

theorem readOpening_within {t : Text} {r : Reading} (h : readOpening t = .ok r) : r.Within t.length := by
  unfold readOpening at h
  split at h
  · cases h; simp [Reading.Within]
  · next name after hn =>
    have h1 := Tag.length_name?_le hn
    have h2 := Tag.length_skipGap_le after
    dsimp only at h
    generalize hf : ((Tag.skipGap after).length < after.length || (name.getLast?.map Tag.isQuote).getD false) = free at h
    have h3 := Tag.length_attributes_le free (Tag.skipGap after)
    split at h
    · next rest hr =>
      obtain ⟨a, _, rfl⟩ := eq_of_map_eq_ok h
      rw [hr, List.length_cons] at h3
      simp only [Reading.Within]
      omega
    · next rest hr =>
      obtain ⟨a, _, rfl⟩ := eq_of_map_eq_ok h
      rw [hr, List.length_cons, List.length_cons] at h3
      simp only [Reading.Within]
      omega
    · cases h; trivial
    · next c rest hr =>
      split at h
      · cases h; trivial
      · obtain ⟨a, _, rfl⟩ := eq_of_map_eq_ok h
        simp only [Reading.Within]
        omega

theorem Reading.Within.mono {m n : Nat} (hmn : m ≤ n) {r : Reading} (h : r.Within m) : r.Within n := by
  cases r <;> simp only [Reading.Within] at h ⊢ <;> omega

theorem readAngle_within {t : Text} {r : Reading} (h : readAngle t = .ok r) : r.Within t.length := by
  unfold readAngle at h
  split at h
  · cases h; exact (readClosing_within _).mono (by simp)
  · split at h
    · next hc =>
      cases h
      have := length_commentEnd?_lt hc
      simp only [Reading.Within, List.length_cons]
      omega
    · cases h; trivial
  · split at h
    · next hu =>
      cases h
      have := Text.length_upTo?_lt hu
      simp only [Reading.Within, List.length_cons]
      omega
    · cases h; trivial
  · exact (readSection_within h).mono (by simp only [List.length_cons]; omega)
  · cases h; exact (readDeclaration_within _).mono (by simp)
  · cases h; simp [Reading.Within]
  · exact readOpening_within h

theorem length_referenceNumber?_le {t rest : Text} {n : Nat} (h : referenceNumber? t = .ok (some (n, rest))) :
    rest.length ≤ t.length := by
  unfold referenceNumber? at h
  dsimp only at h
  split at h
  · next x digits =>
    split at h
    · simp only [Except.ok.injEq, Option.ite_none_left_eq_some, Option.some.injEq, Prod.mk.injEq] at h
      have := Tag.length_dropWhile_le (fun c => (hexValue? c).isSome) digits
      rw [← h.2.2, List.length_cons]
      omega
    · split at h
      · next c r hr =>
        split at h
        · cases h
        · obtain ⟨a, _, he⟩ := eq_of_map_eq_ok h
          simp only [Option.some.injEq, Prod.mk.injEq] at he
          have := Tag.length_dropWhile_le Text.isAsciiDigit (x :: digits)
          rw [hr] at this
          rw [← he.2]
          exact this
      · cases h
  · cases h

theorem readAmpersand_within {last : Bool} {t : Text} {r : Reading} (h : readAmpersand last t = .ok r) :
    r.Within t.length := by
  unfold readAmpersand at h
  split at h
  · next u =>
    split at h
    · cases h
    · next hn =>
      cases h
      have h1 := length_referenceNumber?_le hn
      have h2 := length_skipSemicolon_le
      simp only [Reading.Within, List.length_cons]
      exact Nat.le_succ_of_le (Nat.le_trans (h2 _) h1)
    · cases h
      split <;> simp only [Reading.Within, List.length_cons] <;> omega
  · next c rest _ =>
    split at h
    · split at h
      · next name hn =>
        cases h
        simp only [Reading.Within]
        refine Nat.le_trans (length_skipSemicolon_le _) ?_
        simp
      · cases h
        simp only [Reading.Within]
        split <;> simp only [List.length_cons] <;> omega
    · cases h; simp [Reading.Within]
  · cases h; simp [Reading.Within]

theorem length_cutOff_le (t : Text) : (cutOff t).2.length ≤ t.length := by
  unfold cutOff
  split
  · next h => exact Nat.le_of_lt (Text.length_upTo?_lt h)
  · split
    · exact Tag.length_dropWhile_le _ t
    · exact Nat.le_refl _

/-! ## The lexer -/

/-- the construct that starts with the character `c`, where `t` is the text behind it -/
def read (last : Bool) (c : Char) (t : Text) : Except Error Reading :=
  if c = '<' then
    (readAngle t).map fun
      | .unfinished => if last then .found [.text (cutOff t).1] none (cutOff t).2 else .halted [] (c :: t)
      | reading => reading
  else if c = '&' then readAmpersand last t
  else
    let isPlain (c : Char) : Bool := !(c == '<' || c == '&')
    .ok (.found [.text (c :: t.takeWhile isPlain)] none (t.dropWhile isPlain))

/-- what is left after a construct is shorter than the text it was found in, and what is left after a halt not longer -/
theorem read_length_le {last : Bool} {c : Char} {t : Text} {r : Reading} (h : read last c t = .ok r) :
    r.Within t.length := by
  unfold read at h
  split at h
  · obtain ⟨a, ha, rfl⟩ := eq_of_map_eq_ok h
    have hw := readAngle_within ha
    split
    · split
      · exact length_cutOff_le t
      · simp [Reading.Within]
    · exact hw
  · split at h
    · exact readAmpersand_within h
    · cases h
      exact Tag.length_dropWhile_le _ t

theorem length_rawContent?_lt {name t content tag rest : Text} (h : rawContent? name t = some (content, tag, rest)) :
    rest.length < t.length := by
  induction t generalizing content tag rest with
  | nil => simp [rawContent?] at h
  | cons c t ih =>
    simp only [rawContent?] at h
    split at h
    · next tag' rest' hb =>
      obtain ⟨u, hu, hc⟩ := Option.bind_eq_some_iff.1 hb
      have h1 : u.length ≤ t.length := by
        split at hu
        · exact Text.length_after?_le hu
        · cases hu
      have h2 : rest'.length ≤ u.length := by
        unfold rawClosing? at hc
        split at hc
        · next r hr =>
          obtain ⟨v, hv, hd⟩ := Option.map_eq_some_iff.1 hr
          have h3 : v.length ≤ u.length := Nat.le_trans (length_afterName?_le hv) (Tag.length_dropWhile_le _ u)
          have h4 := length_dropWhile_of_cons hd
          simp only [Option.some.injEq, Prod.mk.injEq] at hc
          rw [← hc.2]
          omega
        · cases hc
      simp only [Option.some.injEq, Prod.mk.injEq] at h
      rw [← h.2.2, List.length_cons]
      omega
    · obtain ⟨⟨i, g, r⟩, hi, he⟩ := Option.map_eq_some_iff.1 h
      simp only [Prod.mk.injEq] at he
      have := ih hi
      rw [← he.2.2, List.length_cons]
      omega

/-- the tokens of a text inside the raw element `raw`, if any; `last` says that reading starts over no more -/
def lexFrom (last : Bool) (raw : Option Text) (t : Text) : Except Error (List Token) :=
  match raw with
  | some name =>
    match _h : rawContent? name t with
    | none => .ok []
    | some (content, tag, rest) =>
      if (plainClosing? tag).isSome then
        (lexFrom last none rest).map fun more => pieces content ++ .closing name :: more
      else (lexFrom last raw rest).map fun more => pieces content ++ .text ('<' :: '/' :: tag) :: more
  | none =>
    match t with
    | [] => .ok []
    | c :: t =>
      match _h : read last c t with
      | .error e => .error e
      | .ok (.found tokens raw rest) => (lexFrom last raw rest).map fun more => tokens ++ more
      | .ok (.halted tokens rest) =>
        if last then .ok (tokens ++ pieces rest) else (lexFrom true none rest).map fun more => tokens ++ more
      | .ok .unfinished => .ok []
termination_by ((if last then 0 else 1), t.length)
decreasing_by
  · exact Prod.Lex.right _ (length_rawContent?_lt (by assumption))
  · exact Prod.Lex.right _ (length_rawContent?_lt (by assumption))
  · have := read_length_le (by assumption)
    exact Prod.Lex.right _ (Nat.lt_succ_of_le this)
  · exact Prod.Lex.left _ _ (by simp_all)

/-- the tokens of a text -/
def ofText (t : Text) : Except Error (List Token) := lexFrom false none t

end Transclude.Markup.Token
