/-
Reading tags: names, attributes and the blanks and slashes between them.

Reading is tolerant. An attribute may follow a closing quotation mark at once; slashes between attributes are skipped;
a value whose quotation mark is never closed is no value. Every reader returns what it found and the text that is left,
and what is left is never longer than what it was given.
-/
import Transclude.Markup.Token
import Transclude.Markup.Reference
import Transclude.Text.Classes
import Transclude.Text.Lower

namespace Transclude.Markup.Tag

/-- a character that ends the name of a tag -/
def endsName (c : Char) : Bool :=
  c == '\t' || c == '\n' || c == '\r' || c == '\x0c' || c == ' ' || c == '/' || c == '>' || c == '\x00'

/-- a character that ends the name of an attribute -/
def endsAttribute (c : Char) : Bool := Text.isBlank c || c == '/' || c == '=' || c == '>'

/-- a character that ends a value without quotation marks -/
def endsValue (c : Char) : Bool := Text.isBlank c || c == '>'

/-- a quotation mark -/
def isQuote (c : Char) : Bool := c == '\'' || c == '"'

/-- the name of a tag that a text starts with, as written, and what follows it -/
def name? : Text → Option (Text × Text)
  | c :: t =>
    if Text.isAsciiLetter c then some (c :: t.takeWhile (!endsName ·), t.dropWhile (!endsName ·)) else none
  | [] => none

/-- the text behind blanks and slashes, where a slash in front of the end of the tag stays -/
def skipGap : Text → Text
  | '/' :: '>' :: t => '/' :: '>' :: t
  | c :: t => if Text.isBlank c || c == '/' then skipGap t else c :: t
  | [] => []

/-- a value behind the name of an attribute -/
structure Value where
  /-- the value as written, without quotation marks -/
  text : Text
  /-- another attribute may follow at once -/
  open_ : Bool
  rest : Text

/-- the value behind the name of an attribute, if there is one: equals signs, blanks, and a quoted or a bare value -/
def value? (t : Text) : Option Value :=
  let signs := t.dropWhile Text.isBlank
  let behind := signs.dropWhile (· == '=')
  let start := behind.dropWhile Text.isBlank
  let bare (first rest : Text) : Value :=
    { text := first ++ rest.takeWhile (!endsValue ·), open_ := false, rest := rest.dropWhile (!endsValue ·) }
  if signs.head? ≠ some '=' then none
  else match start with
    | q :: inner =>
      if isQuote q then
        match inner.dropWhile (· != q) with
        | _ :: rest => some { text := inner.takeWhile (· != q), open_ := true, rest }
        | [] =>
          if start.length < behind.length then some { text := [], open_ := true, rest := start }
          else if signs.drop 1 ≠ behind then some (bare ['='] behind)
          else none
      else some (bare [] start)
    | [] => some (bare [] [])

/-- the attribute that a text starts with, where another attribute may follow at once, and the rest -/
def attribute? : Text → Option (Text × Text × Bool × Text)
  | c :: t =>
    if Text.isBlank c || c == '/' || c == '>' then none
    else
      let name := c :: t.takeWhile (!endsAttribute ·)
      let rest := t.dropWhile (!endsAttribute ·)
      match value? rest with
      | some v => some (name, v.text, v.open_, v.rest)
      | none => some (name, [], (name.getLast?.map isQuote).getD false, rest)
  | [] => none

/-! ## What is left is not longer -/

theorem length_dropWhile_le (p : Char → Bool) (t : Text) : (t.dropWhile p).length ≤ t.length :=
  (List.dropWhile_sublist p).length_le

theorem length_skipGap_le (t : Text) : (skipGap t).length ≤ t.length := by
  fun_induction skipGap t with
  | case1 | case3 | case4 => exact Nat.le_refl _
  | case2 c t _ _ ih => exact Nat.le_succ_of_le ih

theorem length_name?_le {t name rest : Text} (h : name? t = some (name, rest)) : rest.length ≤ t.length := by
  cases t with
  | nil => simp [name?] at h
  | cons c t =>
    simp only [name?] at h
    split at h
    · simp only [Option.some.injEq, Prod.mk.injEq] at h
      have := length_dropWhile_le (!endsName ·) t
      rw [h.2] at this
      simp only [List.length_cons]
      omega
    · simp at h

theorem length_value?_le {t : Text} {v : Value} (h : value? t = some v) : v.rest.length ≤ t.length := by
  have h1 := length_dropWhile_le Text.isBlank t
  have h2 := length_dropWhile_le (· == '=') (t.dropWhile Text.isBlank)
  have h3 := length_dropWhile_le Text.isBlank ((t.dropWhile Text.isBlank).dropWhile (· == '='))
  unfold value? at h
  dsimp only at h
  split at h
  · simp at h
  · split at h
    · next q inner hs =>
      have h4 := congrArg List.length hs
      simp only [List.length_cons] at h4
      split at h
      · split at h
        · next c rest hr =>
          have h5 := length_dropWhile_le (· != q) inner
          rw [hr] at h5
          simp only [List.length_cons] at h5
          simp only [Option.some.injEq] at h
          subst h
          dsimp only
          omega
        · split at h
          · simp only [Option.some.injEq] at h
            subst h
            dsimp only
            omega
          · split at h
            · simp only [Option.some.injEq] at h
              subst h
              have h5 := length_dropWhile_le (!endsValue ·) ((t.dropWhile Text.isBlank).dropWhile (· == '='))
              dsimp only
              omega
            · simp at h
      · simp only [Option.some.injEq] at h
        subst h
        have h5 := length_dropWhile_le (!endsValue ·) (((t.dropWhile Text.isBlank).dropWhile (· == '=')).dropWhile Text.isBlank)
        dsimp only
        omega
    · simp only [Option.some.injEq] at h
      subst h
      simp

theorem length_attribute?_lt {t name value rest : Text} {free : Bool}
    (h : attribute? t = some (name, value, free, rest)) : rest.length < t.length := by
  cases t with
  | nil => simp [attribute?] at h
  | cons c t =>
    simp only [attribute?] at h
    split at h
    · simp at h
    · have h1 := length_dropWhile_le (!endsAttribute ·) t
      split at h
      · next v hv =>
        have h2 := length_value?_le hv
        simp only [Option.some.injEq, Prod.mk.injEq] at h
        rw [← h.2.2.2, List.length_cons]
        omega
      · simp only [Option.some.injEq, Prod.mk.injEq] at h
        rw [← h.2.2.2, List.length_cons]
        omega

/-! ## All attributes of a tag -/

/-- the attributes that a text starts with, names and values as written, where `free` says that one may start at once,
and the rest -/
def attributes (free : Bool) (t : Text) : List (Text × Text) × Text :=
  if free then
    match _h : attribute? t with
    | some (name, value, open_, rest) =>
      let next := skipGap rest
      let more := attributes (open_ || next.length < rest.length) next
      ((name, value) :: more.1, more.2)
    | none => ([], t)
  else ([], t)
termination_by t.length
decreasing_by
  have h1 := length_attribute?_lt (by assumption)
  have h2 := length_skipGap_le rest
  omega

theorem length_attributes_le (free : Bool) (t : Text) : (attributes free t).2.length ≤ t.length := by
  fun_induction attributes free t with
  | case1 t name value open_ rest h next more ih =>
    have h1 := length_attribute?_lt h
    have h2 : next.length ≤ rest.length := length_skipGap_le rest
    simp only [more]
    omega
  | case2 => simp
  | case3 => simp

/-- attributes with names in lower case and values without references; of two with one name the later value counts -/
def settle (written : List (Text × Text)) : Except DigitLimit (List Attribute) :=
  written.foldlM (fun done (name, value) => do
    let a : Attribute := { name := Text.lower name, value := ← unescape value }
    return if done.any (·.name == a.name) then done.map fun b => if b.name = a.name then a else b
      else done ++ [a]) []

end Transclude.Markup.Tag
