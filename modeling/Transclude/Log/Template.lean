/-
Message templates: text in which a field in braces stands for a value, and a doubled brace for a brace. A field is written as

    name !conversion :layout

where the name may go on into the value (`name.attribute`, `name[index]`), the conversion asks for the exact form, and the
layout may hold fields of its own. A template is filled in from left to right, and what is wrong with its first bad field
decides.
-/
import Transclude.Log.Layout

namespace Transclude.Log

/-- why a template cannot be filled in -/
inductive TemplateError where
  /-- no value has this name -/
  | unknownName (name : Text)
  /-- a field without a name, or with a number for a name; values have no order -/
  | noPosition (index : Nat)
  | loneOpening
  | loneClosing
  /-- an opening brace in the name of a field -/
  | openingInName
  /-- the text ends before the name does -/
  | unfinishedName
  /-- the text ends before the conversion does -/
  | unfinishedConversion
  /-- the text ends before the layout does -/
  | unfinishedLayout
  /-- something stands between a conversion and the layout -/
  | strayBeforeLayout
  | unknownConversion (c : Char)
  /-- layouts in the layout of a layout -/
  | tooDeep
  | tooManyDigits
  /-- a name goes on with nothing -/
  | emptyStep
  | unclosedIndex
  /-- something other than a further step stands behind an index -/
  | strayAfterIndex
  | noAttribute (kind name : Text)
  /-- a text or a list is looked up by a name -/
  | indexNotNumber (what : String)
  /-- values of this kind have no parts -/
  | noParts (kind : Text)
  /-- a text or a list is too short -/
  | pastEnd (what : String)
  | noEntry (name : Text)
  | noNumberedEntry (n : Nat)
  | layout (e : LayoutError)
deriving DecidableEq, Repr

/-- the explanation that goes with a template error -/
def TemplateError.message : TemplateError → Text
  | .unknownName name | .noEntry name => Text.quoted name
  | .noPosition index =>
    "Replacement index ".toList ++ Numeral.print index ++ " out of range for positional args tuple".toList
  | .loneOpening => "Single '\x7b' encountered in format string".toList
  | .loneClosing => "Single '\x7d' encountered in format string".toList
  | .openingInName => "unexpected '\x7b' in field name".toList
  | .unfinishedName => "expected '\x7d' before end of string".toList
  | .unfinishedConversion => "end of string while looking for conversion specifier".toList
  | .unfinishedLayout => "unmatched '\x7b' in format spec".toList
  | .strayBeforeLayout => "expected ':' after conversion specifier".toList
  | .unknownConversion c => "Unknown conversion specifier ".toList ++ typeText c
  | .tooDeep => "Max string recursion exceeded".toList
  | .tooManyDigits => "Too many decimal digits in format string".toList
  | .emptyStep => "Empty attribute in format string".toList
  | .unclosedIndex => "Missing ']' in format string".toList
  | .strayAfterIndex => "Only '.' or '[' may follow ']' in format field specifier".toList
  | .noAttribute kind name => Text.quoted kind ++ " object has no attribute ".toList ++ Text.quoted name
  | .indexNotNumber what => what.toList
  | .noParts kind => Text.quoted kind ++ " object is not subscriptable".toList
  | .pastEnd what => what.toList ++ " index out of range".toList
  | .noNumberedEntry n => Numeral.print n
  | .layout e => e.message

/-! ## Values and their parts -/

/-- the number that a text is, if it is made of digits -/
def position? (t : Text) : Except TemplateError (Option Nat) :=
  if t = [] ∨ !t.all Text.isDigit then .ok none
  else if maxNumber < Numeral.value t then .error .tooManyDigits
  else .ok (some (Numeral.value t))

/-- a part of a value, by what stands between brackets -/
def Value.part (v : Value) (index : Text) (n : Option Nat) : Except TemplateError Value :=
  match v, n with
  | .text t, some n => (t[n]?.map fun c => Value.text [c]).elim (.error (.pastEnd "string")) .ok
  | .text _, none => .error (.indexNotNumber "string indices must be integers, not 'str'")
  | .list items, some n => items[n]?.elim (.error (.pastEnd "list")) .ok
  | .list _, none => .error (.indexNotNumber "list indices must be integers or slices, not str")
  | .table _, some n => .error (.noNumberedEntry n)
  | .table entries, none => (entries.find? (·.1 == index)).elim (.error (.noEntry index)) fun e => .ok e.2
  | _, _ => .error (.noParts v.kind)

/-- the part of a value that the steps behind a name lead to; no value has attributes -/
def Value.follow (v : Value) (steps : Text) : Except TemplateError Value :=
  match steps with
  | [] => .ok v
  | '.' :: rest =>
    let name := rest.takeWhile fun c => !(c == '.' || c == '[')
    if name = [] then .error .emptyStep else .error (.noAttribute v.kind name)
  | '[' :: rest =>
    match _h : Text.upTo? ']' rest with
    | none => .error .unclosedIndex
    | some (index, rest) =>
      match position? index with
      | .error e => .error e
      | .ok n => if index = [] then .error .emptyStep else do (← v.part index n).follow rest
  | _ :: _ => .error .strayAfterIndex
termination_by steps.length
decreasing_by
  have := Text.length_upTo?_lt (by assumption)
  simp only [List.length_cons]
  omega

/-- the value that the name of a field leads to -/
def lookUp (values : List (Text × Value)) (name : Text) : Except TemplateError Value := do
  let first := name.takeWhile fun c => !(c == '.' || c == '[')
  if first = [] then throw (.noPosition 0)
  if let some n ← position? first then throw (.noPosition n)
  let some (_, v) := values.find? (·.1 == first) | throw (.unknownName first)
  v.follow (name.drop first.length)

/-- a value after a conversion -/
def Value.convert (v : Value) : Option Char → Except TemplateError Value
  | none => .ok v
  | some 's' => .ok (.text v.plain)
  | some 'r' => .ok (.text v.exact)
  | some 'a' => .ok (.text (Value.spellOut v.exact))
  | some c => .error (.unknownConversion c)

/-! ## Fields -/

/-- a field of a template -/
structure Field where
  name : Text
  conversion : Option Char := none
  layout : Text := []
deriving DecidableEq, Repr

namespace Field

/-- the name of a field, the character that ends it, and what follows; brackets in the name hide what is between them -/
def readName (bracketed : Bool) : Text → Except TemplateError (Text × Char × Text)
  | [] => .error .unfinishedName
  | c :: t =>
    let goOn := fun bracketed => (readName bracketed t).map fun r => (c :: r.1, r.2)
    if bracketed then goOn (c != ']')
    else if c = '{' then .error .openingInName
    else if c = '}' ∨ c = ':' ∨ c = '!' then .ok ([], c, t)
    else goOn (c == '[')

/-- the layout of a field and what follows its closing brace; `depth` braces stand open in it -/
def readLayout (depth : Nat) : Text → Except TemplateError (Text × Text)
  | [] => .error .unfinishedLayout
  | c :: t =>
    let goOn := fun depth => (readLayout depth t).map fun r => (c :: r.1, r.2)
    if c = '{' then goOn (depth + 1)
    else if c = '}' then if depth = 0 then .ok ([], t) else goOn (depth - 1)
    else goOn depth

theorem length_readName_lt {bracketed : Bool} {t name rest : Text} {close : Char}
    (h : readName bracketed t = .ok (name, close, rest)) : rest.length < t.length := by
  induction t generalizing bracketed name with
  | nil => simp [readName] at h
  | cons c t ih =>
    have goOn : ∀ b, (readName b t).map (fun r => (c :: r.1, r.2)) = .ok (name, close, rest) →
        rest.length < (c :: t).length := by
      intro b hb
      cases hr : readName b t with
      | error e => simp [hr, Except.map] at hb
      | ok r =>
        simp only [hr, Except.map, Except.ok.injEq, Prod.mk.injEq] at hb
        have := ih (hr.trans (congrArg Except.ok (Prod.ext rfl hb.2)))
        simp only [List.length_cons]
        omega
    simp only [readName] at h
    split at h
    · exact goOn _ h
    · split at h
      · simp at h
      · split at h
        · simp only [Except.ok.injEq, Prod.mk.injEq] at h
          simp [h.2.2]
        · exact goOn _ h

theorem length_readLayout_lt {depth : Nat} {t layout rest : Text} (h : readLayout depth t = .ok (layout, rest)) :
    rest.length < t.length := by
  induction t generalizing depth layout with
  | nil => simp [readLayout] at h
  | cons c t ih =>
    have goOn : ∀ d, (readLayout d t).map (fun r => (c :: r.1, r.2)) = .ok (layout, rest) →
        rest.length < (c :: t).length := by
      intro d hd
      cases hr : readLayout d t with
      | error e => simp [hr, Except.map] at hd
      | ok r =>
        simp only [hr, Except.map, Except.ok.injEq, Prod.mk.injEq] at hd
        have := ih (hr.trans (congrArg Except.ok (Prod.ext rfl hd.2)))
        simp only [List.length_cons]
        omega
    simp only [readLayout] at h
    split at h
    · exact goOn _ h
    · split at h
      · split at h
        · simp only [Except.ok.injEq, Prod.mk.injEq] at h
          simp [h.2]
        · exact goOn _ h
      · exact goOn _ h

/-- what follows the name of a field that ends with this character: conversion, layout, and the text behind the field -/
def readTail (close : Char) (t : Text) : Except TemplateError (Option Char × Text × Text) :=
  if close = '}' then .ok (none, [], t)
  else if close = ':' then (readLayout 0 t).map fun r => (none, r)
  else match t with
    | [] => .error .unfinishedConversion
    | [_] => .error .unfinishedLayout
    | c :: '}' :: rest => .ok (some c, [], rest)
    | c :: ':' :: rest => (readLayout 0 rest).map fun r => (some c, r)
    | _ :: _ :: _ => .error .strayBeforeLayout

theorem length_readTail_le {close : Char} {t layout rest : Text} {conversion : Option Char}
    (h : readTail close t = .ok (conversion, layout, rest)) : rest.length ≤ t.length := by
  have behind : ∀ {c : Option Char} {u : Text}, (readLayout 0 u).map (fun r => (c, r)) = .ok (conversion, layout, rest) →
      rest.length < u.length := by
    intro c u hu
    cases hr : readLayout 0 u with
    | error e => simp [hr, Except.map] at hu
    | ok r =>
      simp only [hr, Except.map, Except.ok.injEq, Prod.mk.injEq] at hu
      exact length_readLayout_lt (hr.trans (congrArg Except.ok hu.2))
  unfold readTail at h
  split at h
  · simp only [Except.ok.injEq, Prod.mk.injEq] at h
    simp [h.2.2]
  · split at h
    · exact Nat.le_of_lt (behind h)
    · split at h
      · simp at h
      · simp at h
      · simp only [Except.ok.injEq, Prod.mk.injEq] at h
        simp only [List.length_cons, h.2.2]
        omega
      · have := behind h
        simp only [List.length_cons]
        omega
      · simp at h

/-- the field at the front of a text, behind its opening brace, and what follows its closing one -/
def read (t : Text) : Except TemplateError (Field × Text) := do
  let (name, close, rest) ← readName false t
  let (conversion, layout, rest) ← readTail close rest
  return ({ name, conversion, layout }, rest)

theorem length_read_lt {t rest : Text} {field : Field} (h : read t = .ok (field, rest)) : rest.length < t.length := by
  unfold read at h
  cases hn : readName false t with
  | error e => simp [hn, bind, Except.bind] at h
  | ok n =>
    obtain ⟨name, close, behind⟩ := n
    cases ht : readTail close behind with
    | error e => simp [hn, ht, bind, Except.bind] at h
    | ok r =>
      obtain ⟨conversion, layout, rest'⟩ := r
      simp only [hn, ht, bind, Except.bind, pure, Except.pure, Except.ok.injEq, Prod.mk.injEq] at h
      have := length_readName_lt hn
      have := length_readTail_le ht
      rw [← h.2]
      omega

end Field

/-! ## Filling in -/

/-- a template with its values filled in, where fields may stand `depth` deep in one another -/
def fillTo (values : List (Text × Value)) (depth : Nat) (template : Text) : Except TemplateError Text :=
  match depth, template with
  | 0, _ => .error .tooDeep
  | _, [] => .ok []
  | depth, '{' :: '{' :: t => (fillTo values depth t).map ('{' :: ·)
  | depth, '}' :: '}' :: t => (fillTo values depth t).map ('}' :: ·)
  | _, ['{'] => .error .loneOpening
  | depth + 1, '{' :: t =>
    match _h : Field.read t with
    | .error e => .error e
    | .ok (field, rest) => do
      let v ← (← lookUp values field.name).convert field.conversion
      let layout ← if field.layout.contains '{' then fillTo values depth field.layout else pure field.layout
      match v.set layout with
      | .error e => throw (.layout e)
      | .ok written => return written ++ (← fillTo values (depth + 1) rest)
  | _, '}' :: _ => .error .loneClosing
  | depth, c :: t => (fillTo values depth t).map (c :: ·)
termination_by (depth, template.length)
decreasing_by
  · apply Prod.Lex.right; simp only [List.length_cons]; omega
  · apply Prod.Lex.right; simp only [List.length_cons]; omega
  · apply Prod.Lex.right
    have := Field.length_read_lt (by assumption)
    simp only [List.length_cons]
    omega
  · exact Prod.Lex.left _ _ (Nat.lt_succ_self _)
  · apply Prod.Lex.right; simp only [List.length_cons]; omega

/-- a template with its values filled in; the layouts of fields may hold fields, and those plain layouts only -/
def fill (values : List (Text × Value)) (template : Text) : Except TemplateError Text := fillTo values 2 template

/-- the state that records are emitted for, if one is connected -/
structure Connection where
  verbosity? : Option Int := none
deriving DecidableEq, Repr

/-- the verbosity of the connected state, zero without one -/
def Connection.verbosity (c : Connection) : Int := c.verbosity?.getD 0

/-- a message with its values; without values it is not a template -/
def message (template : Text) (values : List (Text × Value)) : Except TemplateError Text :=
  if values.isEmpty then .ok template else fill values template

end Transclude.Log
