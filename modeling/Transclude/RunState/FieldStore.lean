/-
Named records of fields, with copies that share their lists: a copy of a record has the same lists as the record, so a list
that grows in one of them grows in both, while a field that is set in one of them is set there only.

The lists are kept beside the records, and a field refers to its list by number.
-/
import Transclude.Text.Basic

namespace Transclude

/-- what a field holds: a value, or the list of this number -/
inductive FieldStore.Slot (V : Type) where
  | value (v : V)
  | list (number : Nat)

/-- what a field is set to -/
inductive FieldStore.Content (V : Type) where
  | value (v : V)
  | list (items : List V)

/-- named records of fields, and the lists that they share; `known` are the fields that every record has -/
structure FieldStore (V : Type) where
  known : List Text
  records : List (Text × List (Text × FieldStore.Slot V)) := []
  lists : List (List V) := []

namespace FieldStore

variable {V : Type}

/-- why a record cannot be changed or copied -/
inductive AccessError (V : Type) where
  | unknownRecord (name : Text)
  /-- a copy has the known fields only -/
  | unexpectedField (field : Text)
  | missingField (field : Text)
  | notList (v : V)

/-- a table with an entry for a name; a name that is there already keeps its place -/
def assign {α : Type} (table : List (Text × α)) (name : Text) (a : α) : List (Text × α) :=
  if table.any fun e => e.1 == name then table.map fun e => if e.1 == name then (name, a) else e
  else table ++ [(name, a)]

/-- the entry of a table for a name -/
def find? {α : Type} (table : List (Text × α)) (name : Text) : Option α := (table.find? fun e => e.1 == name).map (·.2)

/-- the record of a name -/
def record (s : FieldStore V) (name : Text) : Except (AccessError V) (List (Text × Slot V)) :=
  match find? s.records name with
  | some fields => .ok fields
  | none => .error (.unknownRecord name)

/-- makes room for a content: a list is a new one each time -/
def place (s : FieldStore V) : Content V → FieldStore V × Slot V
  | .value v => (s, .value v)
  | .list items => ({ s with lists := s.lists ++ [items] }, .list s.lists.length)

/-- the store with a record of some fields -/
def create (s : FieldStore V) (name : Text) (fields : List (Text × Content V)) : FieldStore V :=
  let (s, slots) := fields.foldl (fun (s, slots) (field, content) =>
    let (s, slot) := s.place content
    (s, assign slots field slot)) (s, [])
  { s with records := assign s.records name slots }

/-- the store with a copy of a record -/
def copy (s : FieldStore V) (source target : Text) : Except (AccessError V) (FieldStore V) := do
  let fields ← s.record source
  match fields.find? fun f => !s.known.contains f.1 with
  | some f => throw (.unexpectedField f.1)
  | none => return { s with records := assign s.records target fields }

/-- the store with a field set to a content -/
def set (s : FieldStore V) (name field : Text) (content : Content V) : Except (AccessError V) (FieldStore V) := do
  let fields ← s.record name
  let (s, slot) := s.place content
  return { s with records := assign s.records name (assign fields field slot) }

/-- the store with one more item in the list of a field -/
def append (s : FieldStore V) (name field : Text) (item : V) : Except (AccessError V) (FieldStore V) := do
  match find? (← s.record name) field with
  | none => throw (.missingField field)
  | some (.value v) => throw (.notList v)
  | some (.list number) => return { s with lists := s.lists.modify number (· ++ [item]) }

/-- what a slot holds -/
def content (s : FieldStore V) : Slot V → Content V
  | .value v => .value v
  | .list number => .list (s.lists[number]?.getD [])

/-- the known fields of a record and what they hold -/
def fields (s : FieldStore V) (slots : List (Text × Slot V)) : List (Text × Content V) :=
  s.known.filterMap fun field => (find? slots field).map fun slot => (field, s.content slot)

end FieldStore

end Transclude
