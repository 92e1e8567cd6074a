/-
A tree of files: folders, files with their octets, and links. The tree is a table from locations to nodes, where a
location is the list of names from the root down; the root itself is always a folder.

`follow` goes along a path from part to part. A link is replaced by its target where it is met, at most `maxLinks` times;
double dots lead to the folder above; every part but the last must be there. `find` gives the node at the end of a path.
-/
import Transclude.FilePath
import Transclude.FileTree.Fault

namespace Transclude

/-- the names from the root of a tree down to a node -/
abbrev Location := List Text

/-- a node of a tree; a file has its octets, or what comes of reading it -/
inductive FileNode where
  | file (content : Except MediumFault (List UInt8))
  | folder
  | link (target : Text)

/-- a tree of files -/
structure FileTree where
  nodes : List (Location × FileNode) := []
  /-- where relative paths start -/
  workingFolder : Location := []

namespace FileTree

/-! ## Nodes -/

/-- the node at a location -/
def node? (tree : FileTree) : Location → Option FileNode
  | [] => some .folder
  | loc => (tree.nodes.find? fun entry => entry.1 == loc).map (·.2)

/-- there is a folder at the location -/
def hasFolder (tree : FileTree) (loc : Location) : Bool :=
  match tree.node? loc with
  | some .folder => true
  | _ => false

/-- the tree with a node at a location, in the place of the one that was there -/
def put (tree : FileTree) (loc : Location) (node : FileNode) : FileTree :=
  if tree.nodes.any fun entry => entry.1 == loc then
    { tree with nodes := tree.nodes.map fun entry => if entry.1 == loc then (loc, node) else entry }
  else { tree with nodes := tree.nodes ++ [(loc, node)] }

/-- a node is found where it was put -/
theorem node?_put_self (tree : FileTree) {loc : Location} (h : loc ≠ []) (node : FileNode) :
    (tree.put loc node).node? loc = some node := by
  obtain ⟨name, loc, rfl⟩ := List.exists_cons_of_ne_nil h
  unfold put
  split
  next there =>
    obtain ⟨entry, mem, eq⟩ := List.any_eq_true.1 there
    have eq := beq_iff_eq.1 eq
    simp only [node?, List.find?_map]
    cases found : tree.nodes.find? ((fun entry => entry.1 == name :: loc) ∘ fun entry =>
        if entry.1 == name :: loc then (name :: loc, node) else entry) with
    | none =>
      have := List.find?_eq_none.1 found entry mem
      simp [eq] at this
    | some entry =>
      have := List.find?_some found
      by_cases here : entry.1 = name :: loc <;> simp_all
  next absent =>
    have missing : tree.nodes.find? (fun entry => entry.1 == name :: loc) = none :=
      List.find?_eq_none.2 fun entry mem here => absent (List.any_eq_true.2 ⟨entry, mem, here⟩)
    simp [node?, List.find?_append, missing]

/-- a node that is put somewhere changes nothing anywhere else -/
theorem node?_put_of_ne (tree : FileTree) {loc place : Location} (h : place ≠ loc) (node : FileNode) :
    (tree.put loc node).node? place = tree.node? place := by
  cases place with
  | nil => rfl
  | cons name place =>
    unfold put
    split
    · have same : ((fun entry : Location × FileNode => entry.1 == name :: place) ∘
          fun entry => if entry.1 == loc then (loc, node) else entry) = fun entry => entry.1 == name :: place := by
        funext entry
        by_cases e : entry.1 = loc <;> simp [e]
      simp only [node?, List.find?_map, same, Option.map_map]
      cases found : tree.nodes.find? fun entry => entry.1 == name :: place with
      | none => rfl
      | some entry =>
        have here : entry.1 = name :: place := by simpa using List.find?_some found
        simp [here, h]
    · have elsewhere : (loc == name :: place) = false := beq_eq_false_iff_ne.2 fun e => h e.symm
      simp [node?, List.find?_append, elsewhere]

/-- the tree with a node at a location, and with folders for the locations above it that have no node -/
def plant (tree : FileTree) (loc : Location) (node : FileNode) : FileTree :=
  let above := (List.range loc.length).map fun n => loc.take n
  (above.foldl (fun tree place => if (tree.node? place).isSome then tree else tree.put place .folder) tree).put loc node

/-- the locations of the links -/
def links (tree : FileTree) : List Location :=
  tree.nodes.filterMap fun
    | (loc, .link _) => some loc
    | _ => none

/-- the names in a folder -/
def names (tree : FileTree) (loc : Location) : List Text :=
  tree.nodes.filterMap fun entry =>
    match FilePath.partsAfter? loc entry.1 with
    | some [name] => some name
    | _ => none

/-- the folders below a location, as the names from it down to them, where no link is followed -/
def foldersBelow (tree : FileTree) (loc : Location) : List Location :=
  tree.nodes.filterMap fun
    | (place, .folder) =>
      match FilePath.partsAfter? loc place with
      | some (name :: rest) => some (name :: rest)
      | _ => none
    | _ => none

/-! ## Paths -/

/-- the most links that are replaced on the way along one path -/
def maxLinks : Nat := 40

/-- the most octets that a name may have -/
def maxNameOctets : Nat := 255

/-- the most octets that a path may have -/
def maxPathOctets : Nat := 4095

/-- the number of octets of a text -/
def octets (t : Text) : Nat := t.foldl (fun n c => n + c.utf8Size) 0

/-- where a link starts that is met in a folder -/
def linkBase (folder : Location) (target : Text) : Location := if target.head? = some '/' then [] else folder

/-- the location that some parts lead to from a location; the last part need not be there -/
def follow (tree : FileTree) (links : Nat) (loc : Location) : List Text → Except PathError Location
  | [] => .ok loc
  | name :: rest =>
    match tree.node? loc with
    | none => .error .missing
    | some .folder =>
      if name = [] ∨ name = ['.'] then follow tree links loc rest
      else if name = ['.', '.'] then follow tree links loc.dropLast rest
      else if maxNameOctets < octets name then .error .nameTooLong
      else match tree.node? (loc ++ [name]) with
        | some (.link target) =>
          match links with
          | 0 => .error .tooManyLinks
          | links + 1 => follow tree links (linkBase loc target) (Text.split '/' target ++ rest)
        | _ => follow tree links (loc ++ [name]) rest
    | some _ => .error .notFolder
termination_by parts => (links, parts.length)

/-- where a path starts -/
def start (tree : FileTree) (p : FilePath) : Location := if p.slashes = 0 then tree.workingFolder else []

/-- why a path cannot be asked for, whatever the tree -/
def refusal? (p : FilePath) : Option PathError :=
  if p.parts.any fun part => part.contains '\x00' then some .zeroCharacter
  else if maxPathOctets < octets p.toText then some .nameTooLong
  else none

/-- the location that a path leads to -/
def locate (tree : FileTree) (p : FilePath) : Except PathError Location :=
  match refusal? p with
  | some e => .error e
  | none => tree.follow maxLinks (tree.start p) p.parts

/-- the node that a path leads to, and where it is -/
def find (tree : FileTree) (p : FilePath) : Except PathError (Location × FileNode) := do
  let loc ← tree.locate p
  match tree.node? loc with
  | none => throw .missing
  | some node => return (loc, node)

/-- an answer about a path, where a path to nothing is answered `false` -/
def test (tree : FileTree) (p : FilePath) (holds : FileNode → Bool) : Except FileFault Bool :=
  match tree.find p with
  | .ok (_, node) => .ok (holds node)
  | .error e => if e.isAbsence then .ok false else .error (.path e p.toText)

/-- the path leads to something -/
def reaches (tree : FileTree) (p : FilePath) : Except FileFault Bool := tree.test p fun _ => true

/-- the path leads to a folder -/
def reachesFolder (tree : FileTree) (p : FilePath) : Except FileFault Bool :=
  tree.test p fun
    | .folder => true
    | _ => false

/-- the path leads to a file -/
def reachesFile (tree : FileTree) (p : FilePath) : Except FileFault Bool :=
  tree.test p fun
    | .file _ => true
    | _ => false

end FileTree

end Transclude
