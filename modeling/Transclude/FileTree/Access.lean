/-
Reading and changing a tree of files by paths. A change that fails leaves what it had done so far.
-/
import Transclude.FileTree.Basic

namespace Transclude.FileTree

/-! ## Reading -/

/-- the text of the file that a path leads to -/
def readText (tree : FileTree) (encoding : Encoding) (p : FilePath) : Except FileFault Text := do
  match ← (tree.find p).mapError fun e => FileFault.path e p.toText with
  | (_, .file content) =>
    let octets ← content.mapError .medium
    (encoding.readText octets).mapError (.undecodable encoding)
  | _ => throw (.path .isFolder p.toText)

/-! ## Writing -/

/-- the tree with a text in the file that a path leads to; the file is made if there is none -/
def writeText (tree : FileTree) (p : FilePath) (content : Text) : Except FileFault FileTree := do
  let loc ← (tree.locate p).mapError fun e => FileFault.path e p.toText
  if tree.hasFolder loc then throw (.path .isFolder p.toText)
  else return tree.put loc (.file (.ok (Encoding.encodeText content)))

/-- the tree with a folder at the end of a path whose other parts are there -/
def makeFolder (tree : FileTree) (p : FilePath) : Except PathError FileTree := do
  match refusal? p, p.parts.getLast? with
  | some e, _ => throw e
  | none, none => throw .exists
  | none, some name =>
    let loc ← tree.locate p.parent
    match tree.node? loc with
    | none => throw .missing
    | some .folder =>
      if maxNameOctets < octets name then throw .nameTooLong
      else if name = ['.', '.'] ∨ (tree.node? (loc ++ [name])).isSome then throw .exists
      else return tree.put (loc ++ [name]) .folder
    | some _ => throw .notFolder

/-- what a failed attempt to make a folder comes to: it is none where the folder is there already -/
def folderFault? (tree : FileTree) (p : FilePath) (e : PathError) : Option FileFault :=
  match e, tree.reachesFolder p with
  | .missing, _ | .zeroCharacter, _ => some (.path e p.toText)
  | _, .ok true => none
  | _, _ => some (.path e p.toText)

/-- the tree with folders for all parts of a path, and what stopped it if something did -/
def makeFolders (tree : FileTree) (p : FilePath) : FileTree × Option FileFault :=
  match tree.makeFolder p with
  | .ok tree => (tree, none)
  | .error .missing =>
    if _h : p.parts = [] then (tree, some (.path .missing p.toText))
    else match makeFolders tree p.parent with
      | (tree, some fault) => (tree, some fault)
      | (tree, none) =>
        match tree.makeFolder p with
        | .ok tree => (tree, none)
        | .error e => (tree, tree.folderFault? p e)
  | .error e => (tree, tree.folderFault? p e)
termination_by p.parts.length
decreasing_by exact FilePath.length_parts_parent_lt _h

end Transclude.FileTree
