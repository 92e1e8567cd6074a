/-
A vault: the plain files below one folder of a tree, addressed by paths that start at that folder.

A path is located by its real location, with all links followed. A path whose real location is outside of the folder
names nothing, and neither does a path to a folder or to nothing. A file that is there but cannot be read, or is no text,
is a fault.
-/
import Transclude.FileTree.Resolve
import Transclude.Log.Record

namespace Transclude

/-- a folder of a tree, and the encoding of the files in it -/
structure Vault where
  root : Location
  encoding : Encoding := .utf8
deriving DecidableEq, Repr

namespace Vault

/-- the vault at a path -/
def at? (tree : FileTree) (p : FilePath) (encoding : Encoding) : Except FileFault Vault :=
  (tree.resolve p).map fun root => { root, encoding }

/-- the path on the host that a path in the vault stands for -/
def hostPath (v : Vault) (path : Text) : FilePath :=
  { slashes := 1, parts := v.root ++ FilePath.partsOf (Text.trimLeft (· == '/') path) }

/-- the real location of a path in the vault, if it is not outside of the vault -/
def locate (v : Vault) (tree : FileTree) (path : Text) : Except FileFault (Option Location) :=
  (tree.resolve (v.hostPath path)).map fun loc => if v.root.isPrefixOf loc then some loc else none

/-- the content of the file at a location, if there is a file -/
def contentAt (tree : FileTree) (loc : Location) : Except FileFault (Option (Except MediumFault (List UInt8))) :=
  let p := FileTree.pathTo loc
  match tree.find p with
  | .ok (_, .file content) => .ok (some content)
  | .ok _ => .ok none
  | .error e => if e.isAbsence then .ok none else .error (.path e p.toText)

/-- the text of the file at a path in the vault, if there is a file -/
def read (v : Vault) (tree : FileTree) (path : Text) : Except FileFault (Option Text) := do
  match ← v.locate tree path with
  | none => return none
  | some loc =>
    match ← contentAt tree loc with
    | none => return none
    | some content =>
      let octets ← content.mapError (.unreadable path)
      let text ← (v.encoding.readText octets).mapError fun e => FileFault.notText path v.encoding e.reason
      return some text

/-- the record that there is no file at a path -/
def absenceRecords (verbosity : Int) (path : Text) : List LogRecord :=
  Log.debug verbosity 3 ("Vault has no plain file at '".toList ++ path ++ ['\''])

end Vault

end Transclude
