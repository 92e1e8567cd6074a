/-
Sessions: what a run does to a tree of files and tells on the way, until it is through or halts.

A halt is either a complaint, which is what the user is told when the run cannot go on, or something that no stage expects.
A session that halts keeps the tree and the records that it had come to.
-/
import Transclude.DocumentJob
import Transclude.Glob.Select

namespace Transclude

/-! ## Halts -/

/-- what the user is told when a run cannot go on -/
inductive Complaint where
  | noInputFolder (p : Option FilePath)
  | unknownStyle (name : Text)
  | unrendered (fault : FileFault)
  | nothingRendered
  /-- a place on the command line is no folder -/
  | notFolder (p : FilePath)
deriving DecidableEq, Repr

/-- a complaint in words -/
def Complaint.message : Complaint → Text
  | .noInputFolder p => "Error: Input directory not found: ".toList ++ (p.map FilePath.toText).getD "None".toList
  | .unknownStyle name => "Error: Unknown Pygments style: ".toList ++ name
  | .unrendered fault => "Error rendering documents: ".toList ++ fault.message
  | .nothingRendered => "Error: Rendering failed".toList
  | .notFolder p => "Not a directory: ".toList ++ p.toText

/-- what a folder is needed for -/
inductive FolderUse where
  /-- the output folder is to be made -/
  | makeOutput
  /-- the input folder is to be searched -/
  | searchInput
  /-- the input folder is to be a vault -/
  | openVault
  /-- the results are to be put below the output folder -/
  | placeResults
  /-- a place on the command line is nothing but dashes -/
  | nameFolder
deriving DecidableEq, Repr

/-- why a session ends early -/
inductive Halt where
  | complaint (c : Complaint)
  | fault (f : FileFault)
  | stopped (s : Stop)
  | pattern (e : Glob.PatternError)
  /-- a folder is not known -/
  | unset (use : FolderUse)
deriving DecidableEq, Repr

/-- a halt in words -/
def Halt.message : Halt → Text
  | .complaint c => c.message
  | .fault f => f.message
  | .stopped s => s.message
  | .pattern e => e.message
  | .unset .makeOutput | .unset .placeResults => "the output folder is not known".toList
  | .unset .searchInput | .unset .openVault => "the input folder is not known".toList
  | .unset .nameFolder => "a folder has no name".toList

/-! ## Sessions -/

/-- what a session works on -/
structure World where
  tree : FileTree
  records : List LogRecord := []

/-- a computation that changes a tree of files, emits records, and may halt -/
abbrev Session := ExceptT Halt (StateM World)

namespace Session

/-- runs a session from a tree on -/
def start {α : Type} (tree : FileTree) (s : Session α) : Except Halt α × World := (ExceptT.run s).run { tree }

/-- emits a record if the verbosity reaches its threshold -/
def log (verbosity threshold : Int) (message : Text) : Session Unit :=
  modify fun w => { w with records := w.records ++ Log.debug verbosity threshold message }

/-- an answer about the tree -/
def look {α : Type} (question : FileTree → Except FileFault α) : Session α := do
  match question (← get).tree with
  | .ok a => return a
  | .error f => throw (.fault f)

/-- makes folders for all parts of a path -/
def makeFolders (p : FilePath) : Session Unit := do
  let (tree, fault) := (← get).tree.makeFolders p
  modify fun w => { w with tree }
  match fault with
  | some f => throw (.fault f)
  | none => return

/-- the records among what a pass tells -/
def recordsOf (events : List Event) : List LogRecord :=
  events.filterMap fun
    | .record r => some r
    | _ => none

/-- lets a tree answer dialogues, and takes over what came of it -/
def answer {α : Type} (talk : FileTree → Dialogue.Run FileTree Event α) : Session α := do
  let r := talk (← get).tree
  modify fun w => { tree := r.state, records := w.records ++ recordsOf r.events }
  return r.result

end Session

end Transclude
