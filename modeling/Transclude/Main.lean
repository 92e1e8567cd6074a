/-
The program: takes the folders that a command line names into a tree of files, runs the command line on the tree, and writes
back what has changed. All that is decided is decided in `CommandLine.run`.
-/
import Transclude.CommandLine

namespace Transclude.Program

/-- the written path of a location -/
def written (loc : Location) : String := String.ofList (FileTree.pathTo loc).toText

/-- the parts of a written path -/
def locationOf (path : String) : Location := FilePath.partsOf path.toList

/-! ## Reading the host -/

/-- the tree with what the host has at a location, and with everything below it where `deep` -/
partial def load (deep : Bool) (tree : FileTree) (loc : Location) : IO FileTree := do
  let here := (← IO.currentDir) / written loc
  if (tree.node? loc).isSome && !(deep && tree.hasFolder loc) then return tree
  let kind : Option IO.FS.FileType ← try (fun d => some d.type) <$> here.symlinkMetadata catch _ => pure none
  match kind with
  | none => return tree
  | some .symlink =>
    let target ← try some <$> IO.FS.realPath here catch _ => pure none
    match target with
    | none => return tree
    | some target =>
      let place := locationOf target.toString
      let tree := tree.plant loc (.link (written place).toList)
      if (tree.node? place).isSome then return tree else load deep tree place
  | some .dir =>
    let tree := tree.plant loc .folder
    if !deep then return tree
    let mut tree := tree
    for entry in ← here.readDir do
      tree ← load true tree (loc ++ [entry.fileName.toList])
    return tree
  | some _ =>
    let content ← try (fun octets => Except.ok octets.toList) <$> IO.FS.readBinFile here
      catch e => pure (.error { reason := (toString e).toList })
    return tree.plant loc (.file content)

/-- the tree with everything on the way to a path and below it -/
def loadPath (tree : FileTree) (path : FilePath) : IO FileTree := do
  let loc := tree.start path ++ path.parts
  let mut tree := tree
  for n in List.range loc.length do
    tree ← load (n + 1 == loc.length) tree (loc.take (n + 1))
  return tree

/-- the variables of the environment that are settings -/
def environment : IO (List (Text × Text)) := do
  let mut found := []
  for key in Settings.Key.all do
    for name in [key.variableName, key.variableName.map Char.toUpper] do
      if let some value ← IO.getEnv (String.ofList name) then
        found := found ++ [(name, value.toList)]
  return found

/-- the settings, from the environment and from a file of variables in the working folder -/
def settings : IO (Except Settings.LoadError Settings) := do
  let file ← try some <$> IO.FS.readFile ".env" catch _ => pure none
  return Settings.load [] (← environment) (file.map String.toList)

/-! ## Writing to the host -/

/-- makes the folders and writes the files that are not the same before and after -/
def store (before after : FileTree) : IO Unit := do
  for (loc, node) in after.nodes do
    match node, before.node? loc with
    | .folder, none => IO.FS.createDirAll (written loc)
    | .file (.ok octets), some (.file (.ok old)) =>
      if octets != old then IO.FS.writeBinFile (written loc) ⟨octets.toArray⟩
    | .file (.ok octets), _ => IO.FS.writeBinFile (written loc) ⟨octets.toArray⟩
    | _, _ => pure ()

/-- a record as a line -/
def line (r : LogRecord) : String :=
  (match r.level with
    | .debug => "DEBUG   │ "
    | .warning => "WARNING │ ") ++ String.ofList r.message

/-- what is wrong with the settings, line by line -/
def complaints : Settings.LoadError → List Text
  | .malformed key source => [Settings.malformedMessage key source]
  | .invalid problems => problems.map fun p => p.name ++ ": ".toList ++ p.kind.message

/-- one run of the program -/
def run (arguments : List Text) : IO UInt32 := do
  match ← settings with
  | .error e =>
    for text in complaints e do IO.eprintln (String.ofList text)
    return 1
  | .ok s =>
    let working := locationOf (← IO.currentDir).toString
    let places := match CommandLine.Request.ofArguments s.documentPattern arguments with
      | .ok r => r.places.filterMap id
      | .error _ => []
    let mut tree : FileTree := { workingFolder := working }
    tree ← loadPath tree { slashes := 1, parts := working }
    for place in places do
      tree ← loadPath tree (FilePath.ofText place)
    let (ending, world) := CommandLine.run s s.documentPattern arguments tree
    store tree world.tree
    for r in world.records do IO.eprintln (line r)
    IO.print (String.ofList ending.output)
    IO.eprint (String.ofList ending.errors)
    return (ending.status?.getD 1).toUInt32

end Transclude.Program

def main (arguments : List String) : IO UInt32 :=
  Transclude.Program.run (arguments.map String.toList)
