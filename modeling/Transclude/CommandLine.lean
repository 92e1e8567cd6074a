/-
The command line: reads what is asked for, makes sure of the two folders and goes through the stages of a run.

The output folder is made before the input folder is looked for, so it is there even where the input folder is not.
-/
import Transclude.CommandLine.Request
import Transclude.Stage

namespace Transclude.CommandLine

/-- the name of the program -/
def programName : Text := "codeimport".toList

/-- the version of the program -/
def version : Text := "1.0.0".toList

/-- the summary of the options -/
def usage : Text :=
  "usage: ".toList ++ programName ++ (" [-h] [--pattern PATTERN] [--noFileName] [--wrapCode] [--style STYLE] [-v] [-V]\n" ++
    "                  inputdir outputdir\n").toList

/-- how a run ends -/
inductive Ending where
  | finished
  | help
  | version
  | misused (m : Misuse)
  | halted (h : Halt)
deriving DecidableEq, Repr

namespace Ending

/-- the status that the program exits with; a halt that no stage expects has none -/
def status? : Ending → Option Nat
  | .finished | .help | .version => some 0
  | .misused _ => some 2
  | .halted (.complaint _) => some 1
  | .halted _ => none

/-- what the program prints -/
def output : Ending → Text
  | .help => usage
  | .version => programName ++ [' '] ++ CommandLine.version ++ ['\n']
  | _ => []

/-- what the program prints where errors go -/
def errors : Ending → Text
  | .misused m => programName ++ ": error: ".toList ++ m.message ++ ['\n']
  | .halted h => h.message ++ ['\n']
  | _ => []

end Ending

/-! ## Runs -/

/-- the path of a place -/
def pathOf : Option Text → Session FilePath
  | some t => return FilePath.ofText t
  | none => throw (.unset .nameFolder)

/-- makes the output folder, unless there is something else in its place -/
def openOutput (p : FilePath) : Session Unit := do
  if ← Session.look fun tree => tree.reaches p then
    unless ← Session.look fun tree => tree.reachesFolder p do
      throw (.complaint (.notFolder p))
  Session.makeFolders p

/-- makes sure of the input folder -/
def openInput (p : FilePath) : Session Unit := do
  unless ← Session.look fun tree => tree.reachesFolder p do
    throw (.complaint (.notFolder p))

/-- the state that a run starts from -/
def stateOf (r : Request) (input output : FilePath) : RunState where
  inputFolder := some input
  outputFolder := some output
  verbosity := r.verbosity
  pattern := r.pattern
  hideFileName := r.hideFileName
  wrapCode := r.wrapCode
  style := r.style

/-- does what is asked for -/
def perform (h : Highlighter) (settings : Settings) (r : Request) : Session Unit := do
  let input ← pathOf (r.places[0]?.getD none)
  let output ← pathOf (r.places[1]?.getD none)
  openOutput output
  openInput input
  let _ ← Stage.runAll h settings (stateOf r input output) Stage.all

/-- a whole run: how it ends, and what it leaves; `pattern` selects the documents where the command line has no pattern -/
def run (settings : Settings) (pattern : Text) (arguments : List Text) (tree : FileTree) (h : Highlighter := .uncoloured) :
    Ending × World :=
  match Request.ofArguments pattern arguments with
  | .error .help => (.help, { tree })
  | .error .version => (.version, { tree })
  | .error (.misuse m) => (.misused m, { tree })
  | .ok r =>
    match (perform h settings r).start tree with
    | (.ok _, world) => (.finished, world)
    | (.error halt, world) => (.halted halt, world)

end Transclude.CommandLine
