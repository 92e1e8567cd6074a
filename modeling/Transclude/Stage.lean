/-
The stages of a run. `check` makes sure of the folders and of the style, `find` lists the documents that the pattern selects,
`render` renders them side by side, and `summarize` says what came of it. A stage takes the state of the run and gives the
next one, and a run goes through its stages in order until one halts.

What depends on a highlighting library is done with the one that a stage is given.

The jobs of the documents go on side by side and share nothing but the tree: `renderAll` takes the order in which they get
their turns. The reports are put together in the order of the documents, whichever job is through first.
-/
import Transclude.RunState
import Transclude.Session

namespace Transclude

/-- a stage of a run -/
inductive Stage where
  | check
  | find
  | render
  | summarize
deriving DecidableEq, Repr

namespace Stage

/-! ## Rendering documents -/

/-- the style of a run: its own one if it names one -/
def chosenStyle (settings : Settings) (state : RunState) : Text :=
  match state.style with
  | some (c :: name) => c :: name
  | _ => settings.style

/-- how the blocks of a run are presented -/
def presentation (settings : Settings) (state : RunState) : Presentation where
  showFileName := settings.showFileName && !state.hideFileName
  wrapCode := settings.wrapCode || state.wrapCode

/-- what the passes of a run work with -/
def resolver (h : Highlighter) (settings : Settings) (state : RunState) : Resolver where
  normal := VaultPath.normalize
  render := h.render (chosenStyle settings state) (presentation settings state).wrapCode state.verbosity
  presentation := presentation settings state
  verbosity := state.verbosity
  escaping := h.escaping

/-- the job for a document below an input folder -/
def job (input output document : FilePath) : DocumentJob where
  source := input.join document
  target := output.join document
  path := document.toText

/-- does jobs side by side; `order` says which of them get the first turns -/
def renderAll (settings : Settings) (r : Resolver) (vault : Vault) (order : List Nat) (jobs : List DocumentJob)
    (tree : FileTree) : Dialogue.Run FileTree Event (Except JobFault (List Report)) :=
  Dialogue.runTogether (DocumentJob.serve vault r.verbosity) order tree (jobs.map fun job => job.run settings r)

/-- the halt for a job that failed; faults of the tree are complaints, others are not expected -/
def haltOf : JobFault → Halt
  | .stopped s => .stopped s
  | .file (.linkLoop place) => .fault (.linkLoop place)
  | .file (.path .zeroCharacter place) => .fault (.path .zeroCharacter place)
  | .file fault => .complaint (.unrendered fault)

/-- a folder that is needed -/
def folder (use : FolderUse) : Option FilePath → Session FilePath
  | some p => return p
  | none => throw (.unset use)

/-- the jobs for the documents of a run -/
def jobs (state : RunState) (input : FilePath) : Session (List DocumentJob) := do
  if state.documents.isEmpty then return []
  let output ← folder .placeResults state.outputFolder
  return state.documents.map (job input output)

/-- renders the documents of a run side by side; `order` says which of them get the first turns -/
def renderInOrder (h : Highlighter) (order : List Nat) (settings : Settings) (state : RunState) : Session RunState := do
  Session.log state.verbosity 1 "Rendering documents...".toList
  let input ← folder .openVault state.inputFolder
  let vault ← Session.look fun tree => Vault.at? tree input .utf8
  let jobs ← jobs state input
  match ← Session.answer (renderAll settings (resolver h settings state) vault order jobs) with
  | .error e => throw (haltOf e)
  | .ok reports =>
    return { state with report := some (reports.foldl Report.merge {}), written := jobs.map DocumentJob.target }

/-- renders the documents of a run; every document is read before the first one is written -/
def renderDocuments (h : Highlighter) (settings : Settings) (state : RunState) : Session RunState :=
  renderInOrder h (List.range state.documents.length) settings state

/-! ## The other stages -/

/-- makes sure of the input folder and of the style, and makes the output folder -/
def checkEnvironment (h : Highlighter) (settings : Settings) (state : RunState) : Session RunState := do
  let log := Session.log state.verbosity 2
  log "Checking environment...".toList
  let some input := state.inputFolder | throw (.complaint (.noInputFolder none))
  unless ← Session.look fun tree => tree.reachesFolder input do
    throw (.complaint (.noInputFolder (some input)))
  let style := chosenStyle settings state
  match h.background style with
  | .error _ => throw (.complaint (.unknownStyle style))
  | .ok _ =>
    log ("Highlight style: ".toList ++ style)
    let output ← folder .makeOutput state.outputFolder
    Session.makeFolders output
    log ("Vault root: ".toList ++ input.toText)
    log ("Output directory: ".toList ++ output.toText)
    return { state with style := some style, checked := true }

/-- lists the documents that the pattern selects -/
def findDocuments (state : RunState) : Session RunState := do
  let input ← folder .searchInput state.inputFolder
  match Glob.parts state.pattern with
  | .error e => throw (.pattern e)
  | .ok parts =>
    let documents ← Session.look fun tree => Glob.files tree input parts
    Session.log state.verbosity 1 ("Found ".toList ++ Numeral.print documents.length ++ " documents matching '".toList ++
      state.pattern ++ ['\''])
    return { state with documents }

/-- says what came of a run -/
def reportResults (state : RunState) : Session RunState := do
  match state.report with
  | none => throw (.complaint .nothingRendered)
  | some report =>
    let log := Session.log state.verbosity
    log 1 ("\n✓ Rendered ".toList ++ Numeral.print state.written.length ++ " documents".toList)
    log 1 ("  Code blocks: ".toList ++ Numeral.print report.blocks)
    log 1 ("  Import errors: ".toList ++ Numeral.print report.errors)
    for failure in report.failures do
      log 2 ("    ".toList ++ failure)
    return state

/-! ## Stages in a row -/

/-- one stage -/
def run (settings : Settings) (state : RunState) (stage : Stage) (h : Highlighter := .uncoloured) : Session RunState :=
  match stage with
  | .check => checkEnvironment h settings state
  | .find => findDocuments state
  | .render => renderDocuments h settings state
  | .summarize => reportResults state

/-- the stages of a whole run -/
def all : List Stage := [.check, .find, .render, .summarize]

/-- stages in a row -/
def runAll (h : Highlighter) (settings : Settings) (state : RunState) (stages : List Stage) : Session RunState :=
  stages.foldlM (fun state stage => run settings state stage h) state

end Stage

end Transclude
