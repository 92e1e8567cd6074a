/-
Jobs. A job renders one document: it reads the document, makes a pass over it, makes the folder that the result goes to and
writes the result there. A job stops where one of these fails, and the pass asks for its own files as it goes on.

`serve` is the host of jobs: a tree of files with a vault in it. Jobs share nothing but the host.
-/
import Transclude.Dialogue.Turns
import Transclude.FileTree.Access
import Transclude.Pass
import Transclude.Settings
import Transclude.Vault

namespace Transclude

/-- what a job asks for -/
inductive FileRequest where
  | readDocument (p : FilePath)
  | readVault (path : Text)
  | makeFolders (p : FilePath)
  | writeDocument (p : FilePath) (content : Text)
deriving DecidableEq, Repr

/-- what is said to a request: a text if one was asked for and is there, or why it cannot be done -/
abbrev FileReply := Except FileFault (Option Text)

/-- why a job ends without a result -/
inductive JobFault where
  | file (fault : FileFault)
  | stopped (stop : Stop)
deriving DecidableEq, Repr

/-- the rendering of one document -/
structure DocumentJob where
  source : FilePath
  target : FilePath
  /-- the path of the document in the vault -/
  path : Text
deriving DecidableEq, Repr

namespace DocumentJob

/-- a job on its way -/
abbrev Progress := Dialogue FileRequest FileReply Event

/-! ## The host -/

/-- a pass takes a fault as the explanation of it -/
def passAnswer (reply : FileReply) : FileAnswer := reply.mapError FileFault.message

/-- does what a job asks for in a tree of files -/
def serve (vault : Vault) (verbosity : Int) (tree : FileTree) : FileRequest → Dialogue.Run FileTree Event FileReply
  | .readDocument p => ⟨tree, [], (tree.readText .utf8 p).map some⟩
  | .readVault path =>
    match vault.read tree path with
    | .ok none => ⟨tree, (Vault.absenceRecords verbosity path).map Event.record, .ok none⟩
    | reply => ⟨tree, [], reply⟩
  | .makeFolders p =>
    match tree.makeFolders p with
    | (tree, none) => ⟨tree, [], .ok none⟩
    | (tree, some fault) => ⟨tree, [], .error fault⟩
  | .writeDocument p content =>
    match tree.writeText p content with
    | .ok tree => ⟨tree, [], .ok none⟩
    | .error fault => ⟨tree, [], .error fault⟩

/-! ## The job -/

/-- goes on with the reply to a request, unless it cannot be done -/
def demand {α : Type} (request : FileRequest) (next : Option Text → Progress (Except JobFault α)) :
    Progress (Except JobFault α) := do
  match ← Dialogue.request request with
  | .error fault => return .error (.file fault)
  | .ok content => next content

/-- writes a rendered document -/
def deliver (job : DocumentJob) (verbosity : Int) (document : Document) (report : Report) :
    Progress (Except JobFault Report) :=
  demand (.makeFolders job.target.parent) fun _ =>
    demand (.writeDocument job.target document.print) fun _ => do
      Dialogue.tellAll ((Log.debug verbosity 1 (job.path ++ ": ".toList ++ Numeral.print report.blocks ++ " blocks, ".toList ++
        Numeral.print report.errors ++ " errors".toList)).map Event.record)
      return .ok report

/-- the pass of a job over its document -/
def render (job : DocumentJob) (r : Resolver) (document : Document) : Progress (Resolver.Outcome Document) :=
  (r.process Document.region job.path document).mapRequests .readVault passAnswer

/-- the whole job -/
def run (job : DocumentJob) (settings : Settings) (r : Resolver) : Progress (Except JobFault Report) :=
  demand (.readDocument job.source) fun content =>
    match Document.ofMarkup (content.getD []) settings.verbatimTags settings.importToken with
    | .error e => return .error (.stopped (.refused (.markup e)))
    | .ok document => do
      let outcome ← job.render r document
      match outcome.stop with
      | some stop => return .error (.stopped stop)
      | none => job.deliver r.verbosity outcome.tree outcome.report

end DocumentJob

end Transclude
