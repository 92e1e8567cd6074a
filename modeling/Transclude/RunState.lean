/-
The state of a run: what the run was asked to do, and what its stages have found out and done so far. Each stage takes a
state and gives the next one.
-/
import Transclude.FilePath
import Transclude.Segment

namespace Transclude

/-- the state of a run -/
structure RunState where
  inputFolder : Option FilePath := none
  outputFolder : Option FilePath := none
  verbosity : Int := 1
  /-- which documents below the input folder are rendered -/
  pattern : Text := "**/*.html".toList
  hideFileName : Bool := false
  wrapCode : Bool := false
  style : Option Text := none
  /-- the folders and the style were found to be good -/
  checked : Bool := false
  /-- the documents, relative to the input folder -/
  documents : List FilePath := []
  /-- the files that were written -/
  written : List FilePath := []
  report : Option Report := none
deriving DecidableEq, Repr

end Transclude
