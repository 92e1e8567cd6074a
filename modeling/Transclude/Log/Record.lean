/-
Log records. A record has a threshold, and it is emitted when the verbosity of the connected state reaches it; without a
connected state the verbosity is zero. Warnings have the threshold one.
-/
import Transclude.Text.Basic

namespace Transclude

/-- how serious a record is -/
inductive LogLevel where
  | debug
  | warning
deriving DecidableEq, Repr

/-- an emitted record -/
structure LogRecord where
  level : LogLevel
  message : Text
deriving DecidableEq, Repr

namespace Log

/-- the verbosity that a warning needs -/
def warningThreshold : Int := 1

/-- a debug record, if the verbosity reaches its threshold -/
def debug (verbosity threshold : Int) (message : Text) : List LogRecord :=
  if threshold ≤ verbosity then [⟨.debug, message⟩] else []

/-- a warning, if the verbosity reaches the threshold of warnings -/
def warning (verbosity : Int) (message : Text) : List LogRecord :=
  if warningThreshold ≤ verbosity then [⟨.warning, message⟩] else []

end Log

end Transclude
