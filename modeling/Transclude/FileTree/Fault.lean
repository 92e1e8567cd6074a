/-
What can go wrong with files, and the wording of it.
-/
import Transclude.Encoding

namespace Transclude

/-- why a path does not lead to what is asked for -/
inductive PathError where
  | missing
  | exists
  | notFolder
  | isFolder
  | nameTooLong
  | tooManyLinks
  /-- a path cannot hold the character with code point zero -/
  | zeroCharacter
deriving DecidableEq, Repr

namespace PathError

/-- the number and the name of an error of the host; a path that cannot even be asked for has none -/
def numbered? : PathError → Option (Int × Text)
  | .missing => some (2, "No such file or directory".toList)
  | .exists => some (17, "File exists".toList)
  | .notFolder => some (20, "Not a directory".toList)
  | .isFolder => some (21, "Is a directory".toList)
  | .nameTooLong => some (36, "File name too long".toList)
  | .tooManyLinks => some (40, "Too many levels of symbolic links".toList)
  | .zeroCharacter => none

/-- a path with such an error counts as a path to nothing; a name that is too long is a fault by itself -/
def isAbsence : PathError → Bool
  | .nameTooLong => false
  | _ => true

end PathError

/-- a fault of the medium: a number if it has one, and an explanation -/
structure MediumFault where
  number? : Option Int := none
  reason : Text
deriving DecidableEq, Repr

namespace MediumFault

/-- a fault with its number -/
def message (f : MediumFault) : Text :=
  match f.number? with
  | none => f.reason
  | some n => "[Errno ".toList ++ Numeral.print n ++ "] ".toList ++ f.reason

/-- the explanation by itself, or the whole message where there is none -/
def cause (f : MediumFault) : Text := if f.reason = [] then f.message else f.reason

end MediumFault

/-- what can go wrong with a file -/
inductive FileFault where
  | path (error : PathError) (place : Text)
  | medium (fault : MediumFault)
  | undecodable (encoding : Encoding) (error : DecodingError)
  /-- a link leads back to itself -/
  | linkLoop (place : Text)
  /-- a vault has a file that cannot be read -/
  | unreadable (place : Text) (fault : MediumFault)
  /-- a vault has a file that is no text -/
  | notText (place : Text) (encoding : Encoding) (reason : DecodingReason)
deriving DecidableEq, Repr

/-- the explanation that goes with a fault -/
def FileFault.message : FileFault → Text
  | .path error place =>
    match error.numbered? with
    | some (number, reason) => MediumFault.message { number? := some number, reason } ++ ": ".toList ++ Text.quoted place
    | none => "embedded null byte".toList
  | .medium fault => fault.message
  | .undecodable encoding error => error.message encoding
  | .linkLoop place => "Symlink loop from ".toList ++ Text.quoted place
  | .unreadable place fault => "cannot read '".toList ++ place ++ "': ".toList ++ fault.cause
  | .notText place encoding reason =>
    '\'' :: place ++ "' is not valid ".toList ++ encoding.name ++ " text: ".toList ++ reason.message

end Transclude
