/-
Patterns of paths, and the paths below a folder that they select. Each part of a pattern is a name, a pattern of names, or
a double star for a folder and all folders below it. A pattern with a slash at its end selects folders only.

A plain name and a pattern of names may go through a link to a folder, a double star does not.
-/
import Transclude.FileTree.Basic
import Transclude.Glob.NamePattern

namespace Transclude.Glob

/-- a part of a pattern -/
inductive Part where
  | name (text : Text)
  | names (pieces : List Piece)
  | folders
  /-- what the part before leads to must be a folder -/
  | stop
deriving DecidableEq, Repr

/-- why a text is no pattern of paths -/
inductive PatternError where
  | empty
  | absolute
  /-- a part with more than a double star -/
  | doubleStar
  /-- a pattern of dots says nothing about names, whether or not it asks for a folder -/
  | noParts (folder : Bool)
deriving DecidableEq, Repr

/-- the explanation that goes with a pattern error -/
def PatternError.message : PatternError → Text
  | .empty => "Unacceptable pattern: ''".toList
  | .absolute => "Non-relative patterns are unsupported".toList
  | .doubleStar => "Invalid pattern: '**' can only be an entire path component".toList
  | .noParts _ => "Unacceptable pattern: it names nothing".toList

/-- the part that a text is -/
def part (t : Text) : Except PatternError Part :=
  if t = ['*', '*'] then .ok .folders
  else if Text.occurs ['*', '*'] t then .error .doubleStar
  else if t.any fun c => c == '*' || c == '?' || c == '[' then .ok (.names (pieces t))
  else .ok (.name t)

/-- the parts of a pattern -/
def parts (pattern : Text) : Except PatternError (List Part) := do
  if pattern = [] then throw .empty
  let p := FilePath.ofText pattern
  if p.slashes ≠ 0 then throw .absolute
  let folder := pattern.getLast? = some '/'
  if p.parts = [] then throw (.noParts folder)
  let parts ← p.parts.mapM part
  return if folder then parts ++ [.stop] else parts

/-- the paths that some parts select from a path on -/
def select (tree : FileTree) (base : FilePath) : List Part → (at_ : List Text) → Except FileFault (List (List Text))
  | [], at_ => .ok [at_]
  | .stop :: _, at_ => .ok [at_]
  | .name name :: rest, at_ => do
    let p := base.join { parts := at_ ++ [name] }
    let found ← if rest.isEmpty then tree.reaches p else tree.reachesFolder p
    if found then select tree base rest (at_ ++ [name]) else return []
  | .names pieces :: rest, at_ => do
    match tree.locate (base.join { parts := at_ }) with
    | .error _ => return []
    | .ok loc =>
      let found ← ((tree.names loc).filter (accepts pieces)).mapM fun name => do
        let inside ← if rest.isEmpty then pure true else tree.reachesFolder (base.join { parts := at_ ++ [name] })
        if inside then select tree base rest (at_ ++ [name]) else return []
      return found.flatten
  | .folders :: rest, at_ => do
    match tree.locate (base.join { parts := at_ }) with
    | .error _ => return []
    | .ok loc =>
      let found ← ([] :: tree.foldersBelow loc).mapM fun below => select tree base rest (at_ ++ below)
      return found.flatten.eraseDups

/-- the files below a folder that a pattern selects, in the order of their paths -/
def files (tree : FileTree) (base : FilePath) (parts : List Part) : Except FileFault (List FilePath) := do
  if ← tree.reachesFolder base then
    let selected ← select tree base parts []
    let found ← selected.filterM fun at_ => tree.reachesFile (base.join { parts := at_ })
    return (found.map fun parts => { parts : FilePath }).mergeSort FilePath.le
  else return []

end Transclude.Glob
