/-
Real locations: what a path means once its links are followed, whether or not there is anything at the end of it.

Each part is taken in turn. A link is replaced by its own real location, double dots take back a part of what is already
real, and any other part is added. A link that leads back to itself ends this: what is left of the path is then added as
written, and a link that the host cannot follow either is an error.
-/
import Transclude.FileTree.Basic
import Transclude.VaultPath

namespace Transclude.FileTree

/-- how far the links of a path could be followed -/
inductive Resolution where
  | complete (loc : Location)
  /-- a link at this location leads back to itself; the parts behind it are left -/
  | looping (loc : Location) (rest : List Text)
deriving DecidableEq, Repr

/-- follows some parts from a real location; `fresh` are the links that are not being followed already -/
def resolveFrom (tree : FileTree) (fresh : List Location) (loc : Location) : List Text → Resolution
  | [] => .complete loc
  | name :: rest =>
    if name = [] ∨ name = ['.'] then resolveFrom tree fresh loc rest
    else if name = ['.', '.'] then resolveFrom tree fresh loc.dropLast rest
    else match tree.node? (loc ++ [name]) with
      | some (.link target) =>
        if loc ++ [name] ∈ fresh then
          match resolveFrom tree (fresh.erase (loc ++ [name])) (linkBase loc target) (Text.split '/' target) with
          | .complete real => resolveFrom tree fresh real rest
          | .looping stuck left => .looping stuck (left ++ rest)
        else .looping (loc ++ [name]) rest
      | _ => resolveFrom tree fresh (loc ++ [name]) rest
termination_by parts => (fresh.length, parts.length)
decreasing_by
  · decreasing_tactic
  · decreasing_tactic
  · rename_i h
    have := List.length_erase_of_mem h
    have := List.length_pos_of_mem h
    exact Prod.Lex.left _ _ (by omega)
  · decreasing_tactic
  · decreasing_tactic

/-- the path from the root to a location -/
def pathTo (loc : Location) : FilePath := { slashes := 1, parts := loc }

/-- the real location of a path -/
def resolve (tree : FileTree) (p : FilePath) : Except FileFault Location :=
  if p.parts.any fun part => part.contains '\x00' then .error (.path .zeroCharacter p.toText)
  else match tree.resolveFrom tree.links (tree.start p) p.parts with
    | .complete loc => .ok loc
    | .looping loc rest =>
      let loc := ((loc ++ rest).foldl VaultPath.push []).reverse
      match tree.find (pathTo loc) with
      | .error .tooManyLinks => .error (.linkLoop (pathTo loc).toText)
      | _ => .ok loc

end Transclude.FileTree
