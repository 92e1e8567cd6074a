/-
Paths inside a vault: segments separated by slashes, relative to the vault's root.

`collapse` removes the segments that name no file: empty ones, `.`, and `..` with the segment it takes back; a `..` at the
root is dropped, so that no path climbs above it. `normalize` brings a path into the one form under which the vault knows
it. `resolve` finds the path that a directive means in a document: a path with a leading slash starts at the root, any
other one at the folder of the document.
-/
import Transclude.Text.Composed

namespace Transclude.VaultPath

/-! ## Segments -/

/-- one more segment on a stack of segments, last segment first -/
def push (stack : List Text) (segment : Text) : List Text :=
  if segment = [] ∨ segment = ['.'] then stack
  else if segment = ['.', '.'] then stack.tail
  else segment :: stack

/-- the segments that remain of a path -/
def collapsed (path : Text) : List Text := ((Text.split '/' path).foldl push []).reverse

/-- the path without segments that name no file -/
def collapse (path : Text) : Text := Text.join ['/'] (collapsed path)

/-- the folder of a document; empty at the root of the vault -/
def folder (document : Text) : Text :=
  match Text.splitLast? '/' document with
  | some (before, _) => before
  | none => []

/-! ## Normal form -/

/-- the slash for a backslash, the space for a space that does not break -/
def plainChar (c : Char) : Char :=
  if c = '\\' then '/' else if c = '\u00a0' ∨ c = '\u202f' then ' ' else c

/-- every run of slashes as a single one -/
def mergeSlashes : Text → Text
  | '/' :: '/' :: rest => mergeSlashes ('/' :: rest)
  | c :: rest => c :: mergeSlashes rest
  | [] => []

/-- the normal form of a path, where `compose` is the normal form of its characters; the root is a single slash -/
def normalizeWith (compose : Text → Text) (path : Text) : Text :=
  match compose (Text.trim (· == '/') (mergeSlashes (path.map plainChar))) with
  | [] => ['/']
  | normal => normal

/-- the normal form of a path -/
def normalize (path : Text) : Text := normalizeWith Text.composed path

/-! ## Addresses in a document -/

/-- the path that a directive's `target` means in a document, with `normal` as the normal form of paths -/
def resolve (normal : Text → Text) (target document : Text) : Text :=
  match target with
  | '/' :: rest => normal rest
  | _ =>
    let dir := folder document
    normal (collapse (if dir = [] then target else dir ++ '/' :: target))

end Transclude.VaultPath
