/-
What a command line asks for: two places and some options, read off its words from left to right.

Words that nothing is made of are kept, and a command line with such words is misused. A separator belongs to the place
before it or to the first place behind it; it is such a word itself where no place is to be had.
-/
import Transclude.CommandLine.Flag

namespace Transclude.CommandLine

/-- what a command line asks for; a place that is written as nothing but dashes has no name -/
structure Request where
  places : List (Option Text) := []
  pattern : Text
  hideFileName : Bool := false
  wrapCode : Bool := false
  style : Option Text := none
  verbosity : Int := 1
  /-- words that nothing is made of -/
  left : List Text := []
deriving DecidableEq, Repr

/-- why a command line is not read to its end -/
inductive Interruption where
  | help
  | version
  | misuse (m : Misuse)
deriving DecidableEq, Repr

namespace Request

/-- the names of the places in order -/
def placeNames : List Text := ["inputdir".toList, "outputdir".toList]

/-- there are places to come -/
def wantsPlace (r : Request) : Bool := r.places.length < placeNames.length

/-- takes a word as a place if there are places to come; two dashes are a name only where a separator stands before them -/
def addPlace (r : Request) (separated : Bool) (t : Text) : Request :=
  if r.wantsPlace then
    { r with places := r.places ++ [if t = ['-', '-'] ∧ separated = false then none else some t] }
  else { r with left := r.left ++ [t] }

/-- sets an option; two dashes are no value -/
def addValue (r : Request) (f : Flag) (value : Text) : Request :=
  let value := if value = ['-', '-'] then [] else value
  match f with
  | .pattern => { r with pattern := value }
  | .style => { r with style := some value }
  | _ => r

/-- does what an option without a value asks for -/
def apply (r : Request) : Flag → Except Interruption Request
  | .help => .error .help
  | .version => .error .version
  | .hideFileName => .ok { r with hideFileName := true }
  | .wrapCode => .ok { r with wrapCode := true }
  | .verbosity => .ok { r with verbosity := r.verbosity + 1 }
  | .pattern | .style | .inputMeta | .outputMeta => .ok r

/-- the options that an option without a value stands for together with the letters behind it -/
def cluster (f : Flag) : Text → Except Misuse (List Flag)
  | [] => .ok [f]
  | c :: letters =>
    match Flag.ofName? ['-', c] with
    | some g => (cluster g letters).map (f :: ·)
    | none => .error (.unwantedValue f (c :: letters))

/-- the options that a word for an option without a value stands for -/
def flagsOf (f : Flag) (short : Bool) : Option Text → Except Misuse (List Flag)
  | none => .ok [f]
  | some rest => if short ∧ rest ≠ [] then cluster f rest else .error (.unwantedValue f rest)

/-- reads the words of a command line; `behind` where the word before the first one was taken as a place -/
def read (r : Request) (behind : Bool) : List Word → Except Interruption Request
  | [] => .ok r
  | .place t :: rest => (r.addPlace false t).read r.wantsPlace rest
  | .unknown t :: rest => { r with left := r.left ++ [t] }.read false rest
  | .separator :: .place t :: rest =>
    if behind then r.read false (.place t :: rest)
    else if r.wantsPlace then (r.addPlace true t).read true rest
    else { r with left := r.left ++ [['-', '-']] }.read false (.place t :: rest)
  | .separator :: rest =>
    if behind then r.read false rest else { r with left := r.left ++ [['-', '-']] }.read false rest
  | .flag f short value :: rest =>
    match f.takesValue, value with
    | true, some value => (r.addValue f value).read false rest
    | true, none =>
      match rest with
      | .place t :: rest => (r.addValue f t).read false rest
      | _ => .error (.misuse (.expectedValue f))
    | false, _ => do
      let flags ← (flagsOf f short value).mapError .misuse
      let r ← flags.foldlM apply r
      r.read false rest
termination_by words => words.length

/-- what a command line asks for, where this pattern stands for none -/
def ofArguments (pattern : Text) (arguments : List Text) : Except Interruption Request := do
  let words ← (words arguments).mapError .misuse
  let r ← ({ pattern } : Request).read false words
  if r.wantsPlace then throw (.misuse (.missingPlaces (placeNames.drop r.places.length)))
  else if r.left ≠ [] then throw (.misuse (.unrecognized r.left))
  else return r

end Request

end Transclude.CommandLine
