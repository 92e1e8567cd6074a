/-
The settings of a run, and where they come from: given values, the environment, and a file of variables, in this order of
precedence. Names count without case; variables have the name of the setting behind `namePrefix`.

Every source is read as a whole before anything is checked, so a list that is not written in the JSON notation is an error
even where another source has precedence. After that only the value with precedence is checked for each setting.
-/
import Transclude.Block
import Transclude.Settings.EnvironmentFile
import Transclude.Settings.Value
import Transclude.Text.Lower

namespace Transclude

/-- the settings of a run -/
structure Settings where
  showFileName : Bool := true
  wrapCode : Bool := false
  /-- the style of rendered code -/
  style : Text := "default".toList
  /-- elements whose text is never searched for directives -/
  verbatimTags : List Text := ["code".toList, "pre".toList]
  /-- what a text must hold to be searched for directives -/
  importToken : Text := "@import".toList
  /-- which documents are rendered -/
  documentPattern : Text := "**/*.html".toList
deriving DecidableEq, Repr

namespace Settings

/-- the name of a setting -/
inductive Key where
  | showFileName
  | wrapCode
  | style
  | verbatimTags
  | importToken
  | documentPattern
deriving DecidableEq, Repr

/-- all settings in order -/
def Key.all : List Key := [.showFileName, .wrapCode, .style, .verbatimTags, .importToken, .documentPattern]

/-- the name that a setting is given by -/
def Key.name : Key → Text
  | .showFileName => "show_file_name".toList
  | .wrapCode => "wrap_code".toList
  | .style => "pygments_style".toList
  | .verbatimTags => "verbatim_tags".toList
  | .importToken => "import_token".toList
  | .documentPattern => "document_pattern".toList

/-- what the names of variables have in front, in lower case -/
def namePrefix : Text := "codeimport_".toList

/-- the variable of a setting, in lower case -/
def Key.variableName (key : Key) : Text := namePrefix ++ key.name

/-! ## Errors -/

/-- what is wrong with a value -/
inductive ProblemKind where
  | notTruth
  | unreadableTruth
  | notText
  | illFormedText
  | notList
  | notPermitted
deriving DecidableEq, Repr

/-- what is wrong with the setting of a name, or with an item of it -/
structure Problem where
  name : Text
  item : Option Nat := none
  kind : ProblemKind
deriving DecidableEq, Repr

/-- the explanation that goes with a problem -/
def ProblemKind.message : ProblemKind → Text
  | .notTruth => "Input should be a valid boolean".toList
  | .unreadableTruth => "Input should be a valid boolean, unable to interpret input".toList
  | .notText => "Input should be a valid string".toList
  | .illFormedText => "Input should be a valid string, unable to parse raw data as a unicode string".toList
  | .notList => "Input should be a valid list".toList
  | .notPermitted => "Extra inputs are not permitted".toList

/-- the sources that have texts only -/
inductive Source where
  | environment
  | file
deriving DecidableEq, Repr

/-- why there are no settings -/
inductive LoadError where
  /-- the text for a list is not in the JSON notation -/
  | malformed (key : Key) (source : Source)
  | invalid (problems : List Problem)
deriving DecidableEq, Repr

/-- the name of a source in messages -/
def Source.name : Source → Text
  | .environment => "EnvSettingsSource".toList
  | .file => "DotEnvSettingsSource".toList

/-- the explanation that goes with a setting that is not in the JSON notation -/
def malformedMessage (key : Key) (source : Source) : Text :=
  "error parsing value for field \"".toList ++ key.name ++ "\" from source \"".toList ++ source.name ++ ['"']

/-! ## Sources -/

/-- the value that a variable has for a setting; lists are in the JSON notation, where a null stands for no value -/
def ofVariable (source : Source) (table : EnvironmentFile.Variables) (key : Key) : Except LoadError (Option SettingValue) :=
  match (table.find? fun v => v.1 == key.variableName).bind (·.2) with
  | none => .ok none
  | some content =>
    if key = .verbatimTags then
      match SettingValue.ofJson? content with
      | none => .error (.malformed key source)
      | some .null => .ok none
      | some value => .ok (some value)
    else .ok (some (.text content))

/-- variables by their names in lower case; of several with one name the last one counts -/
def lowered (table : EnvironmentFile.Variables) : EnvironmentFile.Variables :=
  table.foldl (fun known v => EnvironmentFile.assign known (Text.lower v.1) v.2) []

/-- the given value for a setting; of several with one name the first one counts -/
def givenValue? (given : List (Text × SettingValue)) (key : Key) : Option SettingValue :=
  (given.find? fun g => Text.lower g.1 == key.name).map (·.2)

/-- given names that are no settings -/
def extraGiven (given : List (Text × SettingValue)) : List Text :=
  (given.map (·.1)).filter fun name => !(Key.all.any fun key => key.name == Text.lower name)

/-- variables of a file that belong to nothing; those without a value, and settings without their prefix, are passed over -/
def extraVariables (table : EnvironmentFile.Variables) : List Text :=
  table.filterMap fun (name, value) =>
    if value.getD [] = [] ∨ Key.all.any (fun key => key.variableName == name || key.name == name) then none
    else some name

/-! ## Checking -/

/-- words for yes and for no -/
def truthWords : List (String × Bool) :=
  [("1", true), ("on", true), ("t", true), ("true", true), ("y", true), ("yes", true),
   ("0", false), ("off", false), ("f", false), ("false", false), ("n", false), ("no", false)]

/-- a value that is true or false; a number of more than 64 bits does not even look like one -/
def truth : SettingValue → Except ProblemKind Bool
  | .truth b => .ok b
  | .number (some 1) => .ok true
  | .number (some 0) => .ok false
  | .number (some n) => .error (if -9223372036854775808 ≤ n ∧ n < 9223372036854775808 then .unreadableTruth else .notTruth)
  | .text t =>
    match truthWords.find? fun w => w.1.toList == t.map Char.toLower with
    | some w => .ok w.2
    | none => .error .unreadableTruth
  | .illFormedText => .error .unreadableTruth
  | _ => .error .notTruth

/-- a value that is a text -/
def content : SettingValue → Except ProblemKind Text
  | .text t => .ok t
  | .illFormedText => .error .illFormedText
  | _ => .error .notText

/-- a value for a setting, checked -/
def checked {α : Type} (key : Key) (check : SettingValue → Except ProblemKind α) (fallback : α) :
    Option SettingValue → α × List Problem
  | none => (fallback, [])
  | some value =>
    match check value with
    | .ok a => (a, [])
    | .error kind => (fallback, [{ name := key.name, kind }])

/-- a value for a setting that is a list of texts, checked item by item -/
def checkedList (key : Key) (fallback : List Text) : Option SettingValue → List Text × List Problem
  | none => (fallback, [])
  | some (.list items) =>
    (items.filterMap fun item => (content item).toOption,
     (items.zipIdx.filterMap fun (item, i) =>
       match content item with
       | .ok _ => none
       | .error kind => some { name := key.name, item := some i, kind }))
  | some _ => (fallback, [{ name := key.name, kind := .notList }])

/-- the settings with a value for each name that has one, and names that belong to nothing -/
def ofValues (value? : Key → Option SettingValue) (extra : List Text) : Except LoadError Settings :=
  let base : Settings := {}
  let (showFileName, p₁) := checked .showFileName truth base.showFileName (value? .showFileName)
  let (wrapCode, p₂) := checked .wrapCode truth base.wrapCode (value? .wrapCode)
  let (style, p₃) := checked .style content base.style (value? .style)
  let (verbatimTags, p₄) := checkedList .verbatimTags base.verbatimTags (value? .verbatimTags)
  let (importToken, p₅) := checked .importToken content base.importToken (value? .importToken)
  let (documentPattern, p₆) := checked .documentPattern content base.documentPattern (value? .documentPattern)
  match p₁ ++ p₂ ++ p₃ ++ p₄ ++ p₅ ++ p₆ ++ extra.map fun name => { name, kind := .notPermitted } with
  | [] => .ok { showFileName, wrapCode, style, verbatimTags, importToken, documentPattern }
  | problems => .error (.invalid problems)

/-- the settings from given values, the environment, and the content of a file of variables if there is one -/
def load (given : List (Text × SettingValue)) (environment : List (Text × Text)) (file : Option Text) :
    Except LoadError Settings := do
  let outer := lowered (environment.map fun v => (v.1, some v.2))
  let inner := lowered (match file with
    | some content => EnvironmentFile.read environment content
    | none => [])
  let fromEnvironment ← Key.all.mapM fun key => (ofVariable .environment outer key).map fun v => (key, v)
  let fromFile ← Key.all.mapM fun key => (ofVariable .file inner key).map fun v => (key, v)
  let valueIn := fun (values : List (Key × Option SettingValue)) key => (values.find? fun v => v.1 == key).bind (·.2)
  ofValues (fun key => givenValue? given key <|> valueIn fromEnvironment key <|> valueIn fromFile key)
    (extraVariables inner ++ extraGiven given).eraseDups

/-! ## Presentation -/

/-- how blocks are presented by these settings -/
def presentation (s : Settings) : Presentation := { showFileName := s.showFileName, wrapCode := s.wrapCode }

/-- an option of the presentation that there is not -/
structure UnknownOption where
  name : Text
deriving DecidableEq, Repr

/-- named options with some of them replaced -/
def override {V : Type} (options : List (Text × V)) (replacements : List (Text × V)) : Except UnknownOption (List (Text × V)) :=
  match replacements.find? fun r => !(options.any fun o => o.1 == r.1) with
  | some r => .error ⟨r.1⟩
  | none => .ok (options.map fun o => (o.1, ((replacements.find? fun r => r.1 == o.1).map (·.2)).getD o.2))

end Settings

end Transclude
