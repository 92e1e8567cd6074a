/-
The language of a file, found from the extension of its name. An extension that is not in the table is its own language
tag, so that a highlighter can still try it; a file without an extension is plain text.
-/
import Transclude.Text.Lower

namespace Transclude.Language

/-- the language tags of the known extensions -/
def extensionTable : List (String × String) :=
  [("js", "javascript"), ("mjs", "javascript"), ("cjs", "javascript"), ("jsx", "jsx"), ("ts", "typescript"),
   ("tsx", "tsx"), ("py", "python"), ("pyi", "python"), ("rb", "ruby"), ("go", "go"), ("rs", "rust"), ("java", "java"),
   ("kt", "kotlin"), ("kts", "kotlin"), ("scala", "scala"), ("swift", "swift"), ("cs", "csharp"), ("fs", "fsharp"),
   ("cpp", "cpp"), ("cc", "cpp"), ("cxx", "cpp"), ("c", "c"), ("h", "c"), ("hpp", "cpp"), ("m", "objectivec"),
   ("dart", "dart"), ("zig", "zig"), ("nim", "nim"), ("jl", "julia"), ("html", "html"), ("htm", "html"),
   ("css", "css"), ("scss", "scss"), ("sass", "sass"), ("less", "less"), ("vue", "vue"), ("svelte", "svelte"),
   ("json", "json"), ("yaml", "yaml"), ("yml", "yaml"), ("toml", "toml"), ("xml", "xml"), ("ini", "ini"),
   ("cfg", "ini"), ("csv", "text"), ("proto", "protobuf"), ("sh", "bash"), ("bash", "bash"), ("zsh", "bash"),
   ("fish", "fish"), ("ps1", "powershell"), ("bat", "batch"), ("cmd", "batch"), ("sql", "sql"), ("graphql", "graphql"),
   ("gql", "graphql"), ("md", "markdown"), ("markdown", "markdown"), ("rst", "rst"), ("tex", "latex"),
   ("dockerfile", "dockerfile"), ("makefile", "makefile"), ("mk", "makefile"), ("cmake", "cmake"), ("lua", "lua"),
   ("r", "r"), ("php", "php"), ("pl", "perl"), ("ex", "elixir"), ("exs", "elixir"), ("erl", "erlang"),
   ("clj", "clojure"), ("hs", "haskell"), ("ml", "ocaml"), ("vim", "vim"), ("tf", "hcl"), ("hcl", "hcl"),
   ("nix", "nix"), ("diff", "diff"), ("patch", "diff")]

/-- the extension of a path's last segment in lower case; empty without a dot, or when the dot is the last character -/
def extension (path : Text) : Text :=
  let name := ((Text.splitLast? '/' path).map (·.2)).getD path
  match Text.splitLast? '.' name with
  | some (_, ext) => Text.lower ext
  | none => []

/-- the language tag of an extension -/
def ofExtension (ext : Text) : Text :=
  match extensionTable.find? fun e => e.1.toList == ext with
  | some e => e.2.toList
  | none => if ext = [] then "text".toList else ext

/-- the language tag of a file -/
def ofPath (path : Text) : Text := ofExtension (extension path)

/-- the display names of the grammars for the languages of known extensions, by each of their tags; highlighting libraries can
have more of them -/
def grammarTable : List (String × String) :=
  [("bash", "Bash"), ("sh", "Bash"), ("ksh", "Bash"), ("zsh", "Bash"), ("shell", "Bash"), ("openrc", "Bash"),
   ("batch", "Batchfile"), ("bat", "Batchfile"), ("dosbatch", "Batchfile"), ("winbatch", "Batchfile"), ("c", "C"),
   ("clojure", "Clojure"), ("clj", "Clojure"), ("cmake", "CMake"), ("cpp", "C++"), ("c++", "C++"), ("csharp", "C#"),
   ("c#", "C#"), ("cs", "C#"), ("css", "CSS"), ("dart", "Dart"), ("diff", "Diff"), ("udiff", "Diff"),
   ("dockerfile", "Docker"), ("docker", "Docker"), ("elixir", "Elixir"), ("ex", "Elixir"), ("exs", "Elixir"),
   ("erlang", "Erlang"), ("fish", "Fish"), ("fishshell", "Fish"), ("fsharp", "F#"), ("f#", "F#"), ("go", "Go"),
   ("golang", "Go"), ("graphql", "GraphQL"), ("haskell", "Haskell"), ("hs", "Haskell"), ("hcl", "Terraform"),
   ("terraform", "Terraform"), ("tf", "Terraform"), ("html", "HTML"), ("ini", "INI"), ("cfg", "INI"),
   ("dosini", "INI"), ("java", "Java"), ("javascript", "JavaScript"), ("js", "JavaScript"), ("json", "JSON"),
   ("json-object", "JSON"), ("jsx", "JSX"), ("react", "JSX"), ("julia", "Julia"), ("jl", "Julia"),
   ("kotlin", "Kotlin"), ("latex", "TeX"), ("tex", "TeX"), ("less", "LessCss"), ("lua", "Lua"),
   ("makefile", "Makefile"), ("make", "Makefile"), ("mf", "Makefile"), ("bsdmake", "Makefile"),
   ("markdown", "Markdown"), ("md", "Markdown"), ("nim", "Nimrod"), ("nimrod", "Nimrod"), ("nix", "Nix"),
   ("nixos", "Nix"), ("objectivec", "Objective-C"), ("objective-c", "Objective-C"), ("obj-c", "Objective-C"),
   ("objc", "Objective-C"), ("ocaml", "OCaml"), ("perl", "Perl"), ("pl", "Perl"), ("php", "PHP"), ("php3", "PHP"),
   ("php4", "PHP"), ("php5", "PHP"), ("powershell", "PowerShell"), ("pwsh", "PowerShell"), ("posh", "PowerShell"),
   ("ps1", "PowerShell"), ("psm1", "PowerShell"), ("protobuf", "Protocol Buffer"), ("proto", "Protocol Buffer"),
   ("python", "Python"), ("py", "Python"), ("sage", "Python"), ("python3", "Python"), ("py3", "Python"),
   ("bazel", "Python"), ("starlark", "Python"), ("pyi", "Python"), ("r", "S"), ("s", "S"), ("splus", "S"),
   ("rst", "reStructuredText"), ("rest", "reStructuredText"), ("restructuredtext", "reStructuredText"),
   ("ruby", "Ruby"), ("rb", "Ruby"), ("duby", "Ruby"), ("rust", "Rust"), ("rs", "Rust"), ("sass", "Sass"),
   ("scala", "Scala"), ("scss", "SCSS"), ("sql", "SQL"), ("swift", "Swift"), ("text", "Text only"), ("toml", "TOML"),
   ("tsx", "TSX"), ("typescript", "TypeScript"), ("ts", "TypeScript"), ("vim", "VimL"), ("vue", "Vue"), ("xml", "XML"),
   ("yaml", "YAML"), ("zig", "Zig")]

/-- the display name of the grammar for a language tag, in which case does not matter -/
def grammar? (tag : Text) : Option Text :=
  let tag := Text.lower tag
  (grammarTable.find? fun e => e.1.toList == tag).map (·.2.toList)

/-- the display name of the grammar that a language tag is shown with: plain text when there is none for it -/
def grammarName (tag : Text) : Text := (grammar? tag).getD "Text only".toList

end Transclude.Language
